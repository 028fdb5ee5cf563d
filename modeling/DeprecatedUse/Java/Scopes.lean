import DeprecatedUse.Java.Declaration

/-!
This module contains the local names that are bound at a place in a body, block inside block.
-/

namespace DeprecatedUse.Java

/--
The bindings of one block, the latest first. A binding without a type still hides outer names.
-/
abbrev Scopes.Frame := List (String × Option TypeName)

/--
The blocks around a place, the innermost apart. So there is always at least one.
-/
structure Scopes where
  innermost : Scopes.Frame := []
  outer : List Scopes.Frame := []
deriving Repr, Inhabited

namespace Scopes

def push (s : Scopes) : Scopes :=
  ⟨[], s.innermost :: s.outer⟩

def pop (s : Scopes) : Scopes :=
  match s.outer with
  | [] => s
  | frame :: outer => ⟨frame, outer⟩

def declare (s : Scopes) (name : String) (type : Option TypeName) : Scopes :=
  { s with innermost := (name, type) :: s.innermost }

def declareAll (s : Scopes) (bindings : List (String × Option TypeName)) : Scopes :=
  bindings.foldl (fun s (name, type) => s.declare name type) s

def lookup? (s : Scopes) (name : String) : Option (Option TypeName) :=
  (s.innermost :: s.outer).findSome? fun frame => frame.lookup name

def depth (s : Scopes) : Nat :=
  s.outer.length + 1

@[simp]
theorem depth_push (s : Scopes) : s.push.depth = s.depth + 1 := rfl

@[simp]
theorem pop_push (s : Scopes) : s.push.pop = s := rfl

@[simp]
theorem depth_declare (s : Scopes) (name : String) (type : Option TypeName) :
    (s.declare name type).depth = s.depth := rfl

theorem depth_pop (s : Scopes) : s.pop.depth = max 1 (s.depth - 1) := by
  cases s with
  | mk innermost outer => cases outer <;> simp [pop, depth]

end Scopes

end DeprecatedUse.Java
