/-!
This module contains positions in a text and spans between them. Lines and columns are counted from
zero, and columns in UTF-16 code units. They are counted without bounds here; that thirty-two bits
hold them is what `Java.Cursor` asks of a text.
-/

namespace DeprecatedUse

structure Position where
  line : Nat := 0
  column : Nat := 0
deriving DecidableEq, Repr, Inhabited

namespace Position

protected def Le (a b : Position) : Prop :=
  a.line < b.line ∨ (a.line = b.line ∧ a.column ≤ b.column)

instance : LE Position := ⟨Position.Le⟩

instance (a b : Position) : Decidable (a ≤ b) :=
  inferInstanceAs (Decidable (a.line < b.line ∨ (a.line = b.line ∧ a.column ≤ b.column)))

theorem le_def {a b : Position} :
    a ≤ b ↔ a.line < b.line ∨ (a.line = b.line ∧ a.column ≤ b.column) :=
  Iff.rfl

theorem le_total (a b : Position) : a ≤ b ∨ b ≤ a := by
  simp only [le_def]
  omega

theorem le_trans {a b c : Position} (h₁ : a ≤ b) (h₂ : b ≤ c) : a ≤ c := by
  simp only [le_def] at *
  omega

def units16 (c : Char) : Nat :=
  if c.toNat < 0x10000 then 1 else 2

def advance (p : Position) (c : Char) : Position :=
  if c = '\n' then ⟨p.line + 1, 0⟩ else ⟨p.line, p.column + units16 c⟩

def advanceAll (p : Position) (cs : List Char) : Position :=
  cs.foldl advance p

theorem advanceAll_append (p : Position) (xs ys : List Char) :
    p.advanceAll (xs ++ ys) = (p.advanceAll xs).advanceAll ys := by
  simp [advanceAll]

/--
A number of a line or column as people count them, from one. Such numbers have thirty-two bits, so
the last of them is followed by zero.
-/
def ordinal (n : Nat) : Nat :=
  (n + 1) % UInt32.size

def render (p : Position) : String :=
  toString (ordinal p.line) ++ ":" ++ toString (ordinal p.column)

end Position

structure Span where
  start : Position := {}
  stop : Position := {}
deriving DecidableEq, Repr, Inhabited

def Span.cover (a b : Span) : Span where
  start := if a.start ≤ b.start then a.start else b.start
  stop := if a.stop ≤ b.stop then b.stop else a.stop

end DeprecatedUse
