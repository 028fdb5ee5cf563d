import DeprecatedUse.Java.SourceUnit
import DeprecatedUse.Proofs.Java.Cursor.Lexer
import DeprecatedUse.Proofs.Java.Cursor.Receivers
import DeprecatedUse.Proofs.Java.Cursor.Types

/-!
This module contains the search of a body for uses of members as a run over the array of tokens by
position. The types of a unit are looked up by checked places, from a type to its supertypes and to
the types around it; that these searches end is no part of their definitions. Where the types of the
unit enclose each other in order, the run ends without a fault and finds the uses that the search of
token lists finds. So the reading of a whole text is total: whatever the text, the run ends without
a fault, and it ends with the source unit, or the error, of the text.
-/

namespace DeprecatedUse.Java.Cursor

section Definitions

def supertypePlaces (types : List TypeDecl) (type : TypeDecl) : List Nat :=
  type.supertypes.filterMap fun ref =>
    types.findIdx? fun t => ref.candidates.contains t.qualifiedName

def inheritedField (env : Surroundings) (name : String) (visited queue : List Nat) :
    Run (Option (Option TypeRef)) :=
  match queue with
  | [] => pure none
  | place :: queue =>
    if visited.contains place then
      by apply inheritedField; exacts [env, name, visited, queue]
    else do
      let type ← get env.types place
      match type.member? name .field with
      | some field =>
        pure (some (match field.kind with
          | .enumConstant => some (.qualified type.qualifiedName)
          | _ => field.type.bind env.names.reference?))
      | none =>
        by
          apply inheritedField
          exacts [env, name, place :: visited, queue ++ supertypePlaces env.types type]
partial_fixpoint

def field (env : Surroundings) (name : String) (place : Nat) : Run (Option (Option TypeRef)) := do
  match ← inheritedField env name [] [place] with
  | some found => pure (some found)
  | none => do
    let type ← get env.types place
    match type.outer with
    | none => pure none
    | some outer => by apply field; exacts [env, name, outer]
partial_fixpoint

def isVariable (env : Surroundings) (s : Access.State) (name : String) : Run Bool :=
  if (s.scopes.lookup? name).isSome then
    pure true
  else do
    let found ← field env name env.owner
    pure found.isSome

def receiverType (env : Surroundings) (s : Access.State) : Receiver → Run (Option TypeRef)
  | .name name =>
    match s.scopes.lookup? name with
    | some type => pure (type.bind env.names.reference?)
    | none => do
      match ← field env name env.owner with
      | some type => pure (if s.anonymous.isEmpty then type else none)
      | none => pure (if env.names.isTypeName name then some (env.names.resolve name) else none)
  | .qualified names => do
    let hidden ← isVariable env s (names.headD "")
    pure (if hidden then none
      else if startsWith Text.isUppercase (names.getLastD "") then
        some (env.names.resolve (".".intercalate names))
      else none)
  | .self =>
    if s.anonymous.isEmpty then do
      let type ← get env.types env.owner
      pure (some (.qualified type.qualifiedName))
    else
      pure none
  | .parent =>
    if s.anonymous.isEmpty then do
      let type ← get env.types env.owner
      pure type.supertypes.head?
    else
      pure none
  | .ownField name =>
    if s.anonymous.isEmpty then do
      let found ← field env name env.owner
      pure (found.bind id)
    else
      pure none
  | .creation type => pure (some (env.names.resolve type))
  | .other => pure none

variable (tokens : List Token) (start stop : Nat)

def memberPosition (op : Nat) : Run Nat :=
  if tokens[op + 1]?.any (·.isPunct "<") && decide (op + 1 < stop) then do
    let part ← slice tokens 0 stop
    let close ← matchingForward part .angle (op + 1)
    pure (close + 1)
  else
    pure (op + 1)

def within (pos : Nat) (p : Token → Bool) : Run Bool :=
  if pos < stop then do
    let t ← get tokens pos
    pure (p t)
  else
    pure false

def memberAccess (env : Surroundings) (s : Access.State) (op : Nat) : Run (Option Access) :=
  if op = start then
    pure none
  else do
    let named ← memberPosition tokens stop op
    if stop ≤ named then
      pure none
    else do
      let member ← get tokens named
      if member.isIdent && !Access.noMemberWords.contains member.text then do
        let t ← get tokens op
        let called ← within tokens stop (named + 1) (·.isPunct "(")
        let last ← sub op 1
        match ← receiver tokens start last with
        | none => pure none
        | some (receiver, first) => do
          let type ← receiverType env s receiver
          pure (some
            { receiver := receiver
              receiverType := type
              member := member.text
              kind := if t.isPunct "::" || called then .method else .field
              span := ⟨first, member.span.stop⟩ })
      else
        pure none

def useAt (env : Surroundings) (s : Access.State) (t : Token) (pos : Nat) : Run (Option Access) :=
  if t.isPunctOf [".", "::"] then memberAccess tokens start stop env s pos else pure none

def opensClass (pos : Nat) : Run Bool :=
  if start < pos then do
    let last ← sub pos 1
    let new ← creation tokens start last
    pure new.isSome
  else
    pure false

/--
The state with the local variable that is declared at a position, and the position of its name. The
ends of lambdas in the state are positions.
-/
def declareAt (s : Access.State) (pattern : Bool) (pos : Nat) : Run (Access.State × Option Nat) := do
  let part ← slice tokens 0 stop
  match ← declaration part pattern pos with
  | none => pure (s, none)
  | some (type, named) => do
    let name ← get tokens named
    pure ({ s with scopes := s.scopes.declare name.text type }, some named)

def advance (s : Access.State) (t : Token) (pos : Nat) : Run (Access.State × Nat) :=
  if t.isPunct "\x7b" then do
    let scopes := s.scopes.push
    let opens ← opensClass tokens start pos
    pure ({ s with
      scopes := scopes
      anonymous := if opens then scopes.depth :: s.anonymous else s.anonymous }, pos + 1)
  else if t.isPunct "\x7d" then
    let scopes := s.scopes.pop
    pure ({ s with
      scopes := scopes
      anonymous := s.anonymous.dropWhile (scopes.depth < ·) }, pos + 1)
  else if t.isPunct "->" && decide (start < pos) then do
    let bound ← lambdaParameters tokens start pos
    let block ← within tokens stop (pos + 1) (·.isPunct "\x7b")
    let scopes := s.scopes.push.declareAll bound
    if block then
      pure ({ s with scopes := scopes }, pos + 2)
    else do
      let lambdaEnd ← expressionEnd tokens (pos + 1) stop
      pure ({ s with scopes := scopes, lambdaEnds := lambdaEnd :: s.lambdaEnds }, pos + 1)
  else if t.isWord "instanceof" then do
    let (s, _) ← declareAt tokens stop s true (pos + 1)
    pure (s, pos + 1)
  else do
    let starts ← statementStart tokens start pos
    if starts then do
      let (s, named) ← declareAt tokens stop s false pos
      pure (s, named.getD pos + 1)
    else
      pure (s, pos + 1)

def scan (env : Surroundings) (s : Access.State) (pos : Nat) : Run (List Access) :=
  if pos < stop then do
    let s := s.at pos
    let t ← get tokens pos
    let (s, next) ← advance tokens start stop s t pos
    let found ← useAt tokens start stop env s t pos
    let later ← (by apply scan; exacts [env, s, next] : Run (List Access))
    pure (found.toList ++ later)
  else
    pure []
partial_fixpoint

def ofRegion (names : TypeNames) (types : List TypeDecl) (r : Region) : Run (List Access) :=
  let bindings := r.parameters.map fun (name, type) => (name, some type)
  scan tokens r.start r.stop ⟨names, types, r.owner⟩
    { scopes := Scopes.declareAll {} bindings } r.start

end Definitions

/-! Fields. -/

structure Placed (env : Surroundings) : Prop where
  owner : env.owner < env.types.length
  outer : ∀ (place : Nat) (type : TypeDecl) (outer : Nat), env.types[place]? = some type →
    type.outer = some outer → outer < place

theorem ownField?_eq {env : Surroundings} {place : Nat} {type : TypeDecl}
    (h : env.types[place]? = some type) (name : String)
    : env.ownField? name place
        =
      (type.member? name .field).map fun field =>
        match field.kind with
        | .enumConstant => some (.qualified type.qualifiedName)
        | _ => field.type.bind env.names.reference? := by
  unfold Surroundings.ownField?
  rw [h, Option.bind_eq_bind, Option.bind_some]
  cases type.member? name .field with
  | none => rfl
  | some field =>
    obtain ⟨_, kind, _, _, _⟩ := field
    cases kind <;> rfl

theorem supertypePlaces_eq {env : Surroundings} {place : Nat} {type : TypeDecl}
    (h : env.types[place]? = some type)
    : supertypePlaces env.types type = env.supertypes place := by
  unfold Surroundings.supertypes
  rw [h]
  rfl

theorem lt_of_mem_supertypePlaces {types : List TypeDecl} {type : TypeDecl} {place : Nat}
    (h : place ∈ supertypePlaces types type) : place < types.length := by
  obtain ⟨ref, -, hfound⟩ := List.mem_filterMap.1 h
  exact (List.findIdx?_eq_some_iff_getElem.1 hfound).1

theorem inheritedField_eq {env : Surroundings} (name : String) {visited unvisited queue : List Nat}
    (hqueue : ∀ place ∈ queue, place < env.types.length) (hnodup : unvisited.Nodup)
    (hvisited : ∀ place, place ∈ unvisited ↔ place < env.types.length ∧ place ∉ visited)
    : inheritedField env name visited queue
        =
      pure (breadthFirst env.supertypes (env.ownField? name) unvisited queue) := by
  -- The induction is that of the search; what it has not visited is all but `visited`.
  fun_induction breadthFirst env.supertypes (env.ownField? name) unvisited queue
    generalizing visited with
  | case1 => rw [inheritedField]
  | case2 unvisited place queue hmem field hfound =>
    obtain ⟨hlt, hnew⟩ := (hvisited place).1 hmem
    have htype := List.getElem?_eq_getElem hlt
    rw [inheritedField, if_neg (by simpa using hnew), get_eq htype, pure_bind]
    rw [ownField?_eq htype, Option.map_eq_some_iff] at hfound
    obtain ⟨member, hmember, rfl⟩ := hfound
    rw [hmember]
  | case3 unvisited place queue hmem hfound ih =>
    obtain ⟨hlt, hnew⟩ := (hvisited place).1 hmem
    have htype := List.getElem?_eq_getElem hlt
    rw [inheritedField, if_neg (by simpa using hnew), get_eq htype, pure_bind]
    rw [ownField?_eq htype, Option.map_eq_none_iff] at hfound
    rw [hfound]
    dsimp only
    rw [supertypePlaces_eq htype]
    apply ih
    · intro place' hplace'
      rcases List.mem_append.1 hplace' with hplace' | hplace'
      · exact hqueue place' (List.mem_cons_of_mem _ hplace')
      · rw [← supertypePlaces_eq htype] at hplace'
        exact lt_of_mem_supertypePlaces hplace'
    · exact hnodup.erase place
    · intro place'
      rw [hnodup.mem_erase_iff, hvisited, List.mem_cons, not_or]
      tauto
  | case4 unvisited place queue hmem ih =>
    have hlt := hqueue place List.mem_cons_self
    have hold : place ∈ visited := by
      rw [hvisited] at hmem
      by_contra hnew
      exact hmem ⟨hlt, hnew⟩
    rw [inheritedField, if_pos (by simpa using hold)]
    exact ih (fun place' hplace' => hqueue place' (List.mem_cons_of_mem _ hplace')) hnodup hvisited

theorem inheritedField_start {env : Surroundings} (name : String) {place : Nat}
    (h : place < env.types.length)
    : inheritedField env name [] [place] = pure (env.inheritedField? name place) := by
  apply inheritedField_eq
  · intro place' hplace'
    rw [List.mem_singleton] at hplace'
    rw [hplace']
    exact h
  · exact List.nodup_range
  · intro place'
    rw [List.mem_range]
    simp

theorem field_eq {env : Surroundings} (henv : Placed env) (name : String) {place : Nat}
    (h : place < env.types.length)
    : field env name place
        =
      pure ((env.enclosing place).findSome? (env.inheritedField? name)) := by
  induction place using Nat.strongRecOn with | ind place ih
  have htype := List.getElem?_eq_getElem h
  rw [field, inheritedField_start name h, pure_bind, Surroundings.enclosing, htype, Option.bind_some]
  cases hfound : env.inheritedField? name place with
  | some found =>
    dsimp only
    split
    · rw [List.findSome?_cons, hfound]
    · split <;> rw [List.findSome?_cons, hfound]
  | none =>
    dsimp only
    rw [get_eq htype, pure_bind]
    cases houter : env.types[place].outer with
    | none => rw [List.findSome?_singleton, hfound]
    | some outer =>
      have hlt := henv.outer place _ outer htype houter
      dsimp only
      rw [if_pos hlt, List.findSome?_cons, hfound]
      exact ih outer hlt (Nat.lt_trans hlt h)

/-! Types of receivers. -/

theorem receiverType_eq {env : Surroundings} (henv : Placed env) (s : Access.State) (r : Receiver)
    : receiverType env s r = pure (Access.receiverType? env s r) := by
  have hfield := fun name => field_eq henv name henv.owner
  have htype := List.getElem?_eq_getElem henv.owner
  cases r with
  | name name =>
    rw [receiverType, Access.receiverType?]
    cases s.scopes.lookup? name with
    | some type => rfl
    | none =>
      dsimp only
      rw [hfield, pure_bind]
      unfold Surroundings.field?
      cases (env.enclosing env.owner).findSome? (env.inheritedField? name) <;> rfl
  | qualified names =>
    rw [receiverType, isVariable, hfield, pure_bind, Access.receiverType?]
    cases (s.scopes.lookup? (names.headD "")).isSome with
    | true => rfl
    | false => rfl
  | self =>
    rw [receiverType, get_eq htype, pure_bind, Access.receiverType?, htype]
    split <;> rfl
  | parent =>
    rw [receiverType, get_eq htype, pure_bind, Access.receiverType?, htype]
    split <;> rfl
  | ownField name =>
    rw [receiverType, hfield, pure_bind, Access.receiverType?]
    split <;> rfl
  | creation type => rfl
  | other => rfl

/-! Uses. -/

/--
The position lies in a body that ends at `stop`: before it stand the tokens `before` of the body,
nearest first, and `rest` is left.
-/
structure Inside (tokens : List Token) (start stop pos : Nat) (before rest : List Token) : Prop where
  behind : Behind tokens start pos before
  le : stop ≤ tokens.length
  left : (tokens.take stop).drop pos = rest
  stop_eq : pos + rest.length = stop

variable {tokens before rest : List Token} {start stop pos : Nat} {t : Token}

theorem getElem?_of_take (hpos : (tokens.take stop)[pos]? = some t) : tokens[pos]? = some t := by
  rw [List.getElem?_take] at hpos
  split at hpos
  · exact hpos
  · cases hpos

namespace Inside

theorem token (h : Inside tokens start stop pos before (t :: rest)) : tokens[pos]? = some t :=
  getElem?_of_take (getElem?_of_drop_cons h.left)

theorem lt_stop (h : Inside tokens start stop pos before (t :: rest)) : pos < stop := by
  have hstop := h.stop_eq
  rw [List.length_cons] at hstop
  omega

theorem next (h : Inside tokens start stop pos before (t :: rest))
    : Inside tokens start stop (pos + 1) (t :: before) rest := by
  refine ⟨h.behind.succ h.token, h.le, drop_succ h.left, ?_⟩
  have hstop := h.stop_eq
  rw [List.length_cons] at hstop
  omega

theorem skip (h : Inside tokens start stop pos before rest) {n : Nat} (hn : n ≤ rest.length)
    : Inside tokens start stop (pos + n) ((rest.take n).reverse ++ before) (rest.drop n) := by
  induction n generalizing pos before rest with
  | zero => exact h
  | succ n ih =>
    cases rest with
    | nil => cases hn
    | cons t rest =>
      have hskip := ih h.next (Nat.le_of_succ_le_succ hn)
      rw [Nat.add_assoc, Nat.add_comm 1] at hskip
      rw [List.take_succ_cons, List.reverse_cons, List.append_assoc, List.drop_succ_cons]
      exact hskip

theorem slice (h : Inside tokens start stop pos before rest)
    : slice tokens 0 stop = pure (tokens.take stop) := by
  rw [Cursor.slice, if_pos ⟨Nat.zero_le _, h.le⟩, List.drop_zero]

end Inside

theorem within_eq (h : (tokens.take stop).drop pos = rest) (hle : stop ≤ tokens.length)
    (p : Token → Bool) : within tokens stop pos p = pure (Access.starts p rest) := by
  have hlength := congrArg List.length h
  rw [List.length_drop, List.length_take, Nat.min_eq_left hle] at hlength
  rw [within]
  cases rest with
  | nil =>
    rw [List.length_nil] at hlength
    rw [if_neg (by omega)]
    rfl
  | cons t rest =>
    rw [List.length_cons] at hlength
    rw [if_pos (by omega), get_eq (getElem?_of_take (getElem?_of_drop_cons h)), pure_bind]
    rfl

theorem memberPosition_eq (h : Inside tokens start stop pos before (t :: rest))
    : ∃ named, memberPosition tokens stop pos = pure named
        ∧ (tokens.take stop).drop named = (Bracket.angle.group? rest).2 := by
  have hnext := h.next
  -- An angle bracket counts only if it still stands within the slice.
  have hangle : (tokens[pos + 1]?.any (·.isPunct "<") && decide (pos + 1 < stop))
      = Access.starts (·.isPunct "<") rest := by
    cases rest with
    | nil =>
      have hstop := hnext.stop_eq
      rw [List.length_nil] at hstop
      rw [decide_eq_false (by omega), Bool.and_false]
      rfl
    | cons t' rest =>
      rw [hnext.token, decide_eq_true hnext.lt_stop, Bool.and_true, Option.any_some]
      rfl
  rw [memberPosition, hangle]
  cases rest with
  | nil => exact ⟨pos + 1, rfl, hnext.left⟩
  | cons t' rest =>
    rw [Access.starts]
    split
    · next hopening =>
      obtain ⟨close, hrun, -, hclose⟩ := matchingForward_eq (b := .angle) hnext.left hopening
      refine ⟨close + 1, ?_, ?_⟩
      · rw [h.slice, pure_bind, hrun, pure_bind]
      · rw [hclose, group?_opening (b := .angle) hopening]
    · next hopening =>
      refine ⟨pos + 1, rfl, ?_⟩
      rw [hnext.left, group?_other (b := .angle) hopening]

theorem memberAccess_eq {env : Surroundings} (henv : Placed env) (s : Access.State)
    (h : Inside tokens start stop pos before (t :: rest)) (ht : t.isPunctOf [".", "::"] = true)
    : memberAccess tokens start stop env s pos = pure (Access.access? env s before t rest) := by
  obtain ⟨named, hmember, hnamed⟩ := memberPosition_eq h
  have hlength := congrArg List.length hnamed
  rw [List.length_drop, List.length_take, Nat.min_eq_left h.le] at hlength
  have hpos := h.behind.pos_eq
  rw [memberAccess, Access.access?, if_pos ht]
  cases before with
  | nil =>
    -- A dot at the start of the body has no receiver.
    rw [List.length_nil, Nat.add_zero] at hpos
    rw [if_pos hpos]
    cases (Bracket.angle.group? rest).2 with
    | nil => rfl
    | cons member after =>
      dsimp only
      split <;> rfl
  | cons last before =>
    obtain ⟨place, hplace, hlast, hbehind⟩ := h.behind.pred
    rw [List.length_cons] at hpos
    rw [if_neg (by omega), hmember, pure_bind]
    cases hafter : (Bracket.angle.group? rest).2 with
    | nil =>
      rw [hafter, List.length_nil] at hlength
      rw [if_pos (by omega)]
    | cons member after =>
      rw [hafter] at hnamed hlength
      rw [List.length_cons] at hlength
      rw [if_neg (by omega), get_eq (getElem?_of_take (getElem?_of_drop_cons hnamed)), pure_bind]
      dsimp only
      split
      · rw [get_eq h.token, pure_bind, within_eq (drop_succ hnamed) h.le, pure_bind,
          sub_eq (by omega), pure_bind, hplace, Nat.add_sub_cancel, receiver_eq hlast hbehind,
          pure_bind]
        cases Access.receiver? (last :: before) with
        | none => rfl
        | some found =>
          obtain ⟨r, first⟩ := found
          dsimp only
          rw [receiverType_eq henv, pure_bind]
          rfl
      · rfl

/-! The search of a body. -/

def atPositions (stop : Nat) (s : Access.State) : Access.State :=
  { s with lambdaEnds := s.lambdaEnds.map (stop - ·) }

theorem leaveLambdas_map {left left' : Nat} {f : Nat → Nat} (scopes : Scopes) {ends : List Nat}
    (h : ∀ e ∈ ends, f e = left' ↔ e = left)
    : Access.leaveLambdas left' scopes (ends.map f)
        =
      ((Access.leaveLambdas left scopes ends).1, (Access.leaveLambdas left scopes ends).2.map f) := by
  induction ends generalizing scopes with
  | nil => rfl
  | cons e ends ih =>
    have he := h e List.mem_cons_self
    rw [List.map_cons, Access.leaveLambdas, Access.leaveLambdas]
    by_cases heq : e = left
    · rw [if_pos heq, if_pos (he.2 heq)]
      exact ih _ fun e' he' => h e' (List.mem_cons_of_mem _ he')
    · rw [if_neg heq, if_neg (fun heq' => heq (he.1 heq'))]
      rfl

theorem at_positions {left : Nat} (hleft : pos + left = stop) {s : Access.State}
    (hends : ∀ e ∈ s.lambdaEnds, e ≤ stop)
    : (atPositions stop s).at pos = atPositions stop (s.at left) := by
  unfold Access.State.at atPositions
  dsimp only
  rw [leaveLambdas_map]
  intro e he
  have := hends e he
  omega

theorem leaveLambdas_subset {left : Nat} (scopes : Scopes) (ends : List Nat)
    : (Access.leaveLambdas left scopes ends).2 ⊆ ends := by
  induction ends generalizing scopes with
  | nil => exact List.Subset.refl _
  | cons e ends ih =>
    rw [Access.leaveLambdas]
    split
    · exact List.Subset.trans (ih _) (List.subset_cons_self _ _)
    · exact List.Subset.refl _

theorem opensClass_eq (h : Behind tokens start pos before)
    : opensClass tokens start pos = pure (Access.creation? before).isSome := by
  have hpos := h.pos_eq
  rw [opensClass]
  cases before with
  | nil =>
    rw [List.length_nil] at hpos
    rw [if_neg (by omega)]
    rfl
  | cons last before =>
    obtain ⟨place, rfl, hlast, hbehind⟩ := h.pred
    have hcreation := creation_eq hlast hbehind
    rw [List.length_cons] at hpos
    rw [if_pos (by omega), sub_eq (by omega), pure_bind, Nat.add_sub_cancel]
    cases hfound : Access.creation? (last :: before) with
    | none =>
      rw [hfound] at hcreation
      rw [show creation _ _ _ = _ from hcreation, pure_bind]
      rfl
    | some found =>
      rw [hfound] at hcreation
      obtain ⟨new, hrun, -⟩ := hcreation
      rw [hrun, pure_bind]
      rfl

theorem declareAt_eq (s : Access.State) (pattern : Bool)
    (h : Inside tokens start stop pos before rest)
    : match Access.local? pattern rest with
      | none => declareAt tokens stop (atPositions stop s) pattern pos
          = pure (atPositions stop s, none)
      | some v => ∃ named, declareAt tokens stop (atPositions stop s) pattern pos
          = pure (atPositions stop (s.declare v), some named)
          ∧ pos ≤ named ∧ named < stop ∧ named + 1 = pos + v.length := by
  have hdeclares := declaration_eq pattern h.left
  rw [declareAt, h.slice, pure_bind]
  cases hfound : Access.local? pattern rest with
  | none =>
    rw [hfound] at hdeclares
    dsimp only
    rw [show declaration _ _ _ = _ from hdeclares, pure_bind]
  | some v =>
    rw [hfound] at hdeclares
    obtain ⟨named, name, hrun, hname, htext, hle, hlength⟩ := hdeclares
    have hlt := (List.getElem?_eq_some_iff.1 hname).1
    rw [List.length_take, Nat.min_eq_left h.le] at hlt
    refine ⟨named, ?_, hle, hlt, hlength⟩
    rw [hrun, pure_bind]
    dsimp only
    rw [get_eq (getElem?_of_take hname), pure_bind, htext]
    rfl

structure Advances (run : Run (Access.State × Nat)) (stop pos : Nat) (s : Access.State)
    (rest : List Token) (next : Access.State × Nat) : Prop where
  run_eq : run = pure (atPositions stop next.1, pos + 1 + next.2)
  le : next.2 ≤ rest.length
  ends : ∀ e ∈ next.1.lambdaEnds, e ∈ s.lambdaEnds ∨ e ≤ stop

theorem advance_eq (s : Access.State) (h : Inside tokens start stop pos before (t :: rest))
    : Advances (advance tokens start stop (atPositions stop s) t pos) stop pos s rest
        (Access.step s before t rest) := by
  have hnext := h.next
  have hpos := h.behind.pos_eq
  have hstop := h.stop_eq
  rw [List.length_cons] at hstop
  rw [advance, Access.step]
  -- The branches of a step: braces, an arrow, a pattern, the start of a statement, anything else.
  split
  · rw [opensClass_eq h.behind, pure_bind]
    exact ⟨rfl, Nat.zero_le _, fun e he => .inl he⟩
  · split
    · exact ⟨rfl, Nat.zero_le _, fun e he => .inl he⟩
    · have hempty : decide (start < pos) = !before.isEmpty := by
        rw [hpos]
        cases before <;> simp
      rw [hempty]
      split
      · next harrow =>
        cases before with
        | nil =>
          rw [List.isEmpty_nil, Bool.not_true, Bool.and_false] at harrow
          cases harrow
        | cons last before =>
          rw [lambdaParameters_eq h.behind, pure_bind, within_eq hnext.left h.le, pure_bind]
          dsimp only
          split
          · next hblock =>
            refine ⟨rfl, ?_, fun e he => .inl he⟩
            cases rest with
            | nil => cases hblock
            | cons => exact Nat.succ_le_succ (Nat.zero_le _)
          · have hsplit := congrArg List.length (splitExpression_append 0 rest)
            rw [List.length_append] at hsplit
            refine ⟨?_, Nat.zero_le _, ?_⟩
            · have hend : pos + 1 + (splitExpression 0 rest).1.length
                  = stop - (splitExpression 0 rest).2.length := by omega
              rw [expressionEnd, hnext.left, expressionEndFrom_eq hnext.stop_eq, pure_bind, hend]
              rfl
            · intro e he
              rcases List.mem_cons.1 he with rfl | he
              · right
                omega
              · exact .inl he
      · split
        · have hdeclares := declareAt_eq s true hnext
          cases hfound : Access.local? true rest with
          | none =>
            rw [hfound] at hdeclares
            dsimp only at hdeclares
            rw [hdeclares, pure_bind]
            exact ⟨rfl, Nat.zero_le _, fun e he => .inl he⟩
          | some v =>
            rw [hfound] at hdeclares
            obtain ⟨named, hrun, -⟩ := hdeclares
            rw [hrun, pure_bind]
            exact ⟨rfl, Nat.zero_le _, fun e he => .inl he⟩
        · rw [statementStart_eq h.behind, pure_bind]
          split
          · have hdeclares := declareAt_eq s false h
            cases hfound : Access.local? false (t :: rest) with
            | none =>
              rw [hfound] at hdeclares
              dsimp only at hdeclares
              rw [hdeclares, pure_bind]
              exact ⟨rfl, Nat.zero_le _, fun e he => .inl he⟩
            | some v =>
              rw [hfound] at hdeclares
              obtain ⟨named, hrun, hle, hlt, hlength⟩ := hdeclares
              have hbehind : named + 1 = pos + 1 + (v.length - 1) := by omega
              refine ⟨?_, ?_, fun e he => .inl he⟩
              · rw [hrun, pure_bind]
                dsimp only [Option.getD_some]
                rw [hbehind]
              · dsimp only
                omega
          · exact ⟨rfl, Nat.zero_le _, fun e he => .inl he⟩

theorem step_dot (s : Access.State) (before rest : List Token) (ht : t.isPunctOf [".", "::"] = true)
    : Access.step s before t rest = (s, 0) := by
  rw [Token.isPunctOf, Bool.and_eq_true, beq_iff_eq] at ht
  obtain ⟨hkind, htext⟩ := ht
  have hident : t.isIdent = false := by
    rw [Token.isIdent, hkind]
    rfl
  have hword : ∀ word, t.isWord word = false := by
    intro word
    rw [Token.isWord, hkind]
    rfl
  have hpunct : ∀ mark, [".", "::"].contains mark = false → t.isPunct mark = false := by
    intro mark hmark
    rw [Token.isPunct, Bool.and_eq_false_iff]
    right
    rw [beq_eq_false_iff_ne]
    rintro rfl
    rw [htext] at hmark
    cases hmark
  have hlocal : Access.local? false (t :: rest) = none := by
    rw [local?_eq, List.dropWhile_cons_of_neg (by rw [hword]; exact Bool.false_ne_true),
      Access.splitType?, Access.isPlain, hident]
    rfl
  rw [Access.step, hpunct _ (by decide), hpunct _ (by decide), hpunct _ (by decide), hword, hlocal]
  simp

theorem receiverType?_lambdaEnds (env : Surroundings) (s : Access.State) (ends : List Nat)
    (r : Receiver)
    : Access.receiverType? env { s with lambdaEnds := ends } r = Access.receiverType? env s r := by
  cases r <;> rfl

theorem useAt_eq {env : Surroundings} (henv : Placed env) (s : Access.State)
    (h : Inside tokens start stop pos before (t :: rest))
    : useAt tokens start stop env (atPositions stop (Access.step s before t rest).1) t pos
        =
      pure (Access.access? env s before t rest) := by
  rw [useAt]
  split
  · next ht =>
    rw [step_dot s before rest ht, memberAccess_eq henv _ h ht]
    simp only [Access.access?, atPositions, receiverType?_lambdaEnds]
  · next ht => rw [Access.access?, if_neg ht]

theorem scan_eq {env : Surroundings} (henv : Placed env) {s : Access.State}
    (hends : ∀ e ∈ s.lambdaEnds, e ≤ stop) (h : Inside tokens start stop pos before rest)
    : scan tokens start stop env (atPositions stop s) pos = pure (Access.scan env s before rest) := by
  fun_induction Access.scan env s before rest generalizing pos with
  | case1 s before =>
    have hstop := h.stop_eq
    rw [List.length_nil] at hstop
    rw [scan, if_neg (by omega)]
  | case2 s before t rest s' next =>
    rename_i ih
    have hadvance := advance_eq s' h
    have hends' : ∀ e ∈ next.1.lambdaEnds, e ≤ stop := by
      intro e he
      rcases hadvance.ends e he with he | he
      · exact hends e (leaveLambdas_subset _ _ he)
      · exact he
    have hat : (atPositions stop s).at pos = atPositions stop s' := at_positions h.stop_eq hends
    have hskip := h.next.skip hadvance.le
    rw [scan, if_pos h.lt_stop]
    dsimp only
    rw [hat, get_eq h.token, pure_bind, hadvance.run_eq, pure_bind]
    dsimp only
    rw [useAt_eq henv s' h, pure_bind, ih hends' hskip, pure_bind]

theorem ofRegion_eq {names : TypeNames} {types : List TypeDecl} {r : Region}
    (henv : Placed ⟨names, types, r.owner⟩) (hstart : r.start ≤ r.stop)
    (hstop : r.stop ≤ tokens.length)
    : ofRegion tokens names types r = pure (Access.ofBody names types (r.body tokens)) := by
  have hinside : Inside tokens r.start r.stop r.start [] (r.body tokens).tokens := by
    refine ⟨⟨by omega, (tokens.take r.start).reverse, rfl, ?_⟩, hstop, rfl, ?_⟩
    · rw [List.length_reverse, List.length_take, Nat.min_eq_left (by omega)]
    · rw [Region.body, List.length_drop, List.length_take, Nat.min_eq_left hstop]
      omega
  let s : Access.State := { scopes := Scopes.declareAll {} (r.parameters.map fun p => (p.1, some p.2)) }
  have hends : ∀ e ∈ s.lambdaEnds, e ≤ r.stop := by
    intro e he
    cases he
  exact scan_eq henv hends hinside

/-! Whole texts. -/

def ofRegions (tokens : List Token) (names : TypeNames) (types : List TypeDecl) :
    List Region → Run (List Access)
  | [] => pure []
  | r :: rest => do
    let found ← ofRegion tokens names types r
    let later ← ofRegions tokens names types rest
    pure (found ++ later)

def ofTokens (id : UnitId) (text : String) (tokens : List Token) : Run SourceUnit := do
  let s ← declarations tokens {} 0
  let o := s.outline tokens
  let accesses ← ofRegions tokens o.typeNames o.declarations.types s.regions
  pure
    { id := id
      text := text
      declarations := o.declarations
      accesses := SourceUnit.sortAccesses accesses }

def parse (id : UnitId) (text : String) : Run (Except ParseError SourceUnit) := do
  match ← tokenize text with
  | .error e => pure (.error (.lex id e))
  | .ok tokens => do
    let u ← ofTokens id text tokens
    pure (.ok u)

theorem Draft.Valid.placed {s : Draft} (h : s.Valid tokens) {r : Region} (hr : r ∈ s.regions)
    : Placed ⟨(s.outline tokens).typeNames, (s.outline tokens).declarations.types, r.owner⟩ := by
  refine ⟨?_, ?_⟩
  · change r.owner < (s.entries.map _).length
    rw [List.length_map]
    exact (h.regions r hr).1
  · intro place type outer htype houter
    change (s.entries.map _)[place]? = some type at htype
    rw [List.getElem?_map, Option.map_eq_some_iff] at htype
    obtain ⟨e, he, rfl⟩ := htype
    exact h.outer place e outer he houter

theorem ofRegions_eq {names : TypeNames} {types : List TypeDecl} {regions : List Region}
    (henv : ∀ r ∈ regions, Placed ⟨names, types, r.owner⟩)
    (h : ∀ r ∈ regions, r.start ≤ r.stop ∧ r.stop ≤ tokens.length)
    : ofRegions tokens names types regions
        =
      pure ((regions.map (Region.body tokens)).flatMap (Access.ofBody names types)) := by
  induction regions with
  | nil => rfl
  | cons r rest ih =>
    obtain ⟨hstart, hstop⟩ := h r List.mem_cons_self
    rw [ofRegions, ofRegion_eq (henv r List.mem_cons_self) hstart hstop, pure_bind,
      ih (fun r' hr' => henv r' (List.mem_cons_of_mem _ hr'))
        (fun r' hr' => h r' (List.mem_cons_of_mem _ hr')), pure_bind, List.map_cons,
      List.flatMap_cons]

theorem ofTokens_run (id : UnitId) (text : String) (tokens : List Token)
    : ofTokens id text tokens = pure (SourceUnit.ofTokens id text tokens) := by
  obtain ⟨s, hrun, hs, hout⟩ := declarations_outline tokens
  have hregions := ofRegions_eq (fun r hr => hs.placed hr) fun r hr => (hs.regions r hr).2
  rw [ofTokens, hrun, pure_bind]
  dsimp only
  rw [hregions, pure_bind, SourceUnit.ofTokens, ← hout]
  rfl

theorem parse_run (id : UnitId) {text : String} (h : units16 text.toList < UInt32.size)
    : parse id text = pure (SourceUnit.parse id text) := by
  rw [parse, tokenize_run h, pure_bind, SourceUnit.parse]
  cases Java.tokenize text with
  | error e => rfl
  | ok tokens =>
    dsimp only
    rw [ofTokens_run, pure_bind]

/--
Reading is total: for every text whose positions fit into thirty-two bits, the runs that find its
tokens and its source unit end without a fault, with the tokens and the source unit of the text.
-/
theorem parse_total (id : UnitId) (text : String) (h : units16 text.toList < 2 ^ 32 - 2)
    : tokenize text = pure (Java.tokenize text) ∧ parse id text = pure (SourceUnit.parse id text) := by
  have hfits : units16 text.toList < UInt32.size := by
    rw [UInt32.size]
    omega
  exact ⟨tokenize_run hfits, parse_run id hfits⟩

theorem parse_total_unbalanced
    : units16 ") > class A \x7b int f = (x.<y; @ void m(".toList < 2 ^ 32 - 2
      ∧ parse "A" ") > class A \x7b int f = (x.<y; @ void m("
          = pure (SourceUnit.parse "A" ") > class A \x7b int f = (x.<y; @ void m(") :=
  ⟨by decide, (parse_total "A" _ (by decide)).2⟩

end DeprecatedUse.Java.Cursor
