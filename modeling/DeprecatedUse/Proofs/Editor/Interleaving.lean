import DeprecatedUse.Proofs.Editor.View
import Mathlib

/-!
This module contains the handling of several changes of documents at once. A handler goes from one
pause to the next: it writes the text, takes a copy of the document, judges and publishes it, and
marks the document as analysed. In between any other handler may go on. So the mark of a document
can belong to another text than what is shown for it, unless no text is written while a copy is in
hand.
-/

namespace DeprecatedUse.Editor

inductive Edit where
  | opened (uri : Uri) (text : String)
  | changed (uri : Uri) (texts : List String)
deriving DecidableEq, Repr

def Edit.uri : Edit → Uri
  | .opened uri _ => uri
  | .changed uri _ => uri

structure Telling where
  uri : Uri
  text : String
  event : Event

def Telling.unit? (t : Telling) : Option UnitId :=
  match t.event with
  | .publish unit _ => some unit
  | _ => none

inductive Task where
  | write (edit : Edit)
  | take (uri : Uri) (force : Bool)
  | judge (uri : Uri) (text : String)
  | mark (uri : Uri) (current : String)
deriving DecidableEq, Repr

namespace Task

def uri : Task → Uri
  | .write edit => edit.uri
  | .take uri _ => uri
  | .judge uri _ => uri
  | .mark uri _ => uri

def writes : Task → Bool
  | .write _ => true
  | _ => false

def hasCopy : Task → Bool
  | .judge _ _ => true
  | .mark _ _ => true
  | _ => false

structure Progress where
  session : Session
  told : List Telling := []
  next : Option Task := none

def step (s : Session) : Task → Progress
  | .write (.opened uri text) =>
    { session := { s with documents := s.documents.insert uri { text := text } }
      next := some (.take uri true) }
  | .write (.changed uri texts) =>
    match texts.getLast? with
    | none => { session := s }
    | some text => { session := s.setText uri text, next := some (.take uri false) }
  | .take uri force =>
    match s.documents.find? uri with
    | none => { session := s }
    | some d =>
      if !force && d.analyzed == some (fingerprint d.text) then { session := s }
      else { session := s, next := some (.judge uri d.text) }
  | .judge uri text =>
    let (event, shown) := s.judge uri text
    { session := s, told := [⟨uri, text, event⟩]
      next := if shown then some (.mark uri (fingerprint text)) else none }
  | .mark uri current =>
    { session := { s with
        documents := s.documents.modify uri fun d =>
          if fingerprint d.text = current then { d with analyzed := some current } else d } }

end Task

structure Desk where
  session : Session
  tasks : List Task := []
  told : List Telling := []

/--
A change comes in, or the handler at a place goes on to its next pause.
-/
inductive Turn where
  | arrive (edit : Edit)
  | advance (place : Nat)
deriving DecidableEq, Repr

namespace Desk

def task? (desk : Desk) : Turn → Option Task
  | .arrive _ => none
  | .advance place => desk.tasks[place]?

def turn (desk : Desk) : Turn → Desk
  | .arrive edit => { desk with tasks := desk.tasks ++ [.write edit] }
  | .advance place =>
    match desk.tasks[place]? with
    | none => desk
    | some t =>
      let p := t.step desk.session
      { session := p.session
        tasks := desk.tasks.eraseIdx place ++ p.next.toList
        told := desk.told ++ p.told }

def run (desk : Desk) (turns : List Turn) : Desk :=
  turns.foldl turn desk

def last? (desk : Desk) (unit : UnitId) : Option Telling :=
  (desk.told.filter (·.unit? = some unit)).getLast?

/--
If a document is marked as analysed, what is shown for its unit was found in a text with the
fingerprint of the mark.
-/
def Truthful (desk : Desk) (uri : Uri) : Prop :=
  ∀ d current, desk.session.documents.find? uri = some d → d.analyzed = some current →
    ∃ told, desk.last? (unitOf uri) = some told ∧ fingerprint told.text = current
      ∧ told.event = (desk.session.judge told.uri told.text).1

/--
If the turn writes a text for the unit of the document, it writes it into this document, and nobody
has a copy of the document in hand.
-/
def Calm (desk : Desk) (uri : Uri) (turn : Turn) : Prop :=
  ∀ t, t ∈ desk.task? turn → t.writes = true → unitOf t.uri = unitOf uri →
    t.uri = uri ∧ ∀ other, other ∈ desk.tasks → other.uri = uri → other.hasCopy = false

instance (desk : Desk) (uri : Uri) (turn : Turn) : Decidable (desk.Calm uri turn) :=
  inferInstanceAs (Decidable (∀ t, t ∈ desk.task? turn → _))

def Undisturbed (uri : Uri) : Desk → List Turn → Prop
  | _, [] => True
  | desk, turn :: turns => desk.Calm uri turn ∧ Undisturbed uri (desk.turn turn) turns

instance Undisturbed.decide (uri : Uri)
    : (desk : Desk) → (turns : List Turn) → Decidable (Undisturbed uri desk turns)
  | _, [] => .isTrue trivial
  | desk, turn :: turns =>
    have := Undisturbed.decide uri (desk.turn turn) turns
    inferInstanceAs (Decidable (desk.Calm uri turn ∧ _))

theorem turn_cases (desk : Desk) (turn : Turn)
    : desk.turn turn = desk
        ∨ (∃ edit, desk.turn turn = { desk with tasks := desk.tasks ++ [.write edit] })
        ∨ ∃ t others, t ∈ desk.task? turn ∧ desk.tasks.Perm (t :: others)
          ∧ desk.turn turn
            = { session := (t.step desk.session).session
                tasks := others ++ (t.step desk.session).next.toList
                told := desk.told ++ (t.step desk.session).told } := by
  cases turn with
  | arrive edit => exact .inr (.inl ⟨edit, rfl⟩)
  | advance place =>
    rw [Desk.turn, task?]
    cases htask : desk.tasks[place]? with
    | none => exact .inl rfl
    | some t =>
      obtain ⟨hlt, hget⟩ := List.getElem?_eq_some_iff.1 htask
      refine .inr (.inr ⟨t, desk.tasks.eraseIdx place, rfl, ?_, rfl⟩)
      rw [← hget]
      exact (List.getElem_cons_eraseIdx_perm hlt).symm

end Desk

/-! What a single step does. -/

namespace Session

theorem judge_congr {s s' : Session} (hproject : s'.project = s.project)
    (hindex : s'.index = s.index) (uri : Uri) (text : String)
    : s'.judge uri text = s.judge uri text := by
  unfold judge check
  rw [hproject, hindex]

end Session

namespace Task

variable (s : Session) (t : Task)

theorem surroundings_step
    : (t.step s).session.project = s.project ∧ (t.step s).session.index = s.index := by
  unfold step
  split
  · exact ⟨rfl, rfl⟩
  · split <;> exact ⟨rfl, rfl⟩
  · split
    · exact ⟨rfl, rfl⟩
    · split <;> exact ⟨rfl, rfl⟩
  · exact ⟨rfl, rfl⟩
  · exact ⟨rfl, rfl⟩

theorem find?_step_of_ne {uri : Uri} (h : uri ≠ t.uri)
    : (t.step s).session.documents.find? uri = s.documents.find? uri := by
  unfold step
  split
  · rw [Table.find?_insert]
    exact if_neg h
  · split
    · rfl
    · rw [Session.setText, Table.find?_modify]
      exact if_neg h
  · split
    · rfl
    · split <;> rfl
  · rfl
  · rw [Table.find?_modify]
    exact if_neg h

theorem next_step {next : Task} (h : next ∈ (t.step s).next)
    : next.uri = t.uri ∧ next.writes = false := by
  unfold step at h
  split at h
  · cases h
    exact ⟨rfl, rfl⟩
  · split at h
    · cases h
    · cases h
      exact ⟨rfl, rfl⟩
  · split at h
    · cases h
    · split at h
      · cases h
      · cases h
        exact ⟨rfl, rfl⟩
  · dsimp only at h
    split at h
    · cases h
      exact ⟨rfl, rfl⟩
    · cases h
  · cases h

theorem step_take (uri : Uri) (force : Bool)
    : (Task.take uri force).step s
        = { session := s
            next := ((s.documents.find? uri).filter fun d =>
                force || d.analyzed != some (fingerprint d.text)).map
              fun d => .judge uri d.text } := by
  rw [step]
  cases s.documents.find? uri with
  | none => rfl
  | some d =>
    dsimp only
    rw [Option.filter_some]
    cases force <;> cases h : d.analyzed == some (fingerprint d.text) <;> simp [bne, h]

theorem step_judge (uri : Uri) (text : String)
    : (Task.judge uri text).step s
        = { session := s
            told := [⟨uri, text, (s.judge uri text).1⟩]
            next := some (.mark uri (fingerprint text)) } := by
  obtain ⟨diagnostics, -, hjudge⟩ := s.judge_finds uri text
  rw [step, hjudge]
  rfl

theorem unit?_judge (uri : Uri) (text : String)
    : (Telling.mk uri text (s.judge uri text).1).unit? = some (unitOf uri) := by
  obtain ⟨diagnostics, -, hjudge⟩ := s.judge_finds uri text
  rw [hjudge]
  rfl

theorem told_step {told : Telling} (h : told ∈ (t.step s).told)
    : told.uri = t.uri ∧ told.unit? = some (unitOf t.uri)
        ∧ told.event = (s.judge told.uri told.text).1 := by
  cases t with
  | write edit =>
    cases edit with
    | opened uri text => cases h
    | changed uri texts =>
      rw [step] at h
      split at h <;> cases h
  | take uri force =>
    rw [step] at h
    split at h
    · cases h
    · split at h <;> cases h
  | judge uri text =>
    rw [step_judge, List.mem_singleton] at h
    subst h
    exact ⟨rfl, unit?_judge s uri text, rfl⟩
  | mark uri current => cases h

end Task

namespace Desk

def Faithful (desk : Desk) : Prop :=
  ∀ told, told ∈ desk.told → told.event = (desk.session.judge told.uri told.text).1

theorem Faithful.turn {desk : Desk} (h : desk.Faithful) (turn : Turn)
    : (desk.turn turn).Faithful := by
  obtain heq | ⟨edit, heq⟩ | ⟨t, others, -, -, heq⟩ := desk.turn_cases turn
  · rwa [heq]
  · rw [heq]
    exact h
  · rw [heq]
    intro told htold
    obtain ⟨hproject, hindex⟩ := t.surroundings_step desk.session
    rw [Session.judge_congr hproject hindex]
    obtain htold | htold := List.mem_append.1 htold
    · exact h told htold
    · exact (t.told_step desk.session htold).2.2

/-! A handler that nobody comes in between. -/

theorem run_idle (s : Session) (told : List Telling) (n : Nat)
    : run ⟨s, [], told⟩ (List.replicate n (.advance 0)) = ⟨s, [], told⟩ := by
  induction n with
  | zero => rfl
  | succ n ih => exact ih

theorem run_take (s : Session) (told : List Telling) (uri : Uri) (force : Bool)
    : ∃ more, run ⟨s, [.take uri force], told⟩ (List.replicate 3 (.advance 0))
            = ⟨(s.analyze uri force).1, [], told ++ more⟩
        ∧ more.map (Output.event ·.event) = (s.analyze uri force).2 := by
  -- The handler is alone, so three turns take it through copy, judgement and mark.
  rw [List.replicate_succ, run, List.foldl_cons, ← run]
  cases hfind : s.documents.find? uri with
  | none =>
    have hturn : turn ⟨s, [.take uri force], told⟩ (.advance 0) = ⟨s, [], told ++ []⟩ := by
      simp [turn, Task.step, hfind]
    rw [hturn, run_idle, Session.analyze, hfind]
    exact ⟨[], rfl, rfl⟩
  | some d =>
    rw [Session.analyze, hfind]
    dsimp only
    split
    · next hskip =>
      have hturn : turn ⟨s, [.take uri force], told⟩ (.advance 0) = ⟨s, [], told ++ []⟩ := by
        simp [turn, Task.step, hfind, hskip]
      rw [hturn, run_idle]
      exact ⟨[], rfl, rfl⟩
    · next hskip =>
      obtain ⟨diagnostics, -, hjudge⟩ := s.judge_finds uri d.text
      have hturn : turn ⟨s, [.take uri force], told⟩ (.advance 0)
          = ⟨s, [.judge uri d.text], told ++ []⟩ := by
        simp [turn, Task.step, hfind, hskip]
      have hmark : turn ⟨s, [.mark uri (fingerprint d.text)],
            told ++ [⟨uri, d.text, (s.judge uri d.text).1⟩]⟩ (.advance 0)
          = ⟨{ s with
                documents := s.documents.insert uri ⟨d.text, some (fingerprint d.text)⟩ },
              [], told ++ [⟨uri, d.text, (s.judge uri d.text).1⟩]⟩ := by
        simp [turn, Task.step, Table.modify, hfind]
      have hjudged : turn ⟨s, [.judge uri d.text], told⟩ (.advance 0)
          = ⟨s, [.mark uri (fingerprint d.text)],
              told ++ [⟨uri, d.text, (s.judge uri d.text).1⟩]⟩ := by
        simp [turn, Task.step_judge]
      rw [hturn, List.append_nil, run, List.replicate_succ, List.foldl_cons, hjudged,
        List.replicate_succ, List.foldl_cons, hmark, hjudge]
      exact ⟨[_], rfl, rfl⟩

theorem run_opened (s : Session) (told : List Telling) (uri : Uri) (text : String)
    : ∃ more, run ⟨s, [.write (.opened uri text)], told⟩ (List.replicate 4 (.advance 0))
            = ⟨(s.opened uri text).1, [], told ++ more⟩
        ∧ more.map (Output.event ·.event) = (s.opened uri text).2 := by
  have hturn : turn ⟨s, [.write (.opened uri text)], told⟩ (.advance 0)
      = ⟨{ s with documents := s.documents.insert uri { text := text } }, [.take uri true],
          told⟩ := by
    simp [turn, Task.step]
  rw [List.replicate_succ, run, List.foldl_cons, hturn]
  exact run_take ..

theorem run_changed (s : Session) (told : List Telling) (uri : Uri) (texts : List String)
    : ∃ more, run ⟨s, [.write (.changed uri texts)], told⟩ (List.replicate 4 (.advance 0))
            = ⟨(s.changed uri texts).1, [], told ++ more⟩
        ∧ more.map (Output.event ·.event) = (s.changed uri texts).2 := by
  rw [List.replicate_succ, run, List.foldl_cons, ← run, Session.changed]
  cases htexts : texts.getLast? with
  | none =>
    have hturn : turn ⟨s, [.write (.changed uri texts)], told⟩ (.advance 0)
        = ⟨s, [], told ++ []⟩ := by
      simp [turn, Task.step, htexts]
    rw [hturn, run_idle]
    exact ⟨[], rfl, rfl⟩
  | some text =>
    have hturn : turn ⟨s, [.write (.changed uri texts)], told⟩ (.advance 0)
        = ⟨s.setText uri text, [.take uri false], told⟩ := by
      simp [turn, Task.step, htexts]
    rw [hturn]
    exact run_take ..

end Desk

/-! Any turns. -/

def Task.Settles (uri : Uri) (current : String) : Task → Prop
  | .write _ => False
  | .take it _ => it = uri
  | .judge it text => it = uri ∧ fingerprint text = current
  | .mark it found => it = uri ∧ found = current

namespace Desk

def ToldOf (desk : Desk) (uri : Uri) (current : String) : Prop :=
  ∃ told, told ∈ desk.told ∧ told.uri = uri ∧ fingerprint told.text = current

/--
The document is marked with its text or is going to be, and only with what was told before.
-/
structure Settling (desk : Desk) (uri : Uri) : Prop where
  marking : ∀ current, .mark uri current ∈ desk.tasks → desk.ToldOf uri current
  marked : ∀ d current, desk.session.documents.find? uri = some d → d.analyzed = some current →
    desk.ToldOf uri current
  pending : ∀ d, desk.session.documents.find? uri = some d →
    d.analyzed = some (fingerprint d.text)
      ∨ ∃ t, t ∈ desk.tasks ∧ t.Settles uri (fingerprint d.text)

variable {s : Session} {tasks others : List Task} {told : List Telling} {uri : Uri}

theorem ToldOf.append {current : String} (h : ToldOf ⟨s, tasks, told⟩ uri current) (s' : Session)
    (tasks' : List Task) (more : List Telling)
    : ToldOf ⟨s', tasks', told ++ more⟩ uri current := by
  obtain ⟨it, hit, hof⟩ := h
  exact ⟨it, List.mem_append_left more hit, hof⟩

theorem Settling.step_other {t : Task} (h : Settling ⟨s, t :: others, told⟩ uri) (ht : uri ≠ t.uri)
    : Settling ⟨(t.step s).session, others ++ (t.step s).next.toList, told ++ (t.step s).told⟩
        uri := by
  have hfind := t.find?_step_of_ne s ht
  constructor
  · intro current hmark
    obtain hmark | hmark := List.mem_append.1 hmark
    · exact (h.marking current (List.mem_cons_of_mem t hmark)).append ..
    · exact absurd (t.next_step s (Option.mem_toList.1 hmark)).1 ht
  · intro d current hd hcurrent
    rw [hfind] at hd
    exact (h.marked d current hd hcurrent).append ..
  · intro d hd
    rw [hfind] at hd
    obtain hmarked | ⟨other, hother, hsettles⟩ := h.pending d hd
    · exact .inl hmarked
    · obtain rfl | hother := List.mem_cons.1 hother
      · cases other with
        | write edit => exact hsettles.elim
        | take it force => exact absurd hsettles.symm ht
        | judge it text => exact absurd hsettles.1.symm ht
        | mark it found => exact absurd hsettles.1.symm ht
      · exact .inr ⟨other, List.mem_append_left _ hother, hsettles⟩

theorem Settling.mark_tail {t : Task} (h : Settling ⟨s, t :: others, told⟩ uri) {current : String}
    (hmark : .mark uri current ∈ others) (s' : Session) (tasks' : List Task) (more : List Telling)
    : ToldOf ⟨s', tasks', told ++ more⟩ uri current :=
  (h.marking current (List.mem_cons_of_mem t hmark)).append ..

theorem Settling.step_write {edit : Edit} (h : Settling ⟨s, .write edit :: others, told⟩ edit.uri)
    : Settling ⟨((Task.write edit).step s).session,
          others ++ ((Task.write edit).step s).next.toList,
          told ++ ((Task.write edit).step s).told⟩ edit.uri := by
  -- What is written awaits analysis, so the handler itself is what the document waits for.
  cases edit with
  | opened uri text =>
    rw [Task.step]
    constructor
    · intro current hmark
      simp only [Option.toList_some, List.mem_append, List.mem_singleton, reduceCtorEq,
        or_false] at hmark
      exact h.mark_tail hmark ..
    · intro d current hd hcurrent
      rw [Edit.uri, Table.find?_insert, if_pos rfl, Option.some.injEq] at hd
      subst hd
      cases hcurrent
    · intro d _
      exact .inr ⟨.take uri true, List.mem_append_right _ (List.mem_singleton_self _), rfl⟩
  | changed uri texts =>
    rw [Task.step]
    split
    · constructor
      · intro current hmark
        rw [Option.toList_none, List.append_nil] at hmark
        exact h.mark_tail hmark ..
      · intro d current hd hcurrent
        exact (h.marked d current hd hcurrent).append ..
      · intro d hd
        obtain hmarked | ⟨t, ht, hsettles⟩ := h.pending d hd
        · exact .inl hmarked
        · obtain rfl | ht := List.mem_cons.1 ht
          · exact hsettles.elim
          · exact .inr ⟨t, List.mem_append_left _ ht, hsettles⟩
    · next text _ =>
      constructor
      · intro current hmark
        simp only [Option.toList_some, List.mem_append, List.mem_singleton, reduceCtorEq,
          or_false] at hmark
        exact h.mark_tail hmark ..
      · intro d current hd hcurrent
        rw [Session.setText, Edit.uri, Table.find?_modify, if_pos rfl, Option.map_eq_some_iff] at hd
        obtain ⟨d, hd, rfl⟩ := hd
        exact (h.marked d current hd hcurrent).append ..
      · intro d _
        exact .inr ⟨.take uri false, List.mem_append_right _ (List.mem_singleton_self _), rfl⟩

theorem Settling.step_take {force : Bool} (h : Settling ⟨s, .take uri force :: others, told⟩ uri)
    : Settling ⟨((Task.take uri force).step s).session,
          others ++ ((Task.take uri force).step s).next.toList,
          told ++ ((Task.take uri force).step s).told⟩ uri := by
  rw [Task.step_take]
  constructor
  · intro current hmark
    obtain hmark | hmark := List.mem_append.1 hmark
    · exact h.mark_tail hmark ..
    · obtain ⟨d, -, hjudge⟩ := Option.map_eq_some_iff.1 (Option.mem_toList.1 hmark)
      cases hjudge
  · intro d current hd hcurrent
    exact (h.marked d current hd hcurrent).append ..
  · intro d hd
    change s.documents.find? uri = some d at hd
    rw [hd, Option.filter_some]
    split
    · exact .inr ⟨.judge uri d.text, List.mem_append_right _ (List.mem_singleton_self _), rfl, rfl⟩
    · next hskip =>
      rw [Bool.or_eq_true, not_or, bne_iff_ne, not_not] at hskip
      exact .inl hskip.2

theorem Settling.step_judge {text : String}
    (h : Settling ⟨s, .judge uri text :: others, told⟩ uri)
    : Settling ⟨((Task.judge uri text).step s).session,
          others ++ ((Task.judge uri text).step s).next.toList,
          told ++ ((Task.judge uri text).step s).told⟩ uri := by
  rw [Task.step_judge]
  constructor
  · intro current hmark
    obtain hmark | hmark := List.mem_append.1 hmark
    · exact h.mark_tail hmark ..
    · cases List.mem_singleton.1 hmark
      exact ⟨_, List.mem_append_right _ (List.mem_singleton_self _), rfl, rfl⟩
  · intro d current hd hcurrent
    exact (h.marked d current hd hcurrent).append ..
  · intro d hd
    obtain hmarked | ⟨t, ht, hsettles⟩ := h.pending d hd
    · exact .inl hmarked
    · obtain rfl | ht := List.mem_cons.1 ht
      · exact .inr ⟨_, List.mem_append_right _ (List.mem_singleton_self _), rfl, hsettles.2⟩
      · exact .inr ⟨t, List.mem_append_left _ ht, hsettles⟩

theorem Settling.step_mark {current : String}
    (h : Settling ⟨s, .mark uri current :: others, told⟩ uri)
    : Settling ⟨((Task.mark uri current).step s).session,
          others ++ ((Task.mark uri current).step s).next.toList,
          told ++ ((Task.mark uri current).step s).told⟩ uri := by
  -- The mark is set only where the text is still the one that was judged.
  have hfind : ((Task.mark uri current).step s).session.documents.find? uri
      = (s.documents.find? uri).map fun d =>
          if fingerprint d.text = current then { d with analyzed := some current } else d := by
    rw [Task.step, Table.find?_modify, if_pos rfl]
  constructor
  · intro found hmark
    rw [Task.step, Option.toList_none, List.append_nil] at hmark
    exact h.mark_tail hmark ..
  · intro d found hd hfound
    rw [hfind, Option.map_eq_some_iff] at hd
    obtain ⟨d, hd, rfl⟩ := hd
    split at hfound
    · cases hfound
      exact (h.marking current List.mem_cons_self).append ..
    · exact (h.marked d found hd hfound).append ..
  · intro d hd
    rw [hfind, Option.map_eq_some_iff] at hd
    obtain ⟨d, hd, rfl⟩ := hd
    split
    · next hcurrent => exact .inl (congrArg some hcurrent.symm)
    · next hcurrent =>
      obtain hmarked | ⟨t, ht, hsettles⟩ := h.pending d hd
      · exact .inl hmarked
      · obtain rfl | ht := List.mem_cons.1 ht
        · exact absurd hsettles.2.symm hcurrent
        · exact .inr ⟨t, List.mem_append_left _ ht, hsettles⟩

theorem Settling.turn {desk : Desk} (h : desk.Settling uri) (turn : Turn)
    : (desk.turn turn).Settling uri := by
  obtain heq | ⟨edit, heq⟩ | ⟨t, others, -, hperm, heq⟩ := desk.turn_cases turn
  · rwa [heq]
  · rw [heq]
    constructor
    · intro current hmark
      simp only [List.mem_append, List.mem_singleton, reduceCtorEq, or_false] at hmark
      exact h.marking current hmark
    · exact h.marked
    · intro d hd
      obtain hmarked | ⟨t, ht, hsettles⟩ := h.pending d hd
      · exact .inl hmarked
      · exact .inr ⟨t, List.mem_append_left _ ht, hsettles⟩
  · rw [heq]
    have h : Settling ⟨desk.session, t :: others, desk.told⟩ uri := by
      refine ⟨fun current hmark => h.marking current (hperm.mem_iff.2 hmark), h.marked, ?_⟩
      intro d hd
      obtain hmarked | ⟨t, ht, hsettles⟩ := h.pending d hd
      · exact .inl hmarked
      · exact .inr ⟨t, hperm.mem_iff.1 ht, hsettles⟩
    -- What the handler of another document does leaves this one as it is.
    by_cases ht : uri = t.uri
    · subst ht
      cases t with
      | write edit => exact h.step_write
      | take it force => exact h.step_take
      | judge it text => exact h.step_judge
      | mark it current => exact h.step_mark
    · exact h.step_other ht

/-! Calm turns. -/

def LastOf (desk : Desk) (uri : Uri) (current : String) : Prop :=
  ∃ told, desk.last? (unitOf uri) = some told ∧ fingerprint told.text = current

theorem last?_other (s s' : Session) (tasks tasks' : List Task) (told more : List Telling)
    {unit : UnitId} (h : ∀ it, it ∈ more → it.unit? ≠ some unit)
    : last? ⟨s', tasks', told ++ more⟩ unit = last? ⟨s, tasks, told⟩ unit := by
  have hmore : more.filter (·.unit? = some unit) = [] := by
    rw [List.filter_eq_nil_iff]
    intro it hit
    simpa using h it hit
  rw [last?, List.filter_append, hmore, List.append_nil, last?]

theorem last?_singleton (s : Session) (tasks : List Task) (told : List Telling) {it : Telling}
    {unit : UnitId} (h : it.unit? = some unit)
    : last? ⟨s, tasks, told ++ [it]⟩ unit = some it := by
  have hit : [it].filter (·.unit? = some unit) = [it] := by
    simp [h]
  rw [last?, List.filter_append, hit, List.getLast?_append]
  rfl

/--
Only this document of the unit is handled, all copies of it are of its text, and it is marked with
what was shown last, unless it is going to be.
-/
structure Steady (desk : Desk) (uri : Uri) : Prop where
  alone : ∀ t, t ∈ desk.tasks → t.writes = false → unitOf t.uri = unitOf uri → t.uri = uri
  judging : ∀ text, .judge uri text ∈ desk.tasks →
    ∃ d, desk.session.documents.find? uri = some d ∧ d.text = text
  marking : ∀ current, .mark uri current ∈ desk.tasks → desk.LastOf uri current
    ∧ ∃ d, desk.session.documents.find? uri = some d ∧ fingerprint d.text = current
  marked : ∀ d current, desk.session.documents.find? uri = some d → d.analyzed = some current →
    desk.LastOf uri current ∨ ∃ found, .mark uri found ∈ desk.tasks

theorem Steady.alone_step {t : Task} (h : Steady ⟨s, t :: others, told⟩ t.uri)
    : ∀ it, it ∈ others ++ (t.step s).next.toList → it.writes = false →
      unitOf it.uri = unitOf t.uri → it.uri = t.uri := by
  intro it hmem hwrites hunit
  obtain hmem | hmem := List.mem_append.1 hmem
  · exact h.alone it (List.mem_cons_of_mem t hmem) hwrites hunit
  · exact (t.next_step s (Option.mem_toList.1 hmem)).1

theorem Steady.step_other {t : Task} (h : Steady ⟨s, t :: others, told⟩ uri)
    (ht : unitOf t.uri ≠ unitOf uri)
    : Steady ⟨(t.step s).session, others ++ (t.step s).next.toList, told ++ (t.step s).told⟩
        uri := by
  have hother : uri ≠ t.uri := fun heq => ht (congrArg unitOf heq.symm)
  have hfind := t.find?_step_of_ne s hother
  have hnext : ∀ next, next ∈ (t.step s).next.toList → next.uri ≠ uri := fun next hnext heq =>
    hother (heq.symm.trans (t.next_step s (Option.mem_toList.1 hnext)).1)
  have hlast : ∀ current, LastOf ⟨s, t :: others, told⟩ uri current → LastOf ⟨(t.step s).session,
      others ++ (t.step s).next.toList, told ++ (t.step s).told⟩ uri current := by
    intro current hcurrent
    rw [LastOf, last?_other s]
    · exact hcurrent
    · intro it hit hunit
      rw [(t.told_step s hit).2.1, Option.some.injEq] at hunit
      exact ht hunit
  -- No part of the invariant is about other units.
  constructor
  · intro next hmem hwrites hunit
    obtain hmem | hmem := List.mem_append.1 hmem
    · exact h.alone next (List.mem_cons_of_mem t hmem) hwrites hunit
    · rw [(t.next_step s (Option.mem_toList.1 hmem)).1] at hunit
      exact absurd hunit ht
  · intro text hjudge
    obtain hjudge | hjudge := List.mem_append.1 hjudge
    · rw [hfind]
      exact h.judging text (List.mem_cons_of_mem t hjudge)
    · exact absurd rfl (hnext _ hjudge)
  · intro current hmark
    obtain hmark | hmark := List.mem_append.1 hmark
    · obtain ⟨hcurrent, hd⟩ := h.marking current (List.mem_cons_of_mem t hmark)
      rw [hfind]
      exact ⟨hlast current hcurrent, hd⟩
    · exact absurd rfl (hnext _ hmark)
  · intro d current hd hcurrent
    rw [hfind] at hd
    obtain hmarked | ⟨found, hmark⟩ := h.marked d current hd hcurrent
    · exact .inl (hlast current hmarked)
    · obtain rfl | hmark := List.mem_cons.1 hmark
      · exact absurd rfl hother
      · exact .inr ⟨found, List.mem_append_left _ hmark⟩

theorem Steady.step_write {edit : Edit} (h : Steady ⟨s, .write edit :: others, told⟩ edit.uri)
    (hcopies : ∀ t, t ∈ others → t.uri = edit.uri → t.hasCopy = false)
    : Steady ⟨((Task.write edit).step s).session,
          others ++ ((Task.write edit).step s).next.toList,
          told ++ ((Task.write edit).step s).told⟩ edit.uri := by
  have hnone : ∀ t, t.hasCopy = true → t.uri = edit.uri →
      t ∉ others ++ ((Task.write edit).step s).next.toList := by
    intro t hcopy huri hmem
    obtain hmem | hmem := List.mem_append.1 hmem
    · exact absurd hcopy (by rw [hcopies t hmem huri]; exact Bool.false_ne_true)
    · cases edit with
      | opened uri text =>
        cases List.mem_singleton.1 hmem
        cases hcopy
      | changed uri texts =>
        rw [Task.step] at hmem
        split at hmem
        · cases hmem
        · cases List.mem_singleton.1 hmem
          cases hcopy
  have htold : ((Task.write edit).step s).told = [] := by
    cases edit with
    | opened uri text => rfl
    | changed uri texts =>
      rw [Task.step]
      split <;> rfl
  constructor
  · exact h.alone_step
  · intro text hjudge
    exact absurd hjudge (hnone _ rfl rfl)
  · intro current hmark
    exact absurd hmark (hnone _ rfl rfl)
  · intro d current hd hcurrent
    -- A mark that is there has been there before, and nothing was told since.
    have hbefore : ∃ d, s.documents.find? edit.uri = some d ∧ d.analyzed = some current := by
      cases edit with
      | opened uri text =>
        rw [Task.step, Edit.uri, Table.find?_insert, if_pos rfl, Option.some.injEq] at hd
        subst hd
        cases hcurrent
      | changed uri texts =>
        rw [Task.step] at hd
        split at hd
        · exact ⟨d, hd, hcurrent⟩
        · rw [Session.setText, Edit.uri, Table.find?_modify, if_pos rfl,
            Option.map_eq_some_iff] at hd
          obtain ⟨d, hd, rfl⟩ := hd
          exact ⟨d, hd, hcurrent⟩
    obtain ⟨d, hd, hcurrent⟩ := hbefore
    obtain hlast | ⟨found, hmark⟩ := h.marked d current hd hcurrent
    · left
      rwa [LastOf, htold, last?_other s _ (.write edit :: others) _ _ _ (by simp)]
    · obtain hmark | hmark := List.mem_cons.1 hmark
      · cases hmark
      · exact absurd (hcopies _ hmark rfl) (by simp [Task.hasCopy])

theorem Steady.step_take {force : Bool} (h : Steady ⟨s, .take uri force :: others, told⟩ uri)
    : Steady ⟨((Task.take uri force).step s).session,
          others ++ ((Task.take uri force).step s).next.toList,
          told ++ ((Task.take uri force).step s).told⟩ uri := by
  have hnext : ∀ t, t ∈ ((Task.take uri force).step s).next.toList →
      ∃ d, s.documents.find? uri = some d ∧ t = .judge uri d.text := by
    intro t ht
    rw [Task.step_take] at ht
    obtain ⟨d, hd, hjudge⟩ := Option.map_eq_some_iff.1 (Option.mem_toList.1 ht)
    exact ⟨d, (Option.filter_eq_some_iff.1 hd).1, hjudge.symm⟩
  have hsession : ((Task.take uri force).step s).session = s := by
    rw [Task.step_take]
  have hsame : ∀ {found : String}, LastOf ⟨s, .take uri force :: others, told⟩ uri found →
      LastOf ⟨((Task.take uri force).step s).session,
        others ++ ((Task.take uri force).step s).next.toList,
        told ++ ((Task.take uri force).step s).told⟩ uri found := by
    intro found hfound
    rwa [LastOf, last?_other s _ (.take uri force :: others) _ _ _ (by simp [Task.step_take])]
  -- The copy is taken of the document as it is, and nothing else changes.
  constructor
  · exact h.alone_step
  · intro text hjudge
    rw [hsession]
    obtain hjudge | hjudge := List.mem_append.1 hjudge
    · exact h.judging text (List.mem_cons_of_mem _ hjudge)
    · obtain ⟨d, hd, heq⟩ := hnext _ hjudge
      cases heq
      exact ⟨d, hd, rfl⟩
  · intro current hmark
    obtain hmark | hmark := List.mem_append.1 hmark
    · obtain ⟨hcurrent, hd⟩ := h.marking current (List.mem_cons_of_mem _ hmark)
      refine ⟨hsame hcurrent, ?_⟩
      rwa [hsession]
    · obtain ⟨d, -, heq⟩ := hnext _ hmark
      cases heq
  · intro d current hd hcurrent
    rw [hsession] at hd
    obtain hlast | ⟨found, hmark⟩ := h.marked d current hd hcurrent
    · exact .inl (hsame hlast)
    · obtain hmark | hmark := List.mem_cons.1 hmark
      · cases hmark
      · exact .inr ⟨found, List.mem_append_left _ hmark⟩

theorem Steady.step_judge {text : String} (h : Steady ⟨s, .judge uri text :: others, told⟩ uri)
    : Steady ⟨((Task.judge uri text).step s).session,
          others ++ ((Task.judge uri text).step s).next.toList,
          told ++ ((Task.judge uri text).step s).told⟩ uri := by
  -- What is told now is the last that is told of the document.
  have hlast : ∀ tasks, LastOf ⟨s, tasks, told ++ [⟨uri, text, (s.judge uri text).1⟩]⟩ uri
      (fingerprint text) := fun tasks =>
    ⟨_, last?_singleton s tasks told (Task.unit?_judge s uri text), rfl⟩
  obtain ⟨d, hd, htext⟩ := h.judging text List.mem_cons_self
  have halone := h.alone_step
  rw [Task.step_judge] at halone ⊢
  constructor
  · exact halone
  · intro other hjudge
    obtain hjudge | hjudge := List.mem_append.1 hjudge
    · exact h.judging other (List.mem_cons_of_mem _ hjudge)
    · cases List.mem_singleton.1 hjudge
  · intro current hmark
    have hcurrent : fingerprint d.text = current := by
      obtain hmark | hmark := List.mem_append.1 hmark
      · obtain ⟨-, d', hd', hcurrent⟩ := h.marking current (List.mem_cons_of_mem _ hmark)
        rw [hd', Option.some.injEq] at hd
        rwa [← hd]
      · cases List.mem_singleton.1 hmark
        rw [htext]
    refine ⟨?_, d, hd, hcurrent⟩
    rw [← hcurrent, htext]
    exact hlast _
  · intro d current _ _
    exact .inr ⟨_, List.mem_append_right _ (List.mem_singleton_self _)⟩

theorem Steady.step_mark {current : String} (h : Steady ⟨s, .mark uri current :: others, told⟩ uri)
    : Steady ⟨((Task.mark uri current).step s).session,
          others ++ ((Task.mark uri current).step s).next.toList,
          told ++ ((Task.mark uri current).step s).told⟩ uri := by
  obtain ⟨hlast, d, hd, hcurrent⟩ := h.marking current List.mem_cons_self
  have hfind : ((Task.mark uri current).step s).session.documents.find? uri
      = some { d with analyzed := some current } := by
    rw [Task.step, Table.find?_modify, if_pos rfl, hd, Option.map_some, if_pos hcurrent]
  have hothers : ∀ {t : Task}, t ∈ others ++ ((Task.mark uri current).step s).next.toList →
      t ∈ Task.mark uri current :: others := by
    intro t hmem
    rw [Task.step, Option.toList_none, List.append_nil] at hmem
    exact List.mem_cons_of_mem _ hmem
  have hsame : ∀ {found : String}, LastOf ⟨s, .mark uri current :: others, told⟩ uri found →
      LastOf ⟨((Task.mark uri current).step s).session,
        others ++ ((Task.mark uri current).step s).next.toList,
        told ++ ((Task.mark uri current).step s).told⟩ uri found := by
    intro found hfound
    rwa [LastOf, last?_other s _ (.mark uri current :: others) _ _ _ (by simp [Task.step])]
  -- The new mark agrees with what was told last.
  constructor
  · intro t hmem
    exact h.alone t (hothers hmem)
  · intro text hjudge
    obtain ⟨d', hd', htext⟩ := h.judging text (hothers hjudge)
    rw [hd', Option.some.injEq] at hd
    subst hd
    exact ⟨_, hfind, htext⟩
  · intro found hmark
    obtain ⟨hfound, d', hd', htext⟩ := h.marking found (hothers hmark)
    rw [hd', Option.some.injEq] at hd
    subst hd
    exact ⟨hsame hfound, _, hfind, htext⟩
  · intro d' found hd' hfound
    rw [hfind, Option.some.injEq] at hd'
    subst hd'
    cases hfound
    exact .inl (hsame hlast)

theorem Steady.turn {desk : Desk} (h : desk.Steady uri) {turn : Turn} (hcalm : desk.Calm uri turn)
    : (desk.turn turn).Steady uri := by
  obtain heq | ⟨edit, heq⟩ | ⟨t, others, htask, hperm, heq⟩ := desk.turn_cases turn
  · rwa [heq]
  · rw [heq]
    constructor
    · intro t hmem hwrites hunit
      obtain hmem | hmem := List.mem_append.1 hmem
      · exact h.alone t hmem hwrites hunit
      · cases List.mem_singleton.1 hmem
        cases hwrites
    · intro text hjudge
      simp only [List.mem_append, List.mem_singleton, reduceCtorEq, or_false] at hjudge
      exact h.judging text hjudge
    · intro current hmark
      simp only [List.mem_append, List.mem_singleton, reduceCtorEq, or_false] at hmark
      exact h.marking current hmark
    · intro d current hd hcurrent
      obtain hlast | ⟨found, hmark⟩ := h.marked d current hd hcurrent
      · exact .inl hlast
      · exact .inr ⟨found, List.mem_append_left _ hmark⟩
  · rw [heq]
    -- The handler that goes on is put in front, as the step lemmas expect it.
    have h : Steady ⟨desk.session, t :: others, desk.told⟩ uri := by
      refine ⟨fun it hmem => h.alone it (hperm.mem_iff.2 hmem),
        fun text hjudge => h.judging text (hperm.mem_iff.2 hjudge),
        fun current hmark => h.marking current (hperm.mem_iff.2 hmark), ?_⟩
      intro d current hd hcurrent
      obtain hlast | ⟨found, hmark⟩ := h.marked d current hd hcurrent
      · exact .inl hlast
      · exact .inr ⟨found, hperm.mem_iff.1 hmark⟩
    have hothers : ∀ it, it ∈ others → it ∈ desk.tasks := fun it hmem =>
      hperm.mem_iff.2 (List.mem_cons_of_mem t hmem)
    by_cases hunit : unitOf t.uri = unitOf uri
    · cases t with
      | write edit =>
        obtain ⟨huri, hcopies⟩ := hcalm _ htask rfl hunit
        cases huri
        exact h.step_write fun it hmem => hcopies it (hothers it hmem)
      | take it force =>
        cases h.alone _ List.mem_cons_self rfl hunit
        exact h.step_take
      | judge it text =>
        cases h.alone _ List.mem_cons_self rfl hunit
        exact h.step_judge
      | mark it current =>
        cases h.alone _ List.mem_cons_self rfl hunit
        exact h.step_mark
    · exact h.step_other hunit

/-! Runs. -/

theorem Faithful.run {desk : Desk} (h : desk.Faithful) (turns : List Turn)
    : (desk.run turns).Faithful := by
  induction turns generalizing desk with
  | nil => exact h
  | cons turn turns ih => exact ih (h.turn turn)

theorem Settling.run {desk : Desk} (h : desk.Settling uri) (turns : List Turn)
    : (desk.run turns).Settling uri := by
  induction turns generalizing desk with
  | nil => exact h
  | cons turn turns ih => exact ih (h.turn turn)

theorem Steady.run {desk : Desk} (h : desk.Steady uri) {turns : List Turn}
    (hcalm : Undisturbed uri desk turns) : (desk.run turns).Steady uri := by
  induction turns generalizing desk with
  | nil => exact h
  | cons turn turns ih => exact ih (h.turn hcalm.1) hcalm.2

/--
Whatever the order of the turns: a document that no handler is under way for is marked with its
text, and something was told for this text. If moreover no text was written while a copy was in
hand, nor for another document of the unit, then the mark tells the truth about what is shown.
-/
theorem run_analyzed (s : Session) (hclosed : s.documents = ∅) (turns : List Turn) (uri : Uri)
    (hdone : ∀ t, t ∈ (run ⟨s, [], []⟩ turns).tasks → t.uri ≠ uri)
    : let desk := run ⟨s, [], []⟩ turns
      (∀ d, desk.session.documents.find? uri = some d →
          d.analyzed = some (fingerprint d.text)
            ∧ ∃ told, told ∈ desk.told ∧ told.uri = uri ∧ fingerprint told.text = fingerprint d.text
              ∧ told.event = (desk.session.judge uri told.text).1)
        ∧ (Undisturbed uri ⟨s, [], []⟩ turns → desk.Truthful uri) := by
  have hfaithful : (run ⟨s, [], []⟩ turns).Faithful := by
    apply Faithful.run
    intro told htold
    cases htold
  refine ⟨?_, ?_⟩
  · have hsettling : (run ⟨s, [], []⟩ turns).Settling uri := by
      apply Settling.run
      constructor
      · intro current hmark
        cases hmark
      · intro d current hd
        rw [hclosed, Table.find?_empty] at hd
        cases hd
      · intro d hd
        rw [hclosed, Table.find?_empty] at hd
        cases hd
    intro d hd
    -- No handler of the document is under way, so nothing is pending that could still mark it.
    have hmarked : d.analyzed = some (fingerprint d.text) := by
      obtain hmarked | ⟨t, ht, hsettles⟩ := hsettling.pending d hd
      · exact hmarked
      · exfalso
        apply hdone t ht
        cases t with
        | write edit => exact hsettles.elim
        | take it force => exact hsettles
        | judge it text => exact hsettles.1
        | mark it current => exact hsettles.1
    obtain ⟨told, htold, rfl, hcurrent⟩ := hsettling.marked d _ hd hmarked
    exact ⟨hmarked, told, htold, rfl, hcurrent, hfaithful told htold⟩
  · intro hcalm d current hd hcurrent
    have hsteady : (run ⟨s, [], []⟩ turns).Steady uri := by
      apply Steady.run _ hcalm
      constructor
      · intro t ht
        cases ht
      · intro text hjudge
        cases hjudge
      · intro current hmark
        cases hmark
      · intro d current hd
        rw [hclosed, Table.find?_empty] at hd
        cases hd
    obtain ⟨told, hlast, htext⟩ | ⟨found, hmark⟩ := hsteady.marked d current hd hcurrent
    · have htold := List.mem_of_getLast? hlast
      exact ⟨told, hlast, htext, hfaithful told (List.mem_filter.1 htold).1⟩
    · exact absurd rfl (hdone _ hmark)

theorem run_analyzed_overlapping
    : let uri : Uri := ⟨"file", some {}, .segments ["A.java"], none, none⟩
      let desk := run ⟨{}, [], []⟩ <|
        [Turn.arrive (.opened uri "class A \x7b\x7d"), .arrive (.changed uri ["class B \x7b\x7d"])]
          ++ List.replicate 8 (Turn.advance 0)
      desk.session.documents.find? uri
          = some ⟨"class B \x7b\x7d", some (fingerprint "class B \x7b\x7d")⟩
        ∧ desk.Truthful uri := by
  dsimp only
  refine ⟨by decide +kernel, (run_analyzed {} rfl _ _ ?_).2 ?_⟩
  · decide +kernel
  · decide +kernel

theorem Truthful.last? {desk : Desk} (h : desk.Truthful uri)
    (hmarked : ((desk.session.documents.find? uri).bind (·.analyzed)).isSome)
    : (desk.last? (unitOf uri)).map (fingerprint ·.text)
        = (desk.session.documents.find? uri).bind (·.analyzed) := by
  obtain ⟨current, hmarked⟩ := Option.isSome_iff_exists.1 hmarked
  obtain ⟨d, hd, hcurrent⟩ := Option.bind_eq_some_iff.1 hmarked
  obtain ⟨told, hlast, htext, -⟩ := h d current hd hcurrent
  rw [hmarked, hlast, Option.map_some, htext]

/--
A copy that is published late takes the place of what was found in the newer text, and so does what
is found in another document of the same unit. In both cases the mark stays.
-/
theorem not_truthful
    : let uri : Uri := ⟨"file", some {}, .segments ["A.java"], none, none⟩
      let escaped : Uri := ⟨"file", some {}, .segments ["%41.java"], none, none⟩
      let late := run ⟨{}, [], []⟩ <|
        [Turn.arrive (.opened uri "class A \x7b\x7d"), .advance 0, .advance 0,
            .arrive (.changed uri ["class B \x7b\x7d"])]
          ++ List.replicate 4 (Turn.advance 1) ++ List.replicate 2 (Turn.advance 0)
      let shared := run ⟨{}, [], []⟩ <|
        [Turn.arrive (.opened uri "class A \x7b\x7d")] ++ List.replicate 4 (Turn.advance 0)
          ++ [Turn.arrive (.opened escaped "class A \x7b /*")] ++ List.replicate 4 (Turn.advance 0)
      (late.tasks = [] ∧ ¬ late.Truthful uri) ∧ shared.tasks = [] ∧ ¬ shared.Truthful uri := by
  have hwrong : ∀ {desk : Desk} {uri : Uri}, (desk.tasks = []
      ∧ ((desk.session.documents.find? uri).bind (·.analyzed)).isSome
      ∧ (desk.last? (unitOf uri)).map (fingerprint ·.text)
        ≠ (desk.session.documents.find? uri).bind (·.analyzed)) →
      desk.tasks = [] ∧ ¬ desk.Truthful uri := by
    intro desk uri h
    exact ⟨h.1, fun htruthful => h.2.2 (htruthful.last? h.2.1)⟩
  dsimp only
  constructor
  · apply hwrong
    decide +kernel
  · apply hwrong
    decide +kernel

end Desk

end DeprecatedUse.Editor
