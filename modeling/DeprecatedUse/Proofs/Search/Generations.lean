import DeprecatedUse.Search
import Mathlib.Algebra.BigOperators.Group.List.Basic
import Mathlib.Logic.Relation
import Mathlib.Tactic

/-!
This module contains what breadth-first search finds. Seen from where it starts, the nodes of a
graph come in generations: the nodes that so many steps lead to. Of the nodes that answer the search
finds one in the first generation that has any, and there the one that is named first. The invariant
is that the queue holds a whole generation and that the nodes of all generations before it have been
visited. As a loop that only remembers what it has visited the search comes to its end, and no step
of the graph costs it more than one turn.

Two searches end at the same node if the graph and the answers of one are those of the other under
new names. The invariant is that what is left to visit and the queue are the same up to the names.
-/

namespace DeprecatedUse

variable {α β : Type}

/--
The nodes that `n` steps lead to, in the order in which the steps name them. A node comes once for
each way that leads to it.
-/
def generation (next : α → List α) (start : List α) : Nat → List α
  | 0 => start
  | n + 1 => (generation next start n).flatMap next

theorem generation_subset {next : α → List α} {start nodes : List α} (hstart : start ⊆ nodes)
    (hnext : ∀ a, a ∈ nodes → next a ⊆ nodes) (n : Nat) : generation next start n ⊆ nodes := by
  induction n with
  | zero => exact hstart
  | succ n ih =>
    intro b hb
    rw [generation, List.mem_flatMap] at hb
    obtain ⟨a, ha, hb⟩ := hb
    exact hnext a (ih ha) hb

theorem exists_generation {next : α → List α} {start : List α} {first a : α}
    (hfirst : first ∈ start) (h : Relation.ReflTransGen (fun x y => y ∈ next x) first a)
    : ∃ n, a ∈ generation next start n := by
  induction h with
  | refl => exact ⟨0, hfirst⟩
  | tail _ hstep ih =>
    obtain ⟨n, hn⟩ := ih
    exact ⟨n + 1, List.mem_flatMap.2 ⟨_, hn, hstep⟩⟩

variable [DecidableEq α] {next : α → List α} {found? : α → Option β}

/-! What is found. -/

theorem breadthFirst_some {unvisited queue : List α} {b : β}
    (h : breadthFirst next found? unvisited queue = some b)
    : ∃ a, a ∈ unvisited ∧ found? a = some b := by
  fun_induction breadthFirst next found? unvisited queue with
  | case1 => cases h
  | case2 unvisited a queue hmem b' hfound =>
    rw [Option.some.injEq] at h
    subst h
    exact ⟨a, hmem, hfound⟩
  | case3 unvisited a queue _ _ ih =>
    obtain ⟨x, hx, hfound⟩ := ih h
    exact ⟨x, List.mem_of_mem_erase hx, hfound⟩
  | case4 _ _ _ _ ih => exact ih h

theorem breadthFirst_reached {unvisited queue : List α} {b : β}
    (h : breadthFirst next found? unvisited queue = some b)
    : ∃ first, first ∈ queue ∧ ∃ a, Relation.ReflTransGen (fun x y => y ∈ next x) first a
        ∧ found? a = some b := by
  fun_induction breadthFirst next found? unvisited queue with
  | case1 => cases h
  | case2 unvisited a queue _ b' hfound =>
    rw [Option.some.injEq] at h
    subst h
    exact ⟨a, List.mem_cons_self, a, .refl, hfound⟩
  | case3 unvisited a queue _ _ ih =>
    obtain ⟨first, hfirst, x, hx, hfound⟩ := ih h
    rw [List.mem_append] at hfirst
    rcases hfirst with hfirst | hfirst
    · exact ⟨first, List.mem_cons_of_mem a hfirst, x, hx, hfound⟩
    · exact ⟨a, List.mem_cons_self, x, hx.head hfirst, hfound⟩
  | case4 unvisited a queue _ ih =>
    obtain ⟨first, hfirst, hx⟩ := ih h
    exact ⟨first, List.mem_cons_of_mem a hfirst, hx⟩

theorem breadthFirst_none {start nodes : List α}
    (hsilent : ∀ n a, a ∈ generation next start n → found? a = none)
    : breadthFirst next found? nodes start = none := by
  cases hsearch : breadthFirst next found? nodes start with
  | none => rfl
  | some b =>
    obtain ⟨first, hfirst, a, hreach, hfound⟩ := breadthFirst_reached hsearch
    obtain ⟨n, ha⟩ := exists_generation hfirst hreach
    rw [hsilent n a ha] at hfound
    cases hfound

theorem breadthFirst_perm {unvisited unvisited' queue : List α} (h : unvisited.Perm unvisited')
    : breadthFirst next found? unvisited queue = breadthFirst next found? unvisited' queue := by
  fun_induction breadthFirst next found? unvisited queue generalizing unvisited' with
  | case1 => rw [breadthFirst]
  | case2 unvisited a queue hmem b hfound =>
    rw [breadthFirst, if_pos (h.mem_iff.1 hmem), hfound]
  | case3 unvisited a queue hmem hfound ih =>
    rw [breadthFirst, if_pos (h.mem_iff.1 hmem), hfound]
    exact ih (h.erase a)
  | case4 unvisited a queue hmem ih =>
    rw [breadthFirst, if_neg fun hmem' => hmem (h.mem_iff.2 hmem')]
    exact ih h

/-! One node of the queue. -/

theorem breadthFirst_visited {unvisited : List α} {a : α} (h : a ∉ unvisited) (queue : List α)
    : breadthFirst next found? unvisited (a :: queue)
        =
      breadthFirst next found? unvisited queue := by
  rw [breadthFirst, if_neg h]

theorem breadthFirst_found {unvisited : List α} {a : α} {b : β} (h : a ∈ unvisited)
    (hfound : found? a = some b) (queue : List α)
    : breadthFirst next found? unvisited (a :: queue) = some b := by
  rw [breadthFirst, if_pos h, hfound]

theorem breadthFirst_silent {unvisited : List α} {a : α} (h : a ∈ unvisited)
    (hfound : found? a = none) (queue : List α)
    : breadthFirst next found? unvisited (a :: queue)
        =
      breadthFirst next found? (unvisited.erase a) (queue ++ next a) := by
  rw [breadthFirst, if_pos h, hfound]

/-! Nodes that make no difference. -/

theorem breadthFirst_drop {unvisited front back : List α} {a : α} (hnodup : unvisited.Nodup)
    (hknown : a ∈ unvisited → a ∈ front)
    : breadthFirst next found? unvisited (front ++ a :: back)
        =
      breadthFirst next found? unvisited (front ++ back) := by
  -- the induction is on the shorter search, and the longer one keeps step with it
  generalize hqueue : front ++ back = queue
  fun_induction breadthFirst next found? unvisited queue generalizing front back with
  | case1 unvisited =>
    obtain ⟨rfl, rfl⟩ := List.append_eq_nil_iff.1 hqueue
    rw [List.nil_append, breadthFirst_visited (fun h => nomatch hknown h), breadthFirst]
  | case2 unvisited c queue hmem b hfound =>
    cases front with
    | nil =>
      rw [List.nil_append] at hqueue ⊢
      rw [breadthFirst_visited (fun h => nomatch hknown h), hqueue, breadthFirst_found hmem hfound]
    | cons c' front =>
      obtain ⟨rfl, -⟩ := List.cons.inj hqueue
      rw [List.cons_append, breadthFirst_found hmem hfound]
  | case3 unvisited c queue hmem hfound ih =>
    cases front with
    | nil =>
      rw [List.nil_append] at hqueue ⊢
      rw [breadthFirst_visited (fun h => nomatch hknown h), hqueue, breadthFirst_silent hmem hfound]
    | cons c' front =>
      obtain ⟨rfl, rfl⟩ := List.cons.inj hqueue
      rw [List.cons_append, breadthFirst_silent hmem hfound]
      rw [List.append_assoc, List.cons_append]
      apply ih
      · exact hnodup.erase c'
      · intro ha
        rw [hnodup.mem_erase_iff] at ha
        simpa [ha.1] using hknown ha.2
      · simp
  | case4 unvisited c queue hmem ih =>
    cases front with
    | nil =>
      rw [List.nil_append] at hqueue ⊢
      rw [breadthFirst_visited (fun h => nomatch hknown h), hqueue, breadthFirst_visited hmem]
    | cons c' front =>
      obtain ⟨rfl, rfl⟩ := List.cons.inj hqueue
      rw [List.cons_append, breadthFirst_visited hmem]
      apply ih hnodup
      · intro ha
        have hne : a ≠ c' := by
          rintro rfl
          exact hmem ha
        simpa [hne] using hknown ha
      · rfl

theorem breadthFirst_dropAll {unvisited front known back : List α} (hnodup : unvisited.Nodup)
    (hknown : ∀ a, a ∈ known → a ∈ unvisited → a ∈ front)
    : breadthFirst next found? unvisited (front ++ known ++ back)
        =
      breadthFirst next found? unvisited (front ++ back) := by
  induction known with
  | nil => rw [List.append_nil]
  | cons a known ih =>
    rw [List.append_assoc, List.cons_append]
    rw [breadthFirst_drop hnodup (hknown a List.mem_cons_self), ← List.append_assoc]
    apply ih
    intro b hb
    exact hknown b (List.mem_cons_of_mem a hb)

/-! Generation after generation. -/

theorem breadthFirst_front {unvisited front back : List α} (hnodup : unvisited.Nodup)
    (hsilent : ∀ a, a ∈ front → found? a = none)
    (hvisited : ∀ a, a ∈ front → a ∉ unvisited → ∀ b, b ∈ next a → b ∈ unvisited →
      b ∈ front ++ back)
    : breadthFirst next found? unvisited (front ++ back)
        =
      breadthFirst next found? (unvisited.filter (· ∉ front)) (back ++ front.flatMap next) := by
  induction front generalizing unvisited back with
  | nil => simp
  | cons a front ih =>
    rw [List.cons_append, List.flatMap_cons, ← List.append_assoc]
    have hsilent' : ∀ c, c ∈ front → found? c = none := by
      intro c hc
      exact hsilent c (List.mem_cons_of_mem a hc)
    by_cases ha : a ∈ unvisited
    · have hleft : (unvisited.erase a).filter (· ∉ front)
          = unvisited.filter (· ∉ a :: front) := by
        rw [hnodup.erase_eq_filter, List.filter_filter]
        apply List.filter_congr
        intro c _
        by_cases hca : c = a <;> simp [hca]
      rw [breadthFirst_silent ha (hsilent a List.mem_cons_self), List.append_assoc]
      rw [ih (hnodup.erase a) hsilent', hleft]
      intro c hc hold b hb hnew
      rw [hnodup.mem_erase_iff] at hold hnew
      by_cases hca : c = a
      · subst hca
        simp [hb]
      · have hold' : c ∉ unvisited := fun h => hold ⟨hca, h⟩
        have hqueued := hvisited c (List.mem_cons_of_mem a hc) hold' b hb hnew.2
        rw [List.cons_append, List.mem_cons] at hqueued
        rw [← List.append_assoc]
        exact List.mem_append_left _ (hqueued.resolve_left hnew.1)
    · have hleft : unvisited.filter (· ∉ front) = unvisited.filter (· ∉ a :: front) := by
        apply List.filter_congr
        intro c hc
        have hca : c ≠ a := by
          rintro rfl
          exact ha hc
        simp [hca]
      rw [breadthFirst_visited ha, ih hnodup hsilent', hleft]
      · -- what `a` leads to is in the queue already
        rw [breadthFirst_dropAll (hnodup.filter _)]
        intro b hb hnew
        simp only [List.mem_filter, List.mem_cons, not_or, decide_eq_true_eq] at hnew
        have hqueued := hvisited a List.mem_cons_self ha b hb hnew.1
        simpa [hnew.2] using hqueued
      · intro c hc hold b hb hnew
        have hba : b ≠ a := by
          rintro rfl
          exact ha hnew
        have hqueued := hvisited c (List.mem_cons_of_mem a hc) hold b hb hnew
        simpa [hba] using hqueued

def beyond (next : α → List α) (start nodes : List α) (n : Nat) : List α :=
  nodes.filter fun a => ∀ m, m < n → a ∉ generation next start m

section Generations

variable {start nodes : List α}

theorem mem_beyond {n : Nat} {a : α}
    : a ∈ beyond next start nodes n ↔ a ∈ nodes ∧ ∀ m, m < n → a ∉ generation next start m := by
  simp [beyond]

theorem nodup_beyond (h : nodes.Nodup) (n : Nat) : (beyond next start nodes n).Nodup :=
  h.filter _

theorem beyond_succ (n : Nat)
    : (beyond next start nodes n).filter (· ∉ generation next start n)
        =
      beyond next start nodes (n + 1) := by
  rw [beyond, beyond, List.filter_filter]
  apply List.filter_congr
  intro a _
  simp only [Nat.forall_lt_succ_right, Bool.decide_and, Bool.and_comm]

variable (hnodup : nodes.Nodup) (hstart : start ⊆ nodes) (hnext : ∀ a, a ∈ nodes → next a ⊆ nodes)

include hstart hnext in
theorem mem_generation_of_visited {n : Nat} {a b : α} (ha : a ∈ generation next start n)
    (hold : a ∉ beyond next start nodes n) (hb : b ∈ next a)
    (hnew : b ∈ beyond next start nodes n) : b ∈ generation next start n := by
  have hnode := generation_subset hstart hnext n ha
  simp only [mem_beyond, hnode, true_and, not_forall, not_not] at hold
  obtain ⟨m, hm, ha⟩ := hold
  have hb : b ∈ generation next start (m + 1) := List.mem_flatMap.2 ⟨a, ha, hb⟩
  rcases Nat.lt_or_eq_of_le (Nat.succ_le_of_lt hm) with hlt | heq
  · exact absurd hb ((mem_beyond.1 hnew).2 (m + 1) hlt)
  · rwa [← heq]

include hnodup hstart hnext in
theorem breadthFirst_generation {n : Nat}
    (hsilent : ∀ m, m < n → ∀ a, a ∈ generation next start m → found? a = none)
    : breadthFirst next found? nodes start
        =
      breadthFirst next found? (beyond next start nodes n) (generation next start n) := by
  induction n with
  | zero => simp [beyond, generation]
  | succ n ih =>
    rw [ih fun m hm => hsilent m (by omega)]
    rw [← beyond_succ, generation, ← List.append_nil (generation next start n)]
    rw [breadthFirst_front (nodup_beyond hnodup n)]
    · simp
    · exact hsilent n (by omega)
    · intro a ha hold b hb hnew
      rw [List.append_nil]
      exact mem_generation_of_visited hstart hnext ha hold hb hnew

include hnodup hstart hnext in
theorem breadthFirst_first {n : Nat} {a : α} {b : β}
    (hsilent : ∀ m, m < n → ∀ c, c ∈ generation next start m → found? c = none)
    (hfirst : (generation next start n).find? (fun c => (found? c).isSome) = some a)
    (hfound : found? a = some b)
    : breadthFirst next found? nodes start = some b := by
  have hmem : a ∈ generation next start n := List.mem_of_find?_eq_some hfirst
  obtain ⟨-, before, after, hsplit, hbefore⟩ := List.find?_eq_some_iff_append.1 hfirst
  rw [breadthFirst_generation hnodup hstart hnext hsilent, hsplit]
  rw [breadthFirst_front (nodup_beyond hnodup n)]
  · apply breadthFirst_found _ hfound
    simp only [List.mem_filter, mem_beyond, decide_eq_true_eq]
    refine ⟨⟨generation_subset hstart hnext n hmem, ?_⟩, ?_⟩
    · intro m hm ha
      simp [hsilent m hm a ha] at hfound
    · intro ha
      simpa [hfound] using hbefore a ha
  · intro c hc
    simpa using hbefore c hc
  · intro c hc hold d hd hnew
    rw [← hsplit]
    apply mem_generation_of_visited hstart hnext _ hold hd hnew
    rw [hsplit]
    exact List.mem_append_left _ hc

end Generations

/-! The search as a loop. -/

/--
A search that is under way: the nodes that are still to be looked at, in order, and those that have
been looked at.
-/
structure Search (α : Type) where
  queue : List α
  visited : List α

namespace Search

/--
Look at the first node of the queue. The search goes on or is at its end, with what was found, if
anything was.
-/
def turn (next : α → List α) (found? : α → Option β) (s : Search α) : Search α ⊕ Option β :=
  match s.queue with
  | [] => .inr none
  | a :: queue =>
    if a ∈ s.visited then
      .inl { s with queue := queue }
    else
      match found? a with
      | some b => .inr (some b)
      | none => .inl { queue := queue ++ next a, visited := a :: s.visited }

/--
How the search ends within so many turns; `none` if it does not.
-/
def endsWithin (next : α → List α) (found? : α → Option β) : Nat → Search α → Option (Option β)
  | 0, _ => none
  | turns + 1, s =>
    match s.turn next found? with
    | .inl s => endsWithin next found? turns s
    | .inr result => some result

/--
How many turns a search takes at most: one for each node in the queue, one for each step from a node
that has not been visited, and one to see that the queue is empty.
-/
def turns {α : Type} (next : α → List α) (unvisited queue : List α) : Nat :=
  queue.length + (unvisited.map fun a => (next a).length).sum + 1

theorem turns_cons {α : Type} (next : α → List α) (unvisited queue : List α) (a : α)
    : turns next unvisited (a :: queue) = turns next unvisited queue + 1 := by
  simp only [turns, List.length_cons]
  omega

theorem turns_silent {unvisited : List α} {a : α} (h : a ∈ unvisited) (queue : List α)
    : turns next unvisited (a :: queue)
        =
      turns next (unvisited.erase a) (queue ++ next a) + 1 := by
  have hsum := List.sum_map_erase (fun a => (next a).length) h
  simp only [turns, List.length_cons, List.length_append]
  omega

theorem endsWithin_turns {nodes unvisited queue visited : List α} (hnodup : unvisited.Nodup)
    (hqueue : queue ⊆ nodes) (hnext : ∀ a, a ∈ nodes → next a ⊆ nodes)
    (hvisited : ∀ a, a ∈ unvisited ↔ a ∈ nodes ∧ a ∉ visited)
    : endsWithin next found? (turns next unvisited queue) ⟨queue, visited⟩
        =
      some (breadthFirst next found? unvisited queue) := by
  -- The induction is that of the search; what it has not visited are the nodes not in `visited`.
  fun_induction breadthFirst next found? unvisited queue generalizing visited with
  | case1 unvisited => simp [turns, endsWithin, turn]
  | case2 unvisited a queue hmem b hfound =>
    have hnew := ((hvisited a).1 hmem).2
    rw [turns_cons, endsWithin]
    simp [turn, hnew, hfound]
  | case3 unvisited a queue hmem hfound ih =>
    obtain ⟨hnode, hnew⟩ := (hvisited a).1 hmem
    rw [turns_silent hmem, endsWithin]
    simp only [turn, hnew, if_false, hfound]
    apply ih
    · exact hnodup.erase a
    · simp only [List.append_subset]
      exact ⟨fun b hb => hqueue (List.mem_cons_of_mem a hb), hnext a hnode⟩
    · intro b
      rw [hnodup.mem_erase_iff, hvisited, List.mem_cons]
      tauto
  | case4 unvisited a queue hmem ih =>
    have hold : a ∈ visited := by
      by_contra hnew
      exact hmem ((hvisited a).2 ⟨hqueue List.mem_cons_self, hnew⟩)
    rw [turns_cons, endsWithin]
    simp only [turn, hold, if_true]
    apply ih hnodup
    · intro b hb
      exact hqueue (List.mem_cons_of_mem a hb)
    · exact hvisited

end Search

end DeprecatedUse

/-! Searches under new names. -/

namespace DeprecatedUse

variable {α α' β β' : Type} [DecidableEq α] [DecidableEq α']

def foundNode? (next : α → List α) (found? : α → Option β) (unvisited queue : List α) : Option α :=
  breadthFirst next (fun a => (found? a).map fun _ => a) unvisited queue

variable {next : α → List α} {found? : α → Option β}

theorem foundNode?_some {unvisited queue : List α} {a : α}
    (h : foundNode? next found? unvisited queue = some a)
    : a ∈ unvisited ∧ (found? a).isSome = true := by
  obtain ⟨b, hb, hfound⟩ := breadthFirst_some h
  obtain ⟨answer, hanswer, rfl⟩ := Option.map_eq_some_iff.1 hfound
  exact ⟨hb, Option.isSome_of_mem hanswer⟩

theorem breadthFirst_eq_bind (unvisited queue : List α)
    : breadthFirst next found? unvisited queue
        =
      (foundNode? next found? unvisited queue).bind found? := by
  unfold foundNode?
  fun_induction breadthFirst next found? unvisited queue with
  | case1 unvisited => rw [breadthFirst, Option.bind_none]
  | case2 unvisited a queue hmem b hfound =>
    rw [breadthFirst, if_pos hmem, hfound, Option.map_some]
    exact hfound.symm
  | case3 unvisited a queue hmem hfound ih =>
    rw [ih, breadthFirst, if_pos hmem, hfound, Option.map_none]
  | case4 unvisited a queue hmem ih => rw [ih, breadthFirst, if_neg hmem]

theorem erase_map {name : α → α'} {nodes unvisited : List α} {a : α}
    (hname : ∀ a ∈ nodes, ∀ b ∈ nodes, name a = name b → a = b) (ha : a ∈ nodes)
    (hunvisited : unvisited ⊆ nodes)
    : (unvisited.map name).erase (name a) = (unvisited.erase a).map name := by
  induction unvisited with
  | nil => rfl
  | cons b unvisited ih =>
    rw [List.cons_subset] at hunvisited
    rw [List.map_cons, List.erase_cons, List.erase_cons, ih hunvisited.2]
    by_cases hab : b = a
    · simp [hab]
    · have hne : name b ≠ name a := fun h => hab (hname b hunvisited.1 a ha h)
      simp [hab, hne]

theorem foundNode?_map {name : α → α'} {next' : α' → List α'} {found?' : α' → Option β'}
    (nodes unvisited queue : List α)
    (hname : ∀ a ∈ nodes, ∀ b ∈ nodes, name a = name b → a = b)
    (hclosed : ∀ a ∈ nodes, next a ⊆ nodes)
    (hnext : ∀ a ∈ nodes, next' (name a) = (next a).map name)
    (hfound : ∀ a ∈ nodes, (found?' (name a)).isSome = (found? a).isSome)
    (hunvisited : unvisited ⊆ nodes) (hqueue : queue ⊆ nodes)
    : foundNode? next' found?' (unvisited.map name) (queue.map name)
        =
      (foundNode? next found? unvisited queue).map name := by
  unfold foundNode?
  -- The induction is that of the search; `name` keeps nodes apart, so both searches turn alike.
  fun_induction breadthFirst next (fun a => (found? a).map fun _ => a) unvisited queue with
  | case1 unvisited => rw [List.map_nil, breadthFirst, Option.map_none]
  | case2 unvisited a queue hmem b hb =>
    obtain ⟨answer, hanswer, rfl⟩ := Option.map_eq_some_iff.1 hb
    have hsome := hfound a (hunvisited hmem)
    rw [hanswer, Option.isSome_some, Option.isSome_iff_exists] at hsome
    obtain ⟨answer', hanswer'⟩ := hsome
    rw [List.map_cons, breadthFirst, if_pos (List.mem_map_of_mem hmem), hanswer']
    rfl
  | case3 unvisited a queue hmem hb ih =>
    have hnode := hunvisited hmem
    have hnone := hfound a hnode
    rw [Option.map_eq_none_iff.1 hb, Option.isSome_none, Option.isSome_eq_false_iff,
      Option.isNone_iff_eq_none] at hnone
    rw [List.map_cons, breadthFirst, if_pos (List.mem_map_of_mem hmem), hnone, Option.map_none]
    dsimp only
    rw [erase_map hname hnode hunvisited, hnext a hnode, ← List.map_append]
    apply ih
    · exact List.Subset.trans List.erase_subset hunvisited
    · rw [List.append_subset]
      exact ⟨(List.cons_subset.1 hqueue).2, hclosed a hnode⟩
  | case4 unvisited a queue hmem ih =>
    obtain ⟨hnode, hqueue⟩ := List.cons_subset.1 hqueue
    have hvisited : name a ∉ unvisited.map name := by
      intro h
      obtain ⟨b, hb, heq⟩ := List.mem_map.1 h
      exact hmem (hname b (hunvisited hb) a hnode heq ▸ hb)
    rw [List.map_cons, breadthFirst, if_neg hvisited]
    exact ih hunvisited hqueue

end DeprecatedUse
