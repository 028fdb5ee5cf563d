/-!
This module contains breadth-first search through a graph that may have cycles.
-/

namespace DeprecatedUse

variable {α β : Type} [DecidableEq α]

/--
Visit the nodes of `queue` in order, then the nodes that `next` leads to from there, and so on, each
node of `unvisited` at most once, until `found?` succeeds. Nodes outside of `unvisited` are passed
over.
-/
def breadthFirst (next : α → List α) (found? : α → Option β) (unvisited : List α) :
    List α → Option β
  | [] => none
  | a :: queue =>
    if a ∈ unvisited then
      match found? a with
      | some b => some b
      | none => breadthFirst next found? (unvisited.erase a) (queue ++ next a)
    else
      breadthFirst next found? unvisited queue
termination_by queue => (unvisited.length, queue.length)
decreasing_by
  · rename_i h
    apply Prod.Lex.left
    have := List.length_pos_of_mem h
    rw [List.length_erase_of_mem h]
    omega
  · apply Prod.Lex.right
    simp

end DeprecatedUse
