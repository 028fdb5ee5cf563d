import DeprecatedUse.Text.Character

/-!
This module contains the cutting of texts: blanks at the ends, lines, and the parts around a
separator. A text is handled as the list of its characters, or of its bytes where it need not be
text.
-/

namespace DeprecatedUse.Text

def trimStart (cs : List Char) : List Char :=
  cs.dropWhile isBlank

def trimEnd (cs : List Char) : List Char :=
  (cs.reverse.dropWhile isBlank).reverse

def trim (cs : List Char) : List Char :=
  trimEnd (trimStart cs)

section

variable {α : Type} [DecidableEq α]

/--
The parts of a text between the separators. There is always one part more than there are
separators.
-/
def splitOn (sep : α) : List α → List (List α)
  | [] => [[]]
  | c :: rest =>
    if c = sep then
      [] :: splitOn sep rest
    else
      match splitOn sep rest with
      | [] => [[c]]
      | part :: parts => (c :: part) :: parts

theorem splitOn_ne_nil (sep : α) (cs : List α) : splitOn sep cs ≠ [] := by
  cases cs with
  | nil => simp [splitOn]
  | cons c rest =>
    rw [splitOn]
    split
    · simp
    · split <;> simp

def splitFirst? (sep : α) (cs : List α) : Option (List α × List α) :=
  match cs.dropWhile (· != sep) with
  | [] => none
  | _ :: rest => some (cs.takeWhile (· != sep), rest)

def afterLast (sep : α) (cs : List α) : List α :=
  (cs.reverse.takeWhile (· != sep)).reverse

def dropLeading (mark : List α) (cs : List α) : List α :=
  match mark.isPrefixOf? cs with
  | none => cs
  | some rest =>
    if rest.length < cs.length then dropLeading mark rest else cs
termination_by cs.length

def dropTrailing (mark : List α) (cs : List α) : List α :=
  (dropLeading mark.reverse cs.reverse).reverse

end

def join {α : Type} (sep : List α) (parts : List (List α)) : List α :=
  (parts.intersperse sep).flatten

end DeprecatedUse.Text
