import DeprecatedUse.Java.Token
import Mathlib

/-!
This module contains checked access to arrays by position. A run over an array gives a result, stops
with a fault, or never ends; nothing in its definition says that it ends. A position is tied to what
stands from there on: `xs.drop pos` is what is left to be read at `pos`.

A run that goes on with itself is put in by `apply`, so that a definition holds no mark of the place
where it is written.
-/

namespace DeprecatedUse.Java.Cursor

inductive Fault where
  | index
  | slice
  | underflow
  | overflow
deriving DecidableEq, Repr

/--
A run with a result or a fault; `none` is a run that does not end.
-/
abbrev Run := ExceptT Fault Option

variable {α β : Type}

def get (xs : List α) (pos : Nat) : Run α :=
  match xs[pos]? with
  | none => throw .index
  | some x => pure x

def slice (xs : List α) (start stop : Nat) : Run (List α) :=
  if start ≤ stop ∧ stop ≤ xs.length then pure ((xs.take stop).drop start) else throw .slice

def sub (a b : Nat) : Run Nat :=
  if b ≤ a then pure (a - b) else throw .underflow

def add32 (a b : Nat) : Run Nat :=
  if a + b < UInt32.size then pure (a + b) else throw .overflow

theorem get_eq {xs : List α} {pos : Nat} {x : α} (h : xs[pos]? = some x)
    : get xs pos = pure x := by
  rw [get, h]

theorem sub_eq {a b : Nat} (h : b ≤ a) : sub a b = pure (a - b) :=
  if_pos h

theorem add32_eq {a b : Nat} (h : a + b < UInt32.size) : add32 a b = pure (a + b) :=
  if_pos h

theorem slice_eq {xs : List α} {start : Nat} {part after : List α} (hle : start ≤ xs.length)
    (h : xs.drop start = part ++ after) : slice xs start (start + part.length) = pure part := by
  have hlength := congrArg List.length h
  rw [List.length_drop, List.length_append] at hlength
  rw [slice, if_pos (by omega), List.drop_take, h, Nat.add_sub_cancel_left, List.take_left]

theorem getElem?_of_drop {xs rest : List α} {pos : Nat} (h : xs.drop pos = rest) (n : Nat)
    : xs[pos + n]? = rest[n]? := by
  rw [← h, List.getElem?_drop]

theorem drop_add {xs rest : List α} {pos : Nat} (h : xs.drop pos = rest) (n : Nat)
    : xs.drop (pos + n) = rest.drop n := by
  rw [← h, List.drop_drop]

theorem drop_append {xs part after : List α} {pos : Nat} (h : xs.drop pos = part ++ after)
    : xs.drop (pos + part.length) = after := by
  rw [drop_add h, List.drop_left]

theorem getElem?_of_drop_nil {xs : List α} {pos : Nat} (h : xs.drop pos = []) : xs[pos]? = none :=
  getElem?_of_drop h 0

theorem getElem?_of_drop_cons {xs rest : List α} {x : α} {pos : Nat} (h : xs.drop pos = x :: rest)
    : xs[pos]? = some x :=
  getElem?_of_drop h 0

theorem drop_succ {xs rest : List α} {x : α} {pos : Nat} (h : xs.drop pos = x :: rest)
    : xs.drop (pos + 1) = rest :=
  drop_add h 1

theorem lt_length {xs rest : List α} {x : α} {pos : Nat} (h : xs.drop pos = x :: rest)
    : pos < xs.length := by
  have hlength := congrArg List.length h
  rw [List.length_drop, List.length_cons] at hlength
  omega

/--
The run gives a value and a position from which `rest` is left.
-/
def Reads (xs : List α) (run : Run (β × Nat)) (value : β) (rest : List α) : Prop :=
  ∃ pos, run = pure (value, pos) ∧ xs.drop pos = rest

theorem Reads.pure {xs rest : List α} {value : β} {pos : Nat} (h : xs.drop pos = rest)
    : Reads xs (Pure.pure (value, pos)) value rest :=
  ⟨pos, rfl, h⟩

end DeprecatedUse.Java.Cursor
