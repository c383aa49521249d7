import Mathlib.Data.List.Basic

/-! # Marks on a stack of errors

A stack of errors keeps the newest entries and drops the oldest when it is full. A caller puts a
mark on the topmost entry, lets others raise errors, and pops back to the mark.
-/

namespace RampartBoot.Foundation

/-- An entry of the stack, with the number of marks on it. -/
structure Marked (α : Type*) where
  error : α
  marks : ℕ
  deriving DecidableEq, Repr

def unmarked {α : Type*} (error : α) : Marked α := ⟨error, 0⟩

variable {α : Type*} {cap : ℕ} {l : List (Marked α)} {new older : List α}

def setMark : List (Marked α) → List (Marked α)
  | [] => []
  | top :: rest => { top with marks := top.marks + 1 } :: rest

/-- Pop up to the newest mark and take it away. Without a mark nothing is left. -/
def popToMark : List (Marked α) → List (Marked α)
  | [] => []
  | top :: rest =>
    if top.marks = 0 then popToMark rest else { top with marks := top.marks - 1 } :: rest

/-- The stack after the errors `new`, newest first, with room for `cap` entries. -/
def raise (cap : ℕ) (new : List α) (l : List (Marked α)) : List (Marked α) :=
  (new.map unmarked ++ l).take cap

theorem length_setMark (l : List (Marked α)) : (setMark l).length = l.length := by
  cases l <;> rfl

theorem length_popToMark_le (l : List (Marked α)) : (popToMark l).length ≤ l.length := by
  induction l with
  | nil => exact Nat.le_refl _
  | cons top rest ih =>
    unfold popToMark
    split_ifs
    · exact Nat.le_trans ih (Nat.le_succ _)
    · exact Nat.le_refl _

theorem length_raise_le : (raise cap new l).length ≤ cap := List.length_take_le ..

theorem take_append_take {β : Type*} (s t : List β) (n : ℕ) :
    (s ++ t.take n).take n = (s ++ t).take n := by
  rw [List.take_append, List.take_take, Nat.min_eq_left (Nat.sub_le _ _), ← List.take_append]

theorem raise_raise : raise cap new (raise cap older l) = raise cap (new ++ older) l := by
  rw [raise, raise, raise, List.map_append, List.append_assoc, take_append_take]

theorem popToMark_unmarked_append (new : List α) (l : List (Marked α)) :
    popToMark (new.map unmarked ++ l) = popToMark l := by
  induction new with
  | nil => rfl
  | cons e new ih =>
    rw [List.map_cons, List.cons_append, popToMark, unmarked, if_pos rfl, ih]

theorem popToMark_take_setMark (n : ℕ) : popToMark ((setMark l).take n) = l.take n := by
  cases l with
  | nil => simp [setMark, popToMark]
  | cons top rest =>
    cases n with
    | zero => rfl
    | succ n =>
      rw [setMark, List.take_succ_cons, popToMark, if_neg (Nat.succ_ne_zero _), List.take_succ_cons]
      rfl

/-- Behind the mark the stack is as it was, except for what had to make room. -/
theorem popToMark_raise_setMark : popToMark (raise cap new (setMark l)) =
    l.take (cap - new.length) := by
  rw [raise, List.take_append, List.length_map, ← List.map_take, popToMark_unmarked_append,
    popToMark_take_setMark]

end RampartBoot.Foundation
