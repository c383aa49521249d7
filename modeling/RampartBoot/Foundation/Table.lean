import RampartBoot.Foundation.LittleEndian

/-! # Format tables

A table lists the fields of a format row by row, each with its offset, its size and its
value. Rows that follow one another describe exactly one list, and a list is that one
exactly when it has the right length and every row can be read off it at its offset.
-/

namespace RampartBoot.Foundation

variable {α : Type*}

structure Row (α : Type*) where
  offset : ℕ
  size : ℕ
  value : List α

abbrev Table (α : Type*) := List (Row α)

namespace Table

def bytes (t : Table α) : List α := t.flatMap Row.value

def size (t : Table α) : ℕ := (t.map Row.size).sum

/-- The rows follow one another from `start` on, each as long as it says. -/
def Contiguous (start : ℕ) : Table α → Prop
  | [] => True
  | r :: t => r.offset = start ∧ r.value.length = r.size ∧ Contiguous (start + r.size) t

def HoldsIn (t : Table α) (s : List α) : Prop := ∀ r ∈ t, slice s r.offset r.size = r.value

@[simp] theorem holdsIn_nil (s : List α) : HoldsIn ([] : Table α) s ↔ True := by simp [HoldsIn]

@[simp] theorem holdsIn_cons (r : Row α) (t : Table α) (s : List α) :
    HoldsIn (r :: t : Table α) s ↔ slice s r.offset r.size = r.value ∧ t.HoldsIn s := by
  simp [HoldsIn]

theorem bytes_length {t : Table α} {start : ℕ} (h : t.Contiguous start) :
    t.bytes.length = t.size := by
  induction t generalizing start with
  | nil => rfl
  | cons r t ih =>
    have ht : (t.flatMap Row.value).length = (t.map Row.size).sum := ih h.2.2
    simp [bytes, size, h.2.1, ht]

theorem size_cons (r : Row α) (t : Table α) : size (r :: t) = r.size + size t := by simp [size]

theorem size_append (t u : Table α) : size (t ++ u) = size t + size u := by simp [size]

/-- A stretch of a list is the one described exactly when every row can be read there. -/
theorem slice_eq_bytes_iff {t : Table α} {start : ℕ} {s : List α} (h : t.Contiguous start)
    (hs : start + t.size ≤ s.length) : slice s start t.size = t.bytes ↔ t.HoldsIn s := by
  induction t generalizing start with
  | nil => simp [slice, size, bytes]
  | cons r t ih =>
    obtain ⟨hoff, hlen, ht⟩ := h
    rw [size_cons] at hs
    have hcut : slice s start (size (r :: t)) =
        slice s start r.size ++ slice s (start + r.size) (size t) := by
      rw [slice_append_slice, size_cons]
    have hl : (slice s start r.size).length = r.value.length := by
      rw [slice_length_of_le (by omega), hlen]
    rw [hcut, holdsIn_cons, hoff, ← ih ht (by omega)]
    constructor
    · intro heq
      exact List.append_inj heq hl
    · rintro ⟨h₁, h₂⟩
      rw [h₁, h₂]; rfl

theorem eq_bytes_iff {t : Table α} (h : t.Contiguous 0) {s : List α} :
    s = t.bytes ↔ s.length = t.size ∧ t.HoldsIn s := by
  constructor
  · rintro rfl
    have hl := bytes_length h
    refine ⟨hl, (slice_eq_bytes_iff h (by omega)).mp ?_⟩
    rw [← hl, slice_self]
  · rintro ⟨hl, hs⟩
    rw [← (slice_eq_bytes_iff h (by omega)).mpr hs, ← hl, slice_self]

theorem holdsIn_bytes_append {t : Table α} (h : t.Contiguous 0) (s : List α) :
    t.HoldsIn (t.bytes ++ s) := by
  have hl := bytes_length h
  refine (slice_eq_bytes_iff h (by rw [List.length_append]; omega)).mp ?_
  rw [slice_append_left (by omega), ← hl, slice_self]

end Table

end RampartBoot.Foundation
