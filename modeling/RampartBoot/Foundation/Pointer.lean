import RampartBoot.Foundation.Loops
import RampartBoot.Foundation.LittleEndian

/-! # Pointers into immutable objects and unsigned sizes

A pointer names an object and an index in it; `none` is the null pointer. Reading outside
the object and forming an address beyond its end are faults. Sizes are natural numbers up
to the largest value of the target's size type; an addition above it or a subtraction below
zero is a fault as well, so a run without faults never wraps.
-/

namespace RampartBoot.Foundation

variable {α ε : Type}

structure Ptr (α : Type) where
  obj : List α
  off : ℕ
  deriving DecidableEq, Repr

/-- The object holds `s` from the address of `p` on. -/
def Ptr.Points (p : Ptr α) (s : List α) : Prop :=
  p.off + s.length ≤ p.obj.length ∧ slice p.obj p.off s.length = s

def load (p : Option (Ptr α)) (i : ℕ) : Checked ε α :=
  match p with
  | none => fault .null
  | some p => match p.obj[p.off + i]? with
    | some a => pure a
    | none => fault .load

/-- The pointer `&p[i]`, which may stand just behind the last entry. -/
def address (p : Option (Ptr α)) (i : ℕ) : Checked ε (Option (Ptr α)) :=
  match p with
  | none => fault .null
  | some p => if p.off + i ≤ p.obj.length then pure (some ⟨p.obj, p.off + i⟩) else fault .address

/-- The `n` entries from the address `p` on, where all of them are inside the object. -/
def entries (p : Option (Ptr α)) (n : ℕ) : Option (List α) :=
  match p with
  | none => none
  | some p => if p.off + n ≤ p.obj.length then some (slice p.obj p.off n) else none

namespace Ptr

variable {p : Ptr α} {s : List α}

theorem points_whole (s : List α) : Points ⟨s, 0⟩ s := by simp [Points]

theorem Points.getElem? (h : p.Points s) {i : ℕ} (hi : i < s.length) :
    p.obj[p.off + i]? = s[i]? := by
  rw [← getElem?_slice hi, h.2]

theorem Points.load_eq (h : p.Points s) {i : ℕ} (hi : i < s.length) :
    (load (some p) i : Checked ε α) = .ok s[i] := by
  simp [load, h.getElem? hi, hi, pure, Except.pure]

theorem Points.address_eq (h : p.Points s) {i : ℕ} (hi : i ≤ s.length) :
    (address (some p) i : Checked ε (Option (Ptr α))) = .ok (some ⟨p.obj, p.off + i⟩) := by
  have := h.1
  simp [address, show p.off + i ≤ p.obj.length by omega, pure, Except.pure]

theorem Points.entries_eq (h : p.Points s) {n : ℕ} (hn : s.length = n) :
    entries (some p) n = some s := by
  subst hn
  simp [entries, h.1, h.2]

theorem Points.inj {t : List α} (h : p.Points s) (h' : p.Points t) (hlen : s.length = t.length) :
    s = t := by
  rw [← h.2, ← h'.2, hlen]

/-- The address of an entry points to any part of the object that starts there. -/
theorem Points.sub (h : p.Points s) {i n : ℕ} (hi : i + n ≤ s.length) :
    Points ⟨p.obj, p.off + i⟩ (slice s i n) := by
  have hl := slice_length_of_le hi
  refine ⟨by rw [hl]; have := h.1; dsimp only; omega, ?_⟩
  rw [hl, ← h.2, slice_slice (by simpa using hi)]

end Ptr

structure SizeT where
  bits : ℕ
  bits_ge : 32 ≤ bits

namespace SizeT

def host : SizeT := ⟨64, by decide⟩

def embedded : SizeT := ⟨32, by decide⟩

def max (z : SizeT) : ℕ := 2 ^ z.bits - 1

theorem u32_le_max (z : SizeT) : 2 ^ 32 - 1 ≤ z.max :=
  Nat.sub_le_sub_right (Nat.pow_le_pow_right (by decide) z.bits_ge) 1

def add (z : SizeT) (a b : ℕ) : Checked ε ℕ :=
  if a + b ≤ z.max then pure (a + b) else fault .overflow

def ofU32 (z : SizeT) (v : UInt32) : ℕ := v.toNat % 2 ^ z.bits

@[simp] theorem ofU32_eq (z : SizeT) (v : UInt32) : z.ofU32 v = v.toNat := by
  have h : 2 ^ 32 ≤ 2 ^ z.bits := Nat.pow_le_pow_right (by decide) z.bits_ge
  exact Nat.mod_eq_of_lt (Nat.lt_of_lt_of_le v.toNat_lt h)

theorem add_eq {z : SizeT} {a b : ℕ} (h : a + b ≤ z.max) :
    (z.add a b : Checked ε ℕ) = .ok (a + b) := by
  simp [add, h, pure, Except.pure]

end SizeT

/-- A caller's buffer: its length is a value of the size type. -/
structure Buffer (z : SizeT) where
  bytes : List UInt8
  fits : bytes.length ≤ z.max

namespace Buffer

variable {z : SizeT}

def start (b : Buffer z) : Ptr UInt8 := ⟨b.bytes, 0⟩

def len (b : Buffer z) : ℕ := b.bytes.length

theorem points (b : Buffer z) : b.start.Points b.bytes := Ptr.points_whole b.bytes

end Buffer

def sizeSub (a b : ℕ) : Checked ε ℕ := if b ≤ a then pure (a - b) else fault .underflow

theorem sizeSub_eq {a b : ℕ} (h : b ≤ a) : (sizeSub a b : Checked ε ℕ) = .ok (a - b) := by
  simp [sizeSub, h, pure, Except.pure]

end RampartBoot.Foundation
