import Mathlib.Order.Basic
import Mathlib.Data.List.Basic
import Mathlib.Order.Lattice

/-! # Running best

A loop that walks a list and keeps the best eligible entry seen so far, where a later entry
only replaces the current one if its key is strictly greater. What it holds after `n` entries
is the earliest entry of greatest key among the eligible ones.
-/

namespace RampartBoot.Foundation

variable {α β : Type*} [LinearOrder β] {P : α → Prop} {k : α → β} {l : List α} {n i : ℕ} {a b : α}
  {o : Option ℕ}

/-- `o` is the index of the earliest entry of greatest key among the first `n` entries of `l`
that satisfy `P`, and `none` if there is no such entry. -/
def BestBelow (P : α → Prop) (k : α → β) (l : List α) (n : ℕ) (o : Option ℕ) : Prop :=
  match o with
  | none => ∀ j b, j < n → l[j]? = some b → ¬ P b
  | some i => i < n ∧ ∃ a, l[i]? = some a ∧ P a ∧
      ∀ j b, j < n → l[j]? = some b → P b → k b < k a ∨ k b = k a ∧ i ≤ j

namespace BestBelow

theorem zero : BestBelow P k l 0 none := fun _ _ h => absurd h (by omega)

/-- An entry that is not eligible changes nothing. -/
theorem skip (h : BestBelow P k l n o) (ha : l[n]? = some a) (hP : ¬ P a) :
    BestBelow P k l (n + 1) o := by
  have hnext : ∀ j b, j < n + 1 → l[j]? = some b → P b → j < n := by
    intro j b hj hb hPb
    by_contra hjn
    obtain rfl : j = n := by omega
    obtain rfl := Option.some.inj (ha.symm.trans hb)
    exact hP hPb
  cases o with
  | none => exact fun j b hj hb hPb => h j b (hnext j b hj hb hPb) hb hPb
  | some i =>
    obtain ⟨hi, c, hc, hPc, hbest⟩ := h
    exact ⟨by omega, c, hc, hPc, fun j b hj hb hPb => hbest j b (hnext j b hj hb hPb) hb hPb⟩

/-- The first eligible entry is the best so far. -/
theorem first (h : BestBelow P k l n none) (ha : l[n]? = some a) (hP : P a) :
    BestBelow P k l (n + 1) (some n) := by
  refine ⟨by omega, a, ha, hP, fun j b hj hb hPb => ?_⟩
  by_cases hjn : j = n
  · subst hjn
    obtain rfl := Option.some.inj (ha.symm.trans hb)
    exact .inr ⟨rfl, Nat.le_refl _⟩
  · exact absurd hPb (h j b (by omega) hb)

/-- An eligible entry of strictly greater key takes over. -/
theorem replace (h : BestBelow P k l n (some i)) (ha : l[n]? = some a) (hP : P a)
    (hb : l[i]? = some b) (hlt : k b < k a) : BestBelow P k l (n + 1) (some n) := by
  obtain ⟨-, c, hc, -, hbest⟩ := h
  obtain rfl := Option.some.inj (hb.symm.trans hc)
  refine ⟨by omega, a, ha, hP, fun j d hj hd hPd => ?_⟩
  by_cases hjn : j = n
  · subst hjn
    obtain rfl := Option.some.inj (ha.symm.trans hd)
    exact .inr ⟨rfl, Nat.le_refl _⟩
  · rcases hbest j d (by omega) hd hPd with hd' | ⟨hd', -⟩
    · exact .inl (hd'.trans hlt)
    · exact .inl (hd' ▸ hlt)

/-- Any other entry leaves the current one, which comes earlier. -/
theorem keep (h : BestBelow P k l n (some i)) (ha : l[n]? = some a) (hb : l[i]? = some b)
    (hle : ¬ k b < k a) : BestBelow P k l (n + 1) (some i) := by
  obtain ⟨hi, c, hc, hPc, hbest⟩ := h
  obtain rfl := Option.some.inj (hb.symm.trans hc)
  refine ⟨by omega, b, hb, hPc, fun j d hj hd hPd => ?_⟩
  by_cases hjn : j = n
  · subst hjn
    obtain rfl := Option.some.inj (ha.symm.trans hd)
    rcases lt_or_eq_of_le (not_lt.mp hle) with hlt | heq
    · exact .inl hlt
    · exact .inr ⟨heq, Nat.le_of_lt hi⟩
  · exact hbest j d (by omega) hd hPd

/-- Over the whole list, there is a best entry exactly if some entry is eligible. -/
theorem isSome_iff (h : BestBelow P k l l.length o) : o.isSome ↔ ∃ a ∈ l, P a := by
  cases o with
  | none =>
    simp only [Option.isSome_none, Bool.false_eq_true, false_iff, not_exists, not_and]
    intro a ha
    obtain ⟨j, hj⟩ := List.getElem?_of_mem ha
    obtain ⟨hlt, -⟩ := List.getElem?_eq_some_iff.mp hj
    exact h j a hlt hj
  | some i =>
    obtain ⟨-, a, ha, hP, -⟩ := h
    exact ⟨fun _ => ⟨a, List.mem_of_getElem? ha, hP⟩, fun _ => rfl⟩

end BestBelow

def FirstBest (P : α → Prop) (k : α → β) (l : List α) (a : α) : Prop :=
  P a ∧ ∃ front rest, l = front ++ a :: rest ∧ (∀ b ∈ front, P b → k b < k a) ∧
    ∀ b ∈ rest, P b → k b ≤ k a

theorem BestBelow.firstBest (h : BestBelow P k l l.length (some i)) (ha : l[i]? = some a) :
    FirstBest P k l a := by
  obtain ⟨hi, c, hc, hP, hbest⟩ := h
  obtain rfl := Option.some.inj (hc.symm.trans ha)
  obtain ⟨hlt, rfl⟩ := List.getElem?_eq_some_iff.mp ha
  refine ⟨hP, l.take i, l.drop (i + 1), ?_, fun b hb hPb => ?_, fun b hb hPb => ?_⟩
  · rw [List.getElem_cons_drop, List.take_append_drop]
  · obtain ⟨j, hj, rfl⟩ := List.mem_take_iff_getElem.mp hb
    rcases hbest j _ (by omega) (List.getElem?_eq_getElem _) hPb with hlt | ⟨-, hle⟩
    · exact hlt
    · omega
  · obtain ⟨j, hj⟩ := List.getElem?_of_mem (List.mem_of_mem_drop hb)
    obtain ⟨hlt, -⟩ := List.getElem?_eq_some_iff.mp hj
    rcases hbest j b hlt hj hPb with hlt | ⟨heq, -⟩
    · exact hlt.le
    · exact heq.le

namespace FirstBest

theorem greatest (h : FirstBest P k l a) (hb : b ∈ l) (hPb : P b) : k b ≤ k a := by
  obtain ⟨-, front, rest, rfl, hfront, hrest⟩ := h
  rcases List.mem_append.mp hb with hb | hb
  · exact (hfront b hb hPb).le
  · rcases List.mem_cons.mp hb with rfl | hb
    · exact le_rfl
    · exact hrest b hb hPb

theorem mem (h : FirstBest P k l a) : a ∈ l := by
  obtain ⟨-, front, rest, rfl, -⟩ := h
  exact List.mem_append_right _ List.mem_cons_self

theorem unique (ha : FirstBest P k l a) (hb : FirstBest P k l b) : a = b := by
  have hba : k b ≤ k a := ha.greatest hb.mem hb.1
  have hab : k a ≤ k b := hb.greatest ha.mem ha.1
  obtain ⟨hPa, front, rest, rfl, hfront, -⟩ := ha
  obtain ⟨hPb, front', rest', heq, hfront', -⟩ := hb
  -- the longer of the two fronts would hold an entry of the greatest key
  rcases List.append_eq_append_iff.mp heq with ⟨x, rfl, hx⟩ | ⟨x, rfl, hx⟩
  · cases x with
    | nil => exact (List.cons.inj hx).1
    | cons c x =>
      obtain ⟨rfl, -⟩ := List.cons.inj hx
      exact absurd (hfront' a (by simp) hPa) hba.not_gt
  · cases x with
    | nil => exact (List.cons.inj hx).1.symm
    | cons c x =>
      obtain ⟨rfl, -⟩ := List.cons.inj hx
      exact absurd (hfront b (by simp) hPb) hab.not_gt

variable {l' : List α}

/-- Entries behind that are no better change nothing. -/
theorem append_left (h : FirstBest P k l a) (hle : ∀ b ∈ l', P b → k b ≤ k a) :
    FirstBest P k (l ++ l') a := by
  obtain ⟨hP, front, rest, rfl, hfront, hrest⟩ := h
  refine ⟨hP, front, rest ++ l', by simp, hfront, fun b hb hPb => ?_⟩
  rcases List.mem_append.mp hb with hb | hb
  · exact hrest b hb hPb
  · exact hle b hb hPb

/-- Neither do entries in front that are worse. -/
theorem append_right (h : FirstBest P k l' b) (hlt : ∀ a ∈ l, P a → k a < k b) :
    FirstBest P k (l ++ l') b := by
  obtain ⟨hP, front, rest, rfl, hfront, hrest⟩ := h
  refine ⟨hP, l ++ front, rest, by simp, fun c hc hPc => ?_, hrest⟩
  rcases List.mem_append.mp hc with hc | hc
  · exact hlt c hc hPc
  · exact hfront c hc hPc

/-- The best of two lists joined is the better of their two best entries. -/
theorem append (ha : FirstBest P k l a) (hb : FirstBest P k l' b) :
    FirstBest P k (l ++ l') (if k a < k b then b else a) := by
  split_ifs with hlt
  · exact hb.append_right fun c hc hPc => (ha.greatest hc hPc).trans_lt hlt
  · exact ha.append_left fun c hc hPc => (hb.greatest hc hPc).trans (not_lt.mp hlt)

variable [DecidablePred P]

/-- Entries that do not satisfy `P` play no part. -/
theorem filter (h : FirstBest P k l a) : FirstBest P k (l.filter P) a := by
  obtain ⟨hP, front, rest, rfl, hfront, hrest⟩ := h
  refine ⟨hP, front.filter P, rest.filter P, ?_, fun b hb => ?_, fun b hb => ?_⟩
  · rw [List.filter_append, List.filter_cons_of_pos (by simpa using hP)]
  · exact hfront b (List.mem_of_mem_filter hb)
  · exact hrest b (List.mem_of_mem_filter hb)

theorem eq_of_filter_eq {l' : List α} (h : FirstBest P k l a) (h' : FirstBest P k l' b)
    (hl : l.filter P = l'.filter P) : a = b :=
  h.filter.unique (hl ▸ h'.filter)

end FirstBest

end RampartBoot.Foundation
