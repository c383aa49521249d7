import RampartBoot.Stage0.AntiRollback
import RampartBoot.Stage0.SlotOrder

/-! # Slot tables one behind the other

The two loops come to the best candidate under one key, in which a trial stands above everything
confirmed. So the selection over a table is put together from the selections over its parts.
-/

namespace RampartBoot.Stage0
open Foundation RampartBoot.Core

variable {z : SizeT} {e : UInt32} {c c₁ c₂ : Stage1Candidate z} {cs ds : List (Stage1Candidate z)}
  {i j : ℕ}

/-- The order in which eligible candidates are booted: trials first, then by preference. -/
def bootKey (c : Stage1Candidate z) : ℕ ×ₗ (ℕ ×ₗ ℕᵒᵈ) :=
  toLex (if c.state = .trial then 1 else 0, preferenceKey c)

theorem bootKey_lt_of_trial (hc : c₁.state ≠ .trial) (hd : c₂.state = .trial) :
    bootKey c₁ < bootKey c₂ := by
  rw [bootKey, bootKey, if_neg hc, if_pos hd, Prod.Lex.toLex_lt_toLex]
  exact .inl Nat.one_pos

theorem bootKey_lt_iff (h : c₁.state = c₂.state) :
    bootKey c₁ < bootKey c₂ ↔ preferenceKey c₁ < preferenceKey c₂ := by
  rw [bootKey, bootKey, h, Prod.Lex.toLex_lt_toLex]
  simp only [lt_self_iff_false, true_and, false_or]

theorem bootKey_le_iff (h : c₁.state = c₂.state) :
    bootKey c₁ ≤ bootKey c₂ ↔ preferenceKey c₁ ≤ preferenceKey c₂ := by
  rw [← not_lt, ← not_lt, bootKey_lt_iff h.symm]

/-- The two passes find the best of all eligible candidates. -/
theorem ToBoot.firstBest (h : ToBoot cs e i c) : FirstBest (Eligible e) bootKey cs c := by
  have hmem := h.mem
  have heligible := h.eligible
  rcases h with h | ⟨hnone, h⟩
  · obtain ⟨-, front, rest, rfl, hfront, hrest⟩ := h.firstBest
    have hstate : c.state = .trial := h.eligible.reason
    refine ⟨heligible, front, rest, rfl, fun d hd hed => ?_, fun d hd hed => ?_⟩
    · rcases hed.trial_or_confirmed with ht | hc
      · exact (bootKey_lt_iff (ht.reason.trans hstate.symm)).mpr (hfront d hd ht)
      · exact bootKey_lt_of_trial (by rw [hc.reason]; decide) hstate
    · rcases hed.trial_or_confirmed with ht | hc
      · exact (bootKey_le_iff (ht.reason.trans hstate.symm)).mpr (hrest d hd ht)
      · exact (bootKey_lt_of_trial (by rw [hc.reason]; decide) hstate).le
  · obtain ⟨-, front, rest, rfl, hfront, hrest⟩ := h.firstBest
    have hstate : c.state = .confirmed := h.eligible.reason
    refine ⟨heligible, front, rest, rfl, fun d hd hed => ?_, fun d hd hed => ?_⟩
    · rcases hed.trial_or_confirmed with ht | hc
      · exact absurd ⟨d, by simp [hd], ht⟩ hnone
      · exact (bootKey_lt_iff (hc.reason.trans hstate.symm)).mpr (hfront d hd hc)
    · rcases hed.trial_or_confirmed with ht | hc
      · exact absurd ⟨d, by simp [hd], ht⟩ hnone
      · exact (bootKey_le_iff (hc.reason.trans hstate.symm)).mpr (hrest d hd hc)

section Selections
variable {prior prior₁ prior₂ d d₁ d₂ : Stage0Decision z} {st st₁ st₂ : Status}

/-- A decision says all about its candidate that a caller learns. -/
theorem Selects.decision_eq (h : Selects cs e prior .ok d) (h₁ : Selects ds e prior₁ .ok d₁)
    (hd : ToBoot cs e i c) (hd₁ : ToBoot ds e j c) : d = d₁ := by
  obtain ⟨_, c', hboot, hpref, hslot, hentry⟩ := h.toBoot
  obtain ⟨_, c'', hboot₁, hpref₁, hslot₁, hentry₁⟩ := h₁.toBoot
  obtain rfl := hboot.unique hd
  obtain rfl := hboot₁.unique hd₁
  exact decision_ext (hslot.trans hslot₁.symm) (hentry.trans hentry₁.symm)
    (hpref.eligible.reason_eq hpref₁.eligible)

/-- The candidate to boot is known from its being the best. -/
theorem Selects.toBoot_of_firstBest (h : Selects cs e prior .ok d)
    (hc : FirstBest (Eligible e) bootKey cs c) : ∃ i, ToBoot cs e i c := by
  obtain ⟨i, c', hboot, -⟩ := h.toBoot
  obtain rfl := hboot.firstBest.unique hc
  exact ⟨i, hboot⟩

end Selections

/-- The selection over two tables one behind the other succeeds if one of the two selections does.
With one of them it decides as that one, and with both as the one whose candidate comes first in
the order of booting, the front table where they tie. -/
theorem rampartStage0SelectStage1_joined (cs ds : List (Stage1Candidate z)) (e : UInt32)
    (prior prior₁ prior₂ : Stage0Decision z) : ∃ st d st₁ d₁ st₂ d₂,
      call (rampartStage0SelectStage1 (some ⟨cs ++ ds, 0⟩) (cs ++ ds).length e) (some prior) =
        .ok (st, some d) ∧
      call (rampartStage0SelectStage1 (some ⟨cs, 0⟩) cs.length e) (some prior₁) =
        .ok (st₁, some d₁) ∧
      call (rampartStage0SelectStage1 (some ⟨ds, 0⟩) ds.length e) (some prior₂) =
        .ok (st₂, some d₂) ∧
      (st = .ok ↔ st₁ = .ok ∨ st₂ = .ok) ∧
      (st₁ = .ok → st₂ ≠ .ok → d = d₁) ∧ (st₁ ≠ .ok → st₂ = .ok → d = d₂) ∧
      ∀ i c₁ j c₂, ToBoot cs e i c₁ → ToBoot ds e j c₂ →
        d = if bootKey c₁ < bootKey c₂ then d₂ else d₁ := by
  obtain ⟨st, _, hcall, d, rfl, h⟩ :=
    exists_call (wps_rampartStage0SelectStage1 e (cs ++ ds) prior) fun _ h => h
  obtain ⟨st₁, _, hcall₁, d₁, rfl, h₁⟩ :=
    exists_call (wps_rampartStage0SelectStage1 e cs prior₁) fun _ h => h
  obtain ⟨st₂, _, hcall₂, d₂, rfl, h₂⟩ :=
    exists_call (wps_rampartStage0SelectStage1 e ds prior₂) fun _ h => h
  have hok : st = .ok ↔ st₁ = .ok ∨ st₂ = .ok := by
    rw [h.ok_iff, h₁.ok_iff, h₂.ok_iff]
    simp only [List.mem_append, or_and_right, exists_or]
  refine ⟨st, d, st₁, d₁, st₂, d₂, hcall, hcall₁, hcall₂, hok, ?_, ?_, ?_⟩
  · rintro rfl hfail
    obtain rfl := hok.mpr (.inl rfl)
    obtain ⟨i, c, hboot, -⟩ := h₁.toBoot
    have hnone : ∀ b ∈ ds, Eligible e b → bootKey b ≤ bootKey c := fun b hb heb =>
      absurd (h₂.ok_iff.mpr ⟨b, hb, heb⟩) hfail
    obtain ⟨j, hjoined⟩ := h.toBoot_of_firstBest (hboot.firstBest.append_left hnone)
    exact h.decision_eq h₁ hjoined hboot
  · rintro hfail rfl
    obtain rfl := hok.mpr (.inr rfl)
    obtain ⟨i, c, hboot, -⟩ := h₂.toBoot
    have hnone : ∀ b ∈ cs, Eligible e b → bootKey b < bootKey c := fun b hb heb =>
      absurd (h₁.ok_iff.mpr ⟨b, hb, heb⟩) hfail
    obtain ⟨j, hjoined⟩ := h.toBoot_of_firstBest (hboot.firstBest.append_right hnone)
    exact h.decision_eq h₂ hjoined hboot
  · intro i c₁ j c₂ hboot₁ hboot₂
    obtain rfl := h₁.ok_iff.mpr ⟨c₁, hboot₁.mem, hboot₁.eligible⟩
    obtain rfl := h₂.ok_iff.mpr ⟨c₂, hboot₂.mem, hboot₂.eligible⟩
    obtain rfl := hok.mpr (.inl rfl)
    obtain ⟨k, hjoined⟩ := h.toBoot_of_firstBest (hboot₁.firstBest.append hboot₂.firstBest)
    split_ifs at hjoined ⊢ with hlt
    · exact h.decision_eq h₂ hjoined hboot₂
    · exact h.decision_eq h₁ hjoined hboot₁

end RampartBoot.Stage0
