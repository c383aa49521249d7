import RampartBoot.Stage0.EntryPoint

/-! # Raising the anti-rollback floor

The security epoch is the first key of the preference, so a floor either leaves the preferred
candidate of a class alone or removes the whole class.
-/

namespace RampartBoot.Stage0
open Foundation RampartBoot.Core

variable {z : SizeT} {e e₁ e₂ : UInt32} {c d : Stage1Candidate z} {cs : List (Stage1Candidate z)}
  {reason : Stage0DecisionReason} {i : ℕ}

/-- A higher floor asks for a higher epoch and for nothing else. -/
theorem eligibleFor_raise_iff (he : e₁ ≤ e₂) :
    EligibleFor reason e₂ c ↔ EligibleFor reason e₁ c ∧ e₂ ≤ c.securityEpoch := by
  constructor
  · rintro ⟨⟨ha, hb, hs, hp, hepoch, hstate⟩, hreason⟩
    exact ⟨⟨⟨ha, hb, hs, hp, UInt32.le_trans he hepoch, hstate⟩, hreason⟩, hepoch⟩
  · rintro ⟨⟨⟨ha, hb, hs, hp, -, hstate⟩, hreason⟩, hepoch⟩
    exact ⟨⟨ha, hb, hs, hp, hepoch, hstate⟩, hreason⟩

theorem EligibleFor.reason_eq {reason' : Stage0DecisionReason} (h : EligibleFor reason e₁ c)
    (h' : EligibleFor reason' e₂ c) : reason = reason' := by
  have hstate := h.reason.symm.trans h'.reason
  cases reason <;> cases reason' <;> first | rfl | cases hstate

theorem Preferred.mono {P Q : Stage1Candidate z → Prop} (h : Preferred P cs i c) (hc : Q c)
    (hQ : ∀ d, Q d → P d) : Preferred Q cs i c where
  getElem := h.getElem
  eligible := hc
  epoch d hd hQd := h.epoch d hd (hQ d hQd)
  slotId d hd hQd := h.slotId d hd (hQ d hQd)
  earliest j d hj hQd := h.earliest j d hj (hQ d hQd)

theorem Preferred.raise (h : Preferred (EligibleFor reason e₁) cs i c) (he : e₁ ≤ e₂)
    (hc : e₂ ≤ c.securityEpoch) : Preferred (EligibleFor reason e₂) cs i c :=
  h.mono ((eligibleFor_raise_iff he).mpr ⟨h.eligible, hc⟩)
    fun _ hd => ((eligibleFor_raise_iff he).mp hd).1

/-- Above the epoch of the preferred candidate nothing of its class is left. -/
theorem Preferred.none_above (h : Preferred (EligibleFor reason e₁) cs i c) (he : e₁ ≤ e₂)
    (hc : c.securityEpoch < e₂) : ¬ ∃ d ∈ cs, EligibleFor reason e₂ d := by
  rintro ⟨d, hd, helig⟩
  obtain ⟨hlow, hepoch⟩ := (eligibleFor_raise_iff he).mp helig
  have hle : e₂ ≤ c.securityEpoch := UInt32.le_trans hepoch (h.epoch d hd hlow)
  exact absurd hc (UInt32.not_lt.mpr hle)

theorem none_raise (he : e₁ ≤ e₂) (h : ¬ ∃ d ∈ cs, EligibleFor reason e₁ d) :
    ¬ ∃ d ∈ cs, EligibleFor reason e₂ d := by
  rintro ⟨d, hd, helig⟩
  exact h ⟨d, hd, ((eligibleFor_raise_iff he).mp helig).1⟩

theorem ToBoot.raise (h : ToBoot cs e₁ i c) (he : e₁ ≤ e₂) (hc : e₂ ≤ c.securityEpoch) :
    ToBoot cs e₂ i c := by
  rcases h with h | ⟨hnone, h⟩
  · exact .inl (h.raise he hc)
  · exact .inr ⟨none_raise he hnone, h.raise he hc⟩

theorem decision_ext {d₁ d₂ : Stage0Decision z} (hslot : d₁.selectedSlotId = d₂.selectedSlotId)
    (hentry : d₁.entryPoint = d₂.entryPoint) (hreason : d₁.reason = d₂.reason) : d₁ = d₂ := by
  cases d₁
  cases d₂
  cases hslot
  cases hentry
  cases hreason
  rfl

section Floors
variable {prior₁ prior₂ d₁ d₂ : Stage0Decision z} {st₁ st₂ : Status}

theorem Selects.nothing {prior decision : Stage0Decision z} {status : Status}
    (h : Selects cs e prior status decision) (ht : ¬ ∃ c ∈ cs, EligibleFor .trialStage1 e c)
    (hc : ¬ ∃ c ∈ cs, EligibleFor .confirmedStage1 e c) : status = .noBootableImage :=
  (h.rejected fun hok => none_eligible ht hc (h.ok_iff.mp hok)).1

/-- A selection that the higher floor also admits is made again. -/
theorem Selects.kept (h₁ : Selects cs e₁ prior₁ .ok d₁) (h₂ : Selects cs e₂ prior₂ st₂ d₂)
    (he : e₁ ≤ e₂) (hboot : ToBoot cs e₁ i c) (hc : e₂ ≤ c.securityEpoch) :
    st₂ = .ok ∧ d₂ = d₁ := by
  have hboot₂ := hboot.raise he hc
  obtain rfl := h₂.ok_iff.mpr ⟨c, hboot₂.mem, hboot₂.eligible⟩
  obtain ⟨_, c₁, hboot₁, hpref₁, hslot₁, hentry₁⟩ := h₁.toBoot
  obtain ⟨_, c₂, hboot₂', hpref₂, hslot₂, hentry₂⟩ := h₂.toBoot
  obtain rfl := hboot.unique hboot₁
  obtain rfl := hboot₂.unique hboot₂'
  exact ⟨rfl, decision_ext (hslot₂.trans hslot₁.symm) (hentry₂.trans hentry₁.symm)
    (hpref₂.eligible.reason_eq hpref₁.eligible)⟩

/-- The higher floor rejects the class of a selection below it. A trial class falls back to the
confirmed one, and behind that nothing is left. -/
theorem Selects.dropped (h₁ : Selects cs e₁ prior₁ .ok d₁) (h₂ : Selects cs e₂ prior₂ st₂ d₂)
    (he : e₁ ≤ e₂) (hboot : ToBoot cs e₁ i c) (hc : c.securityEpoch < e₂) :
    (d₁.reason = .confirmedStage1 → st₂ = .noBootableImage) ∧
      (d₁.reason = .trialStage1 →
        st₂ = .ok ∧ d₂.reason = .confirmedStage1 ∨ st₂ = .noBootableImage) := by
  obtain ⟨_, c₁, hboot₁, hpref, -⟩ := h₁.toBoot
  obtain rfl := hboot.unique hboot₁
  have habove := hpref.none_above he hc
  constructor
  · intro hreason
    rw [hreason] at habove
    have htrial : ¬ ∃ d ∈ cs, EligibleFor .trialStage1 e₁ d := by
      rw [← h₁.reason_iff rfl, hreason]
      decide
    exact h₂.nothing (none_raise he htrial) habove
  · intro hreason
    rw [hreason] at habove
    by_cases hok : st₂ = .ok
    · refine .inl ⟨hok, ?_⟩
      cases hr : d₂.reason with
      | trialStage1 => exact absurd ((h₂.reason_iff hok).mp hr) habove
      | confirmedStage1 => rfl
    · exact .inr (h₂.rejected hok).1

end Floors

/-- With a higher floor Stage 0 selects the same candidate, or a confirmed one in place of a
trial, or nothing. -/
theorem rampartStage0SelectStage1_raised (cs : List (Stage1Candidate z)) (e₁ e₂ : UInt32)
    (he : e₁ ≤ e₂) (prior₁ prior₂ : Stage0Decision z) : ∃ st₁ d₁ st₂ d₂,
      call (rampartStage0SelectStage1 (some ⟨cs, 0⟩) cs.length e₁) (some prior₁) =
        .ok (st₁, some d₁) ∧
      call (rampartStage0SelectStage1 (some ⟨cs, 0⟩) cs.length e₂) (some prior₂) =
        .ok (st₂, some d₂) ∧
      (st₂ = .ok → st₁ = .ok) ∧
      (st₁ = .ok → ∃ i c, ToBoot cs e₁ i c ∧ d₁.selectedSlotId = c.slotId ∧
        d₁.entryPoint = c.entryPoint ∧
        (e₂ ≤ c.securityEpoch → st₂ = .ok ∧ d₂ = d₁) ∧
        (c.securityEpoch < e₂ →
          (d₁.reason = .confirmedStage1 → st₂ = .noBootableImage) ∧
          (d₁.reason = .trialStage1 →
            st₂ = .ok ∧ d₂.reason = .confirmedStage1 ∨ st₂ = .noBootableImage))) := by
  obtain ⟨st₁, _, hcall₁, d₁, rfl, h₁⟩ :=
    exists_call (wps_rampartStage0SelectStage1 e₁ cs prior₁) fun _ h => h
  obtain ⟨st₂, _, hcall₂, d₂, rfl, h₂⟩ :=
    exists_call (wps_rampartStage0SelectStage1 e₂ cs prior₂) fun _ h => h
  refine ⟨st₁, d₁, st₂, d₂, hcall₁, hcall₂, fun hok => ?_, ?_⟩
  · obtain ⟨c, hc, helig⟩ := h₂.ok_iff.mp hok
    exact h₁.ok_iff.mpr ⟨c, hc, { helig with
      securityEpoch := UInt32.le_trans he helig.securityEpoch }⟩
  · rintro rfl
    obtain ⟨i, c, hboot, -, hslot, hentry⟩ := h₁.toBoot
    exact ⟨i, c, hboot, hslot, hentry, h₁.kept h₂ he hboot, h₁.dropped h₂ he hboot⟩

/-- Two floors that the only candidate reaches, and one above it. -/
theorem rampartStage0SelectStage1_raised_stray : ∃ st d,
    call (rampartStage0SelectStage1 (some ⟨[strayCandidate], 0⟩) 1 6)
      (some ⟨0, 0, .trialStage1⟩) = .ok (.ok, some ⟨0, 0x09000000, .confirmedStage1⟩) ∧
    call (rampartStage0SelectStage1 (some ⟨[strayCandidate], 0⟩) 1 7)
      (some ⟨0, 0, .trialStage1⟩) = .ok (.ok, some ⟨0, 0x09000000, .confirmedStage1⟩) ∧
    call (rampartStage0SelectStage1 (some ⟨[strayCandidate], 0⟩) 1 8)
      (some ⟨0, 0, .trialStage1⟩) = .ok (st, some d) ∧ st = .noBootableImage := by
  have hlow : call (rampartStage0SelectStage1 (some ⟨[strayCandidate], 0⟩) 1 6)
      (some ⟨0, 0, .trialStage1⟩) = .ok (.ok, some ⟨0, 0x09000000, .confirmedStage1⟩) := by decide
  obtain ⟨_, _, st₂, d₂, hcall, hcall₂, -, hraised⟩ := rampartStage0SelectStage1_raised
    [strayCandidate] 6 7 (by decide) ⟨0, 0, .trialStage1⟩ ⟨0, 0, .trialStage1⟩
  cases hlow.symm.trans hcall
  obtain ⟨_, c, hboot, -, -, hkept, -⟩ := hraised rfl
  obtain rfl := List.mem_singleton.mp hboot.mem
  obtain ⟨rfl, rfl⟩ := hkept (by decide)
  obtain ⟨_, _, st, d, hcall, hcall₃, -, hraised⟩ := rampartStage0SelectStage1_raised
    [strayCandidate] 7 8 (by decide) ⟨0, 0, .trialStage1⟩ ⟨0, 0, .trialStage1⟩
  cases hcall₂.symm.trans hcall
  obtain ⟨_, c, hboot, -, -, -, hdropped⟩ := hraised rfl
  obtain rfl := List.mem_singleton.mp hboot.mem
  exact ⟨st, d, hlow, hcall₂, hcall₃, (hdropped (by decide)).1 rfl⟩

end RampartBoot.Stage0
