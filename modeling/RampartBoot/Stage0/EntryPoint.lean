import RampartBoot.Stage0.Selection

/-! # The entry point that Stage 0 hands over

The documents ask Stage 0 for boundary and entry-point checks before Stage 1 is entered. The
executable shape of a candidate is all that the selection looks at: base, size and entry point
are not zero. Nothing relates the entry point to the image.
-/

namespace RampartBoot.Stage0
open Foundation RampartBoot.Core

variable {z : SizeT} {e : UInt32} {c d : Stage1Candidate z} {cs : List (Stage1Candidate z)}

/-- The image does not reach over the end of the address space, and `entry` lies in it. -/
structure Stage1Candidate.Encloses (c : Stage1Candidate z) (entry : BitVec z.bits) : Prop where
  noWrap : c.imageBase.toNat + c.imageSize.toNat < 2 ^ z.bits
  above : c.imageBase.toNat ≤ entry.toNat
  below : entry.toNat < c.imageBase.toNat + c.imageSize.toNat

def HandsOverInside (cs : List (Stage1Candidate z)) (e : UInt32) (prior : Stage0Decision z) :
    Prop :=
  ∀ decision, call (rampartStage0SelectStage1 (some ⟨cs, 0⟩) cs.length e) (some prior) =
      .ok (.ok, some decision) →
    ∃ i c, Preferred (EligibleFor decision.reason e) cs i c ∧
      decision.selectedSlotId = c.slotId ∧ c.Encloses decision.entryPoint

/-- The candidate `c` at index `i` is the one to boot: the preferred eligible trial, or without
an eligible trial the preferred eligible confirmed candidate. -/
def ToBoot (cs : List (Stage1Candidate z)) (e : UInt32) (i : ℕ) (c : Stage1Candidate z) : Prop :=
  Preferred (EligibleFor .trialStage1 e) cs i c ∨
    (¬ ∃ d ∈ cs, EligibleFor .trialStage1 e d) ∧ Preferred (EligibleFor .confirmedStage1 e) cs i c

theorem Preferred.unique {P : Stage1Candidate z → Prop} {i j : ℕ} (h : Preferred P cs i c)
    (h' : Preferred P cs j d) : c = d := by
  have hc := List.mem_of_getElem? h.getElem
  have hd := List.mem_of_getElem? h'.getElem
  have hepoch : d.securityEpoch = c.securityEpoch :=
    UInt32.le_antisymm (h.epoch d hd h'.eligible) (h'.epoch c hc h.eligible)
  have hslot : d.slotId = c.slotId := UInt32.le_antisymm
    (h'.slotId c hc h.eligible hepoch.symm) (h.slotId d hd h'.eligible hepoch)
  have hij : i = j := Nat.le_antisymm
    (h.earliest j d h'.getElem h'.eligible hepoch hslot)
    (h'.earliest i c h.getElem h.eligible hepoch.symm hslot.symm)
  subst hij
  exact Option.some.inj (h.getElem.symm.trans h'.getElem)

/-- The candidate behind an OK is the one to boot. -/
theorem Selects.toBoot {prior decision : Stage0Decision z}
    (h : Selects cs e prior .ok decision) : ∃ i c, ToBoot cs e i c ∧
      Preferred (EligibleFor decision.reason e) cs i c ∧
      decision.selectedSlotId = c.slotId ∧ decision.entryPoint = c.entryPoint := by
  obtain ⟨i, c, hpref, hslot, hentry⟩ := h.selected rfl
  have hreason := h.reason_iff rfl
  refine ⟨i, c, ?_, hpref, hslot, hentry⟩
  cases hr : decision.reason with
  | trialStage1 =>
    rw [hr] at hpref
    exact .inl hpref
  | confirmedStage1 =>
    rw [hr] at hpref hreason
    exact .inr ⟨fun htrial => absurd (hreason.mpr htrial) (by decide), hpref⟩

theorem ToBoot.unique {i j : ℕ} (h : ToBoot cs e i c) (h' : ToBoot cs e j d) : c = d := by
  rcases h with h | ⟨hnone, h⟩ <;> rcases h' with h' | ⟨hnone', h'⟩
  · exact h.unique h'
  · exact absurd ⟨c, List.mem_of_getElem? h.getElem, h.eligible⟩ hnone'
  · exact absurd ⟨d, List.mem_of_getElem? h'.getElem, h'.eligible⟩ hnone
  · exact h.unique h'

theorem ToBoot.mem {i : ℕ} (h : ToBoot cs e i c) : c ∈ cs := by
  rcases h with h | ⟨-, h⟩
  · exact List.mem_of_getElem? h.getElem
  · exact List.mem_of_getElem? h.getElem

theorem ToBoot.eligible {i : ℕ} (h : ToBoot cs e i c) : Eligible e c := by
  rcases h with h | ⟨-, h⟩
  · exact h.eligible.toEligible
  · exact h.eligible.toEligible

/-- Stage 0 hands over an entry point inside the selected image exactly if the candidate to boot
has its own entry point inside its own image. -/
theorem handsOverInside_iff (cs : List (Stage1Candidate z)) (e : UInt32)
    (prior : Stage0Decision z) :
    HandsOverInside cs e prior ↔ ∀ i c, ToBoot cs e i c → c.Encloses c.entryPoint := by
  obtain ⟨status, _, hcall, decision, rfl, hs⟩ :=
    exists_call (wps_rampartStage0SelectStage1 e cs prior) fun _ h => h
  have hdecision : ∀ decision', call (rampartStage0SelectStage1 (some ⟨cs, 0⟩) cs.length e)
      (some prior) = .ok (.ok, some decision') → status = .ok ∧ decision = decision' := by
    intro decision' hcall'
    rw [hcall] at hcall'
    simpa using hcall'
  by_cases hok : status = .ok
  · subst hok
    obtain ⟨i, c, hboot, hpref, hslot, hentry⟩ := hs.toBoot
    constructor
    · intro h j d hd
      obtain ⟨k, c', hpref', -, henc⟩ := h decision hcall
      obtain rfl := hpref.unique hpref'
      obtain rfl := hboot.unique hd
      rwa [hentry] at henc
    · intro h decision' hcall'
      obtain ⟨-, rfl⟩ := hdecision decision' hcall'
      exact ⟨i, c, hpref, hslot, hentry ▸ h i c hboot⟩
  · refine iff_of_true (fun decision' hcall' => ?_) (fun i c hboot => ?_)
    · exact absurd (hdecision decision' hcall').1 hok
    · exact absurd (hs.ok_iff.mpr ⟨c, hboot.mem, hboot.eligible⟩) hok

def strayCandidate : Stage1Candidate .embedded where
  slotId := 0
  state := .confirmed
  authenticated := true
  securityEpoch := 7
  imageBase := 0x08010000
  imageSize := 32768
  entryPoint := 0x09000000
  trialAttempt := 0
  maxTrialAttempts := 0

theorem not_handsOverInside_stray :
    ¬ HandsOverInside [strayCandidate] 7 ⟨0, 0, .trialStage1⟩ := by
  intro h
  obtain ⟨i, c, hpref, -, henc⟩ := h ⟨0, 0x09000000, .confirmedStage1⟩ (by decide)
  obtain rfl := List.mem_singleton.mp (List.mem_of_getElem? hpref.getElem)
  exact absurd henc.below (by decide)

end RampartBoot.Stage0
