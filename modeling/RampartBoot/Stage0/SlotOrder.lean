import RampartBoot.Stage0.AntiRollback
import Mathlib.Data.List.Pairwise
import Mathlib.Logic.Relation

/-! # The order of the slots

Where a candidate stands decides between candidates of equal epoch and slot ID only, and an
ineligible candidate decides nothing.
-/

namespace RampartBoot.Stage0
open Foundation RampartBoot.Core Relation

variable {z : SizeT} {e : UInt32} {c d : Stage1Candidate z} {cs ds : List (Stage1Candidate z)}
  {reason : Stage0DecisionReason} {i j : ℕ}

instance : DecidablePred fun c : Stage1Candidate z => EligibleFor reason e c := fun _ =>
  match reason with
  | .trialStage1 => decidable_of_iff _ candidateIsEligibleTrial_iff
  | .confirmedStage1 => decidable_of_iff _ candidateIsEligibleConfirmed_iff

/-- One edit of the candidates that touches ineligible ones only. -/
inductive IneligibleEdit (e : UInt32) :
    List (Stage1Candidate z) → List (Stage1Candidate z) → Prop
  | insert (front rest : List (Stage1Candidate z)) (c : Stage1Candidate z)
      (hc : ¬ Eligible e c) : IneligibleEdit e (front ++ rest) (front ++ c :: rest)
  | delete (front rest : List (Stage1Candidate z)) (c : Stage1Candidate z)
      (hc : ¬ Eligible e c) : IneligibleEdit e (front ++ c :: rest) (front ++ rest)
  | replace (front rest : List (Stage1Candidate z)) (c d : Stage1Candidate z)
      (hc : ¬ Eligible e c) (hd : ¬ Eligible e d) :
      IneligibleEdit e (front ++ c :: rest) (front ++ d :: rest)

def NoTie (e : UInt32) (c d : Stage1Candidate z) : Prop :=
  Eligible e c → Eligible e d → c.state = d.state → c.slotId = d.slotId →
    c.securityEpoch ≠ d.securityEpoch

/-- No two eligible candidates of one state share slot ID and epoch. -/
def SlotsDistinct (e : UInt32) (cs : List (Stage1Candidate z)) : Prop := cs.Pairwise (NoTie e)

theorem IneligibleEdit.filter_eq (h : IneligibleEdit e cs ds) :
    cs.filter (EligibleFor reason e ·) = ds.filter (EligibleFor reason e ·) := by
  have hno : ∀ c : Stage1Candidate z, ¬ Eligible e c → ¬ EligibleFor reason e c :=
    fun _ hc helig => hc helig.toEligible
  cases h with
  | insert front rest c hc => simp [hno c hc]
  | delete front rest c hc => simp [hno c hc]
  | replace front rest c d hc hd => simp [hno c hc, hno d hd]

theorem filter_eq_of_edits (h : ReflTransGen (IneligibleEdit e) cs ds) :
    cs.filter (EligibleFor reason e ·) = ds.filter (EligibleFor reason e ·) := by
  induction h with
  | refl => rfl
  | tail _ hedit ih => exact ih.trans hedit.filter_eq

theorem exists_eligibleFor_congr
    (h : cs.filter (EligibleFor reason e ·) = ds.filter (EligibleFor reason e ·)) :
    (∃ c ∈ cs, EligibleFor reason e c) ↔ ∃ c ∈ ds, EligibleFor reason e c := by
  have hmem : ∀ c, c ∈ cs ∧ EligibleFor reason e c ↔ c ∈ ds ∧ EligibleFor reason e c := by
    intro c
    have hc : c ∈ cs.filter (EligibleFor reason e ·) ↔ c ∈ ds.filter (EligibleFor reason e ·) := by
      rw [h]
    simpa only [List.mem_filter, decide_eq_true_eq] using hc
  exact exists_congr hmem

theorem Preferred.firstBest {P : Stage1Candidate z → Prop} (h : Preferred P cs i c) :
    FirstBest P preferenceKey cs c := by
  obtain ⟨hlt, -⟩ := List.getElem?_eq_some_iff.mp h.getElem
  refine BestBelow.firstBest ⟨hlt, c, h.getElem, h.eligible, fun j d _ hd hPd => ?_⟩ h.getElem
  have hmem := List.mem_of_getElem? hd
  rcases UInt32.lt_or_eq_of_le (h.epoch d hmem hPd) with hepoch | hepoch
  · exact .inl (preferenceKey_lt_iff.mpr (.inl hepoch))
  · rcases UInt32.lt_or_eq_of_le (h.slotId d hmem hPd hepoch) with hslot | hslot
    · exact .inl (preferenceKey_lt_iff.mpr (.inr ⟨hepoch, hslot⟩))
    · exact .inr ⟨preferenceKey_eq_iff.mpr ⟨hepoch, hslot.symm⟩,
        h.earliest j d hd hPd hepoch hslot.symm⟩

theorem Preferred.tie {P : Stage1Candidate z → Prop} (h : Preferred P cs i c)
    (h' : Preferred P ds j d) (hperm : cs.Perm ds) :
    c.securityEpoch = d.securityEpoch ∧ c.slotId = d.slotId := by
  have hd : d ∈ cs := hperm.mem_iff.mpr (List.mem_of_getElem? h'.getElem)
  have hc : c ∈ ds := hperm.mem_iff.mp (List.mem_of_getElem? h.getElem)
  have hepoch : c.securityEpoch = d.securityEpoch :=
    UInt32.le_antisymm (h'.epoch c hc h.eligible) (h.epoch d hd h'.eligible)
  exact ⟨hepoch, UInt32.le_antisymm (h.slotId d hd h'.eligible hepoch.symm)
    (h'.slotId c hc h.eligible hepoch)⟩

instance : Std.Symm (NoTie (z := z) e) where
  symm _ _ h hd hc hstate hslot hepoch := h hc hd hstate.symm hslot.symm hepoch.symm

theorem SlotsDistinct.eq_of_tie (h : SlotsDistinct e cs) (hc : c ∈ cs) (hd : d ∈ cs)
    (hec : EligibleFor reason e c) (hed : EligibleFor reason e d)
    (htie : c.securityEpoch = d.securityEpoch ∧ c.slotId = d.slotId) : c = d := by
  by_contra hne
  exact List.Pairwise.forall h hc hd hne hec.toEligible hed.toEligible
    (hec.reason.trans hed.reason.symm) htie.2 htie.1

section Selections
variable {prior decision decision' : Stage0Decision z} {status status' : Status}

theorem reason_eq_of_trial_iff {reason reason' : Stage0DecisionReason}
    (h : reason = .trialStage1 ↔ reason' = .trialStage1) : reason = reason' := by
  cases reason with
  | trialStage1 => exact (h.mp rfl).symm
  | confirmedStage1 =>
    cases reason' with
    | trialStage1 => exact h.mpr rfl
    | confirmedStage1 => rfl

/-- Status and reason depend on the states that have an eligible candidate. -/
theorem Selects.status_reason_eq (h : Selects cs e prior status decision)
    (h' : Selects ds e prior status' decision')
    (hsome : ∀ reason, (∃ c ∈ cs, EligibleFor reason e c) ↔ ∃ c ∈ ds, EligibleFor reason e c) :
    status = status' ∧ (status ≠ .ok → decision = decision') ∧
      decision.reason = decision'.reason := by
  have hok : status = .ok ↔ status' = .ok := by
    rw [h.ok_iff, h'.ok_iff, exists_eligible_iff, exists_eligible_iff]
    exact exists_congr hsome
  by_cases hst : status = .ok
  · have hst' := hok.mp hst
    have htrial := (h.reason_iff hst).trans ((hsome _).trans (h'.reason_iff hst').symm)
    refine ⟨hst.trans hst'.symm, fun hne => absurd hst hne, ?_⟩
    exact reason_eq_of_trial_iff htrial
  · obtain ⟨hs, rfl⟩ := h.rejected hst
    obtain ⟨hs', rfl⟩ := h'.rejected fun h => hst (hok.mpr h)
    exact ⟨hs.trans hs'.symm, fun _ => rfl, rfl⟩

/-- A permutation of the candidates keeps status, slot and reason, and the entry point as well
unless two eligible candidates tie. -/
theorem Selects.perm (h : Selects cs e prior status decision)
    (h' : Selects ds e prior status' decision') (hperm : cs.Perm ds) :
    status = status' ∧ decision.selectedSlotId = decision'.selectedSlotId ∧
      decision.reason = decision'.reason ∧ (SlotsDistinct e cs → decision = decision') := by
  obtain ⟨hstatus, hprior, hreason⟩ := h.status_reason_eq h' fun _ =>
    exists_congr fun _ => and_congr_left' hperm.mem_iff
  by_cases hok : status = .ok
  · obtain ⟨i, c, hpref, hslot, hentry⟩ := h.selected hok
    obtain ⟨j, d, hpref', hslot', hentry'⟩ := h'.selected (hstatus ▸ hok)
    rw [← hreason] at hpref'
    have htie := hpref.tie hpref' hperm
    refine ⟨hstatus, by rw [hslot, hslot', htie.2], hreason, fun hdistinct => ?_⟩
    obtain rfl := hdistinct.eq_of_tie (List.mem_of_getElem? hpref.getElem)
      (hperm.mem_iff.mpr (List.mem_of_getElem? hpref'.getElem)) hpref.eligible hpref'.eligible htie
    exact decision_ext (hslot.trans hslot'.symm) (hentry.trans hentry'.symm) hreason
  · obtain rfl := hprior hok
    exact ⟨hstatus, rfl, rfl, fun _ => rfl⟩

/-- Edits of ineligible candidates keep status and decision. -/
theorem Selects.edits (h : Selects cs e prior status decision)
    (h' : Selects ds e prior status' decision') (hedits : ReflTransGen (IneligibleEdit e) cs ds) :
    status = status' ∧ decision = decision' := by
  obtain ⟨hstatus, hprior, hreason⟩ := h.status_reason_eq h' fun _ =>
    exists_eligibleFor_congr (filter_eq_of_edits hedits)
  by_cases hok : status = .ok
  · obtain ⟨i, c, hpref, hslot, hentry⟩ := h.selected hok
    obtain ⟨j, d, hpref', hslot', hentry'⟩ := h'.selected (hstatus ▸ hok)
    rw [← hreason] at hpref'
    obtain rfl := hpref.firstBest.eq_of_filter_eq hpref'.firstBest (filter_eq_of_edits hedits)
    exact ⟨hstatus, decision_ext (hslot.trans hslot'.symm) (hentry.trans hentry'.symm) hreason⟩
  · exact ⟨hstatus, hprior hok⟩

end Selections

/-- Two runs of Stage 0 on the same floor, the second with the slots in another order or with
ineligible slots added, removed or rewritten. -/
theorem rampartStage0SelectStage1_slotOrder (cs ds : List (Stage1Candidate z)) (e : UInt32)
    (prior : Stage0Decision z) : ∃ status decision status' decision',
      call (rampartStage0SelectStage1 (some ⟨cs, 0⟩) cs.length e) (some prior) =
        .ok (status, some decision) ∧
      call (rampartStage0SelectStage1 (some ⟨ds, 0⟩) ds.length e) (some prior) =
        .ok (status', some decision') ∧
      (cs.Perm ds → status = status' ∧ decision.selectedSlotId = decision'.selectedSlotId ∧
        decision.reason = decision'.reason ∧
        (SlotsDistinct e cs → decision.entryPoint = decision'.entryPoint)) ∧
      (ReflTransGen (IneligibleEdit e) cs ds → status = status' ∧ decision = decision') := by
  obtain ⟨status, _, hcall, decision, rfl, h⟩ :=
    exists_call (wps_rampartStage0SelectStage1 e cs prior) fun _ h => h
  obtain ⟨status', _, hcall', decision', rfl, h'⟩ :=
    exists_call (wps_rampartStage0SelectStage1 e ds prior) fun _ h => h
  refine ⟨status, decision, status', decision', hcall, hcall', fun hperm => ?_, h.edits h'⟩
  obtain ⟨hstatus, hslot, hreason, hall⟩ := h.perm h' hperm
  exact ⟨hstatus, hslot, hreason, fun hdistinct => congrArg _ (hall hdistinct)⟩

/-- An unauthenticated slot in front that claims the greatest epoch. -/
theorem rampartStage0SelectStage1_slotOrder_stray : ∃ status decision status' decision',
    call (rampartStage0SelectStage1 (some ⟨[strayCandidate], 0⟩) 1 7)
      (some ⟨0, 0, .trialStage1⟩) = .ok (status, some decision) ∧
    call (rampartStage0SelectStage1 (some ⟨[{ strayCandidate with
        authenticated := false, securityEpoch := 0xFFFFFFFF }, strayCandidate], 0⟩) 2 7)
      (some ⟨0, 0, .trialStage1⟩) = .ok (status', some decision') ∧
    status = status' ∧ decision = decision' := by
  obtain ⟨status, decision, status', decision', hcall, hcall', -, hedits⟩ :=
    rampartStage0SelectStage1_slotOrder [strayCandidate] [{ strayCandidate with
      authenticated := false, securityEpoch := 0xFFFFFFFF }, strayCandidate] 7
      ⟨0, 0, .trialStage1⟩
  refine ⟨status, decision, status', decision', hcall, hcall', hedits (.single ?_)⟩
  exact .insert [] [strayCandidate] _ fun h => absurd h.authenticated (by decide)

end RampartBoot.Stage0
