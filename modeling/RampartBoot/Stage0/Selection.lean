import RampartBoot.Stage0.Select

/-! # What Stage 0 selects

The two loops keep a running best under one key: a greater security epoch wins, then a smaller
slot ID. Their results decide the status, the reason and the slot of the decision.
-/

namespace RampartBoot.Stage0
open Foundation RampartBoot.Core

variable {z : SizeT} {e : UInt32} {c d : Stage1Candidate z} {cs : List (Stage1Candidate z)}

structure Eligible (e : UInt32) (c : Stage1Candidate z) : Prop where
  authenticated : c.authenticated = true
  imageBase : c.imageBase ≠ 0
  imageSize : c.imageSize ≠ 0
  entryPoint : c.entryPoint ≠ 0
  securityEpoch : e ≤ c.securityEpoch
  state : c.state = .confirmed ∨ c.state = .trial ∧ c.trialAttempt < c.maxTrialAttempts

structure EligibleFor (reason : Stage0DecisionReason) (e : UInt32) (c : Stage1Candidate z) :
    Prop extends Eligible e c where
  reason : c.state = match reason with
    | .trialStage1 => .trial
    | .confirmedStage1 => .confirmed

structure Preferred (P : Stage1Candidate z → Prop) (cs : List (Stage1Candidate z)) (i : ℕ)
    (c : Stage1Candidate z) : Prop where
  getElem : cs[i]? = some c
  eligible : P c
  epoch : ∀ d ∈ cs, P d → d.securityEpoch ≤ c.securityEpoch
  slotId : ∀ d ∈ cs, P d → d.securityEpoch = c.securityEpoch → c.slotId ≤ d.slotId
  earliest : ∀ j d, cs[j]? = some d → P d → d.securityEpoch = c.securityEpoch →
    d.slotId = c.slotId → i ≤ j

theorem candidateIsEligibleTrial_iff :
    candidateIsEligibleTrial e c = true ↔ EligibleFor .trialStage1 e c := by
  simp only [candidateIsEligibleTrial, candidateHasExecutableShape, Bool.and_eq_true, bne_iff_ne,
    beq_iff_eq, decide_eq_true_eq]
  constructor
  · rintro ⟨⟨⟨⟨⟨⟨ha, hb⟩, hs⟩, hp⟩, ht⟩, he⟩, hn⟩
    exact ⟨⟨ha, hb, hs, hp, he, .inr ⟨ht, hn⟩⟩, ht⟩
  · rintro ⟨⟨ha, hb, hs, hp, he, hc | ⟨-, hn⟩⟩, ht⟩
    · rw [hc] at ht
      cases ht
    · exact ⟨⟨⟨⟨⟨⟨ha, hb⟩, hs⟩, hp⟩, ht⟩, he⟩, hn⟩

theorem candidateIsEligibleConfirmed_iff :
    candidateIsEligibleConfirmed e c = true ↔ EligibleFor .confirmedStage1 e c := by
  simp only [candidateIsEligibleConfirmed, candidateHasExecutableShape, Bool.and_eq_true,
    bne_iff_ne, beq_iff_eq, decide_eq_true_eq]
  constructor
  · rintro ⟨⟨⟨⟨⟨ha, hb⟩, hs⟩, hp⟩, hc⟩, he⟩
    exact ⟨⟨ha, hb, hs, hp, he, .inl hc⟩, hc⟩
  · rintro ⟨⟨ha, hb, hs, hp, he, -⟩, hc⟩
    exact ⟨⟨⟨⟨⟨ha, hb⟩, hs⟩, hp⟩, hc⟩, he⟩

theorem Eligible.trial_or_confirmed (h : Eligible e c) :
    EligibleFor .trialStage1 e c ∨ EligibleFor .confirmedStage1 e c := by
  rcases h.state with hc | ⟨ht, -⟩
  · exact .inr ⟨h, hc⟩
  · exact .inl ⟨h, ht⟩

theorem exists_eligible_iff : (∃ c ∈ cs, Eligible e c) ↔
    ∃ reason, ∃ c ∈ cs, EligibleFor reason e c := by
  constructor
  · rintro ⟨c, hc, helig⟩
    rcases helig.trial_or_confirmed with h | h
    · exact ⟨.trialStage1, c, hc, h⟩
    · exact ⟨.confirmedStage1, c, hc, h⟩
  · rintro ⟨_, c, hc, h⟩
    exact ⟨c, hc, h.toEligible⟩

theorem none_eligible (ht : ¬ ∃ c ∈ cs, EligibleFor .trialStage1 e c)
    (hc : ¬ ∃ c ∈ cs, EligibleFor .confirmedStage1 e c) : ¬ ∃ c ∈ cs, Eligible e c := by
  rw [exists_eligible_iff]
  rintro ⟨reason, h⟩
  cases reason with
  | trialStage1 => exact ht h
  | confirmedStage1 => exact hc h

/-- The order of preference: a greater epoch, then a smaller slot ID. -/
def preferenceKey (c : Stage1Candidate z) : ℕ ×ₗ ℕᵒᵈ :=
  toLex (c.securityEpoch.toNat, OrderDual.toDual c.slotId.toNat)

theorem preferenceKey_lt_iff : preferenceKey d < preferenceKey c ↔
    d.securityEpoch < c.securityEpoch ∨
      d.securityEpoch = c.securityEpoch ∧ c.slotId < d.slotId := by
  simp only [preferenceKey, Prod.Lex.toLex_lt_toLex, OrderDual.toDual_lt_toDual,
    UInt32.lt_iff_toNat_lt, ← UInt32.toNat_inj]

theorem preferenceKey_eq_iff : preferenceKey d = preferenceKey c ↔
    d.securityEpoch = c.securityEpoch ∧ d.slotId = c.slotId := by
  simp only [preferenceKey, toLex_inj, Prod.mk.injEq, OrderDual.toDual_inj, UInt32.toNat_inj]

def bestPtr (cs : List (Stage1Candidate z)) (o : Option ℕ) : Option (Ptr (Stage1Candidate z)) :=
  o.map fun i => ⟨cs, i⟩

theorem load_bestPtr {ε : Type} {i : ℕ} (h : cs[i]? = some c) :
    (load (bestPtr cs (some i)) 0 : Checked ε (Stage1Candidate z)) = .ok c := by
  simp [load, bestPtr, h, pure, Except.pure]

theorem candidateIsPreferred_none {ε : Type} :
    (candidateIsPreferred c (bestPtr cs none) : Checked ε Bool) = .ok true := rfl

theorem candidateIsPreferred_some {ε : Type} {i : ℕ} (h : cs[i]? = some d) :
    (candidateIsPreferred c (bestPtr cs (some i)) : Checked ε Bool) =
      .ok (decide (preferenceKey d < preferenceKey c)) := by
  change (load (bestPtr cs (some i)) 0 >>= fun current => _ : Checked ε Bool) = _
  rw [bind_of_eq_ok (load_bestPtr h)]
  have hkey := preferenceKey_lt_iff (d := d) (c := c)
  split_ifs with hgt hlt
  · rw [decide_eq_true (hkey.mpr (.inl hgt))]
    rfl
  · rw [decide_eq_false fun hk => ?_]
    · rfl
    · rcases hkey.mp hk with h' | ⟨h', -⟩
      · exact absurd h' (UInt32.lt_asymm hlt)
      · exact absurd hlt (h' ▸ UInt32.lt_irrefl _)
  · have heq : d.securityEpoch = c.securityEpoch :=
      UInt32.le_antisymm (UInt32.not_lt.mp hlt) (UInt32.not_lt.mp hgt)
    have hiff : preferenceKey d < preferenceKey c ↔ c.slotId < d.slotId := by
      rw [hkey]
      simp [heq]
    rw [decide_eq_decide.mpr hiff]
    rfl

theorem preferred_of_best {P : Stage1Candidate z → Prop} {i : ℕ}
    (h : BestBelow P preferenceKey cs cs.length (some i)) : ∃ c, Preferred P cs i c := by
  obtain ⟨-, c, hc, hP, hbest⟩ := h
  have hmem : ∀ d ∈ cs, P d → preferenceKey d < preferenceKey c ∨
      preferenceKey d = preferenceKey c := by
    intro d hd hPd
    obtain ⟨j, hj⟩ := List.getElem?_of_mem hd
    obtain ⟨hlt, -⟩ := List.getElem?_eq_some_iff.mp hj
    exact (hbest j d hlt hj hPd).imp_right And.left
  refine ⟨c, hc, hP, fun d hd hPd => ?_, fun d hd hPd heq => ?_, fun j d hj hPd he hs => ?_⟩
  · rcases hmem d hd hPd with hlt | heq
    · rcases preferenceKey_lt_iff.mp hlt with h | ⟨h, -⟩
      · exact UInt32.le_of_lt h
      · exact UInt32.le_of_eq h
    · exact UInt32.le_of_eq (preferenceKey_eq_iff.mp heq).1
  · rcases hmem d hd hPd with hlt | hkey
    · rcases preferenceKey_lt_iff.mp hlt with h | ⟨-, h⟩
      · exact absurd heq (UInt32.ne_of_lt h)
      · exact UInt32.le_of_lt h
    · exact UInt32.le_of_eq (preferenceKey_eq_iff.mp hkey).2.symm
  · obtain ⟨hlt, -⟩ := List.getElem?_eq_some_iff.mp hj
    rcases hbest j d hlt hj hPd with hkey | ⟨-, hle⟩
    · exact absurd (preferenceKey_eq_iff.mpr ⟨he, hs⟩) hkey.ne
    · exact hle

section Loop
variable {ε : Type} {eligible : Stage1Candidate z → Bool} {P : Stage1Candidate z → Prop}

/-- One round keeps the running best. -/
theorem wp_considerCandidate {o : Option ℕ} {i : ℕ} (hP : ∀ c, eligible c = true ↔ P c)
    (hc : cs[i]? = some c) (h : BestBelow P preferenceKey cs i o) :
    wp (if eligible c then do
        let preferred ← candidateIsPreferred c (bestPtr cs o)
        pure (if preferred then bestPtr cs (some i) else bestPtr cs o)
      else pure (bestPtr cs o) : Checked ε _)
      (fun best => ∃ o', best = bestPtr cs o' ∧ BestBelow P preferenceKey cs (i + 1) o')
      (fun _ => False) := by
  rw [wp_ite]
  constructor
  · intro helig
    have hPc := (hP c).mp helig
    cases o with
    | none =>
      rw [bind_of_eq_ok candidateIsPreferred_none]
      exact ⟨some i, rfl, h.first hc hPc⟩
    | some b =>
      obtain ⟨d, hd⟩ : ∃ d, cs[b]? = some d := h.2.imp fun _ hd => hd.1
      rw [bind_of_eq_ok (candidateIsPreferred_some hd), wp_pure]
      by_cases hlt : preferenceKey d < preferenceKey c
      · simp only [hlt, decide_true, if_true]
        exact ⟨some i, rfl, BestBelow.replace h hc hPc hd hlt⟩
      · simp only [hlt, decide_false, Bool.false_eq_true, if_false]
        exact ⟨some b, rfl, BestBelow.keep h hc hd hlt⟩
  · intro hnot
    exact ⟨o, rfl, h.skip hc fun hPc => hnot ((hP c).mpr hPc)⟩

variable (cs) in
/-- The loop returns a pointer to the best eligible candidate, and `NULL` if there is none. -/
theorem selectCandidate_eq (hP : ∀ c, eligible c = true ↔ P c) : ∃ o,
    (selectCandidate eligible (some ⟨cs, 0⟩) cs.length : Checked ε _) = .ok (bestPtr cs o) ∧
      BestBelow P preferenceKey cs cs.length o := by
  have hloop := wp_forFrom
    (f := fun index best => (do
      let candidate ← address (some ⟨cs, 0⟩) index
      let slot ← load candidate 0
      if eligible slot then do
        let preferred ← candidateIsPreferred slot best
        pure (if preferred then candidate else best)
      else pure best : Checked ε _))
    (E := fun _ => False)
    (fun i best => ∃ o, best = bestPtr cs o ∧ BestBelow P preferenceKey cs i o)
    0 cs.length none ⟨none, rfl, .zero⟩ ?_
  · rcases wp_cases hloop with ⟨best, hbest, o, rfl, ho⟩ | ⟨_, _, h⟩
    · rw [Nat.zero_add] at ho
      exact ⟨o, hbest, ho⟩
    · exact h.elim
  · rintro i _ - hi ⟨o, rfl, ho⟩
    rw [Nat.zero_add] at hi
    have hc : cs[i]? = some cs[i] := List.getElem?_eq_getElem hi
    have haddr : (address (some ⟨cs, 0⟩) i : Checked ε _) = .ok (bestPtr cs (some i)) := by
      rw [(Ptr.points_whole cs).address_eq (Nat.le_of_lt hi), Nat.zero_add]
      rfl
    rw [bind_of_eq_ok haddr, bind_of_eq_ok (load_bestPtr hc)]
    exact wp_considerCandidate hP hc ho

end Loop

/-- What the candidates, the minimum epoch and the prior decision determine. -/
structure Selects (cs : List (Stage1Candidate z)) (e : UInt32) (prior : Stage0Decision z)
    (status : Status) (decision : Stage0Decision z) : Prop where
  ok_iff : status = .ok ↔ ∃ c ∈ cs, Eligible e c
  reason_iff : status = .ok →
    (decision.reason = .trialStage1 ↔ ∃ c ∈ cs, EligibleFor .trialStage1 e c)
  selected : status = .ok → ∃ i c, Preferred (EligibleFor decision.reason e) cs i c ∧
    decision.selectedSlotId = c.slotId ∧ decision.entryPoint = c.entryPoint
  rejected : status ≠ .ok → status = .noBootableImage ∧ decision = prior

section Decision
variable {prior : Stage0Decision z} {i : ℕ}

theorem selects_nothing (ht : ¬ ∃ c ∈ cs, EligibleFor .trialStage1 e c)
    (hc : ¬ ∃ c ∈ cs, EligibleFor .confirmedStage1 e c) :
    Selects cs e prior .noBootableImage prior where
  ok_iff := iff_of_false (by decide) (none_eligible ht hc)
  reason_iff := fun h => absurd h (by decide)
  selected := fun h => absurd h (by decide)
  rejected := fun _ => ⟨rfl, rfl⟩

theorem selects_preferred {reason : Stage0DecisionReason}
    (h : Preferred (EligibleFor reason e) cs i c)
    (hreason : reason = .trialStage1 ↔ ∃ c ∈ cs, EligibleFor .trialStage1 e c) :
    Selects cs e prior .ok ⟨c.slotId, c.entryPoint, reason⟩ where
  ok_iff := iff_of_true rfl ⟨c, List.mem_of_getElem? h.getElem, h.eligible.toEligible⟩
  reason_iff := fun _ => hreason
  selected := fun _ => ⟨i, c, h, rfl, rfl⟩
  rejected := fun h => absurd rfl h

/-- Both classes are reported by the same three assignments. -/
theorem wps_report {reason : Stage0DecisionReason} (h : Preferred (EligibleFor reason e) cs i c)
    (hreason : reason = .trialStage1 ↔ ∃ c ∈ cs, EligibleFor .trialStage1 e c) :
    wps (do
        let candidate ← load (ε := Status) (bestPtr cs (some i)) 0
        set (some (Stage0Decision.mk candidate.slotId candidate.entryPoint reason)) :
        Prog (Option (Stage0Decision z)) Status Unit)
      (fun _ s => ∃ decision, s = some decision ∧ Selects cs e prior .ok decision)
      (fun st s => ∃ decision, s = some decision ∧ Selects cs e prior st decision)
      (some prior) := by
  rw [load_bestPtr h.getElem]
  exact ⟨_, rfl, selects_preferred h hreason⟩

variable (cs e prior) in
theorem wps_rampartStage0SelectStage1 : wps
    (rampartStage0SelectStage1 (some ⟨cs, 0⟩) cs.length e)
    (fun _ s => ∃ decision, s = some decision ∧ Selects cs e prior .ok decision)
    (fun st s => ∃ decision, s = some decision ∧ Selects cs e prior st decision)
    (some prior) := by
  have hruleT : ∀ c : Stage1Candidate z, candidateIsEligibleTrial e c = true ↔
      EligibleFor .trialStage1 e c := fun c => candidateIsEligibleTrial_iff
  have hruleC : ∀ c : Stage1Candidate z, candidateIsEligibleConfirmed e c = true ↔
      EligibleFor .confirmedStage1 e c := fun c => candidateIsEligibleConfirmed_iff
  obtain ⟨trial, htrial, hbestT⟩ := selectCandidate_eq (ε := Status) cs hruleT
  obtain ⟨confirmed, hconfirmed, hbestC⟩ := selectCandidate_eq (ε := Status) cs hruleC
  have hsomeT := hbestT.isSome_iff
  have hsomeC := hbestC.isSome_iff
  simp only [rampartStage0SelectStage1, selectTrial, selectConfirmed, wps_bind, wps_get, wps_lift,
    wp_rejectIf, htrial, hconfirmed, wp_ok]
  refine ⟨fun h => by simp at h, fun _ => ⟨fun hlen => ⟨prior, rfl, ?_⟩, fun _ => ?_⟩⟩
  · obtain rfl := List.length_eq_zero_iff.mp hlen
    exact selects_nothing (by simp) (by simp)
  · cases trial with
    | some i =>
      obtain ⟨c, hc⟩ := preferred_of_best hbestT
      exact wps_report hc (iff_of_true rfl (hsomeT.mp rfl))
    | none =>
      have hnone : ¬ ∃ c ∈ cs, EligibleFor .trialStage1 e c := by
        rw [← hsomeT]
        decide
      cases confirmed with
      | some i =>
        obtain ⟨c, hc⟩ := preferred_of_best hbestC
        exact wps_report hc (iff_of_false (by decide) hnone)
      | none => exact ⟨prior, rfl, selects_nothing hnone (by rw [← hsomeC]; decide)⟩

end Decision

/-- The decision of `rampart_stage0_select_stage1`, for candidate arrays of any length. -/
theorem rampartStage0SelectStage1_selects (cs : List (Stage1Candidate z)) (e : UInt32)
    (prior : Stage0Decision z) : ∃ status decision,
      call (rampartStage0SelectStage1 (some ⟨cs, 0⟩) cs.length e) (some prior) =
        .ok (status, some decision) ∧
      Selects cs e prior status decision := by
  obtain ⟨status, _, hcall, decision, rfl, h⟩ :=
    exists_call (wps_rampartStage0SelectStage1 e cs prior) fun _ h => h
  exact ⟨status, decision, hcall, h⟩

end RampartBoot.Stage0
