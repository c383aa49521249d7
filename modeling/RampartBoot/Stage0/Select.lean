import RampartBoot.Core.Binary
import RampartBoot.Foundation.RunningBest
import Mathlib.Data.Prod.Lex

/-! # Stage 0 selection

`rampart_stage0_select_stage1` walks the candidate slots twice, first for an eligible trial
and then for an eligible confirmed image, with one preference among them.
-/

namespace RampartBoot.Stage0
open Foundation RampartBoot.Core

inductive Stage1SlotState where
  | empty
  | confirmed
  | trial
  | rejected
  | invalid
  deriving DecidableEq, Repr

inductive Stage0DecisionReason where
  | trialStage1
  | confirmedStage1
  deriving DecidableEq, Repr

/-- `struct rampart_stage0_stage1_candidate`; `uintptr_t` and `size_t` have the width of `z`. -/
structure Stage1Candidate (z : SizeT) where
  slotId : UInt32
  state : Stage1SlotState
  authenticated : Bool
  securityEpoch : UInt32
  imageBase : BitVec z.bits
  imageSize : BitVec z.bits
  entryPoint : BitVec z.bits
  trialAttempt : UInt32
  maxTrialAttempts : UInt32
  deriving DecidableEq, Repr

structure Stage0Decision (z : SizeT) where
  selectedSlotId : UInt32
  entryPoint : BitVec z.bits
  reason : Stage0DecisionReason
  deriving DecidableEq, Repr

variable {z : SizeT} {ε : Type}

def candidateHasExecutableShape (candidate : Stage1Candidate z) : Bool :=
  candidate.authenticated && candidate.imageBase != 0 && candidate.imageSize != 0 &&
    candidate.entryPoint != 0

def candidateIsEligibleTrial (minimumSecurityEpoch : UInt32) (candidate : Stage1Candidate z) :
    Bool :=
  candidateHasExecutableShape candidate && candidate.state == .trial &&
    decide (candidate.securityEpoch ≥ minimumSecurityEpoch) &&
    decide (candidate.trialAttempt < candidate.maxTrialAttempts)

def candidateIsEligibleConfirmed (minimumSecurityEpoch : UInt32) (candidate : Stage1Candidate z) :
    Bool :=
  candidateHasExecutableShape candidate && candidate.state == .confirmed &&
    decide (candidate.securityEpoch ≥ minimumSecurityEpoch)

/-- `candidate_is_preferred`; `none` is the `NULL` best of the first rounds. -/
def candidateIsPreferred (candidate : Stage1Candidate z)
    (currentBest : Option (Ptr (Stage1Candidate z))) : Checked ε Bool :=
  match currentBest with
  | none => pure true
  | some best => do
    let current ← load (some best) 0
    if candidate.securityEpoch > current.securityEpoch then pure true
    else if candidate.securityEpoch < current.securityEpoch then pure false
    else pure (decide (candidate.slotId < current.slotId))

/-- The loop that `select_trial` and `select_confirmed` share. -/
def selectCandidate (eligible : Stage1Candidate z → Bool)
    (candidates : Option (Ptr (Stage1Candidate z))) (candidateCount : ℕ) :
    Checked ε (Option (Ptr (Stage1Candidate z))) :=
  forFrom (fun index best => do
    let candidate ← address candidates index
    let slot ← load candidate 0
    if eligible slot then do
      let preferred ← candidateIsPreferred slot best
      pure (if preferred then candidate else best)
    else pure best) 0 candidateCount none

def selectTrial (candidates : Option (Ptr (Stage1Candidate z))) (candidateCount : ℕ)
    (minimumSecurityEpoch : UInt32) : Checked ε (Option (Ptr (Stage1Candidate z))) :=
  selectCandidate (candidateIsEligibleTrial minimumSecurityEpoch) candidates candidateCount

def selectConfirmed (candidates : Option (Ptr (Stage1Candidate z))) (candidateCount : ℕ)
    (minimumSecurityEpoch : UInt32) : Checked ε (Option (Ptr (Stage1Candidate z))) :=
  selectCandidate (candidateIsEligibleConfirmed minimumSecurityEpoch) candidates candidateCount

/-- `rampart_stage0_select_stage1`; the state is what `decision` points to. -/
def rampartStage0SelectStage1 (candidates : Option (Ptr (Stage1Candidate z)))
    (candidateCount : ℕ) (minimumSecurityEpoch : UInt32) :
    Prog (Option (Stage0Decision z)) Status Unit := do
  let decision ← get
  rejectIf (candidates.isNone || decision.isNone) Status.invalidArgument
  rejectIf (candidateCount = 0) Status.noBootableImage
  let selected ← selectTrial (ε := Status) candidates candidateCount minimumSecurityEpoch
  match selected with
  | some best => do
    let candidate ← load (ε := Status) (some best) 0
    set (some (Stage0Decision.mk candidate.slotId candidate.entryPoint .trialStage1))
  | none => do
    let selected ← selectConfirmed (ε := Status) candidates candidateCount minimumSecurityEpoch
    match selected with
    | some best => do
      let candidate ← load (ε := Status) (some best) 0
      set (some (Stage0Decision.mk candidate.slotId candidate.entryPoint .confirmedStage1))
    | none => exit Status.noBootableImage

end RampartBoot.Stage0
