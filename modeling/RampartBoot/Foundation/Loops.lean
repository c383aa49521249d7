import RampartBoot.Foundation.Checked

/-! # Counted loops

`for (i = first; i < first + n; ++i)` over any monad, in the two shapes that occur: a body
that updates a running value, and a test that leaves the loop at the first failure.
-/

namespace RampartBoot.Foundation

variable {m : Type → Type} [Monad m] {σ ε β : Type}

def forFrom (body : ℕ → β → m β) (first : ℕ) : ℕ → β → m β
  | 0, s => pure s
  | n + 1, s => body first s >>= forFrom body (first + 1) n

/-- Test `first`, `first + 1`, ..., for `n` rounds; the first failed test ends the loop. -/
def forallFrom (test : ℕ → m Bool) (first : ℕ) : ℕ → m Bool
  | 0 => pure true
  | n + 1 => do
    if ← test first then forallFrom test (first + 1) n else pure false

/-- Test `first`, `first + 1`, ..., for `n` rounds; the first passed test ends the loop. -/
def findFrom (test : ℕ → m Bool) (first : ℕ) : ℕ → m (Option ℕ)
  | 0 => pure none
  | n + 1 => do
    if ← test first then pure (some first) else findFrom test (first + 1) n

/-- An invariant that every round carries from `i` to `i + 1` holds after the last round. -/
theorem wp_forFrom {f : ℕ → β → Checked ε β} {E : ε → Prop} (I : ℕ → β → Prop)
    (first n : ℕ) (s : β) (hs : I first s)
    (step : ∀ i s, first ≤ i → i < first + n → I i s → wp (f i s) (I (i + 1)) E) :
    wp (forFrom f first n s) (I (first + n)) E := by
  induction n generalizing first s with
  | zero => exact hs
  | succ n ih =>
    rw [forFrom, wp_bind]
    refine wp_mono (step first s (Nat.le_refl _) (by omega) hs) (fun t ht => ?_) (fun e he => he)
    have h := ih (first + 1) t ht (fun i u h₁ h₂ => step i u (by omega) (by omega))
    rwa [Nat.add_right_comm, Nat.add_assoc] at h

theorem wps_forFrom {f : ℕ → β → Prog σ ε β} {E : ε → σ → Prop} (I : ℕ → β → σ → Prop)
    (first n : ℕ) (b : β) (s : σ) (hs : I first b s)
    (step : ∀ i b s, first ≤ i → i < first + n → I i b s →
      wps (f i b) (I (i + 1)) E s) :
    wps (forFrom f first n b) (I (first + n)) E s := by
  induction n generalizing first b s with
  | zero => exact hs
  | succ n ih =>
    rw [forFrom, wps_bind]
    refine wps_mono (step first b s (Nat.le_refl _) (by omega) hs) (fun c t ht => ?_)
      (fun e t he => he)
    have h := ih (first + 1) c t ht (fun i c u h₁ h₂ => step i c u (by omega) (by omega))
    rwa [Nat.add_right_comm, Nat.add_assoc] at h

/-- Where every test decides `P`, the loop decides `P` of the whole range. -/
theorem forallFrom_eq_ok {f : ℕ → Checked ε Bool} (P : ℕ → Prop) [DecidablePred P]
    (first n : ℕ) (h : ∀ i, first ≤ i → i < first + n → f i = .ok (decide (P i))) :
    forallFrom f first n = .ok (decide (∀ i < n, P (first + i))) := by
  induction n generalizing first with
  | zero => simp [forallFrom, pure, Except.pure]
  | succ n ih =>
    rw [forallFrom, bind_of_eq_ok (h first (Nat.le_refl _) (by omega))]
    have hrest := ih (first + 1) (fun i h₁ h₂ => h i (by omega) (by omega))
    have hsplit : (∀ i < n + 1, P (first + i)) ↔ P first ∧ ∀ i < n, P (first + 1 + i) := by
      rw [Nat.forall_lt_succ_left]
      simp only [Nat.add_zero, Nat.add_assoc, Nat.add_comm 1]
    by_cases hp : P first
    · simp only [hp, decide_true, if_true, hrest, hsplit, true_and]
    · have hnone : ¬ ∀ i < n + 1, P (first + i) := fun h => hp (hsplit.mp h).1
      rw [decide_eq_false hnone, decide_eq_false hp]
      rfl

/-- Where every test decides `P`, the loop finds the first index at which `P` holds. -/
theorem findFrom_eq_ok {f : ℕ → Checked ε Bool} (P : ℕ → Prop) [DecidablePred P]
    (first n : ℕ) (h : ∀ i, first ≤ i → i < first + n → f i = .ok (decide (P i))) :
    findFrom f first n = .ok ((List.range' first n).find? fun i => decide (P i)) := by
  induction n generalizing first with
  | zero => simp [findFrom, pure, Except.pure]
  | succ n ih =>
    rw [findFrom, bind_of_eq_ok (h first (Nat.le_refl _) (by omega)), List.range'_succ,
      List.find?_cons]
    by_cases hp : P first
    · simp [hp, pure, Except.pure]
    · simpa [hp] using ih (first + 1) fun i h₁ h₂ => h i (by omega) (by omega)

end RampartBoot.Foundation
