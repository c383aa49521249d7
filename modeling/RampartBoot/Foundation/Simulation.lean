import RampartBoot.Foundation.Loops

/-! # Simulation of stateful computations

Two programs over different states can be run side by side: from related states they return
related values, or end early for the same reason, and leave related states again. Each
construct of a program has its rule, so a simulation is built as the programs are.
-/

namespace RampartBoot.Foundation

variable {σ τ σ' τ' ε α β α' β' υ : Type}

/-- Outcomes of two runs with related values and states, or with one reason to stop. -/
def Related (R : σ → τ → Prop) (S : α → β → Prop) :
    EStateM.Result (Stop ε) σ α → EStateM.Result (Stop ε) τ β → Prop
  | .ok a s, .ok b t => S a b ∧ R s t
  | .error e s, .error f t => e = f ∧ R s t
  | _, _ => False

/-- From states in `R` the two programs have related outcomes, with values in `S`. -/
def Simulates (R : σ → τ → Prop) (S : α → β → Prop) (p : Prog σ ε α) (q : Prog τ ε β) : Prop :=
  ∀ s t, R s t → Related R S (p s) (q t)

def OnFst (R : σ → τ → Prop) (s : σ × υ) (t : τ × υ) : Prop := R s.1 t.1 ∧ s.2 = t.2

namespace Simulates

variable {R : σ → τ → Prop} {S : α → β → Prop} {T : α' → β' → Prop} {p : Prog σ ε α}
  {q : Prog τ ε β}

theorem pure {a : α} {b : β} (h : S a b) :
    Simulates R S (Pure.pure a : Prog σ ε α) (Pure.pure b : Prog τ ε β) :=
  fun _ _ hst => ⟨h, hst⟩

theorem lift (x : Checked ε α) :
    Simulates R (· = ·) (liftM x : Prog σ ε α) (liftM x : Prog τ ε α) := by
  intro s t hst
  rcases x with (e | k) | a <;> exact ⟨rfl, hst⟩

theorem bind {f : α → Prog σ ε α'} {g : β → Prog τ ε β'} (h : Simulates R S p q)
    (hf : ∀ a b, S a b → Simulates R T (f a) (g b)) : Simulates R T (p >>= f) (q >>= g) := by
  intro s t hst
  have hpq := h s t hst
  change Related R T (EStateM.bind p f s) (EStateM.bind q g t)
  unfold EStateM.bind
  rcases hp : p s with ⟨a, s'⟩ | ⟨e, s'⟩ <;> rcases hq : q t with ⟨b, t'⟩ | ⟨e', t'⟩ <;>
    rw [hp, hq] at hpq
  · exact hf a b hpq.1 s' t' hpq.2
  · exact hpq.elim
  · exact hpq.elim
  · exact hpq

/-- The same check in front of two programs, which only run where it has passed. -/
theorem lift_bind {γ : Type} (x : Checked ε γ) {f : γ → Prog σ ε α} {g : γ → Prog τ ε β}
    (h : ∀ c, x = .ok c → Simulates R S (f c) (g c)) :
    Simulates R S (liftM x >>= f) (liftM x >>= g) := by
  intro s t hst
  rcases x with e | c
  · exact ⟨rfl, hst⟩
  · exact h c rfl s t hst

theorem get_bind {f : σ → Prog σ ε α} {g : τ → Prog τ ε β}
    (h : ∀ s t, R s t → Simulates R S (f s) (g t)) : Simulates R S (get >>= f) (get >>= g) :=
  fun s t hst => h s t hst s t hst

theorem set {s : σ} {t : τ} (h : R s t) :
    Simulates R (· = ·) (MonadStateOf.set s : Prog σ ε Unit) (MonadStateOf.set t : Prog τ ε Unit) :=
  fun _ _ _ => ⟨rfl, h⟩

theorem callback {f : σ → α × σ} {g : τ → β × τ}
    (h : ∀ s t, R s t → S (f s).1 (g t).1 ∧ R (f s).2 (g t).2) :
    Simulates R S (Foundation.callback f : Prog σ ε α) (Foundation.callback g : Prog τ ε β) :=
  h

theorem onFst (h : Simulates R S p q) :
    Simulates (OnFst R) S (Foundation.onFst p : Prog (σ × υ) ε α)
      (Foundation.onFst q : Prog (τ × υ) ε β) := by
  rintro ⟨s, u⟩ ⟨t, w⟩ ⟨hst, huw⟩
  have hpq := h s t hst
  unfold Foundation.onFst
  rcases hp : p s with ⟨a, s'⟩ | ⟨e, s'⟩ <;> rcases hq : q t with ⟨b, t'⟩ | ⟨e', t'⟩ <;>
    rw [hp, hq] at hpq
  · exact ⟨hpq.1, hpq.2, huw⟩
  · exact hpq.elim
  · exact hpq.elim
  · exact ⟨hpq.1, hpq.2, huw⟩

theorem withOut {p : Prog (σ × Option υ) ε Unit} {q : Prog (τ × Option υ) ε Unit}
    (h : Simulates (OnFst R) (· = ·) p q) (init : υ) :
    Simulates R (· = ·) (Foundation.withOut p init) (Foundation.withOut q init) := by
  intro s t hst
  have hpq := h (s, some init) (t, some init) ⟨hst, rfl⟩
  unfold Foundation.withOut
  rcases hp : p (s, some init) with ⟨⟨⟩, s', u⟩ | ⟨e, s', u⟩ <;>
    rcases hq : q (t, some init) with ⟨⟨⟩, t', w⟩ | ⟨e', t', w⟩ <;> rw [hp, hq] at hpq
  · obtain ⟨-, hst', rfl⟩ := hpq
    cases u with
    | none => exact ⟨rfl, hst'⟩
    | some out => exact ⟨rfl, hst'⟩
  · exact hpq.elim
  · exact hpq.elim
  · exact ⟨hpq.1, hpq.2.1⟩

theorem forFrom {f : ℕ → α → Prog σ ε α} {g : ℕ → α → Prog τ ε α}
    (h : ∀ i a, Simulates R (· = ·) (f i a) (g i a)) (first n : ℕ) (a : α) :
    Simulates R (· = ·) (Foundation.forFrom f first n a) (Foundation.forFrom g first n a) := by
  induction n generalizing first a with
  | zero => exact pure rfl
  | succ n ih =>
    refine (h first a).bind ?_
    rintro b _ rfl
    exact ih (first + 1) b

end Simulates

end RampartBoot.Foundation
