import Mathlib.Logic.Basic
import Mathlib.Order.Lattice
import Mathlib.Algebra.GroupWithZero.Nat

/-! # Checked computations and their rules

A computation returns a value, leaves early with a result of its own, or reaches
a fault: a step that the source language leaves undefined or answers by aborting.
Postconditions come in pairs, one for the value and one for the early result, and
a fault satisfies neither, so every proved postcondition also excludes faults.
-/

namespace RampartBoot.Foundation

/-- A step that a correct program never takes. -/
inductive Fault where
  /-- access through a null pointer -/
  | null
  /-- read at an index outside the object -/
  | load
  /-- write at an index outside the object -/
  | store
  /-- pointer formed outside its object -/
  | address
  /-- unsigned addition above the range of its type -/
  | overflow
  /-- unsigned subtraction below zero -/
  | underflow
  /-- slice whose range is not inside the sliced value -/
  | slice
  /-- copy between slices of different lengths -/
  | copy
  /-- failed conversion or result that the source unwraps -/
  | expect
  /-- text that an output stream does not take -/
  | print
  deriving DecidableEq, Repr

/-- Why a computation ended before its last statement. -/
inductive Stop (ε : Type) where
  | ret (e : ε)
  | fault (f : Fault)
  deriving DecidableEq, Repr

abbrev Checked (ε α : Type) := Except (Stop ε) α

/-- Stateful computations. An early exit and a fault keep the state reached so far. -/
abbrev Prog (σ ε α : Type) := EStateM (Stop ε) σ α

variable {σ τ ε α β : Type}

def exit (e : ε) : Checked ε α := .error (.ret e)

def fault (f : Fault) : Checked ε α := .error (.fault f)

/-- The statement `if (c) return e;`. -/
def rejectIf (c : Prop) [Decidable c] (e : ε) : Checked ε Unit :=
  if c then exit e else pure ()

instance : MonadLift (Checked ε) (Prog σ ε) where
  monadLift x := fun s => match x with
    | .ok a => .ok a s
    | .error e => .error e s

def wp (x : Checked ε α) (Q : α → Prop) (E : ε → Prop) : Prop :=
  match x with
  | .ok a => Q a
  | .error (.ret e) => E e
  | .error (.fault _) => False

section Stateless
variable {x : Checked ε α} {f : α → Checked ε β} {Q Q' : α → Prop} {E E' : ε → Prop}

@[simp] theorem wp_pure (a : α) : wp (pure a : Checked ε α) Q E ↔ Q a := Iff.rfl

@[simp] theorem wp_ok (a : α) : wp (.ok a : Checked ε α) Q E ↔ Q a := Iff.rfl

@[simp] theorem wp_exit (e : ε) : wp (exit e : Checked ε α) Q E ↔ E e := Iff.rfl

@[simp] theorem wp_bind {R : β → Prop} :
    wp (x >>= f) R E ↔ wp x (fun a => wp (f a) R E) E := by
  rcases x with (e | k) | a <;> rfl

@[simp] theorem wp_rejectIf (c : Prop) [Decidable c] (e : ε) {R : Unit → Prop} :
    wp (rejectIf c e) R E ↔ (c → E e) ∧ (¬ c → R ()) := by
  unfold rejectIf
  split_ifs with h <;> simp [h]

theorem wp_ite (c : Prop) [Decidable c] {y : Checked ε α} :
    wp (if c then x else y) Q E ↔ (c → wp x Q E) ∧ (¬ c → wp y Q E) := by
  split_ifs with h <;> simp [h]

theorem wp_mono (h : wp x Q E) (hQ : ∀ a, Q a → Q' a) (hE : ∀ e, E e → E' e) : wp x Q' E' := by
  rcases x with (e | k) | a
  · exact hE e h
  · exact h
  · exact hQ a h

/-- The value returned is the only one that every postcondition must admit. -/
theorem eq_ok_iff_wp (a : α) : x = .ok a ↔ wp x (fun b => b = a) (fun _ => False) := by
  rcases x with (e | k) | b <;> simp [wp]

/-- A computation with any postcondition at all is free of faults. -/
theorem wp_cases (h : wp x Q E) :
    (∃ a, x = .ok a ∧ Q a) ∨ ∃ e, x = .error (.ret e) ∧ E e := by
  rcases x with (e | k) | a
  · exact .inr ⟨e, rfl, h⟩
  · exact h.elim
  · exact .inl ⟨a, rfl, h⟩

theorem bind_of_eq_ok {a : α} (h : x = .ok a) : (x >>= f) = f a := by
  rw [h]; rfl

theorem ok_bind (a : α) : ((.ok a : Checked ε α) >>= f) = f a := rfl

theorem bind_eq_ok_iff {b : β} : (x >>= f) = .ok b ↔ ∃ a, x = .ok a ∧ f a = .ok b := by
  rcases x with e | a
  · simp [bind, Except.bind]
  · simp [ok_bind]

theorem pure_eq_ok_iff {a b : α} : (pure a : Checked ε α) = .ok b ↔ b = a := by
  simp [pure, Except.pure, eq_comm]

/-- A check in front of a computation is one more condition for its success. -/
theorem rejectIf_bind_eq_ok {c : Prop} [Decidable c] {e : ε} {g : Unit → Checked ε β} {b : β} :
    (rejectIf c e >>= g) = .ok b ↔ ¬ c ∧ g () = .ok b := by
  unfold rejectIf
  split_ifs with h
  · simp [h, exit, bind, Except.bind]
  · simp [h, pure, Except.pure, bind, Except.bind]

theorem bind_eq_exit_iff {r : ε} :
    (x >>= f) = exit r ↔ x = exit r ∨ ∃ a, x = .ok a ∧ f a = exit r := by
  rcases x with e | a
  · simp [exit, bind, Except.bind]
  · simp [exit, ok_bind]

theorem pure_ne_exit {a : α} {r : ε} : (pure a : Checked ε α) ≠ exit r := nofun

/-- Another early result than that of the check is a result of the computation behind it. -/
theorem rejectIf_bind_eq_exit {c : Prop} [Decidable c] {e r : ε} {g : Unit → Checked ε β}
    (hne : e ≠ r) : (rejectIf c e >>= g) = exit r ↔ ¬ c ∧ g () = exit r := by
  unfold rejectIf
  split_ifs with h
  · simp [h, hne, exit, bind, Except.bind]
  · simp [h, pure, Except.pure, bind, Except.bind]

theorem rejectIf_bind_of_not {c : Prop} [Decidable c] {e : ε} {g : Unit → Checked ε β}
    (h : ¬ c) : (rejectIf c e >>= g) = g () := by
  rw [rejectIf, if_neg h]
  rfl

theorem rejectIf_eq_ok_iff {c : Prop} [Decidable c] {e : ε} {u : Unit} :
    rejectIf c e = .ok u ↔ ¬ c := by
  unfold rejectIf
  split_ifs with h
  · simp [h, exit]
  · simp [h, pure, Except.pure]

end Stateless

def wps (p : Prog σ ε α) (Q : α → σ → Prop) (E : ε → σ → Prop) (s : σ) : Prop :=
  match p s with
  | .ok a t => Q a t
  | .error (.ret e) t => E e t
  | .error (.fault _) _ => False

section Stateful
variable {p : Prog σ ε α} {f : α → Prog σ ε β} {Q Q' : α → σ → Prop} {E E' : ε → σ → Prop} {s : σ}

@[simp] theorem wps_pure (a : α) : wps (pure a : Prog σ ε α) Q E s ↔ Q a s := Iff.rfl

@[simp] theorem wps_bind {R : β → σ → Prop} :
    wps (p >>= f) R E s ↔ wps p (fun a t => wps (f a) R E t) E s := by
  change wps (EStateM.bind p f) R E s ↔ _
  unfold wps EStateM.bind
  rcases p s with ⟨a, t⟩ | ⟨e | k, t⟩ <;> rfl

@[simp] theorem wps_get {R : σ → σ → Prop} : wps (get : Prog σ ε σ) R E s ↔ R s s := Iff.rfl

@[simp] theorem wps_set (t : σ) {R : Unit → σ → Prop} :
    wps (set t : Prog σ ε Unit) R E s ↔ R () t := Iff.rfl

@[simp] theorem wps_lift (x : Checked ε α) :
    wps (liftM x : Prog σ ε α) Q E s ↔ wp x (fun a => Q a s) (fun e => E e s) := by
  rcases x with (e | k) | a <;> rfl

theorem wps_mono (h : wps p Q E s) (hQ : ∀ a t, Q a t → Q' a t) (hE : ∀ e t, E e t → E' e t) :
    wps p Q' E' s := by
  unfold wps at *
  rcases hp : p s with ⟨a, t⟩ | ⟨e | k, t⟩ <;> rw [hp] at h
  · exact hQ a t h
  · exact hE e t h
  · exact h

theorem wps_of_eq_ok {a : α} {t : σ} (h : p s = .ok a t) : wps p Q E s ↔ Q a t := by
  unfold wps
  rw [h]

theorem exists_ok_of_wps (h : wps p Q (fun _ _ => False) s) : ∃ a t, p s = .ok a t ∧ Q a t := by
  unfold wps at h
  rcases hp : p s with ⟨a, t⟩ | ⟨e | k, t⟩ <;> rw [hp] at h
  · exact ⟨a, t, rfl, h⟩
  · exact h.elim
  · exact h.elim

/-- Call a function that also writes through a pointer, on the address of a local variable. -/
def withOut (p : Prog (σ × Option τ) ε Unit) (init : τ) : Prog σ ε τ := fun s =>
  match p (s, some init) with
  | .ok _ (t, some out) => .ok out t
  | .ok _ (t, none) => .error (.fault .null) t
  | .error e (t, _) => .error e t

def onFst (p : Prog σ ε α) : Prog (σ × τ) ε α := fun s =>
  match p s.1 with
  | .ok a t => .ok a (t, s.2)
  | .error e t => .error e (t, s.2)

def callback (f : σ → α × σ) : Prog σ ε α := fun s => .ok (f s).1 (f s).2

theorem wps_withOut {p : Prog (σ × Option τ) ε Unit} {init : τ} {Q : τ → σ → Prop} :
    wps (withOut p init) Q E s ↔
      wps p (fun _ t => ∃ out, t.2 = some out ∧ Q out t.1) (fun e t => E e t.1) (s, some init) := by
  unfold wps withOut
  rcases p (s, some init) with ⟨⟨⟩, t, _ | out⟩ | ⟨e | k, t, o⟩ <;> simp

@[simp] theorem wps_onFst {Q : α → σ × τ → Prop} {E : ε → σ × τ → Prop} {s : σ × τ} :
    wps (onFst p) Q E s ↔ wps p (fun a t => Q a (t, s.2)) (fun e t => E e (t, s.2)) s.1 := by
  unfold wps onFst
  rcases p s.1 with ⟨a, t⟩ | ⟨e | k, t⟩ <;> rfl

@[simp] theorem wps_callback {f : σ → α × σ} :
    wps (callback f) Q E s ↔ Q (f s).1 (f s).2 := Iff.rfl

end Stateful

def assign (f : τ → τ) : Prog (σ × τ) ε Unit := fun s => .ok () (s.1, f s.2)

/-- The statement `if (c) goto cleanup;`. -/
def leaveIf (c : Prop) [Decidable c] : Checked Unit Unit := rejectIf c ()

/-- Run `body` to its end or to its jump, then `cleanup` on the local variables as it left them. -/
def withCleanup (body : Prog (σ × τ) Unit Unit) (init : τ) (cleanup : τ → Prog σ ε α) :
    Prog σ ε α := fun s =>
  match body (s, init) with
  | .ok _ (t, locals) => cleanup locals t
  | .error (.ret _) (t, locals) => cleanup locals t
  | .error (.fault f) (t, _) => .error (.fault f) t

@[simp] theorem wps_assign {f : τ → τ} {s : σ × τ} {Q : Unit → σ × τ → Prop}
    {E : ε → σ × τ → Prop} : wps (assign f) Q E s ↔ Q () (s.1, f s.2) := Iff.rfl

/-- The body may end in either way, and the cleanup has to cope with both. -/
theorem wps_withCleanup {body : Prog (σ × τ) Unit Unit} {init : τ} {cleanup : τ → Prog σ ε α}
    {s : σ} {Q : α → σ → Prop} {E : ε → σ → Prop} :
    wps (withCleanup body init cleanup) Q E s ↔
      wps body (fun _ t => wps (cleanup t.2) Q E t.1) (fun _ t => wps (cleanup t.2) Q E t.1)
        (s, init) := by
  unfold wps withCleanup
  rcases body (s, init) with ⟨⟨⟩, t, locals⟩ | ⟨⟨⟩ | f, t, locals⟩ <;> rfl

end RampartBoot.Foundation
