import Mathlib.Data.List.Nodup
import Mathlib.Logic.Function.Basic

/-! # Footprints on partial maps

A computation that allocates objects and has to release them again owns some cells of the heap
next to a base that it leaves alone. The rules say how the owned cells change with each step; a
computation that owns nothing any more has left the heap as it was.

A computation that only adds entries extends the map. Steps of this kind compose, so a run of them
extends the map at the places of its steps.
-/

namespace RampartBoot.Foundation

abbrev Heap (α : Type*) := ℕ → Option α

variable {α : Type*} {base heap : Heap α} {owned owned' : List (ℕ × α)} {a : ℕ} {o o' : α}

/-- The heap is `base` with the cells `owned` next to it. -/
structure Footprint (base : Heap α) (owned : List (ℕ × α)) (heap : Heap α) : Prop where
  distinct : (owned.map Prod.fst).Nodup
  absent : ∀ a o, (a, o) ∈ owned → base a = none
  held : ∀ a o, (a, o) ∈ owned → heap a = some o
  rest : ∀ a, a ∉ owned.map Prod.fst → heap a = base a

/-- The step from `before` to `after` returned either nothing or the address of a new object. -/
def Allocates (before after : Heap α) (result : Option ℕ) (o : α) : Prop :=
  match result with
  | none => after = before
  | some a => before a = none ∧ after = Function.update before a (some o)

namespace Footprint

theorem nil_iff : Footprint base [] heap ↔ heap = base := by
  constructor
  · exact fun h => funext fun a => h.rest a (by simp)
  · rintro rfl
    exact ⟨List.nodup_nil, by simp, by simp, fun _ _ => rfl⟩

theorem head (h : Footprint base ((a, o) :: owned) heap) : heap a = some o :=
  h.held a o List.mem_cons_self

theorem perm (h : Footprint base owned heap) (hperm : owned.Perm owned') :
    Footprint base owned' heap where
  distinct := (hperm.map Prod.fst).nodup_iff.mp h.distinct
  absent a o ho := h.absent a o (hperm.mem_iff.mpr ho)
  held a o ho := h.held a o (hperm.mem_iff.mpr ho)
  rest a ha := h.rest a fun hmem => ha ((hperm.map Prod.fst).mem_iff.mp hmem)

theorem alloc (h : Footprint base owned heap) (ha : heap a = none) :
    Footprint base ((a, o) :: owned) (Function.update heap a (some o)) := by
  have hnew : a ∉ owned.map Prod.fst := by
    intro hmem
    obtain ⟨⟨b, p⟩, hp, rfl⟩ := List.mem_map.mp hmem
    rw [h.held b p hp] at ha
    cases ha
  have hne : ∀ b p, (b, p) ∈ owned → b ≠ a := by
    rintro b p hp rfl
    exact hnew (List.mem_map.mpr ⟨_, hp, rfl⟩)
  constructor
  · exact List.nodup_cons.mpr ⟨hnew, h.distinct⟩
  · intro b p hp
    rcases List.mem_cons.mp hp with heq | hp
    · obtain ⟨rfl, rfl⟩ := Prod.mk.inj heq
      rw [← h.rest b hnew, ha]
    · exact h.absent b p hp
  · intro b p hp
    rcases List.mem_cons.mp hp with heq | hp
    · obtain ⟨rfl, rfl⟩ := Prod.mk.inj heq
      exact Function.update_self ..
    · rw [Function.update_of_ne (hne b p hp), h.held b p hp]
  · intro b hb
    rw [List.map_cons, List.mem_cons, not_or] at hb
    rw [Function.update_of_ne hb.1, h.rest b hb.2]

theorem alloc_iff {result : Option ℕ} {after : Heap α} (h : Footprint base owned heap)
    (halloc : Allocates heap after result o) :
    Footprint base (result.toList.map (fun a => (a, o)) ++ owned) after := by
  cases result with
  | none =>
    rw [halloc]
    exact h
  | some a =>
    obtain ⟨ha, rfl⟩ := halloc
    exact h.alloc ha

/-- An owned object that is released leaves its address as it was. -/
theorem free (h : Footprint base ((a, o) :: owned) heap) :
    Footprint base owned (Function.update heap a none) := by
  have hdistinct := List.nodup_cons.mp h.distinct
  constructor
  · exact hdistinct.2
  · exact fun b p hp => h.absent b p (List.mem_cons_of_mem _ hp)
  · intro b p hp
    have hne : b ≠ a := by
      rintro rfl
      exact hdistinct.1 (List.mem_map.mpr ⟨_, hp, rfl⟩)
    rw [Function.update_of_ne hne, h.held b p (List.mem_cons_of_mem _ hp)]
  · intro b hb
    by_cases hba : b = a
    · rw [hba, Function.update_self, h.absent a o List.mem_cons_self]
    · rw [Function.update_of_ne hba, h.rest b]
      rw [List.map_cons, List.mem_cons, not_or]
      exact ⟨hba, hb⟩

theorem write (h : Footprint base ((a, o) :: owned) heap) :
    Footprint base ((a, o') :: owned) (Function.update heap a (some o')) := by
  have hfree := h.free.alloc (a := a) (o := o') (Function.update_self ..)
  rwa [Function.update_idem] at hfree

end Footprint

section Extends
variable {P α σ γ : Type*} {before mid after : P → Option α} {places places' : List P}

/-- `after` has every entry of `before`, and others at most at `places`. -/
structure Extends (places : List P) (before after : P → Option α) : Prop where
  kept : ∀ p a, before p = some a → after p = some a
  only : ∀ p, p ∉ places → after p = before p

namespace Extends

theorem refl (places : List P) (before : P → Option α) : Extends places before before :=
  ⟨fun _ _ h => h, fun _ _ => rfl⟩

theorem trans (h : Extends places before mid) (h' : Extends places' mid after) :
    Extends (places ++ places') before after where
  kept p a ha := h'.kept p a (h.kept p a ha)
  only p hp := by
    rw [List.mem_append, not_or] at hp
    rw [h'.only p hp.2, h.only p hp.1]

theorem update [DecidableEq P] {p : P} (h : before p = none) (a : α) :
    Extends [p] before (Function.update before p (some a)) where
  kept q b hb := by
    have hne : q ≠ p := by
      rintro rfl
      rw [h] at hb
      cases hb
    rw [Function.update_of_ne hne, hb]
  only _ hq := Function.update_of_ne (fun heq => hq (List.mem_singleton.mpr heq)) ..

/-- A run of steps, each of which extends what it finds at its own places. -/
theorem foldl (store : σ → P → Option α) (placesOf : γ → List P) {step : σ → γ → σ}
    (hstep : ∀ s c, Extends (placesOf c) (store s) (store (step s c))) (cs : List γ) (s : σ) :
    Extends (cs.flatMap placesOf) (store s) (store (cs.foldl step s)) := by
  induction cs generalizing s with
  | nil => exact refl _ _
  | cons c cs ih => exact (hstep s c).trans (ih (step s c))

end Extends

end Extends

end RampartBoot.Foundation
