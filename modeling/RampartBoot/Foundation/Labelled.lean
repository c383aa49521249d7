import Mathlib.Data.List.Basic

/-! # Texts of labelled values

A text lists values, each behind a label. The last entry of a label does not occur in the value
behind it. So the values are found from the end of the text, whatever stands in front of them.
-/

namespace RampartBoot.Foundation

variable {α : Type}

structure Labelled (α : Type) where
  label : List α
  mark : α
  value : List α
  marked : label.getLast? = some mark
  unmarked : mark ∉ value

namespace Labelled

variable {f g : Labelled α} {fs gs : List (Labelled α)} {u v : List α}

def text (f : Labelled α) : List α := f.label ++ f.value

theorem append_mark_inj {x y z w : List α} {a : α} (hz : a ∉ z) (hw : a ∉ w)
    (h : x ++ a :: z = y ++ a :: w) : x = y ∧ z = w := by
  rcases List.append_eq_append_iff.mp h with ⟨t, rfl, ht⟩ | ⟨t, rfl, ht⟩
  · cases t with
    | nil => exact ⟨(List.append_nil x).symm, (List.cons.inj ht).2⟩
    | cons _ t =>
      rw [(List.cons.inj ht).2] at hz
      exact absurd (List.mem_append_right t List.mem_cons_self) hz
  · cases t with
    | nil => exact ⟨List.append_nil y, (List.cons.inj ht).2.symm⟩
    | cons _ t =>
      rw [(List.cons.inj ht).2] at hw
      exact absurd (List.mem_append_right t List.mem_cons_self) hw

theorem exists_text_eq (f : Labelled α) : ∃ front, f.text = front ++ f.mark :: f.value := by
  obtain ⟨front, hfront⟩ := List.getLast?_eq_some_iff.mp f.marked
  exact ⟨front, by rw [text, hfront, List.append_assoc, List.singleton_append]⟩

/-- The value behind the last mark of a text is determined by the mark alone. -/
theorem append_text_value_inj (hmark : f.mark = g.mark) (h : u ++ f.text = v ++ g.text) :
    f.value = g.value := by
  obtain ⟨front, hf⟩ := f.exists_text_eq
  obtain ⟨front', hg⟩ := g.exists_text_eq
  have hf' : f.mark ∉ g.value := hmark ▸ g.unmarked
  rw [hf, hg, ← hmark, ← List.append_assoc, ← List.append_assoc] at h
  exact (append_mark_inj f.unmarked hf' h).2

theorem append_text_inj (hlabel : f.label = g.label) (h : u ++ f.text = v ++ g.text) :
    u = v ∧ f = g := by
  have hmark : f.mark = g.mark :=
    Option.some.inj (f.marked.symm.trans (hlabel ▸ g.marked))
  have hvalue := append_text_value_inj hmark h
  obtain ⟨label, mark, value, _, _⟩ := f
  obtain ⟨_, _, _, _, _⟩ := g
  obtain rfl := hlabel
  obtain rfl := hmark
  obtain rfl := hvalue
  exact ⟨List.append_cancel_right h, rfl⟩

/-- The values are determined by the text, and so is what stands in front of them. -/
theorem append_flatMap_text_inj (hlabels : fs.map label = gs.map label)
    (h : u ++ fs.flatMap text = v ++ gs.flatMap text) : u = v ∧ fs = gs := by
  induction fs generalizing gs u v with
  | nil =>
    obtain rfl := List.map_eq_nil_iff.mp hlabels.symm
    exact ⟨by simpa using h, rfl⟩
  | cons f fs ih =>
    obtain ⟨g, gs, rfl, hlabel, hlabels⟩ := List.map_eq_cons_iff.mp hlabels.symm
    simp only [List.flatMap_cons, ← List.append_assoc] at h
    -- the first value is read off last
    obtain ⟨hfirst, rfl⟩ := ih hlabels.symm h
    obtain ⟨rfl, rfl⟩ := append_text_inj hlabel.symm hfirst
    exact ⟨rfl, rfl⟩

end Labelled

end RampartBoot.Foundation
