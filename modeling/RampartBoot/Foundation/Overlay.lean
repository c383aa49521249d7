import RampartBoot.Foundation.Table

/-! # Filling in a blank buffer

A writer that starts from a blank buffer and copies the rows of a table to their offsets ends
up with what the table describes, also if it leaves out rows that are blank themselves.
-/

namespace RampartBoot.Foundation

variable {α : Type*}

def patch (out : List α) (i : ℕ) (src : List α) : List α :=
  (out.take i ++ src ++ out.drop (i + src.length)).take out.length

@[simp] theorem patch_length (out : List α) (i : ℕ) (src : List α) :
    (patch out i src).length = out.length := by
  simp only [patch, List.length_take, List.length_append, List.length_drop]
  omega

theorem patch_append {u v w src : List α} (h : src.length = v.length) :
    patch (u ++ v ++ w) u.length src = u ++ src ++ w := by
  have hdrop : (u ++ v ++ w).drop (u.length + src.length) = w := by
    rw [h, ← List.length_append]
    exact List.drop_left
  have htake : (u ++ v ++ w).take u.length = u := by
    rw [List.append_assoc]
    exact List.take_left
  rw [patch, hdrop, htake, List.take_of_length_le]
  simp only [List.length_append]
  omega

namespace Table

variable {z : α} {t ws : Table α} {start : ℕ}

def overlay (t : Table α) (out : List α) : List α :=
  t.foldl (fun out r => patch out r.offset r.value) out

/-- `ws` is `t` without some rows that hold nothing but `z`. -/
inductive OmitsBlank (z : α) : Table α → Table α → Prop
  | nil : OmitsBlank z [] []
  | write {r : Row α} {ws t : Table α} : OmitsBlank z ws t → OmitsBlank z (r :: ws) (r :: t)
  | skip {r : Row α} {ws t : Table α} : r.value = List.replicate r.size z →
      OmitsBlank z ws t → OmitsBlank z ws (r :: t)

theorem overlay_append_blank (h : OmitsBlank z ws t) (hc : t.Contiguous start) (pre post : List α)
    (hpre : pre.length = start) :
    overlay ws (pre ++ List.replicate t.size z ++ post) = pre ++ t.bytes ++ post := by
  induction h generalizing start pre with
  | nil => simp [overlay, size, bytes]
  | @write r ws t _ ih =>
    obtain ⟨hoff, hlen, ht⟩ := hc
    have hpatch : patch (pre ++ List.replicate (size (r :: t)) z ++ post) r.offset r.value =
        pre ++ r.value ++ List.replicate t.size z ++ post := by
      have happ : patch (pre ++ List.replicate r.size z ++ (List.replicate t.size z ++ post))
          pre.length r.value = pre ++ r.value ++ (List.replicate t.size z ++ post) :=
        patch_append (by simp [hlen])
      rw [size_cons, List.replicate_add, hoff, ← hpre]
      simpa only [List.append_assoc] using happ
    have hrest := ih ht (pre ++ r.value) (by rw [List.length_append, hpre, hlen])
    change overlay ws (patch _ r.offset r.value) = _
    rw [hpatch, hrest]
    simp [bytes]
  | @skip r ws t hblank _ ih =>
    obtain ⟨-, hlen, ht⟩ := hc
    have hrest := ih ht (pre ++ r.value) (by rw [List.length_append, hpre, hlen])
    rw [size_cons, List.replicate_add, ← hblank]
    simpa [bytes] using hrest

/-- A blank buffer with the rows written into it holds what the whole table describes. -/
theorem overlay_blank (h : OmitsBlank z ws t) (hc : t.Contiguous 0) :
    overlay ws (List.replicate t.size z) = t.bytes := by
  simpa using overlay_append_blank h hc [] [] rfl

end Table

end RampartBoot.Foundation
