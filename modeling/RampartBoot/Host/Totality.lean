import RampartBoot.Host.ImageCodec

/-! # Host parsing ends without a panic

Every access of the host parser comes behind the check that it relies on, so every byte string
is answered with a value or an error.
-/

namespace RampartBoot.Host
open Foundation Format

variable {c : Crates} {b s : List UInt8}

def Faultless {ε α : Type} (x : Checked ε α) : Prop := wp x (fun _ => True) (fun _ => True)

namespace Faultless

variable {ε α β : Type} {x : Checked ε α}

theorem bind {f : α → Checked ε β} (hx : Faultless x) (hf : ∀ a, x = .ok a → Faultless (f a)) :
    Faultless (x >>= f) := by
  rcases wp_cases hx with ⟨a, ha, -⟩ | ⟨e, he, -⟩
  · rw [bind_of_eq_ok ha]
    exact hf a ha
  · rw [he]
    trivial

theorem exists_error (hx : Faultless x) (h : ∀ a, x ≠ .ok a) : ∃ e, x = .error (.ret e) := by
  rcases wp_cases hx with ⟨a, ha, -⟩ | ⟨e, he, -⟩
  · exact absurd ha (h a)
  · exact ⟨e, he⟩

end Faultless

theorem wp_okOr {α : Type} {x : Option α} {e : String} {Q : α → Prop} {E : String → Prop} :
    wp (okOr x e) Q E ↔ (∀ a, x = some a → Q a) ∧ (x = none → E e) := by
  cases x with
  | none => simp [okOr]
  | some a => simp [okOr_some]

theorem wp_checkedRange {a len total : ℕ} {Q : Range → Prop} {E : String → Prop}
    (h : a + len < 2 ^ 64) : wp (checkedRange a len total) Q E ↔
      (total < a + len → E "section range extends beyond image bounds") ∧
        (a + len ≤ total → Q ⟨a, a + len⟩) := by
  rw [checkedRange, wp_bind, checkedAdd_eq h, wp_ok, wp_bind, wp_rejectIf, gt_iff_lt, not_lt,
    wp_pure]

theorem faultless_parseImageHeader : Faultless (parseImageHeader b) := by
  unfold parseImageHeader Faultless
  rw [wp_bind, wp_rejectIf]
  refine ⟨fun _ => trivial, fun h => ?_⟩
  have h16 := (u32At b 16).toNat_lt
  have h20 := (u32At b 20).toNat_lt
  have h24 := (u32At b 24).toNat_lt
  have h28 := (u32At b 28).toNat_lt
  have h32 := (u32At b 32).toNat_lt
  have h36 := (u32At b 36).toNat_lt
  have h40 := (u32At b 40).toNat_lt
  have h44 := (u32At b 44).toNat_lt
  simp (disch := omega) only [sliceRange_eq, requireMagic, requireZeroes, requireU16_eq,
    expect_u16TryFrom, readU32_eq, wp_bind, wp_rejectIf, wp_ok, checkedAdd_eq, wp_checkedRange,
    wp_pure, implies_true, and_self]

theorem faultless_parseManifest : Faultless (parseManifest s) := by
  unfold parseManifest Faultless
  rw [wp_bind, wp_rejectIf]
  refine ⟨fun _ => trivial, fun h => ?_⟩
  have h112 := (u16At s 112).toNat_lt
  simp (disch := omega) only [sliceRange_eq, requireMagic, requireZeroes, readU16_eq,
    requireU16_eq, expect_u16TryFrom, readU32_eq, wp_bind, wp_rejectIf, wp_ok, checkedAdd_eq,
    sizeSub_eq, copyFromSlice_eq, wp_okOr, wp_pure, implies_true, and_self, true_and]
  -- behind the comparison with the canonical size the artifact ID ends inside the section
  intro _ _ _ _ _ _ _ hcanonical _
  simp (disch := omega) only [sliceRange_eq, wp_ok, implies_true]

theorem faultless_parseSignatureSection {offset size : ℕ} {m : RampartManifest} :
    Faultless (parseSignatureSection c s offset size m) := by
  unfold parseSignatureSection Faultless
  dsimp only
  rw [wp_bind, wp_rejectIf]
  refine ⟨fun _ => trivial, fun h => ?_⟩
  simp (disch := omega) only [sliceRange_eq, requireMagic, requireZeroes, requireU16_eq,
    requireU32_eq, expect_u16TryFrom, expect_u32TryFrom, wp_bind, wp_rejectIf, wp_ok, wp_okOr,
    copyFromSlice_eq, deriveKeyId_eq, wp_pure, implies_true, and_self]

theorem faultless_parseImage : Faultless (parseImage c b) := by
  rw [parseImage]
  refine faultless_parseImageHeader.bind fun t ht => ?_
  obtain ⟨hlen, -, -, rfl⟩ := (parseImageHeader_eq_ok_iff t).mp ht
  obtain ⟨manifest, hman⟩ : ∃ manifest,
      (sliceRange b (sectionsAt b).manifestRange : Res (List UInt8)) = .ok manifest := by
    rw [sectionsAt]
    exact ⟨_, sliceRange_eq (by omega) (by omega)⟩
  obtain ⟨signature, hsig⟩ : ∃ signature,
      (sliceRange b (sectionsAt b).signatureRange : Res (List UInt8)) = .ok signature := by
    rw [sectionsAt]
    exact ⟨_, sliceRange_eq (by omega) (Nat.le_refl _)⟩
  rw [parseImageSections, bind_of_eq_ok hman]
  refine faultless_parseManifest.bind fun m _ => ?_
  rw [bind_of_eq_ok hsig, Faultless, wp_bind, wp_rejectIf]
  refine ⟨fun _ => trivial, fun _ => ?_⟩
  exact faultless_parseSignatureSection.bind fun r _ => trivial

end RampartBoot.Host
