import RampartBoot.Format.Image

/-! # Laws of the image format

The header fixes the length of an image and its last byte is zero, so a cut, a torn write and
an extension all leave the format. The signed region fixes the image up to its signature and
its public key, although the header that delimits the region is not part of it.
-/

namespace RampartBoot.Format.Image
open Foundation

variable {g h : Image}

theorem length_eq_of_header (heq : slice g.bytes 0 64 = slice h.bytes 0 64) :
    g.bytes.length = h.bytes.length := by
  have hm : g.manifest.size = h.manifest.size := by
    rw [← g.toNat_manifestSize, ← h.toNat_manifestSize]
    have h₁ := u32At_slice (s := g.bytes) (i := 0) (n := 64) (j := 20) (by omega)
    have h₂ := u32At_slice (s := h.bytes) (i := 0) (n := 64) (j := 20) (by omega)
    rw [Nat.zero_add] at h₁ h₂
    rw [← h₁, ← h₂, heq]
  have hp : g.payload.length = h.payload.length := by
    rw [← g.toNat_payloadSize, ← h.toNat_payloadSize]
    have h₁ := u32At_slice (s := g.bytes) (i := 0) (n := 64) (j := 28) (by omega)
    have h₂ := u32At_slice (s := h.bytes) (i := 0) (n := 64) (j := 28) (by omega)
    rw [Nat.zero_add] at h₁ h₂
    rw [← h₁, ← h₂, heq]
  rw [bytes_length, bytes_length, signatureOffset, signatureOffset, hm, hp]

theorem length_ge (g : Image) : 384 ≤ g.bytes.length := by
  have := g.manifest.size_ge
  rw [bytes_length, signatureOffset]
  omega

theorem last_byte (g : Image) : g.bytes[g.bytes.length - 1]? = some 0 := by
  have htrail := g.signatureLayout.1.trailing
  have hlast : (slice g.signatureSection 177 15)[14]? = some 0 := by rw [htrail]; rfl
  rw [getElem?_slice (by omega), ← g.slice_signatureSection, getElem?_slice (by omega)] at hlast
  rw [bytes_length]
  exact hlast

theorem take_ne_bytes {k : ℕ} (hk : k < g.bytes.length) : g.bytes.take k ≠ h.bytes := by
  intro heq
  have hlen : h.bytes.length = k := by rw [← heq, List.length_take]; omega
  have hge := h.length_ge
  have hhead : slice g.bytes 0 64 = slice h.bytes 0 64 := by
    rw [← heq, slice_zero, slice_zero, List.take_take, Nat.min_eq_left (by omega)]
  have := length_eq_of_header hhead
  omega

theorem torn_ne_bytes {k : ℕ} (hk : k < g.bytes.length) {x : UInt8} (hx : x ≠ 0) :
    g.bytes.take k ++ List.replicate (g.bytes.length - k) x ≠ h.bytes := by
  intro heq
  have hlen : h.bytes.length = g.bytes.length := by
    rw [← heq, List.length_append, List.length_take, List.length_replicate]
    omega
  have hlast := h.last_byte
  have hl : (g.bytes.take k).length = k := List.length_take_of_le (by omega)
  rw [hlen, ← heq, List.getElem?_append_right (by omega), hl,
    List.getElem?_replicate_of_lt (by omega)] at hlast
  exact hx (Option.some.inj hlast)

theorem append_ne_bytes {t : List UInt8} (ht : t ≠ []) : g.bytes ++ t ≠ h.bytes := by
  intro heq
  have hge := g.length_ge
  have hpos := List.length_pos_iff.mpr ht
  have hhead : slice g.bytes 0 64 = slice h.bytes 0 64 := by
    rw [← heq, slice_append_left (by omega)]
  have hlen := length_eq_of_header hhead
  rw [← heq, List.length_append] at hlen
  omega

theorem eq_of_signedRegion_append {t u : List UInt8}
    (heq : g.signedRegion ++ t = h.signedRegion ++ u) :
    g.manifest = h.manifest ∧ g.payload = h.payload := by
  rw [signedRegion, signedRegion, List.append_assoc, List.append_assoc] at heq
  obtain ⟨hm, hrest⟩ := Manifest.bytes_append_inj heq
  have hlen : g.payload.length = h.payload.length := by
    rw [g.payload_length, h.payload_length, hm]
  exact ⟨hm, (List.append_inj hrest hlen).1⟩

theorem eq_of_signedRegion (heq : g.signedRegion = h.signedRegion) :
    g.manifest = h.manifest ∧ g.payload = h.payload :=
  eq_of_signedRegion_append (t := []) (u := []) (by rw [heq])

/-- A file that keeps the signed bytes of an image in place keeps the manifest and the payload,
whatever its header says. -/
theorem eq_of_signed_bytes
    (heq : ∀ i, 64 ≤ i → i < g.signatureOffset → g.bytes[i]? = h.bytes[i]?)
    (hlen : g.signatureOffset ≤ h.bytes.length) :
    g.manifest = h.manifest ∧ g.payload = h.payload := by
  have hslice : slice h.bytes 64 (g.manifest.size + g.payload.length) = g.signedRegion := by
    rw [← g.slice_signedRegion]
    have hg := g.bytes_length
    unfold signatureOffset at *
    rw [slice_eq_slice_iff (by omega) (by omega)]
    intro k hk
    exact (heq (64 + k) (by omega) (by omega)).symm
  have hdrop : h.bytes.drop 64 = h.signedRegion ++ h.signatureSection := by
    rw [bytes_eq, ← h.header_length, List.drop_left]
  refine eq_of_signedRegion_append (u := h.signatureSection)
    (t := (h.bytes.drop 64).drop (g.manifest.size + g.payload.length)) ?_
  rw [← hslice, slice, List.take_append_drop, hdrop]

/-- The byte positions that the signed region leaves open in an image whose signature section
starts at `off`: the signature, and the public key behind its first byte. -/
def OpenByte (off i : ℕ) : Prop := off + 48 ≤ i ∧ i < off + 112 ∨ off + 113 ≤ i ∧ i < off + 177

private theorem signatureTable_bytes (n : ℕ) (k : Vector UInt8 8) (s : Vector UInt8 64)
    (q : Vector UInt8 65) : ∃ pre : List UInt8, pre.length = 48 ∧
      ∀ s q, (signatureTable n k s q).bytes = pre ++ (s.toList ++ (q.toList ++ zeros 15)) := by
  refine ⟨Table.bytes ((signatureTable n k s q).take 15), ?_, fun s' q' => ?_⟩
  · simp [signatureTable, Table.bytes, ascii]
  · simp [signatureTable, Table.bytes]

private theorem getElem?_skip {a b : List UInt8} {n i : ℕ} (ha : a.length = n) (hi : n ≤ i) :
    (a ++ b)[i]? = b[i - n]? := by
  rw [List.getElem?_append_right (by omega), ha]

theorem getElem?_eq_of_not_openByte (hm : g.manifest = h.manifest) (hp : g.payload = h.payload)
    (hk : g.publicKey[0]? = h.publicKey[0]?) {i : ℕ} (hi : ¬ OpenByte g.signatureOffset i) :
    g.bytes[i]? = h.bytes[i]? := by
  have hheader : g.header = h.header := by rw [header, header, hm, hp]
  have hregion : g.signedRegion = h.signedRegion := by rw [signedRegion, signedRegion, hm, hp]
  obtain ⟨pre, hpre, hbytes⟩ := signatureTable_bytes (g.manifest.size + g.payload.length)
    g.manifest.keyId g.signature g.publicKey
  have hg : g.signatureSection = pre ++ (g.signature.toList ++ (g.publicKey.toList ++ zeros 15)) :=
    hbytes _ _
  have hh : h.signatureSection =
      pre ++ (h.signature.toList ++ (h.publicKey.toList ++ zeros 15)) := by
    rw [signatureSection, ← hm, ← hp]; exact hbytes _ _
  have hl : (g.header ++ (g.signedRegion ++ pre)).length = g.signatureOffset + 48 := by
    simp only [List.length_append, header_length, signedRegion_length, hpre, signatureOffset]
    omega
  have hgb : g.bytes = (g.header ++ (g.signedRegion ++ pre)) ++
      (g.signature.toList ++ (g.publicKey.toList ++ zeros 15)) := by
    rw [bytes_eq, hg]; simp only [List.append_assoc]
  have hhb : h.bytes = (g.header ++ (g.signedRegion ++ pre)) ++
      (h.signature.toList ++ (h.publicKey.toList ++ zeros 15)) := by
    rw [bytes_eq, hh, ← hheader, ← hregion]; simp only [List.append_assoc]
  unfold OpenByte at hi
  rw [hgb, hhb]
  by_cases hlow : i < g.signatureOffset + 48
  · rw [← hl] at hlow
    rw [List.getElem?_append_left hlow, List.getElem?_append_left hlow]
  rw [getElem?_skip hl (by omega), getElem?_skip hl (by omega),
    getElem?_skip g.signature.length_toList (by omega),
    getElem?_skip h.signature.length_toList (by omega)]
  by_cases hfirst : i = g.signatureOffset + 112
  · subst hfirst
    have hfirst : g.publicKey[0] = h.publicKey[0] := by simpa using hk
    simp [hfirst]
  · rw [getElem?_skip g.publicKey.length_toList (by omega),
      getElem?_skip h.publicKey.length_toList (by omega)]

end RampartBoot.Format.Image
