import RampartBoot.Core.Acceptance

/-! # The fuzz targets

Each fuzz target calls a parser on its input, aborts if a rejected input has changed the output
or an accepted view leaves the input, and reads every region of an accepted view. What they look
for does not exist.
-/

namespace RampartBoot.Core
open Foundation Format

variable {z : SizeT} {b : List UInt8} {region : Option (Ptr UInt8)} {n : ℕ}

/-- The call of `abort`. -/
inductive Abort where
  | abort
  deriving DecidableEq, Repr

/-- Call a status function on the address of a local variable that holds `init`, and read the
status and the variable. -/
def callOnLocal {τ ε : Type} (p : Prog (Option τ) Status Unit) (init : τ) :
    Checked ε (Status × τ) :=
  match call p (some init) with
  | .ok (st, some out) => pure (st, out)
  | .ok (_, none) => fault .null
  | .error f => fault f

def fuzzMaxInputSize : ℕ := 1024 * 1024

def spanWithin (containerLen offset spanLen : ℕ) : Bool :=
  decide (offset ≤ containerLen) && decide (spanLen ≤ containerLen - offset)

/-- `region_within`. No address of another object counts as one inside. -/
def regionWithin (base : Option (Ptr UInt8)) (baseLen : ℕ) (region : Option (Ptr UInt8))
    (regionLen : ℕ) : Bool :=
  match base, region with
  | some base, some region => region.obj == base.obj && decide (base.off ≤ region.off) &&
      spanWithin baseLen (region.off - base.off) regionLen
  | _, _ => false

/-- `read_region`; the state is `rampart_fuzz_sink`. -/
def readRegion (region : Option (Ptr UInt8)) (regionLen : ℕ) : Prog UInt8 Abort Unit := do
  let accumulator ← forFrom (m := Checked Abort) (fun index accumulator => do
    let byte ← load region index
    pure (accumulator ^^^ byte)) 0 regionLen (0 : UInt8)
  set accumulator

def imageViewIsBounded {ε : Type} (data : Option (Ptr UInt8)) (size : ℕ) (image : ImageView) :
    Checked ε Bool :=
  if image.bytes ≠ data ∨ image.len ≠ size ∨
      !spanWithin size image.manifestOffset image.manifestSize ∨
      !spanWithin size image.payloadOffset image.payloadSize ∨
      !spanWithin size image.signatureOffset image.signatureSize ∨
      !spanWithin size image.signedRegionOffset image.signedRegionSize then pure false
  else do
    let manifest ← address data image.manifestOffset
    let signature ← address data image.signatureOffset
    pure (regionWithin manifest image.manifestSize image.manifest.artifactId
        image.manifest.artifactIdLen &&
      regionWithin manifest image.manifestSize image.manifest.payloadDigest
        image.manifest.payloadDigestLen &&
      regionWithin manifest image.manifestSize image.manifest.keyId image.manifest.keyIdLen &&
      regionWithin signature image.signatureSize image.signature.keyId
        image.signature.keyIdLen &&
      regionWithin signature image.signatureSize image.signature.signature
        image.signature.signatureLen &&
      regionWithin signature image.signatureSize image.signature.publicKey
        image.signature.publicKeyLen)

def readImageView (data : Option (Ptr UInt8)) (image : ImageView) : Prog UInt8 Abort Unit := do
  let manifest ← address (ε := Abort) data image.manifestOffset
  readRegion manifest image.manifestSize
  let payload ← address (ε := Abort) data image.payloadOffset
  readRegion payload image.payloadSize
  let signature ← address (ε := Abort) data image.signatureOffset
  readRegion signature image.signatureSize
  let signedRegion ← address (ε := Abort) data image.signedRegionOffset
  readRegion signedRegion image.signedRegionSize
  readRegion image.manifest.artifactId image.manifest.artifactIdLen
  readRegion image.manifest.payloadDigest image.manifest.payloadDigestLen
  readRegion image.manifest.keyId image.manifest.keyIdLen
  readRegion image.signature.keyId image.signature.keyIdLen
  readRegion image.signature.signature image.signature.signatureLen
  readRegion image.signature.publicKey image.signature.publicKeyLen

/-- `LLVMFuzzerTestOneInput` of `fuzz_image.c`; `untouched` is the view of sentinel bytes. -/
def fuzzImage (z : SizeT) (untouched : ImageView) (data : Option (Ptr UInt8)) (size : ℕ) :
    Prog UInt8 Abort ℤ :=
  if size > fuzzMaxInputSize then pure (-1)
  else do
    let (status, parsed) ← callOnLocal (ε := Abort) (rampartImageParse z data size) untouched
    if status ≠ .ok then
      rejectIf (parsed ≠ untouched) Abort.abort
      pure 0
    else
      let bounded ← imageViewIsBounded (ε := Abort) data size parsed
      rejectIf (!bounded) Abort.abort
      readImageView data parsed
      pure 0

/-- `LLVMFuzzerTestOneInput` of `fuzz_manifest.c` -/
def fuzzManifest (z : SizeT) (untouched : ManifestView) (data : Option (Ptr UInt8)) (size : ℕ) :
    Prog UInt8 Abort ℤ :=
  if size > fuzzMaxInputSize then pure (-1)
  else do
    let (status, parsed) ← callOnLocal (ε := Abort) (rampartManifestParseV1 z data size) untouched
    if status ≠ .ok then
      rejectIf (parsed ≠ untouched) Abort.abort
      pure 0
    else
      rejectIf (!regionWithin data size parsed.artifactId parsed.artifactIdLen ∨
        !regionWithin data size parsed.payloadDigest parsed.payloadDigestLen ∨
        !regionWithin data size parsed.keyId parsed.keyIdLen) Abort.abort
      readRegion parsed.artifactId parsed.artifactIdLen
      readRegion parsed.payloadDigest parsed.payloadDigestLen
      readRegion parsed.keyId parsed.keyIdLen
      pure 0

def Readable (region : Option (Ptr UInt8)) (n : ℕ) : Prop :=
  ∃ q, region = some q ∧ q.off + n ≤ q.obj.length

theorem wps_readRegion {Q : Unit → UInt8 → Prop} {E : Abort → UInt8 → Prop} {s : UInt8}
    (h : Readable region n) (hQ : ∀ t, Q () t) : wps (readRegion region n) Q E s := by
  obtain ⟨q, rfl, hq⟩ := h
  have hloop : wp (forFrom (m := Checked Abort) (fun index accumulator => do
      let byte ← load (some q) index
      pure (accumulator ^^^ byte)) 0 n (0 : UInt8)) (fun _ => True) fun _ => False := by
    refine wp_forFrom (fun _ _ => True) 0 n _ trivial fun i a _ hi _ => ?_
    have hp : q.Points (slice q.obj q.off n) := by
      rw [Ptr.Points, slice_length_of_le hq]
      exact ⟨hq, rfl⟩
    rw [wp_bind, hp.load_eq (by rw [slice_length_of_le hq]; omega)]
    trivial
  rw [readRegion, wps_bind, wps_lift]
  exact wp_mono hloop (fun a _ => hQ a) fun _ => False.elim

theorem RegionWithin.readable {base baseLen : ℕ} (h : RegionWithin b base baseLen region n)
    (hbase : base + baseLen ≤ b.length) : Readable region n := by
  obtain ⟨q, rfl, rfl, hge, hle, hn⟩ := h
  exact ⟨q, rfl, by omega⟩

theorem RegionWithin.regionWithin_eq {p : Ptr UInt8} {baseLen : ℕ}
    (h : RegionWithin p.obj p.off baseLen region n) :
    regionWithin (some p) baseLen region n = true := by
  obtain ⟨q, rfl, hobj, hge, hle, hn⟩ := h
  simp [regionWithin, spanWithin, hobj, hge, hle, hn]

theorem SpanWithin.spanWithin_eq {len offset : ℕ} (h : SpanWithin len offset n) :
    spanWithin len offset n = true := by
  simp [spanWithin, h.1, h.2]

theorem SpanWithin.le {len offset : ℕ} (h : SpanWithin len offset n) : offset + n ≤ len := by
  obtain ⟨hle, hn⟩ := h
  omega

theorem imageViewIsBounded_eq {ε : Type} {v : ImageView} (h : v.Bounded b) :
    (imageViewIsBounded (some ⟨b, 0⟩) b.length v : Checked ε Bool) = .ok true := by
  have hp := Ptr.points_whole b
  have hmanifest := hp.address_eq (ε := ε) (i := v.manifestOffset) (by have := h.manifest.le; omega)
  have hsignature := hp.address_eq (ε := ε) (i := v.signatureOffset)
    (by have := h.signature.le; omega)
  simp only [Nat.zero_add] at hmanifest hsignature
  rw [imageViewIsBounded, if_neg (by
    simp [h.bytes, h.len, h.manifest.spanWithin_eq, h.payload.spanWithin_eq,
      h.signature.spanWithin_eq, h.signedRegion.spanWithin_eq]),
    bind_of_eq_ok hmanifest, bind_of_eq_ok hsignature,
    h.artifactId.regionWithin_eq (p := ⟨b, v.manifestOffset⟩),
    h.payloadDigest.regionWithin_eq (p := ⟨b, v.manifestOffset⟩),
    h.manifestKeyId.regionWithin_eq (p := ⟨b, v.manifestOffset⟩),
    h.keyId.regionWithin_eq (p := ⟨b, v.signatureOffset⟩),
    h.signatureBytes.regionWithin_eq (p := ⟨b, v.signatureOffset⟩),
    h.publicKey.regionWithin_eq (p := ⟨b, v.signatureOffset⟩)]
  rfl

theorem wps_readSpan {α : Type} {offset : ℕ} {k : Unit → Prog UInt8 Abort α}
    {Q : α → UInt8 → Prop} {E : Abort → UInt8 → Prop} {s : UInt8}
    (h : SpanWithin b.length offset n) (hk : ∀ t, wps (k ()) Q E t) :
    wps (liftM (address (ε := Abort) (some ⟨b, 0⟩) offset) >>=
      fun region => readRegion region n >>= k) Q E s := by
  have hle := h.le
  rw [wps_bind, wps_lift, (Ptr.points_whole b).address_eq (by omega), wp_ok, wps_bind]
  exact wps_readRegion ⟨_, rfl, by simpa using hle⟩ hk

/-- The reads that a caller of an accepted view makes. -/
theorem wps_readImageView {v : ImageView} (h : v.Bounded b) (s : UInt8) :
    wps (readImageView (some ⟨b, 0⟩) v) (fun _ _ => True) (fun _ _ => False) s := by
  have hmanifest := h.manifest.le
  have hsignature := h.signature.le
  unfold readImageView
  refine wps_readSpan h.manifest fun _ => ?_
  refine wps_readSpan h.payload fun _ => ?_
  refine wps_readSpan h.signature fun _ => ?_
  refine wps_readSpan h.signedRegion fun _ => ?_
  rw [wps_bind]
  refine wps_readRegion (h.artifactId.readable hmanifest) fun _ => ?_
  rw [wps_bind]
  refine wps_readRegion (h.payloadDigest.readable hmanifest) fun _ => ?_
  rw [wps_bind]
  refine wps_readRegion (h.manifestKeyId.readable hmanifest) fun _ => ?_
  rw [wps_bind]
  refine wps_readRegion (h.keyId.readable hsignature) fun _ => ?_
  rw [wps_bind]
  refine wps_readRegion (h.signatureBytes.readable hsignature) fun _ => ?_
  exact wps_readRegion (h.publicKey.readable hsignature) fun _ => trivial

theorem callOnLocal_eq {τ ε : Type} {p : Prog (Option τ) Status Unit} {init out : τ} {st : Status}
    (h : call p (some init) = .ok (st, some out)) :
    (callOnLocal p init : Checked ε (Status × τ)) = .ok (st, out) := by
  rw [callOnLocal, h]
  rfl

def fuzzCode (size : ℕ) : ℤ := if size > fuzzMaxInputSize then -1 else 0

theorem wps_fuzzImage (b : Buffer z) (untouched : ImageView) (s : UInt8) :
    wps (fuzzImage z untouched (some b.start) b.len) (fun code _ => code = fuzzCode b.len)
      (fun _ _ => False) s := by
  unfold fuzzImage fuzzCode
  by_cases hsize : b.len > fuzzMaxInputSize
  · rw [if_pos hsize, if_pos hsize]
    rfl
  rw [if_neg hsize, if_neg hsize, wps_bind, wps_lift]
  by_cases h : ∃ g : Image, b.bytes = g.bytes ∧ g.publicKey[0]? = some 0x04
  · obtain ⟨g, hb, htag⟩ := h
    have hbounded := imageViewAt_bounded b hb
    rw [callOnLocal_eq (parseImage_accept b untouched hb htag), wp_ok]
    dsimp only
    rw [if_neg (not_not.mpr rfl), wps_bind, wps_lift]
    have hcheck : imageViewIsBounded (ε := Abort) (some b.start) b.len (imageViewAt b.start g) =
      .ok true := imageViewIsBounded_eq hbounded
    rw [hcheck, wp_ok, wps_bind, wps_lift, wp_rejectIf]
    refine ⟨fun hfalse => absurd hfalse (by decide), fun _ => ?_⟩
    rw [wps_bind]
    exact wps_mono (wps_readImageView hbounded s) (fun _ _ _ => rfl) fun _ _ => False.elim
  · obtain ⟨st, hst, hcall⟩ := parseImage_reject b untouched h
    rw [callOnLocal_eq hcall, wp_ok]
    have hne : st ≠ .ok := by rcases hst with rfl | rfl | rfl <;> decide
    dsimp only
    rw [if_pos hne, wps_bind, wps_lift, wp_rejectIf]
    exact ⟨fun hchanged => hchanged rfl, fun _ => rfl⟩

/-- The regions of an accepted manifest are inside the input. -/
structure ManifestView.Bounded (v : ManifestView) (b : List UInt8) : Prop where
  artifactId : RegionWithin b 0 b.length v.artifactId v.artifactIdLen
  payloadDigest : RegionWithin b 0 b.length v.payloadDigest v.payloadDigestLen
  keyId : RegionWithin b 0 b.length v.keyId v.keyIdLen

theorem manifestViewAt_bounded (b : Buffer z) {g : Manifest} (hb : b.bytes = g.bytes) :
    (manifestViewAt b.start g.toManifestFields g.artifactId.length).Bounded b.bytes := by
  have hlen : b.bytes.length = g.size := by rw [hb, g.bytes_length]
  have hsize := g.size_ge
  have hid : 128 + g.artifactId.length ≤ g.size := by
    rw [Manifest.size, manifestSize]
    omega
  constructor
  case artifactId =>
    have hwithin : 128 + g.artifactId.length ≤ b.bytes.length := by omega
    exact regionWithin_of_le hwithin
  case payloadDigest =>
    have hwithin : 56 + 32 ≤ b.bytes.length := by omega
    exact regionWithin_of_le hwithin
  case keyId =>
    have hwithin : 96 + 8 ≤ b.bytes.length := by omega
    exact regionWithin_of_le hwithin

theorem wps_fuzzManifest (b : Buffer z) (untouched : ManifestView) (s : UInt8) :
    wps (fuzzManifest z untouched (some b.start) b.len) (fun code _ => code = fuzzCode b.len)
      (fun _ _ => False) s := by
  have hcall : call (rampartManifestParseV1 z (some b.start) b.len) (some untouched) =
    published untouched (readManifestV1 z (some b.start) b.len) := call_publish _ untouched
  unfold fuzzManifest fuzzCode
  by_cases hsize : b.len > fuzzMaxInputSize
  · rw [if_pos hsize, if_pos hsize]
    rfl
  rw [if_neg hsize, if_neg hsize, wps_bind, wps_lift]
  rcases wp_cases (readManifestV1_total b.points b.fits) with ⟨v, hread, -⟩ | ⟨e, hread, rfl⟩
  · rw [← Buffer.len] at hread
    rw [hread, published] at hcall
    obtain ⟨g, hb, hv⟩ := (parseManifestV1_eq_ok_iff b untouched (some v)).mp hcall
    obtain rfl := Option.some.inj hv
    have hbounded := manifestViewAt_bounded b hb
    rw [callOnLocal_eq hcall, wp_ok]
    dsimp only
    rw [if_neg (not_not.mpr rfl), wps_bind, wps_lift, wp_rejectIf]
    refine ⟨fun houtside => ?_, fun _ => ?_⟩
    · have hfirst := hbounded.artifactId.regionWithin_eq (p := b.start)
      have hsecond := hbounded.payloadDigest.regionWithin_eq (p := b.start)
      have hthird := hbounded.keyId.regionWithin_eq (p := b.start)
      rw [Buffer.len, hfirst, hsecond, hthird] at houtside
      exact absurd houtside (by decide)
    · have hall : 0 + b.bytes.length ≤ b.bytes.length := by omega
      rw [wps_bind]
      refine wps_readRegion (hbounded.artifactId.readable hall) fun _ => ?_
      rw [wps_bind]
      refine wps_readRegion (hbounded.payloadDigest.readable hall) fun _ => ?_
      rw [wps_bind]
      exact wps_readRegion (hbounded.keyId.readable hall) fun _ => rfl
  · rw [← Buffer.len] at hread
    rw [hread, published] at hcall
    rw [callOnLocal_eq hcall, wp_ok]
    dsimp only
    rw [if_pos (by decide), wps_bind, wps_lift, wp_rejectIf]
    exact ⟨fun hchanged => hchanged rfl, fun _ => rfl⟩

/-- On every input each target returns its code: it does not abort, and no read leaves the input.
An oversized input is refused by the code, every other one is tested. -/
theorem fuzzTargets_return (b : Buffer z) (image : ImageView) (manifest : ManifestView)
    (sink : UInt8) :
    (∃ t, fuzzImage z image (some b.start) b.len sink =
        .ok (if 1048576 < b.bytes.length then -1 else 0) t) ∧
      ∃ t, fuzzManifest z manifest (some b.start) b.len sink =
        .ok (if 1048576 < b.bytes.length then -1 else 0) t := by
  obtain ⟨_, t, himage, rfl⟩ := exists_ok_of_wps (wps_fuzzImage b image sink)
  obtain ⟨_, t', hmanifest, rfl⟩ := exists_ok_of_wps (wps_fuzzManifest b manifest sink)
  exact ⟨⟨t, himage⟩, t', hmanifest⟩

end RampartBoot.Core
