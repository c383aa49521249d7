import RampartBoot.Host.Lifecycle

/-! # Numbers on the command line

`parse_u32_value` reads the target IDs of `image verify`: decimal numerals, and hexadecimal ones
behind a prefix. So it reads the IDs that `image inspect` prints.
-/

namespace RampartBoot.Host
open Foundation Format

variable {s t : List Char} {n : ℕ} {v : UInt32}

def u32FromStrRadix (s : List Char) (radix : ℕ) : Option UInt32 :=
  (fromStrRadix radix (2 ^ 32) s).map UInt32.ofNat

def parseU32Value (value : String) : Res UInt32 :=
  match (stripLeading ['0', 'x'] value.toList).or (stripLeading ['0', 'X'] value.toList) with
  | some hex => okOr (u32FromStrRadix hex 16) ("invalid hexadecimal u32 value " ++ value)
  | none => okOr (u32FromStrRadix value.toList 10) ("invalid decimal u32 value " ++ value)

/-- Digits of the number `n`, perhaps behind a plus sign. -/
def IsNumeralOf (radix : ℕ) (IsDigit : Char → Prop) (value : Char → ℕ) (s : List Char) (n : ℕ) :
    Prop :=
  ∃ digits, (s = digits ∨ s = '+' :: digits) ∧ digits ≠ [] ∧ (∀ c ∈ digits, IsDigit c) ∧
    digitsValue radix value 0 digits = n

def IsDecimal : List Char → ℕ → Prop :=
  IsNumeralOf 10 (fun c => c.isDigit = true) fun c => c.toNat - '0'.toNat

def IsHexadecimal : List Char → ℕ → Prop := IsNumeralOf 16 IsHexDigit hexValue

section Radix
variable {radix : ℕ} {IsDigit : Char → Prop} [DecidablePred IsDigit] {value : Char → ℕ}

theorem u32FromStrRadix_eq_some_iff
    (hdigit : ∀ c, toDigit radix c = if IsDigit c then some (value c) else none)
    (hradix : 0 < radix) : u32FromStrRadix s radix = some v ↔
      IsNumeralOf radix IsDigit value s v.toNat := by
  simp only [u32FromStrRadix, Option.map_eq_some_iff, fromStrRadix_eq_some_iff,
    readDigits_eq_some_iff hdigit hradix (by decide : 0 < 2 ^ 32)]
  constructor
  · rintro ⟨n, ⟨digits, hs, hne, hdigits, hn, hlt⟩, rfl⟩
    exact ⟨digits, hs, hne, hdigits, by rw [hn, UInt32.toNat_ofNat_of_lt' hlt]⟩
  · rintro ⟨digits, hs, hne, hdigits, hn⟩
    exact ⟨v.toNat, ⟨digits, hs, hne, hdigits, hn, v.toNat_lt⟩, UInt32.ofNat_toNat⟩

end Radix

theorem u32FromStrRadix_ten : u32FromStrRadix s 10 = some v ↔ IsDecimal s v.toNat :=
  u32FromStrRadix_eq_some_iff toDigit_ten (by decide)

theorem u32FromStrRadix_sixteen : u32FromStrRadix s 16 = some v ↔ IsHexadecimal s v.toNat :=
  u32FromStrRadix_eq_some_iff toDigit_sixteen (by decide)

theorem hexDigits_toDigits (n : ℕ) : (∀ c ∈ Nat.toDigits 16 n, IsHexDigit c) ∧
    digitsValue 16 hexValue 0 (Nat.toDigits 16 n) = n := by
  induction n using Nat.strong_induction_on with
  | _ n ih =>
    by_cases hn : n < 16
    · obtain ⟨hdigit, hvalue⟩ := hexDigit_digitChar n hn _ (.inl rfl)
      rw [Nat.toDigits_of_lt_base hn]
      refine ⟨by simpa using hdigit, ?_⟩
      rw [digitsValue, List.foldl_cons, List.foldl_nil, hvalue, Nat.zero_mul, Nat.zero_add]
    · obtain ⟨hfront, hquotient⟩ := ih (n / 16) (by omega)
      obtain ⟨hdigit, hvalue⟩ := hexDigit_digitChar (n % 16) (by omega) _ (.inl rfl)
      rw [Nat.toDigits_of_base_le (by decide) (by omega)]
      constructor
      · simpa only [List.mem_append, List.mem_singleton, or_imp, forall_and, forall_eq]
          using ⟨hfront, hdigit⟩
      · rw [digitsValue] at hquotient ⊢
        rw [List.foldl_append, hquotient, List.foldl_cons, List.foldl_nil, hvalue]
        omega

theorem isHexadecimal_wordHex (v : UInt32) : IsHexadecimal (wordHex v).toList v.toNat := by
  obtain ⟨hdigits, hvalue⟩ := hexDigits_toDigits v.toNat
  have hzeros : ∀ k, digitsValue 16 hexValue 0 (List.replicate k '0') = 0 := by
    intro k
    induction k with
    | zero => rfl
    | succ k ih => exact ih
  rw [wordHex, String.toList_ofList, List.leftpad]
  refine ⟨_, .inl rfl, ?_, ?_, ?_⟩
  · simp [Nat.toDigits_ne_nil]
  · intro c hc
    rcases List.mem_append.mp hc with hzero | hc
    · rw [List.eq_of_mem_replicate hzero]
      decide
    · exact hdigits c hc
  · rw [digitsValue, List.foldl_append]
    change digitsValue 16 hexValue (digitsValue 16 hexValue 0 _) _ = _
    rw [hzeros, hvalue]

theorem stripLeading_cons_iff {a b : Char} {rest : List Char} :
    stripLeading [a, b] s = some rest ↔ s = a :: b :: rest := by
  unfold stripLeading
  constructor
  · intro h
    split_ifs at h with hpre
    obtain ⟨tail, rfl⟩ := List.isPrefixOf_iff_prefix.mp hpre
    rw [← Option.some.inj h]
    rfl
  · rintro rfl
    simp

theorem not_isDecimal_hex {x : Char} (hx : x = 'x' ∨ x = 'X') :
    ¬ IsDecimal ('0' :: x :: t) n := by
  rintro ⟨digits, rfl | h, -, hdigits, -⟩
  · have hdigit := hdigits x (by simp)
    rcases hx with rfl | rfl
    · exact absurd hdigit (by decide)
    · exact absurd hdigit (by decide)
  · exact absurd (List.cons.inj h).1 (by decide)

theorem parseU32Value_hex {value : String} {x : Char} (hx : x = 'x' ∨ x = 'X')
    (h : value.toList = '0' :: x :: t) : parseU32Value value = .ok v ↔ IsHexadecimal t v.toNat := by
  have hstrip : (stripLeading ['0', 'x'] value.toList).or
      (stripLeading ['0', 'X'] value.toList) = some t := by
    rcases hx with rfl | rfl
    · rw [stripLeading_cons_iff.mpr h, Option.some_or]
    · rw [stripLeading_cons_iff.mpr h, Option.or_eq_some_iff]
      refine .inr ⟨Option.eq_none_iff_forall_ne_some.mpr fun rest hrest => ?_, rfl⟩
      rw [h] at hrest
      exact absurd (stripLeading_cons_iff.mp hrest) (by simp)
  rw [parseU32Value, hstrip]
  exact okOr_eq_ok_iff.trans u32FromStrRadix_sixteen

theorem parseU32Value_decimal {value : String}
    (h : ∀ x t, x = 'x' ∨ x = 'X' → value.toList ≠ '0' :: x :: t) :
    parseU32Value value = .ok v ↔ IsDecimal value.toList v.toNat := by
  have hnone : ∀ x, x = 'x' ∨ x = 'X' → stripLeading ['0', x] value.toList = none :=
    fun x hx => Option.eq_none_iff_forall_ne_some.mpr fun rest hrest =>
      h x rest hx (stripLeading_cons_iff.mp hrest)
  rw [parseU32Value, hnone 'x' (.inl rfl), hnone 'X' (.inr rfl), Option.or_none]
  exact okOr_eq_ok_iff.trans u32FromStrRadix_ten

/-- What `image inspect` prints for a number is read back. -/
theorem parseU32Value_wordHex (v : UInt32) : parseU32Value ("0x" ++ wordHex v) = .ok v :=
  (parseU32Value_hex (.inl rfl) (by simp)).mpr (isHexadecimal_wordHex v)

/-- The value of an option is a decimal numeral or, behind `0x` or `0X`, a hexadecimal one. Both
may have a plus sign and zeros in front, and none is too large. -/
theorem parseU32Value_eq_ok_iff (value : String) (v : UInt32) : parseU32Value value = .ok v ↔
    IsDecimal value.toList v.toNat ∨ ∃ x digits, (x = 'x' ∨ x = 'X') ∧
      value.toList = '0' :: x :: digits ∧ IsHexadecimal digits v.toNat := by
  by_cases h : ∃ x t, (x = 'x' ∨ x = 'X') ∧ value.toList = '0' :: x :: t
  · obtain ⟨x, t, hx, hvalue⟩ := h
    rw [parseU32Value_hex hx hvalue, hvalue]
    constructor
    · exact fun hhex => .inr ⟨x, t, hx, rfl, hhex⟩
    · rintro (hdec | ⟨y, digits, -, heq, hhex⟩)
      · exact absurd hdec (not_isDecimal_hex hx)
      · rwa [(List.cons.inj (List.cons.inj heq).2).2]
  · rw [parseU32Value_decimal fun x t hx heq => h ⟨x, t, hx, heq⟩]
    exact ⟨.inl, fun hor => hor.resolve_right fun ⟨x, digits, hx, heq, _⟩ => h ⟨x, digits, hx, heq⟩⟩

section Target
variable {P ρ : Type} [DecidableEq P]

theorem accepts_of_main_verify {c : KeyCrates ρ} {shell : Shell P} {args : ImageVerifyArgs P}
    {s : Machine P ρ} (h : (main c shell (.image (.verify args)) s).1 = .code 0) :
    AcceptsArtifact c.toCrates shell args s.1 :=
  ((main_verify c shell args s).code (by rw [h]; simp)).mp h

def ImageVerifyArgs.withTarget (args : ImageVerifyArgs P) (target : DeviceTarget) :
    ImageVerifyArgs P :=
  { args with
    vendorId := some target.vendorId
    productId := some target.productId
    hardwareFamily := some target.hardwareFamily
    componentId := some target.componentId }

structure ReadsTarget (vendorId productId hardwareFamily componentId : String)
    (target : DeviceTarget) : Prop where
  vendorId : parseU32Value vendorId = .ok target.vendorId
  productId : parseU32Value productId = .ok target.productId
  hardwareFamily : parseU32Value hardwareFamily = .ok target.hardwareFamily
  componentId : parseU32Value componentId = .ok target.componentId

omit [DecidableEq P] in
/-- With a target of its own the image passes as well, and with no other one. -/
theorem accepts_withTarget_iff {c : Crates} {shell : Shell P} {args : ImageVerifyArgs P}
    {fs : FileSystem P} {g : Image} {asked : Option DeviceTarget}
    (hread : shell.read fs args.artifact = .ok (Image.bytes g))
    (hg : Verifies c ⟨asked, args.minimumSecurityEpoch⟩ g) (other : DeviceTarget) :
    AcceptsArtifact c shell (args.withTarget other) fs ↔ other = ⟨g.manifest.vendorId,
      g.manifest.productId, g.manifest.hardwareFamily, g.manifest.componentId⟩ := by
  constructor
  · rintro ⟨g', asked', hread', htarget, hg'⟩
    obtain rfl := Image.bytes_inj (Except.ok.inj (hread.symm.trans hread'))
    have hbound := hg'.target
    rcases htarget with ⟨h, -⟩ | ⟨target, hv, hp, hh, hk⟩
    · cases h
    · obtain ⟨vendorId, productId, hardwareFamily, componentId⟩ := hbound target rfl
      obtain ⟨v, p, h, k⟩ := other
      cases hv
      cases hp
      cases hh
      cases hk
      rw [DeviceTarget.mk.injEq]
      exact ⟨vendorId.symm, productId.symm, hardwareFamily.symm, componentId.symm⟩
  · rintro rfl
    refine ⟨g, _, hread, .given _ rfl rfl rfl rfl, { hg with target := ?_ }⟩
    rintro target htarget
    obtain rfl := Option.some.inj htarget
    exact ⟨rfl, rfl, rfl, rfl⟩

/-- The text has the four IDs of a target on lines of their own. -/
def ShowsTarget (text vendorId productId hardwareFamily componentId : String) : Prop :=
  ∃ front middle back, text = front ++ "\n  vendor_id        " ++ vendorId ++
    "\n  product_id       " ++ productId ++ "\n  hardware_family  " ++ hardwareFamily ++ "\n" ++
    middle ++ "\n  component_id     " ++ componentId ++ "\n" ++ back

theorem showsTarget_formatImageReport (image : ParsedImage) (d s : Option Bool) :
    ShowsTarget (formatImageReport image d s) ("0x" ++ wordHex image.manifest.vendorId)
      ("0x" ++ wordHex image.manifest.productId) ("0x" ++ wordHex image.manifest.hardwareFamily)
      ("0x" ++ wordHex image.manifest.componentId) := by
  have hvendor : "\n\nTarget\n  vendor_id        0x" =
      "\n\nTarget" ++ "\n  vendor_id        " ++ "0x" := rfl
  have hproduct : "\n  product_id       0x" = "\n  product_id       " ++ "0x" := rfl
  have hfamily : "\n  hardware_family  0x" = "\n  hardware_family  " ++ "0x" := rfl
  have hrevision : "\n  hardware_rev     " = "\n" ++ "  hardware_rev     " := rfl
  have hcomponent : "\n  component_id     0x" = "\n  component_id     " ++ "0x" := rfl
  have hversion : "\n\nVersion\n  " = "\n" ++ "\nVersion\n  " := rfl
  refine ⟨"Rampart Image\n\nArtifact\n  " ++ image.manifest.artifactId ++ "\n\nTarget",
    "  hardware_rev     " ++ toString image.manifest.hardwareRevisionMin.toNat ++ ".." ++
      toString image.manifest.hardwareRevisionMax.toNat, ?_, ?_⟩
  -- what stands behind the four lines is read off the text
  swap
  unfold formatImageReport
  rewrite [hvendor, hproduct, hfamily, hrevision, hcomponent, hversion]
  simp only [String.append_assoc]
  rfl

/-- An artifact that passes `image verify` passes it as well for the target whose IDs are copied
from what `image inspect` shows of it, and for no other target. -/
theorem main_verify_printedTarget (c : KeyCrates ρ) (shell : Shell P) (args : ImageVerifyArgs P)
    (s : Machine P ρ) (hok : (main c shell (.image (.verify args)) s).1 = .code 0) :
    ∃ image : ParsedImage, main c shell (.image (.inspect args.artifact)) s = concluded shell
        (.image (.inspect args.artifact)) (formatImageReport image (some true) none) none s ∧
      ShowsTarget (formatImageReport image (some true) none)
        ("0x" ++ wordHex image.manifest.vendorId) ("0x" ++ wordHex image.manifest.productId)
        ("0x" ++ wordHex image.manifest.hardwareFamily)
        ("0x" ++ wordHex image.manifest.componentId) ∧
      ∃ target, ReadsTarget ("0x" ++ wordHex image.manifest.vendorId)
          ("0x" ++ wordHex image.manifest.productId)
          ("0x" ++ wordHex image.manifest.hardwareFamily)
          ("0x" ++ wordHex image.manifest.componentId) target ∧
        ∀ other, EndsVerify shell (other = target) s
          (main c shell (.image (.verify (args.withTarget other))) s).1
          (main c shell (.image (.verify (args.withTarget other))) s).2 := by
  obtain ⟨g, asked, hread, -, hg⟩ := accepts_of_main_verify hok
  obtain ⟨report, hreport, -⟩ := exists_report_of_verifies hg
  obtain ⟨image, hparse, -⟩ := bind_eq_ok_iff.mp hreport
  obtain ⟨g', hbytes, hi, -⟩ := (parseImage_eq_ok_iff image).mp hparse
  obtain rfl := Image.bytes_inj hbytes
  have hfields := hi.manifest.fields
  refine ⟨image, ?_, showsTarget_formatImageReport image (some true) none,
    ⟨image.manifest.vendorId, image.manifest.productId, image.manifest.hardwareFamily,
      image.manifest.componentId⟩,
    ⟨parseU32Value_wordHex _, parseU32Value_wordHex _, parseU32Value_wordHex _,
      parseU32Value_wordHex _⟩, fun other => ?_⟩
  · refine main_inspect_of_ok (mapErr_eq_ok_iff.mpr hread) ?_
    refine inspectImage_eq_ok_iff.mpr ⟨g, image, rfl, hparse, hi, ?_⟩
    rw [hg.payloadDigest, beq_self_eq_true]
  · have haccepts := accepts_withTarget_iff hread hg other
    rw [← hfields] at haccepts
    exact propext haccepts ▸ main_verify c shell (args.withTarget other) s

def sampleVerify : ImageVerifyArgs String := ⟨"firmware.rampart", 0, none, none, none, none⟩

theorem main_verify_printedTarget_sample : ∃ t image target,
    main sampleKeyCrates sampleShell (.image (.sign sampleSign)) sampleMachine = (.code 0, t) ∧
    main sampleKeyCrates sampleShell (.image (.inspect "firmware.rampart")) t =
      (.code 0, Machine.printed t (formatImageReport image (some true) none)) ∧
    ShowsTarget (formatImageReport image (some true) none)
      ("0x" ++ wordHex image.manifest.vendorId) ("0x" ++ wordHex image.manifest.productId)
      ("0x" ++ wordHex image.manifest.hardwareFamily)
      ("0x" ++ wordHex image.manifest.componentId) ∧
    parseU32Value ("0x" ++ wordHex image.manifest.vendorId) = .ok target.vendorId ∧
    (main sampleKeyCrates sampleShell (.image (.verify (sampleVerify.withTarget target))) t).1 =
      .code 0 := by
  obtain ⟨t, hsign⟩ := exists_main_sampleSign
  obtain ⟨document, key, image, m, h⟩ := exists_signedArtifact sampleCrates_signingLawful hsign
  have hok : (main sampleKeyCrates sampleShell (.image (.verify sampleVerify)) t).1 = .code 0 := by
    refine ((main_verify sampleKeyCrates sampleShell sampleVerify t).code_iff
      sampleShell_streams).mpr ?_
    refine (h.accepts_iff [] rfl rfl (.absent rfl rfl rfl rfl)).mpr ⟨by simp, ?_⟩
    exact UInt32.le_iff_toNat_le.mpr (Nat.zero_le _)
  obtain ⟨image, hinspect, hshows, target, htarget, hverify⟩ :=
    main_verify_printedTarget sampleKeyCrates sampleShell sampleVerify t hok
  rw [concluded_of_prints sampleShell_prints] at hinspect
  exact ⟨t, image, target, hsign, hinspect, hshows, htarget.vendorId,
    ((hverify target).code_iff sampleShell_streams).mpr rfl⟩

end Target

end RampartBoot.Host
