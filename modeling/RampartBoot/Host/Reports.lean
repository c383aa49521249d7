import RampartBoot.Foundation.Labelled
import RampartBoot.Host.Numbers
import RampartBoot.Host.Producer

/-! # What the reports show

The artifact ID of a manifest may be any text, so it may imitate the lines that a report has
behind it. The values of a report are still determined by its text: read from the end, each of
them stops at a character that it does not have.
-/

namespace RampartBoot.Host
open Foundation Format

variable {m m' : RampartManifest}

theorem toString_injective : Function.Injective fun n : ℕ => toString n := by
  intro n k h
  have hdigits := congrArg String.toList h
  simp only [Nat.toString_eq_repr, Nat.toList_repr] at hdigits
  calc n = Nat.ofDigitChars 10 (Nat.toDigits 10 n) 0 := Nat.ofDigitChars_ten_toDigits.symm
    _ = Nat.ofDigitChars 10 (Nat.toDigits 10 k) 0 := by rw [hdigits]
    _ = k := Nat.ofDigitChars_ten_toDigits

theorem wordHex_injective : Function.Injective wordHex := by
  intro v w h
  have hread := parseU32Value_wordHex v
  rw [h, parseU32Value_wordHex] at hread
  exact (Except.ok.inj hread).symm

theorem pairText_inj {ps qs : List (Char × Char)} (h : pairText ps = pairText qs) : ps = qs := by
  induction ps generalizing qs with
  | nil =>
    cases qs with
    | nil => rfl
    | cons q qs => cases h
  | cons p ps ih =>
    cases qs with
    | nil => cases h
    | cons q qs =>
      rw [pairText_cons, pairText_cons, List.cons.injEq, List.cons.injEq] at h
      rw [Prod.ext h.1 h.2.1, ih h.2.2]

theorem hexPair_injective : Function.Injective hexPair :=
  Function.LeftInverse.injective (g := pairByte) fun _ => (pairByte_shown (.inl rfl) (.inl rfl)).2

theorem hexLower_toList (bytes : List UInt8) :
    (hexLower bytes).toList = pairText (bytes.map hexPair) := by
  rw [hexLower, String.toList_ofList, pairText, List.flatMap_map]
  exact List.flatMap_congr fun byte _ => leftpad_toDigits_sixteen byte.toNat_lt

theorem hexLower_injective : Function.Injective hexLower := by
  intro a b h
  have htext := congrArg String.toList h
  rw [hexLower_toList, hexLower_toList] at htext
  exact hexPair_injective.list_map (pairText_inj htext)

theorem isHexDigit_hexLower {bytes : List UInt8} {c : Char} (hc : c ∈ (hexLower bytes).toList) :
    IsHexDigit c := by
  rw [hexLower_toList, mem_pairText] at hc
  obtain ⟨p, hp, hc⟩ := hc
  obtain ⟨byte, -, rfl⟩ := List.mem_map.mp hp
  have hpair : IsHexDigit (hexPair byte).1 ∧ IsHexDigit (hexPair byte).2 :=
    (pairByte_shown (.inl rfl) (.inl rfl)).1
  rcases hc with rfl | rfl
  · exact hpair.1
  · exact hpair.2

theorem versionString_inj : m.versionString = m'.versionString ↔
    m.versionMajor = m'.versionMajor ∧ m.versionMinor = m'.versionMinor ∧
      m.versionPatch = m'.versionPatch := by
  unfold RampartManifest.versionString
  constructor
  · intro h
    have hread := parseSemverCore_printed m.versionMajor m.versionMinor m.versionPatch
    rw [h, parseSemverCore_printed] at hread
    simpa only [Except.ok.injEq, Prod.mk.injEq, eq_comm] using hread
  · rintro ⟨hmajor, hminor, hpatch⟩
    rw [hmajor, hminor, hpatch]

theorem roleName_inj {r r' : UInt16} (hr : 1 ≤ r ∧ r ≤ 6) (hr' : 1 ≤ r' ∧ r' ≤ 6)
    (h : roleName r = roleName r') : r = r' := by
  have hread := parseRole_roleName hr
  rw [h, parseRole_roleName hr'] at hread
  exact (Except.ok.inj hread).symm

theorem rollbackPolicyName_inj {p p' : UInt16} (hp : p = 0 ∨ p = 1) (hp' : p' = 0 ∨ p' = 1)
    (h : rollbackPolicyName p = rollbackPolicyName p') : p = p' := by
  have hread := parseRollbackPolicy_name hp
  rw [h, parseRollbackPolicy_name hp'] at hread
  exact (Except.ok.inj hread).symm

theorem optionalStatus_injective : Function.Injective optionalStatus := by
  intro a b h
  match a, b with
  | none, none | some true, some true | some false, some false => rfl
  | none, some true | none, some false | some true, none | some false, none
  | some true, some false | some false, some true => exact absurd h (by decide)

def textRow (label : String) (mark : Char) (value : String) (h : mark ∉ value.toList)
    (hlabel : label.toList.getLast? = some mark) : Labelled Char :=
  ⟨label.toList, mark, value.toList, hlabel, h⟩

theorem unmarked_wordHex (v : UInt32) : 'x' ∉ (wordHex v).toList := by
  obtain ⟨digits, hdigits, -, hhex, -⟩ := isHexadecimal_wordHex v
  have hx : 'x' ∉ digits := fun hmem => absurd (hhex 'x' hmem) (by decide)
  rcases hdigits with h | h
  · rwa [h]
  · simpa [h] using hx

theorem unmarked_hexLower {mark : Char} (h : ¬ IsHexDigit mark) (bytes : List UInt8) :
    mark ∉ (hexLower bytes).toList :=
  fun hmem => h (isHexDigit_hexLower hmem)

theorem unmarked_toString {mark : Char} (h : mark.isDigit = false) (n : ℕ) :
    mark ∉ (toString n).toList := by
  rw [Nat.toString_eq_repr, Nat.toList_repr]
  intro hmem
  rw [(canonical_toDigits n).isDigit mark hmem] at h
  cases h

theorem unmarked_versionString (m : RampartManifest) : ' ' ∉ m.versionString.toList := by
  have hspace : ∀ n, ' ' ∉ Nat.toDigits 10 n := fun n hmem =>
    absurd ((canonical_toDigits n).isDigit ' ' hmem) (by decide)
  rw [RampartManifest.versionString, versionText_toList]
  simp [List.intercalate, hspace]

theorem unmarked_status (text : String) (h : '\n' ∉ text.toList) (valid : Option Bool) :
    '\n' ∉ (text ++ optionalStatus valid).toList := by
  rw [String.toList_append, List.mem_append, not_or]
  refine ⟨h, ?_⟩
  match valid with
  | none | some true | some false => decide

theorem unmarked_roleName (role : UInt16) : ' ' ∉ (roleName role).toList := by
  unfold roleName
  split <;> decide

theorem unmarked_rollbackPolicyName (policy : UInt16) :
    ' ' ∉ (rollbackPolicyName policy ++ "\n").toList := by
  unfold rollbackPolicyName
  split <;> decide

theorem unmarked_statusWord (valid : Bool) : ' ' ∉ (statusWord valid).toList := by
  cases valid <;> decide

theorem unmarked_result (valid : Bool) :
    ' ' ∉ ((if valid then "valid" else "rejected") ++ "\n").toList := by
  cases valid <;> decide

def wordRow (label : String) (v : UInt32) (h : label.toList.getLast? = some 'x') :
    Labelled Char :=
  textRow label 'x' (wordHex v) (unmarked_wordHex v) h

def numberRow (label : String) (n : ℕ) (h : label.toList.getLast? = some ' ') : Labelled Char :=
  textRow label ' ' (toString n) (unmarked_toString rfl n) h

def reportRows (m : RampartManifest) (payloadDigestValid signatureValid : Option Bool) :
    List (Labelled Char) :=
  [wordRow "\n\nTarget\n  vendor_id        0x" m.vendorId (by decide),
   wordRow "\n  product_id       0x" m.productId (by decide),
   wordRow "\n  hardware_family  0x" m.hardwareFamily (by decide),
   numberRow "\n  hardware_rev     " m.hardwareRevisionMin.toNat (by decide),
   textRow ".." '.' (toString m.hardwareRevisionMax.toNat) (unmarked_toString rfl _) (by decide),
   wordRow "\n  component_id     0x" m.componentId (by decide),
   textRow "\n\nVersion\n  " ' ' m.versionString (unmarked_versionString m) (by decide),
   numberRow "\n\nSecurity Epoch\n  " m.securityEpoch.toNat (by decide),
   numberRow "\n\nPayload\n  " m.payloadSize.toNat (by decide),
   textRow " bytes\n  SHA-256\n  " ' ' (hexLower m.payloadDigest.toList)
     (unmarked_hexLower (by decide) _) (by decide),
   textRow "\n" '\n' ("  digest " ++ optionalStatus payloadDigestValid)
     (unmarked_status _ (by decide) _) (by decide),
   textRow "\n\nAuthorization\n  role              " ' ' (roleName m.signatureRole)
     (unmarked_roleName _) (by decide),
   textRow "\n  key_id            0x" 'x' (hexLower m.keyId.toList)
     (unmarked_hexLower (by decide) _) (by decide),
   textRow "\n  signature         ECDSA_P256_SHA256\n" '\n'
     ("  signature " ++ optionalStatus signatureValid) (unmarked_status _ (by decide) _)
     (by decide),
   numberRow "\n\nTrial Policy\n  attempts          " m.trialMaxAttempts.toNat (by decide),
   numberRow "\n  probation_ms      " m.trialProbationMs.toNat (by decide),
   textRow "\n\nRollback\n  " ' ' (rollbackPolicyName m.rollbackPolicy ++ "\n")
     (unmarked_rollbackPolicyName _) (by decide)]

def verdictRows (report : VerificationReport) : List (Labelled Char) :=
  [textRow "\nPolicy Checks\n  target binding      " ' ' (statusWord report.targetValid)
     (unmarked_statusWord _) (by decide),
   textRow "\n  security epoch      " ' ' (statusWord report.securityEpochValid)
     (unmarked_statusWord _) (by decide),
   textRow "\n\nResult\n  " ' ' ((if report.isValid then "valid" else "rejected") ++ "\n")
     (unmarked_result _) (by decide)]

def reportText (artifactId : String) (rows : List (Labelled Char)) : List Char :=
  ("Rampart Image\n\nArtifact\n  " ++ artifactId).toList ++ rows.flatMap Labelled.text

theorem formatImageReport_toList (image : ParsedImage) (d s : Option Bool) :
    (formatImageReport image d s).toList =
      reportText image.manifest.artifactId (reportRows image.manifest d s) := by
  have hdigest : "\n  digest " = "\n" ++ "  digest " := rfl
  have hsignature : "\n  signature         ECDSA_P256_SHA256\n  signature " =
      "\n  signature         ECDSA_P256_SHA256\n" ++ "  signature " := rfl
  have hkey : keyIdHex image.manifest.keyId = hexLower image.manifest.keyId.toList := rfl
  -- `rw` would compare the texts character by character
  unfold formatImageReport
  rewrite [hdigest, hsignature]
  simp only [reportText, reportRows, wordRow, numberRow, textRow, Labelled.text,
    List.flatMap_cons, List.flatMap_nil, String.toList_append, List.append_assoc,
    List.append_nil, hkey]

theorem formatVerificationReport_toList (report : VerificationReport) :
    (formatVerificationReport report).toList =
      reportText report.image.manifest.artifactId
        (reportRows report.image.manifest (some report.payloadDigestValid)
          (some report.signatureValid) ++ verdictRows report) := by
  rw [formatVerificationReport, String.toList_append, formatImageReport_toList]
  simp only [reportText, verdictRows, textRow, Labelled.text, List.flatMap_append,
    List.flatMap_cons, List.flatMap_nil, String.toList_append, List.append_assoc, List.append_nil]

theorem reportText_inj {a b : String} {rows rows' : List (Labelled Char)}
    (hlabels : rows.map Labelled.label = rows'.map Labelled.label)
    (h : reportText a rows = reportText b rows') : a = b ∧ rows = rows' := by
  obtain ⟨hfront, hrows⟩ := Labelled.append_flatMap_text_inj hlabels h
  rw [String.toList_inj, String.append_right_inj] at hfront
  exact ⟨hfront, hrows⟩

theorem reportRows_labels (m m' : RampartManifest) (d s d' s' : Option Bool) :
    (reportRows m d s).map Labelled.label = (reportRows m' d' s').map Labelled.label := by
  simp only [reportRows, wordRow, numberRow, textRow, List.map_cons, List.map_nil]

theorem verdictRows_labels (report report' : VerificationReport) :
    (verdictRows report).map Labelled.label = (verdictRows report').map Labelled.label := by
  simp only [verdictRows, textRow, List.map_cons, List.map_nil]

/-- On manifests of the format the rows show every value. -/
theorem reportRows_inj {g g' : Manifest} {d s d' s' : Option Bool} (hm : m.Shows g)
    (hm' : m'.Shows g') (h : reportRows m d s = reportRows m' d' s') :
    m.fields = m'.fields ∧ d = d' ∧ s = s' := by
  have hvalid : m.fields.Valid := hm.fields ▸ g.valid
  have hvalid' : m'.fields.Valid := hm'.fields ▸ g'.valid
  simp only [reportRows, wordRow, numberRow, textRow, List.cons.injEq, Labelled.mk.injEq,
    String.toList_inj, true_and, and_true, String.append_right_inj, String.append_left_inj,
    wordHex_injective.eq_iff, toString_injective.eq_iff, UInt32.toNat_inj, UInt16.toNat_inj,
    versionString_inj, hexLower_injective.eq_iff, Vector.toList_inj,
    optionalStatus_injective.eq_iff] at h
  obtain ⟨hvendor, hproduct, hfamily, hmin, hmax, hcomponent, ⟨hmajor, hminor, hpatch⟩, hepoch,
    hsize, hdigest, hd, hrole, hkey, hs, hattempts, hprobation, hrollback⟩ := h
  refine ⟨?_, hd, hs⟩
  simp only [RampartManifest.fields, ManifestFields.mk.injEq]
  exact ⟨hvendor, hproduct, hfamily, hmin, hmax, hcomponent, hepoch, hmajor, hminor, hpatch,
    trivial, hsize, hdigest, trivial, roleName_inj hvalid.role hvalid'.role hrole,
    hvalid.threshold.trans hvalid'.threshold.symm, hvalid.count.trans hvalid'.count.symm, hkey,
    hattempts, rollbackPolicyName_inj hvalid.rollback hvalid'.rollback hrollback, hprobation,
    hvalid.requirements.trans hvalid'.requirements.symm,
    hvalid.dependencies.trans hvalid'.dependencies.symm, hvalid.health.trans hvalid'.health.symm⟩

/-- A report of `image inspect` is none of `image verify`: they end with different words. -/
theorem formatImageReport_ne (image : ParsedImage) (d s : Option Bool)
    (report : VerificationReport) :
    formatImageReport image d s ≠ formatVerificationReport report := by
  intro h
  have htext := congrArg String.toList h
  rw [formatImageReport_toList, formatVerificationReport_toList] at htext
  have hrows : reportRows image.manifest d s = (reportRows image.manifest d s).take 16 ++
      [textRow "\n\nRollback\n  " ' ' (rollbackPolicyName image.manifest.rollbackPolicy ++ "\n")
        (unmarked_rollbackPolicyName _) (by decide)] := rfl
  have hverdict : verdictRows report = (verdictRows report).take 2 ++
      [textRow "\n\nResult\n  " ' ' ((if report.isValid then "valid" else "rejected") ++ "\n")
        (unmarked_result _) (by decide)] := rfl
  rw [hrows, hverdict, reportText, reportText, ← List.append_assoc, List.flatMap_append,
    List.flatMap_append, List.flatMap_singleton, List.flatMap_singleton, ← List.append_assoc,
    ← List.append_assoc] at htext
  have hlast := Labelled.append_text_value_inj (by rfl) htext
  simp only [textRow, String.toList_inj, String.append_left_inj] at hlast
  unfold rollbackPolicyName at hlast
  split at hlast <;> split_ifs at hlast <;> exact absurd hlast (by decide)

theorem manifest_eq {g g' : Manifest} (hm : m.Shows g) (hm' : m'.Shows g')
    (hfields : m.fields = m'.fields) (hid : m.artifactId = m'.artifactId) : g = g' := by
  have hg := hm.artifactId
  have hf := hm.fields
  rw [hid, hm'.artifactId] at hg
  rw [hfields, hm'.fields] at hf
  obtain ⟨fields, id, _, _, _⟩ := g
  obtain ⟨fields', id', _, _, _⟩ := g'
  obtain rfl : fields' = fields := hf
  obtain rfl : id' = id := hg
  rfl

theorem formatImageReport_inj {image image' : ParsedImage} {g g' : Image}
    {d s d' s' : Option Bool} (hi : image.Shows g) (hi' : image'.Shows g')
    (h : formatImageReport image d s = formatImageReport image' d' s') :
    g.manifest = g'.manifest ∧ d = d' ∧ s = s' := by
  have htext := congrArg String.toList h
  rw [formatImageReport_toList, formatImageReport_toList] at htext
  obtain ⟨hid, hrows⟩ := reportText_inj (reportRows_labels _ _ _ _ _ _) htext
  obtain ⟨hfields, hstatus⟩ := reportRows_inj hi.manifest hi'.manifest hrows
  exact ⟨manifest_eq hi.manifest hi'.manifest hfields hid, hstatus⟩

theorem result_inj {valid valid' : Bool} (h : (if valid then "valid" else "rejected") =
    if valid' then "valid" else "rejected") : valid = valid' := by
  cases valid <;> cases valid' <;> first | rfl | exact absurd h (by decide)

theorem formatVerificationReport_inj {report report' : VerificationReport} {g g' : Image}
    (hi : report.image.Shows g) (hi' : report'.image.Shows g')
    (h : formatVerificationReport report = formatVerificationReport report') :
    g.manifest = g'.manifest ∧ report.payloadDigestValid = report'.payloadDigestValid ∧
      report.isValid = report'.isValid := by
  have htext := congrArg String.toList h
  rw [formatVerificationReport_toList, formatVerificationReport_toList] at htext
  obtain ⟨hid, hrows⟩ := reportText_inj (by
    rw [List.map_append, List.map_append, reportRows_labels report.image.manifest
      report'.image.manifest, verdictRows_labels report report']) htext
  obtain ⟨hshown, hverdicts⟩ := List.append_inj hrows (by simp [reportRows])
  obtain ⟨hfields, hdigest, -⟩ := reportRows_inj hi.manifest hi'.manifest hshown
  simp only [verdictRows, textRow, List.cons.injEq, Labelled.mk.injEq, String.toList_inj,
    true_and, and_true, String.append_left_inj] at hverdicts
  exact ⟨manifest_eq hi.manifest hi'.manifest hfields hid, Option.some.inj hdigest,
    result_inj hverdicts.2.2⟩

/-- What a run on the image `g` that prints a report shows, and how it ends. -/
inductive PrintsReport (c : Crates) (g : Image) (e : Exit) (text : String) : Prop
  | inspected (image : ParsedImage) : image.Shows g → e = .code 0 →
      text = formatImageReport image (some (c.sha256 g.payload == g.manifest.payloadDigest)) none →
      PrintsReport c g e text
  | verified (report : VerificationReport) : report.image.Shows g →
      (report.payloadDigestValid = true ↔ c.sha256 g.payload = g.manifest.payloadDigest) →
      e = .code (if report.isValid then 0 else 2) → text = formatVerificationReport report →
      PrintsReport c g e text

/-- The text of a report determines the manifest, the verdict on the payload digest and how the
run ends. -/
theorem PrintsReport.inj {c : Crates} {g g' : Image} {e e' : Exit} {text : String}
    (h : PrintsReport c g e text) (h' : PrintsReport c g' e' text) :
    g.manifest = g'.manifest ∧ e = e' ∧
      (c.sha256 g.payload = g.manifest.payloadDigest ↔
        c.sha256 g'.payload = g'.manifest.payloadDigest) := by
  rcases h with ⟨image, hi, rfl, htext⟩ | ⟨report, hi, hd, rfl, htext⟩ <;>
    rcases h' with ⟨image', hi', rfl, htext'⟩ | ⟨report', hi', hd', rfl, htext'⟩
  · obtain ⟨hmanifest, hdigest, -⟩ := formatImageReport_inj hi hi' (htext.symm.trans htext')
    exact ⟨hmanifest, rfl, by rw [← beq_iff_eq, Option.some.inj hdigest, beq_iff_eq]⟩
  · exact absurd (htext.symm.trans htext') (formatImageReport_ne _ _ _ _)
  · exact absurd (htext'.symm.trans htext) (formatImageReport_ne _ _ _ _)
  · obtain ⟨hmanifest, hdigest, hvalid⟩ :=
      formatVerificationReport_inj hi hi' (htext.symm.trans htext')
    exact ⟨hmanifest, by rw [hvalid], by rw [← hd, ← hd', hdigest]⟩

section Main
variable {P ρ : Type} [DecidableEq P]

inductive Examines : ImageCommand P → P → Prop
  | inspect (artifact : P) : Examines (.inspect artifact) artifact
  | verify (args : ImageVerifyArgs P) : Examines (.verify args) args.artifact

/-- A run that does not panic and prints anything prints a report on the image in the artifact. -/
theorem exists_printsReport {c : KeyCrates ρ} {shell : Shell P} {command : ImageCommand P}
    {artifact : P} (hcommand : Examines command artifact) {s : Machine P ρ} {text : String}
    (hheard : ∀ f, (main c shell (.image command) s).1 ≠ .panic f)
    (hprinted : (main c shell (.image command) s).2.2.stdout = s.2.stdout ++ text)
    (hne : text ≠ "") : ∃ g, shell.read s.1 artifact = .ok (Image.bytes g) ∧
      PrintsReport c.toCrates g (main c shell (.image command) s).1 text := by
  have hsilent : ¬ s.2.stdout = s.2.stdout ++ text := fun h =>
    hne ((String.append_right_inj s.2.stdout).mp (by rw [← h, String.append_empty]))
  cases hcommand with
  | inspect artifact =>
    rcases main_inspect_cases c shell artifact s with
      ⟨bytes, report, hbytes, hreport, hmain⟩ | ⟨-, e, hmain⟩
    · rw [hmain] at hheard hprinted ⊢
      obtain ⟨hcode, htext⟩ := concluded_of_heard hheard
      obtain rfl := (String.append_right_inj _).mp (hprinted.symm.trans htext)
      obtain ⟨g, image, rfl, -, hi, hreport⟩ := inspectImage_eq_ok_iff.mp hreport
      exact ⟨g, mapErr_eq_ok_iff.mp hbytes, .inspected image hi hcode hreport⟩
    · rw [hmain, eprintln_stdout] at hprinted
      exact absurd hprinted hsilent
  | verify args =>
    rcases main_verify_cases c shell args s with
      ⟨report, ⟨bytes, target, hbytes, -, hreport⟩, hmain⟩ | ⟨-, e, hmain⟩
    · rw [hmain] at hheard hprinted ⊢
      obtain ⟨hcode, htext⟩ := concluded_of_heard hheard
      have hreported := (String.append_right_inj _).mp (hprinted.symm.trans htext)
      obtain ⟨g, point, sig, rfl, -, -, -, hg⟩ := (verifyImage_eq_ok_iff report).mp hreport
      simp only [verifyError_eq_none_iff] at hcode
      exact ⟨g, mapErr_eq_ok_iff.mp hbytes, .verified report hg.image hg.payloadDigest hcode
        hreported⟩
    · rw [hmain, eprintln_stdout] at hprinted
      exact absurd hprinted hsilent

/-- Whatever the artifact ID says, two runs that print the same report and do not panic are about
the same manifest, agree on the payload digest and end alike. -/
theorem main_report_inj (c : KeyCrates ρ) (shell shell' : Shell P)
    {command command' : ImageCommand P} {artifact artifact' : P}
    (hcommand : Examines command artifact) (hcommand' : Examines command' artifact')
    (s s' : Machine P ρ) {text : String} (hne : text ≠ "")
    (hheard : ∀ f, (main c shell (.image command) s).1 ≠ .panic f)
    (hheard' : ∀ f, (main c shell' (.image command') s').1 ≠ .panic f)
    (hprinted : (main c shell (.image command) s).2.2.stdout = s.2.stdout ++ text)
    (hprinted' : (main c shell' (.image command') s').2.2.stdout = s'.2.stdout ++ text) :
    ∃ g g', shell.read s.1 artifact = .ok (Image.bytes g) ∧
      shell'.read s'.1 artifact' = .ok (Image.bytes g') ∧ g.manifest = g'.manifest ∧
      (c.sha256 g.payload = g.manifest.payloadDigest ↔
        c.sha256 g'.payload = g'.manifest.payloadDigest) ∧
      (main c shell (.image command) s).1 = (main c shell' (.image command') s').1 := by
  obtain ⟨g, hread, hg⟩ := exists_printsReport hcommand hheard hprinted hne
  obtain ⟨g', hread', hg'⟩ := exists_printsReport hcommand' hheard' hprinted' hne
  obtain ⟨hmanifest, hexit, hdigest⟩ := hg.inj hg'
  exact ⟨g, g', hread, hread', hmanifest, hdigest, hexit⟩

/-- The release of the unit test is looked at before and after the tool has checked itself. -/
theorem main_report_inj_sample : ∃ t text,
    main sampleKeyCrates sampleShell (.image (.sign sampleSign)) sampleMachine = (.code 0, t) ∧
    text ≠ "" ∧
    ∃ g g', sampleShell.read t.1 "firmware.rampart" = .ok (Image.bytes g) ∧
      sampleShell.read (session sampleKeyCrates sampleShell [.selfCheck true] t).1
        "firmware.rampart" = .ok (Image.bytes g') ∧ g.manifest = g'.manifest ∧
      (sampleKeyCrates.sha256 g.payload = g.manifest.payloadDigest ↔
        sampleKeyCrates.sha256 g'.payload = g'.manifest.payloadDigest) ∧
      (main sampleKeyCrates sampleShell (.image (.inspect "firmware.rampart")) t).1 =
        (main sampleKeyCrates sampleShell (.image (.inspect "firmware.rampart"))
          (session sampleKeyCrates sampleShell [.selfCheck true] t)).1 := by
  obtain ⟨t, hsign⟩ := exists_main_sampleSign
  obtain ⟨document, key, image, m, h⟩ := exists_signedArtifact sampleCrates_signingLawful hsign
  have hmain : ∀ commands, sampleShell.readError (session sampleKeyCrates sampleShell commands
        t).1 "firmware.rampart" = none →
      main sampleKeyCrates sampleShell (.image (.inspect "firmware.rampart"))
        (session sampleKeyCrates sampleShell commands t) =
        (.code 0, Machine.printed (session sampleKeyCrates sampleShell commands t)
          (formatImageReport (parsedImageOf image m) (some true) none)) := fun commands hread =>
    (h.main_inspect commands hread).trans (concluded_of_prints sampleShell_prints)
  have hne : formatImageReport (parsedImageOf image m) (some true) none ≠ "" := fun hempty => by
    have htext := congrArg String.toList hempty
    rw [formatImageReport_toList, reportText] at htext
    simp at htext
  refine ⟨t, _, hsign, hne, main_report_inj sampleKeyCrates sampleShell sampleShell (.inspect _)
    (.inspect _) t _ hne (fun f => ?_) (fun f => ?_) ?_ ?_⟩
  · exact fun hpanic => by cases (congrArg Prod.fst (hmain [] rfl)).symm.trans hpanic
  · exact fun hpanic => by
      cases (congrArg Prod.fst (hmain [.selfCheck true] rfl)).symm.trans hpanic
  · exact congrArg (fun result => result.2.2.stdout) (hmain [] rfl)
  · exact congrArg (fun result => result.2.2.stdout) (hmain [.selfCheck true] rfl)

end Main

end RampartBoot.Host
