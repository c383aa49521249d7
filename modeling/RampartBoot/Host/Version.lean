import RampartBoot.Host.Document

/-! # Versions as text

A version is printed as three decimal numerals with dots between them. The parser leaves the
parts between the dots to the `FromStr` of `u16`, which also takes a plus sign and zeros in
front.
-/

namespace RampartBoot.Host
open Foundation

variable {s : List Char} {v a b c : UInt16}

def versionText (major minor patch : UInt16) : String :=
  toString major.toNat ++ "." ++ toString minor.toNat ++ "." ++ toString patch.toNat

def RampartManifest.versionString (m : RampartManifest) : String :=
  versionText m.versionMajor m.versionMinor m.versionPatch

/-- Digits of a value below `2 ^ 16`, perhaps behind a plus sign. -/
def IsNumeral (s : List Char) : Prop :=
  ∃ digits, (s = digits ∨ s = '+' :: digits) ∧ digits ≠ [] ∧ (∀ c ∈ digits, c.isDigit = true) ∧
    Nat.ofDigitChars 10 digits 0 < 2 ^ 16

/-- A plus sign or a zero in front that could be left out. -/
def Superfluous (s : List Char) : Prop := s.head? = some '+' ∨ s.head? = some '0' ∧ s ≠ ['0']

/-- Three numerals with dots between them, not all of which are spelled as they are printed. -/
structure LaxVersion (version : String) : Prop where
  threeParts : (version.toList.splitOn '.').length = 3
  isNumeral : ∀ part ∈ version.toList.splitOn '.', IsNumeral part
  superfluous : ∃ part ∈ version.toList.splitOn '.', Superfluous part

theorem parseU16_eq_some_iff : parseU16 s = some v ↔
    ∃ digits, (s = digits ∨ s = '+' :: digits) ∧ digits ≠ [] ∧
      (∀ c ∈ digits, c.isDigit = true) ∧ Nat.ofDigitChars 10 digits 0 = v.toNat := by
  simp only [parseU16, Option.map_eq_some_iff, fromStrRadix_eq_some_iff,
    readDigits_ten (by decide : 0 < 2 ^ 16)]
  constructor
  · rintro ⟨n, ⟨digits, hs, hne, hdigits, hn, hlt⟩, rfl⟩
    exact ⟨digits, hs, hne, hdigits, by rw [hn, UInt16.toNat_ofNat_of_lt' hlt]⟩
  · rintro ⟨digits, hs, hne, hdigits, hn⟩
    exact ⟨v.toNat, ⟨digits, hs, hne, hdigits, hn, v.toNat_lt⟩, UInt16.ofNat_toNat⟩

theorem isNumeral_iff : IsNumeral s ↔ ∃ v, parseU16 s = some v := by
  simp only [parseU16_eq_some_iff]
  constructor
  · rintro ⟨digits, hs, hne, hdigits, hlt⟩
    exact ⟨UInt16.ofNat (Nat.ofDigitChars 10 digits 0), digits, hs, hne, hdigits,
      (UInt16.toNat_ofNat_of_lt' hlt).symm⟩
  · rintro ⟨v, digits, hs, hne, hdigits, hn⟩
    exact ⟨digits, hs, hne, hdigits, hn ▸ v.toNat_lt⟩

theorem parseU16_printed (v : UInt16) : parseU16 (Nat.toDigits 10 v.toNat) = some v := by
  have hprinted := canonical_toDigits v.toNat
  exact parseU16_eq_some_iff.mpr
    ⟨_, .inl rfl, hprinted.ne_nil, hprinted.isDigit, Nat.ofDigitChars_ten_toDigits⟩

/-- A numeral is what its value is printed as unless something in front of it is superfluous. -/
theorem eq_printed_of_parseU16 (h : parseU16 s = some v) (hs : ¬ Superfluous s) :
    s = Nat.toDigits 10 v.toNat := by
  obtain ⟨digits, rfl | rfl, hne, hdigits, hn⟩ := parseU16_eq_some_iff.mp h
  · have hcanonical : Canonical s :=
      ⟨hne, hdigits, fun hzero => by_contra fun hlong => hs (.inr ⟨hzero, hlong⟩)⟩
    rw [← hn, hcanonical.toDigits_eq]
  · exact absurd (.inl rfl) hs

theorem not_superfluous_printed (n : ℕ) : ¬ Superfluous (Nat.toDigits 10 n) := by
  have hprinted := canonical_toDigits n
  rintro (hplus | ⟨hzero, hlong⟩)
  · exact absurd (hprinted.isDigit '+' (List.mem_of_head? hplus)) (by decide)
  · exact hlong (hprinted.zero hzero)

theorem versionText_toList : (versionText a b c).toList = ['.'].intercalate
    [Nat.toDigits 10 a.toNat, Nat.toDigits 10 b.toNat, Nat.toDigits 10 c.toNat] := by
  simp [versionText, List.intercalate]

theorem splitOn_versionText : (versionText a b c).toList.splitOn '.' =
    [Nat.toDigits 10 a.toNat, Nat.toDigits 10 b.toNat, Nat.toDigits 10 c.toNat] := by
  have hdot : ∀ n, '.' ∉ Nat.toDigits 10 n := fun n hmem =>
    absurd ((canonical_toDigits n).isDigit '.' hmem) (by decide)
  rw [versionText_toList]
  exact List.splitOn_intercalate '.' (by simp [hdot]) (by simp)

theorem parseSemverCore_printed (a b c : UInt16) :
    parseSemverCore (versionText a b c) = .ok (a, b, c) :=
  parseSemverCore_eq_ok_iff.mpr ⟨_, _, _, splitOn_versionText, parseU16_printed a,
    parseU16_printed b, parseU16_printed c⟩

theorem eq_versionText_of_parse {version : String} (h : parseSemverCore version = .ok (a, b, c))
    (hlax : ¬ LaxVersion version) : version = versionText a b c := by
  obtain ⟨major, minor, patch, hparts, ha, hb, hc⟩ := parseSemverCore_eq_ok_iff.mp h
  have hplain : ∀ part ∈ [major, minor, patch], ¬ Superfluous part := by
    intro part hmem hsuper
    refine hlax ⟨by rw [hparts]; rfl, ?_, part, by rwa [hparts], hsuper⟩
    rw [hparts]
    simp only [List.mem_cons, List.not_mem_nil, or_false, forall_eq_or_imp, forall_eq,
      isNumeral_iff]
    exact ⟨⟨a, ha⟩, ⟨b, hb⟩, ⟨c, hc⟩⟩
  have hmajor := eq_printed_of_parseU16 ha (hplain major (by simp))
  have hminor := eq_printed_of_parseU16 hb (hplain minor (by simp))
  have hpatch := eq_printed_of_parseU16 hc (hplain patch (by simp))
  have htext : version.toList = (versionText a b c).toList := by
    rw [versionText_toList, ← hmajor, ← hminor, ← hpatch, ← hparts, List.intercalate_splitOn]
  exact String.toList_inj.mp htext

/-- Every printed version is parsed to itself, and a text is parsed as the inverse of printing
exactly if it is not a version with a superfluous sign or zero. -/
theorem parseSemverCore_inverse_iff (version : String) :
    (∀ a b c, parseSemverCore (versionText a b c) = .ok (a, b, c)) ∧
    ((∀ a b c, parseSemverCore version = .ok (a, b, c) ↔ version = versionText a b c) ↔
      ¬ LaxVersion version) := by
  refine ⟨parseSemverCore_printed, fun hinverse hlax => ?_, fun hlax a b c =>
    ⟨fun h => eq_versionText_of_parse h hlax, fun h => h ▸ parseSemverCore_printed a b c⟩⟩
  obtain ⟨major, minor, patch, hparts⟩ := List.length_eq_three.mp hlax.threeParts
  have hnumeral := hlax.isNumeral
  obtain ⟨part, hmem, hsuper⟩ := hlax.superfluous
  rw [hparts] at hnumeral
  obtain ⟨a, ha⟩ := isNumeral_iff.mp (hnumeral major (by simp))
  obtain ⟨b, hb⟩ := isNumeral_iff.mp (hnumeral minor (by simp))
  obtain ⟨c, hc⟩ := isNumeral_iff.mp (hnumeral patch (by simp))
  have hprinted := (hinverse a b c).mp
    (parseSemverCore_eq_ok_iff.mpr ⟨major, minor, patch, hparts, ha, hb, hc⟩)
  -- the parts of a printed version have nothing superfluous
  rw [hprinted, splitOn_versionText] at hmem
  simp only [List.mem_cons, List.not_mem_nil, or_false] at hmem
  rcases hmem with rfl | rfl | rfl <;> exact not_superfluous_printed _ hsuper

theorem not_parseSemverCore_inverse_plus : ¬ ∀ version : String, ∀ a b c : UInt16,
    parseSemverCore version = .ok (a, b, c) ↔ version = versionText a b c := by
  intro h
  exact absurd ((h "+1.02.3" 1 2 3).mp (by decide)) (by decide)

end RampartBoot.Host
