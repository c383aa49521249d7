import RampartBoot.Host.KeyId

/-! # Key IDs as text

A key ID is printed as sixteen hexadecimal digits, and `parse_key_id_hex` reads these back in
either case and with either prefix. It also takes a plus sign for the first digit of a pair.
-/

namespace RampartBoot.Host
open Foundation

variable {s t : List Char} {n : ℕ} {k : Vector UInt8 8} {encoded : String}

def byteHex (byte : UInt8) : List Char := (Nat.toDigits 16 byte.toNat).leftpad 2 '0'

def keyIdHex (keyId : Vector UInt8 8) : String := .ofList (keyId.toList.flatMap byteHex)

/-- Sixteen hexadecimal digits, whose pairs have the values of the bytes of `k`. -/
structure SpellsKeyId (digits : List Char) (k : Vector UInt8 8) : Prop where
  length : digits.length = 16
  isHexDigit : ∀ c ∈ digits, IsHexDigit c
  value : ∀ i hi lo, digits[2 * i]? = some hi → digits[2 * i + 1]? = some lo →
    k.toList[i]? = some (UInt8.ofNat (hexValue hi * 16 + hexValue lo))

theorem exists_pairText (h : s.length = 2 * n) : ∃ ps, s = pairText ps ∧ ps.length = n := by
  induction n generalizing s with
  | zero => exact ⟨[], List.length_eq_zero_iff.mp h, rfl⟩
  | succ n ih =>
    match s with
    | [] => cases h
    | [_] =>
      simp only [List.length_singleton] at h
      omega
    | a :: c :: s =>
      obtain ⟨ps, rfl, rfl⟩ := ih (s := s) (by simp only [List.length_cons] at h; omega)
      exact ⟨(a, c) :: ps, rfl, rfl⟩

theorem length_pairText (ps : List (Char × Char)) : (pairText ps).length = 2 * ps.length := by
  induction ps with
  | nil => rfl
  | cons p ps ih =>
    rw [pairText_cons, List.length_cons, List.length_cons, ih, List.length_cons]
    omega

theorem getElem?_pairText (ps : List (Char × Char)) (i : ℕ) :
    (pairText ps)[2 * i]? = ps[i]?.map Prod.fst ∧
      (pairText ps)[2 * i + 1]? = ps[i]?.map Prod.snd := by
  induction ps generalizing i with
  | nil => exact ⟨rfl, rfl⟩
  | cons p ps ih =>
    cases i with
    | zero => exact ⟨rfl, rfl⟩
    | succ i => exact ih i

theorem mem_pairText {ps : List (Char × Char)} {c : Char} :
    c ∈ pairText ps ↔ ∃ p ∈ ps, c = p.1 ∨ c = p.2 := by
  simp [pairText]

theorem pairByte_of_isHexDigit {p : Char × Char} (h : IsHexDigit p.1) :
    pairByte p = UInt8.ofNat (hexValue p.1 * 16 + hexValue p.2) := by
  have hplus : p.1 ≠ '+' := by
    intro hplus
    rw [hplus] at h
    exact absurd h (by decide)
  rw [pairByte, if_neg hplus]

theorem length_of_bytes {ps : List (Char × Char)} (h : k.toList = ps.map pairByte) :
    ps.length = 8 := by
  rw [← List.length_map (f := pairByte), ← h, Vector.length_toList]

theorem spellsKeyId_iff : SpellsKeyId s k ↔ ∃ ps, s = pairText ps ∧
    (∀ p ∈ ps, IsHexDigit p.1 ∧ IsHexDigit p.2) ∧ k.toList = ps.map pairByte := by
  constructor
  · intro h
    obtain ⟨ps, rfl, hlen⟩ := exists_pairText (n := 8) h.length
    have hhex : ∀ p ∈ ps, IsHexDigit p.1 ∧ IsHexDigit p.2 := fun p hp =>
      ⟨h.isHexDigit _ (mem_pairText.mpr ⟨p, hp, .inl rfl⟩),
        h.isHexDigit _ (mem_pairText.mpr ⟨p, hp, .inr rfl⟩)⟩
    refine ⟨ps, rfl, hhex, List.ext_getElem? fun i => ?_⟩
    cases hp : ps[i]? with
    | none =>
      have hi := List.getElem?_eq_none_iff.mp hp
      rw [List.getElem?_map, hp, List.getElem?_eq_none (by rw [Vector.length_toList]; omega)]
      rfl
    | some p =>
      have hget := getElem?_pairText ps i
      rw [hp] at hget
      rw [h.value i p.1 p.2 hget.1 hget.2, List.getElem?_map, hp, Option.map_some,
        pairByte_of_isHexDigit (hhex p (List.mem_of_getElem? hp)).1]
  · rintro ⟨ps, rfl, hhex, hk⟩
    have hlen := length_of_bytes hk
    refine ⟨by rw [length_pairText, hlen], fun c hc => ?_, fun i hi lo hhi hlo => ?_⟩
    · obtain ⟨p, hp, rfl | rfl⟩ := mem_pairText.mp hc
      · exact (hhex p hp).1
      · exact (hhex p hp).2
    · obtain ⟨hget₁, hget₂⟩ := getElem?_pairText ps i
      rw [hget₁] at hhi
      rw [hget₂] at hlo
      obtain ⟨p, hp, rfl⟩ := Option.map_eq_some_iff.mp hhi
      rw [hp] at hlo
      obtain rfl := Option.some.inj hlo
      rw [hk, List.getElem?_map, hp, Option.map_some,
        pairByte_of_isHexDigit (hhex p (List.mem_of_getElem? hp)).1]

/-- `parse_key_id_hex` accepts the text of eight accepted pairs. -/
theorem parseKeyIdHex_eq_ok_iff {encoded : String} : parseKeyIdHex encoded = .ok k ↔ ∃ ps,
    keyIdDigits encoded = pairText ps ∧ (∀ p ∈ ps, AcceptedPair p) ∧
      k.toList = ps.map pairByte := by
  rw [parseKeyIdHex_eq, rejectIf_bind_eq_ok, not_not]
  simp only [bind_eq_ok_iff, readPairs_eq_ok_iff, pure_eq_ok_iff]
  constructor
  · rintro ⟨hlen, _, ⟨ps, rest, htext, hps, haccept, rfl⟩, rfl⟩
    rw [htext, byteLen_append, byteLen_pairText haccept, hps] at hlen
    obtain rfl : rest = [] := by
      cases rest with
      | nil => rfl
      | cons c rest =>
        have hpos := Char.utf8Size_pos c
        rw [byteLen_cons] at hlen
        omega
    rw [List.append_nil] at htext
    exact ⟨ps, htext, haccept, storeFrom_blank (by rw [List.length_map, hps])⟩
  · rintro ⟨ps, htext, haccept, hk⟩
    have hps := length_of_bytes hk
    have hread : keyIdDigits encoded = pairText ps ++ [] := by rw [htext, List.append_nil]
    refine ⟨by rw [htext, byteLen_pairText haccept, hps], _,
      ⟨ps, [], hread, hps, haccept, rfl⟩, Vector.toList_inj.mp ?_⟩
    rw [hk, storeFrom_blank (by rw [List.length_map, hps])]

theorem parseKeyIdHex_of_spells {encoded : String} (h : SpellsKeyId (keyIdDigits encoded) k) :
    parseKeyIdHex encoded = .ok k := by
  obtain ⟨ps, htext, hhex, hk⟩ := spellsKeyId_iff.mp h
  exact parseKeyIdHex_eq_ok_iff.mpr ⟨ps, htext, fun p hp => ⟨.inl (hhex p hp).1, (hhex p hp).2⟩, hk⟩

/-- Eight accepted pairs, at least one of them with a plus sign. -/
def HasPlus (digits : List Char) : Prop :=
  ∃ ps, digits = pairText ps ∧ ps.length = 8 ∧ (∀ p ∈ ps, AcceptedPair p) ∧ ∃ p ∈ ps, p.1 = '+'

theorem mem_of_mem_keyIdDigits {c : Char} (h : c ∈ keyIdDigits encoded) : c ∈ encoded.toList := by
  unfold keyIdDigits at h
  split at h
  · next heq => simp [heq, h]
  · next heq => simp [heq, h]
  · exact h

/-- The characters of an ASCII text do not lie across a bound. -/
theorem not_cutsCharacter_of_ascii (hascii : ∀ c ∈ encoded.toList, c.toNat < 128) :
    ¬ CutsCharacter encoded := by
  rintro ⟨-, ps, rest, htext, -, hstraddles⟩
  have hsize : ∀ c ∈ rest, c.utf8Size = 1 := fun c hc =>
    utf8Size_of_ascii (hascii c (mem_of_mem_keyIdDigits (htext ▸ List.mem_append_right _ hc)))
  match rest with
  | [] => exact hstraddles
  | [a] =>
    simp only [Straddles, hsize a (by simp)] at hstraddles
    omega
  | a :: c :: rest =>
    simp only [Straddles, hsize a (by simp), hsize c (by simp)] at hstraddles
    omega

/-- Without a plus sign the accepted pairs are pairs of digits. -/
theorem spells_of_accepted {ps : List (Char × Char)} (haccept : ∀ p ∈ ps, AcceptedPair p)
    (hplus : ∀ p ∈ ps, p.1 ≠ '+') (hk : k.toList = ps.map pairByte) :
    SpellsKeyId (pairText ps) k :=
  spellsKeyId_iff.mpr ⟨ps, rfl, fun p hp =>
    ⟨(haccept p hp).1.resolve_right (hplus p hp), (haccept p hp).2⟩, hk⟩

theorem not_spells_of_hasPlus (h : HasPlus s) : ¬ ∃ k, SpellsKeyId s k := by
  rintro ⟨k, hspells⟩
  obtain ⟨ps, rfl, -, -, p, hp, hplus⟩ := h
  have hhex := hspells.isHexDigit p.1 (mem_pairText.mpr ⟨p, hp, .inl rfl⟩)
  rw [hplus] at hhex
  exact absurd hhex (by decide)

/-- An ASCII text is accepted exactly if it spells a key ID, unless a plus sign stands in it. -/
theorem parseKeyIdHex_exact_iff (encoded : String)
    (hascii : ∀ c ∈ encoded.toList, c.toNat < 128) :
    ((∀ k, parseKeyIdHex encoded = .ok k ↔ SpellsKeyId (keyIdDigits encoded) k) ∧
      ((¬ ∃ k, SpellsKeyId (keyIdDigits encoded) k) →
        ∃ e, parseKeyIdHex encoded = .error (.ret e))) ↔ ¬ HasPlus (keyIdDigits encoded) := by
  constructor
  · rintro ⟨hexact, -⟩ hplus
    have ⟨ps, htext, hlen, haccept, _⟩ := hplus
    have hk : (⟨(ps.map pairByte).toArray, by simp [hlen]⟩ : Vector UInt8 8).toList =
        ps.map pairByte := rfl
    exact not_spells_of_hasPlus hplus
      ⟨_, (hexact _).mp (parseKeyIdHex_eq_ok_iff.mpr ⟨ps, htext, haccept, hk⟩)⟩
  · intro hplus
    have hexact : ∀ k, parseKeyIdHex encoded = .ok k ↔ SpellsKeyId (keyIdDigits encoded) k := by
      refine fun k => ⟨fun h => ?_, parseKeyIdHex_of_spells⟩
      obtain ⟨ps, htext, haccept, hk⟩ := parseKeyIdHex_eq_ok_iff.mp h
      have hps := length_of_bytes hk
      rw [htext]
      exact spells_of_accepted haccept
        (fun p hp h => hplus ⟨ps, htext, hps, haccept, p, hp, h⟩) hk
    refine ⟨hexact, fun hnone => ?_⟩
    exact (faultless_parseKeyIdHex (not_cutsCharacter_of_ascii hascii)).exists_error
      fun k hk => hnone ⟨k, (hexact k).mp hk⟩

theorem not_parseKeyIdHex_exact_plus : ¬ ∀ encoded : String,
    (∀ c ∈ encoded.toList, c.toNat < 128) →
      ∀ k, parseKeyIdHex encoded = .ok k → SpellsKeyId (keyIdDigits encoded) k := by
  intro h
  have hspells := h "+f00112233445566" (by simp)
    #v[0x0f, 0x00, 0x11, 0x22, 0x33, 0x44, 0x55, 0x66] (by decide)
  exact absurd (hspells.isHexDigit '+' (by decide)) (by decide)

theorem parseKeyIdHex_exact_iff_prefixed :
    ((∀ k, parseKeyIdHex "0x0011223344556677" = .ok k ↔
        SpellsKeyId (keyIdDigits "0x0011223344556677") k) ∧
      ((¬ ∃ k, SpellsKeyId (keyIdDigits "0x0011223344556677") k) →
        ∃ e, parseKeyIdHex "0x0011223344556677" = .error (.ret e))) ↔
      ¬ HasPlus (keyIdDigits "0x0011223344556677") :=
  parseKeyIdHex_exact_iff "0x0011223344556677" (by simp)

def ShownAs (printed shown : Char) : Prop := shown = printed ∨ shown = printed.toUpper

instance : DecidableRel ShownAs := fun _ _ => inferInstanceAs (Decidable (_ ∨ _))

def hexPair (byte : UInt8) : Char × Char :=
  (Nat.digitChar (byte.toNat / 16), Nat.digitChar (byte.toNat % 16))

theorem keyIdHex_toList (k : Vector UInt8 8) :
    (keyIdHex k).toList = pairText (k.toList.map hexPair) := by
  rw [keyIdHex, String.toList_ofList, pairText, List.flatMap_map]
  exact List.flatMap_congr fun byte _ => leftpad_toDigits_sixteen byte.toNat_lt

theorem pairByte_shown {byte : UInt8} {p : Char × Char} (h₁ : ShownAs (hexPair byte).1 p.1)
    (h₂ : ShownAs (hexPair byte).2 p.2) :
    (IsHexDigit p.1 ∧ IsHexDigit p.2) ∧ pairByte p = byte := by
  have hlt := byte.toNat_lt
  obtain ⟨hhex₁, hval₁⟩ := hexDigit_digitChar (byte.toNat / 16) (by omega) p.1 h₁
  obtain ⟨hhex₂, hval₂⟩ := hexDigit_digitChar (byte.toNat % 16) (by omega) p.2 h₂
  refine ⟨⟨hhex₁, hhex₂⟩, ?_⟩
  rw [pairByte_of_isHexDigit hhex₁, hval₁, hval₂, Nat.div_add_mod', UInt8.ofNat_toNat]

theorem exists_pairs_shown {bytes : List UInt8}
    (h : List.Forall₂ ShownAs (pairText (bytes.map hexPair)) t) : ∃ ps, t = pairText ps ∧
      (∀ p ∈ ps, IsHexDigit p.1 ∧ IsHexDigit p.2) ∧ bytes = ps.map pairByte := by
  induction bytes generalizing t with
  | nil =>
    cases h
    exact ⟨[], rfl, by simp, rfl⟩
  | cons byte bytes ih =>
    rw [List.map_cons, pairText_cons, List.forall₂_cons_left_iff] at h
    obtain ⟨shown₁, _, h₁, h, rfl⟩ := h
    obtain ⟨shown₂, _, h₂, hrest, rfl⟩ := List.forall₂_cons_left_iff.mp h
    obtain ⟨ps, rfl, hhex, rfl⟩ := ih hrest
    obtain ⟨hp, hbyte⟩ := pairByte_shown (p := (shown₁, shown₂)) h₁ h₂
    exact ⟨(shown₁, shown₂) :: ps, rfl, by simpa [hp] using hhex, by rw [List.map_cons, hbyte]⟩

/-- A prefix does not hide digits, and digits are not taken for a prefix. -/
theorem keyIdDigits_prefixed {start : String} (hstart : start ∈ ["", "0x", "0X"])
    (ht : ∀ c ∈ t, IsHexDigit c) : keyIdDigits (start ++ String.ofList t) = t := by
  simp only [List.mem_cons, List.not_mem_nil, or_false] at hstart
  rcases hstart with rfl | rfl | rfl
  · rw [keyIdDigits, String.toList_append, String.toList_ofList]
    match t with
    | [] => rfl
    | [_] => simp
    | a :: b :: t =>
      have hb : IsHexDigit b := ht b (by simp)
      have hx : b ≠ 'x' := by
        rintro rfl
        exact absurd hb (by decide)
      have hX : b ≠ 'X' := by
        rintro rfl
        exact absurd hb (by decide)
      simp [hx, hX]
  · simp [keyIdDigits]
  · simp [keyIdDigits]

theorem parseKeyIdHex_shown {start : String} (hstart : start ∈ ["", "0x", "0X"])
    (h : List.Forall₂ ShownAs (keyIdHex k).toList t) :
    parseKeyIdHex (start ++ String.ofList t) = .ok k := by
  rw [keyIdHex_toList] at h
  obtain ⟨ps, rfl, hhex, hk⟩ := exists_pairs_shown h
  have hspells : SpellsKeyId (pairText ps) k := spellsKeyId_iff.mpr ⟨ps, rfl, hhex, hk⟩
  refine parseKeyIdHex_of_spells ?_
  rwa [keyIdDigits_prefixed hstart hspells.isHexDigit]

theorem parseKeyIdHex_printed {start : String} (hstart : start ∈ ["", "0x", "0X"])
    (k : Vector UInt8 8) : parseKeyIdHex (start ++ keyIdHex k) = .ok k := by
  have hrefl : List.Forall₂ ShownAs (keyIdHex k).toList (keyIdHex k).toList :=
    List.forall₂_same.mpr fun _ _ => .inl rfl
  have h := parseKeyIdHex_shown hstart hrefl
  rwa [String.ofList_toList] at h

/-- A printed key ID is read back with every prefix, in lower or upper case, and no other key ID
is printed the same. -/
theorem keyIdHex_readBack :
    (∀ (k : Vector UInt8 8), ∀ start ∈ ["", "0x", "0X"],
      parseKeyIdHex (start ++ keyIdHex k) = .ok k ∧
      ∀ t, List.Forall₂ ShownAs (keyIdHex k).toList t →
        parseKeyIdHex (start ++ String.ofList t) = .ok k) ∧
    ∀ k k', keyIdHex k = keyIdHex k' → k = k' := by
  refine ⟨fun k start hstart => ⟨parseKeyIdHex_printed hstart k,
    fun t ht => parseKeyIdHex_shown hstart ht⟩, fun k k' hprint => ?_⟩
  have hk := parseKeyIdHex_printed (by simp : "" ∈ ["", "0x", "0X"]) k
  rw [hprint, parseKeyIdHex_printed (by simp) k'] at hk
  exact (Except.ok.inj hk).symm

theorem keyIdHex_readBack_upper :
    parseKeyIdHex "0X00112233445566Ab" = .ok #v[0, 0x11, 0x22, 0x33, 0x44, 0x55, 0x66, 0xab] :=
  (keyIdHex_readBack.1 #v[0, 0x11, 0x22, 0x33, 0x44, 0x55, 0x66, 0xab] "0X" (by simp)).2
    "00112233445566Ab".toList (by decide)

end RampartBoot.Host
