import RampartBoot.Host.Document
import RampartBoot.Host.Totality

/-! # Slices of a key ID text

`parse_key_id_hex` reads two bytes at a time: it counts the bytes of the text, takes slices at
even byte offsets and leaves each slice to `u8::from_str_radix`, whose grammar has an optional
plus sign. A slice bound can fall inside a character.
-/

namespace RampartBoot.Host
open Foundation

variable {s t : List Char} {n : ℕ} {b : UInt8}

def keyIdDigits (encoded : String) : List Char :=
  match encoded.toList with
  | '0' :: 'x' :: rest => rest
  | '0' :: 'X' :: rest => rest
  | value => value

def pairText (ps : List (Char × Char)) : List Char := ps.flatMap fun p => [p.1, p.2]

/-- Two hexadecimal digits, or one behind a plus sign. -/
def AcceptedPair (p : Char × Char) : Prop := (IsHexDigit p.1 ∨ p.1 = '+') ∧ IsHexDigit p.2

/-- The character at the front or the one behind it lies across the byte offset two. -/
def Straddles : List Char → Prop
  | [] => False
  | [a] => 3 ≤ a.utf8Size
  | a :: b :: _ => 3 ≤ a.utf8Size ∨ a.utf8Size = 1 ∧ 2 ≤ b.utf8Size

@[simp] theorem byteLen_append : byteLen (s ++ t) = byteLen s + byteLen t := by
  simp [byteLen]

@[simp] theorem byteLen_cons (c : Char) : byteLen (c :: s) = c.utf8Size + byteLen s := by
  simp [byteLen]

theorem splitAtByte_append : splitAtByte (byteLen s) (s ++ t) = some (s, t) := by
  induction s with
  | nil => simp [byteLen, splitAtByte]
  | cons c s ih =>
    have hpos := Char.utf8Size_pos c
    obtain ⟨m, hm⟩ : ∃ m, byteLen (c :: s) = m + 1 := ⟨byteLen (c :: s) - 1, by simp; omega⟩
    have hlen : m + 1 - c.utf8Size = byteLen s := by
      rw [← hm, byteLen_cons, Nat.add_sub_cancel_left]
    rw [hm, List.cons_append, splitAtByte, if_pos (by rw [← hm, byteLen_cons]; omega), hlen, ih]
    rfl

theorem splitAtByte_eq_some {front rest : List Char} (h : splitAtByte n s = some (front, rest)) :
    s = front ++ rest ∧ byteLen front = n := by
  induction s generalizing n front with
  | nil =>
    cases n with
    | zero => cases h; exact ⟨rfl, rfl⟩
    | succ n => cases h
  | cons c s ih =>
    cases n with
    | zero => cases h; exact ⟨rfl, rfl⟩
    | succ n =>
      rw [splitAtByte] at h
      split_ifs at h with hle
      obtain ⟨⟨front', rest'⟩, hsplit, heq⟩ := Option.map_eq_some_iff.mp h
      cases heq
      obtain ⟨rfl, hlen⟩ := ih hsplit
      exact ⟨rfl, by rw [byteLen_cons, hlen]; omega⟩

/-- There is no boundary at offset two exactly if a character lies across it. -/
theorem splitAtByte_two_eq_none (h : 2 ≤ byteLen s) : splitAtByte 2 s = none ↔ Straddles s := by
  match s with
  | [] => simp [byteLen] at h
  | [a] =>
    have hpos := Char.utf8Size_pos a
    simp only [byteLen, List.map_cons, List.map_nil, List.sum_cons, List.sum_nil] at h
    simp only [splitAtByte, Straddles]
    split_ifs with hle
    · have htwo : 1 + 1 - a.utf8Size = 0 := by omega
      simp [htwo, splitAtByte]
      omega
    · simp
      omega
  | a :: c :: s =>
    have hpos := Char.utf8Size_pos a
    have hposc := Char.utf8Size_pos c
    simp only [splitAtByte, Straddles]
    split_ifs with hle
    · rcases Nat.lt_or_ge a.utf8Size 2 with hone | htwo
      · have hsize : a.utf8Size = 1 := by omega
        simp only [hsize, Nat.add_sub_cancel, splitAtByte]
        split_ifs with hc
        · have hsize' : c.utf8Size = 1 := by omega
          simp [hsize', splitAtByte]
        · simp
          omega
      · have hsize : a.utf8Size = 2 := by omega
        simp [hsize, splitAtByte]
    · simp
      omega

theorem Straddles.two_lt (h : Straddles s) : 2 < byteLen s := by
  match s with
  | [] => exact h.elim
  | [a] =>
    simp only [Straddles] at h
    simp only [byteLen, List.map_cons, List.map_nil, List.sum_cons, List.sum_nil]
    omega
  | a :: c :: s =>
    have hpos := Char.utf8Size_pos c
    simp only [Straddles] at h
    simp only [byteLen_cons]
    omega

theorem strSlice_append {ε : Type} {i : ℕ} (h : byteLen s = i) :
    (splitAtByte n t = none →
      (strSlice (s ++ t) i (i + n) : Checked ε (List Char)) = fault .slice) ∧
    ∀ front rest, splitAtByte n t = some (front, rest) →
      (strSlice (s ++ t) i (i + n) : Checked ε (List Char)) = pure front := by
  subst h
  have hlen : byteLen s + n - byteLen s = n := Nat.add_sub_cancel_left _ _
  rw [strSlice, if_pos (Nat.le_add_right _ _), splitAtByte_append]
  constructor
  · intro hsplit
    simp only [hlen, hsplit]
  · intro front rest hsplit
    simp only [hlen, hsplit]

def readPairs : ℕ → List Char → Res (List UInt8)
  | 0, _ => pure []
  | n + 1, s =>
    match splitAtByte 2 s with
    | none => fault .slice
    | some (front, rest) => do
      let byte ← okOr (u8FromStrRadix front 16) "key ID contains non-hexadecimal characters"
      let bytes ← readPairs n rest
      pure (byte :: bytes)

def storeFrom (v : Vector UInt8 8) : ℕ → List UInt8 → Vector UInt8 8
  | _, [] => v
  | i, byte :: bytes => storeFrom (v.setIfInBounds i byte) (i + 1) bytes

theorem storeFrom_toList {v : Vector UInt8 8} {u old w bytes : List UInt8}
    (hv : v.toList = u ++ old ++ w) (h : old.length = bytes.length) :
    (storeFrom v u.length bytes).toList = u ++ bytes ++ w := by
  induction bytes generalizing v u old with
  | nil => rw [storeFrom, hv, List.length_eq_zero_iff.mp h]
  | cons byte bytes ih =>
    obtain ⟨x, old, rfl⟩ := List.exists_cons_of_length_eq_add_one h
    have hset : (v.setIfInBounds u.length byte).toList = (u ++ [byte]) ++ old ++ w := by
      rw [Vector.toList_setIfInBounds, hv]
      simp
    have hrest := ih hset (Nat.succ.inj h)
    rw [List.length_append, List.length_singleton] at hrest
    rw [storeFrom, hrest]
    simp

theorem storeFrom_blank {bytes : List UInt8} (h : bytes.length = 8) :
    (storeFrom (.replicate 8 0) 0 bytes).toList = bytes := by
  have hblank : (Vector.replicate 8 0 : Vector UInt8 8).toList = [] ++ List.replicate 8 0 ++ [] :=
    rfl
  have hstore := storeFrom_toList hblank (h.symm : (List.replicate 8 0).length = bytes.length)
  rwa [List.nil_append, List.append_nil] at hstore

/-- The loop over byte offsets reads the text from front to back. -/
theorem forFrom_eq_readPairs {i : ℕ} (h : byteLen s = i * 2) (v : Vector UInt8 8) :
    forFrom (fun index (keyId : Vector UInt8 8) => do
      let start := index * 2
      let stop := start + 2
      let byte ← okOr (u8FromStrRadix (← strSlice (s ++ t) start stop) 16)
        "key ID contains non-hexadecimal characters"
      pure (keyId.setIfInBounds index byte)) i n v =
      (do
        let bytes ← readPairs n t
        pure (storeFrom v i bytes) : Res (Vector UInt8 8)) := by
  induction n generalizing s t i v with
  | zero => rfl
  | succ n ih =>
    rw [forFrom, readPairs]
    dsimp only
    cases hsplit : splitAtByte 2 t with
    | none =>
      rw [(strSlice_append h).1 hsplit]
      rfl
    | some parts =>
      obtain ⟨front, rest⟩ := parts
      rw [(strSlice_append h).2 front rest hsplit]
      obtain ⟨rfl, hfront⟩ := splitAtByte_eq_some hsplit
      have hnext := fun byte => ih (s := s ++ front) (t := rest) (i := i + 1)
        (by rw [byteLen_append, h, hfront]; omega) (v.setIfInBounds i byte)
      dsimp only at hnext ⊢
      rw [pure_bind]
      cases hbyte : u8FromStrRadix front 16 with
      | none => rfl
      | some byte =>
        rw [← List.append_assoc]
        simp only [okOr_some, ok_bind, pure_bind, bind_assoc, hnext byte]
        rfl

theorem parseKeyIdHex_eq (encoded : String) : parseKeyIdHex encoded = (do
    rejectIf (byteLen (keyIdDigits encoded) ≠ 16) "key ID must contain 16 hexadecimal characters"
    let bytes ← readPairs 8 (keyIdDigits encoded)
    pure (storeFrom (.replicate 8 0) 0 bytes)) := by
  have hvalue : ((stripLeading ['0', 'x'] encoded.toList).or
      (stripLeading ['0', 'X'] encoded.toList)).getD encoded.toList = keyIdDigits encoded := by
    symm
    unfold keyIdDigits stripLeading
    split
    · next h => simp [h]
    · next h => simp [h]
    · next hx hX =>
      rcases h : encoded.toList with _ | ⟨a, _ | ⟨b, rest⟩⟩
      · rfl
      · simp
      · have hnx : ¬ ('0' = a ∧ 'x' = b) := by
          rintro ⟨rfl, rfl⟩
          exact hx rest h
        have hnX : ¬ ('0' = a ∧ 'X' = b) := by
          rintro ⟨rfl, rfl⟩
          exact hX rest h
        simp [hnx, hnX]
  rw [parseKeyIdHex, hvalue]
  dsimp only
  have hloop := forFrom_eq_readPairs (n := 8) (s := []) (t := keyIdDigits encoded) (i := 0) rfl
    (.replicate 8 0)
  rw [← hloop]
  rfl

def pairByte (p : Char × Char) : UInt8 :=
  UInt8.ofNat ((if p.1 = '+' then 0 else hexValue p.1) * 16 + hexValue p.2)

@[simp] theorem pairText_cons (p : Char × Char) (ps : List (Char × Char)) :
    pairText (p :: ps) = p.1 :: p.2 :: pairText ps := rfl

theorem pair_eq_pairText_append {p q : Char × Char} {ps : List (Char × Char)} :
    p.1 :: p.2 :: s = pairText (q :: ps) ++ t ↔ p = q ∧ s = pairText ps ++ t := by
  rw [pairText_cons, List.cons_append, List.cons_append, List.cons.injEq, List.cons.injEq,
    ← and_assoc, ← Prod.ext_iff]

theorem utf8Size_of_ascii {c : Char} (h : c.toNat < 128) : c.utf8Size = 1 :=
  Char.utf8Size_eq_one_iff.mpr (UInt32.le_iff_toNat_le.mpr (Nat.le_of_lt_succ h))

theorem AcceptedPair.utf8Size {p : Char × Char} (h : AcceptedPair p) :
    p.1.utf8Size = 1 ∧ p.2.utf8Size = 1 := by
  refine ⟨?_, utf8Size_of_ascii h.2.ascii⟩
  rcases h.1 with hhex | hplus
  · exact utf8Size_of_ascii hhex.ascii
  · rw [hplus]
    rfl

theorem u8FromStrRadix_pair {a c : Char} : u8FromStrRadix [a, c] 16 = some b ↔
    AcceptedPair (a, c) ∧ b = pairByte (a, c) := by
  by_cases hplus : a = '+'
  · subst hplus
    simp only [u8FromStrRadix, fromStrRadix, List.isEmpty_cons, readDigits, toDigit_sixteen]
    by_cases hc : IsHexDigit c
    · have hlt := hc.hexValue_lt
      have hbound : hexValue c < 256 := by omega
      simp [hc, hbound, AcceptedPair, pairByte, eq_comm]
    · simp [hc, AcceptedPair]
  · have hdigits : fromStrRadix 16 (2 ^ 8) [a, c] = readDigits 16 (2 ^ 8) 0 [a, c] := by
      unfold fromStrRadix
      split
      · next rest heq => exact absurd (List.cons.inj heq).1 hplus
      · rfl
    simp only [u8FromStrRadix, hdigits, readDigits, toDigit_sixteen]
    by_cases ha : IsHexDigit a
    · have hlt := ha.hexValue_lt
      have hbound : hexValue a < 256 := by omega
      by_cases hc : IsHexDigit c
      · have hltc := hc.hexValue_lt
        have hboundc : hexValue a * 16 + hexValue c < 256 := by omega
        simp [ha, hc, hbound, hboundc, hplus, AcceptedPair, pairByte, eq_comm]
      · simp [ha, hc, AcceptedPair]
    · simp [ha, hplus, AcceptedPair]

theorem accepted_of_u8FromStrRadix (hlen : byteLen s = 2) (h : u8FromStrRadix s 16 = some b) :
    ∃ p : Char × Char, s = [p.1, p.2] ∧ AcceptedPair p ∧ b = pairByte p := by
  match s with
  | [] => simp [byteLen] at hlen
  | [a] =>
    -- a single character of two bytes is no digit
    have hsize : a.utf8Size = 2 := by simpa [byteLen] using hlen
    have hplus : a ≠ '+' := by
      rintro rfl
      exact absurd hsize (by decide)
    have hhex : ¬ IsHexDigit a := by
      intro ha
      rw [utf8Size_of_ascii ha.ascii] at hsize
      omega
    simp [u8FromStrRadix, fromStrRadix, readDigits, toDigit_sixteen, hplus, hhex] at h
  | [a, c] =>
    obtain ⟨haccept, hb⟩ := u8FromStrRadix_pair.mp h
    exact ⟨(a, c), rfl, haccept, hb⟩
  | a :: c :: d :: s =>
    have ha := Char.utf8Size_pos a
    have hc := Char.utf8Size_pos c
    have hd := Char.utf8Size_pos d
    simp only [byteLen_cons] at hlen
    omega

theorem AcceptedPair.splitAtByte_two {p : Char × Char} (h : AcceptedPair p) :
    splitAtByte 2 (p.1 :: p.2 :: s) = some ([p.1, p.2], s) := by
  have hlen : byteLen [p.1, p.2] = 2 := by simp [byteLen, h.utf8Size]
  exact hlen ▸ splitAtByte_append (s := [p.1, p.2])

theorem readPairs_accepted {p : Char × Char} (h : AcceptedPair p) :
    readPairs (n + 1) (p.1 :: p.2 :: s) = (do
      let bytes ← readPairs n s
      pure (pairByte p :: bytes)) := by
  rw [readPairs, h.splitAtByte_two]
  dsimp only
  rw [u8FromStrRadix_pair.mpr ⟨h, rfl⟩]
  rfl

theorem readPairs_other (h : ∀ p rest, s = p.1 :: p.2 :: rest → ¬ AcceptedPair p) :
    readPairs (n + 1) s =
      if splitAtByte 2 s = none then fault .slice
      else exit "key ID contains non-hexadecimal characters" := by
  rw [readPairs]
  cases hsplit : splitAtByte 2 s with
  | none => rfl
  | some parts =>
    obtain ⟨front, rest⟩ := parts
    obtain ⟨rfl, hlen⟩ := splitAtByte_eq_some hsplit
    cases hbyte : u8FromStrRadix front 16 with
    | none =>
      dsimp only
      rw [hbyte, if_neg (by simp)]
      rfl
    | some byte =>
      obtain ⟨p, rfl, haccept, -⟩ := accepted_of_u8FromStrRadix hlen hbyte
      exact absurd haccept (h p rest rfl)

theorem readPairs_eq_ok_iff {bytes : List UInt8} : readPairs n s = .ok bytes ↔ ∃ ps rest,
    s = pairText ps ++ rest ∧ ps.length = n ∧ (∀ p ∈ ps, AcceptedPair p) ∧
      bytes = ps.map pairByte := by
  induction n generalizing s bytes with
  | zero =>
    simp only [readPairs, pure_eq_ok_iff, List.length_eq_zero_iff]
    constructor
    · rintro rfl
      exact ⟨[], s, rfl, rfl, by simp, rfl⟩
    · rintro ⟨_, _, -, rfl, -, rfl⟩
      rfl
  | succ n ih =>
    by_cases h : ∃ p : Char × Char, ∃ rest, s = p.1 :: p.2 :: rest ∧ AcceptedPair p
    · obtain ⟨p, rest, rfl, haccept⟩ := h
      simp only [readPairs_accepted haccept, bind_eq_ok_iff, ih, pure_eq_ok_iff]
      constructor
      · rintro ⟨_, ⟨ps, rest', rfl, rfl, hps, rfl⟩, rfl⟩
        exact ⟨p :: ps, rest', rfl, rfl, by simpa [haccept] using hps, rfl⟩
      · rintro ⟨_ | ⟨q, ps⟩, rest', hs, hlen, hps, rfl⟩
        · cases hlen
        · obtain ⟨rfl, rfl⟩ := pair_eq_pairText_append.mp hs
          exact ⟨_, ⟨ps, rest', rfl, Nat.succ.inj hlen,
            fun q hq => hps q (List.mem_cons_of_mem _ hq), rfl⟩, rfl⟩
    · have hnot : ∀ p rest, s = p.1 :: p.2 :: rest → ¬ AcceptedPair p :=
        fun p rest hs haccept => h ⟨p, rest, hs, haccept⟩
      rw [readPairs_other hnot]
      refine iff_of_false (by split_ifs <;> simp [fault, exit]) ?_
      rintro ⟨_ | ⟨p, ps⟩, rest, rfl, hlen, hps, -⟩
      · cases hlen
      · exact hnot p (pairText ps ++ rest) rfl (hps p List.mem_cons_self)

/-- The reading panics if a character behind some accepted pairs lies across a slice bound. -/
theorem not_faultless_readPairs_iff : ¬ Faultless (readPairs n s) ↔ ∃ ps rest,
    s = pairText ps ++ rest ∧ ps.length < n ∧ (∀ p ∈ ps, AcceptedPair p) ∧
      splitAtByte 2 rest = none := by
  induction n generalizing s with
  | zero => exact iff_of_false (fun h => h trivial) (by simp)
  | succ n ih =>
    by_cases h : ∃ p : Char × Char, ∃ rest, s = p.1 :: p.2 :: rest ∧ AcceptedPair p
    · obtain ⟨p, rest, rfl, haccept⟩ := h
      have hrest : Faultless (readPairs (n + 1) (p.1 :: p.2 :: rest)) ↔
          Faultless (readPairs n rest) := by
        rw [readPairs_accepted haccept, Faultless, wp_bind]
        rfl
      rw [hrest, ih]
      constructor
      · rintro ⟨ps, rest', rfl, hlen, hps, hsplit⟩
        exact ⟨p :: ps, rest', rfl, Nat.succ_lt_succ hlen, by simpa [haccept] using hps, hsplit⟩
      · rintro ⟨_ | ⟨q, ps⟩, rest', hs, hlen, hps, hsplit⟩
        · have hfront := haccept.splitAtByte_two (s := rest)
          rw [hs] at hfront
          exact absurd (hsplit.symm.trans hfront) (by simp)
        · obtain ⟨-, rfl⟩ := pair_eq_pairText_append.mp hs
          exact ⟨ps, rest', rfl, Nat.lt_of_succ_lt_succ hlen,
            fun q hq => hps q (List.mem_cons_of_mem _ hq), hsplit⟩
    · have hnot : ∀ p rest, s = p.1 :: p.2 :: rest → ¬ AcceptedPair p :=
        fun p rest hs haccept => h ⟨p, rest, hs, haccept⟩
      have hnone : ¬ Faultless (readPairs (n + 1) s) ↔ splitAtByte 2 s = none := by
        rw [readPairs_other hnot]
        split_ifs with hsplit
        · exact iff_of_true id hsplit
        · exact iff_of_false (fun h => h trivial) hsplit
      rw [hnone]
      constructor
      · exact fun hsplit => ⟨[], s, rfl, Nat.succ_pos n, by simp, hsplit⟩
      · rintro ⟨_ | ⟨p, ps⟩, rest, rfl, -, hps, hsplit⟩
        · exact hsplit
        · exact absurd (hps p List.mem_cons_self) (hnot p (pairText ps ++ rest) rfl)

theorem byteLen_pairText {ps : List (Char × Char)} (h : ∀ p ∈ ps, AcceptedPair p) :
    byteLen (pairText ps) = 2 * ps.length := by
  induction ps with
  | nil => rfl
  | cons p ps ih =>
    have hsize := (h p List.mem_cons_self).utf8Size
    have hrest := ih fun q hq => h q (List.mem_cons_of_mem _ hq)
    rw [pairText_cons, byteLen_cons, byteLen_cons, hsize.1, hsize.2, hrest, List.length_cons]
    omega

/-- A slice bound falls inside a character: behind the prefix there are sixteen bytes, and
behind some accepted pairs in front of them a character lies across the next bound. -/
def CutsCharacter (encoded : String) : Prop :=
  byteLen (keyIdDigits encoded) = 16 ∧ ∃ ps rest, keyIdDigits encoded = pairText ps ++ rest ∧
    (∀ p ∈ ps, AcceptedPair p) ∧ Straddles rest

/-- Among texts of sixteen bytes these are the ones on which the reading panics. -/
theorem cutsCharacter_iff {encoded : String} (hlen : byteLen (keyIdDigits encoded) = 16) :
    CutsCharacter encoded ↔ ¬ Faultless (readPairs 8 (keyIdDigits encoded)) := by
  rw [not_faultless_readPairs_iff, CutsCharacter, and_iff_right hlen]
  refine exists_congr fun ps => exists_congr fun rest => and_congr_right fun htext => ?_
  rw [htext, byteLen_append] at hlen
  constructor
  · rintro ⟨hps, hstraddles⟩
    rw [byteLen_pairText hps] at hlen
    have htwo := hstraddles.two_lt
    exact ⟨by omega, hps, (splitAtByte_two_eq_none (by omega)).mpr hstraddles⟩
  · rintro ⟨hlt, hps, hnone⟩
    rw [byteLen_pairText hps] at hlen
    exact ⟨hps, (splitAtByte_two_eq_none (by omega)).mp hnone⟩

theorem faultless_parseKeyIdHex {encoded : String} (h : ¬ CutsCharacter encoded) :
    Faultless (parseKeyIdHex encoded) := by
  rw [parseKeyIdHex_eq, Faultless, wp_bind, wp_rejectIf]
  refine ⟨fun _ => trivial, fun hlen => ?_⟩
  rw [cutsCharacter_iff (not_not.mp hlen), not_not] at h
  rwa [wp_bind]

theorem not_faultless_parseKeyIdHex {encoded : String} (h : CutsCharacter encoded) :
    ¬ Faultless (parseKeyIdHex encoded) := by
  rw [parseKeyIdHex_eq, Faultless, wp_bind, wp_rejectIf]
  rintro ⟨-, hread⟩
  have hpairs := hread (not_not.mpr h.1)
  rw [wp_bind] at hpairs
  exact (cutsCharacter_iff h.1).mp h hpairs

/-- Every text is answered with a key ID or an error unless a bound falls inside a character. -/
theorem faultless_parseKeyIdHex_iff (encoded : String) :
    Faultless (parseKeyIdHex encoded) ↔ ¬ CutsCharacter encoded :=
  ⟨fun h hcuts => not_faultless_parseKeyIdHex hcuts h, faultless_parseKeyIdHex⟩

theorem not_faultless_parseKeyIdHex_accent : ¬ Faultless (parseKeyIdHex "0é0000000000000") := by
  have hpanic : parseKeyIdHex "0é0000000000000" = .error (.fault .slice) := by decide
  rw [hpanic]
  exact id

end RampartBoot.Host
