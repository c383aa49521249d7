import RampartBoot.Foundation.Pointer
import RampartBoot.Foundation.LittleEndian

/-! # Status codes and bounded reads of the portable core -/

namespace RampartBoot.Core
open Foundation

/-- `rampart_status_t`. -/
inductive Status where
  | ok
  | invalidArgument
  | bounds
  | overflow
  | imageFormat
  | manifestFormat
  | signature
  | keyRevoked
  | securityEpoch
  | targetMismatch
  | slotInvalid
  | transactionCorrupt
  | healthFailed
  | noBootableImage
  | internal
  | unsupportedAlgorithm
  | cryptoProvider
  | trustStore
  | keyUnknown
  | keyExpired
  | keyRole
  | keyLifecycle
  deriving DecidableEq, Repr

/-- What the caller of a status function sees: the status and the state it leaves. -/
def call {σ : Type} (p : Prog σ Status Unit) (s : σ) : Except Fault (Status × σ) :=
  match p s with
  | .ok _ t => .ok (.ok, t)
  | .error (.ret e) t => .ok (e, t)
  | .error (.fault f) _ => .error f

/-- A call answers with a status, and the end of its body counts as OK. -/
theorem exists_call {σ : Type} {p : Prog σ Status Unit} {Q : Unit → σ → Prop}
    {R : Status → σ → Prop} {s : σ} (h : wps p Q R s) (hok : ∀ t, Q () t → R .ok t) :
    ∃ st t, call p s = .ok (st, t) ∧ R st t := by
  unfold wps at h
  unfold call
  rcases hp : p s with ⟨⟨⟩, t⟩ | ⟨st | k, t⟩ <;> rw [hp] at h
  · exact ⟨.ok, t, rfl, hok t h⟩
  · exact ⟨st, t, rfl, h⟩
  · exact h.elim

theorem call_eq_of_wps {σ : Type} {p : Prog σ Status Unit} {s t : σ} {st : Status}
    (h : wps p (fun _ t' => .ok = st ∧ t' = t) (fun st' t' => st' = st ∧ t' = t) s) :
    call p s = .ok (st, t) := by
  obtain ⟨_, _, hcall, rfl, rfl⟩ := exists_call h fun _ h => h
  exact hcall

/-- What a call answers that publishes the result of its body through the output pointer, and
leaves `prior` there if the body fails. -/
def published {τ : Type} (prior : τ) : Checked Status τ → Except Fault (Status × Option τ)
  | .ok v => .ok (.ok, some v)
  | .error (.ret e) => .ok (e, some prior)
  | .error (.fault f) => .error f

theorem call_publish {τ : Type} (x : Checked Status τ) (prior : τ) :
    call (liftM x >>= fun v => set (some v) : Prog (Option τ) Status Unit) (some prior) =
      published prior x := by
  rcases x with (e | f) | v <;> rfl

/-- Pointer to the first byte of a string literal, which ends in a zero byte. -/
def literal (s : List Char) : Option (Ptr UInt8) :=
  some ⟨ascii s ++ [0], 0⟩

section Binary
variable {ε : Type}

def compareLoop (left right : Option (Ptr UInt8)) (len : ℕ) : Checked ε Bool :=
  forallFrom (fun index => do
    let a ← load left index
    let b ← load right index
    pure (a == b)) 0 len

def compareBytes (left right : Option (Ptr UInt8)) (len : ℕ) : Checked ε Bool :=
  if left.isNone || right.isNone then pure false else compareLoop left right len

def rampartBinaryBytesEqual (left right : Option (Ptr UInt8)) (len : ℕ) : Checked ε Bool :=
  compareBytes left right len

/-- `rampart_binary_bytes_match`; the right operand is a string literal. -/
def rampartBinaryBytesMatch (left right : Option (Ptr UInt8)) (len : ℕ) : Checked ε Bool :=
  compareBytes left right len

def rampartBinaryAllZeroes (bytes : Option (Ptr UInt8)) (len : ℕ) : Checked ε Bool :=
  if bytes.isNone then pure false
  else forallFrom (fun index => do
    let a ← load bytes index
    pure (a == 0)) 0 len

/-- `rampart_binary_range_available`; `dest` is what `end` points to, `none` for `NULL`. -/
def rampartBinaryRangeAvailable (z : SizeT) (offset len totalLen : ℕ) (dest : Option ℕ) :
    Checked ε (Bool × Option ℕ) :=
  if offset > totalLen then pure (false, dest)
  else do
    let room ← sizeSub totalLen offset
    if len > room then pure (false, dest)
    else match dest with
      | none => pure (true, none)
      | some _ => do
        let last ← z.add offset len
        pure (true, some last)

end Binary

/-- `rampart_binary_checked_add_size`; every caller passes the address of a local. -/
def rampartBinaryCheckedAddSize (z : SizeT) (left right : ℕ) : Checked Status ℕ := do
  let room ← sizeSub z.max left
  rejectIf (right > room) .overflow
  z.add left right

/-- `rampart_binary_read_u16_le`; every caller passes the address of a local. -/
def rampartBinaryReadU16Le (z : SizeT) (bytes : Option (Ptr UInt8)) (len offset : ℕ) :
    Checked Status UInt16 := do
  rejectIf bytes.isNone .invalidArgument
  let available ← rampartBinaryRangeAvailable z offset 2 len none
  rejectIf (!available.1) .bounds
  let b0 ← load bytes offset
  let i1 ← z.add offset 1
  let b1 ← load bytes i1
  pure (b0.toUInt16 ||| (b1.toUInt16 <<< 8))

/-- `rampart_binary_read_u32_le`; every caller passes the address of a local. -/
def rampartBinaryReadU32Le (z : SizeT) (bytes : Option (Ptr UInt8)) (len offset : ℕ) :
    Checked Status UInt32 := do
  rejectIf bytes.isNone .invalidArgument
  let available ← rampartBinaryRangeAvailable z offset 4 len none
  rejectIf (!available.1) .bounds
  let b0 ← load bytes offset
  let i1 ← z.add offset 1
  let b1 ← load bytes i1
  let i2 ← z.add offset 2
  let b2 ← load bytes i2
  let i3 ← z.add offset 3
  let b3 ← load bytes i3
  pure (b0.toUInt32 ||| (b1.toUInt32 <<< 8) ||| (b2.toUInt32 <<< 16) ||| (b3.toUInt32 <<< 24))

section Specs
variable {ε : Type} {p q : Ptr UInt8} {s t : List UInt8} {z : SizeT}

theorem compareLoop_eq (hp : p.Points s) (hq : q.Points t) {n : ℕ} (hs : n ≤ s.length)
    (ht : n ≤ t.length) :
    (compareLoop (some p) (some q) n : Checked ε Bool) =
      .ok (decide (slice s 0 n = slice t 0 n)) := by
  have hloop := forallFrom_eq_ok (ε := ε) (fun i => s[i]? = t[i]?) 0 n (f := fun index => do
    let a ← load (some p) index
    let b ← load (some q) index
    pure (a == b)) (by
      intro i _ hi
      rw [bind_of_eq_ok (hp.load_eq (by omega)), bind_of_eq_ok (hq.load_eq (by omega))]
      have hsi : i < s.length := by omega
      have hti : i < t.length := by omega
      simp [List.getElem?_eq_getElem hsi, List.getElem?_eq_getElem hti, pure, Except.pure,
        beq_eq_decide])
  rw [compareLoop, hloop]
  congr 1
  rw [decide_eq_decide, slice_eq_slice_iff (by omega) (by omega)]

theorem compareBytes_eq (hp : p.Points s) (hq : q.Points t) {n : ℕ} (hs : n ≤ s.length)
    (ht : n ≤ t.length) :
    (compareBytes (some p) (some q) n : Checked ε Bool) =
      .ok (decide (slice s 0 n = slice t 0 n)) := by
  simp only [compareBytes, Option.isNone_some, Bool.or_self, Bool.false_eq_true, if_false,
    compareLoop_eq hp hq hs ht]

theorem bytesMatch_eq (hp : p.Points s) {c : List Char} {n : ℕ} (hs : n ≤ s.length)
    (hn : c.length = n) :
    (rampartBinaryBytesMatch (some p) (literal c) n : Checked ε Bool) =
      .ok (decide (slice s 0 n = ascii c)) := by
  have hq := Ptr.points_whole (ascii c ++ [0])
  have h := compareBytes_eq (ε := ε) hp hq (n := n) hs (by simp [ascii]; omega)
  have hlit : slice (ascii c ++ [0]) 0 n = ascii c := by
    rw [slice_zero, ← hn, show c.length = (ascii c).length by simp [ascii]]
    exact List.take_left
  rw [hlit] at h
  exact h

theorem bytesEqual_keyId_eq (hp : p.Points s) {i : ℕ} (h : i + 8 ≤ s.length) {k : Vector UInt8 8}
    (hq : q.Points k.toList) :
    (rampartBinaryBytesEqual (some ⟨p.obj, p.off + i⟩) (some q) 8 : Checked ε Bool) =
      .ok (decide (vectorAt s i 8 = k)) := by
  have hlen := slice_length_of_le h
  have hk : k.toList.length = 8 := k.length_toList
  have hcmp := compareBytes_eq (ε := ε) (hp.sub h) hq (n := 8) (by omega) (by omega)
  have hleft : slice (slice s i 8) 0 8 = slice s i 8 := slice_slice (by omega)
  have hright : slice k.toList 0 8 = k.toList := List.take_of_length_le hk.le
  rw [rampartBinaryBytesEqual, hcmp]
  congr 1
  rw [decide_eq_decide, hleft, hright, slice_eq_toList h]

theorem load_vectorAt (hp : p.Points s) {i n k : ℕ} (h : i + n ≤ s.length) (hk : k < n) :
    (load (some ⟨p.obj, p.off + i⟩) k : Checked ε UInt8) = .ok (vectorAt s i n)[k] := by
  have hlen := slice_length_of_le h
  rw [(hp.sub h).load_eq (by omega)]
  simp only [← vectorAt_toList h, Vector.getElem_toList]

theorem allZeroes_eq (hp : p.Points s) {i n : ℕ} (h : i + n ≤ s.length) :
    (rampartBinaryAllZeroes (some ⟨p.obj, p.off + i⟩) n : Checked ε Bool) =
      .ok (decide (slice s i n = zeros n)) := by
  have hsub := hp.sub h
  have hlen := slice_length_of_le h
  have hloop := forallFrom_eq_ok (ε := ε) (fun k => (slice s i n)[k]? = some 0) 0 n
    (f := fun index => do
      let a ← load (some ⟨p.obj, p.off + i⟩) index
      pure (a == 0)) (by
        intro k _ hk
        have hks : k < (slice s i n).length := by omega
        rw [bind_of_eq_ok (hsub.load_eq hks)]
        simp [List.getElem?_eq_getElem hks, pure, Except.pure, beq_eq_decide])
  simp only [rampartBinaryAllZeroes, Option.isNone_some, Bool.false_eq_true, if_false, hloop]
  congr 1
  rw [decide_eq_decide, zeros, List.eq_replicate_iff]
  simp only [hlen, true_and, Nat.zero_add]
  constructor
  · intro hall b hb
    obtain ⟨k, hk, rfl⟩ := List.mem_iff_getElem.mp hb
    simpa [List.getElem?_eq_getElem hk] using hall k (by omega)
  · intro hall k hk
    have hks : k < (slice s i n).length := by omega
    rw [List.getElem?_eq_getElem hks, hall _ (List.getElem_mem hks)]

theorem rangeAvailable_eq (offset len totalLen : ℕ) :
    (rampartBinaryRangeAvailable z offset len totalLen none : Checked ε (Bool × Option ℕ)) =
      .ok (decide (offset + len ≤ totalLen), none) := by
  unfold rampartBinaryRangeAvailable
  split_ifs with h
  · simp [pure, Except.pure, show ¬ offset + len ≤ totalLen by omega]
  · rw [bind_of_eq_ok (sizeSub_eq (by omega))]
    split_ifs with h'
    · simp [pure, Except.pure, show ¬ offset + len ≤ totalLen by omega]
    · simp [pure, Except.pure, show offset + len ≤ totalLen by omega]

@[simp] theorem wp_checkedAddSize {left right : ℕ} (h : left ≤ z.max) {Q : ℕ → Prop}
    {E : Status → Prop} : wp (rampartBinaryCheckedAddSize z left right) Q E ↔
      (z.max < left + right → E .overflow) ∧ (left + right ≤ z.max → Q (left + right)) := by
  rw [rampartBinaryCheckedAddSize, bind_of_eq_ok (sizeSub_eq h), wp_bind, wp_rejectIf]
  by_cases hsum : left + right ≤ z.max
  · rw [SizeT.add_eq hsum, wp_ok]
    constructor
    · rintro ⟨-, hq⟩
      exact ⟨fun hlt => absurd hsum (by omega), fun _ => hq (by omega)⟩
    · rintro ⟨-, hq⟩
      exact ⟨fun hgt => absurd hsum (by omega), fun _ => hq hsum⟩
  · constructor
    · rintro ⟨he, -⟩
      exact ⟨fun _ => he (by omega), fun hle => absurd hle hsum⟩
    · rintro ⟨he, -⟩
      exact ⟨fun _ => he (by omega), fun hle => absurd hle (by omega)⟩

theorem checkedAddSize_eq {left right : ℕ} (h : left + right ≤ z.max) :
    rampartBinaryCheckedAddSize z left right = .ok (left + right) := by
  rw [eq_ok_iff_wp, wp_checkedAddSize (by omega)]
  exact ⟨fun hlt => absurd h (by omega), fun _ => rfl⟩

theorem checkedAddSize_bind_eq_ok {β : Type} {left right : ℕ} (h : left ≤ z.max)
    {f : ℕ → Checked Status β} {c : β} :
    (rampartBinaryCheckedAddSize z left right >>= f) = .ok c ↔
      left + right ≤ z.max ∧ f (left + right) = .ok c := by
  rw [eq_ok_iff_wp, wp_bind, wp_checkedAddSize h, ← eq_ok_iff_wp]
  constructor
  · rintro ⟨hover, hf⟩
    have hle : left + right ≤ z.max := Nat.le_of_not_lt hover
    exact ⟨hle, hf hle⟩
  · rintro ⟨hle, hf⟩
    exact ⟨fun hlt => absurd hle (by omega), fun _ => hf⟩

theorem readU16Le_eq (hp : p.Points s) (hz : s.length ≤ z.max) {offset : ℕ}
    (h : offset + 2 ≤ s.length) :
    rampartBinaryReadU16Le z (some p) s.length offset = .ok (u16At s offset) := by
  rw [eq_ok_iff_wp]
  simp only [rampartBinaryReadU16Le, Option.isNone_some, rangeAvailable_eq, h, wp_bind, wp_rejectIf,
    wp_ok, decide_true, Bool.not_true, Bool.false_eq_true, not_false_eq_true, forall_const,
    false_imp_iff, true_and]
  rw [hp.load_eq (by omega), wp_ok, SizeT.add_eq (by omega), wp_ok, hp.load_eq (by omega), wp_ok,
    wp_pure]
  exact u16At_eq_or (List.getElem?_eq_getElem _) (List.getElem?_eq_getElem _)

theorem readU32Le_eq (hp : p.Points s) (hz : s.length ≤ z.max) {offset : ℕ}
    (h : offset + 4 ≤ s.length) :
    rampartBinaryReadU32Le z (some p) s.length offset = .ok (u32At s offset) := by
  rw [eq_ok_iff_wp]
  simp only [rampartBinaryReadU32Le, Option.isNone_some, rangeAvailable_eq, h, wp_bind, wp_rejectIf,
    wp_ok, decide_true, Bool.not_true, Bool.false_eq_true, not_false_eq_true, forall_const,
    false_imp_iff, true_and]
  rw [hp.load_eq (by omega), wp_ok, SizeT.add_eq (by omega), wp_ok, hp.load_eq (by omega), wp_ok,
    SizeT.add_eq (by omega), wp_ok, hp.load_eq (by omega), wp_ok, SizeT.add_eq (by omega), wp_ok,
    hp.load_eq (by omega), wp_ok, wp_pure]
  exact u32At_eq_or (List.getElem?_eq_getElem _) (List.getElem?_eq_getElem _)
    (List.getElem?_eq_getElem _) (List.getElem?_eq_getElem _)

end Specs

end RampartBoot.Core
