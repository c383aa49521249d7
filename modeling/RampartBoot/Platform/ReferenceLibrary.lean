import RampartBoot.Platform.Libcrypto

/-! # A library that does what is documented

For every group with a decidable signature equation there is a library that behaves as documented
and never fails for a reason of its own. Objects are numbered in the order of their creation.
-/

namespace RampartBoot.Platform
open Foundation RampartBoot.Core

def errorRoom : ℕ := 15

structure ReferenceState (P : Type) where
  objects : List (Option (Object P))
  errors : List (Marked UInt64)
  raised : ℕ
  bounded : errors.length ≤ errorRoom

namespace ReferenceState

variable {P : Type}

def at? (s : ReferenceState P) (a : Option Handle) : Option (Object P) :=
  a.bind fun a => (s.objects[a]?).join

def view (s : ReferenceState P) : LibraryView P := ⟨fun a => s.at? (some a), s.errors, s.raised⟩

def create (s : ReferenceState P) (o : Object P) : Handle × ReferenceState P :=
  (s.objects.length, { s with objects := s.objects ++ [some o] })

def put (s : ReferenceState P) (a : Option Handle) (o : Option (Object P)) : ReferenceState P :=
  if (s.at? a).isNone then s
  else { s with objects := s.objects.set (a.getD 0) o }

def fail (s : ReferenceState P) (error : UInt64) : ReferenceState P where
  objects := s.objects
  errors := raise errorRoom [error] s.errors
  raised := s.raised + 1
  bounded := length_raise_le

variable {s : ReferenceState P} {o o' : Object P} {a : Handle}

theorem at?_eq (h : s.view.heap a = some o) : s.at? (some a) = some o := h

theorem view_create (s : ReferenceState P) (o : Object P) :
    s.view.heap (s.create o).1 = none ∧ (s.create o).2.view =
      ⟨Function.update s.view.heap (s.create o).1 (some o), s.errors, s.raised⟩ := by
  constructor
  · change (s.objects[s.objects.length]?).join = none
    rw [List.getElem?_eq_none (Nat.le_refl _)]
    rfl
  · refine congrArg (LibraryView.mk · s.errors s.raised) (funext fun b => ?_)
    change ((s.objects ++ [some o])[b]?).join =
      Function.update s.view.heap s.objects.length (some o) b
    by_cases hb : b = s.objects.length
    · subst hb
      rw [List.getElem?_concat_length, Function.update_self]
      rfl
    · rw [Function.update_of_ne hb]
      change _ = (s.objects[b]?).join
      rcases Nat.lt_or_gt_of_ne hb with hlt | hgt
      · rw [List.getElem?_append_left hlt]
      · rw [List.getElem?_eq_none (by rw [List.length_append, List.length_singleton]; omega),
          List.getElem?_eq_none hgt.le]

theorem view_put (h : s.view.heap a = some o) (o' : Option (Object P)) :
    (s.put (some a) o').view = ⟨Function.update s.view.heap a o', s.errors, s.raised⟩ := by
  have hlive : ¬ (s.at? (some a)).isNone := by rw [at?_eq h]; simp
  have hlt : a < s.objects.length := by
    by_contra hge
    have hout : (s.objects[a]?).join = some o := h
    rw [List.getElem?_eq_none (Nat.le_of_not_lt hge)] at hout
    cases hout
  rw [put, if_neg hlive]
  refine congrArg (LibraryView.mk · s.errors s.raised) (funext fun b => ?_)
  change ((s.objects.set a o')[b]?).join = _
  by_cases hb : b = a
  · subst hb
    rw [List.getElem?_set_self hlt, Function.update_self]
    rfl
  · rw [Function.update_of_ne hb, List.getElem?_set_ne (Ne.symm hb)]
    rfl

theorem view_release (s : ReferenceState P) (a : Handle) :
    (s.put (some a) none).view = ⟨Function.update s.view.heap a none, s.errors, s.raised⟩ := by
  rcases h : s.view.heap a with - | o
  · have hdead : (s.at? (some a)).isNone := Option.isNone_iff_eq_none.mpr h
    rw [put, if_pos hdead, ← h, Function.update_eq_self]
    rfl
  · exact view_put h none

theorem put_errors (s : ReferenceState P) (a : Option Handle) (o : Option (Object P)) :
    (s.put a o).errors = s.errors ∧ (s.put a o).raised = s.raised := by
  unfold put
  split_ifs
  · exact ⟨rfl, rfl⟩
  · exact ⟨rfl, rfl⟩

theorem effect_of_view_eq {s t : ReferenceState P} {heap : Heap (Object P)}
    (h : t.view = ⟨heap, s.errors, s.raised⟩) : Effect errorRoom s.view t.view heap := by
  refine ⟨[], ?_⟩
  rw [raise, List.map_nil, List.nil_append, List.take_of_length_le (show s.view.errors.length ≤ _
    from s.bounded), h]
  rfl

theorem effect_refl (s : ReferenceState P) : Effect errorRoom s.view s.view s.view.heap :=
  effect_of_view_eq rfl

theorem effect_fail (s : ReferenceState P) (error : UInt64) :
    Effect errorRoom s.view (s.fail error).view s.view.heap := ⟨[error], rfl⟩

theorem effect_create (s : ReferenceState P) (o : Object P) :
    ∃ heap, Effect errorRoom s.view (s.create o).2.view heap ∧
      Allocates s.view.heap heap (some (s.create o).1) o :=
  ⟨_, effect_of_view_eq (view_create s o).2, (view_create s o).1, rfl⟩

theorem effect_put (h : s.view.heap a = some o) (o' : Option (Object P)) :
    Effect errorRoom s.view (s.put (some a) o').view (Function.update s.view.heap a o') :=
  effect_of_view_eq (view_put h o')

end ReferenceState

open ReferenceState

def pointIsNotOnCurve : UInt64 := 16 * 2 ^ 23 + 107

section Library
variable (E : Ecdsa) [∀ point m r s, Decidable (E.Verifies point m r s)]

/-- The objects that a function expects, or failure. -/
def referenceLibrary : Libcrypto (ReferenceState E.Point) where
  errLibEc := 16
  ecRPointIsNotOnCurve := 107
  ecRInvalidEncoding := 102
  ecRCoordinatesOutOfRange := 146
  errGetLib error := error.toNat / 2 ^ 23 % 2 ^ 8
  errGetReason error := error.toNat % 2 ^ 23
  errSetMark s := (if s.errors = [] then 0 else 1,
    ⟨s.objects, setMark s.errors, s.raised, (length_setMark s.errors).trans_le s.bounded⟩)
  errPopToMark s := (if popToMark s.errors = [] then 0 else 1,
    ⟨s.objects, popToMark s.errors, s.raised, (length_popToMark_le s.errors).trans s.bounded⟩)
  errClearError s := ((), ⟨s.objects, [], s.raised, Nat.zero_le _⟩)
  errPeekLastError s := ((s.errors.head?.map Marked.error).getD 0, s)
  evpQDigest _ _ message len digest s :=
    match messageBytes message len with
    | some m => ((1, E.sha256 m, 32), s)
    | none => ((0, digest, 0), s)
  evpPkeyCtxNewFromName _ _ s := (some (s.create .keyContext).1, (s.create .keyContext).2)
  evpPkeyFromdataInit _ s := (1, s)
  evpPkeyFromdata _ parameters s :=
    match E.decode parameters.pubKey with
    | some point => ((1, some (s.create (.key point)).1), (s.create (.key point)).2)
    | none => ((0, none), s.fail pointIsNotOnCurve)
  evpPkeyGetBnParam _ _ s :=
    ((1, some (s.create (.bignum E.order)).1), (s.create (.bignum E.order)).2)
  bnBin2bn p len s :=
    match entries p len with
    | some bytes =>
      (some (s.create (.bignum (beValue bytes))).1, (s.create (.bignum (beValue bytes))).2)
    | none => (none, s)
  bnIsZero a s :=
    match s.at? a with
    | some (.bignum n) => n == 0
    | _ => false
  bnCmp a b s :=
    match s.at? a, s.at? b with
    | some (.bignum m), some (.bignum n) => m - n
    | _, _ => 0
  ecdsaSigNew s := (some (s.create (.signature none)).1, (s.create (.signature none)).2)
  ecdsaSigSet0 a b d s :=
    match s.at? b, s.at? d with
    | some (.bignum m), some (.bignum n) =>
      (1, ((s.put a (some (.signature (some (m, n))))).put b none).put d none)
    | _, _ => (0, s)
  i2dEcdsaSig a cursor s :=
    match s.at? a with
    | some (.signature (some (m, n))) =>
      (((derSignature m n).length, if cursor then derSignature m n else []), s)
    | _ => ((0, []), s)
  evpMdCtxNew s := (some (s.create (.digestContext none)).1, (s.create (.digestContext none)).2)
  evpDigestVerifyInitEx a _ _ b s :=
    match s.at? b with
    | some (.key point) => (1, s.put a (some (.digestContext (some point))))
    | _ => (0, s)
  evpDigestVerify a signature message len s :=
    match s.at? a, messageBytes message len, readDerSignature signature with
    | some (.digestContext (some point)), some m, some (r, r') =>
      (if E.Verifies point m r r' then 1 else 0, s)
    | _, _, _ => (-1, s)
  evpMdCtxFree a s := ((), s.put a none)
  ecdsaSigFree a s := ((), s.put a none)
  bnFree a s := ((), s.put a none)
  evpPkeyFree a s := ((), s.put a none)
  evpPkeyCtxFree a s := ((), s.put a none)

variable {E}

theorem isEncodingError_pointIsNotOnCurve :
    (referenceLibrary E).IsEncodingError pointIsNotOnCurve := ⟨rfl, .inl rfl⟩

theorem referenceLibrary_lawful [Nonempty E.Point] :
    (referenceLibrary E).Lawful E ReferenceState.view errorRoom where
  bounded s := s.bounded
  errSetMark s := ⟨rfl, by simp [referenceLibrary, view]⟩
  errPopToMark s := ⟨rfl, by simp [referenceLibrary, view]⟩
  errClearError _ := rfl
  errPeekLastError _ := rfl
  evpQDigest context message len m digest s hm := by
    simp only [referenceLibrary, hm]
    exact ⟨effect_refl s, fun _ => trivial⟩
  evpPkeyCtxNewFromName _ s := effect_create s _
  evpPkeyFromdataInit _ s _ := effect_refl s
  evpPkeyFromdata a key s _ := by
    simp only [referenceLibrary]
    rcases hdecode : E.decode key with - | point
    · obtain ⟨point⟩ := ‹Nonempty E.Point›
      exact ⟨_, point, effect_fail s _, rfl, fun h => (by cases h)⟩
    · obtain ⟨heap, heffect, halloc⟩ := effect_create s (.key point)
      exact ⟨heap, point, heffect, halloc, fun _ => ⟨Option.some_ne_none _, rfl⟩⟩
  evpPkeyGetBnParam _ _ s _ := by
    obtain ⟨heap, heffect, halloc⟩ := effect_create s (.bignum E.order)
    exact ⟨heap, _, heffect, halloc, fun _ => ⟨Option.some_ne_none _, rfl⟩⟩
  bnBin2bn p len bytes s hbytes := by
    simp only [referenceLibrary, hbytes]
    exact effect_create s _
  bnIsZero a n s h := by
    simp [referenceLibrary, at?_eq h]
  bnCmp a b m n s hm hn := by
    simp [referenceLibrary, at?_eq hm, at?_eq hn]
  ecdsaSigNew s := effect_create s _
  ecdsaSigSet0 a b d m n s ha hb hd := by
    simp only [referenceLibrary, at?_eq hb, at?_eq hd]
    refine ⟨fun _ => effect_of_view_eq ?_, fun h => absurd rfl h⟩
    rw [view_release, view_release, view_put ha]
    simp only [put_errors]
  i2dEcdsaSig a m n cursor s h _ _ := by
    simp only [referenceLibrary, at?_eq h]
    refine ⟨effect_refl s, fun _ => trivial, ?_, fun _ hc => if_pos hc⟩
    split_ifs
    · exact Nat.le_refl _
    · exact Nat.zero_le _
  evpMdCtxNew s := effect_create s _
  evpDigestVerifyInitEx a context b point s ha hb := by
    simp only [referenceLibrary, at?_eq hb]
    exact ⟨_, effect_put ha _, fun _ => rfl⟩
  evpDigestVerify a point signature message len m s ha hm := by
    refine ⟨some point, ?_, ?_⟩
    · rw [← ha, Function.update_eq_self]
      simp only [referenceLibrary, at?_eq ha, hm]
      rcases readDerSignature signature with - | ⟨r, r'⟩
      · exact effect_refl s
      · exact effect_refl s
    · rintro r r' hr hr' rfl
      simp only [referenceLibrary, at?_eq ha, hm, readDerSignature_derSignature hr hr']
      split_ifs with hverifies
      · exact ⟨fun _ => hverifies, fun h => absurd h (by decide)⟩
      · exact ⟨fun h => absurd h (by decide), fun _ => hverifies⟩
  free_null kind s := by cases kind <;> rfl
  free a o s h := by
    cases o <;> exact effect_put h none

theorem referenceLibrary_reliable (context : Option Handle) :
    (referenceLibrary E).Reliable E ReferenceState.view context where
  evpQDigest message len m digest s hm := by simp only [referenceLibrary, hm]
  evpPkeyCtxNewFromName s := by simp [referenceLibrary]
  evpPkeyFromdataInit a s _ := rfl
  evpPkeyFromdata a key s _ _ := by
    simp only [referenceLibrary]
    rcases E.decode key with - | point
    · exact .inr ⟨rfl, isEncodingError_pointIsNotOnCurve⟩
    · exact .inl rfl
  evpPkeyGetBnParam a point s _ := rfl
  bnBin2bn p len bytes s hbytes := by simp [referenceLibrary, hbytes]
  ecdsaSigNew s := by simp [referenceLibrary]
  ecdsaSigSet0 a b d m n s _ hb hd := by simp only [referenceLibrary, at?_eq hb, at?_eq hd]
  i2dEcdsaSig a scalars cursor s h := by
    simp only [referenceLibrary, at?_eq h]
    rw [derSignature_length]
    omega
  evpMdCtxNew s := by simp [referenceLibrary]
  evpDigestVerifyInitEx a b point s _ hb := by simp only [referenceLibrary, at?_eq hb]
  evpDigestVerify a point r r' message len m s ha hm _ hr _ hr' := by
    simp only [referenceLibrary, at?_eq ha, hm,
      readDerSignature_derSignature (hr.trans E.order_lt) (hr'.trans E.order_lt)]
    split_ifs
    · exact .inl rfl
    · exact .inr rfl

end Library

end RampartBoot.Platform
