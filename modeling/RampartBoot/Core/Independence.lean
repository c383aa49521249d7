import RampartBoot.Core.Authorization

/-! # Authorization and the rest of the store

The validation compares each record with the records before it, and the lookup takes the first
match. Neither depends on the order: a store is valid if every record is sound by itself and no
key ID occurs twice. So a request is decided by the record under its key ID alone.
-/

namespace RampartBoot.Core
open Foundation Format

variable {κ : Type} {store s t : TrustStore} {provider : CryptoProvider κ} {request : TrustRequest}
  {hash : List UInt8 → Option (Vector UInt8 32)} {k : Vector UInt8 8}

/-- The second store has the records of the first in some other order. -/
structure TrustStore.Permuted (s t : TrustStore) : Prop where
  null : s.records = none ↔ t.records = none
  count : s.count = t.count
  entries : s.entries.Perm t.entries

theorem TrustStore.Permuted.valid (h : s.Permuted t) (hv : s.Valid hash) : t.Valid hash := by
  rw [valid_iff] at hv ⊢
  obtain ⟨⟨p, hp⟩, hpos, hle, hsound, hnodup⟩ := hv
  refine ⟨?_, h.count ▸ hpos, h.count ▸ hle, fun r hr => ?_, ?_⟩
  · rw [← Option.ne_none_iff_exists']
    intro hnull
    rw [h.null.mpr hnull] at hp
    cases hp
  · exact hsound r (h.entries.mem_iff.mpr hr)
  · exact (h.entries.map TrustRecord.keyId).nodup_iff.mp hnodup

theorem TrustStore.Permuted.symm (h : s.Permuted t) : t.Permuted s :=
  ⟨h.null.symm, h.count.symm, h.entries.symm⟩

def TrustResult.value (result : TrustResult) : Option TrustRecord :=
  result.record.bind fun p => p.obj[p.off]?

/-- Both stores hold the same record under the requested key ID, or neither holds one. -/
def TrustStore.SameKey (s t : TrustStore) (request : TrustRequest) : Prop :=
  ∀ k, request.requestedId = some k → ∀ r : TrustRecord, r.keyId = k →
    (r ∈ s.entries ↔ r ∈ t.entries)

theorem value_recordAt (hv : store.Valid hash) {i : ℕ} {r : TrustRecord} {out : TrustResult}
    (hr : store.entries[i]? = some r) (hout : out.record = store.recordAt i) :
    out.value = some r := by
  obtain ⟨p, hp⟩ := hv.array
  obtain ⟨hpts, -⟩ := TrustStore.points_entries hp hv.count_le
  obtain ⟨hi, -⟩ := List.getElem?_eq_some_iff.mp hr
  rw [TrustResult.value, hout, TrustStore.recordAt, hp]
  exact (hpts.getElem? hi).trans hr

theorem Decided.of_mem {prior out : TrustResult} {st : Status} (hv : store.Valid hash)
    (hw : request.WellFormed k) (hd : Decided store hash request prior .ok st out)
    {r : TrustRecord} (hr : r ∈ store.entries) (hid : r.keyId = k) :
    st = keyDecision request r ∧ (st = .ok → out.value = some r) := by
  obtain ⟨i, hi⟩ := List.getElem?_of_mem hr
  obtain ⟨-, hst, hout⟩ := hd.known k hw rfl i r hi hid
  exact ⟨hst, fun hok => value_recordAt hv hi (hout hok)⟩

theorem decided_agree {prior prior' out out' : TrustResult} {st st' : Status}
    (hs : s.Valid hash) (ht : t.Valid hash) (hds : Decided s hash request prior .ok st out)
    (hdt : Decided t hash request prior' .ok st' out') (hsame : s.SameKey t request) :
    st = st' ∧ (st = .ok → ∃ r, out.value = some r ∧ out'.value = some r) := by
  by_cases hw : ∃ k, request.WellFormed k
  · obtain ⟨k, hw⟩ := hw
    by_cases hmem : ∃ r ∈ s.entries, r.keyId = k
    · obtain ⟨r, hr, hid⟩ := hmem
      have hr' := (hsame k hw.keyId r hid).mp hr
      obtain ⟨hst, hout⟩ := hds.of_mem hs hw hr hid
      obtain ⟨hst', hout'⟩ := hdt.of_mem ht hw hr' hid
      have heq : st = st' := hst.trans hst'.symm
      exact ⟨heq, fun hok => ⟨r, hout hok, hout' (heq ▸ hok)⟩⟩
    · have hnone : ∀ r ∈ s.entries, r.keyId ≠ k := fun r hr hid => hmem ⟨r, hr, hid⟩
      have hnone' : ∀ r ∈ t.entries, r.keyId ≠ k := fun r hr hid =>
        hnone r ((hsame k hw.keyId r hid).mpr hr) hid
      obtain rfl := hds.unknown k hw rfl hnone
      obtain rfl := hdt.unknown k hw rfl hnone'
      exact ⟨rfl, fun hok => absurd hok (by decide)⟩
  · have hbad : ∀ k, ¬ request.WellFormed k := fun k h => hw ⟨k, h⟩
    obtain rfl := hds.malformed hbad
    obtain rfl := hdt.malformed hbad
    exact ⟨rfl, fun hok => absurd hok (by decide)⟩

/-- Validation of the store answers `v`, and then the request `st`, with `out` in the result. -/
def Answers (provider : CryptoProvider κ) (store : TrustStore) (request : TrustRequest) (ctx : κ)
    (prior : TrustResult) (v st : Status) (out : TrustResult) : Prop :=
  ∃ ctx₁ ctx₂,
    call (rampartTrustStoreValidate (some store) (some provider)) ctx = .ok (v, ctx₁) ∧
    call (rampartTrustAuthorize (some store) (some provider) (some request)) (ctx, some prior) =
      .ok (st, ctx₂, some out)

/-- Requests on two stores under one provider. A permutation of the records changes neither an
authorization nor, if one store validates, any other status. Between two stores that validate
only the record under the requested key ID makes a difference. -/
theorem rampartTrustAuthorize_independent (provider : CryptoProvider κ)
    (hash : List UInt8 → Option (Vector UInt8 32)) (hc : provider.Computes hash)
    (request : TrustRequest) (s t : TrustStore) (ctx ctx' : κ) (prior prior' : TrustResult) :
    ∃ v st out v' st' out', Answers provider s request ctx prior v st out ∧
      Answers provider t request ctx' prior' v' st' out' ∧
      (s.Permuted t →
        (∀ r, st = .ok ∧ out.value = some r ↔ st' = .ok ∧ out'.value = some r) ∧
        (v = .ok ∨ v' = .ok → st = st')) ∧
      (v = .ok → v' = .ok → s.SameKey t request →
        st = st' ∧ (st = .ok → ∃ r, out.value = some r ∧ out'.value = some r)) := by
  obtain ⟨v, ctx₁, hcall, hvalid⟩ := call_validate s hc ctx
  obtain ⟨st, ctx₂, out, hauth, hd⟩ := call_authorize hc request hcall prior
  obtain ⟨v', ctx₁', hcall', hvalid'⟩ := call_validate t hc ctx'
  obtain ⟨st', ctx₂', out', hauth', hd'⟩ := call_authorize hc request hcall' prior'
  have hagree : v = .ok → v' = .ok → s.SameKey t request →
      st = st' ∧ (st = .ok → ∃ r, out.value = some r ∧ out'.value = some r) := by
    rintro rfl rfl
    exact decided_agree (hvalid.mp rfl) (hvalid'.mp rfl) hd hd'
  refine ⟨v, st, out, v', st', out', ⟨_, _, hcall, hauth⟩, ⟨_, _, hcall', hauth'⟩, ?_, hagree⟩
  intro hperm
  have hboth : v = .ok ↔ v' = .ok := by
    rw [hvalid, hvalid']
    exact ⟨hperm.valid, hperm.symm.valid⟩
  have hsame : s.SameKey t request := fun _ _ r _ => hperm.entries.mem_iff
  by_cases hv : v = .ok
  · obtain ⟨hst, hout⟩ := hagree hv (hboth.mp hv) hsame
    refine ⟨fun r => ?_, fun _ => hst⟩
    rw [← hst]
    refine and_congr_right fun hok => ?_
    obtain ⟨r', hr', hr''⟩ := hout hok
    rw [hr', hr'']
  · have hne : st ≠ .ok := by
      intro hok
      obtain ⟨k, i, r, d, -, hvok, -⟩ := hd.authorized hok
      exact hv hvok
    have hne' : st' ≠ .ok := by
      intro hok
      obtain ⟨k, i, r, d, -, hvok, -⟩ := hd'.authorized hok
      exact hv (hboth.mpr hvok)
    refine ⟨fun r => ?_, fun h => absurd (h.elim id hboth.mpr) hv⟩
    exact iff_of_false (fun h => hne h.1) (fun h => hne' h.1)

theorem Answers.unique {request : TrustRequest} {ctx : κ} {prior out out' : TrustResult}
    {v st v' st' : Status} (h : Answers provider store request ctx prior v st out)
    (h' : Answers provider store request ctx prior v' st' out') :
    v = v' ∧ st = st' ∧ out = out' := by
  obtain ⟨_, _, hvalidate, hauthorize⟩ := h
  obtain ⟨_, _, hvalidate', hauthorize'⟩ := h'
  rw [hvalidate] at hvalidate'
  rw [hauthorize] at hauthorize'
  cases hvalidate'
  cases hauthorize'
  exact ⟨rfl, rfl, rfl⟩

theorem Answers.valid_iff {request : TrustRequest} {ctx : κ} {prior out : TrustResult}
    {v st : Status} (h : Answers provider store request ctx prior v st out)
    (hc : provider.Computes hash) : v = .ok ↔ store.Valid hash := by
  obtain ⟨_, _, hvalidate, -⟩ := h
  obtain ⟨_, _, hcall, hvalid⟩ := call_validate store hc ctx
  rw [hvalidate] at hcall
  cases hcall
  exact hvalid

theorem exists_answers_golden :
    ∃ out, Answers (hashProvider goldenHash) goldenStore goldenRequest () ⟨none⟩ .ok .ok out ∧
      out.value = some goldenRecord := by
  obtain ⟨v, ctx₁, hcall, hvalid⟩ := call_validate goldenStore (hashProvider_computes goldenHash) ()
  obtain rfl := hvalid.mpr goldenStore_valid
  obtain ⟨st, ctx₂, out, hauth, hd⟩ :=
    call_authorize (hashProvider_computes goldenHash) goldenRequest hcall ⟨none⟩
  obtain ⟨hst, hout⟩ := hd.of_mem goldenStore_valid goldenRequest_wellFormed (r := goldenRecord)
    (.head _) rfl
  obtain rfl : st = .ok := hst.trans keyDecision_golden
  exact ⟨out, ⟨ctx₁, ctx₂, hcall, hauth⟩, hout rfl⟩

/-- The golden store at another place and in the other order, behind a record that it does not
count. -/
def goldenStoreMoved : TrustStore where
  records := some ⟨[⟨0, 0, 0, 0, Vector.replicate 8 0, Vector.replicate 65 0⟩, otherRecord 2,
    goldenRecord], 1⟩
  count := 2
  complete := by
    intro p hp _
    cases hp
    decide

def goldenStoreRestored : TrustStore where
  records := some ⟨[goldenRecord, otherRecord 1], 0⟩
  count := 2
  complete := by
    intro p hp _
    cases hp
    decide

theorem goldenStore_permuted : goldenStore.Permuted goldenStoreMoved where
  null := by simp [goldenStore, goldenStoreMoved]
  count := rfl
  entries := .swap ..

theorem goldenStoreRestored_valid : goldenStoreRestored.Valid goldenHash :=
  valid_pair rfl rfl goldenRecord_sound (otherRecord_sound (.inl rfl))
    (goldenRecord_keyId_ne 1)

theorem goldenStore_sameKey : goldenStore.SameKey goldenStoreRestored goldenRequest := by
  intro k hk r hid
  obtain rfl := Option.some.inj (goldenRequest_wellFormed.keyId.symm.trans hk)
  have hother : ∀ status, r ≠ otherRecord status := by
    rintro status rfl
    exact goldenRecord_keyId_ne status hid.symm
  change r ∈ [goldenRecord, otherRecord 2] ↔ r ∈ [goldenRecord, otherRecord 1]
  simp only [List.mem_pair, hother, or_false]

/-- All three stores validate and authorize the request by the same record. -/
theorem rampartTrustAuthorize_independent_golden : ∃ out out' out'',
    Answers (hashProvider goldenHash) goldenStore goldenRequest () ⟨none⟩ .ok .ok out ∧
    Answers (hashProvider goldenHash) goldenStoreMoved goldenRequest () ⟨none⟩ .ok .ok out' ∧
    Answers (hashProvider goldenHash) goldenStoreRestored goldenRequest () ⟨none⟩ .ok .ok out'' ∧
    out.value = some goldenRecord ∧ out'.value = some goldenRecord ∧
      out''.value = some goldenRecord := by
  have hc := hashProvider_computes goldenHash
  obtain ⟨out, hgolden, hvalue⟩ := exists_answers_golden
  obtain ⟨_, _, _, v', st', out', h, h', hperm, -⟩ := rampartTrustAuthorize_independent
    (hashProvider goldenHash) goldenHash hc goldenRequest goldenStore goldenStoreMoved () () ⟨none⟩
    ⟨none⟩
  obtain ⟨rfl, rfl, rfl⟩ := hgolden.unique h
  obtain ⟨hresult, -⟩ := hperm goldenStore_permuted
  obtain ⟨rfl, hvalue'⟩ := (hresult goldenRecord).mp ⟨rfl, hvalue⟩
  obtain rfl := (h'.valid_iff hc).mpr (goldenStore_permuted.valid goldenStore_valid)
  obtain ⟨_, _, _, v'', st'', out'', h, h'', -, hother⟩ := rampartTrustAuthorize_independent
    (hashProvider goldenHash) goldenHash hc goldenRequest goldenStore goldenStoreRestored () ()
    ⟨none⟩ ⟨none⟩
  obtain ⟨rfl, rfl, rfl⟩ := hgolden.unique h
  obtain rfl := (h''.valid_iff hc).mpr goldenStoreRestored_valid
  obtain ⟨rfl, hsome⟩ := hother rfl rfl goldenStore_sameKey
  obtain ⟨r, hr, hr'⟩ := hsome rfl
  exact ⟨out, out', out'', hgolden, h', h'', hvalue, hvalue', hr'.trans (hr.symm.trans hvalue)⟩

end RampartBoot.Core
