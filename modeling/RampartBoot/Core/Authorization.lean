import RampartBoot.Core.TrustRules
import RampartBoot.Core.ManifestParse
import RampartBoot.Format.Image
import Mathlib.Data.List.Nodup

/-! # The authorization decision

The status of an authorization is the first of the documented rules that applies: a malformed
request, the store validation, an unknown key, and then the rules about the one record that
carries the requested key ID.
-/

namespace RampartBoot.Core
open Foundation Format

variable {κ : Type} {store : TrustStore} {provider : CryptoProvider κ} {request : TrustRequest}
  {hash : List UInt8 → Option (Vector UInt8 32)} {k : Vector UInt8 8}

def TrustRequest.requestedId (request : TrustRequest) : Option (Vector UInt8 8) :=
  if request.keyIdLen = 8 then request.keyId.map fun p => vectorAt p.obj p.off 8 else none

/-- A request that asks for the key ID `k` with known roles in a known lifecycle. -/
structure TrustRequest.WellFormed (request : TrustRequest) (k : Vector UInt8 8) : Prop where
  keyId : request.requestedId = some k
  requiredRole : 1 ≤ request.requiredRole ∧ request.requiredRole ≤ 6
  manifestRole : 1 ≤ request.manifestRole ∧ request.manifestRole ≤ 6
  lifecycle : request.lifecycle = 1 ∨ request.lifecycle = 2

/-- The documented rules 3 to 5 for the record that carries the requested key ID. -/
def keyDecision (request : TrustRequest) (record : TrustRecord) : Status :=
  if record.status = 2 then .keyRevoked
  else if record.status = 3 then .keyExpired
  else if request.lifecycle = 2 ∧ (record.status = 4 ∨ request.requiredRole = 6) then .keyLifecycle
  else if request.manifestRole ≠ request.requiredRole ∨
      record.roles &&& trustRole request.requiredRole = 0 then .keyRole
  else .ok

def TrustStore.recordAt (store : TrustStore) (i : ℕ) : Option (Ptr TrustRecord) :=
  store.records.map fun p => ⟨p.obj, p.off + i⟩

/-- The documented decision about a request, where `v` is the status of the store validation:
`st` is the status returned and `out` the result behind the call. -/
structure Decided (store : TrustStore) (hash : List UInt8 → Option (Vector UInt8 32))
    (request : TrustRequest) (prior : TrustResult) (v st : Status) (out : TrustResult) : Prop where
  malformed : (∀ k, ¬ request.WellFormed k) → st = .invalidArgument
  invalidStore : ∀ k, request.WellFormed k → v ≠ .ok → st = v
  unknown : ∀ k, request.WellFormed k → v = .ok → (∀ r ∈ store.entries, r.keyId ≠ k) →
    st = .keyUnknown
  known : ∀ k, request.WellFormed k → v = .ok → ∀ i r, store.entries[i]? = some r → r.keyId = k →
    (∀ j r', store.entries[j]? = some r' → r'.keyId = k → j = i) ∧ st = keyDecision request r ∧
      (st = .ok → out.record = store.recordAt i)
  authorized : st = .ok → ∃ k i r d, request.WellFormed k ∧ v = .ok ∧
    store.entries[i]? = some r ∧ r.keyId = k ∧ out.record = store.recordAt i ∧
    hash r.publicKey.toList = some d ∧ vectorAt d.toList 0 8 = k
  withdrawn : ∀ k, request.WellFormed k → ∀ r ∈ store.entries, r.keyId = k →
    r.status = 2 ∨ r.status = 3 → st ≠ .ok
  unchanged : st ≠ .ok → out = prior

theorem recordFault_eq {rs : List TrustRecord} {i : ℕ} {r : TrustRecord} {st : Status}
    (h : recordFault hash rs i r = some st) : st = .trustStore ∨ st = .cryptoProvider := by
  unfold recordFault at h
  rcases hd : hash r.publicKey.toList with - | d <;> simp only [hd] at h
  · split_ifs at h
    · exact .inl (Option.some.inj h).symm
    · exact .inr (Option.some.inj h).symm
  · split_ifs at h <;> exact .inl (Option.some.inj h).symm

theorem recordFault_eq_none_iff {rs : List TrustRecord} {i : ℕ} {r : TrustRecord} :
    recordFault hash rs i r = none ↔ validRecordShape r = true ∧
      (∃ d, hash r.publicKey.toList = some d ∧ r.keyId = vectorAt d.toList 0 8) ∧
      r.keyId ∉ (rs.take i).map TrustRecord.keyId := by
  unfold recordFault
  cases hshape : validRecordShape r
  · simp
  · rcases hash r.publicKey.toList with - | d
    · simp
    · by_cases hid : r.keyId = vectorAt d.toList 0 8 <;> simp [hid]

/-- The checks that a record passes by itself. -/
structure TrustRecord.Sound (r : TrustRecord) (hash : List UInt8 → Option (Vector UInt8 32)) :
    Prop where
  shape : validRecordShape r = true
  derived : ∃ d, hash r.publicKey.toList = some d ∧ r.keyId = vectorAt d.toList 0 8

/-- A scan that only looks back finds every repetition. -/
theorem nodup_map_iff_forall_take {α β : Type*} {l : List α} {f : α → β} :
    (l.map f).Nodup ↔ ∀ (i : ℕ) a, l[i]? = some a → f a ∉ (l.take i).map f := by
  rw [List.nodup_iff_getElem?_ne_getElem?]
  constructor
  · intro h i a ha hmem
    obtain ⟨b, hb, hab⟩ := List.mem_map.mp hmem
    obtain ⟨j, hj, rfl⟩ := List.mem_take_iff_getElem.mp hb
    obtain ⟨hi, rfl⟩ := List.getElem?_eq_some_iff.mp ha
    refine h j i (by omega) (by rwa [List.length_map]) ?_
    rw [List.getElem?_map, List.getElem?_map, List.getElem?_eq_getElem hi,
      List.getElem?_eq_getElem (by omega), Option.map_some, Option.map_some, hab]
  · intro h i j hij hj heq
    rw [List.length_map] at hj
    have hi : i < l.length := by omega
    rw [List.getElem?_map, List.getElem?_map, List.getElem?_eq_getElem hi,
      List.getElem?_eq_getElem hj, Option.map_some, Option.map_some] at heq
    refine h j l[j] (List.getElem?_eq_getElem hj) (List.mem_map.mpr ⟨l[i], ?_, ?_⟩)
    · exact List.mem_take_iff_getElem.mpr ⟨i, by omega, rfl⟩
    · exact Option.some.inj heq

theorem valid_iff : store.Valid hash ↔ (∃ p, store.records = some p) ∧ store.count ≠ 0 ∧
    store.count ≤ 16 ∧ (∀ r ∈ store.entries, r.Sound hash) ∧
    (store.entries.map TrustRecord.keyId).Nodup := by
  rw [nodup_map_iff_forall_take]
  constructor
  · intro hv
    refine ⟨hv.array, hv.count_pos, hv.count_le, fun r hr => ?_, fun i r hr => ?_⟩
    · obtain ⟨i, hi⟩ := List.getElem?_of_mem hr
      obtain ⟨hshape, hderived, -⟩ := recordFault_eq_none_iff.mp (hv.records i r hi)
      exact ⟨hshape, hderived⟩
    · exact (recordFault_eq_none_iff.mp (hv.records i r hr)).2.2
  · rintro ⟨harray, hpos, hle, hsound, hnodup⟩
    refine ⟨harray, hpos, hle, fun i r hr => recordFault_eq_none_iff.mpr ?_⟩
    have hr' := hsound r (List.mem_of_getElem? hr)
    exact ⟨hr'.shape, hr'.derived, hnodup i r hr⟩

namespace TrustStore.Valid

variable (hv : store.Valid hash)
include hv

theorem derived {i : ℕ} {r : TrustRecord} (hr : store.entries[i]? = some r) :
    ∃ d, hash r.publicKey.toList = some d ∧ vectorAt d.toList 0 8 = r.keyId := by
  obtain ⟨-, ⟨d, hd, hid⟩, -⟩ := recordFault_eq_none_iff.mp (hv.records i r hr)
  exact ⟨d, hd, hid.symm⟩

/-- The later of two records with one key ID would have been rejected as repeated. -/
theorem unique {i j : ℕ} {r r' : TrustRecord} (hr : store.entries[i]? = some r)
    (hr' : store.entries[j]? = some r') (hid : r.keyId = r'.keyId) : i = j := by
  have hlt : ∀ {a b : ℕ} {s u : TrustRecord}, store.entries[a]? = some s →
      store.entries[b]? = some u → s.keyId = u.keyId → ¬ a < b := by
    intro a b s u hs hu hsu hab
    obtain ⟨-, -, hnot⟩ := recordFault_eq_none_iff.mp (hv.records b u hu)
    obtain ⟨ha, rfl⟩ := List.getElem?_eq_some_iff.mp hs
    have hmem : store.entries[a] ∈ store.entries.take b :=
      List.mem_take_iff_getElem.mpr ⟨a, by omega, rfl⟩
    exact hnot (List.mem_map.mpr ⟨_, hmem, hsu⟩)
  exact Nat.le_antisymm (Nat.le_of_not_lt (hlt hr' hr hid.symm)) (Nat.le_of_not_lt (hlt hr hr' hid))

end TrustStore.Valid

namespace TrustStore.Fault

variable {st : Status} (h : store.Fault hash st)
include h

theorem ne_ok : st ≠ .ok := by
  rcases h with ⟨-, rfl⟩ | ⟨i, r, -, hfault, -⟩
  · decide
  · rcases recordFault_eq hfault with rfl | rfl <;> decide

theorem not_valid : ¬ store.Valid hash := by
  intro hv
  rcases h with ⟨hnull | hzero | hmany, -⟩ | ⟨i, r, hr, hfault, -⟩
  · obtain ⟨p, hp⟩ := hv.array
    rw [hnull] at hp
    cases hp
  · exact hv.count_pos hzero
  · exact absurd hv.count_le (by omega)
  · rw [hv.records i r hr] at hfault
    cases hfault

end TrustStore.Fault

theorem wellFormed_iff :
    (∃ k, request.WellFormed k) ↔ (request.keyId.isNone || request.keyIdLen != 8 ||
      !validRole request.requiredRole || !validRole request.manifestRole ||
      (request.lifecycle != 1 && request.lifecycle != 2)) = false := by
  simp only [validRole, Bool.or_eq_false_iff, Option.isNone_eq_false_iff, bne_eq_false_iff_eq,
    Bool.not_eq_false', validKeyRole_iff, Bool.and_eq_false_iff]
  constructor
  · rintro ⟨k, hk, hreq, hman, hlife⟩
    unfold TrustRequest.requestedId at hk
    split_ifs at hk with hlen
    obtain ⟨p, hp, -⟩ := Option.map_eq_some_iff.mp hk
    exact ⟨⟨⟨⟨by simp [hp], hlen⟩, hreq⟩, hman⟩, hlife⟩
  · rintro ⟨⟨⟨⟨hsome, hlen⟩, hreq⟩, hman⟩, hlife⟩
    obtain ⟨p, hp⟩ := Option.isSome_iff_exists.mp hsome
    refine ⟨vectorAt p.obj p.off 8, ⟨?_, hreq, hman, hlife⟩⟩
    rw [TrustRequest.requestedId, if_pos hlen, hp]
    rfl

/-- The lookup finds the first record with the requested key ID, if there is one. -/
theorem findRecord_cases {p : Ptr TrustRecord} (hp : store.records = some p)
    (hcount : store.count ≤ 16) (hw : request.WellFormed k) :
    (findRecord store request = .ok none ∧ ∀ r ∈ store.entries, r.keyId ≠ k) ∨
      ∃ i r, findRecord store request = .ok (some i) ∧ store.entries[i]? = some r ∧
        r.keyId = k := by
  obtain ⟨hpts, hlen⟩ := TrustStore.points_entries hp hcount
  have hk := hw.keyId
  unfold TrustRequest.requestedId at hk
  split_ifs at hk with h8
  obtain ⟨q, hq, hid⟩ := Option.map_eq_some_iff.mp hk
  have hroom := request.readable q hq h8
  have hqpts : q.Points (slice q.obj q.off 8) := by
    refine ⟨?_, ?_⟩ <;> rw [slice_length_of_le hroom]
    exact hroom
  have hqid : vectorAt (slice q.obj q.off 8) 0 8 = k := by
    rw [vectorAt_slice (by omega), Nat.add_zero, hid]
  have hfind := findFrom_eq_ok (ε := Status)
    (fun i => (store.entries[i]?).map TrustRecord.keyId = some k) 0 store.count
    (f := fun index => do
      let record ← load store.records index
      keyIdsEqual (arrayStart record.keyId) request.keyId) (by
      intro i _ hi
      have hil : i < store.entries.length := by omega
      rw [hp, bind_of_eq_ok (hpts.load_eq hil), hq,
        keyIdsEqual_eq _ hqpts (slice_length_of_le hroom).ge, hqid]
      simp [List.getElem?_eq_getElem hil])
  rw [findRecord, hfind]
  rcases hres : (List.range' 0 store.count).find?
    (fun i => decide ((store.entries[i]?).map TrustRecord.keyId = some k)) with - | i
  · refine .inl ⟨rfl, fun r hr hrk => ?_⟩
    obtain ⟨j, hj, rfl⟩ := List.mem_iff_getElem.mp hr
    have hnot := List.find?_eq_none.mp hres j (by simp; omega)
    simp [List.getElem?_eq_getElem hj, hrk] at hnot
  · have hi := List.find?_some hres
    obtain ⟨r, hr, hrk⟩ := Option.map_eq_some_iff.mp (of_decide_eq_true hi)
    exact .inr ⟨i, r, rfl, hr, hrk⟩

theorem wp_authorizeRecord (r : TrustRecord) :
    wp (authorizeRecord request r) (fun _ => keyDecision request r = .ok)
      (fun st => st = keyDecision request r ∧ st ≠ .ok) := by
  unfold authorizeRecord keyDecision
  simp only [wp_bind, wp_rejectIf]
  refine ⟨fun h₁ => by simp [h₁], fun h₁ => ⟨fun h₂ => by simp [h₂], fun h₂ => ?_⟩⟩
  refine ⟨fun h₃ => by simp [h₁, h₂, h₃], fun h₃ => ⟨fun h₄ => ?_, fun h₄ => ?_⟩⟩
  · rw [if_neg h₁, if_neg h₂, if_neg h₃, if_pos h₄]
    exact ⟨rfl, by decide⟩
  · rw [if_neg h₁, if_neg h₂, if_neg h₃, if_neg h₄]

theorem load_recordAt {p : Ptr TrustRecord} {i : ℕ} {r : TrustRecord} (hp : store.records = some p)
    (hpts : p.Points store.entries) (hr : store.entries[i]? = some r) :
    (address store.records i : Checked Status _) = .ok (store.recordAt i) ∧
      (load (store.recordAt i) 0 : Checked Status _) = .ok r := by
  obtain ⟨hi, rfl⟩ := List.getElem?_eq_some_iff.mp hr
  rw [TrustStore.recordAt, hp]
  refine ⟨hpts.address_eq hi.le, ?_⟩
  have hsub := hpts.sub (i := i) (n := 1) hi
  have hlen := slice_length_of_le (s := store.entries) (i := i) (n := 1) hi
  have hget : (slice store.entries i 1)[0] = store.entries[i] := by simp [slice]
  rw [Option.map_some, hsub.load_eq (by omega), hget]

section Cases
variable {prior : TrustResult}

theorem wellFormed_unique {l : Vector UInt8 8} (hk : request.WellFormed k)
    (hl : request.WellFormed l) : k = l :=
  Option.some.inj (hk.keyId.symm.trans hl.keyId)

theorem decided_malformed (h : ∀ k, ¬ request.WellFormed k) (v : Status) :
    Decided store hash request prior v .invalidArgument prior where
  malformed _ := rfl
  invalidStore k hw := absurd hw (h k)
  unknown k hw := absurd hw (h k)
  known k hw := absurd hw (h k)
  authorized hok := absurd hok (by decide)
  withdrawn k hw := absurd hw (h k)
  unchanged _ := rfl

theorem decided_invalid (hw : request.WellFormed k) {v : Status} (hv : v ≠ .ok) :
    Decided store hash request prior v v prior where
  malformed h := absurd hw (h k)
  invalidStore _ _ _ := rfl
  unknown _ _ hok := absurd hok hv
  known _ _ hok := absurd hok hv
  authorized hok := absurd hok hv
  withdrawn _ _ _ _ _ _ := hv
  unchanged _ := rfl

theorem decided_unknown (hw : request.WellFormed k) (hnone : ∀ r ∈ store.entries, r.keyId ≠ k) :
    Decided store hash request prior .ok .keyUnknown prior where
  malformed h := absurd hw (h k)
  invalidStore _ _ hne := absurd rfl hne
  unknown _ _ _ _ := rfl
  known l hl _ i r hr hid := by
    have hmem := List.mem_of_getElem? hr
    exact absurd (hid.trans (wellFormed_unique hl hw)) (hnone r hmem)
  authorized hok := absurd hok (by decide)
  withdrawn _ _ _ _ _ _ := by decide
  unchanged _ := rfl

theorem keyDecision_ne_ok {r : TrustRecord} (h : r.status = 2 ∨ r.status = 3) :
    keyDecision request r ≠ .ok := by
  unfold keyDecision
  rcases h with h | h <;> simp [h]

/-- Only the one record with the requested key ID matters. -/
theorem decided_known (hv : store.Valid hash) (hw : request.WellFormed k) {i : ℕ} {r : TrustRecord}
    (hr : store.entries[i]? = some r) (hid : r.keyId = k) {out : TrustResult}
    (hout : keyDecision request r = .ok → out.record = store.recordAt i)
    (hkeep : keyDecision request r ≠ .ok → out = prior) :
    Decided store hash request prior .ok (keyDecision request r) out where
  malformed h := absurd hw (h k)
  invalidStore _ _ hne := absurd rfl hne
  unknown l hl _ hnone := by
    have hmem := List.mem_of_getElem? hr
    exact absurd (hid.trans (wellFormed_unique hw hl)) (hnone r hmem)
  known l hl _ j r' hr' hid' := by
    have hsame : r.keyId = r'.keyId := by rw [hid, hid', wellFormed_unique hw hl]
    obtain rfl := hv.unique hr hr' hsame
    obtain rfl := Option.some.inj (hr.symm.trans hr')
    exact ⟨fun m s hs hsid => hv.unique hs hr (hsid.trans hid'.symm), rfl, hout⟩
  authorized hok := by
    obtain ⟨d, hd, hpre⟩ := hv.derived hr
    exact ⟨k, i, r, d, hw, rfl, hr, hid, hout hok, hd, hpre.trans hid⟩
  withdrawn l hl r' hmem hid' hstatus := by
    obtain ⟨j, hj⟩ := List.getElem?_of_mem hmem
    have hsame : r.keyId = r'.keyId := by rw [hid, hid', wellFormed_unique hw hl]
    obtain rfl := hv.unique hr hj hsame
    obtain rfl := Option.some.inj (hr.symm.trans hj)
    exact keyDecision_ne_ok hstatus
  unchanged := hkeep

end Cases

/-- Behind the validation only the record with the requested key ID is looked at, and the
provider is left alone. -/
theorem wps_authorizeValidated {p : Ptr TrustRecord} (hp : store.records = some p)
    (hcount : store.count ≤ 16) (hw : request.WellFormed k) (prior : TrustResult) (ctx : κ) :
    wps (authorizeValidated store request)
      (fun _ s => ∃ (i : ℕ) (r : TrustRecord), store.entries[i]? = some r ∧ r.keyId = k ∧
        keyDecision request r = .ok ∧ s = (ctx, some ⟨store.recordAt i⟩))
      (fun st s => s = (ctx, some prior) ∧ st ≠ .ok ∧
        (st = .keyUnknown ∧ (∀ r ∈ store.entries, r.keyId ≠ k) ∨
          ∃ (i : ℕ) (r : TrustRecord), store.entries[i]? = some r ∧ r.keyId = k ∧
            st = keyDecision request r))
      (ctx, some prior) := by
  obtain ⟨hpts, -⟩ := TrustStore.points_entries hp hcount
  unfold authorizeValidated
  rw [wps_bind, wps_lift]
  rcases findRecord_cases hp hcount hw with ⟨hfind, hnone⟩ | ⟨i, r, hfind, hr, hid⟩
  · rw [hfind, wp_ok]
    exact ⟨rfl, by decide, .inl ⟨rfl, hnone⟩⟩
  · obtain ⟨haddress, hload⟩ := load_recordAt hp hpts hr
    rw [hfind, wp_ok, wps_bind, wps_lift, haddress, wp_ok, wps_bind, wps_lift, hload, wp_ok,
      wps_bind, wps_lift]
    refine wp_mono (wp_authorizeRecord r) (fun _ hok => ?_) (fun st hst => ?_)
    · exact ⟨i, r, hr, hid, hok, rfl⟩
    · exact ⟨rfl, hst.2, .inr ⟨i, r, hr, hid, hst.1⟩⟩

/-- Behind a valid store, the lookup decides as documented. -/
theorem wps_authorizeValidated_decided (hv : store.Valid hash) (hw : request.WellFormed k)
    (prior : TrustResult) (ctx : κ) :
    wps (authorizeValidated store request)
      (fun _ s => ∃ out, s.2 = some out ∧ Decided store hash request prior .ok .ok out)
      (fun st s => ∃ out, s.2 = some out ∧ Decided store hash request prior .ok st out)
      (ctx, some prior) := by
  obtain ⟨p, hp⟩ := hv.array
  refine wps_mono (wps_authorizeValidated hp hv.count_le hw prior ctx) ?_ ?_
  · rintro _ _ ⟨i, r, hr, hid, hok, rfl⟩
    have hd : Decided store hash request prior .ok (keyDecision request r) ⟨store.recordAt i⟩ :=
      decided_known hv hw hr hid (fun _ => rfl) (fun hne => absurd hok hne)
    rw [hok] at hd
    exact ⟨_, rfl, hd⟩
  · rintro st _ ⟨rfl, hne, ⟨rfl, hnone⟩ | ⟨i, r, hr, hid, rfl⟩⟩
    · exact ⟨prior, rfl, decided_unknown hw hnone⟩
    · exact ⟨prior, rfl, decided_known hv hw hr hid (fun hok => absurd hok hne) (fun _ => rfl)⟩

/-- The validation of a store answers OK exactly if the store is valid. -/
theorem call_validate (store : TrustStore) (hc : provider.Computes hash) (ctx : κ) :
    ∃ v ctx₁, call (rampartTrustStoreValidate (some store) (some provider)) ctx = .ok (v, ctx₁) ∧
      (v = .ok ↔ store.Valid hash) := by
  have hvalidate : wps (rampartTrustStoreValidate (some store) (some provider))
      (fun _ _ => store.Valid hash) (fun v _ => v = .ok ↔ store.Valid hash) ctx :=
    wps_mono (wps_rampartTrustStoreValidate store hc ctx) (fun _ _ hv => hv)
      fun _ _ hfault => iff_of_false hfault.ne_ok hfault.not_valid
  exact exists_call hvalidate fun _ hv => iff_of_true rfl hv

/-- The rule for an authorization: the request is checked first, then the store, and then the
lookup runs. -/
theorem wps_rampartTrustAuthorize {Q : Unit → κ × Option TrustResult → Prop}
    {E : Status → κ × Option TrustResult → Prop} {ctx : κ} {prior : TrustResult}
    (hmalformed : (∀ k, ¬ request.WellFormed k) → E .invalidArgument (ctx, some prior))
    (hchecked : ∀ k, request.WellFormed k →
      wps (rampartTrustStoreValidate (some store) (some provider))
        (fun _ t => wps (authorizeValidated store request) Q E (t, some prior))
        (fun st t => E st (t, some prior)) ctx) :
    wps (rampartTrustAuthorize (some store) (some provider) (some request)) Q E
      (ctx, some prior) := by
  change wps (liftM (rejectIf _ Status.invalidArgument) >>= fun _ => _) _ _ _
  rw [wps_bind, wps_lift, wp_rejectIf]
  constructor
  · intro hbad
    refine hmalformed fun k hw => ?_
    rw [wellFormed_iff.mp ⟨k, hw⟩] at hbad
    cases hbad
  · intro hgood
    obtain ⟨k, hw⟩ := wellFormed_iff.mpr (Bool.eq_false_of_not_eq_true hgood)
    rw [wps_bind, wps_onFst]
    exact hchecked k hw

/-- A request is decided by the status of the validation that its call starts with. -/
theorem call_authorize (hc : provider.Computes hash) (request : TrustRequest) {ctx ctx₁ : κ}
    {v : Status}
    (hcall : call (rampartTrustStoreValidate (some store) (some provider)) ctx = .ok (v, ctx₁))
    (prior : TrustResult) :
    ∃ st ctx₂ out, call (rampartTrustAuthorize (some store) (some provider) (some request))
        (ctx, some prior) = .ok (st, ctx₂, some out) ∧
      Decided store hash request prior v st out := by
  have hvalidate := wps_rampartTrustStoreValidate store hc ctx
  suffices h : wps (rampartTrustAuthorize (some store) (some provider) (some request))
      (fun _ s => ∃ out, s.2 = some out ∧ Decided store hash request prior v .ok out)
      (fun st s => ∃ out, s.2 = some out ∧ Decided store hash request prior v st out)
      (ctx, some prior) by
    obtain ⟨st, ⟨t, -⟩, hauth, out, rfl, hd⟩ := exists_call h fun _ h => h
    exact ⟨st, t, out, hauth, hd⟩
  refine wps_rampartTrustAuthorize (fun hbad => ⟨prior, rfl, decided_malformed hbad v⟩)
    fun k hw => ?_
  unfold call at hcall
  unfold wps at hvalidate
  rcases hres : rampartTrustStoreValidate (some store) (some provider) ctx with
    ⟨⟨⟩, t⟩ | ⟨e | f, t⟩ <;> rw [hres] at hvalidate hcall
  · have hok : v = .ok := by cases hcall; rfl
    rw [hok, wps, hres]
    exact wps_authorizeValidated_decided hvalidate hw prior t
  · have he : v = e := by cases hcall; rfl
    rw [he, wps, hres]
    exact ⟨prior, rfl, decided_invalid hw hvalidate.ne_ok⟩
  · exact hvalidate.elim

/-- The decision of `rampart_trust_authorize`, for every store, request and prior result, and
for every provider that computes a partial function of the message. -/
theorem rampartTrustAuthorize_decides (store : TrustStore) (provider : CryptoProvider κ)
    (hash : List UInt8 → Option (Vector UInt8 32)) (hc : provider.Computes hash)
    (request : TrustRequest) (ctx : κ) (prior : TrustResult) :
    ∃ v ctx₁ st ctx₂ out,
      call (rampartTrustStoreValidate (some store) (some provider)) ctx = .ok (v, ctx₁) ∧
      (v = .ok ↔ store.Valid hash) ∧
      call (rampartTrustAuthorize (some store) (some provider) (some request)) (ctx, some prior) =
        .ok (st, ctx₂, some out) ∧
      Decided store hash request prior v st out := by
  obtain ⟨v, ctx₁, hcall, hv⟩ := call_validate store hc ctx
  obtain ⟨st, ctx₂, out, hauth, hd⟩ := call_authorize hc request hcall prior
  exact ⟨v, ctx₁, st, ctx₂, out, hcall, hv, hauth, hd⟩

def goldenRecord : TrustRecord where
  roles := trustRole 1
  keyEpoch := 0
  algorithm := 1
  status := 1
  keyId := goldenManifest.keyId
  publicKey := goldenImage.publicKey

/-- Another key, for security releases. -/
def otherRecord (status : UInt16) : TrustRecord where
  roles := trustRole 2
  keyEpoch := 0
  algorithm := 1
  status := status
  keyId := #v[105, 139, 234, 99, 220, 68, 163, 68]
  publicKey := basePoint

def goldenStore : TrustStore where
  records := some ⟨[goldenRecord, otherRecord 2], 0⟩
  count := 2
  complete := by
    intro p hp _
    cases hp
    decide

def goldenRequest : TrustRequest where
  keyId := some ⟨goldenManifest.keyId.toList, 0⟩
  keyIdLen := 8
  requiredRole := 1
  manifestRole := 1
  lifecycle := 2
  readable := by
    intro p hp _
    cases hp
    decide

theorem goldenRecord_sound : goldenRecord.Sound goldenHash where
  shape := by decide
  derived := by
    rw [goldenHash, if_neg (by decide), goldenRecord, if_pos rfl]
    exact ⟨_, rfl, by decide⟩

theorem otherRecord_sound {status : UInt16} (h : status = 1 ∨ status = 2) :
    (otherRecord status).Sound goldenHash where
  shape := by rcases h with rfl | rfl <;> decide
  derived := by
    have hkey : (otherRecord status).publicKey = basePoint := rfl
    rw [hkey, goldenHash, if_neg (by decide), if_neg (by decide), if_pos rfl]
    exact ⟨_, rfl, rfl⟩

theorem goldenRecord_keyId_ne (status : UInt16) :
    goldenRecord.keyId ≠ (otherRecord status).keyId := by
  have hne : goldenRecord.keyId ≠ (otherRecord 1).keyId := by decide
  exact hne

theorem valid_pair {r r' : TrustRecord} (hcount : store.count = 2)
    (hentries : store.entries = [r, r']) (hr : r.Sound hash) (hr' : r'.Sound hash)
    (hne : r.keyId ≠ r'.keyId) : store.Valid hash := by
  refine valid_iff.mpr ⟨?_, by omega, by omega, fun s hs => ?_, ?_⟩
  · rw [← Option.ne_none_iff_exists']
    intro hnull
    rw [TrustStore.entries, hnull] at hentries
    cases hentries
  · rw [hentries, List.mem_pair] at hs
    rcases hs with rfl | rfl
    · exact hr
    · exact hr'
  · rw [hentries]
    simpa using hne

theorem goldenStore_valid : goldenStore.Valid goldenHash :=
  valid_pair rfl rfl goldenRecord_sound (otherRecord_sound (.inr rfl))
    (goldenRecord_keyId_ne 2)

theorem goldenRequest_wellFormed : goldenRequest.WellFormed goldenManifest.keyId where
  keyId := by decide
  requiredRole := by decide
  manifestRole := by decide
  lifecycle := .inr rfl

theorem keyDecision_golden : keyDecision goldenRequest goldenRecord = .ok := by decide

/-- The store validates, and the first record authorizes the request. -/
theorem rampartTrustAuthorize_decides_golden : ∃ ctx₁ ctx₂ out,
    call (rampartTrustStoreValidate (some goldenStore) (some (hashProvider goldenHash))) () =
      .ok (.ok, ctx₁) ∧
    call (rampartTrustAuthorize (some goldenStore) (some (hashProvider goldenHash))
      (some goldenRequest)) ((), some ⟨none⟩) = .ok (.ok, ctx₂, some out) ∧
    out.record = goldenStore.recordAt 0 := by
  obtain ⟨v, ctx₁, st, ctx₂, out, hvalidate, hv, hauthorize, hd⟩ :=
    rampartTrustAuthorize_decides goldenStore (hashProvider goldenHash) goldenHash
      (hashProvider_computes goldenHash) goldenRequest () ⟨none⟩
  obtain rfl := hv.mpr goldenStore_valid
  obtain ⟨-, hst, hout⟩ := hd.known _ goldenRequest_wellFormed rfl 0 goldenRecord rfl rfl
  obtain rfl : st = .ok := hst.trans keyDecision_golden
  exact ⟨ctx₁, ctx₂, out, hvalidate, hauthorize, hout rfl⟩

end RampartBoot.Core
