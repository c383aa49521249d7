import RampartBoot.Core.Independence

/-! # The authority that a store grants

A store stands for a set of permissions, each for one key in one role and one lifecycle. The
authorization decides membership in this set, so a store that grants less authorizes less.
-/

namespace RampartBoot.Core
open Foundation Format

variable {κ : Type} {s t : TrustStore} {provider : CryptoProvider κ}
  {request request' : TrustRequest} {hash : List UInt8 → Option (Vector UInt8 32)}
  {k : Vector UInt8 8} {r r' : TrustRecord}

/-- A key that acts in a role, in a lifecycle of the device. -/
structure Permission where
  keyId : Vector UInt8 8
  role : UInt16
  lifecycle : UInt16
  deriving DecidableEq, Repr

/-- The permissions of a record: its roles, unless the key is withdrawn. In production neither a
key for development nor the development role is let through. -/
structure TrustRecord.Permits (r : TrustRecord) (p : Permission) : Prop where
  keyId : r.keyId = p.keyId
  role : r.roles &&& trustRole p.role ≠ 0
  notRevoked : r.status ≠ 2
  notExpired : r.status ≠ 3
  production : p.lifecycle = 2 → r.status ≠ 4 ∧ p.role ≠ 6

def TrustStore.authority (s : TrustStore) : Set Permission := {p | ∃ r ∈ s.entries, r.Permits p}

structure TrustRequest.Asks (request : TrustRequest) (p : Permission) : Prop where
  wellFormed : request.WellFormed p.keyId
  requiredRole : request.requiredRole = p.role
  manifestRole : request.manifestRole = p.role
  lifecycle : request.lifecycle = p.lifecycle

theorem keyDecision_eq_ok_iff : keyDecision request r = .ok ↔
    request.manifestRole = request.requiredRole ∧
      r.Permits ⟨r.keyId, request.requiredRole, request.lifecycle⟩ := by
  unfold keyDecision
  by_cases hrevoked : r.status = 2
  · simp only [hrevoked, if_true]
    exact iff_of_false (by decide) fun h => h.2.notRevoked hrevoked
  by_cases hexpired : r.status = 3
  · simp only [hexpired, if_true]
    exact iff_of_false (by decide) fun h => h.2.notExpired hexpired
  rw [if_neg hrevoked, if_neg hexpired]
  by_cases hproduction : request.lifecycle = 2 ∧ (r.status = 4 ∨ request.requiredRole = 6)
  · rw [if_pos hproduction]
    refine iff_of_false (by decide) fun h => ?_
    obtain ⟨hstatus, hrole⟩ := h.2.production hproduction.1
    exact hproduction.2.elim hstatus hrole
  rw [if_neg hproduction]
  by_cases hroles : request.manifestRole ≠ request.requiredRole ∨
      r.roles &&& trustRole request.requiredRole = 0
  · rw [if_pos hroles]
    refine iff_of_false (by decide) fun h => ?_
    exact hroles.elim (fun hne => hne h.1) h.2.role
  rw [if_neg hroles]
  obtain ⟨hmanifest, hrole⟩ := not_or.mp hroles
  exact iff_of_true rfl ⟨not_not.mp hmanifest, rfl, hrole, hrevoked, hexpired,
    fun hlife => not_or.mp fun hor => hproduction ⟨hlife, hor⟩⟩

/-- A valid store authorizes what it grants. -/
theorem Decided.ok_iff {prior out : TrustResult} {st : Status} (hv : s.Valid hash)
    (hd : Decided s hash request prior .ok st out) :
    st = .ok ↔ ∃ p ∈ s.authority, request.Asks p := by
  constructor
  · intro hok
    obtain ⟨k, i, r, -, hw, -, hr, hid, -⟩ := hd.authorized hok
    have hmem := List.mem_of_getElem? hr
    obtain ⟨hst, -⟩ := hd.of_mem hv hw hmem hid
    obtain ⟨hmanifest, hpermits⟩ := keyDecision_eq_ok_iff.mp (hst.symm.trans hok)
    exact ⟨_, ⟨r, hmem, hpermits⟩, hid.symm ▸ hw, rfl, hmanifest, rfl⟩
  · rintro ⟨p, ⟨r, hmem, hpermits⟩, hasks⟩
    obtain ⟨hst, -⟩ := hd.of_mem hv hasks.wellFormed hmem hpermits.keyId
    rw [hst, keyDecision_eq_ok_iff, hasks.requiredRole, hasks.manifestRole, hasks.lifecycle]
    exact ⟨rfl, rfl, hpermits.role, hpermits.notRevoked, hpermits.notExpired,
      hpermits.production⟩

/-- The record of the same key with fewer roles or a stricter status. -/
structure TrustRecord.Narrows (r' r : TrustRecord) : Prop where
  keyId : r'.keyId = r.keyId
  roles : r'.roles &&& r.roles = r'.roles
  status : r'.status = r.status ∨ r'.status = 2 ∨ r'.status = 3 ∨ r'.status = 4 ∧ r.status = 1

def TrustStore.Narrows (t s : TrustStore) : Prop :=
  ∀ r' ∈ t.entries, ∃ r ∈ s.entries, r'.Narrows r

/-- The same request, perhaps moved from production to development. -/
structure TrustRequest.Relaxes (request request' : TrustRequest) : Prop where
  requestedId : request.requestedId = request'.requestedId
  requiredRole : request.requiredRole = request'.requiredRole
  manifestRole : request.manifestRole = request'.manifestRole
  lifecycle : request.lifecycle = request'.lifecycle ∨ request.lifecycle = 1

theorem TrustRecord.Narrows.permits (h : r'.Narrows r) {p : Permission} (hp : r'.Permits p) :
    r.Permits p := by
  have hstatus : r.status = r'.status ∨ r.status = 1 := by
    rcases h.status with h | h | h | ⟨-, h⟩
    · exact .inl h.symm
    · exact absurd h hp.notRevoked
    · exact absurd h hp.notExpired
    · exact .inr h
  refine ⟨h.keyId.symm.trans hp.keyId, fun hzero => hp.role ?_, ?_, ?_, fun hlife => ⟨?_, ?_⟩⟩
  · rw [← h.roles, UInt32.and_assoc, hzero, UInt32.and_zero]
  · rcases hstatus with h | h
    · exact h ▸ hp.notRevoked
    · rw [h]
      decide
  · rcases hstatus with h | h
    · exact h ▸ hp.notExpired
    · rw [h]
      decide
  · rcases hstatus with h | h
    · exact h ▸ (hp.production hlife).1
    · rw [h]
      decide
  · exact (hp.production hlife).2

/-- What is granted in production is granted in development. -/
theorem TrustRecord.Permits.relax {p : Permission} (hp : r.Permits p) {lifecycle : UInt16}
    (h : lifecycle = p.lifecycle ∨ lifecycle = 1) : r.Permits { p with lifecycle := lifecycle } :=
  ⟨hp.keyId, hp.role, hp.notRevoked, hp.notExpired, fun hlife => by
    rcases h with h | h
    · exact hp.production (h.symm.trans hlife)
    · rw [h] at hlife
      cases hlife⟩

theorem TrustStore.Narrows.authority_subset (h : t.Narrows s) : t.authority ⊆ s.authority := by
  rintro p ⟨r', hmem', hp⟩
  obtain ⟨r, hmem, hr⟩ := h r' hmem'
  exact ⟨r, hmem, hr.permits hp⟩

theorem TrustRequest.Relaxes.wellFormed (h : request.Relaxes request')
    (hw : request'.WellFormed k) : request.WellFormed k where
  keyId := h.requestedId.trans hw.keyId
  requiredRole := h.requiredRole ▸ hw.requiredRole
  manifestRole := h.manifestRole ▸ hw.manifestRole
  lifecycle := by
    rcases h.lifecycle with hl | hl
    · exact hl ▸ hw.lifecycle
    · exact .inl hl

/-- The decision on a narrowed record is no more generous. -/
theorem TrustRecord.Narrows.keyDecision (hr : r'.Narrows r) (h : request.Relaxes request')
    (hok : keyDecision request' r' = .ok) : keyDecision request r = .ok := by
  obtain ⟨hmanifest, hpermits⟩ := keyDecision_eq_ok_iff.mp hok
  refine keyDecision_eq_ok_iff.mpr ⟨?_, ?_⟩
  · rw [h.manifestRole, h.requiredRole, hmanifest]
  · have hrelaxed := (hr.permits hpermits).relax h.lifecycle
    rwa [hr.keyId, ← h.requiredRole] at hrelaxed

theorem Decided.ok_iff_authority {prior out : TrustResult} {v st : Status}
    (hv : v = .ok ↔ s.Valid hash) (hd : Decided s hash request prior v st out) :
    st = .ok ↔ v = .ok ∧ ∃ p ∈ s.authority, request.Asks p := by
  constructor
  · intro hok
    obtain ⟨-, -, -, -, -, hvok, -⟩ := hd.authorized hok
    subst hvok
    exact ⟨rfl, (hd.ok_iff (hv.mp rfl)).mp hok⟩
  · rintro ⟨rfl, hp⟩
    exact (hd.ok_iff (hv.mp rfl)).mpr hp

theorem Decided.exists_record {prior out : TrustResult} {v st : Status}
    (hv : v = .ok ↔ s.Valid hash) (hd : Decided s hash request prior v st out) (hok : st = .ok) :
    ∃ k r, request.WellFormed k ∧ r ∈ s.entries ∧ r.keyId = k ∧ keyDecision request r = .ok ∧
      out.value = some r := by
  obtain ⟨k, i, r, -, hw, hvok, hr, hid, -⟩ := hd.authorized hok
  subst hvok
  have hmem := List.mem_of_getElem? hr
  obtain ⟨hst, hout⟩ := hd.of_mem (hv.mp rfl) hw hmem hid
  exact ⟨k, r, hw, hmem, hid, hst.symm.trans hok, hout hok⟩

/-- A store that validates authorizes exactly what it grants. One whose records were narrowed or
taken away grants less, and what it authorizes the first one, if it validates, authorizes as well,
in the same lifecycle and in development, by the record that was narrowed. -/
theorem rampartTrustAuthorize_narrowed (provider : CryptoProvider κ)
    (hash : List UInt8 → Option (Vector UInt8 32)) (hc : provider.Computes hash)
    (s t : TrustStore) (h : t.Narrows s) (request request' : TrustRequest)
    (hrelax : request.Relaxes request') (ctx ctx' : κ) (prior prior' : TrustResult) :
    ∃ v st out v' st' out', Answers provider s request ctx prior v st out ∧
      Answers provider t request' ctx' prior' v' st' out' ∧
      (st = .ok ↔ v = .ok ∧ ∃ p ∈ s.authority, request.Asks p) ∧
      (st' = .ok ↔ v' = .ok ∧ ∃ p ∈ t.authority, request'.Asks p) ∧
      t.authority ⊆ s.authority ∧
      (v = .ok → st' = .ok → st = .ok ∧
        ∃ r r', out.value = some r ∧ out'.value = some r' ∧ r'.Narrows r) := by
  obtain ⟨v, ctx₁, hcall, hv⟩ := call_validate s hc ctx
  obtain ⟨st, ctx₂, out, hauth, hd⟩ := call_authorize hc request hcall prior
  obtain ⟨v', ctx₁', hcall', hv'⟩ := call_validate t hc ctx'
  obtain ⟨st', ctx₂', out', hauth', hd'⟩ := call_authorize hc request' hcall' prior'
  refine ⟨v, st, out, v', st', out', ⟨_, _, hcall, hauth⟩, ⟨_, _, hcall', hauth'⟩,
    hd.ok_iff_authority hv, hd'.ok_iff_authority hv', h.authority_subset, ?_⟩
  rintro rfl hok'
  obtain ⟨k, r', hw', hmem', hid', hdecision, hout'⟩ := hd'.exists_record hv' hok'
  obtain ⟨r, hmem, hr⟩ := h r' hmem'
  obtain ⟨hst, hout⟩ := hd.of_mem (hv.mp rfl) (hrelax.wellFormed hw') hmem
    (hr.keyId.symm.trans hid')
  have hok : st = .ok := hst.trans (hr.keyDecision hrelax hdecision)
  exact ⟨hok, r, r', hout hok, hout', hr⟩

/-- The golden store, with another role for its first key and the second one not revoked. -/
def goldenStoreWide : TrustStore where
  records := some ⟨[{ goldenRecord with roles := trustRole 1 ||| trustRole 2 }, otherRecord 1], 0⟩
  count := 2
  complete := by
    intro p hp _
    cases hp
    decide

theorem goldenStoreWide_valid : goldenStoreWide.Valid goldenHash :=
  valid_pair rfl rfl ⟨by decide, goldenRecord_sound.derived⟩ (otherRecord_sound (.inl rfl))
    (goldenRecord_keyId_ne 1)

theorem goldenStore_narrows : goldenStore.Narrows goldenStoreWide := by
  intro r hr
  rcases List.mem_pair.mp hr with rfl | rfl
  · exact ⟨_, List.mem_pair.mpr (.inl rfl), rfl, by decide, .inl rfl⟩
  · exact ⟨_, List.mem_pair.mpr (.inr rfl), rfl, by decide, .inr (.inl rfl)⟩

/-- The narrower store is enough for the golden request, and so is the wider one. -/
theorem rampartTrustAuthorize_narrowed_golden : ∃ out out' r,
    Answers (hashProvider goldenHash) goldenStoreWide goldenRequest () ⟨none⟩ .ok .ok out ∧
    Answers (hashProvider goldenHash) goldenStore goldenRequest () ⟨none⟩ .ok .ok out' ∧
    out.value = some r ∧ out'.value = some goldenRecord ∧ goldenRecord.Narrows r := by
  have hc := hashProvider_computes goldenHash
  obtain ⟨out', hgolden, hvalue⟩ := exists_answers_golden
  obtain ⟨v, st, out, _, _, _, hwide, h, -, -, -, hnarrowed⟩ := rampartTrustAuthorize_narrowed
    (hashProvider goldenHash) goldenHash hc goldenStoreWide goldenStore goldenStore_narrows
    goldenRequest goldenRequest ⟨rfl, rfl, rfl, .inl rfl⟩ () () ⟨none⟩ ⟨none⟩
  obtain ⟨rfl, rfl, rfl⟩ := hgolden.unique h
  obtain rfl := (hwide.valid_iff hc).mpr goldenStoreWide_valid
  obtain ⟨rfl, r, r', hr, hr', hnarrows⟩ := hnarrowed rfl rfl
  obtain rfl := Option.some.inj (hvalue.symm.trans hr')
  exact ⟨out, out', r, hwide, hgolden, hr, hvalue, hnarrows⟩

end RampartBoot.Core
