import RampartBoot.Core.Independence

/-! # Store validation against the documents

The immutable store contract lists what each record must satisfy. Validation accepts exactly the
stores that meet the list, and otherwise answers for the first record that does not.
-/

namespace RampartBoot.Core
open Foundation Format

variable {κ : Type} {store : TrustStore} {r : TrustRecord} {rs : List TrustRecord}
  {hash : List UInt8 → Option (Vector UInt8 32)} {i : ℕ} {st : Status}

structure TrustRecord.WellShaped (r : TrustRecord) : Prop where
  algorithm : r.algorithm = 1
  tag : r.publicKey.toList.head? = some 0x04
  roles_ne : r.roles ≠ 0
  roles_known : ∀ bit, r.roles.toBitVec.getLsbD bit = true → 1 ≤ bit ∧ bit ≤ 6
  status : 1 ≤ r.status ∧ r.status ≤ 4

def TrustRecord.Derived (r : TrustRecord) (hash : List UInt8 → Option (Vector UInt8 32)) : Prop :=
  ∃ d, hash r.publicKey.toList = some d ∧ d.toList.take 8 = r.keyId.toList

/-- The documented contract. -/
structure TrustStore.Contract (store : TrustStore)
    (hash : List UInt8 → Option (Vector UInt8 32)) : Prop where
  count_pos : 1 ≤ store.count
  count_le : store.count ≤ 16
  shape : ∀ r ∈ store.entries, r.WellShaped
  derived : ∀ r ∈ store.entries, r.Derived hash
  distinct : (store.entries.map TrustRecord.keyId).Nodup

/-- The record `r` at index `i` of `rs` is malformed, fails to hash, has a wrong key ID or repeats
the key ID of an earlier record. -/
inductive Defective (hash : List UInt8 → Option (Vector UInt8 32)) (rs : List TrustRecord) (i : ℕ)
    (r : TrustRecord) : Prop where
  | malformed : ¬ r.WellShaped → Defective hash rs i r
  | unhashed : hash r.publicKey.toList = none → Defective hash rs i r
  | foreign (d : Vector UInt8 32) : hash r.publicKey.toList = some d →
      d.toList.take 8 ≠ r.keyId.toList → Defective hash rs i r
  | repeated (j : ℕ) (s : TrustRecord) : j < i → rs[j]? = some s → s.keyId = r.keyId →
      Defective hash rs i r

theorem rolesKnown_iff {roles : UInt32} : roles &&& ~~~trustRolesAll = 0 ↔
    ∀ bit, roles.toBitVec.getLsbD bit = true → 1 ≤ bit ∧ bit ≤ 6 := by
  have hmask : ∀ bit < 32, (~~~trustRolesAll).toBitVec.getLsbD bit =
      decide (¬ (1 ≤ bit ∧ bit ≤ 6)) := by decide
  rw [← UInt32.toBitVec_inj, UInt32.toBitVec_and]
  constructor
  · intro h bit hbit
    have hlt : bit < 32 := BitVec.lt_of_getLsbD hbit
    have hzero : (roles.toBitVec &&& (~~~trustRolesAll).toBitVec).getLsbD bit = false := by
      rw [h]
      simp
    rw [BitVec.getLsbD_and, hbit, hmask bit hlt, Bool.true_and, decide_eq_false_iff_not,
      not_not] at hzero
    exact hzero
  · intro h
    apply BitVec.eq_of_getLsbD_eq
    intro bit hlt
    rw [BitVec.getLsbD_and, hmask bit hlt]
    cases hbit : roles.toBitVec.getLsbD bit with
    | false => simp
    | true => simp [h bit hbit]

theorem validRecordShape_iff : validRecordShape r = true ↔ r.WellShaped := by
  have hhead : r.publicKey.toList.head? = some 0x04 ↔ r.publicKey[0] = 0x04 := by
    rw [List.head?_eq_getElem?, List.getElem?_eq_getElem (by simp)]
    simp
  have hstatus : (1 ≤ r.status ∧ r.status ≤ 4) ↔
      r.status = 1 ∨ r.status = 2 ∨ r.status = 3 ∨ r.status = 4 := by
    simp only [UInt16.le_iff_toNat_le, ← UInt16.toNat_inj, UInt16.reduceToNat]
    omega
  simp only [validRecordShape, Bool.and_eq_true, Bool.or_eq_true, beq_iff_eq, bne_iff_ne,
    rolesKnown_iff, or_assoc]
  constructor
  · rintro ⟨⟨⟨⟨halg, htag⟩, hne⟩, hknown⟩, hst⟩
    exact ⟨halg, hhead.mpr htag, hne, hknown, hstatus.mpr hst⟩
  · rintro ⟨halg, htag, hne, hknown, hst⟩
    exact ⟨⟨⟨⟨halg, hhead.mp htag⟩, hne⟩, hknown⟩, hstatus.mp hst⟩

theorem take_eight_iff {d : Vector UInt8 32} {k : Vector UInt8 8} :
    d.toList.take 8 = k.toList ↔ k = vectorAt d.toList 0 8 := by
  rw [← slice_zero, slice_eq_toList (by simp), eq_comm]

theorem sound_iff : r.Sound hash ↔ r.WellShaped ∧ r.Derived hash := by
  constructor
  · rintro ⟨hshape, d, hd, hid⟩
    exact ⟨validRecordShape_iff.mp hshape, d, hd, take_eight_iff.mpr hid⟩
  · rintro ⟨hshape, d, hd, hid⟩
    exact ⟨validRecordShape_iff.mpr hshape, d, hd, take_eight_iff.mp hid⟩

theorem mem_keyIds_take_iff {k : Vector UInt8 8} : k ∈ (rs.take i).map TrustRecord.keyId ↔
    ∃ j < i, ∃ s, rs[j]? = some s ∧ s.keyId = k := by
  rw [List.mem_map]
  constructor
  · rintro ⟨s, hs, hid⟩
    obtain ⟨j, hj, rfl⟩ := List.mem_take_iff_getElem.mp hs
    exact ⟨j, by omega, _, List.getElem?_eq_getElem (by omega), hid⟩
  · rintro ⟨j, hj, s, hs, hid⟩
    obtain ⟨hlt, rfl⟩ := List.getElem?_eq_some_iff.mp hs
    exact ⟨_, List.mem_take_iff_getElem.mpr ⟨j, by omega, rfl⟩, hid⟩

theorem not_defective_iff : ¬ Defective hash rs i r ↔ recordFault hash rs i r = none := by
  rw [recordFault_eq_none_iff, validRecordShape_iff, mem_keyIds_take_iff]
  constructor
  · intro h
    refine ⟨by_contra fun hn => h (.malformed hn), ?_, ?_⟩
    · cases hd : hash r.publicKey.toList with
      | none => exact absurd (.unhashed hd) h
      | some d =>
        refine ⟨d, rfl, take_eight_iff.mp ?_⟩
        by_contra hne
        exact h (.foreign d hd hne)
    · rintro ⟨j, hj, s, hs, hid⟩
      exact h (.repeated j s hj hs hid)
  · rintro ⟨hshape, ⟨d, hd, hid⟩, hnew⟩ h
    cases h with
    | malformed hn => exact hn hshape
    | unhashed hnone => simp [hd] at hnone
    | foreign d' hd' hne =>
      obtain rfl := Option.some.inj (hd.symm.trans hd')
      exact hne (take_eight_iff.mpr hid)
    | repeated j s hj hs hid' => exact hnew ⟨j, hj, s, hs, hid'⟩

theorem recordFault_status (h : recordFault hash rs i r = some st) :
    (r.WellShaped ∧ hash r.publicKey.toList = none → st = .cryptoProvider) ∧
      (¬ (r.WellShaped ∧ hash r.publicKey.toList = none) → st = .trustStore) := by
  rw [← validRecordShape_iff]
  unfold recordFault at h
  cases hshape : validRecordShape r with
  | false =>
    rw [if_pos hshape] at h
    simpa using (Option.some.inj h).symm
  | true =>
    rw [if_neg (by simp [hshape])] at h
    cases hd : hash r.publicKey.toList with
    | none =>
      rw [hd] at h
      simpa using (Option.some.inj h).symm
    | some d =>
      rw [hd] at h
      dsimp only at h
      split_ifs at h
      all_goals simpa using (Option.some.inj h).symm

theorem contract_iff (hrecords : ∃ p, store.records = some p) :
    store.Contract hash ↔ store.Valid hash := by
  rw [valid_iff]
  constructor
  · rintro ⟨hpos, hle, hshape, hderived, hdistinct⟩
    exact ⟨hrecords, by omega, hle, fun r hr => sound_iff.mpr ⟨hshape r hr, hderived r hr⟩,
      hdistinct⟩
  · rintro ⟨-, hpos, hle, hsound, hdistinct⟩
    exact ⟨by omega, hle, fun r hr => (sound_iff.mp (hsound r hr)).1,
      fun r hr => (sound_iff.mp (hsound r hr)).2, hdistinct⟩

/-- Records with the same public key have the same key ID. -/
theorem TrustStore.Contract.publicKeys (h : store.Contract hash) :
    (store.entries.map TrustRecord.publicKey).Nodup := by
  have hdistinct := List.pairwise_map.mp h.distinct
  refine List.pairwise_map.mpr (hdistinct.imp_of_mem ?_)
  intro r s hr hs hne hkey
  obtain ⟨d, hd, hid⟩ := h.derived r hr
  obtain ⟨d', hd', hid'⟩ := h.derived s hs
  rw [hkey] at hd
  obtain rfl := Option.some.inj (hd.symm.trans hd')
  exact hne (Vector.toList_inj.mp (hid.symm.trans hid'))

/-- Validation answers OK exactly for the stores that meet the contract, and otherwise decides by
the first defective record. -/
theorem rampartTrustStoreValidate_contract (store : TrustStore)
    (hrecords : ∃ p, store.records = some p) (provider : CryptoProvider κ)
    (hash : List UInt8 → Option (Vector UInt8 32)) (hc : provider.Computes hash) (ctx : κ) :
    ∃ st ctx', call (rampartTrustStoreValidate (some store) (some provider)) ctx = .ok (st, ctx') ∧
      (st = .ok ↔ store.Contract hash) ∧
      (st = .ok → (store.entries.map TrustRecord.publicKey).Nodup) ∧
      (st ≠ .ok → 1 ≤ store.count → store.count ≤ 16 → ∃ (i : ℕ) (r : TrustRecord),
        store.entries[i]? = some r ∧ Defective hash store.entries i r ∧
        (∀ j < i, ∀ s, store.entries[j]? = some s → ¬ Defective hash store.entries j s) ∧
        (r.WellShaped ∧ hash r.publicKey.toList = none → st = .cryptoProvider) ∧
        (¬ (r.WellShaped ∧ hash r.publicKey.toList = none) → st = .trustStore)) := by
  have hvalidate : wps (rampartTrustStoreValidate (some store) (some provider))
      (fun _ _ => store.Valid hash)
      (fun st _ => st = .ok ∧ store.Valid hash ∨ store.Fault hash st) ctx :=
    wps_mono (wps_rampartTrustStoreValidate store hc ctx) (fun _ _ hv => hv) fun _ _ h => .inr h
  obtain ⟨st, ctx', hcall, ⟨rfl, hv⟩ | hfault⟩ :=
    exists_call hvalidate fun _ hv => .inl ⟨rfl, hv⟩
  · have hc := (contract_iff hrecords).mpr hv
    exact ⟨.ok, ctx', hcall, iff_of_true rfl hc, fun _ => hc.publicKeys, fun h => absurd rfl h⟩
  · have hnot : ¬ store.Contract hash := fun h => hfault.not_valid ((contract_iff hrecords).mp h)
    refine ⟨st, ctx', hcall, iff_of_false hfault.ne_ok hnot, fun h => absurd h hfault.ne_ok, ?_⟩
    intro _ hpos hle
    rcases hfault with ⟨hrange, -⟩ | ⟨i, r, hr, hf, hfirst⟩
    · obtain ⟨p, hp⟩ := hrecords
      simp only [hp, reduceCtorEq, false_or] at hrange
      omega
    · obtain ⟨hunhashed, hother⟩ := recordFault_status hf
      refine ⟨i, r, hr, ?_, fun j hj s hs => not_defective_iff.mpr (hfirst j hj s hs), hunhashed,
        hother⟩
      by_contra hgood
      rw [not_defective_iff.mp hgood] at hf
      cases hf

theorem rampartTrustStoreValidate_contract_golden : goldenStore.Contract goldenHash ∧ ∃ ctx',
    call (rampartTrustStoreValidate (some goldenStore) (some (hashProvider goldenHash))) () =
      .ok (.ok, ctx') := by
  obtain ⟨st, ctx', hcall, hok, -⟩ := rampartTrustStoreValidate_contract goldenStore ⟨_, rfl⟩
    (hashProvider goldenHash) goldenHash (hashProvider_computes goldenHash) ()
  have hcontract := (contract_iff ⟨_, rfl⟩).mpr goldenStore_valid
  obtain rfl := hok.mpr hcontract
  exact ⟨hcontract, ctx', hcall⟩

end RampartBoot.Core
