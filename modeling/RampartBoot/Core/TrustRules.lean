import RampartBoot.Core.Trust

/-! # What the trust store rules decide

For a provider that computes a partial function of the message, each round of the validation
finds exactly the fault of its record. A store without faults has unique key IDs, so the
lookup that ends at the first match finds the only record that can match.
-/

namespace RampartBoot.Core
open Foundation

variable {κ : Type} {q : Ptr UInt8} {t : List UInt8}

theorem keyIdsEqual_eq {ε : Type} (k : Vector UInt8 8) (hq : q.Points t) (ht : 8 ≤ t.length) :
    (keyIdsEqual (arrayStart k) (some q) : Checked ε Bool) = .ok (decide (k = vectorAt t 0 8)) := by
  have hk : k.toList.length = 8 := k.length_toList
  have hslice : slice k.toList 0 8 = k.toList := List.take_of_length_le hk.le
  rw [keyIdsEqual, arrayStart, compareLoop_eq (Ptr.points_whole k.toList) hq (by omega) ht, hslice]
  congr 1
  rw [decide_eq_decide, eq_comm, slice_eq_toList (by omega), eq_comm]

def TrustStore.entries (store : TrustStore) : List TrustRecord :=
  match store.records with
  | none => []
  | some p => slice p.obj p.off store.count

/-- Why the record `r` at index `i` makes the store `rs` invalid. -/
def recordFault (hash : List UInt8 → Option (Vector UInt8 32)) (rs : List TrustRecord) (i : ℕ)
    (r : TrustRecord) : Option Status :=
  if validRecordShape r = false then some .trustStore
  else match hash r.publicKey.toList with
  | none => some .cryptoProvider
  | some d =>
    if r.keyId ≠ vectorAt d.toList 0 8 then some .trustStore
    else if r.keyId ∈ (rs.take i).map TrustRecord.keyId then some .trustStore
    else none

theorem keyIdsEqual_array {ε : Type} (k l : Vector UInt8 8) :
    (keyIdsEqual (arrayStart k) (arrayStart l) : Checked ε Bool) = .ok (decide (k = l)) := by
  have h := keyIdsEqual_eq (ε := ε) k (Ptr.points_whole l.toList) (by simp)
  rwa [vectorAt_toList_self] at h

section Validate
variable {store : TrustStore} {provider : CryptoProvider κ} {rs : List TrustRecord}
  {hash : List UInt8 → Option (Vector UInt8 32)} {p : Ptr TrustRecord}

theorem wp_rejectRepeated (hp : store.records = some p) (hrs : p.Points rs) {i : ℕ}
    (hi : i ≤ rs.length) (r : TrustRecord) :
    wp (rejectRepeated store r i) (fun _ => r.keyId ∉ (rs.take i).map TrustRecord.keyId)
      (fun st => st = .trustStore ∧ r.keyId ∈ (rs.take i).map TrustRecord.keyId) := by
  have hround : ∀ j (u : Unit), 0 ≤ j → j < 0 + i → r.keyId ∉ (rs.take j).map TrustRecord.keyId →
      wp (do
        let other ← load store.records j
        let repeated ← keyIdsEqual (arrayStart r.keyId) (arrayStart other.keyId)
        rejectIf repeated Status.trustStore)
      (fun _ => r.keyId ∉ (rs.take (j + 1)).map TrustRecord.keyId)
      (fun st => st = Status.trustStore ∧ r.keyId ∈ (rs.take i).map TrustRecord.keyId) := by
    intro j _ _ hj hnot
    have hjl : j < rs.length := by omega
    rw [hp, bind_of_eq_ok (hrs.load_eq hjl), bind_of_eq_ok (keyIdsEqual_array _ _), wp_rejectIf,
      decide_eq_true_iff]
    constructor
    · intro heq
      have hmem : rs[j] ∈ rs.take i := List.mem_take_iff_getElem.mpr ⟨j, by omega, rfl⟩
      exact ⟨rfl, List.mem_map.mpr ⟨_, hmem, heq.symm⟩⟩
    · intro hne hmem
      rw [List.take_succ_eq_append_getElem hjl, List.map_append, List.mem_append] at hmem
      rcases hmem with hmem | hmem
      · exact hnot hmem
      · exact hne (by simpa using hmem)
  have hloop := wp_forFrom (ε := Status)
    (fun j (_ : Unit) => r.keyId ∉ (rs.take j).map TrustRecord.keyId) 0 i () (by simp) hround
  rwa [Nat.zero_add] at hloop

theorem wps_validateRecord (hc : provider.Computes hash) (hp : store.records = some p)
    (hrs : p.Points rs) {i : ℕ} (hi : i < rs.length) (digest : Vector UInt8 32) (ctx : κ) :
    wps (validateRecord store provider i digest) (fun _ _ => recordFault hash rs i rs[i] = none)
      (fun st _ => recordFault hash rs i rs[i] = some st) ctx := by
  unfold validateRecord recordFault
  rw [wps_bind, wps_lift, hp, hrs.load_eq hi, wp_ok, wps_bind, wps_lift, wp_rejectIf]
  generalize rs[i] = r
  refine ⟨fun hshape => by rw [if_pos (by simpa using hshape)], fun hshape => ?_⟩
  rw [if_neg (by simpa using hshape)]
  have hkey : messageBytes (some ⟨r.publicKey.toList, 0⟩) 65 = some r.publicKey.toList := by
    rw [messageBytes, if_neg (by decide)]
    exact (Ptr.points_whole _).entries_eq Vector.length_toList
  rw [wps_bind]
  refine wps_hash_of_computes hc hkey (fun d hd t => ?_) (fun hnone t => by simp only [hnone])
  simp only [hd]
  have hderived := keyIdsEqual_eq (ε := Status) r.keyId (Ptr.points_whole d.toList) (by simp)
  rw [wps_bind, wps_lift]
  change wp (keyIdsEqual (arrayStart r.keyId) (some ⟨d.toList, 0⟩)) _ _
  rw [hderived, wp_ok, wps_bind, wps_lift, wp_rejectIf]
  simp only [Bool.not_eq_true', decide_eq_false_iff_not, not_not]
  refine ⟨fun hne => by rw [if_pos hne], fun heq => ?_⟩
  rw [if_neg (not_not.mpr heq), wps_bind, wps_lift]
  refine wp_mono (wp_rejectRepeated hp hrs hi.le r) (fun _ hnot => ?_) (fun st hst => ?_)
  · rw [wps_pure, if_neg hnot]
  · rw [if_pos hst.2, hst.1]

/-- A store that validation accepts: a count in range and no record with a fault. -/
structure TrustStore.Valid (store : TrustStore) (hash : List UInt8 → Option (Vector UInt8 32)) :
    Prop where
  array : ∃ p, store.records = some p
  count_pos : store.count ≠ 0
  count_le : store.count ≤ 16
  records : ∀ i r, store.entries[i]? = some r → recordFault hash store.entries i r = none

/-- Why the validation of a store ends with the error `st`: a count out of range, or the fault of
the first record that has one. -/
def TrustStore.Fault (store : TrustStore) (hash : List UInt8 → Option (Vector UInt8 32))
    (st : Status) : Prop :=
  (store.records = none ∨ store.count = 0 ∨ 16 < store.count) ∧ st = .trustStore ∨
    ∃ i r, store.entries[i]? = some r ∧ recordFault hash store.entries i r = some st ∧
      ∀ j < i, ∀ r', store.entries[j]? = some r' → recordFault hash store.entries j r' = none

theorem TrustStore.points_entries {store : TrustStore} {p : Ptr TrustRecord}
    (hp : store.records = some p) (hcount : store.count ≤ 16) :
    p.Points store.entries ∧ store.entries.length = store.count := by
  have hroom := store.complete p hp hcount
  have hentries : store.entries = slice p.obj p.off store.count := by rw [entries, hp]
  have hlen : store.entries.length = store.count := by
    rw [hentries, slice_length_of_le hroom]
  refine ⟨⟨by omega, ?_⟩, hlen⟩
  rw [hlen, hentries]

variable (store provider) in
/-- The rule for a validation: `I i` holds behind the first `i` records, and the rounds keep it
or end the call. -/
theorem wps_validation (ctx : κ) (I : ℕ → κ → Prop) {E : Status → κ → Prop}
    (hrange : store.records = none ∨ store.count = 0 ∨ 16 < store.count → E .trustStore ctx)
    (hinit : I 0 ctx)
    (hround : ∀ p, store.records = some p → store.count ≠ 0 → store.count ≤ 16 →
      p.Points store.entries → ∀ i r digest t, store.entries[i]? = some r → I i t →
        wps (validateRecord store provider i digest) (fun _ t => I (i + 1) t) E t) :
    wps (rampartTrustStoreValidate (some store) (some provider))
      (fun _ t => (∃ p, store.records = some p) ∧ store.count ≠ 0 ∧ store.count ≤ 16 ∧
        I store.entries.length t) E ctx := by
  unfold rampartTrustStoreValidate
  rw [wps_bind, wps_lift, wp_rejectIf]
  refine ⟨fun hbad => hrange (by simpa [or_assoc] using hbad), fun hgood => ?_⟩
  simp only [Bool.or_eq_true, Option.isNone_iff_eq_none, beq_iff_eq, decide_eq_true_iff, not_or,
    gt_iff_lt, not_lt] at hgood
  obtain ⟨⟨hrecords, hpos⟩, hle⟩ := hgood
  obtain ⟨p, hp⟩ := Option.ne_none_iff_exists'.mp hrecords
  obtain ⟨hpts, hlen⟩ := TrustStore.points_entries hp hle
  have hloop := wps_forFrom (fun i (_ : Vector UInt8 32) t => I i t) 0 store.count
    (Vector.replicate 32 0) ctx (f := validateRecord store provider) (E := E) hinit (by
      intro i digest t _ hi hI
      have hil : i < store.entries.length := by omega
      exact hround p hp hpos hle hpts i _ digest t (List.getElem?_eq_getElem hil) hI)
  rw [wps_bind]
  refine wps_mono hloop (fun _ t hI => ?_) (fun _ _ hE => hE)
  rw [Nat.zero_add, ← hlen] at hI
  exact ⟨⟨p, hp⟩, hpos, hle, hI⟩

variable (store) in
/-- Validation succeeds exactly on valid stores, and otherwise answers with the fault of the
first record that has one. -/
theorem wps_rampartTrustStoreValidate (hc : provider.Computes hash) (ctx : κ) :
    wps (rampartTrustStoreValidate (some store) (some provider)) (fun _ _ => store.Valid hash)
      (fun st _ => store.Fault hash st) ctx := by
  -- the records below the index have no fault
  let clean (i : ℕ) : Prop := ∀ j < i, ∀ r, store.entries[j]? = some r →
    recordFault hash store.entries j r = none
  have hvalidate := wps_validation store provider ctx (fun i _ => clean i)
    (E := fun st _ => store.Fault hash st) (fun hrange => .inl ⟨hrange, rfl⟩)
    (fun j hj => absurd hj (by omega)) (by
      intro p hp _ _ hpts i r digest t hr hclean
      obtain ⟨hil, rfl⟩ := List.getElem?_eq_some_iff.mp hr
      refine wps_mono (wps_validateRecord hc hp hpts hil digest t) (fun _ _ hnone => ?_)
        (fun st _ hsome => .inr ⟨i, _, hr, hsome, hclean⟩)
      intro j hj r' hr'
      by_cases hji : j = i
      · subst hji
        obtain rfl := Option.some.inj (hr.symm.trans hr')
        exact hnone
      · exact hclean j (by omega) r' hr')
  refine wps_mono hvalidate ?_ (fun _ _ hfault => hfault)
  rintro _ _ ⟨harray, hpos, hle, hclean⟩
  refine ⟨harray, hpos, hle, fun i r hr => ?_⟩
  obtain ⟨hi, -⟩ := List.getElem?_eq_some_iff.mp hr
  exact hclean i hi r hr

end Validate

end RampartBoot.Core
