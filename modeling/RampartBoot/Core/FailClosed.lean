import RampartBoot.Core.Authorization
import Mathlib.Data.List.Forall2

/-! # Authorization under any provider

Nothing is assumed of the provider here: the hash callback may change its context, write any
digest and return any status. The log next to the context shows what it was asked and what it
answered, and an authorization needs one good answer for every record of the store.
-/

namespace RampartBoot.Core
open Foundation

variable {κ μ : Type} {store : TrustStore} {provider : CryptoProvider κ} {request : TrustRequest}

theorem call_of_simulates {σ τ : Type} {R : σ → τ → Prop} {p : Prog σ Status Unit}
    {q : Prog τ Status Unit} (h : Simulates R (· = ·) p q) {s s' : σ} {t : τ} {st : Status}
    (hst : R s t) (hcall : call p s = .ok (st, s')) : ∃ t', call q t = .ok (st, t') ∧ R s' t' := by
  have hpq := h s t hst
  unfold call at hcall ⊢
  rcases hp : p s with ⟨⟨⟩, a⟩ | ⟨e | k, a⟩ <;> rcases hq : q t with ⟨⟨⟩, b⟩ | ⟨e', b⟩ <;>
    rw [hp, hq] at hpq <;> rw [hp] at hcall
  · cases hcall
    exact ⟨b, rfl, hpq.2⟩
  · exact hpq.elim
  · exact hpq.elim
  · obtain ⟨rfl, hab⟩ := hpq
    cases hcall
    exact ⟨b, rfl, hab⟩
  · exact hpq.elim
  · cases hcall

theorem authorizeValidated_simulates (R : κ → μ → Prop) (store : TrustStore)
    (request : TrustRequest) :
    Simulates (OnFst R) (· = ·) (authorizeValidated store request : Prog (κ × _) Status Unit)
      (authorizeValidated store request : Prog (μ × _) Status Unit) := by
  unfold authorizeValidated
  refine .lift_bind _ fun found _ => ?_
  cases found with
  | none => exact .lift _
  | some index =>
    refine .lift_bind _ fun _ _ => .lift_bind _ fun _ _ => .lift_bind _ fun _ _ => ?_
    exact .get_bind fun s t hst => .set ⟨hst.1, rfl⟩

section Alike
variable {R : κ → μ → Prop} {other : CryptoProvider μ} (h : provider.Alike R other)
include h

theorem validateRecord_simulates (store : TrustStore) (index : ℕ) (digest : Vector UInt8 32) :
    Simulates R (· = ·) (validateRecord store provider index digest)
      (validateRecord store other index digest) := by
  unfold validateRecord
  refine .lift_bind _ fun record _ => .lift_bind _ fun _ _ => ?_
  refine ((rampartCryptoHash_simulates h 1 _ 65 32).withOut digest).bind ?_
  rintro d _ rfl
  exact .lift_bind _ fun _ _ => .lift_bind _ fun _ _ => .lift_bind _ fun _ _ => .pure rfl

theorem rampartTrustStoreValidate_simulates (store : TrustStore) : Simulates R (· = ·)
    (rampartTrustStoreValidate (some store) (some provider))
    (rampartTrustStoreValidate (some store) (some other)) := by
  unfold rampartTrustStoreValidate
  refine .lift_bind _ fun _ _ => ?_
  refine (Simulates.forFrom (fun i d => validateRecord_simulates h store i d) _ _ _).bind ?_
  exact fun _ _ _ => .pure rfl

/-- A provider counts only by the statuses it returns and by the digests that come with OK. -/
theorem rampartTrustAuthorize_simulates (store : TrustStore) (request : TrustRequest) :
    Simulates (OnFst R) (· = ·)
      (rampartTrustAuthorize (some store) (some provider) (some request))
      (rampartTrustAuthorize (some store) (some other) (some request)) := by
  unfold rampartTrustAuthorize
  refine .get_bind ?_
  rintro ⟨s, o⟩ ⟨t, _⟩ ⟨-, rfl⟩
  cases o with
  | none => exact .lift _
  | some prior =>
    refine .lift_bind _ fun _ _ => ?_
    refine (Simulates.onFst (rampartTrustStoreValidate_simulates h store)).bind ?_
    exact fun _ _ _ => authorizeValidated_simulates R store request

end Alike

/-- The invocation asked for the hash of the whole key of `r`, and the digest in its good answer
begins with the key ID of `r`. -/
def Derives (r : TrustRecord) (inv : Invocation) : Prop :=
  ∃ d, inv = .sha256 (arrayStart r.publicKey) 65 .ok d ∧ vectorAt d.toList 0 8 = r.keyId

/-- The log of a call that ends with the status `st`: good answers for the first records in their
order, and behind them at most one more answer, for the next record. -/
def Interrupted (rs : List TrustRecord) (st : Status) (log : List Invocation) : Prop :=
  ∃ i good, List.Forall₂ Derives (rs.take i) good ∧ (log = good ∨ ∃ r status d, rs[i]? = some r ∧
    log = good ++ [.sha256 (arrayStart r.publicKey) 65 status d] ∧
    (status ≠ .ok → st = .cryptoProvider))

/-- What a call of `rampart_trust_authorize` shows to an observer of the provider: the status
`st`, the calls that the provider got, and the result behind the call. -/
structure FailsClosed (store : TrustStore) (request : TrustRequest) (prior : TrustResult)
    (st : Status) (log : List Invocation) (out : TrustResult) : Prop where
  authorized : st = .ok → log.length = store.count ∧ List.Forall₂ Derives store.entries log
  inOrder : ∀ (i : ℕ) inv, log[i]? = some inv → ∃ r status d, store.entries[i]? = some r ∧
    inv = .sha256 (arrayStart r.publicKey) 65 status d
  refused : ∀ (k : ℕ) inv, log[k]? = some inv → inv.status ≠ .ok →
    st = .cryptoProvider ∧ log.length = k + 1 ∧ out = prior
  uninvoked : (∀ k, ¬ request.WellFormed k) ∨ store.records = none ∨ store.count = 0 ∨
    16 < store.count → log = []
  unchanged : st ≠ .ok → out = prior

theorem exists_of_forall₂ {α β : Type*} {S : α → β → Prop} {l : List α} {m : List β}
    (h : List.Forall₂ S l m) {i : ℕ} {b : β} (hb : m[i]? = some b) :
    ∃ a, l[i]? = some a ∧ S a b := by
  obtain ⟨hi, rfl⟩ := List.getElem?_eq_some_iff.mp hb
  have hl : i < l.length := by rw [h.length_eq]; exact hi
  exact ⟨l[i], List.getElem?_eq_getElem hl, h.get hl hi⟩

theorem getElem?_of_take {α : Type*} {l : List α} {n i : ℕ} {a : α}
    (h : (l.take n)[i]? = some a) : l[i]? = some a := by
  rw [List.getElem?_take] at h
  split_ifs at h
  exact h

theorem Interrupted.of_forall₂ {rs : List TrustRecord} {st : Status} {log : List Invocation}
    (h : List.Forall₂ Derives rs log) : Interrupted rs st log :=
  ⟨rs.length, log, by rwa [List.take_length], .inl rfl⟩

/-- Every entry of the log asks for the hash of the record at its place, and only the last one
can have another status than OK. -/
theorem Interrupted.invocation {rs : List TrustRecord} {st : Status} {log : List Invocation}
    (h : Interrupted rs st log) {j : ℕ} {inv : Invocation} (hj : log[j]? = some inv) :
    ∃ r status d, rs[j]? = some r ∧ inv = .sha256 (arrayStart r.publicKey) 65 status d ∧
      (status ≠ .ok → st = .cryptoProvider ∧ log.length = j + 1) := by
  obtain ⟨i, good, hgood, hlog⟩ := h
  have hderived : good[j]? = some inv → ∃ r d, rs[j]? = some r ∧
      inv = .sha256 (arrayStart r.publicKey) 65 .ok d := by
    intro hinv
    obtain ⟨r, hr, d, rfl, -⟩ := exists_of_forall₂ hgood hinv
    exact ⟨r, d, getElem?_of_take hr, rfl⟩
  rcases hlog with rfl | ⟨r, status, d, hr, rfl, hstatus⟩
  · obtain ⟨r, d, hr, rfl⟩ := hderived hj
    exact ⟨r, _, d, hr, rfl, fun hne => absurd rfl hne⟩
  · have hlen : good.length = i := by
      obtain ⟨hi, -⟩ := List.getElem?_eq_some_iff.mp hr
      rw [← hgood.length_eq, List.length_take]
      omega
    by_cases hlt : j < good.length
    · rw [List.getElem?_append_left hlt] at hj
      obtain ⟨r', d', hr', rfl⟩ := hderived hj
      exact ⟨r', _, d', hr', rfl, fun hne => absurd rfl hne⟩
    · rw [List.getElem?_append_right (by omega), List.getElem?_singleton] at hj
      split_ifs at hj with hzero
      obtain rfl : j = i := by omega
      refine ⟨r, status, d, hr, (Option.some.inj hj).symm, fun hne => ⟨hstatus hne, ?_⟩⟩
      rw [List.length_append, List.length_singleton, hlen]

theorem failsClosed_of_interrupted {prior out : TrustResult} {st : Status} {log : List Invocation}
    (h : Interrupted store.entries st log)
    (hauthorized : st = .ok → log.length = store.count ∧ List.Forall₂ Derives store.entries log)
    (hunchanged : st ≠ .ok → out = prior)
    (hnone : (∀ k, ¬ request.WellFormed k) ∨ store.records = none ∨ store.count = 0 ∨
      16 < store.count → log = []) : FailsClosed store request prior st log out := by
  constructor
  case authorized => exact hauthorized
  case uninvoked => exact hnone
  case unchanged => exact hunchanged
  case inOrder =>
    intro j inv hj
    obtain ⟨r, status, d, hr, hinv, -⟩ := h.invocation hj
    exact ⟨r, status, d, hr, hinv⟩
  case refused =>
    intro j inv hj hbad
    obtain ⟨r, status, d, -, rfl, hstatus⟩ := h.invocation hj
    obtain ⟨rfl, hlen⟩ := hstatus hbad
    exact ⟨rfl, hlen, hunchanged (by decide)⟩

/-- One round asks for at most one hash, and goes on only after a good answer. -/
theorem wps_validateRecord_logged {p : Ptr TrustRecord} (hp : store.records = some p)
    (hpts : p.Points store.entries) {i : ℕ} {r : TrustRecord} (hr : store.entries[i]? = some r)
    (digest : Vector UInt8 32) (ctx : κ) (log : List Invocation) :
    wps (validateRecord store provider.logged i digest)
      (fun _ s => ∃ inv, s.2 = log ++ [inv] ∧ Derives r inv)
      (fun st s => st ≠ .ok ∧ (s.2 = log ∨ ∃ status d,
        s.2 = log ++ [.sha256 (arrayStart r.publicKey) 65 status d] ∧
        (status ≠ .ok → st = .cryptoProvider))) (ctx, log) := by
  obtain ⟨hi, rfl⟩ := List.getElem?_eq_some_iff.mp hr
  unfold validateRecord
  rw [wps_bind, wps_lift, hp, hpts.load_eq hi, wp_ok, wps_bind, wps_lift, wp_rejectIf]
  have hrepeated := wp_rejectRepeated hp hpts hi.le store.entries[i]
  generalize store.entries[i] = r at hrepeated ⊢
  refine ⟨fun _ => ⟨by decide, .inl rfl⟩, fun _ => ?_⟩
  rw [wps_bind, wps_withOut]
  change wps (rampartCryptoHash (some provider.logged) 1 (some ⟨r.publicKey.toList, 0⟩) 65 32) _ _ _
  rw [wps_rampartCryptoHash]
  cases hsha : provider.sha256 with
  | none =>
    rw [CryptoProvider.logged, hsha]
    exact ⟨by decide, .inl rfl⟩
  | some sha256 =>
    rw [CryptoProvider.logged_sha256 hsha]
    rcases hanswer : sha256 (some ⟨r.publicKey.toList, 0⟩) 65 ctx with ⟨⟨status, d⟩, ctx'⟩
    simp only [hanswer]
    split_ifs with hok
    · refine ⟨d, rfl, ?_⟩
      rw [wps_bind, wps_lift]
      have hderived := keyIdsEqual_eq (ε := Status) r.keyId (Ptr.points_whole d.toList) (by simp)
      change wp (keyIdsEqual (arrayStart r.keyId) (some ⟨d.toList, 0⟩)) _ _
      rw [hderived, wp_ok, wps_bind, wps_lift, wp_rejectIf]
      simp only [Bool.not_eq_true', decide_eq_false_iff_not, not_not]
      refine ⟨fun _ => ⟨by decide, .inr ⟨status, d, rfl, fun h => absurd hok h⟩⟩, fun heq => ?_⟩
      rw [wps_bind, wps_lift]
      refine wp_mono hrepeated (fun _ _ => ?_) (fun st hst => ?_)
      · rw [wps_pure]
        exact ⟨_, rfl, d, by rw [hok]; rfl, heq.symm⟩
      · obtain ⟨rfl, -⟩ := hst
        exact ⟨by decide, .inr ⟨status, d, rfl, fun h => absurd hok h⟩⟩
    · exact ⟨by decide, .inr ⟨status, d, rfl, fun _ => trivial⟩⟩

variable (store provider) in
/-- A validation asks for one hash per record as long as the answers are good. -/
theorem wps_rampartTrustStoreValidate_logged (ctx : κ) :
    wps (rampartTrustStoreValidate (some store) (some provider.logged))
      (fun _ s => (∃ p, store.records = some p) ∧ store.count ≠ 0 ∧ store.count ≤ 16 ∧
        List.Forall₂ Derives store.entries s.2)
      (fun st s => st ≠ .ok ∧ Interrupted store.entries st s.2 ∧
        (store.records = none ∨ store.count = 0 ∨ 16 < store.count → s.2 = [])) (ctx, []) := by
  have hvalidate := wps_validation store provider.logged (ctx, [])
    (fun i s => List.Forall₂ Derives (store.entries.take i) s.2)
    (E := fun st s => st ≠ .ok ∧ Interrupted store.entries st s.2 ∧
      (store.records = none ∨ store.count = 0 ∨ 16 < store.count → s.2 = []))
    (fun _ => ⟨by decide, ⟨0, [], .nil, .inl rfl⟩, fun _ => rfl⟩) .nil (by
      rintro p hp hpos hle hpts i r digest ⟨ctx', log⟩ hr hlog
      have hnone : ¬ (store.records = none ∨ store.count = 0 ∨ 16 < store.count) := by
        simp [hp, hpos, hle]
      refine wps_mono (wps_validateRecord_logged hp hpts hr digest ctx' log) ?_ ?_
      · rintro _ s ⟨inv, hs, hd⟩
        obtain ⟨hil, rfl⟩ := List.getElem?_eq_some_iff.mp hr
        rw [List.take_succ_eq_append_getElem hil, hs]
        exact List.rel_append hlog (.cons hd .nil)
      · rintro st s ⟨hst, hs | ⟨status, d, hs, himp⟩⟩
        · exact ⟨hst, ⟨i, log, hlog, .inl hs⟩, fun h => absurd h hnone⟩
        · exact ⟨hst, ⟨i, log, hlog, .inr ⟨r, status, d, hr, hs, himp⟩⟩, fun h => absurd h hnone⟩)
  refine wps_mono hvalidate ?_ (fun _ _ hst => hst)
  rintro _ s ⟨harray, hpos, hle, hlog⟩
  rw [List.take_length] at hlog
  exact ⟨harray, hpos, hle, hlog⟩

variable (store provider request) in
theorem wps_rampartTrustAuthorize_logged (ctx : κ) (prior : TrustResult) :
    wps (rampartTrustAuthorize (some store) (some provider.logged) (some request))
      (fun _ s => ∃ out, s.2 = some out ∧ FailsClosed store request prior .ok s.1.2 out)
      (fun st s => ∃ out, s.2 = some out ∧ FailsClosed store request prior st s.1.2 out)
      ((ctx, []), some prior) := by
  have hfailed : ∀ {st log}, st ≠ .ok → Interrupted store.entries st log →
      ((∀ k, ¬ request.WellFormed k) ∨ store.records = none ∨ store.count = 0 ∨ 16 < store.count →
        log = []) → FailsClosed store request prior st log prior := fun hst hlog hnone =>
    failsClosed_of_interrupted hlog (fun hok => absurd hok hst) (fun _ => rfl) hnone
  refine wps_rampartTrustAuthorize ?_ fun k hw => ?_
  · exact fun _ => ⟨prior, rfl, hfailed (by decide) ⟨0, [], .nil, .inl rfl⟩ fun _ => rfl⟩
  refine wps_mono (wps_rampartTrustStoreValidate_logged store provider ctx) ?_ ?_
  · rintro _ s ⟨⟨p, hp⟩, hpos, hle, hlog⟩
    obtain ⟨-, hlen⟩ := TrustStore.points_entries hp hle
    have hnone : ¬ ((∀ k, ¬ request.WellFormed k) ∨ store.records = none ∨ store.count = 0 ∨
        16 < store.count) := by
      rintro (h | h)
      · exact h k hw
      · simp only [hp, hpos, reduceCtorEq, false_or] at h
        omega
    -- the lookup leaves the log of the complete validation alone, whatever it decides
    refine wps_mono (wps_authorizeValidated hp hle hw prior s) ?_ ?_
    · rintro _ _ ⟨i, r, -, -, -, rfl⟩
      exact ⟨_, rfl, failsClosed_of_interrupted (.of_forall₂ hlog)
        (fun _ => ⟨by rw [← hlog.length_eq, hlen], hlog⟩) (fun hne => absurd rfl hne)
        (fun h => absurd h hnone)⟩
    · rintro st _ ⟨rfl, hst, -⟩
      exact ⟨prior, rfl, hfailed hst (.of_forall₂ hlog) (fun h => absurd h hnone)⟩
  · rintro st s ⟨hst, hlog, hrange⟩
    refine ⟨prior, rfl, hfailed hst hlog ?_⟩
    rintro (h | h)
    · exact absurd hw (h k)
    · exact hrange h

/-- An authorization needs a good answer of the provider for every record. The first other
answer ends the call, and what it wrote into the digest buffer makes no difference. -/
theorem rampartTrustAuthorize_failsClosed (store : TrustStore) (provider : CryptoProvider κ)
    (request : TrustRequest) (ctx : κ) (prior : TrustResult) :
    (∃ st ctx' log out,
      call (rampartTrustAuthorize (some store) (some provider) (some request)) (ctx, some prior) =
        .ok (st, ctx', some out) ∧
      call (rampartTrustAuthorize (some store) (some provider.logged) (some request))
        ((ctx, []), some prior) = .ok (st, (ctx', log), some out) ∧
      FailsClosed store request prior st log out) ∧
    ∀ other : CryptoProvider κ, provider.Alike (· = ·) other →
      call (rampartTrustAuthorize (some store) (some other) (some request)) (ctx, some prior) =
        call (rampartTrustAuthorize (some store) (some provider) (some request))
          (ctx, some prior) := by
  have hplain : ∀ {st ctx' log out},
      call (rampartTrustAuthorize (some store) (some provider.logged) (some request))
        ((ctx, []), some prior) = .ok (st, (ctx', log), some out) →
      call (rampartTrustAuthorize (some store) (some provider) (some request)) (ctx, some prior) =
        .ok (st, ctx', some out) := by
    intro st ctx' log out hcall
    obtain ⟨⟨_, _⟩, hcall', rfl, rfl⟩ := call_of_simulates
      (rampartTrustAuthorize_simulates provider.logged_alike store request)
      (t := (ctx, some prior)) ⟨rfl, rfl⟩ hcall
    exact hcall'
  have hfails : ∃ st ctx' log out,
      call (rampartTrustAuthorize (some store) (some provider) (some request)) (ctx, some prior) =
        .ok (st, ctx', some out) ∧
      call (rampartTrustAuthorize (some store) (some provider.logged) (some request))
        ((ctx, []), some prior) = .ok (st, (ctx', log), some out) ∧
      FailsClosed store request prior st log out := by
    obtain ⟨st, ⟨⟨ctx', log⟩, _⟩, hcall, out, rfl, hf⟩ :=
      exists_call (wps_rampartTrustAuthorize_logged store provider request ctx prior) fun _ h => h
    exact ⟨st, ctx', log, out, hplain hcall, hcall, hf⟩
  refine ⟨hfails, fun other halike => ?_⟩
  obtain ⟨st, ctx', log, out, hcall, -, -⟩ := hfails
  obtain ⟨⟨_, _⟩, hcall', rfl, rfl⟩ := call_of_simulates
    (rampartTrustAuthorize_simulates halike store request) (t := (ctx, some prior)) ⟨rfl, rfl⟩ hcall
  rw [hcall, hcall']

end RampartBoot.Core
