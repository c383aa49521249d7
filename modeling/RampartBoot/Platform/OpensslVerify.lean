import RampartBoot.Platform.OpensslCrypto

/-! # What the verification callback does to the library

Each part of `openssl_verify` owns the objects that its local variables name, and nothing else. So
its common exit releases exactly these, wherever the body was left, and the status tells what was
found out until then.
-/

namespace RampartBoot.Platform
open Foundation RampartBoot.Core

variable {κ : Type} {lib : Libcrypto κ} {E : Ecdsa} {view : κ → LibraryView E.Point} {cap : ℕ}

/-- Since the view `v` the library has gained the objects `owned` and some errors. -/
def Holding (view : κ → LibraryView E.Point) (cap : ℕ) (v : LibraryView E.Point)
    (owned : List (Handle × Object E.Point)) (s : κ) : Prop :=
  Effect cap v (view s) (view s).heap ∧ Footprint v.heap owned (view s).heap

namespace Holding

variable {v : LibraryView E.Point} {owned owned' : List (Handle × Object E.Point)} {s t : κ}
  {heap : Heap (Object E.Point)} {o o' : Object E.Point} {a : Handle}

theorem step (h : Holding view cap v owned s) (he : Effect cap (view s) (view t) heap)
    (hf : Footprint v.heap owned' heap) : Holding view cap v owned' t := by
  obtain rfl := he.heap_eq
  exact ⟨h.1.trans he, hf⟩

theorem keep (h : Holding view cap v owned s)
    (he : Effect cap (view s) (view t) (view s).heap) : Holding view cap v owned t :=
  h.step he h.2

theorem of_eq (h : Holding view cap v owned s) (he : view t = view s) :
    Holding view cap v owned t := by
  unfold Holding
  rwa [he]

theorem alloc {result : Option Handle} (h : Holding view cap v owned s)
    (he : Effect cap (view s) (view t) heap) (halloc : Allocates (view s).heap heap result o) :
    Holding view cap v (result.toList.map (fun a => (a, o)) ++ owned) t :=
  h.step he (h.2.alloc_iff halloc)

theorem free (h : Holding view cap v ((a, o) :: owned) s)
    (he : Effect cap (view s) (view t) (Function.update (view s).heap a none)) :
    Holding view cap v owned t :=
  h.step he h.2.free

theorem write (h : Holding view cap v ((a, o) :: owned) s)
    (he : Effect cap (view s) (view t) (Function.update (view s).heap a (some o'))) :
    Holding view cap v ((a, o') :: owned) t :=
  h.step he h.2.write

theorem perm (h : Holding view cap v owned s) (hperm : owned.Perm owned') :
    Holding view cap v owned' s :=
  ⟨h.1, h.2.perm hperm⟩

end Holding

/-- The scalars of a raw signature are in the range that the group order gives. -/
structure Ecdsa.InRange (E : Ecdsa) (signature : List UInt8) : Prop where
  r_pos : 0 < beValue (signature.take 32)
  r_lt : beValue (signature.take 32) < E.order
  s_pos : 0 < beValue (signature.drop 32)
  s_lt : beValue (signature.drop 32) < E.order

def Ecdsa.Accepts (E : Ecdsa) (key message signature : List UInt8) : Prop :=
  key.head? = some 0x04 ∧ E.InRange signature ∧ ∃ point, E.decode key = some point ∧
    E.Verifies point message (beValue (signature.take 32)) (beValue (signature.drop 32))

/-- What a status says: it decides `accepted`, or the library has failed. A rejection can be relied
on as far as `reports` holds. -/
structure Verdict (accepted reports reliable : Prop) (st : Status) : Prop where
  status : st = .ok ∨ st = .signature ∨ st = .cryptoProvider
  ok : st = .ok → accepted
  signature : st = .signature → reports → ¬ accepted
  provider : st = .cryptoProvider → ¬ reliable

namespace Verdict

variable {accepted reports reliable : Prop} {st : Status}

theorem failed (h : ¬ reliable) : Verdict accepted reports reliable .cryptoProvider :=
  ⟨.inr (.inr rfl), fun h => (by cases h), fun h => (by cases h), fun _ => h⟩

theorem rejected (h : reports → ¬ accepted) : Verdict accepted reports reliable .signature :=
  ⟨.inr (.inl rfl), fun h => (by cases h), fun _ => h, fun h => (by cases h)⟩

theorem accepted_ok (h : accepted) : Verdict accepted reports reliable .ok :=
  ⟨.inl rfl, fun _ => h, fun h => (by cases h), fun h => (by cases h)⟩

/-- A library without failures decides every signature. -/
theorem ok_iff (h : Verdict accepted reports reliable st) (hreports : reports) (hr : reliable) :
    st = .ok ↔ accepted := by
  refine ⟨h.ok, fun ha => ?_⟩
  rcases h.status with hok | hsig | hprov
  · exact hok
  · exact absurd ha (h.signature hsig hreports)
  · exact absurd hr (h.provider hprov)

end Verdict

def cellOf (c : Handle × Object E.Point) : Kind × Handle := (c.2.kind, c.1)

def localCell (kind : Kind) (a : Option Handle) : List (Kind × Handle) := a.toList.map (kind, ·)

def VerifyLocals.cells (l : VerifyLocals) : List (Kind × Handle) :=
  localCell .digestContext l.digestContext ++ (localCell .signature l.ecdsaSignature ++
    (localCell .bignum l.scalarR ++ (localCell .bignum l.scalarS ++ (localCell .bignum l.order ++
      (localCell .key l.key ++ localCell .keyContext l.keyContext)))))

/-- The objects since `v` are those of the local variables. -/
def Releasable (view : κ → LibraryView E.Point) (cap : ℕ) (v : LibraryView E.Point) (s : κ)
    (cells : List (Kind × Handle)) : Prop :=
  ∃ owned, Holding view cap v owned s ∧ owned.map cellOf = cells

/-- The objects are those before, and the queue has lost no more entries than had to make room
for the errors raised. -/
structure Restored (cap : ℕ) {P : Type} (u w : LibraryView P) : Prop where
  heap : w.heap = u.heap
  raised : u.raised ≤ w.raised
  errors : w.errors = u.errors.take (cap - (w.raised - u.raised))

section Cleanup
variable (hl : lib.Lawful E view cap) {v : LibraryView E.Point} {s : κ} {kind : Kind}
  {a : Option Handle} {rest : List (Kind × Handle)}
include hl

/-- A release takes the cell of its variable away, and a null pointer has none. -/
theorem Releasable.free (h : Releasable view cap v s (localCell kind a ++ rest)) :
    Releasable view cap v (lib.free kind a s).2 rest := by
  obtain ⟨owned, hold, hcells⟩ := h
  cases a with
  | none => exact ⟨owned, hold.of_eq (hl.free_null kind s), hcells⟩
  | some a =>
    cases owned with
    | nil => cases hcells
    | cons c owned =>
      obtain ⟨b, o⟩ := c
      obtain ⟨hhead, hrest⟩ := List.cons.inj hcells
      obtain ⟨rfl, rfl⟩ := Prod.mk.inj hhead
      exact ⟨owned, hold.free (hl.free b o s hold.2.head), hrest⟩

omit hl in
theorem Restored.of_eq {P : Type} {u w : LibraryView P} (hu : u.errors.length ≤ cap) (h : w = u) :
    Restored cap u w := by
  subst h
  exact ⟨rfl, Nat.le_refl _, by rw [Nat.sub_self, Nat.sub_zero, List.take_of_length_le hu]⟩

theorem effect_errSetMark (s : κ) : Effect cap { view s with errors := setMark (view s).errors }
    (view (lib.errSetMark s).2) (view s).heap := by
  have hview := (hl.errSetMark s).1
  have hlen := hl.bounded (lib.errSetMark s).2
  rw [hview] at hlen
  refine ⟨[], ?_⟩
  rw [hview, raise, List.map_nil, List.nil_append, List.take_of_length_le hlen]
  rfl

theorem wps_discardProviderErrors {u : LibraryView E.Point} {errorMarkSet : ℤ}
    (hmark : errorMarkSet = 0 ↔ u.errors = [])
    (hs : Effect cap { u with errors := setMark u.errors } (view s) u.heap) :
    wps (discardProviderErrors lib errorMarkSet) (fun _ t => Restored cap u (view t))
      (fun _ _ => False) s := by
  obtain ⟨new, hview⟩ := hs
  have hpopped : popToMark (view s).errors = u.errors.take (cap - new.length) := by
    rw [hview]
    exact popToMark_raise_setMark
  have hcount : u.raised + new.length - u.raised = new.length := Nat.add_sub_cancel_left ..
  unfold discardProviderErrors
  split_ifs with hzero
  · rw [wps_callback, hl.errClearError, hview]
    refine ⟨rfl, Nat.le_add_right .., ?_⟩
    rw [hmark.mp hzero, List.take_nil]
  · obtain ⟨hpop, hfound⟩ := hl.errPopToMark s
    rw [wps_bind, wps_callback]
    by_cases hone : (lib.errPopToMark s).1 = 1
    · rw [if_neg (not_not.mpr hone), wps_pure, hpop, hpopped, hview]
      exact ⟨rfl, Nat.le_add_right .., by rw [hcount]⟩
    · have hnone : popToMark (view s).errors = [] := by
        by_contra hne
        exact hone (hfound.mpr hne)
      rw [if_pos hone, wps_callback, hl.errClearError, hpop, hview]
      refine ⟨rfl, Nat.le_add_right .., ?_⟩
      rw [hcount, ← hpopped, hnone]

/-- The common exit releases what the local variables name and passes the status on. -/
theorem wps_verifyCleanup {u : LibraryView E.Point} {errorMarkSet : ℤ} {l : VerifyLocals}
    (hmark : errorMarkSet = 0 ↔ u.errors = [])
    (h : Releasable view cap { u with errors := setMark u.errors } s l.cells) :
    wps (verifyCleanup lib errorMarkSet l) (fun _ t => .ok = l.status ∧ Restored cap u (view t))
      (fun st t => st = l.status ∧ Restored cap u (view t)) s := by
  have hempty : ∀ t, Releasable view cap { u with errors := setMark u.errors } t
      (localCell .keyContext l.keyContext) → Releasable view cap
      { u with errors := setMark u.errors } (lib.evpPkeyCtxFree l.keyContext t).2 [] := by
    intro t ht
    rw [← List.append_nil (localCell .keyContext l.keyContext)] at ht
    exact ht.free hl
  unfold verifyCleanup
  simp only [wps_bind, wps_callback]
  obtain ⟨owned, hold, hcells⟩ :=
    hempty _ (((((((h.free hl).free hl).free hl).free hl).free hl).free hl))
  obtain rfl := List.map_eq_nil_iff.mp hcells
  obtain ⟨heffect, hfoot⟩ := hold
  rw [Footprint.nil_iff.mp hfoot] at heffect
  refine wps_mono (wps_discardProviderErrors hl hmark heffect) (fun _ t ht => ?_)
    (fun _ _ hf => hf.elim)
  rw [wps_lift, wp_rejectIf]
  exact ⟨fun _ => ⟨rfl, ht⟩, fun hok => ⟨(not_not.mp hok).symm, ht⟩⟩

end Cleanup

theorem entries_signature {q : Ptr UInt8} {signature : List UInt8} (hq : q.Points signature)
    (hlen : signature.length = 64) : entries (some q) 32 = some (signature.take 32) ∧
      (address (some q) 32 : Checked Unit _) = .ok (some ⟨q.obj, q.off + 32⟩) ∧
      entries (some ⟨q.obj, q.off + 32⟩) 32 = some (signature.drop 32) := by
  have hfirst := hq.sub (i := 0) (n := 32) (by omega)
  have hsecond := hq.sub (i := 32) (n := 32) (by omega)
  have hdrop : slice signature 32 32 = signature.drop 32 := by
    rw [slice, List.take_of_length_le (by rw [List.length_drop]; omega)]
  rw [Nat.add_zero, slice_zero] at hfirst
  rw [hdrop] at hsecond
  refine ⟨hfirst.entries_eq ?_, hq.address_eq (by omega), hsecond.entries_eq ?_⟩
  · rw [List.length_take]
    omega
  · rw [List.length_drop]
    omega

section Body
variable (hl : lib.Lawful E view cap) {v : LibraryView E.Point} {context : Option Handle}
  {key message signature : List UInt8}

/-- Where the body may be left: the local variables can be released, and the status is right. -/
structure Ends (lib : Libcrypto κ) (E : Ecdsa) (view : κ → LibraryView E.Point) (cap : ℕ)
    (context : Option Handle) (key message signature : List UInt8) (v : LibraryView E.Point)
    (t : κ × VerifyLocals) : Prop where
  releasable : Releasable view cap v t.1 t.2.cells
  verdict : Verdict (E.Accepts key message signature) (lib.ReportsEncoding E view)
    (lib.Reliable E view context) t.2.status

include hl

/-- An import that failed was reported as badly encoded or not. -/
theorem wps_keyImportFailure (s : κ) :
    wps (keyImportFailure lib) (fun st t => view t = view s ∧
      (st = .signature ∧ lib.IsEncodingError (lib.errPeekLastError s).1 ∨
        st = .cryptoProvider ∧ ¬ lib.IsEncodingError (lib.errPeekLastError s).1))
      (fun _ _ => False) s := by
  unfold keyImportFailure
  rw [wps_bind, wps_callback]
  dsimp only
  split_ifs with hencoding
  · exact ⟨hl.errPeekLastError s, .inl ⟨rfl, hencoding⟩⟩
  · exact ⟨hl.errPeekLastError s, .inr ⟨rfl, hencoding⟩⟩

theorem wps_importKey {encodedKey : Vector UInt8 65} (htag : encodedKey.toList.head? = some 0x04)
    {s : κ} (h : Holding view cap v [] s) :
    wps (importKey lib context encodedKey)
      (fun _ t => ∃ c k point, E.decode encodedKey.toList = some point ∧
        Holding view cap v [(k, .key point), (c, .keyContext)] t.1 ∧
        t.2 = { VerifyLocals.init with keyContext := some c, key := some k })
      (fun _ t => Ends lib E view cap context encodedKey.toList message signature v t)
      (s, VerifyLocals.init) := by
  unfold importKey
  simp only [wps_bind, wps_onFst, wps_callback, wps_assign, wps_lift, leaveIf, wp_rejectIf]
  obtain ⟨heap, heffect, halloc⟩ := hl.evpPkeyCtxNewFromName context s
  have hnew := h.alloc heffect halloc
  constructor
  · intro hnone
    refine ⟨⟨_, hnew, ?_⟩, .failed fun hr => hr.evpPkeyCtxNewFromName s hnone⟩
    rw [hnone]
    rfl
  · intro hsome
    obtain ⟨c, hc⟩ := Option.ne_none_iff_exists'.mp hsome
    rw [hc] at hnew ⊢
    generalize (lib.evpPkeyCtxNewFromName context "EC" s).2 = s₁ at hnew
    have hinit := hnew.keep (hl.evpPkeyFromdataInit c s₁ hnew.2.head)
    constructor
    · intro hfailed
      exact ⟨⟨_, hinit, rfl⟩, .failed fun hr =>
        hfailed (hr.evpPkeyFromdataInit c s₁ hnew.2.head)⟩
    · intro _
      generalize (lib.evpPkeyFromdataInit (some c) s₁).2 = s₂ at hinit
      obtain ⟨heap, point, heffect, halloc, hone⟩ :=
        hl.evpPkeyFromdata c encodedKey.toList s₂ hinit.2.head
      have himport := hinit.alloc heffect halloc
      have hreliable := fun hr : lib.Reliable E view context =>
        hr.evpPkeyFromdata c encodedKey.toList s₂ hinit.2.head htag
      have hreports := fun hr : lib.ReportsEncoding E view =>
        hr c encodedKey.toList s₂ hinit.2.head htag
      generalize lib.evpPkeyFromdata (some c) ⟨"P-256", encodedKey.toList⟩ s₂ = answer at *
      obtain ⟨⟨result, k⟩, s₃⟩ := answer
      dsimp only at himport hone hreliable hreports ⊢
      split_ifs with hfailed
      · simp only [wps_bind, wps_onFst, wps_assign, wps_lift, wp_exit]
        refine wps_mono (wps_keyImportFailure hl s₃) ?_ (fun _ _ hf => hf.elim)
        rintro st t ⟨hview, hst⟩
        refine ⟨⟨_, himport.of_eq hview, by cases k <;> rfl⟩, ?_⟩
        rcases hst with ⟨rfl, hencoding⟩ | ⟨rfl, hencoding⟩
        · refine .rejected ?_
          rintro hr ⟨-, -, p, hp, -⟩
          rw [hreports hr hfailed hencoding] at hp
          cases hp
        · exact .failed fun hr => (hreliable hr).elim hfailed fun h => hencoding h.2
      · obtain ⟨hk, hdecode⟩ := hone (not_not.mp hfailed)
        obtain ⟨k, rfl⟩ := Option.ne_none_iff_exists'.mp hk
        exact ⟨c, k, point, hdecode, himport, rfl⟩

theorem Libcrypto.Lawful.outOfRange_iff {base : Heap (Object E.Point)} {r s' o : Handle}
    {owned : List (Handle × Object E.Point)} {s : κ}
    (h : Footprint base ((s', .bignum (beValue (signature.drop 32))) ::
      (r, .bignum (beValue (signature.take 32))) :: (o, .bignum E.order) :: owned)
      (view s).heap) :
    (lib.bnIsZero (some r) s ∨ lib.bnIsZero (some s') s ∨ 0 ≤ lib.bnCmp (some r) (some o) s ∨
      0 ≤ lib.bnCmp (some s') (some o) s) ↔ ¬ E.InRange signature := by
  have hs := h.held s' (.bignum (beValue (signature.drop 32))) (by simp)
  have hr := h.held r (.bignum (beValue (signature.take 32))) (by simp)
  have ho := h.held o (.bignum E.order) (by simp)
  rw [hl.bnIsZero r _ s hr, hl.bnIsZero s' _ s hs, hl.bnCmp r o _ _ s hr ho,
    hl.bnCmp s' o _ _ s hs ho]
  constructor
  · rintro hout ⟨hrpos, hrlt, hspos, hslt⟩
    omega
  · intro hnot
    by_contra hin
    exact hnot ⟨by omega, by omega, by omega, by omega⟩

theorem wps_readScalars {q : Ptr UInt8} (hq : q.Points signature) (hlen : signature.length = 64)
    {c k : Handle} {point : E.Point} {s : κ}
    (h : Holding view cap v [(k, .key point), (c, .keyContext)] s) :
    wps (readScalars lib (some q))
      (fun _ t => ∃ o r s, E.InRange signature ∧
        Holding view cap v [(s, .bignum (beValue (signature.drop 32))),
          (r, .bignum (beValue (signature.take 32))), (o, .bignum E.order), (k, .key point),
          (c, .keyContext)] t.1 ∧
        t.2 = { VerifyLocals.init with
          keyContext := some c, key := some k, order := some o, scalarR := some r,
          scalarS := some s })
      (fun _ t => Ends lib E view cap context key message signature v t)
      (s, { VerifyLocals.init with keyContext := some c, key := some k }) := by
  obtain ⟨hfirst, haddress, hsecond⟩ := entries_signature hq hlen
  unfold readScalars
  simp only [wps_bind, wps_get, wps_onFst, wps_callback, wps_assign, wps_lift, leaveIf,
    wp_rejectIf, haddress, wp_ok]
  obtain ⟨heap, n, heffect, halloc, hone⟩ := hl.evpPkeyGetBnParam k point s h.2.head
  have horder := h.alloc heffect halloc
  have hreliable := fun hr : lib.Reliable E view context =>
    hr.evpPkeyGetBnParam k point s h.2.head
  generalize lib.evpPkeyGetBnParam (some k) "order" s = answer at *
  obtain ⟨⟨result, o⟩, s₁⟩ := answer
  dsimp only at horder hone hreliable ⊢
  constructor
  · intro hfailed
    exact ⟨⟨_, horder, by cases o <;> rfl⟩, .failed fun hr => hfailed (hreliable hr)⟩
  · intro hok
    obtain ⟨ho, rfl⟩ := hone (not_not.mp hok)
    obtain ⟨o, rfl⟩ := Option.ne_none_iff_exists'.mp ho
    obtain ⟨heap, heffect, halloc⟩ := hl.bnBin2bn _ 32 _ s₁ hfirst
    have hr := horder.alloc heffect halloc
    have hrelR := fun hrel : lib.Reliable E view context => hrel.bnBin2bn _ 32 _ s₁ hfirst
    generalize lib.bnBin2bn (some q) 32 s₁ = answer at *
    obtain ⟨r, s₂⟩ := answer
    dsimp only at hr hrelR ⊢
    obtain ⟨heap, heffect, halloc⟩ := hl.bnBin2bn _ 32 _ s₂ hsecond
    have hs := hr.alloc heffect halloc
    have hrelS := fun hrel : lib.Reliable E view context => hrel.bnBin2bn _ 32 _ s₂ hsecond
    generalize lib.bnBin2bn (some ⟨q.obj, q.off + 32⟩) 32 s₂ = answer at *
    obtain ⟨s', s₃⟩ := answer
    dsimp only at hs hrelS ⊢
    constructor
    · intro hnone
      refine ⟨?_, .failed fun hrel => hnone.elim (hrelR hrel) (hrelS hrel)⟩
      -- the cleanup comes to `r` first, and `s` was read last
      cases r with
      | none => exact ⟨_, hs, by cases s' <;> rfl⟩
      | some r =>
        cases s' with
        | none => exact ⟨_, hs, rfl⟩
        | some s' => exact ⟨_, hs.perm (.swap ..), rfl⟩
    · intro hsome
      obtain ⟨hr', hs'⟩ := not_or.mp hsome
      obtain ⟨r, rfl⟩ := Option.ne_none_iff_exists'.mp hr'
      obtain ⟨s', rfl⟩ := Option.ne_none_iff_exists'.mp hs'
      have hrange := hl.outOfRange_iff hs.2
      split_ifs with hout
      · simp only [wps_bind, wps_assign, wps_lift, wp_exit]
        exact ⟨⟨_, hs.perm (.swap ..), rfl⟩, .rejected fun _ ha => hrange.mp hout ha.2.1⟩
      · exact ⟨o, r, s', not_not.mp (fun hn => hout (hrange.mpr hn)), hs, rfl⟩

/-- A raw signature in range has the length in DER that the buffer was made for. -/
theorem wps_encodeSignature (hin : E.InRange signature) {c k o r s' : Handle} {point : E.Point}
    {s : κ} (h : Holding view cap v [(s', .bignum (beValue (signature.drop 32))),
      (r, .bignum (beValue (signature.take 32))), (o, .bignum E.order), (k, .key point),
      (c, .keyContext)] s) :
    wps (encodeSignature lib)
      (fun der t => ∃ g,
        der = derSignature (beValue (signature.take 32)) (beValue (signature.drop 32)) ∧
        Holding view cap v [(g, .signature (some (beValue (signature.take 32),
            beValue (signature.drop 32)))), (o, .bignum E.order), (k, .key point),
          (c, .keyContext)] t.1 ∧
        t.2 = { VerifyLocals.init with
          keyContext := some c, key := some k, order := some o, ecdsaSignature := some g })
      (fun _ t => Ends lib E view cap context key message signature v t)
      (s, { VerifyLocals.init with
        keyContext := some c, key := some k, order := some o, scalarR := some r,
        scalarS := some s' }) := by
  have hr256 : beValue (signature.take 32) < 2 ^ 256 := hin.r_lt.trans E.order_lt
  have hs256 : beValue (signature.drop 32) < 2 ^ 256 := hin.s_lt.trans E.order_lt
  have hlen := derSignature_length_le hr256 hs256
  unfold encodeSignature
  simp only [wps_bind, wps_get, wps_onFst, wps_callback, wps_assign, wps_lift, leaveIf,
    wp_rejectIf]
  obtain ⟨heap, heffect, halloc⟩ := hl.ecdsaSigNew s
  have hnew := h.alloc heffect halloc
  have hrelNew := fun hrel : lib.Reliable E view context => hrel.ecdsaSigNew s
  generalize lib.ecdsaSigNew s = answer at *
  obtain ⟨g, s₁⟩ := answer
  dsimp only at hnew hrelNew ⊢
  constructor
  · rintro rfl
    exact ⟨⟨_, hnew.perm (.swap ..), rfl⟩, .failed fun hrel => hrelNew hrel rfl⟩
  intro hsome
  obtain ⟨g, rfl⟩ := Option.ne_none_iff_exists'.mp hsome
  have hobjects : (view s₁).heap g = some (.signature none) ∧
      (view s₁).heap r = some (.bignum (beValue (signature.take 32))) ∧
      (view s₁).heap s' = some (.bignum (beValue (signature.drop 32))) :=
    ⟨hnew.2.head, hnew.2.held _ _ (by simp), hnew.2.held _ _ (by simp)⟩
  obtain ⟨hg, hr, hs⟩ := hobjects
  obtain ⟨hset, hkept⟩ := hl.ecdsaSigSet0 g r s' _ _ s₁ hg hr hs
  have hrelSet := fun hrel : lib.Reliable E view context => hrel.ecdsaSigSet0 g r s' _ _ s₁ hg hr hs
  generalize lib.ecdsaSigSet0 (some g) (some r) (some s') s₁ = answer at *
  obtain ⟨owned, s₂⟩ := answer
  dsimp only at hset hkept hrelSet ⊢
  constructor
  · intro hfailed
    have hold := hnew.keep (hkept hfailed)
    exact ⟨⟨_, hold.perm (.cons _ (.swap ..)), rfl⟩, .failed fun hrel => hfailed (hrelSet hrel)⟩
  intro hone
  -- the signature has taken the scalars over
  have htaken := hnew.step (hset (not_not.mp hone))
    (((hnew.2.write.perm (.trans (.cons _ (.swap ..)) (.swap ..))).free.perm (.swap ..)).free)
  have hannounce := hl.i2dEcdsaSig g _ _ false s₂ htaken.2.head hr256 hs256
  have hrelAnnounce := fun hrel : lib.Reliable E view context =>
    hrel.i2dEcdsaSig g _ false s₂ htaken.2.head
  generalize lib.i2dEcdsaSig (some g) false s₂ = answer at *
  obtain ⟨⟨derLen, _⟩, s₃⟩ := answer
  dsimp only at hannounce hrelAnnounce ⊢
  obtain ⟨heffect₃, hderLen, -, -⟩ := hannounce
  have hold₃ := htaken.keep heffect₃
  constructor
  · intro hfailed
    refine ⟨⟨_, hold₃, rfl⟩, .failed fun hrel => ?_⟩
    have hpos := hrelAnnounce hrel
    have hval := hderLen hpos
    omega
  intro hfits
  have hpos : 0 < derLen := by omega
  have hval := hderLen hpos
  have hwrite := hl.i2dEcdsaSig g _ _ true s₃ hold₃.2.head hr256 hs256
  have hrelWrite := fun hrel : lib.Reliable E view context =>
    hrel.i2dEcdsaSig g _ true s₃ hold₃.2.head
  generalize lib.i2dEcdsaSig (some g) true s₃ = answer at *
  obtain ⟨⟨result, written⟩, s₄⟩ := answer
  dsimp only at hwrite hrelWrite ⊢
  obtain ⟨heffect₄, hresult, hroom, hder⟩ := hwrite
  have hold₄ := hold₃.keep heffect₄
  rw [if_pos (hroom.trans hlen), wp_pure]
  constructor
  · intro hfailed
    refine ⟨⟨_, hold₄, rfl⟩, .failed fun hrel => hfailed ?_⟩
    rw [hresult (hrelWrite hrel), hval]
  · intro hsame
    obtain rfl := not_not.mp hsame
    obtain rfl := hder hpos rfl
    have hwhole : result.toNat = (derSignature (beValue (signature.take 32))
        (beValue (signature.drop 32))).length := by omega
    rw [if_pos hwhole.le, hwhole, List.take_length]
    exact ⟨g, rfl, hold₄, rfl⟩

theorem wps_verifyMessage (htag : key.head? = some 0x04) (hin : E.InRange signature)
    {input : Option (Ptr UInt8)} {len : ℕ} (hinput : messageBytes input len = some message)
    {c k o g : Handle} {point : E.Point} (hdecode : E.decode key = some point) {s : κ}
    (h : Holding view cap v [(g, .signature (some (beValue (signature.take 32),
      beValue (signature.drop 32)))), (o, .bignum E.order), (k, .key point), (c, .keyContext)] s) :
    wps (verifyMessage lib context
        (derSignature (beValue (signature.take 32)) (beValue (signature.drop 32))) input len)
      (fun _ t => Ends lib E view cap context key message signature v t)
      (fun _ t => Ends lib E view cap context key message signature v t)
      (s, { VerifyLocals.init with
        keyContext := some c, key := some k, order := some o, ecdsaSignature := some g }) := by
  have hr256 : beValue (signature.take 32) < 2 ^ 256 := hin.r_lt.trans E.order_lt
  have hs256 : beValue (signature.drop 32) < 2 ^ 256 := hin.s_lt.trans E.order_lt
  unfold verifyMessage
  simp only [wps_bind, wps_get, wps_onFst, wps_callback, wps_assign, wps_lift, leaveIf,
    wp_rejectIf]
  obtain ⟨heap, heffect, halloc⟩ := hl.evpMdCtxNew s
  have hnew := h.alloc heffect halloc
  have hrelNew := fun hrel : lib.Reliable E view context => hrel.evpMdCtxNew s
  generalize lib.evpMdCtxNew s = answer at *
  obtain ⟨d, s₁⟩ := answer
  dsimp only at hnew hrelNew ⊢
  constructor
  · rintro rfl
    exact ⟨⟨_, hnew, rfl⟩, .failed fun hrel => hrelNew hrel rfl⟩
  intro hsome
  obtain ⟨d, rfl⟩ := Option.ne_none_iff_exists'.mp hsome
  have hk : (view s₁).heap k = some (.key point) := hnew.2.held _ _ (by simp)
  obtain ⟨bound, heffect, hbound⟩ := hl.evpDigestVerifyInitEx d context k point s₁ hnew.2.head hk
  have hinit := hnew.write heffect
  have hrelInit := fun hrel : lib.Reliable E view context =>
    hrel.evpDigestVerifyInitEx d k point s₁ hnew.2.head hk
  generalize lib.evpDigestVerifyInitEx (some d) "SHA256" context (some k) s₁ = answer at *
  obtain ⟨result, s₂⟩ := answer
  dsimp only at hinit hbound hrelInit ⊢
  constructor
  · intro hfailed
    exact ⟨⟨_, hinit, rfl⟩, .failed fun hrel => hfailed (hrelInit hrel)⟩
  intro hone
  obtain rfl := hbound (not_not.mp hone)
  obtain ⟨_, heffect, hanswer⟩ := hl.evpDigestVerify d point _ input len message s₂ hinit.2.head
    hinput
  obtain ⟨hvalid, hinvalid⟩ := hanswer _ _ hr256 hs256 rfl
  have hdone := hinit.write heffect
  have hrelVerify := fun hrel : lib.Reliable E view context =>
    hrel.evpDigestVerify d point _ _ input len message s₂ hinit.2.head hinput hin.r_pos hin.r_lt
      hin.s_pos hin.s_lt
  generalize lib.evpDigestVerify (some d) (derSignature (beValue (signature.take 32))
    (beValue (signature.drop 32))) input len s₂ = answer at *
  obtain ⟨result, s₃⟩ := answer
  dsimp only at hdone hvalid hinvalid hrelVerify ⊢
  split_ifs with h₁ h₀
  · exact ⟨⟨_, hdone, rfl⟩, .accepted_ok ⟨htag, hin, point, hdecode, hvalid h₁⟩⟩
  · refine ⟨⟨_, hdone, rfl⟩, .rejected ?_⟩
    rintro - ⟨-, -, p, hp, hverifies⟩
    obtain rfl := Option.some.inj (hdecode.symm.trans hp)
    exact hinvalid h₀ hverifies
  · exact ⟨⟨_, hdone, rfl⟩, .failed fun hrel => (hrelVerify hrel).elim h₁ h₀⟩

/-- Wherever the body is left, its objects can be released and its status is right. -/
theorem wps_verifyBody {encodedKey : Vector UInt8 65} (htag : encodedKey.toList.head? = some 0x04)
    {q : Ptr UInt8} (hq : q.Points signature) (hlen : signature.length = 64)
    {input : Option (Ptr UInt8)} {len : ℕ} (hinput : messageBytes input len = some message) {s : κ}
    (h : Holding view cap v [] s) :
    wps (verifyBody lib context input len encodedKey (some q))
      (fun _ t => Ends lib E view cap context encodedKey.toList message signature v t)
      (fun _ t => Ends lib E view cap context encodedKey.toList message signature v t)
      (s, VerifyLocals.init) := by
  unfold verifyBody
  rw [wps_bind]
  refine wps_mono (wps_importKey hl htag h) ?_ (fun _ _ he => he)
  rintro _ ⟨s₁, _⟩ ⟨c, k, point, hdecode, h₁, rfl⟩
  rw [wps_bind]
  refine wps_mono (wps_readScalars hl hq hlen h₁) ?_ (fun _ _ he => he)
  rintro _ ⟨s₂, _⟩ ⟨o, r, s', hin, h₂, rfl⟩
  rw [wps_bind]
  refine wps_mono (wps_encodeSignature hl hin h₂) ?_ (fun _ _ he => he)
  rintro _ ⟨s₃, _⟩ ⟨g, rfl, h₃, rfl⟩
  exact wps_verifyMessage hl htag hin hinput hdecode h₃

end Body

theorem copyKey_eq {p : Ptr UInt8} {key : Vector UInt8 65} (hp : p.Points key.toList) :
    copyKey (some p) = .ok key := by
  -- the bytes below the index have been copied
  let copied (i : ℕ) (d : Vector UInt8 65) : Prop := ∀ j (hj : j < 65), j < i → d[j] = key[j]
  have hstep : ∀ i d, 0 ≤ i → i < 0 + 65 → copied i d →
      wp (do
        let byte ← load (some p) i
        if h : i < 65 then pure (d.set i byte) else fault .store : Checked Status _)
        (copied (i + 1)) (fun _ => False) := by
    intro i d _ hi hd
    have h65 : i < 65 := by omega
    rw [bind_of_eq_ok (hp.load_eq (by simpa using h65)), dif_pos h65, wp_pure]
    intro j hj hji
    by_cases hij : j = i
    · subst hij
      simp
    · rw [Vector.getElem_set_ne _ _ (Ne.symm hij)]
      exact hd j hj (by omega)
  rw [eq_ok_iff_wp]
  refine wp_mono (wp_forFrom copied 0 65 _ (fun j _ hj => absurd hj (by omega)) hstep)
    (fun d hd => ?_) (fun _ => id)
  ext j hj
  rw [hd j hj (by omega)]

theorem messageBytes_getD {message : Option (Ptr UInt8)} {len : ℕ} {m : List UInt8}
    (h : messageBytes message len = some m) :
    messageBytes (some (message.getD emptyMessage)) len = some m := by
  cases message with
  | some p => exact h
  | none =>
    unfold messageBytes at h ⊢
    split_ifs at h ⊢
    · exact h
    · cases h

theorem not_null_of_messageBytes {message : Option (Ptr UInt8)} {len : ℕ} {m : List UInt8}
    (h : messageBytes message len = some m) : ¬ (message.isNone ∧ len ≠ 0) := by
  rintro ⟨hnone, hlen⟩
  rw [Option.isNone_iff_eq_none.mp hnone, messageBytes, if_neg hlen] at h
  cases h

section Call
variable (hl : lib.Lawful E view cap)
include hl

/-- Every call on a key and a signature of the right lengths comes to an end with a status that
is right, and leaves the library behind as it found it. -/
theorem call_opensslVerify (context : Option HostOpensslContext) {input : Option (Ptr UInt8)}
    {len : ℕ} {message : List UInt8} (hinput : messageBytes input len = some message)
    {p q : Ptr UInt8} {key : Vector UInt8 65} {signature : Vector UInt8 64}
    (hp : p.Points key.toList) (hq : q.Points signature.toList) (s : κ) :
    ∃ st t, call (opensslVerify lib context input len (some p) (some q)) s = .ok (st, t) ∧
      Verdict (E.Accepts key.toList message signature.toList) (lib.ReportsEncoding E view)
        (lib.Reliable E view (context.bind HostOpensslContext.libraryContext)) st ∧
      Restored cap (view s) (view t) := by
  refine exists_call (Q := fun _ t => Verdict (E.Accepts key.toList message signature.toList)
    (lib.ReportsEncoding E view)
    (lib.Reliable E view (context.bind HostOpensslContext.libraryContext)) .ok ∧
    Restored cap (view s) (view t)) ?_ (fun _ h => h)
  have hnull := not_null_of_messageBytes hinput
  have hload : (load (some p) 0 : Checked Status UInt8) = .ok key[0] := by
    rw [hp.load_eq (by simp)]
    simp
  have hhead : key.toList.head? = some key[0] := by
    rw [List.head?_eq_getElem?, List.getElem?_eq_getElem (by simp)]
    simp
  unfold opensslVerify
  simp only [wps_bind, wps_lift, wp_rejectIf, Option.isNone_some, Bool.false_eq_true, false_or,
    hnull, false_imp_iff, true_and, not_false_eq_true, true_imp_iff, hload, wp_ok]
  constructor
  · intro htag
    exact ⟨.rejected fun _ ha => htag (Option.some.inj (hhead.symm.trans ha.1)),
      .of_eq (hl.bounded s) rfl⟩
  · intro htag
    rw [copyKey_eq hp, wp_ok, wps_callback, wps_withCleanup]
    have hmark := effect_errSetMark hl s
    have hold : Holding view cap { view s with errors := setMark (view s).errors } []
        (lib.errSetMark s).2 := by
      have hheap := hmark.heap_eq
      exact ⟨hheap.symm ▸ hmark, Footprint.nil_iff.mpr hheap⟩
    have hends : wps (verifyBody lib (context.bind HostOpensslContext.libraryContext)
        (some (input.getD emptyMessage)) len key (some q)) _ _ _ :=
      wps_verifyBody hl (hhead.trans (congrArg some (not_not.mp htag))) hq Vector.length_toList
        (messageBytes_getD hinput) hold
    have hexit : ∀ t : κ × VerifyLocals, Ends lib E view cap
        (context.bind HostOpensslContext.libraryContext) key.toList message signature.toList
        { view s with errors := setMark (view s).errors } t →
        wps (verifyCleanup lib (lib.errSetMark s).1 t.2)
          (fun _ t => Verdict (E.Accepts key.toList message signature.toList)
            (lib.ReportsEncoding E view)
            (lib.Reliable E view (context.bind HostOpensslContext.libraryContext)) .ok ∧
            Restored cap (view s) (view t))
          (fun st t => Verdict (E.Accepts key.toList message signature.toList)
            (lib.ReportsEncoding E view)
            (lib.Reliable E view (context.bind HostOpensslContext.libraryContext)) st ∧
            Restored cap (view s) (view t)) t.1 := by
      intro t ht
      refine wps_mono (wps_verifyCleanup hl (hl.errSetMark s).2 ht.releasable) ?_ ?_
      · rintro _ t' ⟨hok, hrestored⟩
        exact ⟨hok ▸ ht.verdict, hrestored⟩
      · rintro st t' ⟨rfl, hrestored⟩
        exact ⟨ht.verdict, hrestored⟩
    exact wps_mono hends (fun _ t ht => hexit t ht) fun _ t ht => hexit t ht

end Call

end RampartBoot.Platform
