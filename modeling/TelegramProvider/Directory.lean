import TelegramProvider.Callee
import TelegramProvider.Contexts
import TelegramProvider.Legs

/-!
# The directory of a process

`DialTg` finds the user of a username or a phone number in a cache that all bridges share, and asks
TDLib for one it does not have. The cache is never cleared while the process runs.

So the cache is a directory : `Cache.callee` says whom an extension stands for, an answer that was
found once is found again (`Cache.Grows`), and TDLib is not asked for it any more. `directed_of_run`
says of whole runs that every call to Telegram is to the user the final cache has for the extension
that was dialed. The same extension is never connected to two users, nor is it when a username has a
new owner.
-/

set_option autoImplicit false

namespace TelegramProvider

open Runs Actions

/-! ## Whom an extension stands for -/

namespace Cache

/-- What is known stays known. -/
structure Grows (cache cache' : Cache) : Prop where
  names : ∀ name id, cache.usernameCache name = some id → cache'.usernameCache name = some id
  phones : ∀ phone id, cache.phoneCache phone = some id → cache'.phoneCache phone = some id

theorem Grows.refl (cache : Cache) : cache.Grows cache :=
  ⟨fun _ _ h => h, fun _ _ h => h⟩

theorem Grows.trans {cache cache₁ cache' : Cache} (h : cache.Grows cache₁)
    (h' : cache₁.Grows cache') : cache.Grows cache' :=
  ⟨fun name id hid => h'.names name id (h.names name id hid),
    fun phone id hid => h'.phones phone id (h.phones phone id hid)⟩

theorem grows_of_eq {cache cache' : Cache} (h : cache' = cache) : cache.Grows cache' :=
  h ▸ Grows.refl cache

/-- The user an extension stands for. One that can not be read stands for the user of a context in
which nothing was read. -/
def callee (cache : Cache) (ext : String) : Option ℤ :=
  match Extension.parse ext with
  | some (.username name) => cache.usernameCache name
  | some (.phone digits) => cache.phoneCache digits
  | some (.userId id) => some id
  | none => some 0

theorem Grows.callee {cache cache' : Cache} {ext : String} {id : ℤ} (h : cache.Grows cache')
    (hid : cache.callee ext = some id) : cache'.callee ext = some id := by
  unfold Cache.callee at hid ⊢
  cases hparse : Extension.parse ext with
  | none => simpa [hparse] using hid
  | some x =>
    cases x with
    | username name => exact h.names name id (by simpa [hparse] using hid)
    | phone digits => exact h.phones digits id (by simpa [hparse] using hid)
    | userId id' => simpa [hparse] using hid

end Cache

namespace Context

/-- The extension is what was read, or it could not be read and nothing was. -/
def Reads (ext : String) (ctx : Context) : Prop :=
  match Extension.parse ext with
  | some x => ctx.HasRead x
  | none => ctx.Fresh

/-- The user a context stands for, by the fields `DialTg` looks at. -/
def callee (cache : Cache) (ctx : Context) : Option ℤ :=
  if ctx.extUsername ≠ "" then cache.usernameCache ctx.extUsername
  else if ctx.extPhone ≠ "" then cache.phoneCache ctx.extPhone
  else some ctx.userId

theorem Reads.callee {ext : String} {ctx : Context} (h : ctx.Reads ext) (cache : Cache) :
    ctx.callee cache = cache.callee ext := by
  unfold Reads at h
  unfold Context.callee Cache.callee
  cases hparse : Extension.parse ext with
  | none =>
    obtain ⟨hname, hphone, hid⟩ : ctx.Fresh := by simpa [hparse] using h
    simp [hname, hphone, hid]
  | some x =>
    have hread : ctx.HasRead x := by simpa [hparse] using h
    have hnames := parse_eq_some_iff.1 hparse
    cases hnames with
    | username name hne =>
      obtain ⟨hname, -, -⟩ := hread
      simp [hname, hne]
    | phone digits hne =>
      obtain ⟨hname, hphone, -⟩ := hread
      simp [hname, hphone, hne]
    | userId hne =>
      obtain ⟨hname, hphone, hid⟩ := hread
      simp [hname, hphone, hid]

end Context

/-! ## One call -/

/-- The query asks for somebody who is not in the cache. -/
def Td.Query.Unknown (cache : Cache) : Query → Prop
  | .searchPublicChat name => cache.usernameCache name = none
  | .importContacts phones => ∀ phone ∈ phones, cache.phoneCache phone = none
  | _ => False

/-- What is recorded of a call to Telegram : who is asked for was not known before, and the user
that is called is known afterwards. -/
structure Directs (ctx : Context) (cache cache' : Cache) (obs : List Obs) : Prop where
  lookup : ∀ c q, .query c q ∈ obs → IsLookup q → q.Unknown cache
  call : ∀ c id protocol isVideo, .query c (.createCall id protocol isVideo) ∈ obs →
    c = ctx.id ∧ ctx.callee cache' = some id
  accept : ∀ c e, .action c .acceptIncomingSip e ∉ obs

/-- A frame after a call to Telegram, which may have had a lookup. -/
def Directed (f f' : Frame) : Prop :=
  f.deps.cache.Grows f'.deps.cache ∧ ∃ obs, f'.deps.trace = f.deps.trace ++ obs ∧
    Directs f.ctx f.deps.cache f'.deps.cache obs

section dial

variable {settings : Settings} {r : Replies} {f f' : Frame} {id : ℤ}

/-- An error is queued, and maybe calls are blocked. -/
theorem exists_of_dialFailed {error : Td.Error} (h : dialFailed settings r error f = .ok f') :
    f'.deps.cache = f.deps.cache ∧
      ∃ prm, f'.deps.trace = f.deps.trace ++ [.failed f.ctx.id prm] := by
  obtain rfl | ⟨t, rfl⟩ := exists_block_of_parseError h <;> exact ⟨rfl, _, rfl⟩

/-- One user is called, and the entry behind that is no query. -/
theorem exists_of_dialById (h : dialById settings r id f = .ok f') :
    f'.deps.cache = f.deps.cache ∧ ∃ o, (∀ c q, o ≠ .query c q) ∧ (∀ c a e, o ≠ .action c a e) ∧
      f'.deps.trace = f.deps.trace ++
        [.query f.ctx.id (.createCall id (callProtocol settings) false), o] := by
  unfold dialById at h
  cases hreply : r.createCall with
  | error error =>
    rw [hreply] at h
    obtain ⟨hcache, prm, htrace⟩ := exists_of_dialFailed h
    exact ⟨hcache, .failed f.ctx.id prm, nofun, nofun, by simpa using htrace⟩
  | ok callId =>
    rw [hreply] at h
    obtain rfl := Except.ok.inj h
    exact ⟨rfl, .tgAssociated f.ctx.id callId, nofun, nofun, by simp⟩

/-- The user that is in the cache is called. -/
theorem directed_known (hknown : f.ctx.callee f.deps.cache = some id)
    (h : dialById settings r id f = .ok f') : Directed f f' := by
  obtain ⟨hcache, o, hquery, haction, htrace⟩ := exists_of_dialById h
  refine ⟨Cache.grows_of_eq hcache, _, htrace, ?_, ?_, ?_⟩
  · intro c q hmem hlookup
    obtain ⟨-, rfl⟩ : c = f.ctx.id ∧ q = .createCall id (callProtocol settings) false := by
      simpa [(hquery c q).symm] using hmem
    exact hlookup.elim
  · intro c id' protocol isVideo hmem
    obtain ⟨rfl, rfl, -⟩ : c = f.ctx.id ∧ id' = id ∧ _ := by
      simpa [(hquery c _).symm, and_assoc] using hmem
    exact ⟨rfl, hcache ▸ hknown⟩
  · intro c e hmem
    simp [(haction c _ e).symm] at hmem

/-- A lookup that finds nobody. -/
theorem directed_failed (q : Td.Query) (prm : Sip.CallOpParam) (hq : IsLookup q)
    (hunknown : q.Unknown f.deps.cache) (hcache : f'.deps.cache = f.deps.cache)
    (htrace : f'.deps.trace = f.deps.trace ++ [.query f.ctx.id q, .failed f.ctx.id prm]) :
    Directed f f' := by
  refine ⟨Cache.grows_of_eq hcache, _, htrace, ?_, ?_, by simp⟩
  · intro c q' hmem _
    obtain ⟨-, rfl⟩ : c = f.ctx.id ∧ q' = q := by simpa using hmem
    exact hunknown
  · intro c id' protocol isVideo hmem
    obtain ⟨-, rfl⟩ : c = f.ctx.id ∧ .createCall id' protocol isVideo = q := by simpa using hmem
    exact hq.elim

/-- A lookup that finds the user, who is kept and called. -/
theorem directed_found (q : Td.Query) {g : Cache → Cache} (hq : IsLookup q)
    (hunknown : q.Unknown f.deps.cache) (hgrows : f.deps.cache.Grows (g f.deps.cache))
    (hfound : f.ctx.callee (g f.deps.cache) = some id)
    (h : dialById settings r id ((f.send q).modifyCache g) = .ok f') : Directed f f' := by
  obtain ⟨hcache, o, hquery, haction, htrace⟩ := exists_of_dialById h
  have hcache' : f'.deps.cache = g f.deps.cache := hcache
  refine ⟨hcache' ▸ hgrows, [.query f.ctx.id q,
    .query f.ctx.id (.createCall id (callProtocol settings) false), o], ?_, ?_, ?_, ?_⟩
  · simpa using htrace
  · intro c q' hmem hlookup
    obtain ⟨-, rfl⟩ | ⟨-, rfl⟩ : (c = f.ctx.id ∧ q' = q) ∨
        (c = f.ctx.id ∧ q' = .createCall id (callProtocol settings) false) := by
      simpa [(hquery c q').symm] using hmem
    · exact hunknown
    · exact hlookup.elim
  · intro c id' protocol isVideo hmem
    obtain ⟨-, rfl⟩ | ⟨rfl, rfl, -⟩ : (c = f.ctx.id ∧ .createCall id' protocol isVideo = q) ∨
        (c = f.ctx.id ∧ id' = id ∧ _) := by
      simpa [(hquery c _).symm, and_assoc] using hmem
    · exact hq.elim
    · exact ⟨rfl, hcache' ▸ hfound⟩
  · intro c e hmem
    simp [(haction c _ e).symm] at hmem

theorem directed_dialByPhone (hname : f.ctx.extUsername = "") (hphone : f.ctx.extPhone ≠ "")
    (h : dialByPhone settings r f = .ok f') : Directed f f' := by
  have hcallee : ∀ cache : Cache, f.ctx.callee cache = cache.phoneCache f.ctx.extPhone := by
    simp [Context.callee, hname, hphone]
  unfold dialByPhone at h
  cases hknown : f.deps.cache.phoneCache f.ctx.extPhone with
  | some id =>
    rw [hknown] at h
    exact directed_known ((hcallee _).trans hknown) h
  | none =>
    have hunknown : Td.Query.Unknown f.deps.cache (.importContacts [f.ctx.extPhone]) := by
      simpa [Td.Query.Unknown] using hknown
    simp only [hknown] at h
    cases hreply : r.importContacts with
    | error error =>
      rw [hreply] at h
      obtain ⟨hcache, prm, htrace⟩ := exists_of_dialFailed h
      exact directed_failed (.importContacts [f.ctx.extPhone]) prm trivial hunknown hcache
        (by simpa using htrace)
    | ok contacts =>
      simp only [hreply] at h
      split_ifs at h
      · obtain rfl := Except.ok.inj h
        exact directed_failed (.importContacts [f.ctx.extPhone]) _ trivial hunknown rfl
          (List.append_assoc _ _ _)
      · refine directed_found (.importContacts _) trivial hunknown
          ⟨fun _ _ h => h, fun phone id hid => ?_⟩ ?_ h
        · simp [Keyed.emplace_apply, hid]
        · simp [hcallee, hknown]

theorem directed_dialByUsername (hname : f.ctx.extUsername ≠ "")
    (h : dialByUsername settings r f = .ok f') : Directed f f' := by
  have hcallee : ∀ cache : Cache, f.ctx.callee cache = cache.usernameCache f.ctx.extUsername := by
    simp [Context.callee, hname]
  unfold dialByUsername at h
  cases hknown : f.deps.cache.usernameCache f.ctx.extUsername with
  | some id =>
    rw [hknown] at h
    exact directed_known ((hcallee _).trans hknown) h
  | none =>
    have hunknown : Td.Query.Unknown f.deps.cache (.searchPublicChat f.ctx.extUsername) := hknown
    simp only [hknown] at h
    cases hreply : r.searchPublicChat with
    | error error =>
      rw [hreply] at h
      obtain ⟨hcache, prm, htrace⟩ := exists_of_dialFailed h
      exact directed_failed (.searchPublicChat f.ctx.extUsername) prm trivial hunknown hcache
        (by simpa using htrace)
    | ok chat =>
      simp only [hreply] at h
      split_ifs at h
      · refine directed_found (.searchPublicChat _) trivial hunknown
          ⟨fun name id hid => ?_, fun _ _ h => h⟩ ?_ h
        · simp [Keyed.emplace_apply, hid]
        · simp [hcallee, hknown]
      · obtain rfl := Except.ok.inj h
        exact directed_failed (.searchPublicChat f.ctx.extUsername) _ trivial hunknown rfl
          (List.append_assoc _ _ _)

theorem directed_dialTg (h : dialTg settings r f = .ok f') : Directed f f' := by
  unfold dialTg at h
  split_ifs at h with hblocked hname hphone
  · obtain rfl := Except.ok.inj h
    exact ⟨Cache.Grows.refl _, [.failed f.ctx.id _], rfl, by simp, by simp, by simp⟩
  · exact directed_dialByUsername hname h
  · exact directed_dialByPhone (not_not.1 hname) hphone h
  · exact directed_known (by simp [Context.callee, not_not.1 hname, not_not.1 hphone]) h

end dial

/-! ## One event -/

section event

variable {settings : Settings} {r : Replies} {e : Event} {ctx ctx' : Context} {d d' : Deps}
  {s s' : State}

/-- The query asks for a user or calls one. -/
def Td.Query.Dials : Query → Prop
  | .createCall _ _ _ => True
  | .importContacts _ => True
  | .searchPublicChat _ => True
  | _ => False

/-- The entry is such a query, or the action that reads an extension. -/
def Obs.Concerns : Obs → Prop
  | .query _ q => q.Dials
  | .action _ a _ => a = .acceptIncomingSip
  | _ => False

theorem not_concerns_append {sip : Sip.Client} {obs : List Obs} (hobs : ∀ o ∈ obs, ¬o.Concerns) :
    ∀ o ∈ obs ++ releases r sip ctx, ¬o.Concerns := by
  intro o ho
  rcases List.mem_append.1 ho with ho | ho
  · exact hobs o ho
  · obtain rfl | rfl | ⟨error, rfl⟩ | ⟨-, rfl⟩ := mem_releases ho <;>
      simp [Obs.Concerns, Td.Query.Dials]

/-- Only `DialTg` asks for users and calls them, and only a bridge that opens reads an extension. -/
theorem Outcome.concerns (h : Outcome settings r ctx ctx' d d' s e s') : ∃ obs,
    d'.trace = d.trace ++ obs ∧ ((∃ o ∈ obs, o.IsDialTg) ∨
      (∃ i, s = .init ∧ (ctx.Fresh → ctx'.Reads i.extension) ∧
        .action ctx.id .acceptIncomingSip (.incomingCall i) ∈ obs ∧
        ∀ o ∈ obs, o.Concerns → o = .action ctx.id .acceptIncomingSip (.incomingCall i)) ∨
      ((s' = .fromSip .sipWaitConfirm → s = s' ∧ ctx' = ctx) ∧ ∀ o ∈ obs, ¬o.Concerns)) := by
  cases h with
  | @dialedTg u _ _ _ _ _ _ _ _ changed | @dialTgFailed u _ _ _ _ _ _ _ changed =>
    refine ⟨_, changed.trace, Or.inl ⟨.action ctx.id .dialTg (.callStateUpdate u), ?_, trivial⟩⟩
    simp
  | @accepted i ext errs parsed _ hctx changed =>
    refine ⟨_, changed.trace, Or.inr (Or.inl ⟨i, rfl, fun hfresh => ?_, by simp, ?_⟩)⟩
    · simp only [Context.Reads, parsed, hctx]
      exact hasRead_store (f := ⟨{ ctx with sipCallId := i.id, sipCall := some i.call }, d⟩)
        hfresh ext
    · simp [Obs.Concerns, failures, or_imp, forall_and]
  | @rejected i prm parsed hctx changed =>
    refine ⟨_, changed.trace, Or.inr (Or.inl ⟨i, rfl, fun hfresh => ?_, by simp, ?_⟩)⟩
    · simp only [Context.Reads, parsed, hctx]
      exact hfresh
    · simp [Obs.Concerns]
  | declined _ _ _ changed | dropped _ changed =>
    exact ⟨_, changed.trace, Or.inr (Or.inr ⟨by simp, not_concerns_append (by simp [Obs.Concerns])⟩)⟩
  | ended _ ends changed =>
    refine ⟨_, changed.trace, Or.inr (Or.inr ⟨by simp, not_concerns_append ?_⟩)⟩
    cases ends <;> simp [Obs.Concerns]
  | idle _ hctx changed =>
    exact ⟨_, changed.trace, Or.inr (Or.inr ⟨fun _ => ⟨rfl, hctx⟩, by simp [Obs.Concerns]⟩)⟩
  | dtmf _ _ _ _ hctx changed =>
    exact ⟨_, changed.trace, Or.inr (Or.inr ⟨fun _ => ⟨rfl, hctx⟩, by
      simp [Obs.Concerns, or_imp, forall_and]⟩)⟩
  | dialed _ _ _ _ _ _ changed | dialRefused _ _ _ _ _ _ changed | answeredTg _ _ _ changed
  | joinedTg _ _ _ changed | answeredSip _ _ _ changed | joinedSip _ _ _ _ changed =>
    exact ⟨_, changed.trace, Or.inr (Or.inr ⟨by simp, by
      simp [Obs.Concerns, Td.Query.Dials, failures, or_imp, forall_and]⟩)⟩

end event

/-! ## Runs -/

/-- The extension a context has read, by what is on record. -/
def Extended (trace : List Obs) (c : CtxId) (ext : String) : Prop :=
  ∃ i, .action c .acceptIncomingSip (.incomingCall i) ∈ trace ∧ i.extension = ext

theorem Extended.append {trace : List Obs} {c : CtxId} {ext : String} (h : Extended trace c ext)
    (obs : List Obs) : Extended (trace ++ obs) c ext := by
  obtain ⟨i, hmem, hext⟩ := h
  exact ⟨i, List.mem_append_left _ hmem, hext⟩

theorem Extended.of_append {trace obs : List Obs} {c : CtxId} {ext : String}
    (h : Extended (trace ++ obs) c ext) (hnone : ∀ e, .action c .acceptIncomingSip e ∉ obs) :
    Extended trace c ext := by
  obtain ⟨i, hmem, hext⟩ := h
  exact ⟨i, (List.mem_append.1 hmem).resolve_right (hnone _), hext⟩

theorem Td.Query.Unknown.anti {q : Td.Query} {cache cache' : Cache} (h : q.Unknown cache')
    (hgrows : cache.Grows cache') : q.Unknown cache := by
  cases q with
  | searchPublicChat name =>
    refine Option.eq_none_iff_forall_ne_some.2 fun id hid => ?_
    simp [hgrows.names name id hid, Unknown] at h
  | importContacts phones =>
    refine fun phone hmem => Option.eq_none_iff_forall_ne_some.2 fun id hid => ?_
    simpa [hgrows.phones phone id hid] using h phone hmem
  | getUser | acceptCall | createCall | discardCall => exact h

/-- The cache has grown, and nobody was asked for who was in it. -/
def Deps.Learns (d d' : Deps) : Prop :=
  d.cache.Grows d'.cache ∧ ∃ obs, d'.trace = d.trace ++ obs ∧
    ∀ c q, .query c q ∈ obs → IsLookup q → q.Unknown d.cache

theorem Deps.Learns.refl (d : Deps) : d.Learns d :=
  ⟨Cache.Grows.refl _, [], by simp, by simp⟩

theorem Deps.Learns.trans {d d₁ d' : Deps} (h : d.Learns d₁) (h' : d₁.Learns d') : d.Learns d' := by
  obtain ⟨hgrows, obs, htrace, hobs⟩ := h
  obtain ⟨hgrows', obs', htrace', hobs'⟩ := h'
  refine ⟨hgrows.trans hgrows', obs ++ obs', by rw [htrace', htrace, List.append_assoc], ?_⟩
  intro c q hmem hlookup
  rcases List.mem_append.1 hmem with hmem | hmem
  · exact hobs c q hmem hlookup
  · exact (hobs' c q hmem hlookup).anti hgrows

namespace Gateway

/-- A context has read one extension, a bridge that waits for its caller has read it, and the calls
to Telegram are to the users the cache has for it. -/
structure Listed (g : Gateway) : Prop where
  once : ∀ c ext ext', Extended g.deps.trace c ext → Extended g.deps.trace c ext' → ext = ext'
  waiting : ∀ b ∈ g.bridges, b.state = .fromSip .sipWaitConfirm →
    ∃ ext, Extended g.deps.trace b.ctx.id ext ∧ b.ctx.Reads ext
  called : ∀ c id protocol isVideo, .query c (.createCall id protocol isVideo) ∈ g.deps.trace →
    ∃ ext, Extended g.deps.trace c ext ∧ g.deps.cache.callee ext = some id

variable {settings : Settings} {r : Replies} {e : Event} {g g' g₀ : Gateway} {l : Label}
  {ls : List Label} {pre post : List Bridge} {b b' : Bridge} {c : ℕ} {d' : Deps}

theorem listed_initial (pid : ℕ) (cache : Cache) (now : ℤ) : (initial pid cache now).Listed where
  once := by simp [initial, Extended]
  waiting := by simp [initial]
  called := by simp [initial]

/-- The bridge in a slot dials. -/
theorem Listed.dials (hg : g.Listed) (hslot : Slot g e pre b post c)
    (hdials : b.Dials settings r e b' g.deps d') :
    g.deps.Learns d' ∧ Listed ⟨pre ++ keep e b' ++ post, c, d'⟩ := by
  have hb : b ∈ g.bridges := by
    cases hslot with
    | existing split => simp [split]
    | new => simpa [newBridge] using hdials.state
  obtain ⟨ext, hext, hreads⟩ := hg.waiting b hb hdials.state
  obtain ⟨hgrows, obs, htrace, hobs⟩ := directed_dialTg hdials.dial
  have htrace' : d'.trace =
      g.deps.trace ++ (.event b.ctx.id e :: .action b.ctx.id .dialTg e :: obs) := by
    simpa [Bridge.frame] using htrace
  refine ⟨⟨hgrows, _, htrace', fun c q hmem => hobs.lookup c q (by simpa using hmem)⟩, ?_, ?_, ?_⟩
  · have hnone : ∀ c' e', .action c' .acceptIncomingSip e' ∉
        (.event b.ctx.id e :: .action b.ctx.id .dialTg e :: obs) := by
      intro c' e' hmem
      exact hobs.accept c' e' (by simpa using hmem)
    intro c' x x' hx hx'
    rw [htrace'] at hx hx'
    exact hg.once c' x x' (hx.of_append (hnone c')) (hx'.of_append (hnone c'))
  · intro x hx hwaits
    have hx' : x ∈ pre ++ post ∨ x = b' := by
      cases e <;> simp_all [keep, hdials.state'] <;> tauto
    obtain hx | rfl := hx'
    · obtain ⟨y, hy, hyreads⟩ := hg.waiting x (hslot.mem_of_mem hx) hwaits
      exact ⟨y, htrace' ▸ hy.append _, hyreads⟩
    · simp [hdials.state'] at hwaits
  · intro c' id protocol isVideo hmem
    rw [htrace'] at hmem ⊢
    rcases List.mem_append.1 hmem with hmem | hmem
    · obtain ⟨y, hy, hid⟩ := hg.called c' id protocol isVideo hmem
      exact ⟨y, hy.append _, hgrows.callee hid⟩
    · obtain ⟨rfl, hid⟩ := hobs.call c' id protocol isVideo (by simpa using hmem)
      exact ⟨ext, hext.append _, (hreads.callee _).symm.trans hid⟩

/-- The bridge in a slot does not dial. An extension is read by a context that has read none. -/
theorem Listed.records {obs : List Obs} (hg : g.Listed) (hslot : Slot g e pre b post c)
    (hout : Outcome settings r b.ctx b'.ctx g.deps d' b.state e b'.state)
    (hkeeps : g.deps.Keeps d') (htrace : d'.trace = g.deps.trace ++ obs)
    (haccept : ∀ c i j, .action c .acceptIncomingSip (.incomingCall i) ∈ obs →
      .action c .acceptIncomingSip (.incomingCall j) ∈ g.deps.trace ++ obs → i = j)
    (hquery : ∀ c q, .query c q ∈ obs → ¬q.Dials)
    (hwaits : b'.state = .fromSip .sipWaitConfirm →
      ∃ ext, Extended d'.trace b.ctx.id ext ∧ b'.ctx.Reads ext) :
    g.deps.Learns d' ∧ Listed ⟨pre ++ keep e b' ++ post, c, d'⟩ := by
  refine ⟨⟨Cache.grows_of_eq hkeeps.cache, obs, htrace, fun c' q hmem hlookup => ?_⟩, ?_, ?_, ?_⟩
  · refine absurd ?_ (hquery c' q hmem)
    cases q with
    | importContacts | searchPublicChat => trivial
    | getUser | acceptCall | createCall | discardCall => exact hlookup.elim
  · rintro c' _ _ ⟨i, hi, rfl⟩ ⟨j, hj, rfl⟩
    rw [htrace] at hi hj
    rcases List.mem_append.1 hi with hi' | hi'
    · rcases List.mem_append.1 hj with hj' | hj'
      · exact hg.once c' _ _ ⟨i, hi', rfl⟩ ⟨j, hj', rfl⟩
      · rw [haccept c' j i hj' hi]
    · rw [haccept c' i j hi' hj]
  · intro x hx hx'
    obtain hx | ⟨rfl, hid⟩ := mem_keep_cases hout hx
    · obtain ⟨y, hy, hreads⟩ := hg.waiting x (hslot.mem_of_mem hx) hx'
      exact ⟨y, htrace ▸ hy.append _, hreads⟩
    · exact hid ▸ hwaits hx'
  · intro c' id protocol isVideo hmem
    rw [htrace] at hmem ⊢
    rcases List.mem_append.1 hmem with hmem | hmem
    · obtain ⟨y, hy, hid⟩ := hg.called c' id protocol isVideo hmem
      exact ⟨y, hy.append _, hkeeps.cache ▸ hid⟩
    · exact absurd trivial (hquery _ _ hmem)

/-- The bridge in a slot does not dial. It may read its extension. -/
theorem Listed.keeps (hg : g.Listed) (hw : g.Wired) (hn : g.Numbered)
    (hslot : Slot g e pre b post c)
    (hout : Outcome settings r b.ctx b'.ctx g.deps d' b.state e b'.state)
    (hkeeps : g.deps.Keeps d') :
    g.deps.Learns d' ∧ Listed ⟨pre ++ keep e b' ++ post, c, d'⟩ := by
  obtain ⟨obs, htrace, hobs⟩ := hout.concerns
  obtain ⟨o, hmem, hdial⟩ | ⟨i, hinit, hreads, haccept, hobs⟩ | ⟨hstate, hobs⟩ := hobs
  · obtain ⟨obs', htrace', hobs'⟩ := hkeeps.trace
    obtain rfl := List.append_cancel_left (htrace.symm.trans htrace')
    exact absurd hdial (hobs' o hmem)
  · -- only a new bridge is in `init`, so its context has nothing on record
    obtain ⟨hb, hid⟩ : b = g.newBridge ∧ ∀ o ∈ g.deps.trace, o.ctx ≠ b.ctx.id := by
      cases hslot with
      | existing split => exact absurd hinit (hw.ne_init (by simp [split]))
      | new => exact ⟨rfl, fun o ho => Nat.ne_of_lt (Nat.lt_succ_of_le (hn.trace o ho))⟩
    refine hg.records hslot hout hkeeps htrace (fun c' i₁ i₂ hmem hmem' => ?_) (fun c' q hmem => ?_)
      fun _ => ?_
    · obtain ⟨rfl, -, hi⟩ := Obs.action.inj (hobs _ hmem rfl)
      obtain hmem' := (List.mem_append.1 hmem').resolve_left fun hold => hid _ hold rfl
      obtain ⟨-, -, hi'⟩ := Obs.action.inj (hobs _ hmem' rfl)
      exact Event.incomingCall.inj (hi.trans hi'.symm)
    · intro hdials
      cases hobs _ hmem hdials
    · have hfresh : b.ctx.Fresh := by
        rw [hb]
        exact ⟨rfl, rfl, rfl⟩
      exact ⟨i.extension, ⟨i, htrace ▸ List.mem_append_right _ haccept, rfl⟩, hreads hfresh⟩
  · refine hg.records hslot hout hkeeps htrace (fun c' i j hmem => absurd rfl (hobs _ hmem))
      (fun c' q hmem => hobs _ hmem) fun hwaits => ?_
    obtain ⟨hs, hctx⟩ := hstate hwaits
    have hb : b ∈ g.bridges := by
      cases hslot with
      | existing split => simp [split]
      | new => simp [newBridge, hwaits] at hs
    obtain ⟨ext, hext, hreads⟩ := hg.waiting b hb (hs.trans hwaits)
    exact ⟨ext, htrace ▸ hext.append _, hctx ▸ hreads⟩

theorem Listed.processEvent (hg : g.Listed) (hw : g.Wired) (hn : g.Numbered)
    (h : g.processEvent settings r e = .ok g') : g.deps.Learns g'.deps ∧ g'.Listed := by
  obtain ⟨rfl, -⟩ | ⟨pre, b, post, k, b', d', hslot, hproc, rfl⟩ := processEvent_cases h
  · exact ⟨.refl _, hg⟩
  have hout := outcome_of_process hproc
  obtain hkeeps | hdials := Bridge.keeps_or_dials hproc
  · exact hg.keeps hw hn hslot hout hkeeps
  · exact hg.dials hslot hdials

theorem Listed.step (hg : g.Listed) (hw : g.Wired) (hn : g.Numbered) (h : Step settings g l g') :
    g.deps.Learns g'.deps ∧ g'.Listed := by
  cases h with
  | event h => exact hg.processEvent hw hn h
  | incoming | pop => exact ⟨⟨Cache.Grows.refl _, [], (List.append_nil _).symm, by simp⟩,
      hg.once, hg.waiting, hg.called⟩

/-- In every run, from any gateway that was reached : what was in the cache is still there and was
not asked for again. Each call to Telegram ever made is for a context that has read an extension, and
to the user the cache has for it now. -/
theorem directed_of_run {pid : ℕ} {cache : Cache} {now : ℤ} {ls₀ : List Label}
    (hrun₀ : Run (Step settings) (initial pid cache now) ls₀ g₀)
    (hrun : Run (Step settings) g₀ ls g) : g₀.deps.Learns g.deps ∧ ∀ c id protocol isVideo,
      .query c (.createCall id protocol isVideo) ∈ g.deps.trace →
        (∃ ext, Extended g.deps.trace c ext) ∧
          ∀ ext, Extended g.deps.trace c ext → g.deps.cache.callee ext = some id := by
  have hstart : g₀.Wired ∧ g₀.Numbered ∧ g₀.Listed := by
    refine hrun₀.invariant (fun g => g.Wired ∧ g.Numbered ∧ g.Listed) ?_
      ⟨by simp [Wired, initial], numbered_initial pid cache now, listed_initial pid cache now⟩
    rintro g l g' ⟨hw, hn, hg⟩ hstep
    exact ⟨hw.step hstep, hn.step hstep, (hg.step hw hn hstep).2⟩
  have hinv : (g.Wired ∧ g.Numbered ∧ g.Listed) ∧ g₀.deps.Learns g.deps := by
    refine hrun.invariant (fun g => (g.Wired ∧ g.Numbered ∧ g.Listed) ∧ g₀.deps.Learns g.deps) ?_
      ⟨hstart, .refl _⟩
    rintro g l g' ⟨⟨hw, hn, hg⟩, hlearns⟩ hstep
    obtain ⟨hlearns', hg'⟩ := hg.step hw hn hstep
    exact ⟨⟨hw.step hstep, hn.step hstep, hg'⟩, hlearns.trans hlearns'⟩
  obtain ⟨⟨-, -, hg⟩, hlearns⟩ := hinv
  refine ⟨hlearns, fun c id protocol isVideo hmem => ?_⟩
  obtain ⟨ext, hext, hid⟩ := hg.called c id protocol isVideo hmem
  exact ⟨⟨ext, hext⟩, fun ext' hext' => hg.once c _ _ hext hext' ▸ hid⟩

/-- A SIP call for a username, when TDLib finds the user `id` for it. -/
def callTo (sipId : ℤ) (call : ℕ) (id : ℤ) : List Label :=
  let r : Replies := { Replies.granting sipId (sipId + 6) with searchPublicChat := .ok ⟨id, true⟩ }
  [.incoming sipId "tg#bob", .event (.incomingCall ⟨sipId, "tg#bob", call⟩) r,
    .event (.callStateUpdate ⟨sipId, .early, call⟩) r]

/-- The username has a new owner, and the old one is called. -/
theorem directed_of_run_newOwner : ∃ g₀ g,
    Run (Step { callbackUri := "sip:pbx" }) (initial 1 .empty 0) (callTo 3 0 77) g₀ ∧
      Run (Step { callbackUri := "sip:pbx" }) g₀ (callTo 4 1 88) g ∧
      calleesOf (queriesOf g.deps.trace) = [77, 77] ∧ g₀.deps.Learns g.deps ∧
      g.deps.cache.callee "tg#bob" = some 77 := by
  obtain ⟨g₀, g, hrun₀, hrun, hcalls, hmem, hext⟩ : ∃ g₀ g,
      Run (Step { callbackUri := "sip:pbx" }) (initial 1 .empty 0) (callTo 3 0 77) g₀ ∧
      Run (Step { callbackUri := "sip:pbx" }) g₀ (callTo 4 1 88) g ∧
      calleesOf (queriesOf g.deps.trace) = [77, 77] ∧
      .query 2 (.createCall 77 (callProtocol { callbackUri := "sip:pbx" }) false) ∈ g.deps.trace ∧
      Extended g.deps.trace 2 "tg#bob" :=
    ⟨_, _, Run.of_exec (fun _ _ _ => step_of_next) rfl,
      Run.of_exec (fun _ _ _ => step_of_next) rfl, rfl, List.mem_of_getElem? (i := 17) rfl,
      ⟨4, "tg#bob", 1⟩, List.mem_of_getElem? (i := 13) rfl, rfl⟩
  obtain ⟨hlearns, hcalled⟩ := directed_of_run hrun₀ hrun
  exact ⟨g₀, g, hrun₀, hrun, hcalls, hlearns, (hcalled 2 77 _ false hmem).2 _ hext⟩

end Gateway

end TelegramProvider
