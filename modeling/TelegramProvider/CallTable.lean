import TelegramProvider.Escape
import TelegramProvider.Loop
import TelegramProvider.Teardown

/-!
# The SIP call table

`sip::Client` keeps a `Call` object for each call id. `Dial` and the handler of incoming
calls insert without overwriting, so the table is right only if the entry of a call is gone
when its id comes round again.

`Hangup` alone removes an entry, and only after `pj::Call::hangup` returned. A call that
ends with `DISCONNECTED` is never hung up, and a `hangup` that throws leaves the entry. On
the steps without these two (`KeepsUp`) the table follows the calls (`Tracked`) : an entry
belongs to a bridge or to a call whose `IncomingCall` is still in the queue, and every
operation acts on the object of its own call (`calls_of_run`).
-/

set_option autoImplicit false

namespace TelegramProvider

open Runs

/-! ## What an event does to the table -/

/-- The id an operation looks up in the table. -/
def SipOp.id : SipOp → Option ℤ
  | .dial _ _ => none
  | .answer id _ => some id
  | .hangup id _ => some id
  | .bridgeAudio id _ => some id
  | .dialDtmf id _ => some id

section outcome

variable {settings : Settings} {r : Replies} {e : Event} {ctx ctx' : Context} {d d' : Deps}
  {s s' : State} {sip : Sip.Client}

/-- When `Hangup` does not throw, `CleanUp` leaves no entry for the SIP call. -/
theorem calls_released (hinvalid : sip.calls Sip.invalidId = none)
    (hhangup : sip.calls ctx.sipCallId ≠ none → r.pj.hangup = .ok ()) :
    (released r sip ctx).calls = Keyed.erase sip.calls ctx.sipCallId := by
  have hsame : sip.calls ctx.sipCallId = none →
      sip.calls = Keyed.erase sip.calls ctx.sipCallId := fun h =>
    (Keyed.erase_of_none h).symm
  unfold released
  split_ifs with hid
  · exact hsame (hid ▸ hinvalid)
  · unfold Sip.Client.hangup
    cases hcall : sip.calls ctx.sipCallId with
    | none => exact hsame hcall
    | some call => simp [hhangup (by simp [hcall])]

/-- The hangup `CleanUp` records. -/
theorem sip_mem_releases {c : CtxId} {op : SipOp} {target : Option Sip.Call}
    (h : .sip c op target ∈ releases r sip ctx) :
    op.id = some ctx.sipCallId ∧ target = sip.calls ctx.sipCallId ∧
      ctx.sipCallId ≠ Sip.invalidId := by
  obtain h | h | ⟨error, h⟩ | ⟨hid, h⟩ := mem_releases h
  · simp at h
  · simp at h
  · simp at h
  · obtain ⟨-, rfl, rfl⟩ := Obs.sip.inj h
    exact ⟨rfl, rfl, hid⟩

/-- An operation looks up the SIP call of its bridge, and the record has what it found. -/
theorem Outcome.ops (h : Outcome settings r ctx ctx' d d' s e s') :
    ∃ obs, d'.trace = d.trace ++ obs ∧ ∀ c op target id, .sip c op target ∈ obs →
      op.id = some id → target = d.sip.calls id ∧ (id = ctx.sipCallId ∨
        ∃ i, e = .incomingCall i ∧ id = i.id ∧ .sipAssociated c id i.call ∈ obs) := by
  have hreleases : ∀ {obs c op target id ctx₁}, .sip c op target ∈ obs ++ releases r d.sip ctx₁ →
      op.id = some id → (ctx₁.sipCallId = ctx.sipCallId ∨ ctx₁.sipCallId = Sip.invalidId) →
      .sip c op target ∉ obs → target = d.sip.calls id ∧ id = ctx.sipCallId := by
    intro obs c op target id ctx₁ hmem hop hctx hobs
    have hrel : .sip c op target ∈ releases r d.sip ctx₁ := by simpa [hobs] using hmem
    obtain ⟨hid, htarget, hvalid⟩ := sip_mem_releases hrel
    obtain rfl : ctx₁.sipCallId = id := Option.some.inj (hid.symm.trans hop)
    exact ⟨htarget, hctx.resolve_right hvalid⟩
  cases h with
  | declined _ _ _ changed =>
    refine ⟨_, changed.trace, fun c op target id hmem hop => ?_⟩
    obtain ⟨htarget, hid⟩ := hreleases hmem hop (Or.inl rfl) (by simp)
    exact ⟨htarget, Or.inl hid⟩
  | dropped _ changed =>
    refine ⟨_, changed.trace, fun c op target id hmem hop => ?_⟩
    obtain ⟨htarget, hid⟩ := hreleases hmem hop (Or.inl rfl) (by simp)
    exact ⟨htarget, Or.inl hid⟩
  | ended _ ends changed =>
    refine ⟨_, changed.trace, fun c op target id hmem hop => ?_⟩
    have hctx : (endCtx e ctx).sipCallId = ctx.sipCallId ∨
        (endCtx e ctx).sipCallId = Sip.invalidId := by
      cases ends with
      | tg | internal => exact Or.inl rfl
      | sip => exact Or.inr rfl
    obtain ⟨htarget, hid⟩ := hreleases hmem hop hctx (by simp)
    exact ⟨htarget, Or.inl hid⟩
  | accepted _ _ _ changed =>
    refine ⟨_, changed.trace, fun c op target id hmem hop => ?_⟩
    obtain ⟨rfl, rfl, rfl⟩ : c = ctx.id ∧ op = _ ∧ target = _ := by simpa [failures] using hmem
    obtain rfl := Option.some.inj hop
    exact ⟨rfl, Or.inr ⟨_, rfl, rfl, by simp⟩⟩
  | idle _ _ changed | rejected _ _ changed | answeredTg _ _ _ changed
  | dialedTg _ _ _ _ _ changed | dialTgFailed _ _ _ _ changed =>
    exact ⟨_, changed.trace, fun c op target id hmem => by simp [failures] at hmem⟩
  | dialed _ _ _ _ _ _ changed | dialRefused _ _ _ _ _ _ changed =>
    refine ⟨_, changed.trace, fun c op target id hmem hop => ?_⟩
    obtain ⟨-, rfl, -⟩ : c = ctx.id ∧ op = _ ∧ target = none := by simpa using hmem
    simp [SipOp.id] at hop
  | joinedTg _ _ _ changed | answeredSip _ _ _ changed | joinedSip _ _ _ _ changed
  | dtmf _ _ _ _ _ changed =>
    refine ⟨_, changed.trace, fun c op target id hmem hop => ?_⟩
    obtain ⟨-, rfl, rfl⟩ : c = ctx.id ∧ op = _ ∧ target = _ := by simpa [failures] using hmem
    obtain rfl := Option.some.inj hop
    exact ⟨rfl, Or.inl rfl⟩

/-- A bridge that ends leaves no entry for its SIP call, unless it ended with `DISCONNECTED`
or `Hangup` threw. -/
theorem Outcome.calls_of_x (h : Outcome settings r ctx ctx' d d' s e .x) (hs : s ≠ .x)
    (hinvalid : d.sip.calls Sip.invalidId = none)
    (hstate : ∀ c, e = .callStateUpdate c → c.state = .disconnected →
      d.sip.calls ctx.sipCallId = none)
    (hhangup : d.sip.calls ctx.sipCallId ≠ none → r.pj.hangup = .ok ()) :
    d'.sip.calls = Keyed.erase d.sip.calls ctx.sipCallId := by
  cases h with
  | idle => exact absurd rfl hs
  | dtmf hs => simp at hs
  | declined _ _ _ changed =>
    rw [changed.sip]
    exact calls_released hinvalid hhangup
  | dropped _ changed =>
    rw [changed.sip]
    exact calls_released hinvalid hhangup
  | ended _ ends changed =>
    rw [changed.sip]
    cases ends with
    | tg | internal => exact calls_released hinvalid hhangup
    | sip hdisconnected =>
      have hnone := hstate _ rfl hdisconnected
      rw [Keyed.erase_of_none hnone]
      simp [released, endCtx]

/-- A new bridge takes an incoming call. -/
theorem Outcome.takes_incoming {i : Sip.IncomingCall}
    (h : Outcome settings r ctx ctx' d d' .init (.incomingCall i) s') :
    s' = .fromSip .sipWaitConfirm ∧ ctx'.sipCallId = i.id ∧ ctx'.sipCall = some i.call ∧
      d'.sip = d.sip ∧ .sipAssociated ctx.id i.id i.call ∈ d'.trace := by
  cases h with
  | idle none => exact absurd none (transition_init_ne_none trivial)
  | dropped drops => cases drops
  | ended _ ends => cases ends
  | @accepted _ ext _ _ _ hctx changed =>
    refine ⟨rfl, ?_, ?_, changed.sip, by rw [changed.trace]; simp⟩
    · rw [hctx]
      cases ext <;> rfl
    · rw [hctx]
      cases ext <;> rfl
  | rejected _ hctx changed =>
    subst hctx
    exact ⟨rfl, rfl, rfl, changed.sip, by rw [changed.trace]; simp⟩

end outcome

/-! ## The table follows the calls -/

/-- The incoming call an event reports. -/
def Sip.Event.incoming? : Sip.Event → Option Sip.IncomingCall
  | .incomingCall i => some i
  | .callStateUpdate _ => none
  | .callMediaStateUpdate _ => none

/-- The incoming calls whose event is in the queue. -/
def waiting (es : List Sip.Event) : List Sip.IncomingCall :=
  es.filterMap Sip.Event.incoming?

theorem mem_waiting {es : List Sip.Event} {i : Sip.IncomingCall} :
    i ∈ waiting es ↔ .incomingCall i ∈ es := by
  unfold waiting
  rw [List.mem_filterMap]
  constructor
  · rintro ⟨e, he, hi⟩
    cases e with
    | incomingCall j => exact Option.some.inj hi ▸ he
    | callStateUpdate _ | callMediaStateUpdate _ => simp [Sip.Event.incoming?] at hi
  · exact fun h => ⟨_, h, rfl⟩

/-- The event ends a call. -/
def Event.IsEnd : Event → Prop
  | .updateCall u => u.state = .discarded ∨ u.state = .error
  | .callStateUpdate c => c.state = .disconnected
  | .internalError _ => True
  | _ => False

theorem Ends.isEnd {e : Event} {a : Action} (h : Ends e a) : e.IsEnd := by
  cases h with
  | tg hu => exact hu
  | sip hc => exact hc
  | internal => trivial

/-- The incoming call an event is for. -/
def Event.incoming : Event → List Sip.IncomingCall
  | .incomingCall i => [i]
  | _ => []

namespace Gateway

/-- The gateway has finished with earlier calls of this id : no bridge holds it, and no call
with it is waiting. -/
def Finished (g : Gateway) (w : List Sip.IncomingCall) (id : ℤ) : Prop :=
  (∀ b ∈ g.bridges, b.ctx.sipCallId ≠ id) ∧ ∀ i ∈ w, i.id ≠ id

/-- The event is the end of a call in the table that a bridge holds. -/
def DisconnectsHeld (g : Gateway) : Event → Prop
  | .callStateUpdate c => c.state = .disconnected ∧ g.deps.sip.calls c.id ≠ none ∧
      ∃ b ∈ g.bridges, b.ctx.sipCallId = c.id
  | _ => False

/-- The event ends a bridge whose SIP call is in the table. -/
def HangsUp (g : Gateway) (e : Event) : Prop :=
  e.IsEnd ∧ ∃ b ∈ g.bridges, routes e b = true ∧ g.deps.sip.calls b.ctx.sipCallId ≠ none

/-- The event is an incoming call no bridge holds. `DialSip` is run for it, if the callback
URI is set. -/
def Dials (g : Gateway) (e : Event) : Prop :=
  e.IsPending ∧ ∀ b ∈ g.bridges, routes e b = false

/-- The events with which the table keeps up, with the calls `w` waiting : PJSUA gives an id
only when the gateway has finished with the earlier call that had it, no call in the table
that a bridge holds is reported as disconnected, and no `Hangup` of a call in the table
throws. -/
def KeepsUp (g : Gateway) (w : List Sip.IncomingCall) (e : Event) (r : Replies) : Prop :=
  (g.Dials e → Granted (fun id => id ≠ Sip.invalidId ∧ g.Finished w id) r.pj.makeCall) ∧
    ¬g.DisconnectsHeld e ∧ (g.HangsUp e → r.pj.hangup = .ok ())

/-- Every operation on a SIP call acted on an object its context was associated with. -/
def ActOnOwn (trace : List Obs) : Prop :=
  ∀ c op target id, .sip c op target ∈ trace → op.id = some id → id ≠ Sip.invalidId →
    ∃ call, target = some call ∧ .sipAssociated c id call.obj ∈ trace

/-- With the calls `w` waiting, the table has one entry for each call that a bridge holds or
that waits, the object of that call, and no other entry. -/
structure Tracked (g : Gateway) (w : List Sip.IncomingCall) : Prop where
  wired : g.Wired
  invalid : g.deps.sip.calls Sip.invalidId = none
  held : ∀ b ∈ g.bridges, b.ctx.sipCallId ≠ Sip.invalidId → ∃ call,
    g.deps.sip.calls b.ctx.sipCallId = some call ∧ b.ctx.sipCall = some call.obj ∧
      .sipAssociated b.ctx.id b.ctx.sipCallId call.obj ∈ g.deps.trace
  waits : ∀ i ∈ w, ∃ call, g.deps.sip.calls i.id = some call ∧ call.obj = i.call
  entries : ∀ id call, g.deps.sip.calls id = some call →
    (∃ b ∈ g.bridges, b.ctx.sipCallId = id) ∨ ∃ i ∈ w, i.id = id
  unique : Keyed.UniqueKeys (·.ctx.sipCallId) Sip.invalidId g.bridges
  apart : ∀ b ∈ g.bridges, ∀ i ∈ w, b.ctx.sipCallId ≠ i.id
  distinct : w.Pairwise fun i j => i.id ≠ j.id
  acts : ActOnOwn g.deps.trace

section step

variable {settings : Settings} {r : Replies} {e : Event} {g g' : Gateway}
  {w : List Sip.IncomingCall} {pre post : List Bridge} {b b' : Bridge} {c : ℕ} {d' : Deps}
  {id : ℤ}

theorem Tracked.calls_eq_none (hg : g.Tracked w) (h : g.Finished w id) :
    g.deps.sip.calls id = none := by
  cases hcall : g.deps.sip.calls id with
  | none => rfl
  | some call =>
    obtain ⟨b, hb, hid⟩ | ⟨i, hi, hid⟩ := hg.entries id call hcall
    · exact absurd hid (h.1 b hb)
    · exact absurd hid (h.2 i hi)

/-- What is registered under a finished id is found there. -/
theorem Tracked.register_self (hg : g.Tracked w) (h : g.Finished w id) (call : Sip.Call) :
    (g.deps.sip.register id call).calls id = some call :=
  Keyed.emplace_self_of_none (hg.calls_eq_none h)

theorem Tracked.waits_ne_invalid (hg : g.Tracked w) {i : Sip.IncomingCall} (hi : i ∈ w) :
    i.id ≠ Sip.invalidId := by
  obtain ⟨call, hcall, -⟩ := hg.waits i hi
  intro hid
  simp [hid, hg.invalid] at hcall

/-- The operations of an event act on the object of their own call. -/
theorem Tracked.acts_of_outcome (hg : g.Tracked (e.incoming ++ w)) (hslot : Slot g e pre b post c)
    (hout : Outcome settings r b.ctx b'.ctx g.deps d' b.state e b'.state) :
    ActOnOwn d'.trace := by
  obtain ⟨obs, htrace, hops⟩ := hout.ops
  obtain ⟨obs', htrace', hctx⟩ := hout.recorded
  obtain rfl : obs = obs' := List.append_cancel_left (htrace.symm.trans htrace')
  intro c op target id hmem hop hvalid
  rw [htrace] at hmem ⊢
  rcases List.mem_append.1 hmem with hmem | hmem
  · obtain ⟨call, htarget, hassoc⟩ := hg.acts c op target id hmem hop hvalid
    exact ⟨call, htarget, List.mem_append_left _ hassoc⟩
  · have hc : c = b.ctx.id := hctx _ hmem
    obtain ⟨htarget, rfl | ⟨i, rfl, rfl, hassoc⟩⟩ := hops c op target id hmem hop
    · cases hslot with
      | new => exact absurd rfl hvalid
      | existing split =>
        obtain ⟨call, hcall, -, hassoc⟩ := hg.held b (by simp [split]) hvalid
        exact ⟨call, htarget.trans hcall, List.mem_append_left _ (hc ▸ hassoc)⟩
    · obtain ⟨call, hcall, hobj⟩ := hg.waits i (by simp [Event.incoming])
      exact ⟨call, htarget.trans hcall, List.mem_append_right _ (hobj ▸ hassoc)⟩

theorem Tracked.unique_slot (hg : g.Tracked w) (hslot : Slot g e pre b post c) :
    Keyed.UniqueKeys (·.ctx.sipCallId) Sip.invalidId (pre ++ b :: post) :=
  hslot.uniqueKeys rfl hg.unique

/-- A SIP call another bridge holds is not the one of the bridge in the slot. -/
theorem Tracked.ne_of_mem (hg : g.Tracked w) (hslot : Slot g e pre b post c) {x : Bridge}
    (hx : x ∈ pre ++ post) (hvalid : x.ctx.sipCallId ≠ Sip.invalidId) :
    x.ctx.sipCallId ≠ b.ctx.sipCallId := by
  intro heq
  exact hvalid (heq.trans ((Keyed.uniqueKeys_split.1 (hg.unique_slot hslot)).2 x hx heq))

/-- The bridge in the slot shares its SIP call with no waiting call. -/
theorem Tracked.slot_apart (hg : g.Tracked w) (hslot : Slot g e pre b post c)
    {i : Sip.IncomingCall} (hi : i ∈ w) : b.ctx.sipCallId ≠ i.id := by
  cases hslot with
  | existing split => exact hg.apart b (by simp [split]) i hi
  | new => exact (hg.waits_ne_invalid hi).symm

/-- The bridge in the slot ends, and the entry of its call goes. -/
theorem Tracked.ended (hg : g.Tracked w) (hslot : Slot g e pre b post c)
    (hcalls : d'.sip.calls = Keyed.erase g.deps.sip.calls b.ctx.sipCallId)
    (hgrow : ∀ o ∈ g.deps.trace, o ∈ d'.trace)
    (hacts : ActOnOwn d'.trace) :
    Tracked ⟨pre ++ post, c, d'⟩ w where
  wired x hx := hg.wired x (hslot.mem_of_mem hx)
  invalid := by
    rw [hcalls]
    by_cases h : b.ctx.sipCallId = Sip.invalidId
    · rw [h, Keyed.erase_self]
    · rw [Keyed.erase_of_ne (Ne.symm h), hg.invalid]
  held x hx hvalid := by
    obtain ⟨call, hcall, hobj, hassoc⟩ := hg.held x (hslot.mem_of_mem hx) hvalid
    refine ⟨call, ?_, hobj, hgrow _ hassoc⟩
    rw [hcalls, Keyed.erase_of_ne (hg.ne_of_mem hslot hx hvalid), hcall]
  waits i hi := by
    obtain ⟨call, hcall, hobj⟩ := hg.waits i hi
    refine ⟨call, ?_, hobj⟩
    rw [hcalls, Keyed.erase_of_ne (hg.slot_apart hslot hi).symm, hcall]
  entries id call hcall := by
    rw [hcalls] at hcall
    obtain ⟨hne, hold⟩ := Keyed.erase_eq_some_iff.1 hcall
    obtain ⟨x, hx, rfl⟩ | hwaits := hg.entries id call hold
    · obtain rfl | hx := hslot.mem_cases hx
      · exact absurd rfl hne
      · exact Or.inl ⟨x, hx, rfl⟩
    · exact Or.inr hwaits
  unique := (hg.unique_slot hslot).remove
  apart x hx i hi := hg.apart x (hslot.mem_of_mem hx) i hi
  distinct := hg.distinct
  acts := hacts

/-- The bridge in the slot goes on with the SIP call it has. -/
theorem Tracked.kept (hg : g.Tracked w) (hslot : Slot g e pre b post c) (hwired : b'.Wired)
    (hctx : b'.ctx.id = b.ctx.id) (hid : b'.ctx.sipCallId = b.ctx.sipCallId)
    (hcall : b'.ctx.sipCall = b.ctx.sipCall) (hsip : d'.sip = g.deps.sip)
    (hgrow : ∀ o ∈ g.deps.trace, o ∈ d'.trace)
    (hacts : ActOnOwn d'.trace) :
    Tracked ⟨pre ++ [b'] ++ post, c, d'⟩ w := by
  have hmem : ∀ x ∈ pre ++ [b'] ++ post, x = b' ∨ x ∈ pre ++ post := by
    intro x hx
    simp only [List.mem_append, List.mem_singleton] at hx ⊢
    tauto
  refine
    { wired := ?_, invalid := hsip ▸ hg.invalid, held := ?_, waits := hsip ▸ hg.waits,
      entries := ?_, unique := ?_, apart := ?_, distinct := hg.distinct, acts := hacts }
  · intro x hx
    rcases hmem x hx with rfl | hx
    · exact hwired
    · exact hg.wired x (hslot.mem_of_mem hx)
  · intro x hx hvalid
    simp only [hsip]
    rcases hmem x hx with rfl | hx
    · cases hslot with
      | new => exact absurd hid hvalid
      | existing split =>
        rw [hid] at hvalid
        obtain ⟨call, hentry, hobj, hassoc⟩ := hg.held b (by simp [split]) hvalid
        exact ⟨call, hid ▸ hentry, hcall.trans hobj, hctx ▸ hid ▸ hgrow _ hassoc⟩
    · obtain ⟨call, hentry, hobj, hassoc⟩ := hg.held x (hslot.mem_of_mem hx) hvalid
      exact ⟨call, hentry, hobj, hgrow _ hassoc⟩
  · intro id call hentry
    obtain ⟨x, hx, rfl⟩ | hwaits := hg.entries id call (hsip ▸ hentry)
    · obtain rfl | hx := hslot.mem_cases hx
      · exact Or.inl ⟨b', by simp, hid⟩
      · refine Or.inl ⟨x, ?_, rfl⟩
        rcases List.mem_append.1 hx with hx | hx <;> simp [hx]
    · exact Or.inr hwaits
  · simpa using (hg.unique_slot hslot).replace (Or.inl hid)
  · intro x hx i hi
    rcases hmem x hx with rfl | hx
    · exact hid ▸ hg.slot_apart hslot hi
    · exact hg.apart x (hslot.mem_of_mem hx) i hi

/-- A new bridge gets the call `id`, whose entry is `call`, and the calls `w'` go on waiting. -/
theorem Tracked.opened {w' : List Sip.IncomingCall} {call : Sip.Call} (hg : g.Tracked w)
    (hwired : b'.Wired) (hid : b'.ctx.sipCallId = id) (hcall : b'.ctx.sipCall = some call.obj)
    (hassoc : .sipAssociated b'.ctx.id id call.obj ∈ d'.trace)
    (hvalid : id ≠ Sip.invalidId) (hfree : g.Finished w' id)
    (hself : d'.sip.calls id = some call)
    (hothers : ∀ id', id' ≠ id → d'.sip.calls id' = g.deps.sip.calls id')
    (hsub : ∀ i ∈ w', i ∈ w) (hwaits : ∀ i ∈ w, i.id ≠ id → i ∈ w')
    (hdistinct : w'.Pairwise fun i j => i.id ≠ j.id)
    (hgrow : ∀ o ∈ g.deps.trace, o ∈ d'.trace) (hacts : ActOnOwn d'.trace) :
    Tracked ⟨g.bridges ++ [b'], c, d'⟩ w' := by
  refine
    { wired := ?_, invalid := (hothers _ hvalid.symm).trans hg.invalid, held := ?_, waits := ?_,
      entries := ?_, unique := ?_, apart := ?_, distinct := hdistinct, acts := hacts }
  · intro x hx
    rcases List.mem_append.1 hx with hx | hx
    · exact hg.wired x hx
    · exact List.mem_singleton.1 hx ▸ hwired
  · intro x hx hx'
    rcases List.mem_append.1 hx with hx | hx
    · obtain ⟨old, hentry, hobj, hold⟩ := hg.held x hx hx'
      exact ⟨old, (hothers _ (hfree.1 x hx)).trans hentry, hobj, hgrow _ hold⟩
    · obtain rfl := List.mem_singleton.1 hx
      exact ⟨call, by rw [hid]; exact hself, hcall, by rw [hid]; exact hassoc⟩
  · intro i hi
    obtain ⟨old, hentry, hobj⟩ := hg.waits i (hsub i hi)
    exact ⟨old, (hothers _ (hfree.2 i hi)).trans hentry, hobj⟩
  · intro id' call' hentry
    by_cases hne : id' = id
    · exact Or.inl ⟨b', by simp, hid.trans hne.symm⟩
    · obtain ⟨x, hx, rfl⟩ | ⟨i, hi, rfl⟩ := hg.entries id' call' (hothers id' hne ▸ hentry)
      · exact Or.inl ⟨x, List.mem_append_left _ hx, rfl⟩
      · exact Or.inr ⟨i, hwaits i hi hne, rfl⟩
  · exact hg.unique.append (Or.inr fun x hx => hid ▸ hfree.1 x hx)
  · intro x hx i hi
    rcases List.mem_append.1 hx with hx | hx
    · exact hg.apart x hx i (hsub i hi)
    · rw [List.mem_singleton.1 hx, hid]
      exact (hfree.2 i hi).symm

/-- The bridge in the slot ends, and no entry is left if the step may end it. -/
theorem Tracked.calls_of_x (hg : g.Tracked w) (hslot : Slot g e pre b post c)
    (hout : Outcome settings r b.ctx b'.ctx g.deps d' b.state e .x)
    (hstate : ¬g.DisconnectsHeld e) (hhangup : g.HangsUp e → r.pj.hangup = .ok ()) :
    d'.sip.calls = Keyed.erase g.deps.sip.calls b.ctx.sipCallId := by
  cases hslot with
  | new =>
    exact hout.calls_of_x (by simp [newBridge]) hg.invalid (fun _ _ _ => hg.invalid)
      fun h => absurd hg.invalid h
  | existing split routed =>
    have hb : b ∈ g.bridges := by simp [split]
    refine hout.calls_of_x (hg.wired.slot_ne_x (.existing split routed ‹_› ‹_›)) hg.invalid ?_ ?_
    · rintro s rfl hdisconnected
      have hroute : b.ctx.sipCallId = s.id := of_decide_eq_true routed
      by_contra hentry
      exact hstate ⟨hdisconnected, hroute ▸ hentry, b, hb, hroute⟩
    · intro hentry
      obtain ⟨⟨a, hends⟩, -⟩ := hout.released_of_nested (hg.wired b hb).nested
      exact hhangup ⟨hends.isEnd, b, hb, routed, hentry⟩

/-- A waiting call gets its bridge. -/
theorem Tracked.took {i : Sip.IncomingCall} (hg : g.Tracked (i :: w))
    (hslot : Slot g (.incomingCall i) pre b post c)
    (hout : Outcome settings r b.ctx b'.ctx g.deps d' b.state (.incomingCall i) b'.state)
    (hgrow : ∀ o ∈ g.deps.trace, o ∈ d'.trace) (hacts : ActOnOwn d'.trace) :
    Tracked ⟨pre ++ keep (.incomingCall i) b' ++ post, c, d'⟩ w := by
  have hi : i ∈ i :: w := List.mem_cons_self
  cases hslot with
  | existing split routed => exact absurd (of_decide_eq_true routed) (hg.apart b (by simp [split]) i hi)
  | new opens none =>
    obtain ⟨hs, hid, hcall, hsip, hassoc⟩ := hout.takes_incoming
    obtain ⟨call, hentry, hobj⟩ := hg.waits i hi
    have hx : b'.state ≠ .x := by simp [hs]
    have hfree : g.Finished w i.id :=
      ⟨fun x hx => hg.apart x hx i hi, fun j hj => (List.rel_of_pairwise_cons hg.distinct hj).symm⟩
    have hkeep : keep (.incomingCall i) b' = [b'] := by simp [keep, hx]
    rw [← hobj] at hcall hassoc
    simpa [hkeep] using hg.opened (hout.wired_of_new opens hx) hid hcall (hout.ctx_id hx ▸ hassoc)
      (hg.waits_ne_invalid hi) hfree (hsip ▸ hentry) (fun _ _ => by rw [hsip])
      (fun j hj => List.mem_cons_of_mem _ hj)
      (fun j hj hne => (List.mem_cons.1 hj).resolve_left fun h => hne (h ▸ rfl))
      (List.Pairwise.of_cons hg.distinct) hgrow hacts

/-- One event. -/
theorem Tracked.processEvent (hg : g.Tracked (e.incoming ++ w))
    (hok : g.KeepsUp (e.incoming ++ w) e r) (h : g.processEvent settings r e = .ok g') :
    g'.Tracked w := by
  obtain ⟨hmade, hstate, hhangup⟩ := hok
  obtain ⟨rfl, hopens⟩ | ⟨pre, b, post, c, b', d', hslot, hproc, rfl⟩ := processEvent_cases h
  · cases e with
    | incomingCall i => exact absurd trivial hopens
    | updateCall _ | updateNewMessage _ | callStateUpdate _ | callMediaStateUpdate _
    | internalError _ => exact hg
  have hout := outcome_of_process hproc
  have hacts := hg.acts_of_outcome hslot hout
  have hgrow : ∀ o ∈ g.deps.trace, o ∈ d'.trace := by
    obtain ⟨obs, htrace, -⟩ := hout.recorded
    exact fun o ho => htrace ▸ List.mem_append_left _ ho
  by_cases hincoming : ∃ i, e = .incomingCall i
  · obtain ⟨i, rfl⟩ := hincoming
    exact hg.took hslot hout hgrow hacts
  · have hnone : e.incoming = [] := by
      cases e with
      | incomingCall i => exact absurd ⟨i, rfl⟩ hincoming
      | updateCall _ | updateNewMessage _ | callStateUpdate _ | callMediaStateUpdate _
      | internalError _ => rfl
    rw [hnone] at hg hmade
    obtain ⟨hkeep, hx⟩ | ⟨hkeep, hx⟩ := keep_cases hout (hg.wired.slot_ne_x hslot)
    · have hcalls := hg.calls_of_x hslot (hx ▸ hout) hstate hhangup
      simpa [hkeep] using hg.ended hslot hcalls hgrow hacts
    · have hwired := hg.wired.slot hslot hout hx
      rw [hkeep]
      obtain ⟨hid, hcall, hsip⟩ | ⟨-, i, rfl, -⟩ | ⟨hinit, hid, hpending, hcall, hsip, hassoc⟩ :=
        hout.sipCallId hx
      · exact hg.kept hslot hwired (hout.ctx_id hx) hid hcall hsip hgrow hacts
      · exact absurd ⟨i, rfl⟩ hincoming
      · cases hslot with
        | existing split => exact absurd hinit (hg.wired.ne_init (by simp [split]))
        | new _ none =>
          obtain ⟨hvalid, hfree⟩ := (hmade ⟨hpending, none⟩).of_ok hid
          have hself := hg.register_self hfree ⟨g.deps.sip.created, ""⟩
          simpa using hg.opened hwired rfl hcall (hout.ctx_id hx ▸ hassoc)
            hvalid hfree (hsip ▸ hself) (fun id' hne => by rw [hsip]; exact Keyed.emplace_of_ne hne)
            (fun _ => id) (fun i hi _ => hi) hg.distinct hgrow hacts

/-- PJSIP reports a call whose id is finished. -/
theorem Tracked.registerIncoming {localUser : String} (hg : g.Tracked w)
    (hvalid : id ≠ Sip.invalidId) (hfree : g.Finished w id) :
    (g.registerIncoming id localUser).Tracked (w ++ [(g.deps.sip.onIncomingCall id localUser).2]) := by
  have hself := hg.register_self hfree ⟨g.deps.sip.created, localUser⟩
  have hothers : ∀ id', id' ≠ id →
      (g.registerIncoming id localUser).deps.sip.calls id' = g.deps.sip.calls id' :=
    fun id' hne => Keyed.emplace_of_ne hne
  refine
    { wired := hg.wired, invalid := (hothers _ hvalid.symm).trans hg.invalid, held := ?_,
      waits := ?_, entries := ?_, unique := hg.unique, apart := ?_, distinct := ?_,
      acts := hg.acts }
  · intro b hb hb'
    obtain ⟨call, hentry, hrest⟩ := hg.held b hb hb'
    exact ⟨call, (hothers _ (hfree.1 b hb)).trans hentry, hrest⟩
  · intro i hi
    rcases List.mem_append.1 hi with hi | hi
    · obtain ⟨call, hentry, hobj⟩ := hg.waits i hi
      exact ⟨call, (hothers _ (hfree.2 i hi)).trans hentry, hobj⟩
    · obtain rfl := List.mem_singleton.1 hi
      exact ⟨_, hself, rfl⟩
  · intro id' call hentry
    by_cases hne : id' = id
    · exact Or.inr ⟨_, List.mem_append_right _ (List.mem_singleton.2 rfl), hne.symm⟩
    · obtain hb | ⟨i, hi, hid⟩ := hg.entries id' call (hothers id' hne ▸ hentry)
      · exact Or.inl hb
      · exact Or.inr ⟨i, List.mem_append_left _ hi, hid⟩
  · intro b hb i hi
    rcases List.mem_append.1 hi with hi | hi
    · exact hg.apart b hb i hi
    · rw [List.mem_singleton.1 hi]
      exact hfree.1 b hb
  · refine List.pairwise_append.2 ⟨hg.distinct, List.pairwise_singleton _ _, fun i hi j hj => ?_⟩
    rw [List.mem_singleton.1 hj]
    exact hfree.2 i hi

theorem tracked_initial (pid : ℕ) (cache : Cache) (now : ℤ) :
    (initial pid cache now).Tracked [] where
  wired := by simp [Wired, initial]
  invalid := rfl
  held := by simp [initial]
  waits := by simp
  entries := by simp [initial, Sip.Client.empty]
  unique := Keyed.uniqueKeys_nil
  apart := by simp
  distinct := List.Pairwise.nil
  acts := by simp [ActOnOwn, initial]

end step

end Gateway

/-! ## Every run of the loop -/

namespace Node

/-- The steps on which the table keeps up with the calls. -/
def KeepsUp (n : Node) : Move → Prop
  | .incoming id _ => id ≠ Sip.invalidId ∧ n.gateway.Finished (waiting n.sipEvents) id
  | .poll r => ∀ p ∈ n.take, p.2.gateway.KeepsUp (waiting n.sipEvents) p.1 r
  | _ => True

variable {settings : Settings} {n n' : Node} {e : Event} {m : Move}

/-- The calls waiting before a poll are the one it takes and those waiting after it. -/
theorem waiting_of_take (h : n.take = some (e, n')) :
    waiting n.sipEvents = e.incoming ++ waiting n'.sipEvents := by
  obtain ⟨i, is, -, -, rfl, rfl⟩ | ⟨u, us, -, -, rfl, rfl⟩ | ⟨s, ss, -, hqueue, rfl, rfl⟩ :=
    take_cases h
  · rfl
  · cases u <;> rfl
  · rw [hqueue]
    cases s <;> rfl

/-- Taking an event changes nothing the table depends on. -/
theorem tracked_of_take {w : List Sip.IncomingCall} (h : n.take = some (e, n'))
    (hn : n.gateway.Tracked w) : n'.gateway.Tracked w := by
  obtain ⟨i, is, -, -, rfl, rfl⟩ | ⟨u, us, -, -, rfl, rfl⟩ | ⟨s, ss, -, -, rfl, rfl⟩ :=
    take_cases h
  · exact ⟨hn.wired, hn.invalid, hn.held, hn.waits, hn.entries, hn.unique, hn.apart, hn.distinct,
      hn.acts⟩
  · exact hn
  · exact hn

theorem tracked_step (hn : n.gateway.Tracked (waiting n.sipEvents)) (h : Step settings n m n')
    (hok : n.KeepsUp m) : n'.gateway.Tracked (waiting n'.sipEvents) := by
  cases h with
  | update => exact hn
  | idle => exact hn
  | callState => simpa [emit, waiting, List.filterMap_cons, Sip.Event.incoming?] using hn
  | callMediaState => simpa [emit, waiting, List.filterMap_cons, Sip.Event.incoming?] using hn
  | incoming =>
    simpa [emit, waiting, List.filterMap_cons, Sip.Event.incoming?] using hn.registerIncoming hok.1 hok.2
  | @handle n₁ r e g taken hg =>
    have hevent : n₁.gateway.KeepsUp (waiting n.sipEvents) e r := hok (e, n₁) taken
    have hn₁ := tracked_of_take taken hn
    rw [waiting_of_take taken] at hn₁ hevent
    exact hn₁.processEvent hevent hg

/-- In every run of the loop in which PJSUA gives an id only when the gateway has finished
with the earlier call that had it, no held call is reported as disconnected and no `Hangup`
throws : an entry is for a call that a bridge holds or that is still in the queue, a bridge
finds its own call, a call that gets a finished id is the entry of that id, and every
operation acted on an object of its own context. -/
theorem calls_of_run {settings : Settings} {pid : ℕ} {cache : Cache} {now : ℤ} {ms : List Move}
    {n : Node} (hrun : Run (Restrict (Step settings) KeepsUp) (initial pid cache now) ms n) :
    (∀ id call, n.gateway.deps.sip.calls id = some call →
      (∃ b ∈ n.gateway.bridges, b.ctx.sipCallId = id ∧ b.ctx.sipCall = some call.obj) ∨
        ∃ i, .incomingCall i ∈ n.sipEvents ∧ i.id = id ∧ i.call = call.obj) ∧
    (∀ b ∈ n.gateway.bridges, b.ctx.sipCallId ≠ Sip.invalidId →
      ∃ call, n.gateway.deps.sip.calls b.ctx.sipCallId = some call ∧
        b.ctx.sipCall = some call.obj) ∧
    (∀ id user, n.gateway.Finished (waiting n.sipEvents) id →
      (n.gateway.deps.sip.register id ⟨n.gateway.deps.sip.created, user⟩).calls id =
        some ⟨n.gateway.deps.sip.created, user⟩) ∧
    Gateway.ActOnOwn n.gateway.deps.trace := by
  have hn : n.gateway.Tracked (waiting n.sipEvents) :=
    hrun.invariant (fun n => n.gateway.Tracked (waiting n.sipEvents))
      (fun _ _ _ hn hs => tracked_step hn hs.1 hs.2) (Gateway.tracked_initial ..)
  refine ⟨fun id call hentry => ?_, fun b hb hvalid => ?_, fun id user hfree => ?_, hn.acts⟩
  · have hid : id ≠ Sip.invalidId := by
      rintro rfl
      simp [hn.invalid] at hentry
    obtain ⟨b, hb, rfl⟩ | ⟨i, hi, rfl⟩ := hn.entries id call hentry
    · obtain ⟨call', hentry', hobj, -⟩ := hn.held b hb hid
      obtain rfl := Option.some.inj (hentry'.symm.trans hentry)
      exact Or.inl ⟨b, hb, rfl, hobj⟩
    · obtain ⟨call', hentry', hobj⟩ := hn.waits i hi
      obtain rfl := Option.some.inj (hentry'.symm.trans hentry)
      exact Or.inr ⟨i, mem_waiting.1 hi, rfl, hobj.symm⟩
  · obtain ⟨call, hentry, hobj, -⟩ := hn.held b hb hvalid
    exact ⟨call, hentry, hobj⟩
  · exact hn.register_self hfree _

instance : DecidablePred Event.IsEnd
  | .updateCall u => inferInstanceAs (Decidable (u.state = .discarded ∨ u.state = .error))
  | .callStateUpdate c => inferInstanceAs (Decidable (c.state = .disconnected))
  | .internalError _ => inferInstanceAs (Decidable True)
  | .updateNewMessage _ => inferInstanceAs (Decidable False)
  | .incomingCall _ => inferInstanceAs (Decidable False)
  | .callMediaStateUpdate _ => inferInstanceAs (Decidable False)

instance : DecidablePred Event.IsPending
  | .updateCall u => inferInstanceAs (Decidable (u.isOutgoing = false ∧ u.state = .pending))
  | .updateNewMessage _ => inferInstanceAs (Decidable False)
  | .incomingCall _ => inferInstanceAs (Decidable False)
  | .callStateUpdate _ => inferInstanceAs (Decidable False)
  | .callMediaStateUpdate _ => inferInstanceAs (Decidable False)
  | .internalError _ => inferInstanceAs (Decidable False)

instance (g : Gateway) (w : List Sip.IncomingCall) : DecidablePred (g.Finished w) :=
  fun _ => inferInstanceAs (Decidable (_ ∧ _))

instance (g : Gateway) : DecidablePred g.DisconnectsHeld
  | .callStateUpdate c => inferInstanceAs (Decidable (c.state = .disconnected ∧
      g.deps.sip.calls c.id ≠ none ∧ ∃ b ∈ g.bridges, b.ctx.sipCallId = c.id))
  | .updateCall _ => inferInstanceAs (Decidable False)
  | .updateNewMessage _ => inferInstanceAs (Decidable False)
  | .incomingCall _ => inferInstanceAs (Decidable False)
  | .callMediaStateUpdate _ => inferInstanceAs (Decidable False)
  | .internalError _ => inferInstanceAs (Decidable False)

instance (g : Gateway) : DecidablePred g.Dials :=
  fun _ => inferInstanceAs (Decidable (_ ∧ _))

instance (g : Gateway) : DecidablePred g.HangsUp :=
  fun _ => inferInstanceAs (Decidable (_ ∧ _))

instance (g : Gateway) (w : List Sip.IncomingCall) (e : Event) :
    DecidablePred (g.KeepsUp w e) :=
  fun _ => inferInstanceAs (Decidable (_ ∧ _))

instance (n : Node) : DecidablePred n.KeepsUp
  | .incoming id _ => inferInstanceAs (Decidable (id ≠ Sip.invalidId ∧
      n.gateway.Finished (waiting n.sipEvents) id))
  | .poll r => inferInstanceAs (Decidable (∀ p ∈ n.take,
      p.2.gateway.KeepsUp (waiting n.sipEvents) p.1 r))
  | .update _ => inferInstanceAs (Decidable True)
  | .callState _ _ => inferInstanceAs (Decidable True)
  | .callMediaState _ _ => inferInstanceAs (Decidable True)

/-- Two calls, one after the other, that get the same id : the first is discarded in
Telegram. -/
def discardedRun : List Move :=
  forwarded 7 ++ [.update (.call ⟨7, 42, false, .discarded⟩), .poll (.granting 0 9),
    .poll (.granting 0 9), .poll (.granting 0 9), .poll (.granting 0 9)] ++ forwarded 8

/-- The node after a run on which the table keeps up, if there is one. -/
def execKeepsUp (ms : List Move) : Option Node :=
  exec (guarded KeepsUp (next { callbackUri := "sip:pbx" })) (initial 1 .empty 0) ms

theorem calls_of_run_discarded :
    (execKeepsUp discardedRun).map (fun n =>
      (n.gateway.bridges.map (·.ctx.sipCall), n.gateway.deps.sip.calls 0)) =
        some ([some 1], some ⟨1, ""⟩) ∧
    ∀ n, execKeepsUp discardedRun = some n → Gateway.ActOnOwn n.gateway.deps.trace :=
  ⟨rfl, fun _ h => (calls_of_run (Run.of_guarded (fun _ _ _ => step_of_next) h)).2.2.2⟩

/-- A call that is reported as disconnected leaves its entry, and the next call with its id
gets a bridge but no entry. -/
theorem stale_entry_of_disconnected :
    ∃ n n', Run (Step { callbackUri := "sip:pbx" }) (initial 1 .empty 0)
        (forwarded 7 ++ [.callState 0 .disconnected, .poll (.granting 0 9)]) n ∧
      n.gateway.bridges = [] ∧ n.sipEvents = [] ∧
      n.gateway.deps.sip.calls 0 = some ⟨0, ""⟩ ∧
      Run (Step { callbackUri := "sip:pbx" }) n (forwarded 8) n' ∧
      n'.gateway.bridges.map (fun b => (b.ctx.sipCallId, b.ctx.sipCall)) = [(0, some 1)] ∧
      n'.gateway.deps.sip.calls 0 = some ⟨0, ""⟩ :=
  ⟨_, _, run_of_execLoop rfl, rfl, rfl, rfl, Run.of_exec (fun _ _ _ => step_of_next) rfl, rfl, rfl⟩

end Node

end TelegramProvider
