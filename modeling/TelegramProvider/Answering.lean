import TelegramProvider.Contexts
import TelegramProvider.Histories
import TelegramProvider.Legs

/-!
# When a leg is answered

A call is answered on one side after the other side is ready : TDLib is told to accept after
the SIP call has media, a SIP caller gets 200 after the Telegram call is ready, and the two
are bridged after both (`Allowed`). What a sub-state says was handled before is kept with
the bridge (`History`); events for other bridges only add to the record. Each of these
attempts is made in one sub-state that the bridge never enters again (`spends_attempt`).
-/

set_option autoImplicit false

namespace TelegramProvider

open Runs Histories

/-! ## The order of the record -/

/-- `c` dialed the SIP call `id`. -/
def Dialed (pre : List Obs) (c : CtxId) (id : ℤ) : Prop :=
  (∃ uri prm target, Obs.sip c (.dial uri prm) target ∈ pre) ∧
    ∃ call, Obs.sipAssociated c id call ∈ pre

/-- `c` created the Telegram call `id`. -/
def Created (pre : List Obs) (c : CtxId) (id : ℤ) : Prop :=
  (∃ userId protocol isVideo, Obs.query c (.createCall userId protocol isVideo) ∈ pre) ∧
    Obs.tgAssociated c id ∈ pre

/-- `c` handled that the SIP call `id` reported `EARLY`. -/
def Early (pre : List Obs) (c : CtxId) (id : ℤ) : Prop :=
  ∃ e : Sip.CallStateUpdate, e.id = id ∧ e.state = .early ∧
    Obs.event c (.callStateUpdate e) ∈ pre

/-- `c` handled that the SIP call `id` has media. -/
def MediaReady (pre : List Obs) (c : CtxId) (id : ℤ) : Prop :=
  ∃ e : Sip.CallMediaStateUpdate, e.id = id ∧ e.hasMedia = true ∧
    Obs.event c (.callMediaStateUpdate e) ∈ pre

/-- `c` handled that the Telegram call `id` is ready, and created the controller for it. -/
def TgReady (settings : Settings) (pre : List Obs) (c : CtxId) (id : ℤ)
    (controller : VoIPController) : Prop :=
  ∃ (u : Td.UpdateCall) (key : String) (servers : List Td.CallServer), u.id = id ∧
    u.state = .ready key servers ∧ Obs.event c (.updateCall u) ∈ pre ∧
    Obs.action c .createTgVoip (.updateCall u) ∈ pre ∧
    controller = Actions.voipController settings u key servers

/-- Both calls of `c` are ready, and the controller is the one of its Telegram call. -/
def BothReady (settings : Settings) (pre : List Obs) (c : CtxId) (sipId : ℤ)
    (controller : VoIPController) : Prop :=
  (∃ call, Obs.sipAssociated c sipId call ∈ pre) ∧ MediaReady pre c sipId ∧
    ∃ tgId, Obs.tgAssociated c tgId ∈ pre ∧ TgReady settings pre c tgId controller

/-- What must be recorded before an entry. -/
def Allowed (settings : Settings) (pre : List Obs) : Obs → Prop
  | .query c (.acceptCall id _) =>
    Obs.tgAssociated c id ∈ pre ∧ ∃ sipId, Dialed pre c sipId ∧ MediaReady pre c sipId
  | .query c (.createCall _ _ _) =>
    ∃ sipId call, Obs.sipAssociated c sipId call ∈ pre ∧ Early pre c sipId
  | .sip c (.answer sipId prm) _ => prm.statusCode = Sip.scOk →
    (∃ call, Obs.sipAssociated c sipId call ∈ pre) ∧
      ∃ tgId controller, Created pre c tgId ∧ TgReady settings pre c tgId controller
  | .sip c (.bridgeAudio sipId controller) _ => BothReady settings pre c sipId controller
  | .action c .bridgeAudio _ => ∃ sipId controller, BothReady settings pre c sipId controller
  | _ => True

/-! ## What a sub-state says was handled -/

/-- What the record has of a bridge. -/
structure History (settings : Settings) (pre : List Obs) (s : State) (ctx : Context) : Prop where
  tg : ctx.tgCallId ≠ 0 → Obs.tgAssociated ctx.id ctx.tgCallId ∈ pre
  sip : ctx.sipCallId ≠ Sip.invalidId → ∃ call, Obs.sipAssociated ctx.id ctx.sipCallId call ∈ pre
  new : s.top = .init → ctx.tgCallId = 0 ∧ ctx.sipCallId = Sip.invalidId
  pending : s.top = .fromTg → ctx.tgCallId ≠ 0
  incoming : s.top = .fromSip → ctx.sipCallId ≠ Sip.invalidId
  dialed : s.top = .fromTg → ctx.sipCallId ≠ Sip.invalidId → Dialed pre ctx.id ctx.sipCallId
  created : s.top = .fromSip → ctx.tgCallId ≠ 0 → Created pre ctx.id ctx.tgCallId
  media : s = .fromTg .waitTg →
    ctx.sipCallId ≠ Sip.invalidId ∧ MediaReady pre ctx.id ctx.sipCallId
  ready : s = .fromSip .sipWaitMedia → ctx.tgCallId ≠ 0 ∧
    ∃ controller, ctx.controller = some controller ∧
      TgReady settings pre ctx.id ctx.tgCallId controller

section history

variable {settings : Settings} {pre pre' : List Obs} {c : CtxId} {id : ℤ} {s : State}
  {ctx : Context} {controller : VoIPController}

theorem Dialed.mono (hsub : pre ⊆ pre') (h : Dialed pre c id) : Dialed pre' c id := by
  obtain ⟨⟨uri, prm, target, hdial⟩, call, hassociated⟩ := h
  exact ⟨⟨uri, prm, target, hsub hdial⟩, call, hsub hassociated⟩

theorem Created.mono (hsub : pre ⊆ pre') (h : Created pre c id) : Created pre' c id := by
  obtain ⟨⟨userId, protocol, isVideo, hcreate⟩, hassociated⟩ := h
  exact ⟨⟨userId, protocol, isVideo, hsub hcreate⟩, hsub hassociated⟩

theorem MediaReady.mono (hsub : pre ⊆ pre') (h : MediaReady pre c id) : MediaReady pre' c id := by
  obtain ⟨e, hid, hmedia, hevent⟩ := h
  exact ⟨e, hid, hmedia, hsub hevent⟩

theorem TgReady.mono (hsub : pre ⊆ pre') (h : TgReady settings pre c id controller) :
    TgReady settings pre' c id controller := by
  obtain ⟨u, key, servers, hid, hready, hevent, haction, hcontroller⟩ := h
  exact ⟨u, key, servers, hid, hready, hsub hevent, hsub haction, hcontroller⟩

theorem BothReady.mono (hsub : pre ⊆ pre') (h : BothReady settings pre c id controller) :
    BothReady settings pre' c id controller := by
  obtain ⟨⟨call, hcall⟩, hmedia, tgId, htg, hready⟩ := h
  exact ⟨⟨call, hsub hcall⟩, hmedia.mono hsub, tgId, hsub htg, hready.mono hsub⟩

/-- What was recorded stays recorded. -/
theorem History.mono (hsub : pre ⊆ pre') (h : History settings pre s ctx) :
    History settings pre' s ctx where
  tg htg := hsub (h.tg htg)
  sip hsip := (h.sip hsip).imp fun _ hcall => hsub hcall
  new := h.new
  pending := h.pending
  incoming := h.incoming
  dialed hs hsip := (h.dialed hs hsip).mono hsub
  created hs htg := (h.created hs htg).mono hsub
  media hs := ⟨(h.media hs).1, (h.media hs).2.mono hsub⟩
  ready hs := by
    obtain ⟨htg, controller, hcontroller, hready⟩ := h.ready hs
    exact ⟨htg, controller, hcontroller, hready.mono hsub⟩

/-- Nothing is said of a new bridge. -/
theorem history_new (hctx : ctx = { id := c }) : History settings pre .init ctx := by
  subst hctx
  constructor <;> simp [State.top]

/-- A bridge goes on in its nested machine, with its calls as they are. -/
theorem History.move {s' : State} {ctx' : Context} (h : History settings pre s ctx)
    (hsub : pre ⊆ pre') (htop : s'.top = s.top) (hid : ctx'.id = ctx.id)
    (htg : ctx'.tgCallId = ctx.tgCallId) (hsip : ctx'.sipCallId = ctx.sipCallId)
    (media : s' = .fromTg .waitTg →
      ctx.sipCallId ≠ Sip.invalidId ∧ MediaReady pre' ctx.id ctx.sipCallId)
    (ready : s' = .fromSip .sipWaitMedia → ctx.tgCallId ≠ 0 ∧
      ∃ controller, ctx'.controller = some controller ∧
        TgReady settings pre' ctx.id ctx.tgCallId controller) :
    History settings pre' s' ctx' := by
  have hmono := h.mono hsub
  constructor <;> simp only [htop, hid, htg, hsip]
  · exact hmono.tg
  · exact hmono.sip
  · exact hmono.new
  · exact hmono.pending
  · exact hmono.incoming
  · exact hmono.dialed
  · exact hmono.created
  · exact media
  · exact ready

/-- The Telegram call is ready, and the SIP call has its media. -/
theorem History.bothReady_of_tg {u : Td.UpdateCall} {key : String} {servers : List Td.CallServer}
    (h : History settings pre (.fromTg .waitTg) ctx) (hid : ctx.tgCallId = u.id)
    (hready : u.state = .ready key servers) (hsub : pre ⊆ pre')
    (hevent : Obs.event ctx.id (.updateCall u) ∈ pre')
    (haction : Obs.action ctx.id .createTgVoip (.updateCall u) ∈ pre') :
    BothReady settings pre' ctx.id ctx.sipCallId
      (Actions.voipController settings u key servers) := by
  obtain ⟨hsip, hmedia⟩ := h.media rfl
  obtain ⟨call, hcall⟩ := h.sip hsip
  have htg := h.tg (h.pending rfl)
  exact ⟨⟨call, hsub hcall⟩, hmedia.mono hsub, ctx.tgCallId, hsub htg,
    u, key, servers, hid.symm, hready, hevent, haction, rfl⟩

/-- The SIP call has its media, and the Telegram call is ready. -/
theorem History.bothReady_of_sip {m : Sip.CallMediaStateUpdate}
    (h : History settings pre (.fromSip .sipWaitMedia) ctx) (hid : ctx.sipCallId = m.id)
    (hmedia : m.hasMedia = true) (hcontroller : ctx.controller = some controller)
    (hsub : pre ⊆ pre') (hevent : Obs.event ctx.id (.callMediaStateUpdate m) ∈ pre') :
    BothReady settings pre' ctx.id ctx.sipCallId controller := by
  obtain ⟨call, hcall⟩ := h.sip (h.incoming rfl)
  obtain ⟨htg, controller', hcontroller', hready⟩ := h.ready rfl
  obtain rfl : controller = controller' := Option.some.inj (hcontroller.symm.trans hcontroller')
  exact ⟨⟨call, hsub hcall⟩, ⟨m, hid.symm, hmedia, hevent⟩, ctx.tgCallId, hsub (h.tg htg),
    hready.mono hsub⟩

/-- The Telegram call of an incoming SIP call is created. -/
theorem History.created_tg {callId : ℤ} (h : History settings pre (.fromSip .sipWaitConfirm) ctx)
    (hsub : pre ⊆ pre') (hcreated : Created pre' ctx.id callId) :
    History settings pre' (.fromSip .waitTg) { ctx with tgCallId := callId } := by
  have hmono := h.mono hsub
  exact {
    tg := fun _ => hcreated.2
    sip := hmono.sip
    new := by simp [State.top]
    pending := by simp [State.top]
    incoming := fun _ => hmono.incoming rfl
    dialed := by simp [State.top]
    created := fun _ _ => hcreated
    media := by simp
    ready := by simp }

end history

/-! ## One event -/

section outcome

variable {settings : Settings} {r : Replies} {e : Event} {ctx ctx' : Context} {d d' : Deps}
  {s s' : State} {pre obs : List Obs} {c : CtxId}

/-- Errors may be recorded at any time. -/
theorem after_failures {errs : List Sip.CallOpParam} :
    After (Allowed settings) pre (failures c errs) := by
  refine after_of_free fun o ho pre => ?_
  obtain ⟨prm, -, rfl⟩ := List.mem_map.1 ho
  trivial

/-- And so may what `CleanUp` does. -/
theorem after_releases {sip : Sip.Client} :
    After (Allowed settings) pre (releases r sip ctx) := by
  refine after_of_free fun o ho pre => ?_
  obtain rfl | rfl | ⟨error, rfl⟩ | ⟨-, rfl⟩ := mem_releases ho <;> trivial

theorem after_lookups {lookups : List Td.Query} (asked : ∀ q ∈ lookups, Actions.IsLookup q) :
    After (Allowed settings) pre (lookups.map (.query c)) := by
  refine after_of_free fun o ho pre => ?_
  obtain ⟨q, hq, rfl⟩ := List.mem_map.1 ho
  have hlookup := asked q hq
  cases q <;> first | exact hlookup.elim | trivial

/-- Whatever a bridge does follows what must be recorded before it. -/
theorem Outcome.after (h : Outcome settings r ctx ctx' d d' s e s')
    (hh : History settings d.trace s ctx)
    (hroute : s ≠ .init → routes e ⟨s, ctx⟩ = true) (hvalid : e.ValidIds) :
    ∃ obs, d'.trace = d.trace ++ obs ∧ After (Allowed settings) d.trace obs := by
  cases h with
  | idle _ _ changed | dialed _ _ _ _ _ _ changed | dialRefused _ _ _ _ _ _ changed
  | rejected _ _ changed =>
    exact ⟨_, changed.trace, by simp [After, Allowed]⟩
  | accepted _ _ _ changed =>
    refine ⟨_, changed.trace, after_append.2 ⟨?_, after_failures⟩⟩
    simp [After, Allowed, ringing, Sip.scRinging, Sip.scOk]
  | declined _ _ _ changed | dropped _ changed =>
    exact ⟨_, changed.trace, after_append.2 ⟨by simp [After, Allowed], after_releases⟩⟩
  | ended _ ends changed =>
    refine ⟨_, changed.trace, after_append.2 ⟨?_, after_releases⟩⟩
    cases ends <;> simp [After, Allowed]
  | dtmf _ _ _ _ _ changed =>
    refine ⟨_, changed.trace, after_append.2 ⟨by simp [After, Allowed], ?_⟩⟩
    refine after_of_free fun o ho pre => ?_
    obtain ⟨error, -, rfl⟩ := List.mem_map.1 ho
    trivial
  | @answeredTg m _ hmedia _ _ changed =>
    refine ⟨_, changed.trace, after_append.2 ⟨?_, after_failures⟩⟩
    have hid : ctx.sipCallId = m.id := of_decide_eq_true (hroute (by simp))
    have hdialed := hh.dialed rfl (hid ▸ hvalid)
    have htg := hh.tg (hh.pending rfl)
    refine ⟨trivial, trivial, ⟨by simp [htg], ctx.sipCallId, ?_, m, hid.symm, hmedia, by simp⟩,
      trivial⟩
    exact hdialed.mono (by simp)
  | @joinedTg u key servers _ hready _ _ changed =>
    refine ⟨_, changed.trace, after_append.2 ⟨?_, after_failures⟩⟩
    have hid : ctx.tgCallId = u.id := of_decide_eq_true (hroute (by simp))
    exact ⟨trivial, trivial,
      ⟨_, _, hh.bothReady_of_tg hid hready (by simp) (by simp) (by simp)⟩,
      hh.bothReady_of_tg hid hready (by simp) (by simp) (by simp), trivial⟩
  | @dialedTg m callId userId lookups hearly _ asked _ _ changed =>
    refine ⟨_, changed.trace, ?_⟩
    have hid : ctx.sipCallId = m.id := of_decide_eq_true (hroute (by simp))
    obtain ⟨call, hcall⟩ := hh.sip (hid ▸ hvalid)
    refine after_append.2 ⟨after_append.2 ⟨by simp [After, Allowed], after_lookups asked⟩, ?_⟩
    refine ⟨⟨ctx.sipCallId, call, by simp [hcall], m, hid.symm, hearly, by simp⟩, trivial, trivial⟩
  | @dialTgFailed m prm lookups creates hearly asked asked' _ changed =>
    refine ⟨_, changed.trace, ?_⟩
    have hid : ctx.sipCallId = m.id := of_decide_eq_true (hroute (by simp))
    obtain ⟨call, hcall⟩ := hh.sip (hid ▸ hvalid)
    refine after_append.2 ⟨after_append.2 ⟨after_append.2 ⟨by simp [After, Allowed],
      after_lookups asked⟩, ?_⟩, by simp [After, Allowed]⟩
    rcases asked' with rfl | ⟨userId, rfl⟩
    · trivial
    · exact ⟨⟨ctx.sipCallId, call, by simp [hcall], m, hid.symm, hearly, by simp⟩, trivial⟩
  | @answeredSip u key servers _ hready _ _ changed =>
    refine ⟨_, changed.trace, after_append.2 ⟨?_, after_failures⟩⟩
    have hid : ctx.tgCallId = u.id := of_decide_eq_true (hroute (by simp))
    have hcreated := hh.created rfl (hid ▸ hvalid)
    obtain ⟨call, hcall⟩ := hh.sip (hh.incoming rfl)
    refine ⟨trivial, trivial, trivial, trivial, fun _ => ⟨⟨call, by simp [hcall]⟩, ?_⟩, trivial⟩
    exact ⟨ctx.tgCallId, _, hcreated.mono (by simp), u, key, servers, hid.symm, hready, by simp,
      by simp, rfl⟩
  | @joinedSip m controller _ hmedia hcontroller _ _ changed =>
    refine ⟨_, changed.trace, after_append.2 ⟨?_, after_failures⟩⟩
    have hid : ctx.sipCallId = m.id := of_decide_eq_true (hroute (by simp))
    exact ⟨trivial, ⟨_, _, hh.bothReady_of_sip hid hmedia hcontroller (by simp) (by simp)⟩,
      hh.bothReady_of_sip hid hmedia hcontroller (by simp) (by simp), trivial⟩

/-- What the record has of a bridge that took a ringing call. -/
theorem history_pending (htg : .tgAssociated ctx.id ctx.tgCallId ∈ pre) (hvalid : ctx.tgCallId ≠ 0)
    (hdialed : ctx.sipCallId ≠ Sip.invalidId → Dialed pre ctx.id ctx.sipCallId) :
    History settings pre (.fromTg .sipWaitMedia) ctx where
  tg _ := htg
  sip hsip := (hdialed hsip).2
  new := by simp [State.top]
  pending _ := hvalid
  incoming := by simp [State.top]
  dialed _ := hdialed
  created := by simp [State.top]
  media := by simp
  ready := by simp

/-- What the record has of a bridge that took an incoming call. -/
theorem history_incoming {i : Sip.IncomingCall} (hh : History settings pre .init ctx)
    (hid : ctx'.id = ctx.id) (htg : ctx'.tgCallId = ctx.tgCallId) (hsip : ctx'.sipCallId = i.id)
    (hvalid : i.id ≠ Sip.invalidId) (hcall : .sipAssociated ctx.id i.id i.call ∈ obs) :
    History settings obs (.fromSip .sipWaitConfirm) ctx' := by
  have hnone := (hh.new rfl).1
  constructor <;> simp only [hid, htg, hsip]
  · exact fun h => absurd hnone h
  · exact fun _ => ⟨i.call, hcall⟩
  · simp [State.top]
  · simp [State.top]
  · exact fun _ => hvalid
  · simp [State.top]
  · exact fun _ h => absurd hnone h
  · simp
  · simp

/-- What the record has of a bridge after an event, unless it ends. -/
theorem Outcome.history (h : Outcome settings r ctx ctx' d d' s e s')
    (hh : History settings d.trace s ctx)
    (hroute : s ≠ .init → routes e ⟨s, ctx⟩ = true) (hvalid : e.ValidIds) (hx : s' ≠ .x) :
    History settings d'.trace s' ctx' := by
  have hsub : d.trace ⊆ d'.trace := by
    obtain ⟨obs, htrace, -⟩ := h.recorded
    simp [htrace]
  cases h with
  | declined | dropped | ended => exact absurd rfl hx
  | idle _ hctx =>
    subst hctx
    exact hh.mono hsub
  | dtmf hs _ _ _ hctx =>
    subst hctx
    exact hh.mono hsub
  | @dialed u _ prm id _ _ _ _ _ hctx changed =>
    subst hctx
    have hdial : Dialed d'.trace ctx.id id :=
      ⟨⟨settings.callbackUri, prm, none, by rw [changed.trace]; simp⟩, d.sip.created,
        by rw [changed.trace]; simp⟩
    refine history_pending ?_ hvalid fun _ => hdial
    rw [changed.trace]
    simp
  | @dialRefused u _ _ _ _ _ _ _ _ hctx changed =>
    subst hctx
    refine history_pending ?_ hvalid fun hsip => absurd (hh.new rfl).2 hsip
    rw [changed.trace]
    simp
  | @accepted i ext _ _ _ hctx changed =>
    subst hctx
    have hcall : .sipAssociated ctx.id i.id i.call ∈ d'.trace := by
      rw [changed.trace]
      simp
    cases ext <;> exact history_incoming hh rfl rfl rfl hvalid hcall
  | rejected _ hctx changed =>
    subst hctx
    refine history_incoming hh rfl rfl rfl hvalid ?_
    rw [changed.trace]
    simp
  | @answeredTg m _ hmedia _ hctx changed =>
    subst hctx
    have hid : ctx'.sipCallId = m.id := of_decide_eq_true (hroute (by simp))
    refine hh.move hsub rfl rfl rfl rfl (fun _ => ⟨hid ▸ hvalid, m, hid.symm, hmedia, ?_⟩) (by simp)
    rw [changed.trace]
    simp
  | joinedTg _ _ hctx =>
    subst hctx
    exact hh.move hsub rfl rfl rfl rfl (by simp) (by simp)
  | @dialedTg m callId userId lookups _ _ _ _ hctx changed =>
    subst hctx
    have hcreated : Created d'.trace ctx.id callId :=
      ⟨⟨userId, callProtocol settings, false, by rw [changed.trace]; simp⟩,
        by rw [changed.trace]; simp⟩
    exact hh.created_tg hsub hcreated
  | dialTgFailed _ _ _ hctx =>
    subst hctx
    exact hh.move hsub rfl rfl rfl rfl (by simp) (by simp)
  | @answeredSip u key servers _ hready _ hctx changed =>
    subst hctx
    have hid : ctx.tgCallId = u.id := of_decide_eq_true (hroute (by simp))
    refine hh.move hsub rfl rfl rfl rfl (by simp) fun _ =>
      ⟨hid ▸ hvalid, _, rfl, u, key, servers, hid.symm, hready, ?_, ?_, rfl⟩ <;>
      simp [changed.trace]
  | joinedSip _ _ _ hctx =>
    subst hctx
    exact hh.move hsub rfl rfl rfl rfl (by simp) (by simp)

end outcome

/-! ## What is attempted once -/

/-- The attempts that open or join a leg. -/
inductive Attempt
  | dial
  | createCall
  | acceptCall
  | answer
  | createTgVoip
  | bridgeAudio
  deriving DecidableEq, Repr

/-- The attempt an entry is. Only the answer with 200 counts as one. -/
def Obs.attempt : Obs → Option Attempt
  | .sip _ (.dial ..) _ => some .dial
  | .query _ (.createCall ..) => some .createCall
  | .query _ (.acceptCall ..) => some .acceptCall
  | .sip _ (.answer _ prm) _ => if prm.statusCode = Sip.scOk then some .answer else none
  | .action _ .createTgVoip _ => some .createTgVoip
  | .action _ .bridgeAudio _ => some .bridgeAudio
  | _ => none

/-- The states in which the attempt may still come. -/
def Attempt.Ahead : Attempt → State → Prop
  | _, .init => True
  | .acceptCall, .fromTg .sipWaitMedia => True
  | .createTgVoip, .fromTg q => q ≠ .waitDtmf
  | .bridgeAudio, .fromTg q => q ≠ .waitDtmf
  | .createCall, .fromSip .sipWaitConfirm => True
  | .answer, .fromSip q => q = .sipWaitConfirm ∨ q = .waitTg
  | .createTgVoip, .fromSip q => q = .sipWaitConfirm ∨ q = .waitTg
  | .bridgeAudio, .fromSip q => q ≠ .waitDtmf
  | _, _ => False

section attempt

variable {settings : Settings} {r : Replies} {e : Event} {ctx ctx' : Context} {d d' : Deps}
  {s s' : State} {t : Attempt} {c : CtxId} {obs : List Obs}

/-- Nothing comes ahead again. -/
theorem Outcome.ahead (h : Outcome settings r ctx ctx' d d' s e s') (ht : t.Ahead s') :
    t.Ahead s := by
  cases h with
  | idle | dtmf => exact ht
  | declined | dropped | ended => cases t <;> exact ht.elim
  | dialed | dialRefused | accepted | rejected => cases t <;> trivial
  | answeredTg | joinedTg | dialedTg | dialTgFailed | answeredSip | joinedSip =>
    cases t <;> simp_all [Attempt.Ahead]

theorem attempts_failures {errs : List Sip.CallOpParam} :
    (failures c errs).filterMap Obs.attempt = [] := by
  refine List.filterMap_eq_nil_iff.2 fun o ho => ?_
  obtain ⟨prm, -, rfl⟩ := List.mem_map.1 ho
  rfl

theorem attempts_releases {sip : Sip.Client} :
    (releases r sip ctx).filterMap Obs.attempt = [] := by
  refine List.filterMap_eq_nil_iff.2 fun o ho => ?_
  obtain rfl | rfl | ⟨error, rfl⟩ | ⟨-, rfl⟩ := mem_releases ho <;> rfl

theorem attempts_lookups {lookups : List Td.Query} (asked : ∀ q ∈ lookups, Actions.IsLookup q) :
    (lookups.map (Obs.query c)).filterMap Obs.attempt = [] := by
  refine List.filterMap_eq_nil_iff.2 fun o ho => ?_
  obtain ⟨q, hq, rfl⟩ := List.mem_map.1 ho
  have hlookup := asked q hq
  cases q <;> first | exact hlookup.elim | rfl

/-- What a bridge attempts in one event : each of it once, and for the last time. -/
theorem Outcome.attempts (h : Outcome settings r ctx ctx' d d' s e s') :
    ∃ obs made, d'.trace = d.trace ++ obs ∧ obs.filterMap Obs.attempt = made ∧ made.Nodup ∧
      ∀ t ∈ made, t.Ahead s ∧ ¬t.Ahead s' := by
  cases h with
  | idle _ _ changed | rejected _ _ changed =>
    exact ⟨_, [], changed.trace, rfl, by simp, by simp⟩
  | dialed _ _ _ _ _ _ changed | dialRefused _ _ _ _ _ _ changed =>
    exact ⟨_, [.dial], changed.trace, rfl, by simp, by simp [Attempt.Ahead]⟩
  | accepted _ _ _ changed =>
    refine ⟨_, [], changed.trace, ?_, by simp, by simp⟩
    rw [List.filterMap_append, attempts_failures]
    rfl
  | declined _ _ _ changed | dropped _ changed =>
    refine ⟨_, [], changed.trace, ?_, by simp, by simp⟩
    rw [List.filterMap_append, attempts_releases]
    rfl
  | ended _ ends changed =>
    refine ⟨_, [], changed.trace, ?_, by simp, by simp⟩
    rw [List.filterMap_append, attempts_releases]
    cases ends <;> rfl
  | dtmf _ _ _ _ _ changed =>
    refine ⟨_, [], changed.trace, ?_, by simp, by simp⟩
    simp [Obs.attempt, List.filterMap_cons]
  | answeredTg _ _ _ changed =>
    refine ⟨_, [.acceptCall], changed.trace, ?_, by simp, by simp [Attempt.Ahead]⟩
    rw [List.filterMap_append, attempts_failures]
    rfl
  | joinedTg _ _ _ changed =>
    refine ⟨_, [.createTgVoip, .bridgeAudio], changed.trace, ?_, by simp, by simp [Attempt.Ahead]⟩
    rw [List.filterMap_append, attempts_failures]
    rfl
  | answeredSip _ _ _ changed =>
    refine ⟨_, [.createTgVoip, .answer], changed.trace, ?_, by simp, by simp [Attempt.Ahead]⟩
    rw [List.filterMap_append, attempts_failures]
    rfl
  | joinedSip _ _ _ _ changed =>
    refine ⟨_, [.bridgeAudio], changed.trace, ?_, by simp, by simp [Attempt.Ahead]⟩
    rw [List.filterMap_append, attempts_failures]
    rfl
  | dialedTg _ _ asked _ _ changed =>
    refine ⟨_, [.createCall], changed.trace, ?_, by simp, by simp [Attempt.Ahead]⟩
    rw [List.filterMap_append, List.filterMap_append, attempts_lookups asked]
    rfl
  | dialTgFailed _ asked asked' _ changed =>
    rcases asked' with rfl | ⟨userId, rfl⟩
    · refine ⟨_, [], changed.trace, ?_, by simp, by simp⟩
      rw [List.filterMap_append, List.filterMap_append, List.filterMap_append,
        attempts_lookups asked]
      rfl
    · refine ⟨_, [.createCall], changed.trace, ?_, by simp, by simp [Attempt.Ahead]⟩
      rw [List.filterMap_append, List.filterMap_append, List.filterMap_append,
        attempts_lookups asked]
      rfl

theorem spends_attempt : Spends Obs.attempt Attempt.Ahead := by
  intro settings r ctx ctx' d d' s s' e h t
  obtain ⟨obs, made, htrace, hmade, hnodup, hpast⟩ := h.attempts
  have hlen : (entriesOf Obs.attempt ctx.id t obs).length ≤ made.count t :=
    hmade ▸ length_entriesOf_le
  rw [htrace, entriesOf_append, List.length_append]
  by_cases ht : t ∈ made
  · have hone := List.nodup_iff_count.1 hnodup t
    exact Or.inr ⟨(hpast t ht).1, (hpast t ht).2, by omega⟩
  · rw [List.count_eq_zero.2 ht, Nat.le_zero, List.length_eq_zero_iff] at hlen
    exact Or.inl ⟨by rw [hlen, List.append_nil], h.ahead⟩

end attempt

/-! ## Every run -/

namespace Gateway

/-- The record so far is in order, and says of each bridge what its sub-state promises. -/
structure InOrder (settings : Settings) (g : Gateway) : Prop where
  justified : Justified (Allowed settings) g.deps.trace
  histories : ∀ b ∈ g.bridges, History settings g.deps.trace b.state b.ctx

/-- Call ids in the event are not the ones that stand for no call. -/
def HasValidIds (_ : Gateway) : Label → Prop
  | .event e _ => e.ValidIds
  | _ => True

instance (g : Gateway) : DecidablePred g.HasValidIds
  | .event e _ => inferInstanceAs (Decidable e.ValidIds)
  | .incoming _ _ => inferInstanceAs (Decidable True)
  | .pop => inferInstanceAs (Decidable True)

variable {settings : Settings} {r : Replies} {e : Event} {g g' : Gateway} {l : Label}

theorem InOrder.processEvent (ho : g.InOrder settings) (hg : g.Wired) (hvalid : e.ValidIds)
    (h : g.processEvent settings r e = .ok g') : g'.InOrder settings := by
  obtain ⟨rfl, -⟩ | ⟨pre, b, post, c, b', d', hslot, hproc, rfl⟩ := processEvent_cases h
  · exact ho
  have hout := outcome_of_process hproc
  have hfound : History settings g.deps.trace b.state b.ctx ∧
      (b.state ≠ .init → routes e b = true) := by
    cases hslot with
    | existing split routed => exact ⟨ho.histories b (by simp [split]), fun _ => routed⟩
    | new => exact ⟨history_new rfl, fun hne => absurd rfl hne⟩
  obtain ⟨obs, htrace, hafter⟩ := hout.after hfound.1 hfound.2 hvalid
  have hrest : ∀ x ∈ pre ++ post, History settings d'.trace x.state x.ctx := fun x hx =>
    (ho.histories x (hslot.mem_of_mem hx)).mono (by simp [htrace])
  refine ⟨?_, ?_⟩
  · show Justified (Allowed settings) d'.trace
    rw [htrace]
    exact justified_append.2 ⟨ho.justified, hafter⟩
  · exact forall_mem_keep hout (hg.slot_ne_x hslot) hrest (hout.history hfound.1 hfound.2 hvalid)

theorem InOrder.step (ho : g.InOrder settings) (hg : g.Wired) (hvalid : g.HasValidIds l)
    (h : Step settings g l g') : g'.InOrder settings := by
  cases h with
  | event h => exact ho.processEvent hg hvalid h
  | incoming | pop => exact ⟨ho.justified, ho.histories⟩

/-- In every run in which no event has an id that stands for no call, every entry follows what
must be recorded before it, and no bridge makes an attempt twice. -/
theorem answering_of_run {pid : ℕ} {cache : Cache} {now : ℤ} {ls : List Label}
    (hrun : Run (Restrict (Step settings) HasValidIds) (initial pid cache now) ls g) :
    (∀ pre o post, g.deps.trace = pre ++ o :: post → Allowed settings pre o) ∧
      ∀ c t, (entriesOf Obs.attempt c t g.deps.trace).length ≤ 1 := by
  have hinv : g.Wired ∧ g.Numbered ∧ g.InOrder settings ∧ g.Once Obs.attempt Attempt.Ahead := by
    refine hrun.invariant
      (fun g => g.Wired ∧ g.Numbered ∧ g.InOrder settings ∧ g.Once Obs.attempt Attempt.Ahead) ?_
      ⟨by simp [Wired, initial], numbered_initial pid cache now, ⟨justified_nil, by simp [initial]⟩,
        once_initial pid cache now⟩
    rintro g l g' ⟨hg, hn, ho, honce⟩ ⟨hstep, hvalid⟩
    exact ⟨hg.step hstep, hn.step hstep, ho.step hg hvalid hstep,
      honce.step spends_attempt hn hstep⟩
  exact ⟨hinv.2.2.1.justified, hinv.2.2.2.once⟩

/-- A call from SIP : it rings, Telegram is called and picks up, and the two are bridged. -/
def answeredRun : List Label := [
  .incoming 3 "77",
  .event (.incomingCall ⟨3, "77", 0⟩) (.granting 0 9),
  .event (.callStateUpdate ⟨3, .early, 0⟩) (.granting 0 9),
  .event (.updateCall ⟨9, 77, true, .pending⟩) (.granting 0 9),
  .event (.updateCall ⟨9, 77, true, .ready "key" []⟩) (.granting 0 9),
  .event (.callMediaStateUpdate ⟨3, true, 0⟩) (.granting 0 9)]

/-- The gateway after a run with valid ids, if there is one. -/
def execValid (ls : List Label) : Option Gateway :=
  exec (guarded HasValidIds (next { callbackUri := "sip:pbx" })) (initial 1 .empty 0) ls

theorem answering_of_run_answered :
    (execValid answeredRun).map (fun g => g.deps.trace.filterMap Obs.attempt) =
      some [.createCall, .createTgVoip, .answer, .bridgeAudio] ∧
    ∀ g, execValid answeredRun = some g →
      ∀ c t, (entriesOf Obs.attempt c t g.deps.trace).length ≤ 1 :=
  ⟨rfl, fun _ h => (answering_of_run (Run.of_guarded (fun _ _ _ => step_of_next) h)).2⟩

end Gateway

end TelegramProvider
