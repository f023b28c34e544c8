import TelegramProvider.Bridge

/-!
# What a bridge can do

`Outcome` says once what a bridge can do when no action crashes : the state and the context
it ends in, what becomes of the call table, the errors queued and the entries recorded,
each for one way a row can go. Every handled event is an `Outcome`
(`outcome_of_process`), and the invariants of the gateway are proved from it.
-/

set_option autoImplicit false

namespace TelegramProvider

/-- The errors an action queued, as recorded. -/
def failures (c : CtxId) (errs : List Sip.CallOpParam) : List Obs :=
  errs.map (.failed c)

/-- The error queued for a refused query. -/
def refusals {α : Type*} : Except Td.Error α → List Sip.CallOpParam
  | .error error => [internalServerError (tgReason error)]
  | .ok _ => []

/-- The error queued for a failed operation of the client. -/
def reported : Except Sip.Exn Unit → List Sip.CallOpParam
  | .error (.pjError reason) => [internalServerError reason]
  | .error (.runtimeError what) => [internalServerError what]
  | _ => []

/-- The error of `DialDtmf` that is only logged. -/
def dtmfLogs : Except Sip.Exn Unit → List String
  | .error (.pjError reason) => [reason]
  | _ => []

/-- The parameters of the ringing answer. -/
def ringing : Sip.CallOpParam := { useDefaultCallSetting := true, statusCode := Sip.scRinging }

/-- The parameters of the final answer. -/
def pickUp : Sip.CallOpParam := { useDefaultCallSetting := true, statusCode := Sip.scOk }

/-- How a bridge with the context `ctx` can handle an event : the new state, the new context
and the changes. Where one operation may fail, `errs` are the errors queued then. -/
inductive Outcome (settings : Settings) (r : Replies) (ctx ctx' : Context) (d d' : Deps) :
    State → Event → State → Prop
  | idle {s : State} {e : Event} (none : transition settings s e = none) (hctx : ctx' = ctx)
      (changed : Changed ctx.id d d' d.sip [] [.event ctx.id e]) :
      Outcome settings r ctx ctx' d d' s e s
  | dialed {u : Td.UpdateCall} {user : Td.User} {prm : Sip.CallOpParam} {id : ℤ}
      (hin : u.isOutgoing = false) (hpending : u.state = .pending)
      (huri : settings.callbackUri ≠ "") (getUser : r.getUser = .ok user)
      (made : r.pj.makeCall = .ok id)
      (hctx : ctx' = { ctx with
        tgCallId := u.id, userId := u.userId, sipCallId := id, sipCall := some d.sip.created })
      (changed : Changed ctx.id d d' (d.sip.register id ⟨d.sip.created, ""⟩) []
        [.event ctx.id (.updateCall u), .action ctx.id .storeTgId (.updateCall u),
          .tgAssociated ctx.id u.id, .action ctx.id .storeTgUserId (.updateCall u),
          .action ctx.id .dialSip (.updateCall u), .query ctx.id (.getUser u.userId),
          .sip ctx.id (.dial settings.callbackUri prm) none,
          .sipAssociated ctx.id id d.sip.created]) :
      Outcome settings r ctx ctx' d d' .init (.updateCall u) (.fromTg .sipWaitMedia)
  | dialRefused {u : Td.UpdateCall} {user : Td.User} {prm : Sip.CallOpParam} {reason : String}
      (hin : u.isOutgoing = false) (hpending : u.state = .pending)
      (huri : settings.callbackUri ≠ "") (getUser : r.getUser = .ok user)
      (refused : r.pj.makeCall = .error reason)
      (hctx : ctx' = { ctx with tgCallId := u.id, userId := u.userId })
      (changed : Changed ctx.id d d' d.sip [internalServerError reason]
        [.event ctx.id (.updateCall u), .action ctx.id .storeTgId (.updateCall u),
          .tgAssociated ctx.id u.id, .action ctx.id .storeTgUserId (.updateCall u),
          .action ctx.id .dialSip (.updateCall u), .query ctx.id (.getUser u.userId),
          .sip ctx.id (.dial settings.callbackUri prm) none,
          .failed ctx.id (internalServerError reason)]) :
      Outcome settings r ctx ctx' d d' .init (.updateCall u) (.fromTg .sipWaitMedia)
  | accepted {e : Sip.IncomingCall} {ext : Actions.Extension} {errs : List Sip.CallOpParam}
      (parsed : Actions.Extension.parse e.extension = some ext)
      (cause : errs = reported (d.sip.answer r.pj e.id))
      (hctx : ctx' = ext.store { ctx with sipCallId := e.id, sipCall := some e.call })
      (changed : Changed ctx.id d d' d.sip errs
        ([.event ctx.id (.incomingCall e), .action ctx.id .storeSipId (.incomingCall e),
          .sipAssociated ctx.id e.id e.call, .action ctx.id .acceptIncomingSip (.incomingCall e),
          .sip ctx.id (.answer e.id ringing) (d.sip.calls e.id)] ++ failures ctx.id errs)) :
      Outcome settings r ctx ctx' d d' .init (.incomingCall e) (.fromSip .sipWaitConfirm)
  | rejected {e : Sip.IncomingCall} {prm : Sip.CallOpParam}
      (parsed : Actions.Extension.parse e.extension = none)
      (hctx : ctx' = { ctx with sipCallId := e.id, sipCall := some e.call })
      (changed : Changed ctx.id d d' d.sip [prm]
        [.event ctx.id (.incomingCall e), .action ctx.id .storeSipId (.incomingCall e),
          .sipAssociated ctx.id e.id e.call, .action ctx.id .acceptIncomingSip (.incomingCall e),
          .failed ctx.id prm]) :
      Outcome settings r ctx ctx' d d' .init (.incomingCall e) (.fromSip .sipWaitConfirm)
  | declined {u : Td.UpdateCall} (hin : u.isOutgoing = false) (hpending : u.state = .pending)
      (huri : settings.callbackUri = "")
      (changed : Changed ctx.id d d' (released r d.sip { ctx with tgCallId := u.id }) []
        ([.event ctx.id (.updateCall u), .action ctx.id .storeTgId (.updateCall u),
          .tgAssociated ctx.id u.id, .action ctx.id .cleanUp (.updateCall u)] ++
          releases r d.sip { ctx with tgCallId := u.id })) :
      Outcome settings r ctx ctx' d d' .init (.updateCall u) .x
  | dropped {e : Event} (drops : Drops settings e [])
      (changed : Changed ctx.id d d' (released r d.sip ctx) []
        ([.event ctx.id e, .action ctx.id .cleanUp e] ++ releases r d.sip ctx)) :
      Outcome settings r ctx ctx' d d' .init e .x
  | answeredTg {e : Sip.CallMediaStateUpdate} {errs : List Sip.CallOpParam}
      (hmedia : e.hasMedia = true) (cause : errs = refusals r.acceptCall) (hctx : ctx' = ctx)
      (changed : Changed ctx.id d d' d.sip errs
        ([.event ctx.id (.callMediaStateUpdate e),
          .action ctx.id .answerTg (.callMediaStateUpdate e),
          .query ctx.id (.acceptCall ctx.tgCallId (callProtocol settings))] ++
          failures ctx.id errs)) :
      Outcome settings r ctx ctx' d d' (.fromTg .sipWaitMedia) (.callMediaStateUpdate e)
        (.fromTg .waitTg)
  | joinedTg {u : Td.UpdateCall} {key : String} {servers : List Td.CallServer}
      {errs : List Sip.CallOpParam} (hready : u.state = .ready key servers)
      (cause : errs = reported (d.sip.bridgeAudio r.pj ctx.sipCallId))
      (hctx : ctx' = { ctx with
        controller := some (Actions.voipController settings u key servers) })
      (changed : Changed ctx.id d d' d.sip errs
        ([.event ctx.id (.updateCall u), .action ctx.id .createTgVoip (.updateCall u),
          .action ctx.id .bridgeAudio (.updateCall u),
          .sip ctx.id (.bridgeAudio ctx.sipCallId (Actions.voipController settings u key servers))
            (d.sip.calls ctx.sipCallId)] ++ failures ctx.id errs)) :
      Outcome settings r ctx ctx' d d' (.fromTg .waitTg) (.updateCall u) (.fromTg .waitDtmf)
  | dialedTg {e : Sip.CallStateUpdate} {callId userId : ℤ} {lookups : List Td.Query}
      (hearly : e.state = .early) (created : r.createCall = .ok callId)
      (asked : ∀ q ∈ lookups, Actions.IsLookup q) (granted : ∀ q ∈ lookups, ¬r.Refuses q)
      (hctx : ctx' = { ctx with tgCallId := callId })
      (changed : Changed ctx.id d d' d.sip []
        ([.event ctx.id (.callStateUpdate e), .action ctx.id .dialTg (.callStateUpdate e)] ++
          lookups.map (.query ctx.id) ++
          [.query ctx.id (.createCall userId (callProtocol settings) false),
            .tgAssociated ctx.id callId])) :
      Outcome settings r ctx ctx' d d' (.fromSip .sipWaitConfirm) (.callStateUpdate e)
        (.fromSip .waitTg)
  | dialTgFailed {e : Sip.CallStateUpdate} {prm : Sip.CallOpParam}
      {lookups creates : List Td.Query} (hearly : e.state = .early)
      (asked : ∀ q ∈ lookups, Actions.IsLookup q)
      (asked' : creates = [] ∨
        ∃ userId, creates = [.createCall userId (callProtocol settings) false])
      (hctx : ctx' = ctx)
      (changed : Changed ctx.id d d' d.sip [prm]
        ([.event ctx.id (.callStateUpdate e), .action ctx.id .dialTg (.callStateUpdate e)] ++
          lookups.map (.query ctx.id) ++ creates.map (.query ctx.id) ++ [.failed ctx.id prm])) :
      Outcome settings r ctx ctx' d d' (.fromSip .sipWaitConfirm) (.callStateUpdate e)
        (.fromSip .waitTg)
  | answeredSip {u : Td.UpdateCall} {key : String} {servers : List Td.CallServer}
      {errs : List Sip.CallOpParam} (hready : u.state = .ready key servers)
      (cause : errs = reported (d.sip.answer r.pj ctx.sipCallId))
      (hctx : ctx' = { ctx with
        userId := u.userId
        controller := some (Actions.voipController settings u key servers) })
      (changed : Changed ctx.id d d' d.sip errs
        ([.event ctx.id (.updateCall u), .action ctx.id .storeTgUserId (.updateCall u),
          .action ctx.id .createTgVoip (.updateCall u),
          .action ctx.id .answerSip (.updateCall u),
          .sip ctx.id (.answer ctx.sipCallId pickUp) (d.sip.calls ctx.sipCallId)] ++
          failures ctx.id errs)) :
      Outcome settings r ctx ctx' d d' (.fromSip .waitTg) (.updateCall u) (.fromSip .sipWaitMedia)
  | joinedSip {e : Sip.CallMediaStateUpdate} {controller : VoIPController}
      {errs : List Sip.CallOpParam} (hmedia : e.hasMedia = true)
      (hcontroller : ctx.controller = some controller)
      (cause : errs = reported (d.sip.bridgeAudio r.pj ctx.sipCallId))
      (hctx : ctx' = ctx)
      (changed : Changed ctx.id d d' d.sip errs
        ([.event ctx.id (.callMediaStateUpdate e),
          .action ctx.id .bridgeAudio (.callMediaStateUpdate e),
          .sip ctx.id (.bridgeAudio ctx.sipCallId controller) (d.sip.calls ctx.sipCallId)] ++
          failures ctx.id errs)) :
      Outcome settings r ctx ctx' d d' (.fromSip .sipWaitMedia) (.callMediaStateUpdate e)
        (.fromSip .waitDtmf)
  | dtmf {s : State} {m : Td.UpdateNewMessage} {text : String} {logs : List String}
      (hs : s = .fromTg .waitDtmf ∨ s = .fromSip .waitDtmf) (hdtmf : m.IsDtmf)
      (htext : m.content = .text text)
      (cause : logs = dtmfLogs (d.sip.dialDtmf r.pj ctx.sipCallId)) (hctx : ctx' = ctx)
      (changed : Changed ctx.id d d' d.sip []
        ([.event ctx.id (.updateNewMessage m), .action ctx.id .dialDtmf (.updateNewMessage m),
          .sip ctx.id (.dialDtmf ctx.sipCallId text) (d.sip.calls ctx.sipCallId)] ++
          logs.map (.logged ctx.id))) :
      Outcome settings r ctx ctx' d d' s (.updateNewMessage m) s
  | ended {s : State} {e : Event} {a : Action} (hs : s.top = .fromTg ∨ s.top = .fromSip)
      (ends : Ends e a)
      (changed : Changed ctx.id d d' (released r d.sip (endCtx e ctx)) []
        ([.event ctx.id e, .action ctx.id a e, .action ctx.id .cleanUp e] ++
          releases r d.sip (endCtx e ctx))) :
      Outcome settings r ctx ctx' d d' s e .x

/-! ## Every outcome is one of these -/

/-- A call of the client that is recovered from queues the error it threw. -/
theorem Frame.recover_changed {f f' : Frame} {x : Except Sip.Exn Unit}
    (h : f.recover x = .ok f') : f'.ctx = f.ctx ∧
      Changed f.ctx.id f.deps f'.deps f.deps.sip (reported x)
        (failures f.ctx.id (reported x)) := by
  unfold Frame.recover at h
  split at h
  · obtain rfl := Except.ok.inj h
    exact ⟨rfl, rfl, by simp [reported], by simp [failures, reported]⟩
  · obtain rfl := Except.ok.inj h
    exact ⟨rfl, rfl, rfl, rfl⟩
  · obtain rfl := Except.ok.inj h
    exact ⟨rfl, rfl, rfl, rfl⟩
  · simp at h

/-- A text of DTMF digits is a text. -/
theorem Td.UpdateNewMessage.IsDtmf.exists_text {m : Td.UpdateNewMessage} (h : m.IsDtmf) :
    ∃ text, m.content = .text text := by
  have htext := h.1
  unfold Guards.isTextContent at htext
  split at htext
  · exact ⟨_, ‹_›⟩
  · simp at htext

section runs

variable {settings : Settings} {r : Replies} {e : Event} {f f' : Frame}

theorem runAction_storeTgId {u : Td.UpdateCall}
    (h : runAction settings r (.updateCall u) .storeTgId f = .ok f') :
    f'.ctx = { f.ctx with tgCallId := u.id } ∧ Changed f.ctx.id f.deps f'.deps f.deps.sip []
      [.action f.ctx.id .storeTgId (.updateCall u), .tgAssociated f.ctx.id u.id] := by
  obtain rfl := Except.ok.inj h
  exact ⟨rfl, rfl, by simp [Actions.storeTgId], by simp [Actions.storeTgId]⟩

theorem runAction_storeTgUserId {u : Td.UpdateCall}
    (h : runAction settings r (.updateCall u) .storeTgUserId f = .ok f') :
    f'.ctx = { f.ctx with userId := u.userId } ∧ Changed f.ctx.id f.deps f'.deps f.deps.sip []
      [.action f.ctx.id .storeTgUserId (.updateCall u)] := by
  obtain rfl := Except.ok.inj h
  exact ⟨rfl, rfl, by simp [Actions.storeTgUserId], rfl⟩

theorem runAction_storeSipId {i : Sip.IncomingCall}
    (h : runAction settings r (.incomingCall i) .storeSipId f = .ok f') :
    f'.ctx = { f.ctx with sipCallId := i.id, sipCall := some i.call } ∧
    Changed f.ctx.id f.deps f'.deps f.deps.sip []
      [.action f.ctx.id .storeSipId (.incomingCall i), .sipAssociated f.ctx.id i.id i.call] := by
  obtain rfl := Except.ok.inj h
  exact ⟨rfl, rfl, by simp [Actions.storeSipId], by simp [Actions.storeSipId]⟩

theorem runAction_createTgVoip {u : Td.UpdateCall} {key : String} {servers : List Td.CallServer}
    (hready : u.state = .ready key servers)
    (h : runAction settings r (.updateCall u) .createTgVoip f = .ok f') :
    f'.ctx = { f.ctx with controller := some (Actions.voipController settings u key servers) } ∧
    Changed f.ctx.id f.deps f'.deps f.deps.sip []
      [.action f.ctx.id .createTgVoip (.updateCall u)] := by
  obtain rfl := Except.ok.inj h
  simp only [Actions.createTgVoip, hready]
  exact ⟨rfl, rfl, by simp, rfl⟩

theorem runAction_ends {a : Action} (hends : Ends e a)
    (h : runAction settings r e a f = .ok f') :
    f'.ctx = endCtx e f.ctx ∧ Changed f.ctx.id f.deps f'.deps f.deps.sip []
      [.action f.ctx.id a e] := by
  cases hends <;> obtain rfl := Except.ok.inj h
  · exact ⟨rfl, rfl, by simp [Actions.cleanTgId], rfl⟩
  · exact ⟨rfl, rfl, by simp [Actions.cleanSipId], rfl⟩
  · exact ⟨rfl, rfl, by simp [Actions.setHangupPrm], rfl⟩

theorem runAction_cleanUp (h : runAction settings r e .cleanUp f = .ok f') :
    Changed f.ctx.id f.deps f'.deps (released r f.deps.sip f.ctx) []
      (.action f.ctx.id .cleanUp e :: releases r f.deps.sip f.ctx) := by
  obtain ⟨f₁, hok, hch⟩ := Actions.exists_cleanUp r (f.log (.action f.ctx.id .cleanUp e))
  obtain rfl : f₁ = f' := Except.ok.inj (hok.symm.trans h)
  exact (Changed.log f _).trans hch

/-- `DialSip` returns once it knows the user, with a call or with an error queued. -/
theorem runAction_dialSip {u : Td.UpdateCall}
    (h : runAction settings r (.updateCall u) .dialSip f = .ok f') :
    ∃ user prm, r.getUser = .ok user ∧
      ((∃ id, r.pj.makeCall = .ok id ∧
        f'.ctx = { f.ctx with sipCallId := id, sipCall := some f.deps.sip.created } ∧
        Changed f.ctx.id f.deps f'.deps (f.deps.sip.register id ⟨f.deps.sip.created, ""⟩) []
          [.action f.ctx.id .dialSip (.updateCall u), .query f.ctx.id (.getUser u.userId),
            .sip f.ctx.id (.dial settings.callbackUri prm) none,
            .sipAssociated f.ctx.id id f.deps.sip.created]) ∨
      ∃ reason, r.pj.makeCall = .error reason ∧ f'.ctx = f.ctx ∧
        Changed f.ctx.id f.deps f'.deps f.deps.sip [internalServerError reason]
          [.action f.ctx.id .dialSip (.updateCall u), .query f.ctx.id (.getUser u.userId),
            .sip f.ctx.id (.dial settings.callbackUri prm) none,
            .failed f.ctx.id (internalServerError reason)]) := by
  simp only [runAction, Actions.dialSip, Sip.Client.dial] at h
  cases hu : r.getUser with
  | error error => simp [hu] at h
  | ok user =>
    refine ⟨user, Actions.dialPrm f u.userId user, rfl, ?_⟩
    cases hm : r.pj.makeCall with
    | ok id =>
      simp only [hu, hm] at h
      obtain rfl := Except.ok.inj h
      exact Or.inl ⟨id, rfl, rfl, rfl, by simp, by simp; rfl⟩
    | error reason =>
      simp only [hu, hm] at h
      obtain rfl := Except.ok.inj h
      exact Or.inr ⟨reason, rfl, rfl, rfl, rfl, by simp; rfl⟩

theorem runAction_answerTg (h : runAction settings r e .answerTg f = .ok f') :
    f'.ctx = f.ctx ∧ Changed f.ctx.id f.deps f'.deps f.deps.sip (refusals r.acceptCall)
      ([.action f.ctx.id .answerTg e,
        .query f.ctx.id (.acceptCall f.ctx.tgCallId (callProtocol settings))] ++
        failures f.ctx.id (refusals r.acceptCall)) := by
  simp only [runAction, Actions.answerTg] at h
  obtain rfl := Except.ok.inj h
  cases r.acceptCall with
  | error error => exact ⟨rfl, rfl, rfl, by simp [failures, refusals]⟩
  | ok u => exact ⟨rfl, rfl, by simp [refusals], by simp [failures, refusals]⟩

theorem answerWith_changed (prm : Sip.CallOpParam) (h : Actions.answerWith r prm f = .ok f') :
    f'.ctx = f.ctx ∧ Changed f.ctx.id f.deps f'.deps f.deps.sip
      (reported (f.deps.sip.answer r.pj f.ctx.sipCallId))
      (.sip f.ctx.id (.answer f.ctx.sipCallId prm) (f.deps.sip.calls f.ctx.sipCallId) ::
        failures f.ctx.id (reported (f.deps.sip.answer r.pj f.ctx.sipCallId))) := by
  obtain ⟨hctx, hch⟩ := Frame.recover_changed h
  exact ⟨hctx, (Changed.log f _).trans hch⟩

theorem runAction_answerSip (h : runAction settings r e .answerSip f = .ok f') :
    f'.ctx = f.ctx ∧ Changed f.ctx.id f.deps f'.deps f.deps.sip
      (reported (f.deps.sip.answer r.pj f.ctx.sipCallId))
      ([.action f.ctx.id .answerSip e,
        .sip f.ctx.id (.answer f.ctx.sipCallId pickUp) (f.deps.sip.calls f.ctx.sipCallId)] ++
        failures f.ctx.id (reported (f.deps.sip.answer r.pj f.ctx.sipCallId))) := by
  obtain ⟨hctx, hch⟩ := answerWith_changed pickUp h
  exact ⟨hctx, (Changed.log f _).trans hch⟩

theorem runAction_acceptIncomingSip {i : Sip.IncomingCall}
    (h : runAction settings r (.incomingCall i) .acceptIncomingSip f = .ok f') :
    (∃ ext, Actions.Extension.parse i.extension = some ext ∧
      f'.ctx = ext.store f.ctx ∧ Changed f.ctx.id f.deps f'.deps f.deps.sip
        (reported (f.deps.sip.answer r.pj f.ctx.sipCallId))
        ([.action f.ctx.id .acceptIncomingSip (.incomingCall i),
          .sip f.ctx.id (.answer f.ctx.sipCallId ringing) (f.deps.sip.calls f.ctx.sipCallId)] ++
          failures f.ctx.id (reported (f.deps.sip.answer r.pj f.ctx.sipCallId)))) ∨
    ∃ prm, Actions.Extension.parse i.extension = none ∧ f'.ctx = f.ctx ∧
      Changed f.ctx.id f.deps f'.deps f.deps.sip [prm]
        [.action f.ctx.id .acceptIncomingSip (.incomingCall i), .failed f.ctx.id prm] := by
  simp only [runAction, Actions.acceptIncomingSip] at h
  cases hext : Actions.Extension.parse i.extension with
  | none =>
    rw [hext] at h
    obtain rfl := Except.ok.inj h
    exact Or.inr ⟨_, rfl, rfl, rfl, rfl, by simp⟩
  | some ext =>
    rw [hext] at h
    obtain ⟨hctx, hch⟩ := answerWith_changed ringing h
    refine Or.inl ⟨ext, rfl, hctx, ?_⟩
    cases ext <;> exact (Changed.log f _).trans hch

theorem runAction_bridgeAudio (h : runAction settings r e .bridgeAudio f = .ok f') :
    ∃ controller, f.ctx.controller = some controller ∧ f'.ctx = f.ctx ∧
      Changed f.ctx.id f.deps f'.deps f.deps.sip
        (reported (f.deps.sip.bridgeAudio r.pj f.ctx.sipCallId))
        ([.action f.ctx.id .bridgeAudio e, .sip f.ctx.id (.bridgeAudio f.ctx.sipCallId controller)
          (f.deps.sip.calls f.ctx.sipCallId)] ++
          failures f.ctx.id (reported (f.deps.sip.bridgeAudio r.pj f.ctx.sipCallId))) := by
  simp only [runAction, Actions.bridgeAudio, Frame.log_ctx] at h
  cases hc : f.ctx.controller with
  | none => simp [hc] at h
  | some controller =>
    simp only [hc] at h
    obtain ⟨hctx, hch⟩ := Frame.recover_changed h
    exact ⟨controller, rfl, hctx,
      ((Changed.log f (.action f.ctx.id .bridgeAudio e)).trans (Changed.log (f.log _) _)).trans hch⟩

theorem runAction_dialDtmf {m : Td.UpdateNewMessage} {text : String}
    (htext : m.content = .text text)
    (h : runAction settings r (.updateNewMessage m) .dialDtmf f = .ok f') :
    f'.ctx = f.ctx ∧ Changed f.ctx.id f.deps f'.deps f.deps.sip []
      ([.action f.ctx.id .dialDtmf (.updateNewMessage m),
        .sip f.ctx.id (.dialDtmf f.ctx.sipCallId text) (f.deps.sip.calls f.ctx.sipCallId)] ++
        (dtmfLogs (f.deps.sip.dialDtmf r.pj f.ctx.sipCallId)).map (.logged f.ctx.id)) := by
  simp only [runAction, Actions.dialDtmf, htext, Frame.log_ctx, Frame.log_sip] at h
  split at h
  · rename_i heq
    obtain rfl := Except.ok.inj h
    exact ⟨rfl, rfl, by simp, by simp [dtmfLogs, heq]⟩
  · rename_i reason heq
    obtain rfl := Except.ok.inj h
    exact ⟨rfl, rfl, by simp, by simp [dtmfLogs, heq]⟩
  · simp at h

end runs

/-! One lemma for each row, or for the rows that do the same. The frame `f` is the one the
event was recorded in. -/

section rows

variable {settings : Settings} {r : Replies} {f : Frame} {ctx' : Context} {d d' : Deps}

theorem outcome_dial {u : Td.UpdateCall} (hin : u.isOutgoing = false) (hpending : u.state = .pending)
    (huri : settings.callbackUri ≠ "")
    (hf : Changed f.ctx.id d f.deps d.sip [] [.event f.ctx.id (.updateCall u)])
    (h : Table.perform (runAction settings r (.updateCall u))
      [.storeTgId, .storeTgUserId, .dialSip] f = .ok ⟨ctx', d'⟩) :
    Outcome settings r f.ctx ctx' d d' .init (.updateCall u) (.fromTg .sipWaitMedia) := by
  obtain ⟨f₁, h₁, h⟩ := Table.perform_cons_eq_ok_iff.1 h
  obtain ⟨f₂, h₂, h⟩ := Table.perform_cons_eq_ok_iff.1 h
  obtain ⟨f₃, h₃, h⟩ := Table.perform_cons_eq_ok_iff.1 h
  obtain rfl := Except.ok.inj h
  obtain ⟨hctx₁, hch₁⟩ := runAction_storeTgId h₁
  obtain ⟨hctx₂, hch₂⟩ := runAction_storeTgUserId h₂
  rw [hctx₁] at hctx₂ hch₂
  obtain ⟨user, prm, huser, ⟨id, hmade, hctx₃, hch₃⟩ | ⟨reason, hrefused, hctx₃, hch₃⟩⟩ :=
    runAction_dialSip h₃
  · rw [hctx₂, hch₂.sip, hch₁.sip, hf.sip] at hctx₃ hch₃
    exact .dialed hin hpending huri huser hmade hctx₃ (hf.trans (hch₁.trans (hch₂.trans hch₃)))
  · rw [hctx₂] at hctx₃
    rw [hctx₂, hch₂.sip, hch₁.sip, hf.sip] at hch₃
    exact .dialRefused hin hpending huri huser hrefused hctx₃
      (hf.trans (hch₁.trans (hch₂.trans hch₃)))

theorem outcome_accept {e : Sip.IncomingCall}
    (hf : Changed f.ctx.id d f.deps d.sip [] [.event f.ctx.id (.incomingCall e)])
    (h : Table.perform (runAction settings r (.incomingCall e))
      [.storeSipId, .acceptIncomingSip] f = .ok ⟨ctx', d'⟩) :
    Outcome settings r f.ctx ctx' d d' .init (.incomingCall e) (.fromSip .sipWaitConfirm) := by
  obtain ⟨f₁, h₁, h⟩ := Table.perform_cons_eq_ok_iff.1 h
  obtain ⟨f₂, h₂, h⟩ := Table.perform_cons_eq_ok_iff.1 h
  obtain rfl := Except.ok.inj h
  obtain ⟨hctx₁, hch₁⟩ := runAction_storeSipId h₁
  obtain ⟨ext, hext, hctx₂, hch₂⟩ | ⟨prm, hext, hctx₂, hch₂⟩ :=
    runAction_acceptIncomingSip h₂ <;> rw [hctx₁] at hctx₂ <;>
    rw [hctx₁, hch₁.sip, hf.sip] at hch₂
  · exact .accepted hext rfl hctx₂ (hf.trans (hch₁.trans hch₂))
  · exact .rejected hext hctx₂ (hf.trans (hch₁.trans hch₂))

theorem outcome_drop {e : Event} {as : List Action} (hdrop : Drops settings e as)
    (hf : Changed f.ctx.id d f.deps d.sip [] [.event f.ctx.id e])
    (h : Table.perform (runAction settings r e) (as ++ [.cleanUp]) f = .ok ⟨ctx', d'⟩) :
    Outcome settings r f.ctx ctx' d d' .init e .x := by
  obtain ⟨u, rfl, hin, hpending, huri, rfl⟩ | rfl : (∃ u, e = .updateCall u ∧
      u.isOutgoing = false ∧ u.state = .pending ∧ settings.callbackUri = "" ∧
      as = [.storeTgId]) ∨ as = [] := by
    cases hdrop with
    | noCallback hin hpending huri => exact Or.inl ⟨_, rfl, hin, hpending, huri, rfl⟩
    | updateCall _ => exact Or.inr rfl
    | callState => exact Or.inr rfl
    | mediaState => exact Or.inr rfl
  · obtain ⟨f₁, h₁, h⟩ := Table.perform_cons_eq_ok_iff.1 h
    obtain ⟨f₂, h₂, h⟩ := Table.perform_cons_eq_ok_iff.1 h
    obtain rfl := Except.ok.inj h
    obtain ⟨hctx₁, hch₁⟩ := runAction_storeTgId h₁
    have hch₂ := runAction_cleanUp h₂
    rw [hctx₁, hch₁.sip, hf.sip] at hch₂
    exact .declined hin hpending huri (hf.trans (hch₁.trans hch₂))
  · obtain ⟨f₁, h₁, h⟩ := Table.perform_cons_eq_ok_iff.1 h
    obtain rfl := Except.ok.inj h
    have hch₁ := runAction_cleanUp h₁
    rw [hf.sip] at hch₁
    exact .dropped hdrop (hf.trans hch₁)

theorem outcome_joinTg {u : Td.UpdateCall} {key : String} {servers : List Td.CallServer}
    (hready : u.state = .ready key servers)
    (hf : Changed f.ctx.id d f.deps d.sip [] [.event f.ctx.id (.updateCall u)])
    (h : Table.perform (runAction settings r (.updateCall u))
      [.createTgVoip, .bridgeAudio] f = .ok ⟨ctx', d'⟩) :
    Outcome settings r f.ctx ctx' d d' (.fromTg .waitTg) (.updateCall u) (.fromTg .waitDtmf) := by
  obtain ⟨f₁, h₁, h⟩ := Table.perform_cons_eq_ok_iff.1 h
  obtain ⟨f₂, h₂, h⟩ := Table.perform_cons_eq_ok_iff.1 h
  obtain rfl := Except.ok.inj h
  obtain ⟨hctx₁, hch₁⟩ := runAction_createTgVoip hready h₁
  obtain ⟨controller, hcontroller, hctx₂, hch₂⟩ := runAction_bridgeAudio h₂
  rw [hctx₁] at hcontroller hctx₂
  obtain rfl := Option.some.inj hcontroller
  rw [hctx₁, hch₁.sip, hf.sip] at hch₂
  exact .joinedTg hready rfl hctx₂ (hf.trans (hch₁.trans hch₂))

theorem outcome_dialTg {e : Sip.CallStateUpdate} (hearly : e.state = .early)
    (hf : Changed f.ctx.id d f.deps d.sip [] [.event f.ctx.id (.callStateUpdate e)])
    (h : Table.perform (runAction settings r (.callStateUpdate e)) [.dialTg] f = .ok ⟨ctx', d'⟩) :
    Outcome settings r f.ctx ctx' d d' (.fromSip .sipWaitConfirm) (.callStateUpdate e)
      (.fromSip .waitTg) := by
  rw [Table.perform_singleton] at h
  have hlog := hf.trans (Changed.log f (.action f.ctx.id .dialTg (.callStateUpdate e)))
  cases Actions.dialed_of_dialTg (f := f.log _) h with
  | created callId userId lookups reply asked granted ctx sip errors trace =>
    have hch : Changed f.ctx.id d d' d.sip []
        ([.event f.ctx.id (.callStateUpdate e), .action f.ctx.id .dialTg (.callStateUpdate e)] ++
          lookups.map (.query f.ctx.id) ++
          [.query f.ctx.id (.createCall userId (callProtocol settings) false),
            .tgAssociated f.ctx.id callId]) := by
      refine ⟨sip.trans hf.sip, errors.trans hlog.errors, ?_⟩
      rw [trace, hlog.trace]
      simp
    exact .dialedTg hearly reply asked granted ctx hch
  | failed prm lookups creates asked asked' ctx sip errors trace =>
    have hch : Changed f.ctx.id d d' d.sip [prm]
        ([.event f.ctx.id (.callStateUpdate e), .action f.ctx.id .dialTg (.callStateUpdate e)] ++
          lookups.map (.query f.ctx.id) ++ creates.map (.query f.ctx.id) ++
          [.failed f.ctx.id prm]) := by
      refine ⟨sip.trans hf.sip, ?_, ?_⟩
      · rw [errors, hlog.errors]
        simp
      · rw [trace, hlog.trace]
        simp
    exact .dialTgFailed hearly asked asked' ctx hch

theorem outcome_answerSip {u : Td.UpdateCall} {key : String} {servers : List Td.CallServer}
    (hready : u.state = .ready key servers)
    (hf : Changed f.ctx.id d f.deps d.sip [] [.event f.ctx.id (.updateCall u)])
    (h : Table.perform (runAction settings r (.updateCall u))
      [.storeTgUserId, .createTgVoip, .answerSip] f = .ok ⟨ctx', d'⟩) :
    Outcome settings r f.ctx ctx' d d' (.fromSip .waitTg) (.updateCall u)
      (.fromSip .sipWaitMedia) := by
  obtain ⟨f₁, h₁, h⟩ := Table.perform_cons_eq_ok_iff.1 h
  obtain ⟨f₂, h₂, h⟩ := Table.perform_cons_eq_ok_iff.1 h
  obtain ⟨f₃, h₃, h⟩ := Table.perform_cons_eq_ok_iff.1 h
  obtain rfl := Except.ok.inj h
  obtain ⟨hctx₁, hch₁⟩ := runAction_storeTgUserId h₁
  obtain ⟨hctx₂, hch₂⟩ := runAction_createTgVoip hready h₂
  obtain ⟨hctx₃, hch₃⟩ := runAction_answerSip h₃
  rw [hctx₁] at hctx₂ hch₂
  rw [hctx₂] at hctx₃
  rw [hctx₂, hch₂.sip, hch₁.sip, hf.sip] at hch₃
  exact .answeredSip hready rfl hctx₃ (hf.trans (hch₁.trans (hch₂.trans hch₃)))

theorem outcome_dtmf {s : State} {m : Td.UpdateNewMessage}
    (hs : s = .fromTg .waitDtmf ∨ s = .fromSip .waitDtmf) (hdtmf : m.IsDtmf)
    (hf : Changed f.ctx.id d f.deps d.sip [] [.event f.ctx.id (.updateNewMessage m)])
    (h : Table.perform (runAction settings r (.updateNewMessage m)) [.dialDtmf] f =
      .ok ⟨ctx', d'⟩) :
    Outcome settings r f.ctx ctx' d d' s (.updateNewMessage m) s := by
  rw [Table.perform_singleton] at h
  obtain ⟨text, htext⟩ := hdtmf.exists_text
  obtain ⟨hctx, hch⟩ := runAction_dialDtmf htext h
  rw [hf.sip] at hch
  exact .dtmf hs hdtmf htext rfl hctx (hf.trans hch)

theorem outcome_end {s : State} {e : Event} {a : Action}
    (hs : s.top = .fromTg ∨ s.top = .fromSip) (hends : Ends e a)
    (hf : Changed f.ctx.id d f.deps d.sip [] [.event f.ctx.id e])
    (h : Table.perform (runAction settings r e) [a, .cleanUp] f = .ok ⟨ctx', d'⟩) :
    Outcome settings r f.ctx ctx' d d' s e .x := by
  obtain ⟨f₁, h₁, h⟩ := Table.perform_cons_eq_ok_iff.1 h
  obtain ⟨f₂, h₂, h⟩ := Table.perform_cons_eq_ok_iff.1 h
  obtain rfl := Except.ok.inj h
  obtain ⟨hctx₁, hch₁⟩ := runAction_ends hends h₁
  have hch₂ := runAction_cleanUp h₂
  have hid : (endCtx e f.ctx).id = f.ctx.id := by cases e <;> rfl
  rw [hctx₁, hch₁.sip, hf.sip, hid] at hch₂
  exact .ended hs hends (hf.trans (hch₁.trans hch₂))

end rows

/-- Everything a bridge can do. -/
theorem outcome_of_process {settings : Settings} {r : Replies} {e : Event} {b b' : Bridge}
    {d d' : Deps} (hok : b.process settings r e d = .ok (b', d')) :
    Outcome settings r b.ctx b'.ctx d d' b.state e b'.state := by
  have hf : Changed b.ctx.id d (b.frame e d).deps d.sip [] [.event b.ctx.id e] :=
    Changed.log ⟨b.ctx, d⟩ _
  cases ht : transition settings b.state e with
  | none =>
    rw [Bridge.process_of_none ht] at hok
    obtain ⟨rfl, rfl⟩ := Prod.mk.inj (Except.ok.inj hok)
    exact .idle ht rfl hf
  | some sas =>
    obtain ⟨s, as⟩ := sas
    have hmoves := moves_of_transition ht
    obtain ⟨hs, hperf⟩ := Bridge.perform_of_process hmoves hok
    have hctx : (b.frame e d).ctx = b.ctx := rfl
    generalize b.frame e d = f at hperf hf hctx
    obtain ⟨state, ctx⟩ := b
    obtain ⟨state', ctx'⟩ := b'
    obtain rfl : state' = s := hs
    dsimp only at hmoves hperf hctx hf ⊢
    subst hctx
    cases hmoves with
    | dial hin hpending huri => exact outcome_dial hin hpending huri hf hperf
    | accept => exact outcome_accept hf hperf
    | drop hdrop => exact outcome_drop hdrop hf hperf
    | answerTg hmedia =>
      obtain ⟨f₁, h₁, h⟩ := Table.perform_cons_eq_ok_iff.1 hperf
      obtain rfl := Except.ok.inj h
      obtain ⟨hctx₁, hch₁⟩ := runAction_answerTg h₁
      rw [hf.sip] at hch₁
      exact .answeredTg hmedia rfl hctx₁ (hf.trans hch₁)
    | joinTg hready => exact outcome_joinTg hready hf hperf
    | dtmfTg hdtmf => exact outcome_dtmf (Or.inl rfl) hdtmf hf hperf
    | dialTg hearly => exact outcome_dialTg hearly hf hperf
    | answerSip hready => exact outcome_answerSip hready hf hperf
    | joinSip hmedia =>
      obtain ⟨f₁, h₁, h⟩ := Table.perform_cons_eq_ok_iff.1 hperf
      obtain rfl := Except.ok.inj h
      obtain ⟨controller, hcontroller, hctx₁, hch₁⟩ := runAction_bridgeAudio h₁
      rw [hf.sip] at hch₁
      exact .joinedSip hmedia hcontroller rfl hctx₁ (hf.trans hch₁)
    | dtmfSip hdtmf => exact outcome_dtmf (Or.inr rfl) hdtmf hf hperf
    | endTg hends => exact outcome_end (Or.inl rfl) hends hf hperf
    | endSip hends => exact outcome_end (Or.inr rfl) hends hf hperf

/-- What ends a call is always handled, whatever TDLib and PJSIP answer. -/
theorem exists_process_of_ends {settings : Settings} {r : Replies} {e : Event} {a : Action}
    {b : Bridge} {d : Deps} (hs : b.state.top = .fromTg ∨ b.state.top = .fromSip)
    (hends : Ends e a) : ∃ b' d', b.process settings r e d = .ok (b', d') ∧ b'.state = .x := by
  have hmoves : Moves settings b.state e .x [a] :=
    transition_eq_some_iff.1 (transition_of_ends hs hends)
  rw [Bridge.process_of_moves hmoves]
  obtain ⟨f₁, h₁⟩ : ∃ f₁, runAction settings r e a (b.frame e d) = .ok f₁ := by
    cases hends <;> exact ⟨_, rfl⟩
  obtain ⟨f₂, h₂, -⟩ := Actions.exists_cleanUp r (f₁.log (.action f₁.ctx.id .cleanUp e))
  have hperf : Table.perform (runAction settings r e) [a, .cleanUp] (b.frame e d) = .ok f₂ :=
    Table.perform_cons_eq_ok_iff.2 ⟨f₁, h₁, Table.perform_singleton.trans h₂⟩
  exact ⟨⟨.x, f₂.ctx⟩, f₂.deps, by rw [onEntry, List.singleton_append, hperf]; rfl, rfl⟩

end TelegramProvider
