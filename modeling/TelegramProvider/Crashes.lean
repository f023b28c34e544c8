import TelegramProvider.Outcome

/-!
# What crashes a bridge

An action of a row is left by an exception in three ways : `DialSip` throws when `getUser`
is refused, `DialTg` when a retry notice has a number that is no `int`, `DialDtmf` when the
call table has no entry for the call. `BridgeAudio` crashes without a controller.
`process_eq_error_iff` says that these are all.
-/

set_option autoImplicit false

namespace TelegramProvider

/-! ## Refusals while dialing -/

/-- The text has a retry notice whose number `std::stoi` refuses. -/
def Overflows (error : Td.Error) : Prop :=
  ∃ digits, Actions.retryAfter error.message = some digits ∧ Actions.stoi digits = none

/-- The error of `createCall`, if there is one. -/
def createRefusal (r : Replies) : Option Td.Error :=
  match r.createCall with
  | .error error => some error
  | .ok _ => none

/-- The error dialing by phone number meets. -/
def phoneRefusal (r : Replies) (ctx : Context) (cache : Cache) : Option Td.Error :=
  match cache.phoneCache ctx.extPhone, r.importContacts with
  | some _, _ => createRefusal r
  | none, .error error => some error
  | none, .ok contacts =>
    if contacts.userIds.get ⟨0, contacts.pos⟩ = 0 then none else createRefusal r

/-- The error dialing by username meets. -/
def usernameRefusal (r : Replies) (ctx : Context) (cache : Cache) : Option Td.Error :=
  match cache.usernameCache ctx.extUsername, r.searchPublicChat with
  | some _, _ => createRefusal r
  | none, .error error => some error
  | none, .ok chat => if chat.isPrivate then createRefusal r else none

/-- The TDLib error `DialTg` meets, if it is not blocked and one of its queries is refused. -/
def dialRefusal (r : Replies) (ctx : Context) (d : Deps) : Option Td.Error :=
  if r.now < d.blockUntil then none
  else if ctx.extUsername ≠ "" then usernameRefusal r ctx d.cache
  else if ctx.extPhone ≠ "" then phoneRefusal r ctx d.cache
  else createRefusal r

namespace Actions

variable {settings : Settings} {r : Replies} {f : Frame} {x : Crash}

theorem dialFailed_eq_error_iff {error : Td.Error} : dialFailed settings r error f = .error x ↔
    Overflows error ∧ x = .escaped (.outOfRange "stoi") := by
  unfold dialFailed parseError Overflows
  cases hretry : retryAfter error.message with
  | none =>
    dsimp only
    split_ifs <;> simp
  | some digits => cases hstoi : stoi digits <;> simp [hstoi, eq_comm]

theorem dialById_eq_error_iff {id : ℤ} : dialById settings r id f = .error x ↔
    ∃ error, createRefusal r = some error ∧ Overflows error ∧
      x = .escaped (.outOfRange "stoi") := by
  unfold dialById createRefusal
  cases r.createCall with
  | error error => simpa using dialFailed_eq_error_iff
  | ok callId => simp

theorem dialByPhone_eq_error_iff : dialByPhone settings r f = .error x ↔
    ∃ error, phoneRefusal r f.ctx f.deps.cache = some error ∧ Overflows error ∧
      x = .escaped (.outOfRange "stoi") := by
  unfold dialByPhone phoneRefusal
  cases f.deps.cache.phoneCache f.ctx.extPhone with
  | some id => exact dialById_eq_error_iff
  | none =>
    cases r.importContacts with
    | error error => simpa using dialFailed_eq_error_iff
    | ok contacts =>
      dsimp only
      split_ifs
      · simp
      · exact dialById_eq_error_iff

theorem dialByUsername_eq_error_iff : dialByUsername settings r f = .error x ↔
    ∃ error, usernameRefusal r f.ctx f.deps.cache = some error ∧ Overflows error ∧
      x = .escaped (.outOfRange "stoi") := by
  unfold dialByUsername usernameRefusal
  cases f.deps.cache.usernameCache f.ctx.extUsername with
  | some id => exact dialById_eq_error_iff
  | none =>
    cases r.searchPublicChat with
    | error error => simpa using dialFailed_eq_error_iff
    | ok chat =>
      dsimp only
      split_ifs
      · exact dialById_eq_error_iff
      · simp

theorem dialTg_eq_error_iff : dialTg settings r f = .error x ↔
    ∃ error, dialRefusal r f.ctx f.deps = some error ∧ Overflows error ∧
      x = .escaped (.outOfRange "stoi") := by
  unfold dialTg dialRefusal
  split_ifs
  · simp
  · exact dialByUsername_eq_error_iff
  · exact dialByPhone_eq_error_iff
  · exact dialById_eq_error_iff

end Actions

/-! ## The other actions -/

namespace Sip.Client

variable {pj : PjReplies} {id : ℤ} {client : Client} {what : String}

theorem answer_ne_outOfRange : client.answer pj id ≠ .error (.outOfRange what) := by
  unfold answer
  cases client.calls id <;> cases pj.answer <;> simp [Except.mapError]

theorem bridgeAudio_ne_outOfRange : client.bridgeAudio pj id ≠ .error (.outOfRange what) := by
  unfold bridgeAudio
  cases client.calls id with
  | none => simp
  | some c => rcases pj.audioMedia with _ | _ | _ <;> cases pj.startTransmit <;> simp [Except.mapError]

end Sip.Client

section rows

variable {settings : Settings} {r : Replies} {e : Event} {f : Frame} {x : Crash}

theorem Frame.recover_eq_error_iff {res : Except Sip.Exn Unit} :
    f.recover res = .error x ↔ ∃ what, res = .error (.outOfRange what) ∧
      x = .escaped (.outOfRange what) := by
  rcases res with (reason | what | what) | u <;> simp [Frame.recover, eq_comm]

theorem dialSip_eq_error_iff {u : Td.UpdateCall} :
    runAction settings r (.updateCall u) .dialSip f = .error x ↔
      ∃ error, r.getUser = .error error ∧ x = .escaped (.runtimeError error.message) := by
  simp only [runAction, Actions.dialSip, Sip.Client.dial]
  cases r.getUser with
  | error error => simp [eq_comm]
  | ok user => cases r.pj.makeCall <;> simp

theorem answerWith_ne_error {prm : Sip.CallOpParam} : Actions.answerWith r prm f ≠ .error x := by
  unfold Actions.answerWith
  rw [ne_eq, Frame.recover_eq_error_iff]
  rintro ⟨what, h, -⟩
  exact Sip.Client.answer_ne_outOfRange h

theorem acceptIncomingSip_ne_error {i : Sip.IncomingCall} :
    runAction settings r (.incomingCall i) .acceptIncomingSip f ≠ .error x := by
  simp only [runAction, Actions.acceptIncomingSip]
  split
  · exact answerWith_ne_error
  · simp

theorem bridgeAudio_eq_error_iff :
    runAction settings r e .bridgeAudio f = .error x ↔
      f.ctx.controller = none ∧ x = .nullController := by
  simp only [runAction, Actions.bridgeAudio, Frame.log_ctx]
  cases hc : f.ctx.controller with
  | none => simp [eq_comm]
  | some controller =>
    simp only [Frame.recover_eq_error_iff, reduceCtorEq, false_and, iff_false]
    rintro ⟨what, h, -⟩
    exact Sip.Client.bridgeAudio_ne_outOfRange h

theorem dialDtmf_eq_error_iff {m : Td.UpdateNewMessage} {text : String}
    (htext : m.content = .text text) :
    runAction settings r (.updateNewMessage m) .dialDtmf f = .error x ↔
      f.deps.sip.calls f.ctx.sipCallId = none ∧ x = .escaped (.runtimeError "CALL_NOT_FOUND") := by
  simp only [runAction, Actions.dialDtmf, htext, Frame.log_ctx, Frame.log_sip,
    Sip.Client.dialDtmf]
  cases f.deps.sip.calls f.ctx.sipCallId with
  | none => simp [eq_comm]
  | some c => cases r.pj.dialDtmf <;> simp [Except.mapError]

theorem cleanUp_ne_error : runAction settings r e .cleanUp f ≠ .error x := by
  obtain ⟨f', h, -⟩ := Actions.exists_cleanUp r (f.log (.action f.ctx.id .cleanUp e))
  intro h'
  exact absurd (h.symm.trans h') (by simp)

end rows

/-! ## A bridge crashes -/

/-- The crashes of a bridge. -/
inductive Crashes (settings : Settings) (r : Replies) (b : Bridge) (d : Deps) : Event → Crash → Prop
  | getUser {u : Td.UpdateCall} {error : Td.Error} (hs : b.state = .init)
      (hin : u.isOutgoing = false) (hpending : u.state = .pending)
      (huri : settings.callbackUri ≠ "") (refused : r.getUser = .error error) :
      Crashes settings r b d (.updateCall u) (.escaped (.runtimeError error.message))
  | retry {e : Sip.CallStateUpdate} {error : Td.Error} (hs : b.state = .fromSip .sipWaitConfirm)
      (hearly : e.state = .early) (refused : dialRefusal r b.ctx d = some error)
      (overflows : Overflows error) :
      Crashes settings r b d (.callStateUpdate e) (.escaped (.outOfRange "stoi"))
  | dtmf {m : Td.UpdateNewMessage} (hs : b.state = .fromTg .waitDtmf ∨ b.state = .fromSip .waitDtmf)
      (hdtmf : m.IsDtmf) (missing : d.sip.calls b.ctx.sipCallId = none) :
      Crashes settings r b d (.updateNewMessage m) (.escaped (.runtimeError "CALL_NOT_FOUND"))
  | controller {e : Sip.CallMediaStateUpdate} (hs : b.state = .fromSip .sipWaitMedia)
      (hmedia : e.hasMedia = true) (missing : b.ctx.controller = none) :
      Crashes settings r b d (.callMediaStateUpdate e) .nullController

section rows

variable {settings : Settings} {r : Replies} {e : Event} {b : Bridge} {d : Deps} {x : Crash}
  {s : State} {as : List Action}

theorem process_eq_error_iff_perform {s₀ : State} (hs : b.state = s₀)
    (h : Moves settings s₀ e s as) : b.process settings r e d = .error x ↔
      Table.perform (runAction settings r e) (as ++ onEntry s) (b.frame e d) = .error x := by
  subst hs
  rw [Bridge.process_of_moves h]
  cases Table.perform (runAction settings r e) (as ++ onEntry s) (b.frame e d) <;>
    simp [Except.map]

theorem perform_dial_eq_error_iff {u : Td.UpdateCall} {f : Frame} :
    Table.perform (runAction settings r (.updateCall u))
      [.storeTgId, .storeTgUserId, .dialSip] f = .error x ↔
      ∃ error, r.getUser = .error error ∧ x = .escaped (.runtimeError error.message) := by
  rw [Table.perform_cons_of_ok rfl, Table.perform_cons_of_ok rfl, Table.perform_singleton,
    dialSip_eq_error_iff]

theorem perform_accept_ne_error {i : Sip.IncomingCall} {f : Frame} :
    Table.perform (runAction settings r (.incomingCall i))
      [.storeSipId, .acceptIncomingSip] f ≠ .error x := by
  rw [Table.perform_cons_of_ok rfl, Table.perform_singleton]
  exact acceptIncomingSip_ne_error

theorem perform_joinTg_ne_error {u : Td.UpdateCall} {key : String} {servers : List Td.CallServer}
    {f : Frame} (hready : u.state = .ready key servers) :
    Table.perform (runAction settings r (.updateCall u)) [.createTgVoip, .bridgeAudio] f ≠
      .error x := by
  obtain ⟨f', hf'⟩ : ∃ f', runAction settings r (.updateCall u) .createTgVoip f = .ok f' := ⟨_, rfl⟩
  rw [Table.perform_cons_of_ok hf', Table.perform_singleton, ne_eq, bridgeAudio_eq_error_iff,
    (runAction_createTgVoip hready hf').1]
  simp

theorem perform_answerSip_ne_error {u : Td.UpdateCall} {f : Frame} :
    Table.perform (runAction settings r (.updateCall u))
      [.storeTgUserId, .createTgVoip, .answerSip] f ≠ .error x := by
  rw [Table.perform_cons_of_ok rfl, Table.perform_cons_of_ok rfl, Table.perform_singleton]
  exact answerWith_ne_error

/-- Rows that end in `X` crash nothing. -/
theorem perform_cleanUp_ne_error {f : Frame} {a : Action}
    (ha : ∃ f', runAction settings r e a f = .ok f') :
    Table.perform (runAction settings r e) [a, .cleanUp] f ≠ .error x := by
  obtain ⟨f', hf'⟩ := ha
  rw [Table.perform_cons_of_ok hf', Table.perform_singleton]
  exact cleanUp_ne_error

theorem perform_drop_ne_error {f : Frame} (hdrop : Drops settings e as) :
    Table.perform (runAction settings r e) (as ++ [.cleanUp]) f ≠ .error x := by
  cases hdrop with
  | noCallback => exact perform_cleanUp_ne_error ⟨_, rfl⟩
  | updateCall | callState | mediaState => exact Table.perform_singleton.trans_ne cleanUp_ne_error

theorem perform_end_ne_error {f : Frame} {a : Action} (hends : Ends e a) :
    Table.perform (runAction settings r e) [a, .cleanUp] f ≠ .error x :=
  perform_cleanUp_ne_error (by cases hends <;> exact ⟨_, rfl⟩)

theorem perform_dialTg_eq_error_iff {f : Frame} {c : Sip.CallStateUpdate} :
    Table.perform (runAction settings r (.callStateUpdate c)) [.dialTg] f = .error x ↔
      ∃ error, dialRefusal r f.ctx f.deps = some error ∧ Overflows error ∧
        x = .escaped (.outOfRange "stoi") := by
  rw [Table.perform_singleton]
  exact Actions.dialTg_eq_error_iff

/-- A bridge crashes in these ways and in no other. -/
theorem process_eq_error_iff : b.process settings r e d = .error x ↔ Crashes settings r b d e x := by
  constructor
  · intro h
    cases ht : transition settings b.state e with
    | none =>
      rw [Bridge.process_of_none ht] at h
      simp at h
    | some sas =>
      obtain ⟨s, as⟩ := sas
      have hmoves := moves_of_transition ht
      have hperf := (process_eq_error_iff_perform rfl hmoves).1 h
      generalize hs : b.state = state at hmoves
      cases hmoves with
      | dial hin hpending huri =>
        obtain ⟨error, hrefused, rfl⟩ := perform_dial_eq_error_iff.1 hperf
        exact .getUser hs hin hpending huri hrefused
      | accept => exact absurd hperf perform_accept_ne_error
      | drop hdrop => exact absurd hperf (perform_drop_ne_error hdrop)
      | answerTg => simp [onEntry, runAction] at hperf
      | joinTg hready => exact absurd hperf (perform_joinTg_ne_error hready)
      | dialTg hearly =>
        obtain ⟨error, hrefused, hover, rfl⟩ := perform_dialTg_eq_error_iff.1 hperf
        exact .retry hs hearly hrefused hover
      | answerSip => exact absurd hperf perform_answerSip_ne_error
      | joinSip hmedia =>
        obtain ⟨hmissing, rfl⟩ := bridgeAudio_eq_error_iff.1 (Table.perform_singleton.symm.trans hperf)
        exact .controller hs hmedia hmissing
      | dtmfTg hdtmf =>
        obtain ⟨text, htext⟩ := hdtmf.exists_text
        obtain ⟨hmissing, rfl⟩ :=
          (dialDtmf_eq_error_iff htext).1 (Table.perform_singleton.symm.trans hperf)
        exact .dtmf (Or.inl hs) hdtmf hmissing
      | dtmfSip hdtmf =>
        obtain ⟨text, htext⟩ := hdtmf.exists_text
        obtain ⟨hmissing, rfl⟩ :=
          (dialDtmf_eq_error_iff htext).1 (Table.perform_singleton.symm.trans hperf)
        exact .dtmf (Or.inr hs) hdtmf hmissing
      | endTg hends => exact absurd hperf (perform_end_ne_error hends)
      | endSip hends => exact absurd hperf (perform_end_ne_error hends)
  · intro h
    cases h with
    | getUser hs hin hpending huri refused =>
      exact (process_eq_error_iff_perform hs (.dial hin hpending huri)).2
        (perform_dial_eq_error_iff.2 ⟨_, refused, rfl⟩)
    | retry hs hearly refused overflows =>
      exact (process_eq_error_iff_perform hs (.dialTg hearly)).2
        (perform_dialTg_eq_error_iff (f := b.frame _ d).2 ⟨_, refused, overflows, rfl⟩)
    | @dtmf m hs hdtmf missing =>
      obtain ⟨text, htext⟩ := hdtmf.exists_text
      have hmoves : Moves settings b.state (.updateNewMessage m) b.state [.dialDtmf] := by
        rcases hs with hs | hs <;> rw [hs]
        · exact .dtmfTg hdtmf
        · exact .dtmfSip hdtmf
      have hentry : onEntry b.state = [] := by rcases hs with hs | hs <;> rw [hs] <;> rfl
      rw [process_eq_error_iff_perform rfl hmoves, hentry, List.append_nil, Table.perform_singleton,
        dialDtmf_eq_error_iff htext]
      exact ⟨missing, rfl⟩
    | controller hs hmedia missing =>
      exact (process_eq_error_iff_perform hs (.joinSip hmedia)).2
        (Table.perform_singleton.trans
          (bridgeAudio_eq_error_iff (f := b.frame _ d).2 ⟨missing, rfl⟩))

end rows

end TelegramProvider
