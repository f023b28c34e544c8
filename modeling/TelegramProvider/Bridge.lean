import TelegramProvider.Machine

/-!
# A bridge handles an event

A `Bridge` is a context and the state of its machine. `Bridge.process` is
`sm->process_event` : the row the tables choose runs its actions on the context, and
entering `X` runs `CleanUp`.

What is released when a bridge ends is `releases`, for the record, and `released`, for the
call table; `CleanUp` always returns.
-/

set_option autoImplicit false

namespace TelegramProvider

/-- `Bridge`. -/
structure Bridge where
  state : State := .init
  ctx : Context
  deriving DecidableEq, Repr

/-- Run an action with the event its row is for. The tables pair an action with no other
class of events. -/
def runAction (settings : Settings) (r : Replies) (e : Event) (a : Action) (f₀ : Frame) :
    Except Crash Frame :=
  let f := f₀.log (.action f₀.ctx.id a e)
  match a, e with
  | .storeSipId, .incomingCall event => .ok (Actions.storeSipId event f)
  | .storeTgId, .updateCall event => .ok (Actions.storeTgId event f)
  | .storeTgUserId, .updateCall event => .ok (Actions.storeTgUserId event f)
  | .cleanTgId, _ => .ok (Actions.cleanTgId f)
  | .cleanSipId, _ => .ok (Actions.cleanSipId f)
  | .cleanUp, _ => Actions.cleanUp r f
  | .dialSip, .updateCall event => Actions.dialSip settings r event f
  | .answerTg, _ => .ok (Actions.answerTg settings r f)
  | .acceptIncomingSip, .incomingCall event => Actions.acceptIncomingSip r event f
  | .answerSip, _ => Actions.answerSip r f
  | .createTgVoip, .updateCall event => .ok (Actions.createTgVoip settings event f)
  | .bridgeAudio, _ => Actions.bridgeAudio r f
  | .setHangupPrm, .internalError event => .ok (Actions.setHangupPrm event f)
  | .dialTg, _ => Actions.dialTg settings r f
  | .dialDtmf, .updateNewMessage event => Actions.dialDtmf r event f
  | _, _ => .ok f

/-- The actions on entering a state. -/
def onEntry : State → List Action
  | .x => [.cleanUp]
  | _ => []

/-- `sm->process_event`. -/
def Bridge.process (settings : Settings) (r : Replies) (e : Event) (b : Bridge) (deps : Deps) :
    Except Crash (Bridge × Deps) :=
  let f := Frame.log (.event b.ctx.id e) ⟨b.ctx, deps⟩
  match transition settings b.state e with
  | none => .ok (b, f.deps)
  | some (s, as) =>
    (Table.perform (runAction settings r e) (as ++ onEntry s) f).map fun f' =>
      (⟨s, f'.ctx⟩, f'.deps)

/-! ## What is released -/

/-- `CleanUp` stops the controller, if there is one. -/
def stopObs (ctx : Context) : List Obs :=
  if ctx.controller.isSome then [.stopped ctx.id] else []

/-- It discards the Telegram call, if there is one. -/
def discardObs (r : Replies) (ctx : Context) : List Obs :=
  if ctx.tgCallId = 0 then [] else
    .query ctx.id (.discardCall ctx.tgCallId false 0 false ctx.tgCallId) ::
      match r.discardCall with
      | .error error => [.logged ctx.id error.message]
      | .ok () => []

/-- It hangs up the SIP call, if there is one. -/
def hangupObs (r : Replies) (sip : Sip.Client) (ctx : Context) : List Obs :=
  if ctx.sipCallId = Sip.invalidId then [] else
    .sip ctx.id (.hangup ctx.sipCallId ctx.hangupPrm) (sip.calls ctx.sipCallId) ::
      match sip.hangup r.pj ctx.sipCallId with
      | .error (.pjError reason) => [.logged ctx.id reason]
      | _ => []

/-- What `CleanUp` records. -/
def releases (r : Replies) (sip : Sip.Client) (ctx : Context) : List Obs :=
  stopObs ctx ++ discardObs r ctx ++ hangupObs r sip ctx

/-- One entry of it. -/
theorem mem_releases {r : Replies} {sip : Sip.Client} {ctx : Context} {o : Obs}
    (h : o ∈ releases r sip ctx) :
    o = .stopped ctx.id ∨
      o = .query ctx.id (.discardCall ctx.tgCallId false 0 false ctx.tgCallId) ∨
      (∃ error, o = .logged ctx.id error) ∨
      (ctx.sipCallId ≠ Sip.invalidId ∧
        o = .sip ctx.id (.hangup ctx.sipCallId ctx.hangupPrm) (sip.calls ctx.sipCallId)) := by
  unfold releases at h
  rcases List.mem_append.1 h with h | h
  · rcases List.mem_append.1 h with h | h
    · unfold stopObs at h
      split_ifs at h
      · exact Or.inl (List.mem_singleton.1 h)
      · simp at h
    · unfold discardObs at h
      split_ifs at h
      · simp at h
      · rcases List.mem_cons.1 h with h | h
        · exact Or.inr (Or.inl h)
        · cases hr : r.discardCall with
          | ok u => simp [hr] at h
          | error error =>
            rw [hr] at h
            exact Or.inr (Or.inr (Or.inl ⟨_, List.mem_singleton.1 h⟩))
  · unfold hangupObs at h
    split_ifs at h with hid
    · simp at h
    · rcases List.mem_cons.1 h with h | h
      · exact Or.inr (Or.inr (Or.inr ⟨hid, h⟩))
      · split at h
        · exact Or.inr (Or.inr (Or.inl ⟨_, List.mem_singleton.1 h⟩))
        · simp at h

/-- The client after `CleanUp`. -/
def released (r : Replies) (sip : Sip.Client) (ctx : Context) : Sip.Client :=
  if ctx.sipCallId = Sip.invalidId then sip else
    match sip.hangup r.pj ctx.sipCallId with
    | .ok sip' => sip'
    | .error _ => sip

/-- The context a terminating event leaves to `CleanUp`. -/
def endCtx (e : Event) (ctx : Context) : Context :=
  match e with
  | .updateCall _ => { ctx with tgCallId := 0 }
  | .callStateUpdate _ => { ctx with sipCallId := Sip.invalidId, sipCall := none }
  | .internalError i => { ctx with hangupPrm := i.prm }
  | _ => ctx

/-- `Client::Hangup` throws nothing but a `pj::Error`. -/
theorem Sip.Client.hangup_cases (pj : Sip.PjReplies) (id : ℤ) (client : Sip.Client) :
    (∃ client', client.hangup pj id = .ok client') ∨
      ∃ reason, client.hangup pj id = .error (.pjError reason) := by
  unfold Sip.Client.hangup
  split
  · exact Or.inl ⟨_, rfl⟩
  · split
    · exact Or.inr ⟨_, rfl⟩
    · exact Or.inl ⟨_, rfl⟩

/-- From `d` to `d'` the call table becomes `sip`, `errs` are queued for the context `c`, and
`obs` is recorded. -/
structure Changed (c : CtxId) (d d' : Deps) (sip : Sip.Client) (errs : List Sip.CallOpParam)
    (obs : List Obs) : Prop where
  sip : d'.sip = sip
  errors : d'.internalEvents = d.internalEvents ++ errs.map (⟨c, ·⟩)
  trace : d'.trace = d.trace ++ obs

/-- Two changes, the first of which queued nothing. -/
theorem Changed.trans {c : CtxId} {d d₁ d' : Deps} {sip₁ sip : Sip.Client}
    {errs : List Sip.CallOpParam} {obs obs' : List Obs} (h₁ : Changed c d d₁ sip₁ [] obs)
    (h : Changed c d₁ d' sip errs obs') : Changed c d d' sip errs (obs ++ obs') :=
  ⟨h.sip, by rw [h.errors, h₁.errors]; simp, by rw [h.trace, h₁.trace, List.append_assoc]⟩

theorem Changed.log (f : Frame) (o : Obs) :
    Changed f.ctx.id f.deps (f.log o).deps f.deps.sip [] [o] :=
  ⟨rfl, by simp, rfl⟩

namespace Actions

variable {r : Replies} {f : Frame}

theorem stopController_changed : (stopController f).ctx = f.ctx ∧
    Changed f.ctx.id f.deps (stopController f).deps f.deps.sip [] (stopObs f.ctx) := by
  unfold stopController stopObs
  split_ifs
  · exact ⟨rfl, rfl, by simp, rfl⟩
  · exact ⟨rfl, rfl, by simp, by simp⟩

theorem discardTg_changed :
    (discardTg r f).ctx = { f.ctx with tgCallId := 0 } ∧
    Changed f.ctx.id f.deps (discardTg r f).deps f.deps.sip [] (discardObs r f.ctx) := by
  unfold discardTg discardObs
  split_ifs with htg
  · exact ⟨by simp [← htg], rfl, by simp, by simp⟩
  · cases r.discardCall with
    | error error => exact ⟨rfl, rfl, by simp, by simp⟩
    | ok u => exact ⟨rfl, rfl, by simp, by simp⟩

theorem exists_hangupSip : ∃ f', hangupSip r f = .ok f' ∧
    Changed f.ctx.id f.deps f'.deps (released r f.deps.sip f.ctx) []
      (hangupObs r f.deps.sip f.ctx) := by
  unfold hangupSip hangupObs released
  split_ifs with hsip
  · exact ⟨f, rfl, rfl, by simp, by simp⟩
  · rcases f.deps.sip.hangup_cases r.pj f.ctx.sipCallId with ⟨sip, hok⟩ | ⟨reason, herr⟩
    · rw [hok]
      exact ⟨_, rfl, rfl, by simp [cleanSipId], by simp [cleanSipId]⟩
    · rw [herr]
      exact ⟨_, rfl, rfl, by simp [cleanSipId], by simp [cleanSipId]⟩

/-- `CleanUp` always returns. -/
theorem exists_cleanUp (r : Replies) (f : Frame) : ∃ f', cleanUp r f = .ok f' ∧
    Changed f.ctx.id f.deps f'.deps (released r f.deps.sip f.ctx) []
      (releases r f.deps.sip f.ctx) := by
  obtain ⟨hctx₁, hsip₁, herrs₁, htrace₁⟩ := stopController_changed (f := f)
  obtain ⟨hctx₂, hsip₂, herrs₂, htrace₂⟩ := discardTg_changed (r := r) (f := stopController f)
  obtain ⟨f', hok, hsip, herrs, htrace⟩ :=
    exists_hangupSip (r := r) (f := discardTg r (stopController f))
  rw [hctx₁] at hctx₂ htrace₂
  rw [hctx₂, hsip₂, hsip₁] at hsip htrace
  refine ⟨f', hok, hsip, ?_, ?_⟩
  · rw [herrs, herrs₂, herrs₁]
    simp
  · rw [htrace, htrace₂, htrace₁, releases, List.append_assoc, List.append_assoc,
      List.append_assoc]
    rfl

end Actions

/-! ## Performing a row -/

section process

variable {settings : Settings} {r : Replies} {e : Event} {s : State} {as : List Action}
  {b b' : Bridge} {d d' : Deps}

/-- The frame in which a bridge starts to handle an event. -/
def Bridge.frame (b : Bridge) (e : Event) (d : Deps) : Frame :=
  Frame.log (.event b.ctx.id e) ⟨b.ctx, d⟩

theorem Bridge.process_of_none (h : transition settings b.state e = none) :
    b.process settings r e d = .ok (b, (b.frame e d).deps) := by
  unfold Bridge.process
  rw [h]
  rfl

theorem Bridge.process_of_moves (h : Moves settings b.state e s as) :
    b.process settings r e d =
      (Table.perform (runAction settings r e) (as ++ onEntry s) (b.frame e d)).map
        fun f' => (⟨s, f'.ctx⟩, f'.deps) := by
  unfold Bridge.process
  rw [transition_eq_some_iff.2 h]
  rfl

/-- A bridge that performs a row ends in the row's state, with the frame the row leaves. -/
theorem Bridge.perform_of_process (h : Moves settings b.state e s as)
    (hok : b.process settings r e d = .ok (b', d')) : b'.state = s ∧
      Table.perform (runAction settings r e) (as ++ onEntry s) (b.frame e d) = .ok ⟨b'.ctx, d'⟩ := by
  rw [Bridge.process_of_moves h] at hok
  cases hp : Table.perform (runAction settings r e) (as ++ onEntry s) (b.frame e d) with
  | error x => simp [hp, Except.map] at hok
  | ok f' =>
    rw [hp] at hok
    obtain ⟨rfl, rfl⟩ := Prod.mk.inj (Except.ok.inj hok)
    exact ⟨rfl, rfl⟩

end process

end TelegramProvider
