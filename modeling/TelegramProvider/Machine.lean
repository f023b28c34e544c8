import TelegramProvider.DialTg
import TelegramProvider.Table

/-!
# The state machine of a call

`StateMachine` with its two nested machines `from_tg` and `from_sip`, as transition tables.
A call is in a state of a nested machine, which is asked first; the rows of `StateMachine`
are for what it does not handle, and for the start. Entering `X` runs `CleanUp`.

The machine is at its new state before the row's actions run, so a failed action does not
hold it back. `Moves` lists everything the tables can do, one constructor for each row.
-/

set_option autoImplicit false

namespace TelegramProvider

/-! ## Guards -/

namespace Guards

/-- `IsIncoming`. -/
def isIncoming (event : Td.UpdateCall) : Bool := !event.isOutgoing

/-- `IsInState`. -/
def isInState (id : Td.CallStateId) (event : Td.UpdateCall) : Bool := event.state.getId = id

/-- `CallbackUriIsSet`. -/
def callbackUriIsSet (settings : Settings) : Bool := settings.callbackUri ≠ ""

/-- `IsMediaReady`. -/
def isMediaReady (event : Sip.CallMediaStateUpdate) : Bool := event.hasMedia

/-- `IsSipInState`. -/
def isSipInState (state : Sip.InvState) (event : Sip.CallStateUpdate) : Bool :=
  event.state = state

/-- `IsTextContent`. -/
def isTextContent (event : Td.UpdateNewMessage) : Bool :=
  match event.content with
  | .text _ => true
  | .other => false

/-- A character of `dtmf_regex`. -/
def isDtmfChar (c : Char) : Bool :=
  c.isDigit || ('A' ≤ c && c ≤ 'D') || c = '*' || c = '#'

/-- `IsDtmfString`. -/
def isDtmfString (event : Td.UpdateNewMessage) : Bool :=
  match event.content with
  | .text text => 1 ≤ text.toList.length && text.toList.length ≤ 32 && text.toList.all isDtmfChar
  | .other => false

/-! A guard of a row is for one class of events. -/

def onUpdateCall (g : Td.UpdateCall → Bool) : Event → Bool
  | .updateCall event => g event
  | _ => false

def onNewMessage (g : Td.UpdateNewMessage → Bool) : Event → Bool
  | .updateNewMessage event => g event
  | _ => false

def onIncomingCall : Event → Bool
  | .incomingCall _ => true
  | _ => false

def onCallState (g : Sip.CallStateUpdate → Bool) : Event → Bool
  | .callStateUpdate event => g event
  | _ => false

def onMediaState (g : Sip.CallMediaStateUpdate → Bool) : Event → Bool
  | .callMediaStateUpdate event => g event
  | _ => false

def onInternalError : Event → Bool
  | .internalError _ => true
  | _ => false

end Guards

/-! ## States -/

/-- The states of `from_tg`. -/
inductive FromTg
  | sipWaitMedia
  | waitTg
  | waitDtmf
  deriving DecidableEq, Repr

/-- The states of `from_sip`. -/
inductive FromSip
  | sipWaitConfirm
  | waitTg
  | sipWaitMedia
  | waitDtmf
  deriving DecidableEq, Repr

/-- The states of `StateMachine`. -/
inductive Top
  | init
  | fromTg
  | fromSip
  | x
  deriving DecidableEq, Repr

/-- The state of a call. -/
inductive State
  | init
  | fromTg (q : FromTg)
  | fromSip (q : FromSip)
  | x
  deriving DecidableEq, Repr

def State.top : State → Top
  | .init => .init
  | .fromTg _ => .fromTg
  | .fromSip _ => .fromSip
  | .x => .x

/-- Entering a nested machine puts it into its initial state. -/
def Top.enter : Top → State
  | .init => .init
  | .fromTg => .fromTg .sipWaitMedia
  | .fromSip => .fromSip .sipWaitConfirm
  | .x => .x

/-! ## Tables -/

open Guards in
/-- `from_tg`. -/
def fromTg : List (Table.Row FromTg Event Action) := [
  { src := .sipWaitMedia, guard := onMediaState isMediaReady
    actions := [.answerTg], dst := .waitTg },
  { src := .waitTg, guard := onUpdateCall (isInState .ready)
    actions := [.createTgVoip, .bridgeAudio], dst := .waitDtmf },
  { src := .waitDtmf, guard := onNewMessage fun e => isTextContent e && isDtmfString e
    actions := [.dialDtmf], dst := .waitDtmf }]

open Guards in
/-- `from_sip`. -/
def fromSip : List (Table.Row FromSip Event Action) := [
  { src := .sipWaitConfirm, guard := onCallState (isSipInState .early)
    actions := [.dialTg], dst := .waitTg },
  { src := .waitTg, guard := onUpdateCall (isInState .ready)
    actions := [.storeTgUserId, .createTgVoip, .answerSip], dst := .sipWaitMedia },
  { src := .sipWaitMedia, guard := onMediaState isMediaReady
    actions := [.bridgeAudio], dst := .waitDtmf },
  { src := .waitDtmf, guard := onNewMessage fun e => isTextContent e && isDtmfString e
    actions := [.dialDtmf], dst := .waitDtmf }]

open Guards in
/-- `StateMachine`. -/
def stateMachine (settings : Settings) : List (Table.Row Top Event Action) := [
  { src := .init
    guard := onUpdateCall fun e => isIncoming e && isInState .pending e && callbackUriIsSet settings
    actions := [.storeTgId, .storeTgUserId, .dialSip], dst := .fromTg },
  { src := .init
    guard := onUpdateCall fun e => isIncoming e && isInState .pending e && !callbackUriIsSet settings
    actions := [.storeTgId], dst := .x },
  { src := .init, guard := onUpdateCall fun _ => true, actions := [], dst := .x },
  { src := .init, guard := onIncomingCall
    actions := [.storeSipId, .acceptIncomingSip], dst := .fromSip },
  { src := .init, guard := onCallState fun _ => true, actions := [], dst := .x },
  { src := .init, guard := onMediaState fun _ => true, actions := [], dst := .x },
  { src := .fromTg, guard := onUpdateCall fun e => isInState .discarded e || isInState .error e
    actions := [.cleanTgId], dst := .x },
  { src := .fromTg, guard := onCallState (isSipInState .disconnected)
    actions := [.cleanSipId], dst := .x },
  { src := .fromTg, guard := onInternalError, actions := [.setHangupPrm], dst := .x },
  { src := .fromSip, guard := onUpdateCall fun e => isInState .discarded e || isInState .error e
    actions := [.cleanTgId], dst := .x },
  { src := .fromSip, guard := onInternalError, actions := [.setHangupPrm], dst := .x },
  { src := .fromSip, guard := onCallState (isSipInState .disconnected)
    actions := [.cleanSipId], dst := .x }]

/-- The step of the tables : the new state and the actions of the row. -/
def transition (settings : Settings) (s : State) (e : Event) : Option (State × List Action) :=
  let parent := (Table.fire (stateMachine settings) s.top e).map fun (t, as) => (t.enter, as)
  match s with
  | .fromTg q => Table.within .fromTg (Table.fire fromTg q e) parent
  | .fromSip q => Table.within .fromSip (Table.fire fromSip q e) parent
  | _ => parent

/-! ## What the tables do -/

/-- The events that end a call, whatever sub-state it is in, with the action they run. -/
inductive Ends : Event → Action → Prop
  | tg {u : Td.UpdateCall} (h : u.state = .discarded ∨ u.state = .error) :
      Ends (.updateCall u) .cleanTgId
  | sip {e : Sip.CallStateUpdate} (h : e.state = .disconnected) :
      Ends (.callStateUpdate e) .cleanSipId
  | internal {e : InternalError} : Ends (.internalError e) .setHangupPrm

/-- The events a new bridge is dropped on at once. -/
inductive Drops (settings : Settings) : Event → List Action → Prop
  | noCallback {u : Td.UpdateCall} (hin : u.isOutgoing = false) (hpending : u.state = .pending)
      (huri : settings.callbackUri = "") : Drops settings (.updateCall u) [.storeTgId]
  | updateCall {u : Td.UpdateCall} (h : ¬(u.isOutgoing = false ∧ u.state = .pending)) :
      Drops settings (.updateCall u) []
  | callState {e : Sip.CallStateUpdate} : Drops settings (.callStateUpdate e) []
  | mediaState {e : Sip.CallMediaStateUpdate} : Drops settings (.callMediaStateUpdate e) []

/-- The message is a text of DTMF digits. -/
def Td.UpdateNewMessage.IsDtmf (m : Td.UpdateNewMessage) : Prop :=
  Guards.isTextContent m = true ∧ Guards.isDtmfString m = true

/-- The rows of the tables. -/
inductive Moves (settings : Settings) : State → Event → State → List Action → Prop
  | dial {u : Td.UpdateCall} (hin : u.isOutgoing = false) (hpending : u.state = .pending)
      (huri : settings.callbackUri ≠ "") :
      Moves settings .init (.updateCall u) (.fromTg .sipWaitMedia)
        [.storeTgId, .storeTgUserId, .dialSip]
  | accept {e : Sip.IncomingCall} :
      Moves settings .init (.incomingCall e) (.fromSip .sipWaitConfirm)
        [.storeSipId, .acceptIncomingSip]
  | drop {e : Event} {as : List Action} (h : Drops settings e as) :
      Moves settings .init e .x as
  | answerTg {e : Sip.CallMediaStateUpdate} (hmedia : e.hasMedia = true) :
      Moves settings (.fromTg .sipWaitMedia) (.callMediaStateUpdate e) (.fromTg .waitTg) [.answerTg]
  | joinTg {u : Td.UpdateCall} {key : String} {servers : List Td.CallServer}
      (hready : u.state = .ready key servers) :
      Moves settings (.fromTg .waitTg) (.updateCall u) (.fromTg .waitDtmf)
        [.createTgVoip, .bridgeAudio]
  | dtmfTg {m : Td.UpdateNewMessage} (hdtmf : m.IsDtmf) :
      Moves settings (.fromTg .waitDtmf) (.updateNewMessage m) (.fromTg .waitDtmf) [.dialDtmf]
  | dialTg {e : Sip.CallStateUpdate} (hearly : e.state = .early) :
      Moves settings (.fromSip .sipWaitConfirm) (.callStateUpdate e) (.fromSip .waitTg) [.dialTg]
  | answerSip {u : Td.UpdateCall} {key : String} {servers : List Td.CallServer}
      (hready : u.state = .ready key servers) :
      Moves settings (.fromSip .waitTg) (.updateCall u) (.fromSip .sipWaitMedia)
        [.storeTgUserId, .createTgVoip, .answerSip]
  | joinSip {e : Sip.CallMediaStateUpdate} (hmedia : e.hasMedia = true) :
      Moves settings (.fromSip .sipWaitMedia) (.callMediaStateUpdate e) (.fromSip .waitDtmf)
        [.bridgeAudio]
  | dtmfSip {m : Td.UpdateNewMessage} (hdtmf : m.IsDtmf) :
      Moves settings (.fromSip .waitDtmf) (.updateNewMessage m) (.fromSip .waitDtmf) [.dialDtmf]
  | endTg {q : FromTg} {e : Event} {a : Action} (h : Ends e a) :
      Moves settings (.fromTg q) e .x [a]
  | endSip {q : FromSip} {e : Event} {a : Action} (h : Ends e a) :
      Moves settings (.fromSip q) e .x [a]

namespace Td.CallState

variable {state : CallState}

theorem getId_eq_pending : state.getId = .pending ↔ state = .pending := by
  cases state <;> simp [getId]

theorem getId_eq_ready : state.getId = .ready ↔ ∃ key servers, state = .ready key servers := by
  cases state <;> simp [getId]

theorem getId_eq_discarded : state.getId = .discarded ↔ state = .discarded := by
  cases state <;> simp [getId]

theorem getId_eq_error : state.getId = .error ↔ state = .error := by
  cases state <;> simp [getId]

end Td.CallState

namespace Guards

variable {e : Event}

@[simp] theorem onUpdateCall_iff {g : Td.UpdateCall → Bool} :
    onUpdateCall g e = true ↔ ∃ u, e = .updateCall u ∧ g u = true := by
  cases e <;> simp [onUpdateCall]

@[simp] theorem onNewMessage_iff {g : Td.UpdateNewMessage → Bool} :
    onNewMessage g e = true ↔ ∃ m, e = .updateNewMessage m ∧ g m = true := by
  cases e <;> simp [onNewMessage]

@[simp] theorem onIncomingCall_iff : onIncomingCall e = true ↔ ∃ c, e = .incomingCall c := by
  cases e <;> simp [onIncomingCall]

@[simp] theorem onCallState_iff {g : Sip.CallStateUpdate → Bool} :
    onCallState g e = true ↔ ∃ c, e = .callStateUpdate c ∧ g c = true := by
  cases e <;> simp [onCallState]

@[simp] theorem onMediaState_iff {g : Sip.CallMediaStateUpdate → Bool} :
    onMediaState g e = true ↔ ∃ c, e = .callMediaStateUpdate c ∧ g c = true := by
  cases e <;> simp [onMediaState]

@[simp] theorem onInternalError_iff : onInternalError e = true ↔ ∃ i, e = .internalError i := by
  cases e <;> simp [onInternalError]

@[simp] theorem isIncoming_iff {u : Td.UpdateCall} : isIncoming u = true ↔ u.isOutgoing = false := by
  simp [isIncoming]

@[simp] theorem isInState_iff {id : Td.CallStateId} {u : Td.UpdateCall} :
    isInState id u = true ↔ u.state.getId = id := by
  simp [isInState]

@[simp] theorem isSipInState_iff {state : Sip.InvState} {c : Sip.CallStateUpdate} :
    isSipInState state c = true ↔ c.state = state := by
  simp [isSipInState]

@[simp] theorem isMediaReady_iff {c : Sip.CallMediaStateUpdate} :
    isMediaReady c = true ↔ c.hasMedia = true :=
  Iff.rfl

@[simp] theorem callbackUriIsSet_iff {settings : Settings} :
    callbackUriIsSet settings = true ↔ settings.callbackUri ≠ "" := by
  simp [callbackUriIsSet]

end Guards

section transition

variable {settings : Settings} {s s' : State} {e : Event} {as : List Action}

theorem moves_of_fire_fromTg {q q' : FromTg} (h : Table.fire fromTg q e = some (q', as)) :
    Moves settings (.fromTg q) e (.fromTg q') as := by
  obtain ⟨r, hr, rfl, hg, rfl, rfl⟩ := Table.exists_row_of_fire h
  simp only [fromTg, List.mem_cons, List.not_mem_nil, or_false] at hr
  rcases hr with rfl | rfl | rfl
  · obtain ⟨c, rfl, hmedia⟩ := Guards.onMediaState_iff.1 hg
    exact .answerTg hmedia
  · obtain ⟨u, rfl, hu⟩ := Guards.onUpdateCall_iff.1 hg
    obtain ⟨key, servers, hready⟩ := Td.CallState.getId_eq_ready.1 (Guards.isInState_iff.1 hu)
    exact .joinTg hready
  · obtain ⟨m, rfl, hm⟩ := Guards.onNewMessage_iff.1 hg
    exact .dtmfTg (by simpa [Td.UpdateNewMessage.IsDtmf] using hm)

theorem moves_of_fire_fromSip {q q' : FromSip} (h : Table.fire fromSip q e = some (q', as)) :
    Moves settings (.fromSip q) e (.fromSip q') as := by
  obtain ⟨r, hr, rfl, hg, rfl, rfl⟩ := Table.exists_row_of_fire h
  simp only [fromSip, List.mem_cons, List.not_mem_nil, or_false] at hr
  rcases hr with rfl | rfl | rfl | rfl
  · obtain ⟨c, rfl, hearly⟩ := Guards.onCallState_iff.1 hg
    exact .dialTg (by simpa using hearly)
  · obtain ⟨u, rfl, hu⟩ := Guards.onUpdateCall_iff.1 hg
    obtain ⟨key, servers, hready⟩ := Td.CallState.getId_eq_ready.1 (Guards.isInState_iff.1 hu)
    exact .answerSip hready
  · obtain ⟨c, rfl, hmedia⟩ := Guards.onMediaState_iff.1 hg
    exact .joinSip hmedia
  · obtain ⟨m, rfl, hm⟩ := Guards.onNewMessage_iff.1 hg
    exact .dtmfSip (by simpa [Td.UpdateNewMessage.IsDtmf] using hm)

theorem ends_iff_tg : (∃ u, e = .updateCall u ∧
    (Guards.isInState .discarded u || Guards.isInState .error u) = true) ↔ Ends e .cleanTgId := by
  simp only [Bool.or_eq_true, Guards.isInState_iff, Td.CallState.getId_eq_discarded,
    Td.CallState.getId_eq_error]
  exact ⟨fun ⟨_, he, hu⟩ => he ▸ .tg hu, fun h => by cases h with | tg hu => exact ⟨_, rfl, hu⟩⟩

theorem ends_iff_sip : (∃ c, e = .callStateUpdate c ∧
    Guards.isSipInState .disconnected c = true) ↔ Ends e .cleanSipId := by
  simp only [Guards.isSipInState_iff]
  exact ⟨fun ⟨_, he, hc⟩ => he ▸ .sip hc, fun h => by cases h with | sip hc => exact ⟨_, rfl, hc⟩⟩

theorem ends_iff_internal : (∃ i, e = .internalError i) ↔ Ends e .setHangupPrm :=
  ⟨fun ⟨_, he⟩ => he ▸ .internal, fun h => by cases h with | internal => exact ⟨_, rfl⟩⟩

/-- The rows of `StateMachine` for a call that is in a nested machine. -/
theorem ends_of_fire {top t : Top} (htop : top = .fromTg ∨ top = .fromSip)
    (h : Table.fire (stateMachine settings) top e = some (t, as)) :
    t = .x ∧ ∃ a, as = [a] ∧ Ends e a := by
  obtain ⟨r, hr, rfl, hg, rfl, rfl⟩ := Table.exists_row_of_fire h
  simp only [stateMachine, List.mem_cons, List.not_mem_nil, or_false] at hr
  rcases hr with rfl | rfl | rfl | rfl | rfl | rfl | rfl | rfl | rfl | rfl | rfl | rfl <;>
    simp only [reduceCtorEq, or_self] at htop <;> refine ⟨rfl, _, rfl, ?_⟩
  · exact ends_iff_tg.1 (Guards.onUpdateCall_iff.1 hg)
  · exact ends_iff_sip.1 (Guards.onCallState_iff.1 hg)
  · exact ends_iff_internal.1 (Guards.onInternalError_iff.1 hg)
  · exact ends_iff_tg.1 (Guards.onUpdateCall_iff.1 hg)
  · exact ends_iff_internal.1 (Guards.onInternalError_iff.1 hg)
  · exact ends_iff_sip.1 (Guards.onCallState_iff.1 hg)

/-- The rows of `StateMachine` for a new call : the first three tell updates apart, and an
update reaches the third only if it is not an incoming pending call. -/
theorem fire_init_updateCall (u : Td.UpdateCall) :
    Table.fire (stateMachine settings) .init (.updateCall u) = some
      (if u.isOutgoing = false ∧ u.state = .pending then
        if settings.callbackUri = "" then (.x, [.storeTgId])
        else (.fromTg, [.storeTgId, .storeTgUserId, .dialSip])
      else (.x, [])) := by
  by_cases hin : u.isOutgoing = false <;> by_cases hp : u.state = .pending <;>
    by_cases huri : settings.callbackUri = "" <;>
    simp [stateMachine, Table.fire_cons, Guards.onUpdateCall, Guards.isIncoming,
      Guards.isInState, Guards.callbackUriIsSet, Td.CallState.getId_eq_pending, hin, hp, huri]

theorem moves_of_fire_init {t : Top}
    (h : Table.fire (stateMachine settings) .init e = some (t, as)) :
    Moves settings .init e t.enter as := by
  cases e with
  | updateCall u =>
    rw [fire_init_updateCall] at h
    split_ifs at h with hu huri <;> obtain ⟨rfl, rfl⟩ := Prod.mk.inj (Option.some.inj h)
    · exact .drop (.noCallback hu.1 hu.2 huri)
    · exact .dial hu.1 hu.2 huri
    · exact .drop (.updateCall hu)
  | updateNewMessage m => simp [stateMachine, Table.fire_cons] at h
  | incomingCall c =>
    obtain ⟨rfl, rfl⟩ : .fromSip = t ∧ [.storeSipId, .acceptIncomingSip] = as := by
      simpa [stateMachine, Table.fire_cons] using h
    exact .accept
  | callStateUpdate c =>
    obtain ⟨rfl, rfl⟩ : .x = t ∧ [] = as := by
      simpa [stateMachine, Table.fire_cons] using h
    exact .drop .callState
  | callMediaStateUpdate c =>
    obtain ⟨rfl, rfl⟩ : .x = t ∧ [] = as := by
      simpa [stateMachine, Table.fire_cons] using h
    exact .drop .mediaState
  | internalError i => simp [stateMachine, Table.fire_cons] at h

theorem moves_of_transition (h : transition settings s e = some (s', as)) :
    Moves settings s e s' as := by
  cases s with
  | init =>
    obtain ⟨⟨t, as'⟩, hfire, heq⟩ := Option.map_eq_some_iff.1 h
    obtain ⟨rfl, rfl⟩ := Prod.mk.inj heq
    exact moves_of_fire_init hfire
  | fromTg q =>
    obtain ⟨q', hfire, rfl⟩ | ⟨-, hparent⟩ := Table.within_eq_some_iff.1 h
    · exact moves_of_fire_fromTg hfire
    · obtain ⟨⟨t, as'⟩, hfire, heq⟩ := Option.map_eq_some_iff.1 hparent
      obtain ⟨rfl, rfl⟩ := Prod.mk.inj heq
      obtain ⟨rfl, a, rfl, hends⟩ := ends_of_fire (Or.inl rfl) hfire
      exact .endTg hends
  | fromSip q =>
    obtain ⟨q', hfire, rfl⟩ | ⟨-, hparent⟩ := Table.within_eq_some_iff.1 h
    · exact moves_of_fire_fromSip hfire
    · obtain ⟨⟨t, as'⟩, hfire, heq⟩ := Option.map_eq_some_iff.1 hparent
      obtain ⟨rfl, rfl⟩ := Prod.mk.inj heq
      obtain ⟨rfl, a, rfl, hends⟩ := ends_of_fire (Or.inr rfl) hfire
      exact .endSip hends
  | x => simp [transition, State.top, stateMachine, Table.fire_cons] at h

/-- What ends a call ends it in every sub-state : no row of a nested machine takes it. -/
theorem transition_of_ends {a : Action} (hs : s.top = .fromTg ∨ s.top = .fromSip)
    (h : Ends e a) : transition settings s e = some (.x, [a]) := by
  have hfire : ∀ top, top = .fromTg ∨ top = .fromSip →
      Table.fire (stateMachine settings) top e = some (.x, [a]) := by
    rintro top (rfl | rfl) <;> rcases h with hu | hc | - <;>
      simp [stateMachine, Table.fire_cons, Td.CallState.getId_eq_discarded,
        Td.CallState.getId_eq_error, *]
  cases s with
  | init => simp [State.top] at hs
  | x => simp [State.top] at hs
  | fromTg q =>
    have hnone : Table.fire fromTg q e = none := by
      rcases h with (hu | hu) | hc | - <;>
        simp [fromTg, Table.fire_cons, Td.CallState.getId, *]
    simp [transition, Table.within, hnone, hfire _ hs, Top.enter]
  | fromSip q =>
    have hnone : Table.fire fromSip q e = none := by
      rcases h with (hu | hu) | hc | - <;>
        simp [fromSip, Table.fire_cons, Td.CallState.getId, *]
    simp [transition, Table.within, hnone, hfire _ hs, Top.enter]

/-- The tables do what `Moves` lists, and nothing else. -/
theorem transition_eq_some_iff :
    transition settings s e = some (s', as) ↔ Moves settings s e s' as := by
  refine ⟨moves_of_transition, fun h => ?_⟩
  cases h with
  | dial hin hp huri =>
    simp [transition, State.top, fire_init_updateCall, hin, hp, huri, Top.enter]
  | accept => rfl
  | drop h =>
    cases h with
    | noCallback hin hp huri =>
      simp [transition, State.top, fire_init_updateCall, hin, hp, huri, Top.enter]
    | updateCall hu => simp [transition, State.top, fire_init_updateCall, hu, Top.enter]
    | callState => rfl
    | mediaState => rfl
  | answerTg hmedia => simp [transition, Table.within, fromTg, Table.fire_cons, hmedia]
  | joinTg hready =>
    simp [transition, Table.within, fromTg, Table.fire_cons, hready, Td.CallState.getId]
  | dtmfTg hdtmf => simp [transition, Table.within, fromTg, Table.fire_cons, hdtmf.1, hdtmf.2]
  | dialTg hearly => simp [transition, Table.within, fromSip, Table.fire_cons, hearly]
  | answerSip hready =>
    simp [transition, Table.within, fromSip, Table.fire_cons, hready, Td.CallState.getId]
  | joinSip hmedia => simp [transition, Table.within, fromSip, Table.fire_cons, hmedia]
  | dtmfSip hdtmf => simp [transition, Table.within, fromSip, Table.fire_cons, hdtmf.1, hdtmf.2]
  | endTg h => exact transition_of_ends (Or.inl rfl) h
  | endSip h => exact transition_of_ends (Or.inr rfl) h

end transition

end TelegramProvider
