import TelegramProvider.Sip
import TelegramProvider.Td

/-!
# What an action sees

An action of the gateway's state machine works on the `Context` of one call and on what all
calls share, `Deps` : the SIP client, the queue of internal errors, the contact cache and the
flood block. Together they are a `Frame`. TDLib and PJSIP are outside; what they answer
while one event is handled is a `Replies`.

`Deps.trace` is a record of what happened, which the code does not keep : the events handed
to the machines, the actions run, the queries and the SIP operations, each with the context
it was done for. The entries are the lines of the gateway's own debug log, with their data.
Histories are stated over it.
-/

set_option autoImplicit false

namespace TelegramProvider

/-- The part of `Settings` the gateway reads. -/
structure Settings where
  callbackUri : String
  udpP2p : Bool := false
  udpReflector : Bool := true
  aecEnabled : Bool := false
  nsEnabled : Bool := false
  agcEnabled : Bool := false
  voipProxyEnabled : Bool := false
  voipProxyAddress : String := ""
  voipProxyPort : UInt16 := 0
  voipProxyUsername : String := ""
  voipProxyPassword : String := ""
  extraWaitTime : UInt32 := 30
  peerFloodTime : UInt32 := 86400

/-! ## The voice controller -/

/-- `VoIPController::Config`, as `CreateTgVoip` builds it. -/
structure VoipConfig where
  initTimeout : ℕ
  recvTimeout : ℕ
  enableAec : Bool
  enableNs : Bool
  enableAgc : Bool
  deriving DecidableEq, Repr

/-- The SOCKS5 proxy of a controller. -/
structure VoipProxy where
  address : String
  port : UInt16
  username : String
  password : String
  deriving DecidableEq, Repr

/-- `tgvoip::Endpoint` of type `UDP_RELAY`. -/
structure Endpoint where
  id : ℤ
  port : UInt16
  ipv4 : String
  ipv6 : String
  peerTag : String
  deriving DecidableEq, Repr

/-- `tgvoip::VoIPController` with what was set on it before it was started. `tgCall` is the
Telegram call it was created for, which the code only logs. -/
structure VoIPController where
  tgCall : ℤ
  config : VoipConfig
  proxy : Option VoipProxy
  encryptionKey : String
  isOutgoing : Bool
  endpoints : List Endpoint
  allowP2p : Bool
  connectionMaxLayer : ℕ
  deriving DecidableEq, Repr

/-! ## Events and actions -/

/-- The counter in `Context::id`. The rest of the id is the process id, the same for every
context. -/
abbrev CtxId := ℕ

/-- `events::InternalError`. -/
structure InternalError where
  ctxId : CtxId
  prm : Sip.CallOpParam
  deriving DecidableEq, Repr

/-- What `process_event` hands to a state machine. -/
inductive Event
  | updateCall (u : Td.UpdateCall)
  | updateNewMessage (u : Td.UpdateNewMessage)
  | incomingCall (e : Sip.IncomingCall)
  | callStateUpdate (e : Sip.CallStateUpdate)
  | callMediaStateUpdate (e : Sip.CallMediaStateUpdate)
  | internalError (e : InternalError)
  deriving DecidableEq, Repr

/-- The actions of the transition tables. -/
inductive Action
  | storeSipId
  | storeTgId
  | storeTgUserId
  | cleanTgId
  | cleanSipId
  | cleanUp
  | dialSip
  | answerTg
  | acceptIncomingSip
  | answerSip
  | createTgVoip
  | bridgeAudio
  | setHangupPrm
  | dialTg
  | dialDtmf
  deriving DecidableEq, Repr

/-- A call of an operation of `sip::Client`. -/
inductive SipOp
  | dial (uri : String) (prm : Sip.CallOpParam)
  | answer (id : ℤ) (prm : Sip.CallOpParam)
  | hangup (id : ℤ) (prm : Sip.CallOpParam)
  | bridgeAudio (id : ℤ) (controller : VoIPController)
  | dialDtmf (id : ℤ) (digits : String)
  deriving DecidableEq, Repr

/-- One entry of the record. `sipAssociated` has the `Call` object the id stands for, `sip` the
entry the call table holds for the id, `failed` is an error put into the queue and `logged`
one that is written to the log and forgotten. -/
inductive Obs
  | event (c : CtxId) (e : Event)
  | action (c : CtxId) (a : Action) (e : Event)
  | tgAssociated (c : CtxId) (id : ℤ)
  | sipAssociated (c : CtxId) (id : ℤ) (call : ℕ)
  | query (c : CtxId) (q : Td.Query)
  | sip (c : CtxId) (op : SipOp) (target : Option Sip.Call)
  | stopped (c : CtxId)
  | failed (c : CtxId) (prm : Sip.CallOpParam)
  | logged (c : CtxId) (error : String)
  deriving DecidableEq, Repr

/-- The context an entry belongs to. -/
def Obs.ctx : Obs → CtxId
  | .event c _ => c
  | .action c _ _ => c
  | .tgAssociated c _ => c
  | .sipAssociated c _ _ => c
  | .query c _ => c
  | .sip c _ _ => c
  | .stopped c => c
  | .failed c _ => c
  | .logged c _ => c

/-! ## Contexts and frames -/

/-- `Context`, and the `Call` object its SIP call id stands for, a ghost. -/
structure Context where
  id : CtxId
  sipCallId : ℤ := Sip.invalidId
  tgCallId : ℤ := 0
  controller : Option VoIPController := none
  extPhone : String := ""
  extUsername : String := ""
  userId : ℤ := 0
  hangupPrm : Sip.CallOpParam := {}
  sipCall : Option ℕ := none
  deriving DecidableEq, Repr

/-- `Cache`. -/
structure Cache where
  usernameCache : String → Option ℤ
  phoneCache : String → Option ℤ

/-- What all contexts share. `blockUntil` is a point of the steady clock, in nanoseconds. -/
structure Deps where
  pid : ℕ
  sip : Sip.Client
  internalEvents : List InternalError
  cache : Cache
  blockUntil : ℤ
  trace : List Obs

/-- The answers TDLib and PJSIP have for the operations of one event, each of which is done
at most once, and the two readings of the steady clock `DialTg` makes, in order. -/
structure Replies where
  getUser : Except Td.Error Td.User
  acceptCall : Except Td.Error Unit
  createCall : Except Td.Error ℤ
  importContacts : Except Td.Error (Td.ImportedContacts 1)
  searchPublicChat : Except Td.Error Td.Chat
  discardCall : Except Td.Error Unit
  pj : Sip.PjReplies
  now : ℤ
  later : ℤ

/-- TDLib answers the query with an error. -/
def Replies.Refuses (r : Replies) : Td.Query → Prop
  | .getUser _ => ∃ error, r.getUser = .error error
  | .acceptCall _ _ => ∃ error, r.acceptCall = .error error
  | .createCall _ _ _ => ∃ error, r.createCall = .error error
  | .importContacts _ => ∃ error, r.importContacts = .error error
  | .searchPublicChat _ => ∃ error, r.searchPublicChat = .error error
  | .discardCall _ _ _ _ _ => ∃ error, r.discardCall = .error error

/-- How handling an event ends the process : an exception leaves an action, or a controller
is used that is not there. -/
inductive Crash
  | escaped (e : Sip.Exn)
  | nullController
  deriving DecidableEq, Repr

/-- The state an action works on. -/
structure Frame where
  ctx : Context
  deps : Deps

/-- `Context::id`, as text. -/
def Context.idText (pid : ℕ) (ctx : Context) : String :=
  toString pid ++ "-" ++ toString ctx.id

namespace Frame

/-- Record `o`. -/
def log (o : Obs) (f : Frame) : Frame :=
  { f with deps := { f.deps with trace := f.deps.trace ++ [o] } }

/-- `tg_client.send_query_async(q)` for this context. -/
def send (q : Td.Query) (f : Frame) : Frame :=
  f.log (.query f.ctx.id q)

/-- A call of `sip_client` for this context. -/
def callSip (op : SipOp) (id : ℤ) (f : Frame) : Frame :=
  f.log (.sip f.ctx.id op (f.deps.sip.calls id))

/-- `internal_events.emplace(InternalError{ctx.id(), prm})`. -/
def emplaceError (prm : Sip.CallOpParam) (f : Frame) : Frame :=
  log (.failed f.ctx.id prm)
    { f with deps := { f.deps with
      internalEvents := f.deps.internalEvents ++ [⟨f.ctx.id, prm⟩] } }

variable (f : Frame) (o : Obs) (q : Td.Query) (op : SipOp) (id : ℤ) (prm : Sip.CallOpParam)

@[simp] theorem log_ctx : (f.log o).ctx = f.ctx := rfl
@[simp] theorem log_trace : (f.log o).deps.trace = f.deps.trace ++ [o] := rfl
@[simp] theorem log_sip : (f.log o).deps.sip = f.deps.sip := rfl
@[simp] theorem log_errors : (f.log o).deps.internalEvents = f.deps.internalEvents := rfl
@[simp] theorem log_cache : (f.log o).deps.cache = f.deps.cache := rfl
@[simp] theorem log_blockUntil : (f.log o).deps.blockUntil = f.deps.blockUntil := rfl

@[simp] theorem send_ctx : (f.send q).ctx = f.ctx := rfl
@[simp] theorem send_trace :
    (f.send q).deps.trace = f.deps.trace ++ [.query f.ctx.id q] := rfl
@[simp] theorem send_sip : (f.send q).deps.sip = f.deps.sip := rfl
@[simp] theorem send_errors : (f.send q).deps.internalEvents = f.deps.internalEvents := rfl
@[simp] theorem send_cache : (f.send q).deps.cache = f.deps.cache := rfl
@[simp] theorem send_blockUntil : (f.send q).deps.blockUntil = f.deps.blockUntil := rfl

@[simp] theorem callSip_ctx : (f.callSip op id).ctx = f.ctx := rfl
@[simp] theorem callSip_trace : (f.callSip op id).deps.trace =
    f.deps.trace ++ [.sip f.ctx.id op (f.deps.sip.calls id)] := rfl
@[simp] theorem callSip_sip : (f.callSip op id).deps.sip = f.deps.sip := rfl
@[simp] theorem callSip_errors :
    (f.callSip op id).deps.internalEvents = f.deps.internalEvents := rfl

@[simp] theorem emplaceError_ctx : (f.emplaceError prm).ctx = f.ctx := rfl
@[simp] theorem emplaceError_trace :
    (f.emplaceError prm).deps.trace = f.deps.trace ++ [.failed f.ctx.id prm] := rfl
@[simp] theorem emplaceError_sip : (f.emplaceError prm).deps.sip = f.deps.sip := rfl
@[simp] theorem emplaceError_errors : (f.emplaceError prm).deps.internalEvents =
    f.deps.internalEvents ++ [⟨f.ctx.id, prm⟩] := rfl
@[simp] theorem emplaceError_cache : (f.emplaceError prm).deps.cache = f.deps.cache := rfl
@[simp] theorem emplaceError_blockUntil :
    (f.emplaceError prm).deps.blockUntil = f.deps.blockUntil := rfl

end Frame

end TelegramProvider
