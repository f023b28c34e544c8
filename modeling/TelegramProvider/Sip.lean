import Mathlib.Data.Int.Notation
import TelegramProvider.Keyed

/-!
# The SIP side : `sip::Client`

The call table of `sip::Client` and the operations on it. A `sip::Call` object is known by
the order in which it was created, since PJSUA gives a call id again once the call that had
it is over. What PJSIP does in an operation is an outcome, `PjReplies`; an operation that
fails throws, and an exception leaves the table as it was.
-/

set_option autoImplicit false

namespace TelegramProvider

namespace Sip

/-- `PJSUA_INVALID_ID`. -/
def invalidId : ℤ := -1

/-- `pjsip_inv_state`. -/
inductive InvState
  | null
  | calling
  | incoming
  | early
  | connecting
  | confirmed
  | disconnected
  deriving DecidableEq, Repr

/-! ## Status codes -/

def scRinging : ℕ := 180
def scOk : ℕ := 200
def scNotFound : ℕ := 404
def scBadExtension : ℕ := 420
def scInternalServerError : ℕ := 500

/-- `pj::CallOpParam`, as its constructor leaves it. -/
structure CallOpParam where
  useDefaultCallSetting : Bool := false
  statusCode : ℕ := 0
  reason : String := ""
  headers : List (String × String) := []
  deriving DecidableEq, Repr

/-- What an action can throw. A `pj::Error` is not a `std::runtime_error`, and neither is a
`std::out_of_range`. -/
inductive Exn
  | pjError (reason : String)
  | runtimeError (what : String)
  | outOfRange (what : String)
  deriving DecidableEq, Repr

/-! ## Events

Every event carries the id of the call and, as a ghost the code does not have, the `Call`
object that emitted it. -/

/-- `events::IncomingCall`. -/
structure IncomingCall where
  id : ℤ
  extension : String
  call : ℕ
  deriving DecidableEq, Repr

/-- `events::CallStateUpdate`. -/
structure CallStateUpdate where
  id : ℤ
  state : InvState
  call : ℕ
  deriving DecidableEq, Repr

/-- `events::CallMediaStateUpdate`. -/
structure CallMediaStateUpdate where
  id : ℤ
  hasMedia : Bool
  call : ℕ
  deriving DecidableEq, Repr

/-- `events::Event`. -/
inductive Event
  | incomingCall (e : IncomingCall)
  | callStateUpdate (e : CallStateUpdate)
  | callMediaStateUpdate (e : CallMediaStateUpdate)
  deriving DecidableEq, Repr

/-- The call id of an event. -/
def Event.id : Event → ℤ
  | .incomingCall e => e.id
  | .callStateUpdate e => e.id
  | .callMediaStateUpdate e => e.id

/-- The `Call` object of an event. -/
def Event.call : Event → ℕ
  | .incomingCall e => e.call
  | .callStateUpdate e => e.call
  | .callMediaStateUpdate e => e.call

/-! ## The client -/

/-- A `sip::Call` object : the how-manieth it is, and `local_user_`. -/
structure Call where
  obj : ℕ
  localUser : String := ""
  deriving DecidableEq, Repr

/-- The outcomes of the PJSIP operations an action may perform, each at most once for one
event. A failure is the reason of the `pj::Error` thrown. `audioMedia` is whether
`Call::audio_media` finds a medium. -/
structure PjReplies where
  makeCall : Except String ℤ
  answer : Except String Unit
  hangup : Except String Unit
  audioMedia : Except String Bool
  startTransmit : Except String Unit
  dialDtmf : Except String Unit

/-- `sip::Client`. `calls` is its map. `live` is what PJSUA has : the object bound to each
call id in use. `created` counts the `Call` objects. -/
structure Client where
  calls : ℤ → Option Call
  live : ℤ → Option ℕ
  created : ℕ

namespace Client

/-- No calls. -/
def empty : Client where
  calls _ := none
  live _ := none
  created := 0

/-- The call `c` gets the id `id` : PJSUA binds it, and the map takes it unless it has an
entry for `id`. -/
def register (id : ℤ) (c : Call) (client : Client) : Client where
  calls := Keyed.emplace client.calls id c
  live := Function.update client.live id (some c.obj)
  created := client.created + 1

/-- The handler of `Account::onIncomingCall`, given the id of the new call and the user part
of its local URI : the event it puts into the queue. -/
def onIncomingCall (id : ℤ) (localUser : String) (client : Client) : Client × IncomingCall :=
  (client.register id ⟨client.created, localUser⟩, ⟨id, localUser, client.created⟩)

/-- `Client::Dial` : the id of the call made. -/
def dial (pj : PjReplies) (client : Client) : Except Exn (ℤ × Client) :=
  match pj.makeCall with
  | .error reason => .error (.pjError reason)
  | .ok id => .ok (id, client.register id ⟨client.created, ""⟩)

/-- `Client::Hangup`. The entry is erased after `hangup` returned. -/
def hangup (pj : PjReplies) (id : ℤ) (client : Client) : Except Exn Client :=
  match client.calls id with
  | none => .ok client
  | some _ =>
    match pj.hangup with
    | .error reason => .error (.pjError reason)
    | .ok () => .ok { client with calls := Keyed.erase client.calls id }

/-- `Client::BridgeAudio`. -/
def bridgeAudio (pj : PjReplies) (id : ℤ) (client : Client) : Except Exn Unit :=
  match client.calls id with
  | none => .error (.runtimeError "CALL_NOT_FOUND")
  | some _ =>
    match pj.audioMedia with
    | .error reason => .error (.pjError reason)
    | .ok false => .error (.runtimeError "SIP_MEDIA_NOT_READY")
    | .ok true => pj.startTransmit.mapError .pjError

/-- `Client::Answer`. -/
def answer (pj : PjReplies) (id : ℤ) (client : Client) : Except Exn Unit :=
  match client.calls id with
  | none => .error (.runtimeError "CALL_NOT_FOUND")
  | some _ => pj.answer.mapError .pjError

/-- `Client::DialDtmf`. -/
def dialDtmf (pj : PjReplies) (id : ℤ) (client : Client) : Except Exn Unit :=
  match client.calls id with
  | none => .error (.runtimeError "CALL_NOT_FOUND")
  | some _ => pj.dialDtmf.mapError .pjError

end Client

end Sip

end TelegramProvider
