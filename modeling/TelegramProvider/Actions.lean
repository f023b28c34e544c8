import Mathlib.Logic.Function.Basic
import TelegramProvider.Context

/-!
# The actions

`state_machine::actions`, all but `DialTg`. An action that returns leaves a new frame; one
that an exception leaves, or that uses a missing controller, crashes. The actions that
catch both `pj::Error` and `std::runtime_error` do so with the same two handlers
(`Frame.recover`), which queue an internal error with status 500; what each catches is
its own.
-/

set_option autoImplicit false

namespace TelegramProvider

/-! ## What the actions share -/

/-- `CALL_PROTO_MIN_LAYER`. -/
def callProtoMinLayer : ℕ := 65

/-- `VoIPController::GetConnectionMaxLayer`. -/
def connectionMaxLayer : ℕ := 92

/-- `voip_library_versions`. -/
def voipLibraryVersions : List String := ["2.4.4"]

/-- The `callProtocol` sent with `acceptCall` and `createCall`. -/
def callProtocol (settings : Settings) : Td.CallProtocol where
  udpP2p := settings.udpP2p
  udpReflector := settings.udpReflector
  minLayer := callProtoMinLayer
  maxLayer := connectionMaxLayer
  libraryVersions := voipLibraryVersions

/-- `is_digits`. -/
def isDigits (str : List Char) : Bool :=
  str.all Char.isDigit

/-- Parameters with status 500. -/
def internalServerError (reason : String) : Sip.CallOpParam :=
  { statusCode := Sip.scInternalServerError, reason }

/-- The reason made of a TDLib error. -/
def tgReason (error : Td.Error) : String :=
  toString error.code ++ "; " ++ error.message

namespace Frame

/-- The two handlers behind a call of `sip_client`. -/
def recover (f : Frame) : Except Sip.Exn Unit → Except Crash Frame
  | .ok () => .ok f
  | .error (.pjError reason) => .ok (f.emplaceError (internalServerError reason))
  | .error (.runtimeError what) => .ok (f.emplaceError (internalServerError what))
  | .error e => .error (.escaped e)

/-- Change the context. -/
def modifyCtx (g : Context → Context) (f : Frame) : Frame :=
  { f with ctx := g f.ctx }

/-- Change the SIP client. -/
def withSip (sip : Sip.Client) (f : Frame) : Frame :=
  { f with deps := { f.deps with sip } }

variable (f : Frame) (g : Context → Context) (sip : Sip.Client)

@[simp] theorem modifyCtx_ctx : (f.modifyCtx g).ctx = g f.ctx := rfl
@[simp] theorem modifyCtx_deps : (f.modifyCtx g).deps = f.deps := rfl
@[simp] theorem withSip_ctx : (f.withSip sip).ctx = f.ctx := rfl
@[simp] theorem withSip_sip : (f.withSip sip).deps.sip = sip := rfl
@[simp] theorem withSip_trace : (f.withSip sip).deps.trace = f.deps.trace := rfl
@[simp] theorem withSip_errors :
    (f.withSip sip).deps.internalEvents = f.deps.internalEvents := rfl

end Frame

namespace Actions

/-! ## Ids -/

/-- `StoreSipId`. -/
def storeSipId (event : Sip.IncomingCall) (f : Frame) : Frame :=
  (f.modifyCtx ({ · with sipCallId := event.id, sipCall := some event.call })).log
    (.sipAssociated f.ctx.id event.id event.call)

/-- `StoreTgId`. -/
def storeTgId (event : Td.UpdateCall) (f : Frame) : Frame :=
  (f.modifyCtx ({ · with tgCallId := event.id })).log (.tgAssociated f.ctx.id event.id)

/-- `StoreTgUserId`. -/
def storeTgUserId (event : Td.UpdateCall) (f : Frame) : Frame :=
  f.modifyCtx ({ · with userId := event.userId })

/-- `CleanTgId`. -/
def cleanTgId (f : Frame) : Frame :=
  f.modifyCtx ({ · with tgCallId := 0 })

/-- `CleanSipId`. -/
def cleanSipId (f : Frame) : Frame :=
  f.modifyCtx ({ · with sipCallId := Sip.invalidId, sipCall := none })

/-- `SetHangupPrm`. -/
def setHangupPrm (event : InternalError) (f : Frame) : Frame :=
  f.modifyCtx ({ · with hangupPrm := event.prm })

/-! ## `CleanUp` -/

/-- Stop the controller, if there is one. -/
def stopController (f : Frame) : Frame :=
  if f.ctx.controller.isSome then f.log (.stopped f.ctx.id) else f

/-- Discard the Telegram call, if there is one. A refusal is only logged. -/
def discardTg (r : Replies) (f : Frame) : Frame :=
  if f.ctx.tgCallId = 0 then f else
    let sent := f.send (.discardCall f.ctx.tgCallId false 0 false f.ctx.tgCallId)
    let answered := match r.discardCall with
      | .error error => sent.log (.logged f.ctx.id error.message)
      | .ok () => sent
    answered.modifyCtx ({ · with tgCallId := 0 })

/-- Hang up the SIP call, if there is one. A `pj::Error` is only logged. -/
def hangupSip (r : Replies) (f : Frame) : Except Crash Frame :=
  if f.ctx.sipCallId = Sip.invalidId then .ok f else
    let called := f.callSip (.hangup f.ctx.sipCallId f.ctx.hangupPrm) f.ctx.sipCallId
    match f.deps.sip.hangup r.pj f.ctx.sipCallId with
    | .ok sip => .ok (cleanSipId (called.withSip sip))
    | .error (.pjError reason) => .ok (cleanSipId (called.log (.logged f.ctx.id reason)))
    | .error e => .error (.escaped e)

/-- `CleanUp`. -/
def cleanUp (r : Replies) (f : Frame) : Except Crash Frame :=
  hangupSip r (discardTg r (stopController f))

/-! ## From Telegram to SIP -/

/-- A header with a value that may be missing. -/
def optionalHeader (hName hValue : String) : List (String × String) :=
  if hValue.isEmpty then [] else [(hName, hValue)]

/-- The headers of the call `DialSip` makes. -/
def dialHeaders (ctxId : String) (tgUserId : ℤ) (user : Td.User) : List (String × String) :=
  [("X-GW-Context", ctxId), ("X-TG-ID", toString tgUserId)] ++
    optionalHeader "X-TG-FirstName" user.firstName ++
    optionalHeader "X-TG-LastName" user.lastName ++
    optionalHeader "X-TG-Username" user.username ++
    optionalHeader "X-TG-Phone" user.phoneNumber

/-- The parameters of that call. -/
def dialPrm (f : Frame) (tgUserId : ℤ) (user : Td.User) : Sip.CallOpParam :=
  { useDefaultCallSetting := true
    headers := dialHeaders (f.ctx.idText f.deps.pid) tgUserId user }

/-- `DialSip`. The failure of `getUser` is thrown outside the `try` block, which has a
handler for `pj::Error` alone. -/
def dialSip (settings : Settings) (r : Replies) (event : Td.UpdateCall) (f : Frame) :
    Except Crash Frame :=
  let asked := f.send (.getUser event.userId)
  match r.getUser with
  | .error error => .error (.escaped (.runtimeError error.message))
  | .ok user =>
    let dialed := asked.log
      (.sip f.ctx.id (.dial settings.callbackUri (dialPrm f event.userId user)) none)
    match f.deps.sip.dial r.pj with
    | .ok (id, sip) =>
      .ok (((dialed.withSip sip).modifyCtx
        ({ · with sipCallId := id, sipCall := some f.deps.sip.created })).log
          (.sipAssociated f.ctx.id id f.deps.sip.created))
    | .error (.pjError reason) => .ok (dialed.emplaceError (internalServerError reason))
    | .error e => .error (.escaped e)

/-- `AnswerTg`. -/
def answerTg (settings : Settings) (r : Replies) (f : Frame) : Frame :=
  let asked := f.send (.acceptCall f.ctx.tgCallId (callProtocol settings))
  match r.acceptCall with
  | .error error => asked.emplaceError (internalServerError (tgReason error))
  | .ok () => asked

/-! ## From SIP to Telegram -/

/-- What the called extension asks for. -/
inductive Extension
  | username (name : String)
  | phone (digits : String)
  | userId (id : ℤ)
  deriving DecidableEq, Repr

/-- `std::stol` on a string of digits. -/
def stol (digits : List Char) : Option ℤ :=
  if digits = [] ∨ 2 ^ 63 ≤ Nat.ofDigitChars 10 digits 0 then none
  else some (Nat.ofDigitChars 10 digits 0)

/-- How `AcceptIncomingSip` reads the extension, or `none` when it is not valid. -/
def Extension.parse (ext : String) : Option Extension :=
  let cs := ext.toList
  if 3 < cs.length ∧ cs.take 3 = "tg#".toList then
    some (.username (String.ofList (cs.drop 3)))
  else if 1 < cs.length ∧ cs.head? = some '+' ∧ isDigits (cs.drop 1) then
    some (.phone (String.ofList (cs.drop 1)))
  else if isDigits cs then
    (stol cs).map .userId
  else
    none

/-- The field of the context the extension is kept in. -/
def Extension.store : Extension → Context → Context
  | .username name, ctx => { ctx with extUsername := name }
  | .phone digits, ctx => { ctx with extPhone := digits }
  | .userId id, ctx => { ctx with userId := id }

/-- `Client::Answer` for the SIP call of the context. -/
def answerWith (r : Replies) (prm : Sip.CallOpParam) (f : Frame) : Except Crash Frame :=
  (f.callSip (.answer f.ctx.sipCallId prm) f.ctx.sipCallId).recover
    (f.deps.sip.answer r.pj f.ctx.sipCallId)

/-- `AcceptIncomingSip`. -/
def acceptIncomingSip (r : Replies) (event : Sip.IncomingCall) (f : Frame) :
    Except Crash Frame :=
  match Extension.parse event.extension with
  | some ext =>
    answerWith r { useDefaultCallSetting := true, statusCode := Sip.scRinging }
      (f.modifyCtx ext.store)
  | none => .ok (f.emplaceError { statusCode := Sip.scBadExtension })

/-- `AnswerSip`. -/
def answerSip (r : Replies) (f : Frame) : Except Crash Frame :=
  answerWith r { useDefaultCallSetting := true, statusCode := Sip.scOk } f

/-! ## The voice connection -/

/-- The endpoint of a reflector; a server of another type is skipped. -/
def endpointOf (server : Td.CallServer) : Option Endpoint :=
  match server.type with
  | .telegramReflector peerTag => some {
      id := server.id
      port := UInt16.ofInt server.port
      ipv4 := server.ipAddress
      ipv6 := server.ipv6Address
      peerTag := String.ofList (peerTag.toList.take 16) }
  | .webrtc => none

/-- The proxy of the settings, if it is enabled. -/
def voipProxy (settings : Settings) : Option VoipProxy :=
  if settings.voipProxyEnabled then some {
    address := settings.voipProxyAddress
    port := settings.voipProxyPort
    username := settings.voipProxyUsername
    password := settings.voipProxyPassword }
  else none

/-- The controller `CreateTgVoip` starts for a ready call. -/
def voipController (settings : Settings) (event : Td.UpdateCall) (encryptionKey : String)
    (servers : List Td.CallServer) : VoIPController where
  tgCall := event.id
  config := {
    initTimeout := 3000
    recvTimeout := 3000
    enableAec := settings.aecEnabled
    enableNs := settings.nsEnabled
    enableAgc := settings.agcEnabled }
  proxy := voipProxy settings
  encryptionKey := String.ofList (encryptionKey.toList.take 256)
  isOutgoing := event.isOutgoing
  endpoints := servers.filterMap endpointOf
  allowP2p := settings.udpP2p
  connectionMaxLayer := connectionMaxLayer

/-- `CreateTgVoip`. Its rows have checked that the call is ready. -/
def createTgVoip (settings : Settings) (event : Td.UpdateCall) (f : Frame) : Frame :=
  match event.state with
  | .ready key servers =>
    f.modifyCtx ({ · with controller := some (voipController settings event key servers) })
  | _ => f

/-- `BridgeAudio`. The arguments, which use the controller, are evaluated first. -/
def bridgeAudio (r : Replies) (f : Frame) : Except Crash Frame :=
  match f.ctx.controller with
  | none => .error .nullController
  | some controller =>
    (f.callSip (.bridgeAudio f.ctx.sipCallId controller) f.ctx.sipCallId).recover
      (f.deps.sip.bridgeAudio r.pj f.ctx.sipCallId)

/-- `DialDtmf`, on a text. The only handler is for `pj::Error`. -/
def dialDtmf (r : Replies) (event : Td.UpdateNewMessage) (f : Frame) : Except Crash Frame :=
  match event.content with
  | .other => .ok f
  | .text text =>
    let called := f.callSip (.dialDtmf f.ctx.sipCallId text) f.ctx.sipCallId
    match f.deps.sip.dialDtmf r.pj f.ctx.sipCallId with
    | .ok () => .ok called
    | .error (.pjError reason) => .ok (called.log (.logged f.ctx.id reason))
    | .error e => .error (.escaped e)

end Actions

end TelegramProvider
