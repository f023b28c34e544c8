import Mathlib.Algebra.Group.Int.Defs
import Mathlib.Algebra.Group.Nat.Defs
import Mathlib.Data.Int.Notation
import Mathlib.Data.List.Basic

/-!
# The Telegram side : objects and queries

The `td_api` objects the gateway reads and the queries it sends through
`tg::Client::send_query_async`. An object keeps the fields that some function of the
gateway reads. Every query gets one reply, an error or the object its class promises, so a
reply is an `Except`.

TDLib delivers strings as bytes; a text is a `String` here and is only read character by
character.
-/

set_option autoImplicit false

namespace TelegramProvider

namespace Td

/-- `td_api::error`. -/
structure Error where
  code : ℤ
  message : String
  deriving DecidableEq, Repr

/-- `td_api::callServerTypeTelegramReflector`, or the WebRTC server type. -/
inductive CallServerType
  | telegramReflector (peerTag : String)
  | webrtc
  deriving DecidableEq, Repr

/-- `td_api::callServer`. -/
structure CallServer where
  id : ℤ
  ipAddress : String
  ipv6Address : String
  port : ℤ
  type : CallServerType
  deriving DecidableEq, Repr

/-- `td_api::CallState`. Only the ready state carries data the gateway reads. -/
inductive CallState
  | pending
  | exchangingKeys
  | ready (encryptionKey : String) (servers : List CallServer)
  | hangingUp
  | discarded
  | error
  deriving DecidableEq, Repr

/-- The class ids `get_id` tells apart. -/
inductive CallStateId
  | pending
  | exchangingKeys
  | ready
  | hangingUp
  | discarded
  | error
  deriving DecidableEq, Repr

def CallState.getId : CallState → CallStateId
  | .pending => .pending
  | .exchangingKeys => .exchangingKeys
  | .ready _ _ => .ready
  | .hangingUp => .hangingUp
  | .discarded => .discarded
  | .error => .error

/-- The call of a `td_api::updateCall`. -/
structure UpdateCall where
  id : ℤ
  userId : ℤ
  isOutgoing : Bool
  state : CallState
  deriving DecidableEq, Repr

/-- `td_api::MessageSender`. Both classes have one `int53` field. -/
inductive MessageSender
  | user (userId : ℤ)
  | chat (chatId : ℤ)
  deriving DecidableEq, Repr

/-- `td_api::MessageContent` : a text, or anything else. -/
inductive MessageContent
  | text (text : String)
  | other
  deriving DecidableEq, Repr

/-- The message of a `td_api::updateNewMessage`. -/
structure UpdateNewMessage where
  senderId : MessageSender
  content : MessageContent
  deriving DecidableEq, Repr

/-- What `tg::Client::process_update` puts into `tg_events` : the two classes the gateway
handles, every other update is dropped there. -/
inductive Update
  | call (u : UpdateCall)
  | newMessage (u : UpdateNewMessage)
  deriving DecidableEq, Repr

/-- `td_api::user`. -/
structure User where
  firstName : String
  lastName : String
  username : String
  phoneNumber : String
  deriving DecidableEq, Repr

/-- `td_api::chat` with its type : a private chat, or another type. -/
structure Chat where
  id : ℤ
  isPrivate : Bool
  deriving DecidableEq, Repr

/-- `td_api::importedContacts` : one user id for each of the `n` contacts of the request,
zero for a contact that is not a Telegram user. -/
structure ImportedContacts (n : ℕ) where
  userIds : List ℤ
  length_eq : userIds.length = n
  deriving DecidableEq, Repr

theorem ImportedContacts.pos (contacts : ImportedContacts 1) : 0 < contacts.userIds.length := by
  simp [contacts.length_eq]

/-- `td_api::callProtocol`. -/
structure CallProtocol where
  udpP2p : Bool
  udpReflector : Bool
  minLayer : ℕ
  maxLayer : ℕ
  libraryVersions : List String
  deriving DecidableEq, Repr

/-- The queries the gateway sends while it handles an event. -/
inductive Query
  | getUser (userId : ℤ)
  | acceptCall (callId : ℤ) (protocol : CallProtocol)
  | createCall (userId : ℤ) (protocol : CallProtocol) (isVideo : Bool)
  | importContacts (phoneNumbers : List String)
  | searchPublicChat (username : String)
  | discardCall (callId : ℤ) (isDisconnected : Bool) (duration : ℤ) (isVideo : Bool)
      (connectionId : ℤ)
  deriving DecidableEq, Repr

/-! ## Authorization -/

/-- `td_api::AuthorizationState`. -/
inductive AuthorizationState
  | ready
  | loggingOut
  | closing
  | closed
  | waitCode
  | waitRegistration
  | waitPassword
  | waitOtherDeviceConfirmation (link : String)
  | waitPhoneNumber
  | waitEncryptionKey
  | waitTdlibParameters
  deriving DecidableEq, Repr

/-- `td_api::tdlibParameters`. -/
structure TdlibParameters where
  apiId : ℤ
  apiHash : String
  databaseDirectory : String
  systemLanguageCode : String
  deviceModel : String
  systemVersion : String
  applicationVersion : String
  useFileDatabase : Bool
  useChatInfoDatabase : Bool
  useMessageDatabase : Bool
  useSecretChats : Bool
  enableStorageOptimizer : Bool
  deriving DecidableEq, Repr

/-- `td_api::addProxy` for a SOCKS5 proxy, or `td_api::disableProxy`. -/
inductive ProxyFunction
  | addProxy (server : String) (port : ℤ) (enable : Bool) (username password : String)
  | disableProxy
  deriving DecidableEq, Repr

/-- The settings TDLib is started with. -/
structure Settings where
  apiId : ℤ
  apiHash : String
  dbFolder : String
  sysLangCode : String
  deviceModel : String
  systemVersion : String
  appVersion : String
  proxyEnabled : Bool
  proxyAddress : String
  proxyPort : ℤ
  proxyUsername : String
  proxyPassword : String
  deriving DecidableEq, Repr

/-- The parameters of TDLib, the same for `gen_db` and `tg2sip`. -/
def Settings.libParameters (settings : Settings) : TdlibParameters where
  apiId := settings.apiId
  apiHash := settings.apiHash
  databaseDirectory := settings.dbFolder
  systemLanguageCode := settings.sysLangCode
  deviceModel := settings.deviceModel
  systemVersion := settings.systemVersion
  applicationVersion := settings.appVersion
  useFileDatabase := false
  useChatInfoDatabase := true
  useMessageDatabase := false
  useSecretChats := false
  enableStorageOptimizer := true

/-- The query for the proxy of the settings. -/
def Settings.proxy (settings : Settings) : ProxyFunction :=
  if settings.proxyEnabled then
    .addProxy settings.proxyAddress settings.proxyPort true settings.proxyUsername
      settings.proxyPassword
  else .disableProxy

/-- Settings without a proxy. -/
def Settings.direct : Settings where
  apiId := 94575
  apiHash := "a3406de8d171"
  dbFolder := "/db"
  sysLangCode := "en-US"
  deviceModel := "PC"
  systemVersion := "Linux"
  appVersion := "1.0"
  proxyEnabled := false
  proxyAddress := ""
  proxyPort := 0
  proxyUsername := ""
  proxyPassword := ""

end Td

end TelegramProvider
