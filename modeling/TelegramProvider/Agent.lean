import TelegramProvider.Dtmf

/-!
# The PHP agent

`TgUserEventHandler` : the client of the user account in PHP. For an incoming call it sends the DTMF
keyboard through the inline bot, and remembers what Telegram answered under the id of the call, to
delete the keyboard when the call is hung up. A missed call of its own is answered with a card for a
callback. A text of a user is played into the call if it is a number, and is answered otherwise,
with a map of the last answers against answering too often.

Telegram is outside : what it answers while one update is handled is a `Replies`, and what the agent
does there is on record (`Obs`).
-/

set_option autoImplicit false

namespace TelegramProvider

namespace Agent

/-! ## The Telegram side -/

/-- An update in the answer to `sendInlineBotResult` : the id a message got, `updateMessageID`, or
an update of another type, which may have a field `id`. -/
inductive UpdateData
  | messageID (id : ℤ)
  | other (id : Option ℤ)
  deriving DecidableEq, Repr

/-- `$updateData["id"]`. A field that is not there is read as null. -/
def UpdateData.id : UpdateData → Option ℤ
  | .messageID id => some id
  | .other id => id

/-- The answer to `sendInlineBotResult`, an array that may have a list of updates. -/
structure Response where
  updates : Option (List UpdateData)
  deriving DecidableEq, Repr

/-- A user, as `getUsers` describes it. -/
structure UserData where
  id : ℤ
  phone : Option String
  username : Option String
  deriving DecidableEq, Repr

/-- The array that is encoded for the inline bot. -/
structure Card where
  login : String
  query : String
  phone : String
  username : String
  id : ℤ
  deriving DecidableEq, Repr

/-- `PhoneCallDiscardReason`, as far as it is asked for. -/
inductive Reason
  | hangup
  | missed
  | other
  deriving DecidableEq, Repr

/-- What a message has : a text, or the action of a call that is over. -/
inductive Content
  | text (text : String)
  | call (reason : Reason) (callId : ℤ)
  | other
  deriving DecidableEq, Repr

/-- `$update['message']`, with its type and the fields that may be missing. -/
structure Message where
  kind : String
  id : ℤ
  out : Bool
  userId : Option ℤ
  fromId : Option ℤ
  peerId : Option ℤ
  content : Content
  deriving DecidableEq, Repr

/-- `$update['phone_call']`. -/
structure PhoneCall where
  incoming : Bool
  otherId : ℤ
  callId : ℤ
  deriving DecidableEq, Repr

/-- What is outside while one update is handled : the users and the peer Telegram finds, how many
results the bot has, the answer to `sendInlineBotResult` if it is an array, the channels in the
cache, and the readings of the clock in their order, in seconds. -/
structure Replies where
  users : Option ℤ → List UserData
  peer : ℤ
  results : ℕ
  response : Option Response
  channel : ℤ → Option String
  clock : ℕ → ℤ

/-- What the agent does : it asks the bot, sends the first result, deletes messages, plays digits
and sends texts. -/
inductive Obs
  | asked (peer botId : ℤ) (card : Card)
  | sentResult (peer : ℤ)
  | deleted (ids : List (Option ℤ))
  | played (digits : Played)
  | sent (userId : ℤ) (text : String)
  deriving DecidableEq, Repr

/-- What the agent is set up with : itself, its bot and its text. -/
structure Settings where
  login : String
  myId : ℤ
  botId : ℤ
  autoAnswerText : String
  deriving DecidableEq, Repr

end Agent

/-- `TgUserEventHandler` : what is recorded for the calls, and the time of the last answer to each
user, in the order of the array. -/
structure Agent where
  activeCalls : ℤ → Option Agent.Response := fun _ => none
  lastMsg : List (ℤ × ℤ) := []
  trace : List Agent.Obs := []

namespace Agent

/-- Record `o`. -/
def log (o : Obs) (a : Agent) : Agent :=
  { a with trace := a.trace ++ [o] }

/-- `$this->activeCalls[$callId] = ..`, or `unset` of it. -/
def setCall (callId : ℤ) (response : Option Response) (a : Agent) : Agent :=
  { a with activeCalls := Function.update a.activeCalls callId response }

/-- Change the last answers. -/
def setLastMsg (lastMsg : List (ℤ × ℤ)) (a : Agent) : Agent :=
  { a with lastMsg }

section simp

variable (a : Agent) (o : Obs) (callId : ℤ) (response : Option Response) (lastMsg : List (ℤ × ℤ))

@[simp] theorem log_activeCalls : (a.log o).activeCalls = a.activeCalls := rfl
@[simp] theorem log_lastMsg : (a.log o).lastMsg = a.lastMsg := rfl
@[simp] theorem log_trace : (a.log o).trace = a.trace ++ [o] := rfl
@[simp] theorem setCall_activeCalls : (a.setCall callId response).activeCalls =
    Function.update a.activeCalls callId response := rfl
@[simp] theorem setCall_lastMsg : (a.setCall callId response).lastMsg = a.lastMsg := rfl
@[simp] theorem setCall_trace : (a.setCall callId response).trace = a.trace := rfl
@[simp] theorem setLastMsg_activeCalls : (a.setLastMsg lastMsg).activeCalls = a.activeCalls := rfl
@[simp] theorem setLastMsg_lastMsg : (a.setLastMsg lastMsg).lastMsg = lastMsg := rfl
@[simp] theorem setLastMsg_trace : (a.setLastMsg lastMsg).trace = a.trace := rfl

end simp

/-! ## Keyboards -/

/-- The user a keyboard is for : the peer of the message, or else the other side of the call. -/
def userOf (peerId : Option ℤ) : Option PhoneCall → Option ℤ
  | some call => if peerId.getD 0 = 0 then some call.otherId else peerId
  | none => peerId

/-- The array for the bot. Without a query it has the time. -/
def card (settings : Settings) (query : String) (r : Replies) (user : UserData) : Card where
  login := settings.login
  query := if query = "" then toString (r.clock 0) else query
  phone := user.phone.getD ""
  username := user.username.getD ""
  id := user.id

/-- `sendKeyboard`. Only for an update of a call is the answer recorded. -/
def sendKeyboard (settings : Settings) (peerId : Option ℤ) (phoneCall : Option PhoneCall)
    (query : String) (r : Replies) (a : Agent) : Agent :=
  match r.users (userOf peerId phoneCall) with
  | [] => a
  | user :: _ =>
    let a := a.log (.asked r.peer settings.botId (card settings query r user))
    if r.results = 0 then a
    else
      let a := a.log (.sentResult r.peer)
      match phoneCall, r.response with
      | some call, some response => a.setCall call.callId (some response)
      | _, _ => a

/-- The search of `deleteKeyboard` : the id of the first `updateMessageID`. -/
def findMessageID (updates : List UpdateData) : Option ℤ :=
  updates.findSome? fun
    | .messageID id => some id
    | .other _ => none

/-- `deleteKeyboard`. An id that is zero is empty. -/
def deleteKeyboard (callId : ℤ) (a : Agent) : Agent :=
  match a.activeCalls callId with
  | none => a
  | some response =>
    match response.updates with
    | none => a
    | some updates =>
      let a :=
        if (findMessageID updates).getD 0 ≠ 0 then
          a.log (.deleted [updates.head?.bind UpdateData.id])
        else a
      a.setCall callId none

/-- `onUpdatePhoneCall`. -/
def onUpdatePhoneCall (settings : Settings) (call : PhoneCall) (r : Replies) (a : Agent) : Agent :=
  if settings.botId = 0 then a
  else if call.incoming then a.sendKeyboard settings none (some call) "" r
  else a

/-- `onAny`. -/
def onAny (settings : Settings) (m : Message) (r : Replies) (a : Agent) : Agent :=
  match m.content with
  | .call .hangup callId =>
    if settings.myId ≠ m.fromId.getD 0 then a.deleteKeyboard callId else a
  | .call .missed _ =>
    if settings.myId = m.fromId.getD 0 then
      (a.log (.deleted [some m.id])).sendKeyboard settings m.peerId none "callback" r
    else a
  | _ => a

/-! ## Texts -/

/-- `$array[$key] = $value` : a new key comes last. -/
def put (key value : ℤ) : List (ℤ × ℤ) → List (ℤ × ℤ)
  | [] => [(key, value)]
  | (k, v) :: rest => if k = key then (k, value) :: rest else (k, v) :: put key value rest

/-- The answer to a message, at most every 30 seconds. -/
def answer (settings : Settings) (userId lastTime : ℤ) (r : Replies) (a : Agent) : Agent :=
  if 30 < r.clock 0 - lastTime then
    (a.log (.sent userId settings.autoAnswerText)).setLastMsg (put userId (r.clock 1) a.lastMsg)
  else a

/-- The loop that forgets old answers. It looks at the last answer to the user of the message,
whichever entry it is at. -/
def forget (lastTime : ℤ) (r : Replies) (a : Agent) : Agent :=
  a.setLastMsg ((a.lastMsg.zipIdx.filter fun p => !decide (30 < r.clock (2 + p.2) - lastTime)).map
    Prod.fst)

/-- A message that is not a number. -/
def autoAnswer (settings : Settings) (userId : ℤ) (r : Replies) (a : Agent) : Agent :=
  if phpEmpty settings.autoAnswerText then a
  else
    let lastTime := (a.lastMsg.lookup userId).getD 0
    (a.answer settings userId lastTime r).forget lastTime r

/-- A text that is a number. It is deleted once it has been played. -/
def playText (userId id : ℤ) (message : String) (r : Replies) (a : Agent) : Agent :=
  let (known, played) := BotEventHandler.sendDTMF r.channel userId message
  let a := a.log (.played played)
  if known then a.log (.deleted [some id]) else a

/-- `onUpdateNewMessage`, behind `onAny`. A message without a text is not a number. -/
def newMessage (settings : Settings) (m : Message) (r : Replies) (a : Agent) : Agent :=
  if m.kind ≠ "updateNewMessage" ∧ m.out = false then
    match m.userId with
    | none => a
    | some userId =>
      match m.content with
      | .text text =>
        if Php.isNumeric text then a.playText userId m.id text r else a.autoAnswer settings userId r
      | _ => a.autoAnswer settings userId r
  else a

/-- `onUpdateNewMessage`. -/
def onUpdateNewMessage (settings : Settings) (m : Message) (r : Replies) (a : Agent) : Agent :=
  (a.onAny settings m r).newMessage settings m r

/-! ## Updates -/

/-- An update of a call, or a message. -/
inductive Update
  | phoneCall (call : PhoneCall)
  | newMessage (m : Message)
  deriving DecidableEq, Repr

/-- One update is handled. -/
def handle (settings : Settings) (a : Agent) (x : Update × Replies) : Agent :=
  match x.1 with
  | .phoneCall call => a.onUpdatePhoneCall settings call x.2
  | .newMessage m => a.onUpdateNewMessage settings m x.2

/-- The agent behind some updates. -/
def handleAll (settings : Settings) (a : Agent) (xs : List (Update × Replies)) : Agent :=
  xs.foldl (handle settings) a

theorem handleAll_concat (settings : Settings) (a : Agent) (xs : List (Update × Replies))
    (x : Update × Replies) :
    a.handleAll settings (xs ++ [x]) = (a.handleAll settings xs).handle settings x :=
  List.foldl_append

/-! ## What the parts leave alone -/

section frame

variable {settings : Settings} {a : Agent} {m : Message} {r : Replies} {userId lastTime id : ℤ}
  {callId : ℤ} {peerId : Option ℤ} {phoneCall : Option PhoneCall} {query text : String}

/-- A card alone is not recorded. -/
theorem sendKeyboard_none_activeCalls :
    (a.sendKeyboard settings peerId none query r).activeCalls = a.activeCalls := by
  unfold sendKeyboard
  dsimp only
  split
  · rfl
  · split_ifs <;> rfl

theorem sendKeyboard_lastMsg :
    (a.sendKeyboard settings peerId phoneCall query r).lastMsg = a.lastMsg := by
  unfold sendKeyboard
  dsimp only
  split
  · rfl
  · split_ifs
    · rfl
    · split <;> rfl

theorem deleteKeyboard_lastMsg : (a.deleteKeyboard callId).lastMsg = a.lastMsg := by
  unfold deleteKeyboard
  split
  · rfl
  · split
    · rfl
    · dsimp only
      split_ifs <;> rfl

theorem onAny_lastMsg : (a.onAny settings m r).lastMsg = a.lastMsg := by
  unfold onAny
  split
  · split_ifs
    · exact deleteKeyboard_lastMsg
    · rfl
  · split_ifs
    · exact sendKeyboard_lastMsg
    · rfl
  · rfl

theorem answer_activeCalls :
    (a.answer settings userId lastTime r).activeCalls = a.activeCalls := by
  unfold answer
  split_ifs <;> rfl

theorem autoAnswer_activeCalls :
    (a.autoAnswer settings userId r).activeCalls = a.activeCalls := by
  unfold autoAnswer
  split_ifs
  · rfl
  · exact answer_activeCalls

theorem playText_activeCalls : (a.playText userId id text r).activeCalls = a.activeCalls := by
  unfold playText
  dsimp only
  split_ifs <;> rfl

/-- What follows `onAny` touches no record. -/
theorem newMessage_activeCalls : (a.newMessage settings m r).activeCalls = a.activeCalls := by
  unfold newMessage
  split_ifs
  · split
    · rfl
    · split
      · split_ifs
        · exact playText_activeCalls
        · exact autoAnswer_activeCalls
      · exact autoAnswer_activeCalls
  · rfl

/-! ## Digits -/

/-- The digits a record has as played. -/
def playedIn (trace : List Obs) : Played :=
  trace.flatMap fun
    | .played digits => digits
    | _ => []

@[simp] theorem playedIn_append (trace trace' : List Obs) :
    playedIn (trace ++ trace') = playedIn trace ++ playedIn trace' :=
  List.flatMap_append

theorem playedIn_autoAnswer :
    playedIn (a.autoAnswer settings userId r).trace = playedIn a.trace := by
  unfold autoAnswer answer
  split_ifs
  · rfl
  · dsimp only [forget, setLastMsg_trace]
    split_ifs
    · simp [playedIn]
    · rfl

/-- For an incoming text of a user, the digits are those of
`TgUserEventHandler.onUpdateNewMessage`. -/
theorem playedIn_newMessage (hkind : m.kind ≠ "updateNewMessage") (hout : m.out = false)
    (huser : m.userId = some userId) (htext : m.content = .text text) :
    playedIn (a.onUpdateNewMessage settings m r).trace =
      playedIn a.trace ++ TgUserEventHandler.onUpdateNewMessage r.channel userId text := by
  have hany : a.onAny settings m r = a := by
    unfold onAny
    rw [htext]
  unfold onUpdateNewMessage newMessage TgUserEventHandler.onUpdateNewMessage
  rw [hany, if_pos ⟨hkind, hout⟩, huser, htext]
  dsimp only
  split_ifs
  · unfold playText
    dsimp only
    split_ifs <;> simp [playedIn]
  · rw [playedIn_autoAnswer, List.append_nil]

end frame

end Agent

end TelegramProvider
