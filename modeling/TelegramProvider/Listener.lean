import TelegramProvider.Expiring
import TelegramProvider.Numerals
import TelegramProvider.Runs

/-!
# The keyboard client

`tdUserListner` of td-keyboard : the client of the user account that watches the chats. It
sends the DTMF keyboard for an incoming call and deletes it when the call is over, plays
digits into the call, and answers any other text with the text of the settings.

It keeps three kinds of entries in one cache, `clientCacheManager`, under keys that are
concatenated strings (`Purpose.key`). An entry here also has the purpose it was set for, a
ghost; `Obs.got` records what every `Get` is for and what it found. A failed type assertion
stops the program.
-/

set_option autoImplicit false

namespace TelegramProvider

open Runs

namespace Listener

/-! ## The Telegram side -/

/-- `client.User`. -/
structure User where
  id : ℤ
  isBot : Bool
  phoneNumber : String := ""
  username : String := ""
  deriving DecidableEq, Repr

/-- `client.MessageContent` : a finished call with its duration, a text, or anything else. -/
inductive Content
  | call (duration : ℤ)
  | text (text : String)
  | other
  deriving DecidableEq, Repr

/-- `client.Update`. An update of a call is about a pending call, or about any other state. -/
inductive Update
  | user (u : User)
  | newMessage (isOutgoing : Bool) (chatId : ℤ) (content : Content)
  | call (isOutgoing : Bool) (userId : ℤ) (pending : Bool)
  | other
  deriving DecidableEq, Repr

/-- An inline result : an article with its id, or a result of another type. -/
inductive InlineResult
  | article (id : String)
  | other
  deriving DecidableEq, Repr

/-- What is outside while one update is handled : TDLib's answers, of which an error is
`none`, the channels in Redis, and the clock at the `k`-th operation of the cache. -/
structure Replies where
  getUser : Option User
  inlineResults : Option (List InlineResult)
  inlineMessage : Option ℤ
  channel : String → String
  clock : ℕ → ℤ

/-- The settings the client reads while it handles updates. -/
structure Settings where
  botId : ℤ
  autoAnswerText : String

/-! ## The cache -/

/-- A value in the cache, an `interface{}`. -/
inductive Value
  | int64 (n : ℤ)
  | str (s : String)
  | bool (b : Bool)
  deriving DecidableEq, Repr

/-- What an entry is for : the message id of the keyboard of a chat, the note that it was
deleted, the mark that a text was sent to a chat, or whether a user is a bot. -/
inductive Purpose
  | keyboard (chatId : ℤ)
  | deleted (chatId : ℤ)
  | mark (chatId : ℤ) (message : String)
  | bot (userId : ℤ)
  deriving DecidableEq, Repr

/-- The key of an entry. -/
def Purpose.key : Purpose → String
  | .keyboard chatId => toString chatId
  | .deleted chatId => toString chatId
  | .mark chatId message => toString chatId ++ message
  | .bot userId => "bot-" ++ toString userId

/-- An entry : its value, and the purpose it was set for. -/
structure Entry where
  value : Value
  purpose : Purpose
  deriving DecidableEq, Repr

/-- What is on record : what a `Get` found, and what was done. `asked` is an inline query to the
bot, whose first result goes to the chat. -/
inductive Obs
  | got (p : Purpose) (found : Option Entry)
  | sent (chatId : ℤ) (text : String)
  | asked (botId chatId : ℤ) (query : String)
  | deleted (chatId : ℤ) (messageIds : List ℤ)
  | played (channel digit : String)
  deriving DecidableEq, Repr

end Listener

/-- The client : its cache, its record, and whether a panic has stopped it. -/
structure Listener where
  cache : Expiring.Cache String Listener.Entry := .empty
  trace : List Listener.Obs := []
  stopped : Bool := false

namespace Listener

/-- Nanoseconds in a second. -/
def second : ℤ := 10 ^ 9

/-- Record `o`. -/
def log (o : Obs) (l : Listener) : Listener :=
  { l with trace := l.trace ++ [o] }

/-- `clientCacheManager.Get`. -/
def get (p : Purpose) (now : ℤ) (l : Listener) : Option Entry :=
  l.cache.get p.key now

/-- `clientCacheManager.Set`, for a number of seconds. -/
def set (p : Purpose) (value : Value) (now seconds : ℤ) (l : Listener) : Listener :=
  { l with cache := l.cache.set p.key ⟨value, p⟩ now (seconds * second) }

/-- A panic. -/
def stop (l : Listener) : Listener :=
  { l with stopped := true }

section simp

variable (l : Listener) (o : Obs) (p : Purpose) (value : Value) (now seconds : ℤ)

@[simp] theorem log_cache : (l.log o).cache = l.cache := rfl
@[simp] theorem log_trace : (l.log o).trace = l.trace ++ [o] := rfl

@[simp] theorem set_trace : (l.set p value now seconds).trace = l.trace := rfl

end simp

/-! ## Updates -/

/-- `isNumeric`. -/
def isNumeric (s : String) : Bool :=
  Go.parseFloat s

/-- `sendMessage` : not the same text twice within 30 seconds. `k` counts the operations of the
cache before it. -/
def sendMessage (r : Replies) (k : ℕ) (chatId : ℤ) (message : String) (l : Listener) : Listener :=
  let found := l.get (.mark chatId message) (r.clock k)
  let l := l.log (.got (.mark chatId message) found)
  match found with
  | some _ => l
  | none =>
    (l.set (.mark chatId message) (.str "1") (r.clock (k + 1)) 30).log (.sent chatId message)

/-- `sendMsgFromBot` : the id of the message, or zero; `none` is a panic. -/
def sendMsgFromBot (r : Replies) : Option ℤ :=
  match r.inlineResults with
  | some (.article _ :: _) => some (r.inlineMessage.getD 0)
  | some (.other :: _) => none
  | some [] => some 0
  | none => some 0

/-- An outgoing call is over : a visiting card for a call that was not answered. -/
def outgoingCallOver (settings : Settings) (r : Replies) (chatId duration : ℤ) (l : Listener) :
    Listener :=
  if duration < 2 then
    match r.getUser with
    | none => l
    | some u =>
      let query := "callback:" ++ u.phoneNumber ++ ":" ++ toString u.id ++ ":" ++ u.username
      let l := l.log (.asked settings.botId chatId query)
      match sendMsgFromBot r with
      | none => l.stop
      | some _ => l
  else l

/-- An incoming call is over : its keyboard is deleted. -/
def incomingCallOver (r : Replies) (chatId : ℤ) (l : Listener) : Listener :=
  let found := l.get (.keyboard chatId) (r.clock 0)
  let l := l.log (.got (.keyboard chatId) found)
  match found with
  | none => l
  | some entry =>
    match entry.value with
    | .int64 messageId =>
      (l.log (.deleted chatId [messageId])).set (.deleted chatId) (.str "") (r.clock 1) 1
    | _ => l.stop

/-- Whether the user of a chat is a bot, asked for if it is not known; `none` is an error. -/
def isBot (r : Replies) (chatId : ℤ) (l : Listener) : Option Bool × Listener :=
  let found := l.get (.bot chatId) (r.clock 0)
  let l := l.log (.got (.bot chatId) found)
  match found with
  | some entry => (some (entry.value = .bool true), l)
  | none =>
    match r.getUser with
    | none => (none, l)
    | some u => (some u.isBot, l.set (.bot u.id) (.bool u.isBot) (r.clock 1) 60)

/-- Play digits one by one. A text that is a number has only ASCII characters, so its bytes
are its characters. -/
def playAll (channel : String) (digits : List Char) (l : Listener) : Listener :=
  digits.foldl (fun l digit => l.log (.played channel (String.singleton digit))) l

/-- A text of a user who is not a bot. -/
def answerText (settings : Settings) (r : Replies) (chatId : ℤ) (text : String) (l : Listener) :
    Listener :=
  if isNumeric text then
    let channel := r.channel (toString chatId)
    if channel = "" then l.sendMessage r 2 chatId settings.autoAnswerText
    else l.playAll channel text.toList
  else l.sendMessage r 2 chatId settings.autoAnswerText

/-- An incoming text. -/
def incomingText (settings : Settings) (r : Replies) (chatId : ℤ) (text : String)
    (l : Listener) : Listener :=
  match l.isBot r chatId with
  | (some false, l) => l.answerText settings r chatId text
  | (_, l) => l

/-- A call rings : the DTMF keyboard is sent. -/
def incomingCall (settings : Settings) (r : Replies) (userId : ℤ) (l : Listener) : Listener :=
  let l := l.log (.asked settings.botId userId "keyboard:")
  match sendMsgFromBot r with
  | none => l.stop
  | some messageId =>
    if messageId = 0 then l else l.set (.keyboard userId) (.int64 messageId) (r.clock 0) 600

/-- One turn of the loop of `tdUserListner`. -/
def handle (settings : Settings) (u : Update) (r : Replies) (l : Listener) : Listener :=
  match u with
  | .user u => if u.isBot then l.set (.bot u.id) (.bool true) (r.clock 0) 60 else l
  | .newMessage true chatId (.call duration) => l.outgoingCallOver settings r chatId duration
  | .newMessage false chatId (.call _) => l.incomingCallOver r chatId
  | .newMessage false chatId (.text text) => l.incomingText settings r chatId text
  | .call false userId true => l.incomingCall settings r userId
  | _ => l

/-- The text the bot is greeted with. -/
def startText : String := "Starting a new session..."

/-- The client when it starts to listen. -/
def started (settings : Settings) (r : Replies) : Listener :=
  sendMessage r 0 settings.botId startText {}

/-- One update is handled, unless a panic has stopped the client. -/
def Step (settings : Settings) (l : Listener) (x : Update × Replies) (l' : Listener) : Prop :=
  l' = if l.stopped then l else l.handle settings x.1 x.2

end Listener

end TelegramProvider
