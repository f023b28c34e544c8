import Mathlib.Data.Nat.Notation
import Mathlib.Tactic.SplitIfs
import TelegramProvider.Expiring

/-!
# The bot

`startBot` of td-keyboard : the handlers of the inline bot, and the actions they send to the PBX
through AMI. A query of a client is answered with an article, the DTMF keyboard or the card with the
button for a callback; the data of a button that is pressed says what is done, in parts with colons
between.

A button for a callback is handled with three operations, a `Get`, the callback and a `Set`. They
are definitions of their own, as telebot runs every handler in a goroutine.
-/

set_option autoImplicit false

namespace TelegramProvider

/-- `strings.Split` by a character, and `explode`. -/
def splitBy (sep : Char) (s : String) : List String :=
  (s.toList.splitOn sep).map String.ofList

namespace Bot

/-! ## Articles -/

/-- The settings the bot reads in its handlers. -/
structure Settings where
  queueNum : String
  queueId : String
  prefixVar : String
  prefixExten : String
  callbackTitle : String
  callbackText : String
  callbackButtonText : String
  dtmfTitle : String
  dtmfText : String

/-- An inline button. Without a name of its own, its data is sent as it is. -/
structure Button where
  text : String
  data : String
  deriving DecidableEq, Repr

/-- `tele.ArticleResult`, with the rows of its buttons. -/
structure Article where
  title : String
  text : String
  rows : List (List Button)
  deriving DecidableEq, Repr

/-- A button of the DTMF keyboard. -/
def dtmfButton (digit : String) : Button :=
  ⟨digit, "dtmf:" ++ digit⟩

/-- `menuDtmf`. -/
def menuDtmf : List (List Button) :=
  [["1", "2", "3"], ["4", "5", "6"], ["7", "8", "9"], ["*", "0", "#"]].map (·.map dtmfButton)

/-- `menuCallback`. -/
def menuCallback (settings : Settings) (phone : String) : List (List Button) :=
  [[⟨settings.callbackButtonText, "dial:" ++ phone⟩]]

/-- The handler of a query. -/
def onQuery (settings : Settings) (text : String) : Option Article :=
  match splitBy ':' text with
  | kind :: arg :: _ =>
    some (
      if kind = "callback" then
        ⟨settings.callbackTitle, settings.callbackText, menuCallback settings arg⟩
      else ⟨settings.dtmfTitle, settings.dtmfText, menuDtmf⟩)
  | _ => none

/-! ## Actions -/

/-- An action of AMI, its fields with their values. -/
abbrev Action := List (String × String)

/-- The action of `playDtmf`. -/
def playAction (channel digit : String) : Action :=
  [("Action", "PlayDTMF"), ("Channel", channel), ("Digit", digit), ("Receive", "1")]

/-- The action of `startCallback`. -/
def originate (settings : Settings) (phone queueNum queueId : String) : Action := [
  ("Action", "Originate"),
  ("Channel", "Local/" ++ queueNum ++ "@internal-originate"),
  ("Variable", "pt1c_cid=" ++ settings.prefixVar ++ phone ++ ",SRC_QUEUE=" ++ queueId),
  ("Exten", settings.prefixExten ++ phone),
  ("Context", "all_peers"),
  ("Priority", "1"),
  ("Async", "true")]

/-- What the bot does, with the reading of the clock : it plays a digit, starts a callback, with the
action that is sent if AMI is connected, or takes a press for a flood. -/
inductive Obs
  | played (action : Action)
  | called (phone : String) (action : Option Action) (time : ℤ)
  | flood (phone : String) (time : ℤ)
  deriving DecidableEq, Repr

end Bot

/-- The bot : `cacheManager`, and its record. -/
structure Bot where
  cache : Expiring.Cache String String := .empty
  trace : List Bot.Obs := []

namespace Bot

/-- Nanoseconds in a second. -/
def second : ℤ := 10 ^ 9

/-- How long a number is marked. -/
def window : ℤ := 10 * second

/-- What is outside of a handler : who presses, the channels in Redis, whether AMI is connected, and
the readings of the clock in their order. -/
structure Replies where
  senderId : ℤ
  channel : String → String
  connected : Bool
  clock : ℕ → ℤ

/-- Record `o`. -/
def log (o : Obs) (b : Bot) : Bot :=
  { b with trace := b.trace ++ [o] }

/-- The key a number is marked under. -/
def dialKey (phone : String) : String :=
  "dial" ++ ":" ++ phone

/-- `cacheManager.Get` for a number. -/
def isMarked (phone : String) (now : ℤ) (b : Bot) : Bool :=
  (b.cache.get (dialKey phone) now).isSome

/-- `cacheManager.Set` for a number. -/
def mark (phone : String) (now : ℤ) (b : Bot) : Bot :=
  { b with cache := b.cache.set (dialKey phone) "1" now window }

/-- `startCallback`, for the queue of the settings. -/
def startCallback (settings : Settings) (connected : Bool) (phone : String) (now : ℤ) (b : Bot) :
    Bot :=
  b.log (.called phone
    (if connected then some (originate settings phone settings.queueNum settings.queueId) else none)
    now)

/-- `playDtmf`. -/
def playDtmf (connected : Bool) (channel digit : String) (b : Bot) : Bot :=
  if connected then b.log (.played (playAction channel digit)) else b

/-- A button for a callback is pressed. -/
def dial (settings : Settings) (r : Replies) (phone : String) (b : Bot) : Bot :=
  if b.isMarked phone (r.clock 0) then b.log (.flood phone (r.clock 0))
  else (b.startCallback settings r.connected phone (r.clock 1)).mark phone (r.clock 2)

/-- A button of the DTMF keyboard is pressed. -/
def press (r : Replies) (digit : String) (b : Bot) : Bot :=
  let channel := r.channel (toString r.senderId)
  if channel = "" then b else b.playDtmf r.connected channel digit

/-- What the data of a button asks for. -/
inductive Request
  | dtmf (digit : String)
  | dial (phone : String)
  | none
  deriving DecidableEq, Repr

/-- The data of a button is read. -/
def requestOf (data : String) : Request :=
  match splitBy ':' data with
  | kind :: arg :: _ =>
    if kind = "dtmf" then .dtmf arg else if kind = "dial" then .dial arg else .none
  | _ => .none

/-- The handler of a button, run at one go. -/
def onCallback (settings : Settings) (r : Replies) (data : String) (b : Bot) : Bot :=
  match requestOf data with
  | .dtmf digit => b.press r digit
  | .dial phone => b.dial settings r phone
  | .none => b

/-! ## Parts with colons between -/

section split

variable {sep : Char} {parts : List String} {phone s : String} {settings : Settings}

/-- Parts without the separator are read back. -/
theorem splitBy_eq (h : s.toList = [sep].intercalate (parts.map String.toList))
    (hparts : ∀ p ∈ parts, sep ∉ p.toList) (hne : parts ≠ []) : splitBy sep s = parts := by
  have hsep : ∀ l ∈ parts.map String.toList, sep ∉ l := by
    simpa using hparts
  unfold splitBy
  rw [h, List.splitOn_intercalate sep hsep (by simpa using hne), List.map_map]
  simp [Function.comp_def]

/-- The data of the button for a callback asks for its number. -/
theorem requestOf_dial (hphone : ':' ∉ phone.toList) :
    requestOf ("dial:" ++ phone) = .dial phone := by
  have hsplit : splitBy ':' ("dial:" ++ phone) = ["dial", phone] :=
    splitBy_eq (by simp [List.intercalate]) (by simp [hphone]) (by simp)
  unfold requestOf
  rw [hsplit]
  rfl

/-- Each button of the DTMF keyboard asks for its digit. -/
theorem requestOf_dtmf : ∀ row ∈ menuDtmf, ∀ b ∈ row, requestOf b.data = .dtmf b.text := by
  decide

/-- A query with the word "callback" is answered with a button for the part behind it. -/
theorem onQuery_callback (settings : Settings) (h : splitBy ':' s = "callback" :: phone :: parts) :
    onQuery settings s =
      some ⟨settings.callbackTitle, settings.callbackText, menuCallback settings phone⟩ := by
  unfold onQuery
  rw [h]
  rfl

end split

/-- A bot for one queue. -/
def queueSettings : Settings where
  queueNum := "2200100"
  queueId := "QUEUE-1"
  prefixVar := ""
  prefixExten := ""
  callbackTitle := "Ordering a callback"
  callbackText := "Nobody answered"
  callbackButtonText := "request a call back"
  dtmfTitle := "Internal number entry form"
  dtmfText := "Enter the number"

end Bot

end TelegramProvider
