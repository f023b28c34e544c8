import Mathlib.Data.List.Infix
import TelegramProvider.Json
import TelegramProvider.Lines

/-!
# The keyboard client of a line

`makeSettingsKeyboardFile` writes `settings.conf` of a line, for the keyboard client and for the
bot. The directories are named by the text it gets, and the row is looked up twice : by that
text for the directories, and by its digits for the settings. `startTdKeyboard` calls it with
the phone number as it is stored, and starts the client with the directory of the digits.
-/

set_option autoImplicit false

namespace TelegramProvider

open Records

/-! ## `settings.conf` -/

/-- What MikoPBX says beside the table : the local SIP providers by port, the prefixes of the
outgoing routes by provider, the call queues, and other settings. -/
structure Pbx where
  providers : List (String × String) := []
  routes : List (String × String) := []
  queues : List (String × String × String) := []
  logDir : String := ""
  amiPort : Option String := none
  redisHost : String := ""
  redisPort : String := ""
  translate : String → String := id

/-- The value a key has in a PHP array that is filled from a list. -/
def lastOf (key : String) (pairs : List (String × String)) : Option String :=
  ((pairs.filter (·.1 = key)).getLast?).map (·.2)

/-- A value of a row in JSON. -/
def jsonOf : Option String → Json.Value
  | none => .null
  | some value => .str value

/-- `basename`. -/
def basename (path : String) : String :=
  let cs := path.toList.reverse.dropWhile (· = '/')
  String.ofList (cs.takeWhile (· ≠ '/')).reverse

/-- `explode(':', $s)[0]`. -/
def beforeColon (s : String) : String :=
  String.ofList (s.toList.takeWhile (· ≠ ':'))

namespace Pbx

/-- The queue callbacks go to, if there is one. -/
def queueFields (callbackQueue : String) (pbx : Pbx) : Json.Fields :=
  match (pbx.queues.filter (·.1 = callbackQueue)).getLast? with
  | none => []
  | some (_, uniqid, extension) => [("QueueId", .str uniqid), ("QueueNum", .str extension)]

/-- The prefix of the routes to the gateway of a line. -/
def prefixOf (id : ℕ) (pbx : Pbx) : String :=
  (lastOf ((lastOf (toString (30000 + id)) pbx.providers).getD "") pbx.routes).getD ""

/-- The directory of the logs. -/
def moduleLogDir (moduleDir : String) (pbx : Pbx) : String :=
  pbx.logDir ++ "/" ++ basename moduleDir

/-- `$data`, with the log file of the program it is for. -/
def keyboardData (moduleDir logFile phone tdDir : String) (setting : Line) (pbx : Pbx) :
    Json.Fields :=
  pbx.queueFields (phpText (setting.attr .callbackQueue)) ++ [
    ("PrefixExten", .str (pbx.prefixOf setting.id)),
    ("PrefixVar", .str (pbx.prefixOf setting.id)),
    ("DtmfText", jsonOf (setting.attr .keyboardText)),
    ("ApiId", .int (Php.intval (phpText (setting.attr .apiId)))),
    ("ApiHash", jsonOf (setting.attr .apiHash)),
    ("TgPhone", .str phone),
    ("LogDir", .str (pbx.moduleLogDir moduleDir)),
    ("LogFile", .str (pbx.moduleLogDir moduleDir ++ logFile)),
    ("AutoAnswerText", jsonOf (setting.attr .autoAnswerText)),
    ("Token", jsonOf (setting.attr .botId)),
    ("BotId", .int (Php.intval (beforeColon (phpText (setting.attr .botId))))),
    ("LogLevel", .int 1),
    ("TdDir", .str tdDir),
    ("AmiHost", .str "127.0.0.1"),
    ("AmiPort", jsonOf pbx.amiPort),
    ("AmiLogin", .str "phpagi"),
    ("AmiPassword", .str "phpagi"),
    ("RedisAddres", .str (pbx.redisHost ++ ":" ++ pbx.redisPort)),
    ("RedisDbIndex", .int 3),
    ("CallbackButtonText", .str (pbx.translate "request a call back")),
    ("CallbackTitle", .str (pbx.translate "Ordering a callback")),
    ("callbackText", jsonOf (setting.attr .businessCardText)),
    ("DtmfTitle", .str (pbx.translate "Internal number entry form")),
    ("RedisKeyPrefix", .str "tg_provider_")]

/-- `settings.conf` of a keyboard client. -/
def clientText (moduleDir numPhone phone tdDir : String) (setting : Line) (pbx : Pbx) : String :=
  Json.encode (pbx.keyboardData moduleDir ("/tg-chats-" ++ numPhone ++ ".log") phone tdDir setting)

/-- `settings.conf` of the bot. -/
def botText (moduleDir phone tdDir : String) (setting : Line) (pbx : Pbx) : String :=
  Json.encode (pbx.keyboardData moduleDir "/tg-bot.log" phone tdDir setting)

end Pbx

/-- The settings file of a keyboard client. -/
def keyboardFile (moduleDir numPhone : String) : String :=
  keyboardDirOf moduleDir numPhone ++ "/settings.conf"

/-- `makeSettingsKeyboardFile($numPhone)` : the name of the file, which is empty if none is
written. -/
def TelegramAuth.makeSettingsKeyboardFile (pbx : Pbx) (numPhone : String) (auth : TelegramAuth)
    (h : Host) : String × TelegramAuth × Host :=
  let (ready, h) := initWorkDir numPhone { auth with login := numPhone } h
  let ready := { ready with workDir := ready.workKeyboardDir }
  if !h.fileExists ready.workDir then ("", ready, h) else
    let phone := digitsOnly numPhone
    match h.findFirst phone with
    | none => ("", ready, h)
    | some setting =>
      let resultFile := ready.workKeyboardDir ++ "/settings.conf"
      (resultFile, ready,
        (h.filePutContents resultFile
          (pbx.clientText h.moduleDir numPhone phone ready.workKeyboardDir setting)).filePutContents
            (ready.workBotDir ++ "/settings.conf")
            (pbx.botText h.moduleDir phone ready.workKeyboardDir setting))

/-! ## `startTdKeyboard` -/

namespace Host

/-- The client of a line is started if its settings were written and it does not run yet. -/
def startClient (settings : Line) (confFile : String) (h : Host) : Host :=
  let numPhone := digitsOnly (phoneOf settings)
  let idTask := "td-keyboard=" ++ toString settings.id ++ "-"
  if !phpEmpty (h.pidOf idTask) || !h.fileExists confFile then h else
    { h with launched := h.launched ++
        [(h.moduleDir ++ "/bin/td-keyboard -u -c=" ++ keyboardFile h.moduleDir numPhone ++ " " ++
          idTask, "")] }

/-- The loop of `startTdKeyboard` over the lines. Each has an object of its own. -/
def startClients (pbx : Pbx) : List Line → Host → Host
  | [], h => h
  | settings :: rows, h =>
    let (confFile, _, h) := ({} : TelegramAuth).makeSettingsKeyboardFile pbx (phoneOf settings) h
    startClients pbx rows (h.startClient settings confFile)

/-- `startTdKeyboard`. -/
def startTdKeyboard (pbx : Pbx) (h : Host) : Host :=
  let idBot := "td-keyboard=bot-"
  let pidBot := h.pidOf idBot
  let botConf := botDirOf h.moduleDir ++ "/settings.conf"
  let h := h.startClients pbx h.table.rows
  if phpEmpty pidBot && h.fileExists botConf then
    { h with launched := h.launched ++
        [(h.moduleDir ++ "/bin/td-keyboard -c=" ++ botConf ++ " " ++ idBot, "")] }
  else h

end Host

end TelegramProvider
