import Mathlib.Data.List.Infix
import TelegramProvider.Controller

/-!
# The settings file of a line

`TelegramAuth` writes the files the programs of a line read, into the directory of the
line. The object remembers the login it was first used with, and looks the row up by it
(`makeSettingsFile`). `Host` is what the object works on : the table, the files and
directories, and what MikoPBX says about settings and processes.
-/

set_option autoImplicit false

namespace TelegramProvider

open Records

/-! ## The host -/

/-- The host the module runs on. `creatable` says which directories `mkdir -p` can make,
`pidOf` is what `Processes::getPidOfProcess` finds, and `genDb` what `gen_db` prints in a
directory. -/
structure Host where
  moduleDir : String
  table : Table Attributes
  files : String → Option String
  dirs : List String
  creatable : String → Bool
  sipPort : String
  pidOf : String → String
  genDb : String → String
  launched : List (String × String) := []

namespace Host

/-- `file_exists`. With a directory its parents exist. -/
def fileExists (path : String) (h : Host) : Bool :=
  path ≠ "" && ((h.files path).isSome || h.dirs.any fun dir =>
    dir = path || (path.toList ++ ['/']).isPrefixOf dir.toList)

/-- `Util::mwMkdir`. -/
def mwMkdir (path : String) (h : Host) : Host :=
  if h.creatable path then { h with dirs := path :: h.dirs } else h

/-- `file_put_contents`. -/
def filePutContents (path text : String) (h : Host) : Host :=
  { h with files := Function.update h.files path (some text) }

/-- `ModuleTelegramProvider::findFirst("phone_number='$login'")`, for a login without a quote or a
backslash, which would change the condition. -/
def findFirst (login : String) (h : Host) : Option Line :=
  h.table.rows.find? fun line => line.attr .phoneNumber = some login

end Host

/-- A value in a string : `NULL` is empty. -/
def phpText (value : Option String) : String :=
  value.getD ""

/-- `strpos` finds the word. -/
def strpos (s word : String) : Bool :=
  s.toList.tails.any word.toList.isPrefixOf

theorem strpos_iff {s word : String} : strpos s word = true ↔ word.toList <:+: s.toList := by
  simp [strpos, List.infix_iff_prefix_suffix, and_comm]

/-- `preg_replace('/\D/', '', $s)`. -/
def digitsOnly (s : String) : String :=
  String.ofList (s.toList.filter Char.isDigit)

/-! ## `TelegramAuth` -/

/-- The attributes of a `TelegramAuth` that `makeSettingsFile` uses. -/
structure TelegramAuth where
  login : String := ""
  id : ℕ := 0
  workDir : String := ""
  workKeyboardDir : String := ""
  workBotDir : String := ""

/-- A `TypeError` : the id of no row is assigned to an attribute of type `int`. -/
inductive PhpError
  | typeError
  deriving DecidableEq, Repr

/-- The lines of `settings.ini`. -/
def settingsLines (port : ℕ) (numPhone sipPort apiId apiHash : String) : List String := [
  "[logging]",
  "core=1",
  "tgvoip=1",
  "pjsip=1",
  "sip_messages=true",
  "file_min_level=4",
  "tdlib=1",
  "console_min_level=1",
  "",
  "[sip]",
  "public_address=127.0.0.1",
  "port=" ++ toString port,
  "id_uri=sip:" ++ numPhone ++ "@127.0.0.1:" ++ sipPort,
  "callback_uri=sip:" ++ numPhone ++ "@127.0.0.1:" ++ sipPort,
  "raw_pcm=false",
  "thread_count=1",
  "",
  "[telegram]",
  "api_id=" ++ apiId,
  "api_hash=" ++ apiHash,
  "",
  "[other]"]

/-- `settings.ini`, with the values of a row and the phone number of a line. -/
def settingsText (sipPort numPhone : String) (settings : Line) : String :=
  String.join ((settingsLines (30000 + settings.id) numPhone sipPort
    (phpText (settings.attr .apiId)) (phpText (settings.attr .apiHash))).map (· ++ "\n"))

/-- The directory of a line. -/
def workDirOf (moduleDir numPhone : String) : String :=
  moduleDir ++ "/db/" ++ numPhone

/-- The directory of its keyboard client. -/
def keyboardDirOf (moduleDir numPhone : String) : String :=
  moduleDir ++ "/db/keyboard/" ++ numPhone

/-- The directory of the bot. -/
def botDirOf (moduleDir : String) : String :=
  moduleDir ++ "/db/keyboard/bot"

/-- The settings file of the gateway of a line. -/
def settingsFile (moduleDir numPhone : String) : String :=
  workDirOf moduleDir numPhone ++ "/settings.ini"

namespace TelegramAuth

/-- `initWorkDir`. -/
def initWorkDir (numPhone : String) (auth : TelegramAuth) (h : Host) : TelegramAuth × Host :=
  match h.findFirst auth.login with
  | none => (auth, h)
  | some _ =>
    let workDir := workDirOf h.moduleDir numPhone
    let workKeyboardDir := keyboardDirOf h.moduleDir numPhone
    let workBotDir := botDirOf h.moduleDir
    ({ auth with workDir, workKeyboardDir, workBotDir },
      ((h.mwMkdir (workKeyboardDir ++ "/database")).mwMkdir workBotDir).mwMkdir workDir)

/-- `makeSettingsFile($numPhone, true)` : the name of the file, which is empty if there is no
directory for it. -/
def makeSettingsFile (numPhone : String) (auth : TelegramAuth) (h : Host) :
    Except PhpError (String × TelegramAuth × Host) :=
  let named := if phpEmpty auth.login then { auth with login := numPhone } else auth
  let (ready, h) := initWorkDir numPhone named h
  if !h.fileExists ready.workDir then .ok ("", ready, h) else
    match h.findFirst ready.login with
    | none => .error .typeError
    | some settings =>
      let filename := ready.workDir ++ "/settings.ini"
      .ok (filename, { ready with id := settings.id },
        h.filePutContents filename (settingsText h.sipPort numPhone settings))

end TelegramAuth

end TelegramProvider
