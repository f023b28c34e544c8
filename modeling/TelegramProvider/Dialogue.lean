import TelegramProvider.Entries
import TelegramProvider.StatusFile

/-!
# The authorization of a line

`start` and `startKeyboard` run the program that authorizes a component, show what it asks for
in the status file of the component and type what is entered. The program says in the end that
it is authorized, and `checkOutput` then writes `Done`. The destructor writes `Done` too, for the
directory the object was in last, if it found a row and noted no error.

`authorized_iff` says when a status `Done` is right : up to the destructor always, and after it
exactly if it had nothing to write or the program in that directory had said so.
-/

set_option autoImplicit false

namespace TelegramProvider

open Runs Histories Records

/-- What is on record : what the program in a directory printed, what was typed into it, a status
that is written in a directory, and a launcher. -/
inductive AuthEvent
  | printed (dir text : String)
  | typed (dir text : String)
  | status (dir : String) (status : Status) (data : String)
  | launcher (id : ℕ)
  deriving DecidableEq, Repr

/-- Whether the object can be used, is only left to be destroyed, or is gone with its process. -/
inductive AuthPhase
  | ready
  | stopped
  | killed
  deriving DecidableEq, Repr

/-- A `TelegramAuth` with what it has done. -/
structure Session where
  auth : TelegramAuth := {}
  app : String := ""
  error : String := ""
  phase : AuthPhase := .ready
  trace : List AuthEvent := []

/-- One turn of the loop of a dialogue : the seconds since its start, what was read from the
program, what the user entered if there was a prompt, and then the errors that were read, whether
the program still runs, and the seconds since the start again. -/
structure Round where
  delta : ℕ
  output : String
  entered : String := ""
  errors : String := ""
  running : Bool := true
  after : ℕ := 0

namespace Session

/-! ## Status and prompts -/

def log (e : AuthEvent) (s : Session) : Session :=
  { s with trace := s.trace ++ [e] }

/-- `updateStatus`, in the directory the object is in. -/
def updateStatus (status : Status) (data : String) (s : Session) : Session :=
  s.log (.status s.auth.workDir status data)

/-- Output of the program in the directory of the object. -/
def read (text : String) (s : Session) : Session :=
  s.log (.printed s.auth.workDir text)

/-- `TelegramAuth::TEXT_ENTER_PHONE`. -/
def textEnterPhone : String := "Enter phone number:"

/-- `$expectEnd`. -/
def expectEnd : List (String × Bool) :=
  [(textAuthOk, true), ("Logging out", false), ("Closing", false), ("Terminated", false)]

/-- `$expectActions`, with the prompts of go-tdlib under the names of the others. -/
def expectActions : List (String × Option String) := [
  (textEnterPhone, none),
  ("Enter authentication code:", none),
  ("Confirm this login link on another device:", none),
  ("Enter authentication password:", none),
  ("Enter your first name:", none),
  ("Enter your last name:", none),
  ("Enter code:", some "Enter authentication code:"),
  ("Enter password:", some "Enter authentication password:")]

/-- `$absTimeout`. -/
def absTimeout : ℕ := 120

/-- `checkOutput` : the dialogue is done. -/
def checkOutput (output : String) (s : Session) : Bool × Session :=
  match expectEnd.lookup output with
  | none => (false, s)
  | some true => (true, s.updateStatus .done output)
  | some false => (false, s.updateStatus .error output)

/-- `getInputData`, which returns what was entered. -/
def getInputData (action : String) (s : Session) : Session :=
  (s.updateStatus .waitInput action).updateStatus .waitResponse ""

/-- `writeCommand`, if there is a text. -/
def writeCommand (text : String) (s : Session) : Session :=
  if phpEmpty text then s else s.log (.typed s.auth.workDir text)

/-- What `invokeAction` types for an action, asking the user for all but the phone number. -/
def answer (action entered : String) (s : Session) : Session :=
  if action = textEnterPhone then s.writeCommand (digitsOnly s.auth.login)
  else (s.getInputData action).writeCommand entered

/-- `invokeAction` : the dialogue goes on. -/
def invokeAction (r : Round) (s : Session) : Bool × Session :=
  if phpEmpty r.output then (true, s) else
    let known := expectActions.lookup r.output
    let s := if known = none then { s with error := "Unknown command received: " ++ r.output } else s
    let s := s.answer ((known.bind id).getD r.output) r.entered
    if phpEmpty r.errors then (known.isSome, s) else
      let s := { s with error := r.errors.replace "Error: error " "" }
      if phpEmpty s.error then (known.isSome, s) else (false, s.updateStatus .error s.error)

/-- The loop of a dialogue. The keyboard client's ends some seconds after the program, if
`shortens`. Without a further turn the process was killed. -/
def dialogue (shortens : Bool) : ℕ → List Round → Session → Session
  | _, [], s => { s with phase := .killed }
  | limit, r :: rounds, s =>
    let (done, s) := (s.read r.output).checkOutput r.output
    if done then s else
      let (res, s) := s.invokeAction r
      let limit := if shortens && limit = absTimeout && !r.running then r.after + 5 else limit
      if r.delta ≤ limit && res then dialogue shortens limit rounds s else s

/-! ## The uses of the object -/

/-- An exception or `exit` leaves the object to be destroyed. -/
def stop (s : Session) : Session :=
  { s with phase := .stopped }

/-- `makeSettingsFile($numPhone, true)`. -/
def makeSettingsFile (numPhone : String) (h : Host) (s : Session) : Session :=
  match s.auth.makeSettingsFile numPhone h with
  | .error _ =>
    { s with auth := { s.auth with login := if phpEmpty s.auth.login then numPhone else s.auth.login } }.stop
  | .ok (_, auth, _) => { s with auth }

/-- `makeSettingsKeyboardFile`. -/
def makeSettingsKeyboardFile (pbx : Pbx) (numPhone : String) (h : Host) (s : Session) : Session :=
  { s with auth := (s.auth.makeSettingsKeyboardFile pbx numPhone h).2.1 }

/-- `gen_db` is asked whether the line is authorized, if it has settings from before. -/
def probe (filename output : String) (h : Host) (s : Session) : Session :=
  if h.fileExists filename then ((s.read output).checkOutput output).2 else s

/-- `start`. `probed` is what `gen_db` prints when it is asked before. -/
def start (params probed : String) (rounds : List Round) (h : Host) (s : Session) : Session :=
  match s.auth.startSettings params h with
  | none => s.stop
  | some (.error _) => { s with app := "gw", auth := { s.auth with login := params } }.stop
  | some (.ok (confFile, auth, h')) =>
    let s := { s with app := "gw", auth }
    if !h'.fileExists confFile then s else
      let s := s.probe confFile probed h
      if !phpEmpty (h'.pidOf ("tg2sip -" ++ toString auth.id ++ "-")) then s else
        s.dialogue false absTimeout rounds

/-- The end of `startKeyboard` : the bot is authorized, which prints `bot`. -/
def startBot (bot : String) (s : Session) : Session :=
  let s := { s with auth := { s.auth with workDir := s.auth.workBotDir } }
  (((s.updateStatus .startAuth "").read bot).checkOutput bot).2

/-- `startKeyboard`. -/
def startKeyboard (pbx : Pbx) (params : String) (rounds : List Round) (bot : String) (h : Host)
    (s : Session) : Session :=
  match s.auth.startKeyboardSettings pbx params h with
  | none => s.stop
  | some (confKeyboardFile, auth, h') =>
    if !phpEmpty (h.pidOf ("auth_keyboard_" ++ digitsOnly params)) then
      { s with app := "user", auth := { s.auth with login := params } }
    else
      let s := { s with app := "user", auth }
      if !h'.fileExists confKeyboardFile then s else
        let s := if phpEmpty (h'.pidOf confKeyboardFile) then s.dialogue true absTimeout rounds else s
        if s.phase = .ready then s.startBot bot else s

/-- A use of the object, with the host as it is then, or output of a program that something else
has started. -/
inductive Use
  | start (params probed : String) (rounds : List Round) (h : Host)
  | startKeyboard (pbx : Pbx) (params : String) (rounds : List Round) (bot : String) (h : Host)
  | makeSettingsFile (numPhone : String) (h : Host)
  | makeSettingsKeyboardFile (pbx : Pbx) (numPhone : String) (h : Host)
  | program (dir text : String)

/-- The object after a use. -/
def use (s : Session) : Use → Session
  | .start params probed rounds h => s.start params probed rounds h
  | .startKeyboard pbx params rounds bot h => s.startKeyboard pbx params rounds bot h
  | .makeSettingsFile numPhone h => s.makeSettingsFile numPhone h
  | .makeSettingsKeyboardFile pbx numPhone h => s.makeSettingsKeyboardFile pbx numPhone h
  | .program dir text => s.log (.printed dir text)

/-- An object that was not stopped is used. -/
def Step (s : Session) (u : Use) (s' : Session) : Prop :=
  s.phase = .ready ∧ s.use u = s'

/-- `__destruct`. -/
def destruct (s : Session) : Session :=
  if s.phase = .killed then s
  else if phpEmpty s.error && 0 < s.auth.id then
    (s.updateStatus .done "").log (.launcher s.auth.id)
  else s

/-! ## The property -/

/-- The program in a directory has said that it is authorized. -/
def Said (dir : String) (pre : List AuthEvent) : Prop :=
  ∃ text, .printed dir text ∈ pre ∧ textAuthOk.toList <:+: text.toList

/-- `Done` is written only after the program has said so. -/
def Authorized (pre : List AuthEvent) : AuthEvent → Prop
  | .status dir .done _ => Said dir pre
  | _ => True

/-- The destructor has nothing to write, or the program in the directory of the object has said
that it is authorized. -/
def Warranted (s : Session) : Prop :=
  s.phase = .killed ∨ phpEmpty s.error = false ∨ s.auth.id = 0 ∨ Said s.auth.workDir s.trace

/-! ## Before the object is destroyed -/

section uses

variable {s s' : Session} {e : AuthEvent} {status : Status} {data output text action entered dir : String}
  {h : Host} {us : List Use}

/-- All that is on record is right. -/
abbrev Right (s : Session) : Prop :=
  Justified Authorized s.trace

theorem Right.log (hs : Right s) (he : Authorized s.trace e) : Right (s.log e) :=
  justified_snoc.2 ⟨hs, he⟩

theorem Right.updateStatus (hs : Right s) (hne : status ≠ .done) (data : String) :
    Right (s.updateStatus status data) := by
  refine hs.log ?_
  cases status with
  | done => exact absurd rfl hne
  | error | waitInput | waitResponse | startAuth => trivial

theorem Right.getInputData (hs : Right s) (action : String) : Right (s.getInputData action) :=
  (hs.updateStatus (by simp) action).updateStatus (by simp) ""

theorem Right.writeCommand (hs : Right s) (text : String) : Right (s.writeCommand text) := by
  unfold Session.writeCommand
  split_ifs
  · exact hs
  · exact hs.log trivial

theorem Right.answer (hs : Right s) (action entered : String) : Right (s.answer action entered) := by
  unfold Session.answer
  split_ifs
  · exact hs.writeCommand _
  · exact (hs.getInputData action).writeCommand entered

theorem Right.invokeAction (hs : Right s) (r : Round) : Right (s.invokeAction r).2 := by
  have hanswer : ∀ error action, Right ({ s with error }.answer action r.entered) :=
    fun error action => Right.answer (s := { s with error }) hs action r.entered
  have herror : ∀ s' : Session, Right s' → ∀ error, Right ({ s' with error }.updateStatus .error error) :=
    fun s' hs' error => Right.updateStatus (s := { s' with error }) hs' (by simp) error
  unfold Session.invokeAction
  dsimp only
  split_ifs
  · exact hs
  · exact hanswer _ _
  · exact hs.answer _ _
  · exact hanswer _ _
  · exact hs.answer _ _
  · exact herror _ (hanswer _ _) _
  · exact herror _ (hs.answer _ _) _

theorem eq_of_lookup (h : expectEnd.lookup output = some true) : output = textAuthOk := by
  unfold expectEnd at h
  simp only [List.lookup_cons, List.lookup_nil] at h
  split at h
  · exact eq_of_beq ‹_›
  · split at h
    · simp at h
    · split at h
      · simp at h
      · split at h <;> simp at h

/-- `Done` is written when the output that was just read says so. -/
theorem Right.checkOutput (hs : Right s) (output : String) :
    Right ((s.read output).checkOutput output).2 := by
  have hread : Right (s.read output) := hs.log trivial
  unfold Session.checkOutput
  cases hlookup : expectEnd.lookup output with
  | none => exact hread
  | some good =>
    cases good with
    | true =>
      have hok := eq_of_lookup hlookup
      refine hread.log ⟨output, ?_, ?_⟩
      · exact List.mem_append_right _ (List.mem_singleton.2 rfl)
      · rw [hok]
    | false => exact hread.updateStatus (by simp) output

theorem Right.dialogue {shortens : Bool} {limit : ℕ} {rounds : List Round} (hs : Right s) :
    Right (s.dialogue shortens limit rounds) := by
  induction rounds generalizing s limit with
  | nil => exact hs
  | cons r rounds ih =>
    unfold Session.dialogue
    dsimp only
    have hcheck := hs.checkOutput r.output
    split_ifs
    all_goals first
      | exact hcheck
      | exact ih (hcheck.invokeAction r)
      | exact hcheck.invokeAction r

theorem Right.probe (hs : Right s) (filename output : String) (h : Host) :
    Right (s.probe filename output h) := by
  unfold Session.probe
  split_ifs
  · exact hs.checkOutput output
  · exact hs

theorem Right.startBot (hs : Right s) (bot : String) : Right (s.startBot bot) := by
  unfold Session.startBot
  refine Right.checkOutput (Right.updateStatus ?_ (by simp) "") bot
  exact hs

theorem Right.start {params probed : String} {rounds : List Round} (hs : Right s) :
    Right (s.start params probed rounds h) := by
  unfold Session.start
  split
  · exact hs
  · exact hs
  · dsimp only
    split_ifs
    · exact hs
    · refine Right.probe ?_ _ _ _
      exact hs
    · refine Right.dialogue (Right.probe ?_ _ _ _)
      exact hs

theorem Right.startKeyboard {pbx : Pbx} {params bot : String} {rounds : List Round} (hs : Right s) :
    Right (s.startKeyboard pbx params rounds bot h) := by
  unfold Session.startKeyboard
  split
  · exact hs
  · dsimp only
    have hready : ∀ auth app, Right { s with auth, app } := fun _ _ => hs
    split_ifs
    · exact hs
    · exact hs
    · exact ((hready _ _).dialogue).startBot bot
    · exact (hready _ _).dialogue
    · exact (hready _ _).startBot bot
    · exact hs

/-- One use. -/
theorem Right.use (hs : Right s) (u : Use) : Right (s.use u) := by
  cases u with
  | start params probed rounds h => exact hs.start
  | startKeyboard pbx params rounds bot h => exact hs.startKeyboard
  | makeSettingsFile numPhone h =>
    unfold Session.use Session.makeSettingsFile
    dsimp only
    split
    · exact hs
    · exact hs
  | makeSettingsKeyboardFile pbx numPhone h => exact hs
  | program dir text => exact hs.log trivial

/-! ## The destructor -/

theorem right_destruct_iff (hs : Right s) : Right s.destruct ↔ Warranted s := by
  unfold Session.destruct Warranted
  split_ifs with hkilled hwrites
  · exact iff_of_true hs (Or.inl hkilled)
  · simp only [Bool.and_eq_true, decide_eq_true_eq] at hwrites
    obtain ⟨herror, hid⟩ := hwrites
    have hne : s.auth.id ≠ 0 := by omega
    simp only [hkilled, herror, hne, false_or, Bool.true_eq_false]
    refine (justified_snoc.trans (and_iff_left trivial)).trans ?_
    exact justified_snoc.trans (and_iff_right hs)
  · refine iff_of_true hs ?_
    simp only [Bool.and_eq_true, decide_eq_true_eq, not_and] at hwrites
    cases herror : phpEmpty s.error with
    | true =>
      have hid := hwrites herror
      exact Or.inr (Or.inr (Or.inl (by omega)))
    | false => exact Or.inr (Or.inl rfl)

/-- Whatever a `TelegramAuth` is used for, a component is `Done` only if its program has said so,
until the object is destroyed. After that it is so exactly if the destructor had nothing to write
or the program in the directory of the object has said so. -/
theorem authorized_iff (us : List Use) (s : Session) (h : Run Step {} us s) :
    Justified Authorized s.trace ∧ (Justified Authorized s.destruct.trace ↔ Warranted s) := by
  have hstep : ∀ s u s', Right s → Step s u s' → Right s' := by
    rintro s u s' hs ⟨-, rfl⟩
    exact hs.use u
  have hs : Right s := h.invariant Right hstep justified_nil
  exact ⟨hs, right_destruct_iff hs⟩

end uses

/-! ## A line that is authorized, and one that is not -/

/-- The directory of the line. -/
def exampleDir : String :=
  workDirOf (installed oneRow).moduleDir "79000000001"

/-- `start`, when the program prints some texts until the time is over. -/
def startWith (outputs : List (ℕ × String)) : Use :=
  .start "79000000001" "" (outputs.map fun (delta, output) => { delta, output }) (installed oneRow)

theorem authorized_iff_printed :
    Run Step {} [startWith [(0, textAuthOk)]] (({} : Session).use (startWith [(0, textAuthOk)])) ∧
      Justified Authorized (({} : Session).use (startWith [(0, textAuthOk)])).destruct.trace := by
  have hrun : Run Step {} [startWith [(0, textAuthOk)]]
      (({} : Session).use (startWith [(0, textAuthOk)])) := Run.one ⟨rfl, rfl⟩
  have hdir : (({} : Session).use (startWith [(0, textAuthOk)])).auth.workDir = exampleDir := by
    decide
  have hprinted : .printed exampleDir textAuthOk ∈
      (({} : Session).use (startWith [(0, textAuthOk)])).trace := by
    decide
  refine ⟨hrun, (authorized_iff _ _ hrun).2.2 (Or.inr (Or.inr (Or.inr ⟨textAuthOk, ?_, ?_⟩)))⟩
  · rw [hdir]
    exact hprinted
  · exact List.infix_rfl

/-- A dialogue in which nothing is said until the time is over ends with `Done`, and so does the
cron job, which only writes the settings of the line. -/
theorem unauthorized :
    (∃ s, Run Step {} [startWith [(0, ""), (121, "")]] s ∧
      ¬Justified Authorized s.destruct.trace) ∧
    ∃ s, Run Step {} [.makeSettingsFile "79000000001" (installed oneRow)] s ∧
      ¬Justified Authorized s.destruct.trace := by
  refine ⟨⟨_, Run.one ⟨rfl, rfl⟩, fun h => ?_⟩, ⟨_, Run.one ⟨rfl, rfl⟩, fun h => ?_⟩⟩
  · have htrace : (({} : Session).use (startWith [(0, ""), (121, "")])).destruct.trace =
        [.printed exampleDir "", .printed exampleDir ""] ++ .status exampleDir .done "" ::
          [.launcher 1] := by
      decide
    have hsaid : Said exampleDir [.printed exampleDir "", .printed exampleDir ""] :=
      h _ _ _ htrace
    obtain ⟨text, hmem, hok⟩ := hsaid
    obtain rfl : text = "" := by simpa using hmem
    revert hok
    decide
  · have htrace : (({} : Session).use
        (.makeSettingsFile "79000000001" (installed oneRow))).destruct.trace =
        [] ++ .status exampleDir .done "" :: [.launcher 1] := by
      decide
    have hsaid : Said exampleDir [] := h _ _ _ htrace
    obtain ⟨text, hmem, -⟩ := hsaid
    simp at hmem

end Session

end TelegramProvider
