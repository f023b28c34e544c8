import TelegramProvider.Controller
import TelegramProvider.Histories

/-!
# The status file

The worker that authorizes a component and the page that shows it talk through one file.
`updateStatus` writes it, and `getInputData` asks for a text and reads the file until there is
one. `enterCommand` puts a command into it, whatever status it has : `??` binds weaker than
`===`, so the status is not compared with anything.

`heeded_of_run` says when no command is accepted out of turn and none is lost : a command is
entered while the file asks for one and the worker will read it again, and it is text.
-/

set_option autoImplicit false

namespace TelegramProvider

open Runs Histories

/-! ## The file -/

/-- The statuses `updateStatus` writes. -/
inductive Status
  | done
  | error
  | waitInput
  | waitResponse
  | startAuth
  deriving DecidableEq, Repr

/-- The status file, decoded. A key that is not there is `none`. -/
structure Query where
  status : Option Status
  output : Option String
  data : Option String
  app : Option String
  phone : Option String
  deriving DecidableEq, Repr

/-- A string that is posted : text in UTF-8, or bytes that are not, which no JSON can hold. -/
inductive Posted
  | text (s : String)
  | bytes (bs : List UInt8)
  deriving DecidableEq, Repr

/-- What `updateStatus` writes. -/
def updateStatus (status : Status) (data app login : String) : Query where
  status := some status
  output := some data
  data := if status = .waitInput then some "" else none
  app := some app
  phone := some login

/-- `enterCommand`, from where it reads the file : the file after it, and whether it succeeded.
A file that is no JSON is an exception, and JSON that cannot be encoded is an empty file. -/
def enterCommand (command : Posted) (file : Option Query) : Option Query × Bool :=
  match file with
  | none => (none, false)
  | some query =>
    if query.status.isSome then
      match command with
      | .text s => (some { query with data := some s }, true)
      | .bytes _ => (none, true)
    else (some query, false)

namespace StatusFile

/-! ## The worker and the page -/

/-- Where the worker is : not in `getInputData`, in its loop with the action it asks for and the
text it read last, or behind the loop with the text it returns. -/
inductive Worker
  | idle
  | polling (action entered : String)
  | leaving (entered : String)
  deriving DecidableEq, Repr

/-- What is on record : a prompt, a command with the status the file had, whether it was accepted
and whether the file was changed, and the text `getInputData` returned. -/
inductive Event
  | prompted (action : String)
  | entered (command : Posted) (status : Option Status) (success changed : Bool)
  | returned (value : String)
  deriving DecidableEq, Repr

/-- The file of a component and its worker. -/
structure State where
  file : Option Query
  worker : Worker := .idle
  app : String
  login : String
  log : List Event := []

/-- The steps. A poll knows whether the time is over. -/
inductive Label
  | update (status : Status) (data : String)
  | prompt (action : String)
  | poll (timedOut : Bool)
  | leave
  | enter (command : Posted)

/-- One turn of the loop of `getInputData`. -/
def poll (timedOut : Bool) (action entered : String) (file : Option Query) : Worker :=
  match file with
  | none => .leaving entered
  | some result =>
    if result.output ≠ some action then .leaving entered else
      let entered := result.data.getD ""
      if !timedOut && phpEmpty entered then .polling action entered else .leaving entered

/-- The state after a step. -/
def next (s : State) : Label → Option State
  | .update status data =>
    if s.worker = .idle ∧ status ≠ .waitInput then
      some { s with file := some (updateStatus status data s.app s.login) }
    else none
  | .prompt action =>
    if s.worker = .idle then
      some { s with
        file := some (updateStatus .waitInput action s.app s.login)
        worker := .polling action ""
        log := s.log ++ [.prompted action] }
    else none
  | .poll timedOut =>
    match s.worker with
    | .polling action entered => some { s with worker := poll timedOut action entered s.file }
    | _ => none
  | .leave =>
    match s.worker with
    | .leaving entered => some { s with
        file := some (updateStatus .waitResponse "" s.app s.login)
        worker := .idle
        log := s.log ++ [.returned entered] }
    | _ => none
  | .enter command =>
    let (file, success) := enterCommand command s.file
    some { s with
      file
      log := s.log ++ [.entered command (s.file.bind (·.status)) success (file ≠ s.file)] }

/-- One step of the worker or of the page. -/
def Step (s : State) (l : Label) (s' : State) : Prop :=
  next s l = some s'

/-- The state in which the worker starts, with whatever the file has. -/
def start (file : Option Query) (app login : String) : State where
  file
  app
  login

/-! ## The property -/

/-- A command was accepted in `log`, and no text was returned since. -/
def Pending (command : Posted) (log since : List Event) : Prop :=
  ∃ before status changed, log = before ++ .entered command status true changed :: since ∧
    ∀ value, .returned value ∉ since

/-- An accepted command is the value, or a later command of the same prompt is. -/
def Answers (log : List Event) (value : String) : Prop :=
  ∀ command since, Pending command log since → command ≠ .text "" →
    (∀ action, .prompted action ∉ since) ∧
      (command = .text value ∨ ∃ status changed, .entered (.text value) status true changed ∈ since)

/-- A command is accepted, and the file changed, only while the file asks for one. A text that is
returned answers the commands that were accepted. -/
def Heeded (log : List Event) : Event → Prop
  | .prompted _ => True
  | .entered _ status success changed =>
    status = some .waitInput ∨ (success = false ∧ changed = false)
  | .returned value => Answers log value

/-- The worker takes the command : it is text that will be read, or what was just read. -/
def Worker.hears (command : Posted) : Worker → Bool
  | .idle => false
  | .polling _ _ =>
    match command with
    | .text _ => true
    | .bytes _ => false
  | .leaving entered => command = .text entered

/-- A command is not accepted, or the file asks for one, and the command is empty or the worker
takes it. -/
def Timely (s : State) : Label → Prop
  | .enter command =>
    (s.file.bind (·.status)) = none ∨ ((s.file.bind (·.status)) = some .waitInput ∧
      (command = .text "" ∨ s.worker.hears command = true))
  | _ => True

instance (s : State) : (l : Label) → Decidable (Timely s l)
  | .enter _ => inferInstanceAs (Decidable (_ ∨ _))
  | .update _ _ | .prompt _ | .poll _ | .leave => inferInstanceAs (Decidable True)

/-! ## What is pending -/

section pending

variable {log since : List Event} {command : Posted} {e : Event} {value text action : String}
  {status : Option Status} {success changed : Bool}

/-- With one more event, what is pending is the event, or was pending before it. -/
theorem Pending.of_snoc (h : Pending command (log ++ [e]) since) :
    (since = [] ∧ ∃ status changed, e = .entered command status true changed) ∨
      ((∀ value, e ≠ .returned value) ∧
        ∃ since', since = since' ++ [e] ∧ Pending command log since') := by
  obtain ⟨before, status, changed, hlog, hsince⟩ := h
  rcases split_snoc hlog with ⟨-, he, rfl⟩ | ⟨since', rfl, hlog'⟩
  · exact Or.inl ⟨rfl, status, changed, he⟩
  · refine Or.inr ⟨fun value he => hsince value (by simp [he]), since', by simp, before, status,
      changed, hlog', fun value hmem => hsince value (by simp [hmem])⟩

/-- Only empty commands wait for an answer. -/
def Quiet (log : List Event) : Prop :=
  ∀ command since, Pending command log since → command = .text ""

theorem quiet_nil : Quiet [] := by
  rintro command since ⟨before, status, changed, hlog, -⟩
  simp at hlog

theorem quiet_returned (log : List Event) (value : String) : Quiet (log ++ [.returned value]) := by
  intro command since h
  rcases h.of_snoc with ⟨-, status, changed, he⟩ | ⟨hne, -⟩
  · simp at he
  · exact absurd rfl (hne value)

theorem Quiet.entered (h : Quiet log) (hcommand : success = true → command = .text "") :
    Quiet (log ++ [.entered command status success changed]) := by
  intro other since hpending
  rcases hpending.of_snoc with ⟨-, status', changed', he⟩ | ⟨-, since', -, hold⟩
  · simp only [Event.entered.injEq] at he
    exact he.1 ▸ hcommand he.2.2.1
  · exact h _ _ hold

/-- A new prompt is not answered yet. -/
theorem Quiet.prompted (h : Quiet log) (action value : String) :
    Answers (log ++ [.prompted action]) value := by
  intro command since hpending hne
  rcases hpending.of_snoc with ⟨-, status, changed, he⟩ | ⟨-, since', -, hold⟩
  · simp at he
  · exact absurd (h _ _ hold) hne

/-- A command that is not accepted changes nothing. -/
theorem Answers.refused (h : Answers log value) :
    Answers (log ++ [.entered command status false changed]) value := by
  intro other since hpending hne
  rcases hpending.of_snoc with ⟨-, status', changed', he⟩ | ⟨-, since', rfl, hold⟩
  · simp at he
  · obtain ⟨hprompt, hvalue⟩ := h _ _ hold hne
    refine ⟨fun action hmem => hprompt action (by simpa using hmem), hvalue.imp_right ?_⟩
    rintro ⟨status', changed', hmem⟩
    exact ⟨status', changed', List.mem_append_left _ hmem⟩

/-- A text that is accepted is the answer. -/
theorem Answers.accepted (h : Answers log value) :
    Answers (log ++ [.entered (.text text) status true changed]) text := by
  intro other since hpending hne
  rcases hpending.of_snoc with ⟨rfl, status', changed', he⟩ | ⟨-, since', rfl, hold⟩
  · simp only [Event.entered.injEq] at he
    exact ⟨by simp, Or.inl he.1.symm⟩
  · obtain ⟨hprompt, -⟩ := h _ _ hold hne
    exact ⟨fun action hmem => hprompt action (by simpa using hmem),
      Or.inr ⟨status, changed, by simp⟩⟩

/-- An empty command, or once more the text that was read, leaves the answer as it is. -/
theorem Answers.repeated (h : Answers log value)
    (hcommand : command = .text "" ∨ command = .text value) :
    Answers (log ++ [.entered command status success changed]) value := by
  intro other since hpending hne
  rcases hpending.of_snoc with ⟨rfl, status', changed', he⟩ | ⟨-, since', rfl, hold⟩
  · simp only [Event.entered.injEq] at he
    refine ⟨by simp, Or.inl ?_⟩
    exact (hcommand.resolve_left fun hempty => hne (he.1 ▸ hempty)) ▸ he.1.symm
  · obtain ⟨hprompt, hvalue⟩ := h _ _ hold hne
    refine ⟨fun action hmem => hprompt action (by simpa using hmem), hvalue.imp_right ?_⟩
    rintro ⟨status', changed', hmem⟩
    exact ⟨status', changed', List.mem_append_left _ hmem⟩

end pending

/-! ## Every run -/

/-- What waits for an answer : nothing while the worker is idle, what the file has while it polls,
and what it read when it leaves. -/
def Waits (s : State) : Prop :=
  match s.worker with
  | .idle => Quiet s.log
  | .polling action _ => ∃ query, s.file = some query ∧ query.status = some .waitInput ∧
      query.output = some action ∧ Answers s.log (query.data.getD "")
  | .leaving entered => Answers s.log entered

/-- What every step keeps. -/
structure Inv (s : State) : Prop where
  heeded : Justified Heeded s.log
  waits : Waits s

section steps

variable {s s' : State} {l : Label} {ls : List Label} {status : Status} {action data : String}
  {timedOut : Bool} {command : Posted} {file : Option Query}

theorem inv_start (file : Option Query) (app login : String) : Inv (start file app login) :=
  ⟨justified_nil, quiet_nil⟩

theorem Inv.update (h : Inv s) (hstep : Step s (.update status data) s') : Inv s' := by
  unfold Step next at hstep
  dsimp only at hstep
  split_ifs at hstep with hidle
  obtain rfl := Option.some.inj hstep
  refine ⟨h.heeded, ?_⟩
  have hwaits := h.waits
  simp only [Waits, hidle.1] at hwaits ⊢
  exact hwaits

theorem Inv.prompt (h : Inv s) (hstep : Step s (.prompt action) s') : Inv s' := by
  unfold Step next at hstep
  dsimp only at hstep
  split_ifs at hstep with hidle
  obtain rfl := Option.some.inj hstep
  have hquiet : Quiet s.log := by
    have hwaits := h.waits
    simpa only [Waits, hidle] using hwaits
  exact ⟨justified_snoc.2 ⟨h.heeded, trivial⟩, _, rfl, rfl, rfl, hquiet.prompted action _⟩

theorem Inv.poll (h : Inv s) (hstep : Step s (.poll timedOut) s') : Inv s' := by
  unfold Step next at hstep
  dsimp only at hstep
  split at hstep
  · rename_i action entered hworker
    obtain rfl := Option.some.inj hstep
    refine ⟨h.heeded, ?_⟩
    have hwaits := h.waits
    simp only [Waits, hworker] at hwaits
    obtain ⟨query, hfile, hstatus, houtput, hanswers⟩ := hwaits
    unfold Waits StatusFile.poll
    simp only [hfile, houtput, ne_eq, not_true_eq_false, if_false]
    split_ifs
    · exact ⟨query, rfl, hstatus, houtput, hanswers⟩
    · exact hanswers
  · simp at hstep

theorem Inv.leave (h : Inv s) (hstep : Step s .leave s') : Inv s' := by
  unfold Step next at hstep
  dsimp only at hstep
  split at hstep
  · rename_i entered hworker
    obtain rfl := Option.some.inj hstep
    have hwaits := h.waits
    simp only [Waits, hworker] at hwaits
    exact ⟨justified_snoc.2 ⟨h.heeded, hwaits⟩, quiet_returned s.log entered⟩
  · simp at hstep

theorem enterCommand_of_none (h : (file.bind (·.status)) = none) :
    enterCommand command file = (file, false) := by
  cases file with
  | none => rfl
  | some query =>
    have hstatus : query.status = none := h
    simp [enterCommand, hstatus]

theorem enterCommand_text {query : Query} {text : String} (h : query.status = some .waitInput) :
    enterCommand (.text text) (some query) = (some { query with data := some text }, true) := by
  simp [enterCommand, h]

theorem step_enter (h : Step s (.enter command) s') : ∃ success,
    enterCommand command s.file = (s'.file, success) ∧ s'.worker = s.worker ∧
      s'.log = s.log ++ [.entered command (s.file.bind (·.status)) success (s'.file ≠ s.file)] := by
  obtain rfl := Option.some.inj h
  exact ⟨_, rfl, rfl, rfl⟩

/-- A command that is refused leaves the file. -/
theorem Inv.refuse (h : Inv s) (hnone : (s.file.bind (·.status)) = none)
    (hstep : Step s (.enter command) s') : Inv s' := by
  obtain ⟨success, henter, hworker, hlog⟩ := step_enter hstep
  rw [enterCommand_of_none hnone] at henter
  obtain ⟨hfile, rfl⟩ := Prod.mk.inj henter
  refine ⟨hlog ▸ justified_snoc.2 ⟨h.heeded, Or.inr ⟨rfl, by simp [← hfile]⟩⟩, ?_⟩
  have hwaits := h.waits
  unfold Waits at hwaits ⊢
  rw [hworker, hlog]
  cases hw : s.worker with
  | idle =>
    simp only [hw] at hwaits ⊢
    exact hwaits.entered (by simp)
  | polling action entered =>
    simp only [hw] at hwaits ⊢
    obtain ⟨query, hquery, hstatus, -⟩ := hwaits
    simp [hquery, hstatus] at hnone
  | leaving entered =>
    simp only [hw] at hwaits ⊢
    exact hwaits.refused

/-- A command that the file asks for, and the worker will read or does not miss. -/
theorem Inv.accept (h : Inv s) (hwait : (s.file.bind (·.status)) = some .waitInput)
    (hcommand : command = .text "" ∨ s.worker.hears command = true)
    (hstep : Step s (.enter command) s') : Inv s' := by
  obtain ⟨success, henter, hworker, hlog⟩ := step_enter hstep
  refine ⟨hlog ▸ justified_snoc.2 ⟨h.heeded, Or.inl hwait⟩, ?_⟩
  have hwaits := h.waits
  unfold Waits at hwaits ⊢
  rw [hworker, hlog]
  cases hw : s.worker with
  | idle =>
    rw [hw] at hcommand
    simp only [hw] at hwaits ⊢
    exact hwaits.entered fun _ => hcommand.resolve_right (by simp [Worker.hears])
  | polling action entered =>
    rw [hw] at hcommand
    simp only [hw] at hwaits ⊢
    obtain ⟨query, hquery, hstatus, houtput, hanswers⟩ := hwaits
    obtain ⟨text, rfl⟩ : ∃ text, command = .text text := by
      cases command with
      | text text => exact ⟨text, rfl⟩
      | bytes bs => simp [Worker.hears] at hcommand
    rw [hquery, enterCommand_text hstatus] at henter
    obtain ⟨hfile, rfl⟩ := Prod.mk.inj henter
    exact ⟨_, hfile.symm, hstatus, houtput, hanswers.accepted⟩
  | leaving entered =>
    rw [hw] at hcommand
    simp only [hw] at hwaits ⊢
    exact hwaits.repeated (hcommand.imp_right fun hsame => by simpa [Worker.hears] using hsame)

/-- One step. -/
theorem Inv.step (h : Inv s) (hstep : Restrict Step Timely s l s') : Inv s' := by
  obtain ⟨hstep, htimely⟩ := hstep
  cases l with
  | update status data => exact h.update hstep
  | prompt action => exact h.prompt hstep
  | poll timedOut => exact h.poll hstep
  | leave => exact h.leave hstep
  | enter command =>
    rcases htimely with hnone | ⟨hwait, hcommand⟩
    · exact h.refuse hnone hstep
    · exact h.accept hwait hcommand hstep

/-- In every run whose commands are timely, a command is accepted only while the file asks for
one, and a command that is accepted is the answer, or a later one of the same prompt is. -/
theorem heeded_of_run {app login : String}
    (h : Run (Restrict Step Timely) (start file app login) ls s) : Justified Heeded s.log :=
  (h.invariant Inv (fun _ _ _ hinv hstep => hinv.step hstep) (inv_start file app login)).heeded

end steps

/-- One call keeps to its turn exactly if the file has no status or asks for a command. -/
theorem enterCommand_inTurn_iff (command : Posted) (file : Option Query) :
    ((file.bind (·.status)) = some .waitInput ∨
      ((enterCommand command file).2 = false ∧ (enterCommand command file).1 = file)) ↔
      (file.bind (·.status)) = none ∨ (file.bind (·.status)) = some .waitInput := by
  cases hstatus : (file.bind (·.status)) with
  | none => simp [enterCommand_of_none hstatus]
  | some status =>
    obtain ⟨query, rfl, hquery⟩ := Option.bind_eq_some_iff.1 hstatus
    have hsuccess : (enterCommand command (some query)).2 = true := by
      cases command <;> simp [enterCommand, hquery]
    simp [hsuccess]

/-! ## Codes that come in time, too early and too late -/

/-- The start of a worker that has no status file yet. -/
def fresh : State :=
  start none "gw" "79000000001"

/-- A code is asked for and entered. -/
def inTime : List Label :=
  [.prompt "Enter authentication code:", .poll false, .enter (.text "12345"), .poll false, .leave]

theorem heeded_of_run_inTime : (exec (guarded Timely next) fresh inTime).isSome = true ∧
    ∀ s, exec (guarded Timely next) fresh inTime = some s → Justified Heeded s.log :=
  ⟨by decide, fun _ h => heeded_of_run (Run.of_guarded (fun _ _ _ hnext => hnext) h)⟩

/-- A command is accepted although the component is authorized; one that comes after the last
reading is lost, and so is one that is no UTF-8. -/
theorem unheeded :
    (∃ s, Run Step fresh [.update .done "Authorization OK", .enter (.text "12345")] s ∧
      ¬Justified Heeded s.log) ∧
    (∃ s, Run Step fresh [.prompt "Enter authentication code:", .poll true, .enter (.text "12345"),
      .leave] s ∧ ¬Justified Heeded s.log) ∧
    ∃ s, Run Step fresh [.prompt "Enter authentication code:", .enter (.bytes [255]), .poll false,
      .leave] s ∧ ¬Justified Heeded s.log := by
  have hnext : ∀ s l s', next s l = some s' → Step s l s' := fun _ _ _ h => h
  refine ⟨⟨_, Run.of_exec hnext rfl, fun h => ?_⟩, ⟨_, Run.of_exec hnext rfl, fun h => ?_⟩,
    ⟨_, Run.of_exec hnext rfl, fun h => ?_⟩⟩
  · have hturn := h [] (.entered (.text "12345") (some .done) true true) [] rfl
    simp [Heeded] at hturn
  · have hanswer : Answers _ "" := h [.prompted "Enter authentication code:",
      .entered (.text "12345") (some .waitInput) true true] (.returned "") [] rfl
    obtain ⟨-, hvalue⟩ := hanswer (.text "12345") []
      ⟨[.prompted "Enter authentication code:"], _, _, rfl, by simp⟩ (by simp)
    simp at hvalue
  · have hanswer : Answers _ "" := h [.prompted "Enter authentication code:",
      .entered (.bytes [255]) (some .waitInput) true true] (.returned "") [] rfl
    obtain ⟨-, hvalue⟩ := hanswer (.bytes [255]) []
      ⟨[.prompted "Enter authentication code:"], _, _, rfl, by simp⟩ (by simp)
    simp at hvalue

end StatusFile

end TelegramProvider
