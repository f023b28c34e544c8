import TelegramProvider.Dialogue

/-!
# The prompts of a dialogue

A turn of a dialogue reads what the program prints. `checkOutput` looks it up among the texts the
program ends with, and `invokeAction` among its prompts. An output that is neither is noted as an
error, and then the user is asked for it all the same : the branch that notes the error does not
return.

`handled_iff` says which outputs are handled as they should be : the prompts, where there is
one line to type, and the texts that need no answer.
-/

set_option autoImplicit false

namespace TelegramProvider

namespace Session

/-! ## A turn -/

/-- The body of the loop : whether it goes on, if the dialogue is not done. -/
def turn (r : Round) (s : Session) : Option Bool × Session :=
  let (done, s) := s.checkOutput r.output
  if done then (none, s) else
    let (res, s) := s.invokeAction r
    (some res, s)

/-- A dialogue takes one turn after the other. -/
theorem dialogue_cons (shortens : Bool) (limit : ℕ) (r : Round) (rounds : List Round)
    (s : Session) : s.dialogue shortens limit (r :: rounds) =
      match (s.read r.output).turn r with
      | (none, s') => s'
      | (some res, s') =>
        let limit' := if shortens && limit = absTimeout && !r.running then r.after + 5 else limit
        if r.delta ≤ limit' && res then s'.dialogue shortens limit' rounds else s' := by
  rw [dialogue, turn]
  cases (s.read r.output).checkOutput r.output with
  | mk done s' => cases done <;> rfl

/-- The canonical text of a prompt. -/
def prompt (output : String) : Option String :=
  (expectActions.lookup output).map (·.getD output)

/-- The texts that are typed. -/
def typedIn (obs : List AuthEvent) : List String :=
  obs.filterMap fun
    | .typed _ text => some text
    | _ => none

/-- The texts the user is asked for. -/
def promptsIn (obs : List AuthEvent) : List String :=
  obs.filterMap fun
    | .status _ .waitInput action => some action
    | _ => none

/-- The statuses that are written. -/
def statusesIn (obs : List AuthEvent) : List Status :=
  obs.filterMap fun
    | .status _ status _ => some status
    | _ => none

/-- A turn ends the dialogue with a failure : nothing is typed, the user is asked for nothing, and
the status that is left is `Error`. -/
structure Rejected (s : Session) (result : Option Bool × Session) : Prop where
  fails : result.1 = some false
  record : ∃ obs, result.2.trace = s.trace ++ obs ∧ typedIn obs = [] ∧ promptsIn obs = [] ∧
    (statusesIn obs).getLast? = some .error

/-- A turn asks the user once, under the text of a prompt, or types the digits of the login, and
types one line at most. -/
def Asked (action : String) (s : Session) (result : Option Bool × Session) : Prop :=
  ∃ obs, result.2.trace = s.trace ++ obs ∧
    (if action = textEnterPhone then promptsIn obs = [] ∧ typedIn obs = [digitsOnly s.auth.login]
      else promptsIn obs = [action]) ∧
    (typedIn obs).length ≤ 1 ∧ ∀ line ∈ typedIn obs, '\n' ∉ line.toList

/-- A turn handles its output : a prompt is asked for, and any other text is rejected but the one of
the end and the empty one. -/
def Handled (r : Round) (s : Session) : Prop :=
  match prompt r.output with
  | some action => Asked action s (s.turn r)
  | none => r.output ≠ "" → r.output ≠ textAuthOk → Rejected s (s.turn r)

/-! ## What is on record behind a turn -/

section turn

variable {s : Session} {r : Round} {obs obs' : List AuthEvent} {action entered output text : String}

@[simp] theorem typedIn_append : typedIn (obs ++ obs') = typedIn obs ++ typedIn obs' :=
  List.filterMap_append

@[simp] theorem promptsIn_append : promptsIn (obs ++ obs') = promptsIn obs ++ promptsIn obs' :=
  List.filterMap_append

/-- What `writeCommand` adds to the record. -/
def commandEvents (text : String) (s : Session) : List AuthEvent :=
  if phpEmpty text then [] else [.typed s.auth.workDir text]

/-- What `answer` adds. -/
def answerEvents (action entered : String) (s : Session) : List AuthEvent :=
  if action = textEnterPhone then s.commandEvents (digitsOnly s.auth.login)
  else [.status s.auth.workDir .waitInput action, .status s.auth.workDir .waitResponse ""] ++
    s.commandEvents entered

/-- Only the status `Error` is written, at most. -/
def OnlyErrors (obs : List AuthEvent) : Prop :=
  obs = [] ∨ ∃ dir data, obs = [.status dir .error data]

theorem writeCommand_trace : (s.writeCommand text).trace = s.trace ++ s.commandEvents text := by
  unfold writeCommand commandEvents
  split_ifs
  · rw [List.append_nil]
  · rfl

theorem answer_trace :
    (s.answer action entered).trace = s.trace ++ s.answerEvents action entered := by
  unfold answer answerEvents
  split_ifs
  · exact writeCommand_trace
  · have hcommand : ((s.getInputData action).writeCommand entered).trace = _ := writeCommand_trace
    rw [hcommand, ← List.append_assoc]
    exact congrArg (· ++ s.commandEvents entered) (List.append_assoc s.trace _ _)

theorem OnlyErrors.typedIn (h : OnlyErrors obs) : typedIn obs = [] := by
  rcases h with rfl | ⟨dir, data, rfl⟩ <;> rfl

theorem OnlyErrors.promptsIn (h : OnlyErrors obs) : promptsIn obs = [] := by
  rcases h with rfl | ⟨dir, data, rfl⟩ <;> rfl

/-- `invokeAction` asks for what it read, known or not, and may write an error. -/
theorem invokeAction_of_output (houtput : phpEmpty r.output = false) (s : Session) :
    ∃ errors, OnlyErrors errors ∧ (s.invokeAction r).2.trace =
      s.trace ++ (s.answerEvents ((prompt r.output).getD r.output) r.entered ++ errors) := by
  have hprompt : ((expectActions.lookup r.output).bind id).getD r.output =
      (prompt r.output).getD r.output := by
    unfold prompt
    rcases expectActions.lookup r.output with _ | _ | _ <;> rfl
  unfold invokeAction
  rw [houtput]
  simp only [Bool.false_eq_true, if_false, hprompt]
  generalize hs : (if expectActions.lookup r.output = none then
    { s with error := "Unknown command received: " ++ r.output } else s) = s₁
  have htrace : (s₁.answer ((prompt r.output).getD r.output) r.entered).trace =
      s.trace ++ s.answerEvents ((prompt r.output).getD r.output) r.entered := by
    rw [answer_trace, ← hs]
    split_ifs <;> rfl
  split_ifs
  · exact ⟨[], Or.inl rfl, by rw [List.append_nil]; exact htrace⟩
  · exact ⟨[], Or.inl rfl, by rw [List.append_nil]; exact htrace⟩
  · exact ⟨_, Or.inr ⟨_, _, rfl⟩, by rw [← List.append_assoc, ← htrace]; rfl⟩

/-- Only the text of the end ends the dialogue before the output is asked for. -/
theorem checkOutput_of_ne (hne : output ≠ textAuthOk) (s : Session) :
    ∃ s' errors, s.checkOutput output = (false, s') ∧ s'.auth = s.auth ∧ OnlyErrors errors ∧
      s'.trace = s.trace ++ errors := by
  unfold checkOutput
  cases hlookup : expectEnd.lookup output with
  | none => exact ⟨s, [], rfl, rfl, Or.inl rfl, (List.append_nil _).symm⟩
  | some good =>
    cases good with
    | true => exact absurd (eq_of_lookup hlookup) hne
    | false => exact ⟨_, _, rfl, rfl, Or.inr ⟨_, _, rfl⟩, rfl⟩

/-- A turn asks for what it read, known or not. -/
theorem turn_of_output (hne : r.output ≠ textAuthOk) (houtput : phpEmpty r.output = false)
    (s : Session) : ∃ ended errors, OnlyErrors ended ∧ OnlyErrors errors ∧
      (s.turn r).2.trace = s.trace ++
        (ended ++ (s.answerEvents ((prompt r.output).getD r.output) r.entered ++ errors)) := by
  obtain ⟨s', ended, hcheck, hauth, hended, htrace'⟩ := checkOutput_of_ne hne s
  obtain ⟨errors, herrors, htrace⟩ := invokeAction_of_output houtput s'
  have hevents :
      ∀ action entered, s'.answerEvents action entered = s.answerEvents action entered := by
    intro action entered
    simp only [answerEvents, commandEvents, hauth]
  refine ⟨ended, errors, hended, herrors, ?_⟩
  rw [turn, hcheck, ← List.append_assoc, ← htrace', ← hevents]
  exact htrace

/-- A prompt is no text of the end. -/
theorem of_prompt (h : prompt output = some action) :
    output ≠ textAuthOk ∧ phpEmpty output = false := by
  have hall : ∀ p ∈ expectActions, p.1 ≠ textAuthOk ∧ phpEmpty p.1 = false := by decide
  obtain ⟨canonical, hlookup, -⟩ := Option.map_eq_some_iff.1 h
  obtain ⟨l₁, l₂, hsplit, -⟩ := List.lookup_eq_some_iff.1 hlookup
  exact hall (output, canonical) (by rw [hsplit]; simp)

theorem newline_notMem_of_phpEmpty (h : phpEmpty text = true) : '\n' ∉ text.toList := by
  unfold phpEmpty at h
  rw [Bool.or_eq_true, decide_eq_true_eq, decide_eq_true_eq] at h
  rcases h with rfl | rfl <;> decide

theorem newline_notMem_digitsOnly (login : String) : '\n' ∉ (digitsOnly login).toList := by
  intro hmem
  rw [digitsOnly, String.toList_ofList] at hmem
  exact absurd (List.mem_filter.1 hmem).2 (by decide)

theorem typedIn_commandEvents :
    typedIn (s.commandEvents text) = if phpEmpty text then [] else [text] := by
  unfold commandEvents
  split_ifs <;> rfl

theorem promptsIn_answerEvents :
    promptsIn (s.answerEvents action entered) =
      if action = textEnterPhone then [] else [action] := by
  have hcommand : ∀ text, promptsIn (s.commandEvents text) = [] := by
    intro text
    unfold commandEvents
    split_ifs <;> rfl
  unfold answerEvents
  split_ifs
  · exact hcommand _
  · rw [promptsIn_append, hcommand]
    rfl

theorem typedIn_answerEvents_phone : typedIn (s.answerEvents textEnterPhone entered) =
    if phpEmpty (digitsOnly s.auth.login) then [] else [digitsOnly s.auth.login] := by
  rw [answerEvents, if_pos rfl, typedIn_commandEvents]

theorem typedIn_answerEvents (hne : action ≠ textEnterPhone) :
    typedIn (s.answerEvents action entered) = if phpEmpty entered then [] else [entered] := by
  rw [answerEvents, if_neg hne, typedIn_append, typedIn_commandEvents]
  rfl

/-- A prompt is asked for. It is up to what is typed then whether that is done as it should be. -/
theorem asked_turn_iff_typed (h : prompt r.output = some action) (s : Session) :
    Asked action s (s.turn r) ↔
      (action = textEnterPhone →
        typedIn (s.answerEvents action r.entered) = [digitsOnly s.auth.login]) ∧
      (typedIn (s.answerEvents action r.entered)).length ≤ 1 ∧
        ∀ line ∈ typedIn (s.answerEvents action r.entered), '\n' ∉ line.toList := by
  obtain ⟨hne, houtput⟩ := of_prompt h
  obtain ⟨ended, errors, hended, herrors, htrace⟩ := turn_of_output hne houtput s
  rw [h, Option.getD_some] at htrace
  have htyped : typedIn (ended ++ (s.answerEvents action r.entered ++ errors)) =
      typedIn (s.answerEvents action r.entered) := by
    simp [hended.typedIn, herrors.typedIn]
  have hprompts : promptsIn (ended ++ (s.answerEvents action r.entered ++ errors)) =
      if action = textEnterPhone then [] else [action] := by
    simp [hended.promptsIn, herrors.promptsIn, promptsIn_answerEvents]
  rw [← htyped]
  constructor
  · rintro ⟨obs, hobs, hasked, hrest⟩
    rw [htrace] at hobs
    obtain rfl := List.append_cancel_left hobs
    refine ⟨fun hphone => ?_, hrest⟩
    rw [if_pos hphone] at hasked
    exact hasked.2
  · rintro ⟨hdigits, hrest⟩
    refine ⟨_, htrace, ?_, hrest⟩
    rw [hprompts]
    split_ifs with hphone
    · exact ⟨rfl, hdigits hphone⟩
    · rfl

/-- What a prompt asks for is handled where there is one line to type. -/
theorem asked_turn_iff (h : prompt r.output = some action) (s : Session) :
    Asked action s (s.turn r) ↔
      if action = textEnterPhone then phpEmpty (digitsOnly s.auth.login) = false
      else '\n' ∉ r.entered.toList := by
  rw [asked_turn_iff_typed h]
  by_cases hphone : action = textEnterPhone
  · -- the digits are typed unless there are none to speak of
    rw [if_pos hphone, hphone, typedIn_answerEvents_phone]
    cases hempty : phpEmpty (digitsOnly s.auth.login) with
    | true => simp
    | false => simp [newline_notMem_digitsOnly]
  · rw [if_neg hphone, typedIn_answerEvents hphone]
    cases hempty : phpEmpty r.entered with
    | true => simp [hphone, newline_notMem_of_phpEmpty hempty]
    | false => simp [hphone]

/-- An output that is no prompt is not rejected, unless there is nothing to do. -/
theorem not_rejected (h : prompt r.output = none) (hne : r.output ≠ textAuthOk) (s : Session) :
    ¬Rejected s (s.turn r) := by
  rintro ⟨hfails, obs, hobs, -, hasked, -⟩
  cases houtput : phpEmpty r.output with
  | true =>
    -- `0` is empty, and the dialogue goes on
    obtain ⟨s', ended, hcheck, -⟩ := checkOutput_of_ne hne s
    simp [turn, hcheck, invokeAction, houtput] at hfails
  | false =>
    obtain ⟨ended, errors, -, -, htrace⟩ := turn_of_output hne houtput s
    have hphone : r.output ≠ textEnterPhone := by
      intro heq
      rw [heq] at h
      exact absurd h (by decide)
    rw [h, Option.getD_none, hobs] at htrace
    obtain rfl := List.append_cancel_left htrace
    simp [promptsIn_answerEvents, hphone] at hasked

/-- A turn handles its output just when it is a prompt with one line to type, the text of the end,
or nothing. -/
theorem handled_iff (r : Round) (s : Session) : Handled r s ↔
    match prompt r.output with
    | some action => if action = textEnterPhone then phpEmpty (digitsOnly s.auth.login) = false
      else '\n' ∉ r.entered.toList
    | none => r.output = "" ∨ r.output = textAuthOk := by
  unfold Handled
  cases hprompt : prompt r.output with
  | some action => exact asked_turn_iff hprompt s
  | none =>
    constructor
    · intro h
      by_contra hnot
      obtain ⟨hempty, hok⟩ := not_or.1 hnot
      exact not_rejected hprompt hok s (h hempty hok)
    · rintro (h | h) hempty hok
      · exact absurd h hempty
      · exact absurd h hok

end turn

/-- When the program says that it closes, the user is asked for `Closing`. -/
theorem not_handled_closing :
    ¬Handled { delta := 0, output := "Closing" } { auth := { login := "79000000001" } } := by
  have hprompt : prompt "Closing" = none := by decide
  intro h
  unfold Handled at h
  rw [hprompt] at h
  exact not_rejected hprompt (by decide) _ (h (by decide) (by decide))

end Session

end TelegramProvider
