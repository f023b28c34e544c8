import TelegramProvider.Cron
import TelegramProvider.Runs

/-!
# Launchers that restart a line

A change of a row or of the SIP port starts `sip2tg-launcher.php restart`, with the id of the row
or the name of the setting. The launcher stops if it sees another whose command line has
`restart 1`, kills the programs whose titles have the id, waits for them sixteen times at most,
and starts what is missing.

Many launchers may be at work, and programs start and end at any time. `restarted_of_run` says
when no program from before a change is left : the titles that are killed are those of the
programs that depend on the change, and a launcher that leaves early leaves the rest to another
of the same row.
-/

set_option autoImplicit false

namespace TelegramProvider

open Runs Records Host

/-! ## What a change concerns -/

def gatewayTitle (id : String) : String := "tg2sip -" ++ id ++ "-"

def clientTitle (id : String) : String := "td-keyboard=" ++ id ++ "-"

def botTitle : String := "td-keyboard=bot-"

/-- The titles a launcher kills. -/
def killTitles (id : String) : List String :=
  [gatewayTitle id, clientTitle id, botTitle]

/-- A change `modelsEventChangeData` acts on : of the row with an id, or of the SIP port. -/
inductive Change
  | record (id : ℕ)
  | sipPort
  deriving DecidableEq, Repr

/-- `$data['recordId']`. -/
def Change.recordId : Change → String
  | .record id => toString id
  | .sipPort => "SIPPort"

namespace Host

/-- The titles of the programs whose settings depend on a row : those of its line, and of the lines
whose settings are taken from it. `login` is the one `startSipTg` comes with. -/
def dependents (id : ℕ) (h : Host) : String → List Line → List String
  | _, [] => []
  | login, line :: rows =>
    let login := if phpEmpty login then digitsOf line else login
    (if line.id = id ∨ (h.findFirst login).any (·.id = id) then [gatewayTitle (toString line.id)]
      else []) ++
    (if line.id = id ∨ (h.findFirst (digitsOf line)).any (·.id = id) then
      [clientTitle (toString line.id)] else []) ++
    dependents id h login rows

/-- The titles of the programs whose settings depend on what changed. The bot has settings of a
line, and the port is in the settings of the gateways. -/
def affected (h : Host) : Change → List String
  | .record id => botTitle :: h.dependents id "" h.table.rows
  | .sipPort => h.table.rows.map fun line => gatewayTitle (toString line.id)

end Host

namespace Launchers

/-! ## Programs and launchers -/

/-- A program that runs : whether it ran before the change, and whether it was sent a signal. -/
structure Program where
  pid : ℕ
  command : String
  old : Bool
  signalled : Bool := false
  deriving DecidableEq, Repr

/-- Where a launcher is : before it looks for others, at its kills with the titles that are left and
the times it has looked after the last signal, or behind them. -/
inductive Stage
  | check
  | killing (titles : List String) (polls : Option ℕ)
  | starting
  deriving DecidableEq, Repr

structure Launcher where
  pid : ℕ
  id : String
  stage : Stage := .check
  deriving DecidableEq, Repr

/-- The processes of the host. `script` is how the launchers are called. -/
structure State where
  script : String
  programs : List Program
  launchers : List Launcher
  nextPid : ℕ

/-- The command line of a launcher. -/
def Launcher.command (script : String) (l : Launcher) : String :=
  script ++ "sip2tg-launcher.php restart " ++ l.id

/-- `Processes::getPidOfProcess` finds a process other than the caller. -/
def getPidOfProcess (title : String) (caller : ℕ) (s : State) : Bool :=
  (s.programs.any fun p => strpos p.command title) ||
    s.launchers.any fun l => l.pid ≠ caller && strpos (l.command s.script) title

/-- `kill`, to the programs a title finds. -/
def kill (title : String) (s : State) : State :=
  { s with programs := s.programs.map fun p =>
      if strpos p.command title then { p with signalled := true } else p }

/-- A launcher goes on to a stage. -/
def move (pid : ℕ) (stage : Stage) (s : State) : State :=
  { s with launchers := s.launchers.map fun l => if l.pid = pid then { l with stage } else l }

/-- A launcher has finished. -/
def finish (pid : ℕ) (s : State) : State :=
  { s with launchers := s.launchers.filter (·.pid ≠ pid) }

/-- One turn of a launcher. A disabled module is stopped. -/
def turn (enabled : Bool) (l : Launcher) (s : State) : State :=
  match l.stage with
  | .check =>
    if !enabled then ((s |> kill "tg2sip") |> kill "td-keyboard") |> finish l.pid
    else if getPidOfProcess "sip2tg-launcher.php restart 1" l.pid s then s |> finish l.pid
    else s |> move l.pid (.killing (killTitles l.id) none)
  | .killing [] _ => s |> move l.pid .starting
  | .killing (title :: titles) none =>
    if getPidOfProcess title l.pid s then
      (s |> kill title) |> move l.pid (.killing (title :: titles) (some 0))
    else s |> move l.pid (.killing titles none)
  | .killing (title :: titles) (some polls) =>
    if getPidOfProcess title l.pid s && polls + 1 ≤ 15 then
      s |> move l.pid (.killing (title :: titles) (some (polls + 1)))
    else s |> move l.pid (.killing titles none)
  | .starting => s |> finish l.pid

/-- What happens : a launcher is started, another program starts, a program ends, or a launcher
has its turn. -/
inductive Label
  | launch (id : String)
  | spawn (command : String)
  | die (pid : ℕ)
  | turn (pid : ℕ) (enabled : Bool)

def launch (id : String) (s : State) : State :=
  { s with launchers := s.launchers ++ [⟨s.nextPid, id, .check⟩], nextPid := s.nextPid + 1 }

/-- The state after it. -/
def next (s : State) : Label → Option State
  | .launch id => some (s |> launch id)
  | .spawn command => some { s with
      programs := s.programs ++ [⟨s.nextPid, command, false, false⟩]
      nextPid := s.nextPid + 1 }
  | .die pid => some { s with programs := s.programs.filter (·.pid ≠ pid) }
  | .turn pid enabled => (s.launchers.find? (·.pid = pid)).map fun l => s |> turn enabled l

def Step (s : State) (l : Label) (s' : State) : Prop :=
  next s l = some s'

/-- `modelsEventChangeData` : what runs now ran before the change, and a launcher is started. -/
def changed (c : Change) (s : State) : State :=
  { s with programs := s.programs.map fun p => { p with old := true } } |> launch c.recordId

/-- No two launchers have the same pid. -/
structure Distinct (s : State) : Prop where
  nodup : (s.launchers.map (·.pid)).Nodup
  lt : ∀ l ∈ s.launchers, l.pid < s.nextPid

/-! ## The property -/

/-- A program ran before the change and has a title the change concerns. -/
def Outdated (titles : List String) (p : Program) : Prop :=
  p.old = true ∧ ∃ title ∈ titles, strpos p.command title = true

/-- The titles a launcher has yet to kill. -/
def Launcher.todo (l : Launcher) : List String :=
  match l.stage with
  | .check => killTitles l.id
  | .killing titles _ => titles
  | .starting => []

/-- A launcher of the row has yet to kill the program with a command line. -/
def Expects (id command : String) (l : Launcher) : Prop :=
  l.id = id ∧ ∃ title ∈ l.todo, strpos command title = true

/-- The titles a turn leaves although their programs may run : the module is disabled, another
launcher is seen, or the time is over. -/
def leaves (enabled : Bool) (l : Launcher) (s : State) : List String :=
  match l.stage with
  | .check =>
    if !enabled || getPidOfProcess "sip2tg-launcher.php restart 1" l.pid s then killTitles l.id else []
  | .killing (title :: _) (some polls) =>
    if getPidOfProcess title l.pid s && !(polls + 1 ≤ 15) then [title] else []
  | _ => []

/-- A launcher of the row leaves a program only if another has yet to kill it. -/
def Effective (id : String) (titles : List String) (s : State) : Label → Prop
  | .turn pid enabled => ∀ l ∈ s.launchers, l.pid = pid → l.id = id →
      ∀ p ∈ s.programs, Outdated titles p →
        (∃ title ∈ leaves enabled l s, strpos p.command title = true) →
          ∃ l' ∈ s.launchers, l'.pid ≠ pid ∧ Expects id p.command l'
  | _ => True

/-- The programs the change concerns have a title its launcher kills. -/
def Reached (c : Change) (titles : List String) (s : State) : Prop :=
  ∀ p ∈ s.programs, (∃ title ∈ titles, strpos p.command title = true) →
    ∃ title ∈ killTitles c.recordId, strpos p.command title = true

/-- When the launcher of the change has finished, no program from before the change runs, unless
another launcher of the record is at work. -/
def Restarted (c : Change) (titles : List String) (s₀ s : State) : Prop :=
  (∀ l ∈ s.launchers, l.pid ≠ s₀.nextPid) →
    ∀ p ∈ s.programs, Outdated titles p → ∃ l ∈ s.launchers, l.id = c.recordId

/-- Every program from before the change is expected by a launcher of the record. -/
structure Covered (id : String) (titles : List String) (s : State) : Prop extends Distinct s where
  expected : ∀ p ∈ s.programs, Outdated titles p → ∃ l ∈ s.launchers, Expects id p.command l

instance (titles : List String) (p : Program) : Decidable (Outdated titles p) :=
  inferInstanceAs (Decidable (p.old = true ∧ ∃ title ∈ titles, strpos p.command title = true))

instance (id command : String) (l : Launcher) : Decidable (Expects id command l) :=
  inferInstanceAs (Decidable (l.id = id ∧ ∃ title ∈ l.todo, strpos command title = true))

instance (c : Change) (titles : List String) (s₀ s : State) : Decidable (Restarted c titles s₀ s) :=
  inferInstanceAs (Decidable ((∀ l ∈ s.launchers, l.pid ≠ s₀.nextPid) →
    ∀ p ∈ s.programs, Outdated titles p → ∃ l ∈ s.launchers, l.id = c.recordId))

instance (id : String) (titles : List String) (s : State) :
    ∀ label, Decidable (Effective id titles s label)
  | .launch _ | .spawn _ | .die _ => isTrue trivial
  | .turn pid enabled => inferInstanceAs (Decidable (∀ l ∈ s.launchers, l.pid = pid → l.id = id →
      ∀ p ∈ s.programs, Outdated titles p →
        (∃ title ∈ leaves enabled l s, strpos p.command title = true) →
          ∃ l' ∈ s.launchers, l'.pid ≠ pid ∧ Expects id p.command l'))

/-! ## One turn -/

section

variable {s s' : State} {l : Launcher} {enabled : Bool} {p q : Program} {title command id : String}
  {titles : List String} {pid : ℕ} {stage : Stage}

theorem of_mem_kill (h : p ∈ (kill title s).programs) :
    ∃ q ∈ s.programs, p.command = q.command ∧ p.old = q.old := by
  obtain ⟨q, hq, rfl⟩ := List.mem_map.1 h
  refine ⟨q, hq, ?_⟩
  split_ifs
  · exact ⟨rfl, rfl⟩
  · exact ⟨rfl, rfl⟩

/-- What a turn does to the launchers : the one goes on to a stage, or has finished. -/
def settle (pid : ℕ) (s : State) : Option Stage → State
  | none => finish pid s
  | some stage => move pid stage s

/-- A title that is found by no process is none of a program. -/
theorem not_strpos (h : getPidOfProcess title pid s = false) (hq : q ∈ s.programs) :
    ¬strpos q.command title = true := by
  intro hfound
  have hany : (s.programs.any fun p => strpos p.command title) = true :=
    List.any_eq_true.2 ⟨q, hq, hfound⟩
  simp [getPidOfProcess, hany] at h

/-- A title that no program has is done with. -/
theorem todo_of_unseen {titles : List String} (h : getPidOfProcess title pid s = false)
    (hq : q ∈ s.programs) (htodo : ∃ title' ∈ title :: titles, strpos q.command title' = true) :
    ∃ title' ∈ titles, strpos q.command title' = true :=
  ((List.exists_mem_cons_iff ..).1 htodo).resolve_left (not_strpos h hq)

/-- A turn starts no program, and what the launcher had to kill it has still to kill, or leaves. -/
theorem turn_spec (enabled : Bool) (l : Launcher) (s : State) : ∃ stage : Option Stage,
    (turn enabled l s).launchers = (settle l.pid s stage).launchers ∧
    (turn enabled l s).nextPid = s.nextPid ∧
    (∀ p ∈ (turn enabled l s).programs, ∃ q ∈ s.programs, p.command = q.command ∧ p.old = q.old) ∧
    ∀ q ∈ s.programs, (∃ title ∈ l.todo, strpos q.command title = true) →
      (∃ title ∈ leaves enabled l s, strpos q.command title = true) ∨
        ∃ stage', stage = some stage' ∧
          ∃ title ∈ ({ l with stage := stage' } : Launcher).todo, strpos q.command title = true := by
  have hsame : ∀ p ∈ s.programs, ∃ q ∈ s.programs, p.command = q.command ∧ p.old = q.old :=
    fun p hp => ⟨p, hp, rfl, rfl⟩
  obtain ⟨pid, id, stage⟩ := l
  rcases stage with _ | ⟨_ | ⟨title, titles⟩, _ | polls⟩ | _
  · -- before the kills
    cases enabled with
    | false =>
      refine ⟨none, rfl, rfl, fun p hp => ?_, fun q _ htodo => Or.inl htodo⟩
      obtain ⟨q, hq, hcommand, hold⟩ := of_mem_kill hp
      obtain ⟨q', hq', hcommand', hold'⟩ := of_mem_kill hq
      exact ⟨q', hq', hcommand.trans hcommand', hold.trans hold'⟩
    | true =>
      by_cases hseen : getPidOfProcess "sip2tg-launcher.php restart 1" pid s = true
      · have hturn : turn true ⟨pid, id, .check⟩ s = finish pid s := by simp [turn, hseen]
        have hleaves : leaves true ⟨pid, id, .check⟩ s = killTitles id := by simp [leaves, hseen]
        rw [hturn, hleaves]
        exact ⟨none, rfl, rfl, hsame, fun q _ htodo => Or.inl htodo⟩
      · have hturn : turn true ⟨pid, id, .check⟩ s =
            move pid (.killing (killTitles id) none) s := by simp [turn, hseen]
        rw [hturn]
        exact ⟨some _, rfl, rfl, hsame, fun q _ htodo => Or.inr ⟨_, rfl, htodo⟩⟩
  · exact ⟨some .starting, rfl, rfl, hsame, by simp [Launcher.todo]⟩
  · exact ⟨some .starting, rfl, rfl, hsame, by simp [Launcher.todo]⟩
  · -- the next title
    by_cases hseen : getPidOfProcess title pid s = true
    · have hturn : turn enabled ⟨pid, id, .killing (title :: titles) none⟩ s =
          move pid (.killing (title :: titles) (some 0)) (kill title s) := by simp [turn, hseen]
      rw [hturn]
      exact ⟨some _, rfl, rfl, fun p hp => of_mem_kill hp, fun q _ htodo => Or.inr ⟨_, rfl, htodo⟩⟩
    · have hturn : turn enabled ⟨pid, id, .killing (title :: titles) none⟩ s =
          move pid (.killing titles none) s := by simp [turn, hseen]
      rw [hturn]
      exact ⟨some _, rfl, rfl, hsame, fun q hq htodo =>
        Or.inr ⟨_, rfl, todo_of_unseen (eq_false_of_ne_true hseen) hq htodo⟩⟩
  · -- after a signal
    by_cases hseen : getPidOfProcess title pid s = true
    · by_cases htime : polls + 1 ≤ 15
      · have hturn : turn enabled ⟨pid, id, .killing (title :: titles) (some polls)⟩ s =
            move pid (.killing (title :: titles) (some (polls + 1))) s := by
          simp [turn, hseen, htime]
        rw [hturn]
        exact ⟨some _, rfl, rfl, hsame, fun q _ htodo => Or.inr ⟨_, rfl, htodo⟩⟩
      · have hturn : turn enabled ⟨pid, id, .killing (title :: titles) (some polls)⟩ s =
            move pid (.killing titles none) s := by simp [turn, htime]
        have hleaves : leaves enabled ⟨pid, id, .killing (title :: titles) (some polls)⟩ s =
            [title] := by simp [leaves, hseen, htime]
        rw [hturn, hleaves]
        refine ⟨some _, rfl, rfl, hsame, fun q _ htodo => ?_⟩
        rcases (List.exists_mem_cons_iff ..).1 htodo with hfirst | hrest
        · exact Or.inl ⟨title, List.mem_singleton_self title, hfirst⟩
        · exact Or.inr ⟨_, rfl, hrest⟩
    · have hturn : turn enabled ⟨pid, id, .killing (title :: titles) (some polls)⟩ s =
          move pid (.killing titles none) s := by simp [turn, hseen]
      rw [hturn]
      exact ⟨some _, rfl, rfl, hsame, fun q hq htodo =>
        Or.inr ⟨_, rfl, todo_of_unseen (eq_false_of_ne_true hseen) hq htodo⟩⟩
  · exact ⟨none, rfl, rfl, hsame, by simp [Launcher.todo]⟩

/-! ## One step -/

/-- The other launchers are not touched. -/
theorem mem_settle_of_ne {stage : Option Stage} (hl : l ∈ s.launchers) (hne : l.pid ≠ pid) :
    l ∈ (settle pid s stage).launchers := by
  cases stage with
  | none => exact List.mem_filter.2 ⟨hl, by simpa using hne⟩
  | some stage => exact List.mem_map.2 ⟨l, hl, if_neg hne⟩

theorem mem_settle_self (hl : l ∈ s.launchers) :
    { l with stage } ∈ (settle l.pid s (some stage)).launchers :=
  List.mem_map.2 ⟨l, hl, if_pos rfl⟩

/-- The pids after a turn are pids from before it, in their order. -/
theorem settle_pids_sublist (pid : ℕ) (s : State) (stage : Option Stage) :
    ((settle pid s stage).launchers.map (·.pid)).Sublist (s.launchers.map (·.pid)) := by
  cases stage with
  | none => exact List.filter_sublist.map _
  | some stage =>
    have hpids : (settle pid s (some stage)).launchers.map (·.pid) = s.launchers.map (·.pid) := by
      simp only [settle, move, List.map_map]
      refine List.map_congr_left fun l _ => ?_
      simp only [Function.comp_apply]
      split_ifs
      · rfl
      · rfl
    rw [hpids]

theorem distinct_of_sublist (hd : Distinct s) (hpid : s'.nextPid = s.nextPid)
    (hsub : (s'.launchers.map (·.pid)).Sublist (s.launchers.map (·.pid))) : Distinct s' := by
  refine ⟨hd.nodup.sublist hsub, fun l hl => ?_⟩
  obtain ⟨l', hl', heq⟩ := List.mem_map.1 (hsub.subset (List.mem_map_of_mem hl))
  have hlt : l'.pid < s.nextPid := hd.lt l' hl'
  omega

theorem distinct_launch (hd : Distinct s) (id : String) : Distinct (launch id s) := by
  have hold : ∀ l ∈ s.launchers, l.pid < s.nextPid := hd.lt
  constructor
  · have hfresh : s.nextPid ∉ s.launchers.map (·.pid) := by
      intro hmem
      obtain ⟨l, hl, heq⟩ := List.mem_map.1 hmem
      have hlt := hold l hl
      omega
    simpa [launch, List.nodup_append] using
      ⟨hd.nodup, fun l hl heq => hfresh (heq ▸ List.mem_map_of_mem hl)⟩
  · intro l hl
    have hnext : (launch id s).nextPid = s.nextPid + 1 := rfl
    rcases List.mem_append.1 hl with hl | hl
    · have hlt := hold l hl
      omega
    · have hpid : l.pid = s.nextPid := by rw [List.mem_singleton.1 hl]
      omega

/-- A turn keeps every program from before the change expected. -/
theorem covered_turn (hc : Covered id titles s) (hl : l ∈ s.launchers)
    (heffective : Effective id titles s (.turn l.pid enabled)) :
    Covered id titles (turn enabled l s) := by
  obtain ⟨stage, hlaunchers, hpid, hprograms, htodo⟩ := turn_spec enabled l s
  refine ⟨distinct_of_sublist hc.toDistinct hpid
    (hlaunchers ▸ settle_pids_sublist l.pid s stage), fun p hp hold => ?_⟩
  obtain ⟨q, hq, hcommand, hqold⟩ := hprograms p hp
  have hout : Outdated titles q := by
    rw [Outdated, ← hcommand, ← hqold]
    exact hold
  rw [hlaunchers, hcommand]
  obtain ⟨l', hl', hexpects⟩ := hc.expected q hq hout
  by_cases hne : l'.pid = l.pid
  · -- it is the launcher whose turn it is
    obtain rfl : l' = l := List.inj_on_of_nodup_map hc.nodup hl' hl hne
    obtain ⟨hid, hkills⟩ := hexpects
    rcases htodo q hq hkills with hleft | ⟨stage', rfl, hrest⟩
    · obtain ⟨l'', hl'', hother, hexpects'⟩ := heffective l' hl rfl hid q hq hout hleft
      exact ⟨l'', mem_settle_of_ne hl'' hother, hexpects'⟩
    · exact ⟨_, mem_settle_self hl, hid, hrest⟩
  · exact ⟨l', mem_settle_of_ne hl' hne, hexpects⟩

/-- What happens keeps every program from before the change expected. -/
theorem covered_step {label : Label} (hc : Covered id titles s)
    (hstep : Restrict Step (Effective id titles) s label s') : Covered id titles s' := by
  obtain ⟨hnext, heffective⟩ := hstep
  cases label with
  | launch other =>
    obtain rfl : launch other s = s' := Option.some.inj hnext
    refine ⟨distinct_launch hc.toDistinct other, fun p hp hold => ?_⟩
    obtain ⟨l, hl, hexpects⟩ := hc.expected p hp hold
    exact ⟨l, List.mem_append_left _ hl, hexpects⟩
  | spawn command =>
    obtain rfl := Option.some.inj hnext
    refine ⟨⟨hc.nodup, fun l hl => Nat.lt_succ_of_lt (hc.lt l hl)⟩, fun p hp hold => ?_⟩
    rcases List.mem_append.1 hp with hp | hp
    · exact hc.expected p hp hold
    · -- a program that starts now is not from before the change
      rw [List.mem_singleton.1 hp] at hold
      exact absurd hold.1 Bool.false_ne_true
  | die pid =>
    obtain rfl := Option.some.inj hnext
    exact ⟨⟨hc.nodup, hc.lt⟩, fun p hp hold => hc.expected p (List.mem_of_mem_filter hp) hold⟩
  | turn pid enabled =>
    obtain ⟨l, hfind, rfl⟩ := Option.map_eq_some_iff.1 hnext
    have hl : l ∈ s.launchers := List.mem_of_find?_eq_some hfind
    have hpid : l.pid = pid := by simpa using List.find?_some hfind
    exact covered_turn hc hl (hpid ▸ heffective)

/-! ## Runs -/

/-- The launcher of the change expects the programs it reaches. -/
theorem covered_changed {c : Change} (hd : Distinct s) (hreached : Reached c titles s) :
    Covered c.recordId titles (changed c s) := by
  have hdistinct : Distinct { s with programs := s.programs.map fun p => { p with old := true } } :=
    ⟨hd.nodup, hd.lt⟩
  refine ⟨distinct_launch hdistinct _, fun p hp hold => ?_⟩
  obtain ⟨q, hq, rfl⟩ := List.mem_map.1 hp
  have hkills := hreached q hq hold.2
  exact ⟨⟨s.nextPid, c.recordId, .check⟩, List.mem_append_right _ (List.mem_singleton_self _),
    rfl, hkills⟩

/-- If the programs a change concerns have a title its launcher kills, and a launcher of the record
leaves a program only when another has yet to kill it, then no program from before the change runs
when the launcher of the change has finished, unless another of the record is at work. -/
theorem restarted_of_run (c : Change) (before after : Host) (s₀ : State) {ls : List Label}
    (hd : Distinct s₀) (hreached : Reached c (before.affected c ++ after.affected c) s₀)
    (hrun : Run (Restrict Step (Effective c.recordId (before.affected c ++ after.affected c)))
      (changed c s₀) ls s) :
    Restarted c (before.affected c ++ after.affected c) s₀ s := by
  intro _ p hp hold
  have hc := hrun.invariant (Covered c.recordId _) (fun _ _ _ hc hstep => covered_step hc hstep)
    (covered_changed hd hreached)
  obtain ⟨l, hl, hid, -⟩ := hc.expected p hp hold
  exact ⟨l, hl, hid⟩

end

/-! ## A change that reaches its line, and two that do not -/

/-- A host on which programs and launchers run. -/
def running (commands : List String) (launchers : List Launcher) : State where
  script := "bin/"
  programs := commands.zipIdx.map fun (command, pid) => ⟨pid, command, false, false⟩
  launchers := launchers
  nextPid := 10

/-- Each program ends after its signal, and the gateway starts again. -/
def replaced : List Label := [
  .turn 10 true, .turn 10 true, .die 0, .turn 10 true, .turn 10 true, .die 1, .turn 10 true,
  .turn 10 true, .die 2, .turn 10 true, .turn 10 true, .spawn "tg2sip -1-", .turn 10 true]

theorem restarted_of_run_firstLine :
    let titles := (installed oneRow).affected (.record 1) ++ (installed oneRow).affected (.record 1)
    let s₀ := running ["tg2sip -1-", "td-keyboard=1-", "td-keyboard=bot-"] []
    (exec (guarded (Effective "1" titles) next) (changed (.record 1) s₀) replaced).isSome = true ∧
      ∀ s, exec (guarded (Effective "1" titles) next) (changed (.record 1) s₀) replaced = some s →
        Restarted (.record 1) titles s₀ s := by
  intro titles s₀
  have hd : Distinct s₀ := ⟨by decide, by decide⟩
  have hreached : Reached (.record 1) titles s₀ := by
    unfold Reached
    decide
  exact ⟨by decide, fun s h => restarted_of_run (.record 1) (installed oneRow) (installed oneRow) s₀
    hd hreached (Run.of_guarded (fun _ _ _ hnext => hnext) h)⟩

/-- A change of the port leaves the gateways, and a change of the second line leaves them when the
launcher of another line is at work whose id begins with `1`. -/
theorem not_restarted :
    (∃ ls s, Run Step (changed .sipPort (running ["tg2sip -1-"] [])) ls s ∧
      ¬Restarted .sipPort ((installed oneRow).affected .sipPort ++ (installed oneRow).affected .sipPort)
        (running ["tg2sip -1-"] []) s) ∧
    ∃ ls s, Run Step (changed (.record 2) (running ["tg2sip -2-"] [⟨4, "12", .check⟩])) ls s ∧
      ¬Restarted (.record 2)
        ((installed twoRows).affected (.record 2) ++ (installed twoRows).affected (.record 2))
        (running ["tg2sip -2-"] [⟨4, "12", .check⟩]) s := by
  refine ⟨⟨[.turn 10 true, .turn 10 true, .turn 10 true, .turn 10 true, .turn 10 true, .turn 10 true],
    _, Run.of_exec (fun _ _ _ h => h) rfl, ?_⟩,
    ⟨[.turn 10 true], _, Run.of_exec (fun _ _ _ h => h) rfl, ?_⟩⟩
  · decide
  · decide

end Launchers

end TelegramProvider
