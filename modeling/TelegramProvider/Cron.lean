import TelegramProvider.Entries

/-!
# The launcher that runs every minute

`sip2tg-launcher.php` without an argument calls `startSipTg` and `startTdKeyboard`, which skip
what runs already. They use objects of `TelegramAuth`, and the destructor of such an object
writes `Done` and starts a launcher that restarts the line, if the object found a row. The
object of `startSipTg` looks rows up, those of `startTdKeyboard` note no id.

`cron_idle_iff` : when everything runs, the launcher changes nothing exactly if `startSipTg`
finds no row.
-/

set_option autoImplicit false

namespace TelegramProvider

open Records

/-- What a run of the launcher did : the host after it, the programs it stopped, and the ids it
started launchers for. -/
structure CronRun where
  host : Host
  stopped : List String := []
  launchers : List ℕ := []

/-- The status file the destructor writes. -/
def doneText (login : String) : String :=
  Json.encode [("status", .str "Done"), ("output", .str ""), ("app", .str ""),
    ("phone", .str login)]

/-- `__destruct`, of an object that was in no dialogue. -/
def TelegramAuth.destruct (auth : TelegramAuth) (o : CronRun) : CronRun :=
  if 0 < auth.id then
    { o with
      host := o.host.filePutContents (auth.workDir ++ "/" ++ statusFileName) (doneText auth.login)
      launchers := o.launchers ++ [auth.id] }
  else o

namespace Host

/-- The loop of `startTdKeyboard`, with the end of its objects. -/
def sweepClients (pbx : Pbx) : List Line → CronRun → CronRun
  | [], o => o
  | settings :: rows, o =>
    let (confFile, auth, h) := ({} : TelegramAuth).makeSettingsKeyboardFile pbx (phoneOf settings) o.host
    sweepClients pbx rows (auth.destruct { o with host := h.startClient settings confFile })

/-- The bot is started if it did not run before and has settings. -/
def startBotClient (pidBot : String) (h : Host) : Host :=
  let botConf := botDirOf h.moduleDir ++ "/settings.conf"
  if phpEmpty pidBot && h.fileExists botConf then
    { h with launched := h.launched ++
        [(h.moduleDir ++ "/bin/td-keyboard -c=" ++ botConf ++ " td-keyboard=bot-", "")] }
  else h

/-- `stopSipTg` and `stopTdKeyboard`. -/
def stopAll (h : Host) : CronRun where
  host := h
  stopped := ["tg2sip", "td-keyboard"].filter fun title => !phpEmpty (h.pidOf title)

/-- `sip2tg-launcher.php` without an argument, to its end. An exception ends it early. -/
def cron (enabled : Bool) (pbx : Pbx) (h : Host) : CronRun :=
  if enabled then
    let (failed, tgClient, h) := h.startLines h.table.rows {}
    let o := tgClient.destruct ⟨h, [], []⟩
    if failed.isNone then
      let pidBot := o.host.pidOf "td-keyboard=bot-"
      let o := sweepClients pbx o.host.table.rows o
      { o with host := o.host.startBotClient pidBot }
    else o
  else h.stopAll

/-! ## The property -/

/-- All gateways, keyboard clients and the bot run. -/
structure Running (h : Host) : Prop where
  gateways : ∀ line ∈ h.table.rows, phpEmpty (h.pidOf ("tg2sip -" ++ toString line.id ++ "-")) = false
  clients : ∀ line ∈ h.table.rows, phpEmpty (h.pidOf ("td-keyboard=" ++ toString line.id ++ "-")) = false
  bot : phpEmpty (h.pidOf "td-keyboard=bot-") = false

/-- No program is started, and no status file changes. -/
structure Quiet (h h' : Host) : Prop where
  launched : h'.launched = h.launched
  status : ∀ dir : String, h'.files (dir ++ "/" ++ statusFileName) = h.files (dir ++ "/" ++ statusFileName)

/-- The launcher did nothing that counts. -/
structure Idle (h : Host) (o : CronRun) : Prop where
  quiet : h.Quiet o.host
  stopped : o.stopped = []
  launchers : o.launchers = []

/-- The digits of no line find a row, up to the first line whose digits are not empty. -/
def Unfound (h : Host) : List Line → Prop
  | [] => True
  | line :: rows => h.findFirst (digitsOf line) = none ∧ (phpEmpty (digitsOf line) = true → Unfound h rows)

/-! ## What changes nothing that counts -/

/-- The site and the processes are the same, and nothing that counts has changed. -/
structure Undisturbed (h h' : Host) : Prop extends SameSite h h', Quiet h h' where
  pidOf : h'.pidOf = h.pidOf

section

variable {pbx : Pbx} {h h' h'' : Host} {auth auth' : TelegramAuth} {line : Line} {rows : List Line}
  {numPhone file path : String} {o : CronRun}

theorem Undisturbed.refl (h : Host) : Undisturbed h h :=
  ⟨⟨rfl, rfl, rfl, rfl⟩, ⟨rfl, fun _ => rfl⟩, rfl⟩

theorem Undisturbed.trans (h₁ : Undisturbed h h') (h₂ : Undisturbed h' h'') : Undisturbed h h'' :=
  ⟨h₁.toSameSite.trans h₂.toSameSite, ⟨h₂.launched.trans h₁.launched, fun dir =>
    (h₂.status dir).trans (h₁.status dir)⟩, h₂.pidOf.trans h₁.pidOf⟩

theorem Undisturbed.running (h₁ : Undisturbed h h') (hr : h.Running) : h'.Running := by
  refine ⟨?_, ?_, ?_⟩
  · rw [h₁.table, h₁.pidOf]
    exact hr.gateways
  · rw [h₁.table, h₁.pidOf]
    exact hr.clients
  · rw [h₁.pidOf]
    exact hr.bot

theorem undisturbed_mwMkdir (path : String) (h : Host) : Undisturbed h (h.mwMkdir path) := by
  unfold mwMkdir
  split_ifs
  · exact ⟨⟨rfl, rfl, rfl, rfl⟩, ⟨rfl, fun _ => rfl⟩, rfl⟩
  · exact Undisturbed.refl h

/-- A file that is no status file is written. -/
theorem undisturbed_filePutContents (text : String)
    (hpath : ∀ dir : String, dir ++ "/" ++ statusFileName ≠ path) :
    Undisturbed h (h.filePutContents path text) :=
  ⟨⟨rfl, rfl, rfl, rfl⟩, ⟨rfl, fun dir => Function.update_of_ne (hpath dir) _ _⟩, rfl⟩

theorem undisturbed_initWorkDir (numPhone : String) (auth : TelegramAuth) (h : Host) :
    Undisturbed h (auth.initWorkDir numPhone h).2 := by
  unfold TelegramAuth.initWorkDir
  split
  · exact Undisturbed.refl h
  · exact ((undisturbed_mwMkdir _ _).trans (undisturbed_mwMkdir _ _)).trans
      (undisturbed_mwMkdir _ _)

/-- The names of other files end in another letter. -/
theorem statusFile_ne {c : Char} (dir dir' name : String) (hname : name.toList.getLast? = some c)
    (hc : c ≠ 't') : dir ++ "/" ++ statusFileName ≠ dir' ++ name := by
  intro heq
  have hlast := congrArg (fun s => s.toList.getLast?) heq
  have hstatus : statusFileName.toList.getLast? = some 't' := by decide
  simp only [String.toList_append, List.getLast?_append, hstatus, hname, Option.some_or,
    Option.some.injEq] at hlast
  exact hc hlast.symm

theorem undisturbed_makeSettingsFile
    (hok : auth.makeSettingsFile numPhone h = .ok (file, auth', h')) : Undisturbed h h' := by
  obtain ⟨ready, h₁, hready, hcases⟩ := makeSettingsFile_cases hok
  have hinit := undisturbed_initWorkDir numPhone (auth.named numPhone) h
  rw [hready] at hinit
  rcases hcases with ⟨-, -, rfl⟩ | ⟨r, -, -, rfl⟩
  · exact hinit
  · exact hinit.trans (undisturbed_filePutContents _ fun dir =>
      statusFile_ne dir _ "/settings.ini" rfl (by decide))

/-- Such an object notes no id. -/
theorem undisturbed_makeSettingsKeyboardFile
    (hmade : auth.makeSettingsKeyboardFile pbx numPhone h = (file, auth', h')) :
    auth'.id = auth.id ∧ Undisturbed h h' := by
  obtain ⟨ready, h₁, hready, hid', hcases⟩ := makeSettingsKeyboardFile_cases hmade
  have hinit := undisturbed_initWorkDir numPhone { auth with login := numPhone } h
  obtain ⟨-, hid, -⟩ := sameSite_initWorkDir numPhone { auth with login := numPhone } h
  rw [hready] at hinit hid
  refine ⟨hid'.trans hid, ?_⟩
  have hwrite : ∀ (h : Host) dir text, Undisturbed h (h.filePutContents (dir ++ "/settings.conf") text) :=
    fun h dir' text => undisturbed_filePutContents text fun dir =>
      statusFile_ne dir dir' "/settings.conf" rfl (by decide)
  rcases hcases with ⟨-, rfl⟩ | ⟨r, text, text', -, rfl⟩
  · exact hinit
  · exact (hinit.trans (hwrite _ _ _)).trans (hwrite _ _ _)

/-- A gateway that runs is not started. -/
theorem startGateway_of_running (hr : h.Running) (hline : line ∈ h.table.rows) :
    h.startGateway line numPhone file = h := by
  unfold startGateway
  rw [hr.gateways line hline]
  simp only [Bool.and_false, Bool.false_and, Bool.false_eq_true, if_false]

theorem startClient_of_running (hr : h.Running) (hline : line ∈ h.table.rows) :
    h.startClient line file = h := by
  unfold startClient
  dsimp only
  rw [hr.clients line hline]
  simp only [Bool.not_false, Bool.true_or, if_true]

/-! ## The two loops -/

theorem undisturbed_startLines (hr : h.Running) (hrows : ∀ line ∈ rows, line ∈ h.table.rows) :
    Undisturbed h (startLines rows auth h).2.2 := by
  induction rows generalizing h auth with
  | nil => exact Undisturbed.refl h
  | cons line rows ih =>
    obtain ⟨hline, hrest⟩ := List.forall_mem_cons.1 hrows
    unfold startLines
    dsimp only
    split
    · exact undisturbed_initWorkDir _ _ _
    · rename_i file auth₁ h₁ hok
      have hmade := undisturbed_makeSettingsFile hok
      rw [startGateway_of_running (hmade.running hr) (hmade.table ▸ hline)]
      exact hmade.trans (ih (hmade.running hr) (hmade.table ▸ hrest))

/-- The objects of `startTdKeyboard` end without a trace. -/
theorem sweepClients_of_running (pbx : Pbx) (hr : o.host.Running)
    (hrows : ∀ line ∈ rows, line ∈ o.host.table.rows) :
    Undisturbed o.host (sweepClients pbx rows o).host ∧
      (sweepClients pbx rows o).stopped = o.stopped ∧
      (sweepClients pbx rows o).launchers = o.launchers := by
  induction rows generalizing o with
  | nil => exact ⟨Undisturbed.refl _, rfl, rfl⟩
  | cons line rows ih =>
    obtain ⟨hline, hrest⟩ := List.forall_mem_cons.1 hrows
    obtain ⟨⟨file, auth₁, h₁⟩, hmade⟩ : ∃ p, ({} : TelegramAuth).makeSettingsKeyboardFile pbx
        (phoneOf line) o.host = p := ⟨_, rfl⟩
    obtain ⟨hid, hcalm⟩ := undisturbed_makeSettingsKeyboardFile hmade
    have hstart : h₁.startClient line file = h₁ :=
      startClient_of_running (hcalm.running hr) (hcalm.table ▸ hline)
    have hdestruct : auth₁.destruct { o with host := h₁ } = { o with host := h₁ } := by
      rw [TelegramAuth.destruct, hid]
      rfl
    unfold sweepClients
    rw [hmade]
    dsimp only
    rw [hstart, hdestruct]
    obtain ⟨hcalm', hstopped, hlaunchers⟩ := ih (o := { o with host := h₁ }) (hcalm.running hr)
      (hcalm.table ▸ hrest)
    exact ⟨hcalm.trans hcalm', hstopped, hlaunchers⟩

/-! ## Whether a row is found -/

/-- An id that was noted is followed by ids of rows only. -/
theorem startLines_id_ne_zero (hids : ∀ r ∈ h.table.rows, r.id ≠ 0) (hid : auth.id ≠ 0) :
    (startLines rows auth h).2.1.id ≠ 0 := by
  induction rows generalizing h auth with
  | nil => exact hid
  | cons line rows ih =>
    unfold startLines
    dsimp only
    split
    · rw [(sameSite_initWorkDir _ _ _).2.1]
      split_ifs
      · exact hid
      · exact hid
    · rename_i file auth₁ h₁ hok
      obtain ⟨-, hsame, hkept⟩ := of_makeSettingsFile hok
      refine ih ((hsame.trans (sameSite_startGateway _).1).table ▸ hids) ?_
      rcases hkept with ⟨-, hkept⟩ | ⟨r, hr, hr'⟩
      · rw [hkept]
        exact hid
      · rw [hr']
        exact hids r (of_findFirst hr).1

/-- A login that finds nothing leaves nothing. -/
theorem makeSettingsFile_of_unfound (hset : phpEmpty auth.login = false)
    (hnone : h.findFirst auth.login = none) (hdir : auth.workDir = "") :
    auth.makeSettingsFile numPhone h = .ok ("", auth, h) := by
  have hinit := initWorkDir_of_none numPhone hnone
  have hnot : h.fileExists auth.workDir = false := by
    rw [hdir]
    rfl
  unfold TelegramAuth.makeSettingsFile
  simp only [hset, Bool.false_eq_true, if_false, hinit, hnot, Bool.not_false, if_true]

theorem startLines_of_unfound (hset : phpEmpty auth.login = false)
    (hnone : h.findFirst auth.login = none) (hdir : auth.workDir = "") (hr : h.Running)
    (hrows : ∀ line ∈ rows, line ∈ h.table.rows) : startLines rows auth h = (none, auth, h) := by
  induction rows with
  | nil => rfl
  | cons line rows ih =>
    obtain ⟨hline, hrest⟩ := List.forall_mem_cons.1 hrows
    unfold startLines
    dsimp only
    rw [makeSettingsFile_of_unfound hset hnone hdir]
    dsimp only
    rw [startGateway_of_running hr hline, ih hrest]

/-- The object of `startSipTg` notes no id exactly if no row is found. -/
theorem startLines_id_iff (hr : h.Running) (hids : ∀ r ∈ h.table.rows, r.id ≠ 0)
    (hcreatable : ∀ path, h.creatable path = true) (hlogin : phpEmpty auth.login = true)
    (hdir : auth.workDir = "") (hid : auth.id = 0) (hrows : ∀ line ∈ rows, line ∈ h.table.rows) :
    (startLines rows auth h).2.1.id = 0 ↔ h.Unfound rows := by
  induction rows generalizing auth with
  | nil => simp [startLines, Unfound, hid]
  | cons line rows ih =>
    obtain ⟨hline, hrest⟩ := List.forall_mem_cons.1 hrows
    have hdigits : digitsOnly (phoneOf line) = digitsOf line := rfl
    unfold startLines Unfound
    dsimp only
    rw [hdigits]
    cases hfind : h.findFirst (digitsOf line) with
    | some r =>
      obtain ⟨auth₁, h₁, hok, -, hid₁, -, hsame, -, -⟩ :=
        makeSettingsFile_of_found (digitsOf line) (if_pos hlogin).symm hfind hcreatable
      rw [hok]
      dsimp only
      refine iff_of_false ?_ (by simp)
      refine startLines_id_ne_zero ((hsame.trans (sameSite_startGateway _).1).table ▸ hids) ?_
      rw [hid₁]
      exact hids r (of_findFirst hfind).1
    | none =>
      have hnot : h.fileExists auth.workDir = false := by
        rw [hdir]
        rfl
      rw [makeSettingsFile_of_none hlogin hfind, hnot]
      simp only [Bool.false_eq_true, if_false, true_and]
      rw [startGateway_of_running hr hline]
      obtain ⟨named, hnamed⟩ : ∃ named : TelegramAuth, { auth with login := digitsOf line } = named :=
        ⟨_, rfl⟩
      have hnamedLogin : named.login = digitsOf line := by rw [← hnamed]
      have hnamedDir : named.workDir = "" := by rw [← hnamed, hdir]
      have hnamedId : named.id = 0 := by rw [← hnamed, hid]
      rw [hnamed]
      cases hset : phpEmpty (digitsOf line) with
      | true =>
        rw [ih (hnamedLogin ▸ hset) hnamedDir hnamedId hrest]
        simp
      | false =>
        rw [← hnamedLogin] at hset hfind
        rw [startLines_of_unfound hset hfind hnamedDir hr hrest]
        simp [hnamedId]

/-! ## The launcher -/

/-- An object that noted an id is not forgotten. -/
theorem launchers_of_id (hid : auth.id ≠ 0) (o : CronRun) : (auth.destruct o).launchers ≠ [] := by
  rw [TelegramAuth.destruct, if_pos (Nat.pos_of_ne_zero hid)]
  simp

theorem destruct_of_id (hid : auth.id = 0) (o : CronRun) : auth.destruct o = o := by
  rw [TelegramAuth.destruct, hid]
  rfl

theorem running_destruct (hr : o.host.Running) : (auth.destruct o).host.Running := by
  unfold TelegramAuth.destruct
  split_ifs
  · exact ⟨hr.gateways, hr.clients, hr.bot⟩
  · exact hr

/-- What is left to do after `startSipTg`, which nothing needs. -/
theorem startBotClient_of_running {pid : String} (hpid : phpEmpty pid = false) :
    h.startBotClient pid = h := by
  unfold startBotClient
  simp only [hpid, Bool.false_and, Bool.false_eq_true, if_false]

/-- The launcher of an enabled module is idle exactly if the object of `startSipTg` notes no id. -/
theorem idle_cron_iff (pbx : Pbx) (hr : h.Running) :
    h.Idle (h.cron true pbx) ↔ (startLines h.table.rows {} h).2.1.id = 0 := by
  have hcalm : Undisturbed h (startLines h.table.rows {} h).2.2 :=
    undisturbed_startLines hr fun _ hline => hline
  obtain ⟨⟨failed, tgClient, h₁⟩, hstart⟩ : ∃ p, startLines h.table.rows {} h = p := ⟨_, rfl⟩
  rw [hstart] at hcalm ⊢
  dsimp only at hcalm ⊢
  have hr₁ : (tgClient.destruct ⟨h₁, [], []⟩).host.Running := running_destruct (hcalm.running hr)
  obtain ⟨hclients, hstopped, hlaunchers⟩ := sweepClients_of_running pbx hr₁ fun _ hline => hline
  have hcron : h.cron true pbx = if failed.isNone then
      sweepClients pbx (tgClient.destruct ⟨h₁, [], []⟩).host.table.rows (tgClient.destruct ⟨h₁, [], []⟩)
      else tgClient.destruct ⟨h₁, [], []⟩ := by
    unfold cron
    rw [hstart]
    simp only [if_true, startBotClient_of_running hr₁.bot]
  have hkept : (h.cron true pbx).launchers = (tgClient.destruct ⟨h₁, [], []⟩).launchers := by
    rw [hcron]
    split_ifs
    · exact hlaunchers
    · rfl
  constructor
  · intro hidle
    by_contra hid
    exact launchers_of_id hid ⟨h₁, [], []⟩ (hkept.symm.trans hidle.launchers)
  · intro hid
    rw [destruct_of_id hid] at hcron hclients hstopped hlaunchers
    rw [hcron]
    split_ifs
    · exact ⟨(hcalm.trans hclients).toQuiet, hstopped, hlaunchers⟩
    · exact ⟨hcalm.toQuiet, rfl, rfl⟩

/-- A module that is disabled is stopped. -/
theorem not_idle_stopAll (hr : h.Running)
    (hpid : ∀ title part : String, part.toList <:+: title.toList → phpEmpty (h.pidOf part) = true →
      phpEmpty (h.pidOf title) = true) : ¬h.Idle h.stopAll := by
  intro hidle
  have hbot : phpEmpty (h.pidOf "td-keyboard") = false := by
    by_contra hempty
    have htitle := hpid "td-keyboard=bot-" "td-keyboard" ⟨[], "=bot-".toList, rfl⟩ (by simpa using hempty)
    rw [hr.bot] at htitle
    exact absurd htitle (by decide)
  have hstopped : h.stopAll.stopped = [] := hidle.stopped
  have hmem : "td-keyboard" ∈ h.stopAll.stopped := by
    simp [stopAll, hbot]
  rw [hstopped] at hmem
  simp at hmem

/-- When everything runs, the launcher starts and stops nothing and changes no status exactly if the
module is enabled, and the digits of no line find a row, up to the first line whose digits are not
empty. -/
theorem cron_idle_iff (enabled : Bool) (pbx : Pbx) (h : Host) (hr : h.Running)
    (hids : ∀ r ∈ h.table.rows, r.id ≠ 0) (hcreatable : ∀ path, h.creatable path = true)
    (hpid : ∀ title part : String, part.toList <:+: title.toList → phpEmpty (h.pidOf part) = true →
      phpEmpty (h.pidOf title) = true) :
    h.Idle (h.cron enabled pbx) ↔ enabled = true ∧ h.Unfound h.table.rows := by
  cases enabled with
  | false => exact iff_of_false (not_idle_stopAll hr hpid) (by simp)
  | true =>
    rw [idle_cron_iff pbx hr,
      startLines_id_iff hr hids hcreatable rfl rfl rfl fun _ hline => hline]
    simp

end

/-! ## A line that is found -/

/-- `Processes::getPidOfProcess`, when processes with some command lines run. -/
def pidsOf (commands : List String) (title : String) : String :=
  if commands.any fun command => strpos command title then "100" else ""

theorem phpEmpty_pidsOf {commands : List String} {title : String} :
    phpEmpty (pidsOf commands title) = false ↔ ∃ command ∈ commands, strpos command title = true := by
  unfold pidsOf
  split_ifs with h
  · exact iff_of_true rfl (List.any_eq_true.1 h)
  · exact iff_of_false (by decide) (by simpa using h)

/-- The programs of the first line, and the bot. -/
def firstLineRuns : List String := [
  "/bin/tg2sip -1-",
  "/bin/td-keyboard -u -c=settings.conf td-keyboard=1-",
  "/bin/td-keyboard -c=settings.conf td-keyboard=bot-"]

/-- A host on which they run. -/
def busy (t : Table Attributes) : Host :=
  { installed t with pidOf := pidsOf firstLineRuns }

theorem running_busy {t : Table Attributes} {attr : Attributes} (hrows : t.rows = [⟨1, attr⟩]) :
    (busy t).Running := by
  have hline : ∀ line ∈ (busy t).table.rows, line.id = 1 := by
    intro line hmem
    have hrows' : (busy t).table.rows = [⟨1, attr⟩] := hrows
    rw [hrows', List.mem_singleton] at hmem
    rw [hmem]
  have hgateway : phpEmpty (pidsOf firstLineRuns ("tg2sip -" ++ toString 1 ++ "-")) = false := by
    decide
  have hclient : phpEmpty (pidsOf firstLineRuns ("td-keyboard=" ++ toString 1 ++ "-")) = false := by
    decide
  have hbot : phpEmpty (pidsOf firstLineRuns "td-keyboard=bot-") = false := by
    decide
  refine ⟨fun line hmem => ?_, fun line hmem => ?_, hbot⟩
  · rw [hline line hmem]
    exact hgateway
  · rw [hline line hmem]
    exact hclient

theorem cron_idle_iff_formatted : (busy formattedRow).Idle ((busy formattedRow).cron true {}) := by
  have hids : ∀ r ∈ (busy formattedRow).table.rows, r.id ≠ 0 := by
    intro r hr
    rw [List.mem_singleton.1 hr]
    decide
  have hpid : ∀ title part : String, part.toList <:+: title.toList →
      phpEmpty ((busy formattedRow).pidOf part) = true →
      phpEmpty ((busy formattedRow).pidOf title) = true := by
    intro title part hpart hempty
    by_contra htitle
    have hruns : phpEmpty (pidsOf firstLineRuns title) = false := eq_false_of_ne_true htitle
    obtain ⟨command, hmem, hin⟩ := phpEmpty_pidsOf.1 hruns
    have hset : phpEmpty (pidsOf firstLineRuns part) = false :=
      phpEmpty_pidsOf.2 ⟨command, hmem, strpos_iff.2 (hpart.trans (strpos_iff.1 hin))⟩
    exact absurd (hset.symm.trans hempty) (by decide)
  have hunfound : (busy formattedRow).Unfound (busy formattedRow).table.rows := by
    refine ⟨by decide, fun hempty => ?_⟩
    exact absurd hempty (by decide)
  exact (cron_idle_iff true {} (busy formattedRow) (running_busy rfl) hids (fun _ => rfl) hpid).2
    ⟨rfl, hunfound⟩

/-- A line whose number is found is set to `Done`, and a launcher restarts it. -/
theorem restarted : (busy oneRow).Running ∧ ¬(busy oneRow).Idle ((busy oneRow).cron true {}) := by
  have hr : (busy oneRow).Running := running_busy rfl
  have hids : ∀ r ∈ (busy oneRow).table.rows, r.id ≠ 0 := by
    intro r hmem
    rw [List.mem_singleton.1 hmem]
    decide
  refine ⟨hr, fun hidle => ?_⟩
  have hunfound := (startLines_id_iff hr hids (fun _ => rfl) rfl rfl rfl fun _ hline => hline).1
    ((idle_cron_iff {} hr).1 hidle)
  have hnone : (busy oneRow).findFirst "79000000001" = none := hunfound.1
  revert hnone
  decide

end Host

end TelegramProvider
