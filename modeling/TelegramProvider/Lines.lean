import Mathlib.Data.List.Infix
import TelegramProvider.TelegramAuth

/-!
# The gateways of the lines

`startSipTg` writes the settings of every line and starts a gateway for each that is
authorized. It uses one `TelegramAuth` for all lines, whose login stays the one of the first
line that has one, so every later file has the settings of that line's row, its SIP port
among them (`sources`). `startTdKeyboard` has an object for each line.
-/

set_option autoImplicit false

namespace TelegramProvider

open Records

/-! ## `startSipTg` -/

/-- `TelegramAuth::TEXT_AUTH_OK`. -/
def textAuthOk : String := "Authorization OK"

/-- The phone number of a line, as text. -/
def phoneOf (line : Line) : String :=
  phpText (line.attr .phoneNumber)

namespace Host

/-- The gateway of a line is started if its settings are there, it does not run yet, and
`gen_db` says that it is authorized. -/
def startGateway (settings : Line) (numPhone confFile : String) (h : Host) : Host :=
  let workDir := workDirOf h.moduleDir numPhone
  if h.fileExists confFile && phpEmpty (h.pidOf ("tg2sip -" ++ toString settings.id ++ "-")) &&
      decide (textAuthOk.toList <:+: (h.genDb workDir).toList) then
    { h with launched := h.launched ++
        [(h.moduleDir ++ "/bin/tg2sip '-" ++ toString settings.id ++ "-'", workDir)] }
  else h

/-- The loop of `startSipTg` over the lines, with the one `TelegramAuth` : the exception that ends
it, if there is one, and the object and the host as they are left. -/
def startLines : List Line → TelegramAuth → Host → Option PhpError × TelegramAuth × Host
  | [], tgClient, h => (none, tgClient, h)
  | settings :: rows, tgClient, h =>
    let numPhone := digitsOnly (phoneOf settings)
    match tgClient.makeSettingsFile numPhone h with
    | .error e =>
      -- the login is noted and the directories are made before the exception
      (some e, TelegramAuth.initWorkDir numPhone
        (if phpEmpty tgClient.login then { tgClient with login := numPhone } else tgClient) h)
    | .ok (confFile, tgClient, h) =>
      startLines rows tgClient (h.startGateway settings numPhone confFile)

/-- `startSipTg`. -/
def startSipTg (h : Host) : Except PhpError Host :=
  match startLines h.table.rows {} h with
  | (none, _, h) => .ok h
  | (some e, _) => .error e

end Host

/-! ## Whose settings a line gets -/

/-- The lines, each with the row its settings are taken from : the first line so far whose phone
number is not empty for PHP, if there was one before, or else the line itself. -/
def sources : Option Line → List Line → List (Line × Line)
  | _, [] => []
  | first, line :: rows => (line, first.getD line) ::
      sources (first.or (if phpEmpty (phoneOf line) then none else some line)) rows

/-- Every line has its own settings in its file. -/
def Configured (h h' : Host) : Prop :=
  ∀ line ∈ h.table.rows, h'.files (settingsFile h.moduleDir (phoneOf line)) =
    some (settingsText h.sipPort (phoneOf line) line)

/-- The phone numbers are strings of digits, no two of them the same, and all directories can be
made. -/
structure Host.Ready (h : Host) : Prop where
  digits : ∀ line ∈ h.table.rows, ∃ number, line.attr .phoneNumber = some number ∧
    ∀ c ∈ number.toList, c.isDigit = true
  distinct : (h.table.rows.map phoneOf).Nodup
  creatable : ∀ path, h.creatable path = true

section texts

variable {sipPort numPhone moduleDir : String} {r s : Line}

/-- The digits before the end of a line. -/
theorem takeWhile_newline (n : ℕ) (rest : List Char) :
    ((toString n).toList ++ '\n' :: rest).takeWhile (fun c => decide (c ≠ '\n')) =
      (toString n).toList := by
  have hdigits : ∀ c ∈ (toString n).toList, decide (c ≠ '\n') = true := by
    intro c hc
    have hdigit : c.isDigit = true := by
      refine Nat.isDigit_of_mem_toDigits (b := 10) (n := n) (by decide) (by decide) ?_
      simpa [Nat.toList_repr] using hc
    refine decide_eq_true ?_
    rintro rfl
    simp at hdigit
  rw [List.takeWhile_append_of_pos hdigits]
  simp

/-- A number can be read off a line it ends. -/
theorem eq_of_append_newline {m n : ℕ} {rest rest' : String}
    (h : toString m ++ ("\n" ++ rest) = toString n ++ ("\n" ++ rest')) : m = n := by
  have hlist := congrArg String.toList h
  have hnewline : "\n".toList = ['\n'] := rfl
  simp only [String.toList_append, hnewline, List.singleton_append] at hlist
  have hnumber : (toString m).toList = (toString n).toList := by
    rw [← takeWhile_newline m rest.toList, hlist, takeWhile_newline]
  have hdigits : Nat.toDigits 10 m = Nat.toDigits 10 n := by
    simpa [Nat.toList_repr] using hnumber
  rw [← Nat.ofDigitChars_ten_toDigits (n := m), hdigits, Nat.ofDigitChars_ten_toDigits]

/-- The line with the port, and what stands before it, which is the same for all rows. -/
theorem exists_settingsLines : ∃ before : List String, ∀ port numPhone sipPort apiId apiHash,
    ∃ after : List String, settingsLines port numPhone sipPort apiId apiHash =
      before ++ ("port=" ++ toString port) :: after :=
  ⟨(settingsLines 0 "" "" "" "").take 11, fun port numPhone sipPort apiId apiHash =>
    ⟨(settingsLines port numPhone sipPort apiId apiHash).drop 12, rfl⟩⟩

/-- The text has the port in it. -/
theorem exists_settingsText : ∃ head : String, ∀ sipPort numPhone settings,
    ∃ rest : String, settingsText sipPort numPhone settings =
      head ++ (toString (30000 + settings.id) ++ ("\n" ++ rest)) := by
  obtain ⟨before, hbefore⟩ := exists_settingsLines
  refine ⟨String.join (before.map (· ++ "\n")) ++ "port=", fun sipPort numPhone settings => ?_⟩
  obtain ⟨after, hafter⟩ := hbefore (30000 + settings.id) numPhone sipPort
    (phpText (settings.attr .apiId)) (phpText (settings.attr .apiHash))
  refine ⟨String.join (after.map (· ++ "\n")), ?_⟩
  rw [settingsText, hafter, List.map_append, List.map_cons, String.join_append, String.join_cons]
  simp only [String.append_assoc]

/-- Rows with different ids give different ports. -/
theorem id_eq_of_settingsText
    (h : settingsText sipPort numPhone r = settingsText sipPort numPhone s) : r.id = s.id := by
  obtain ⟨head, hhead⟩ := exists_settingsText
  obtain ⟨rest, hr⟩ := hhead sipPort numPhone r
  obtain ⟨rest', hs⟩ := hhead sipPort numPhone s
  rw [hr, hs, String.append_right_inj] at h
  exact Nat.add_left_cancel (eq_of_append_newline h)

theorem settingsFile_inj {p q : String} (h : settingsFile moduleDir p = settingsFile moduleDir q) :
    p = q := by
  unfold settingsFile workDirOf at h
  exact (String.append_right_inj _).1 ((String.append_left_inj _).1 h)

theorem workDirOf_ne_empty : workDirOf moduleDir numPhone ≠ "" := by
  intro h
  have hlist := congrArg String.toList h
  simp [workDirOf] at hlist

theorem keyboardDirOf_ne_empty : keyboardDirOf moduleDir numPhone ≠ "" := by
  intro h
  have hlist := congrArg String.toList h
  simp [keyboardDirOf] at hlist

theorem digitsOnly_of_digits (h : ∀ c ∈ numPhone.toList, c.isDigit = true) :
    digitsOnly numPhone = numPhone := by
  rw [digitsOnly, List.filter_eq_self.2 h, String.ofList_toList]

end texts

/-! ## One line -/

namespace Host

variable {h h' : Host} {auth : TelegramAuth} {first : Option Line} {line settings : Line}
  {rows : List Line} {numPhone path : String}

/-- The loop changes nothing of the host but files, directories and processes. -/
structure SameSite (h h' : Host) : Prop where
  moduleDir : h'.moduleDir = h.moduleDir
  table : h'.table = h.table
  sipPort : h'.sipPort = h.sipPort
  creatable : h'.creatable = h.creatable

theorem SameSite.trans {h'' : Host} (h₁ : SameSite h h') (h₂ : SameSite h' h'') :
    SameSite h h'' :=
  ⟨h₂.moduleDir.trans h₁.moduleDir, h₂.table.trans h₁.table, h₂.sipPort.trans h₁.sipPort,
    h₂.creatable.trans h₁.creatable⟩

theorem sameSite_mwMkdir (path : String) (h : Host) :
    SameSite h (h.mwMkdir path) ∧ (h.mwMkdir path).files = h.files := by
  unfold mwMkdir
  split_ifs
  · exact ⟨⟨rfl, rfl, rfl, rfl⟩, rfl⟩
  · exact ⟨⟨rfl, rfl, rfl, rfl⟩, rfl⟩

theorem fileExists_mwMkdir (hcreatable : h.creatable path = true) (hpath : path ≠ "") :
    (h.mwMkdir path).fileExists path = true := by
  simp [mwMkdir, fileExists, hcreatable, hpath]

theorem sameSite_startGateway (confFile : String) : SameSite h
    (h.startGateway settings numPhone confFile) ∧
      (h.startGateway settings numPhone confFile).files = h.files := by
  unfold startGateway
  dsimp only
  split_ifs
  · exact ⟨⟨rfl, rfl, rfl, rfl⟩, rfl⟩
  · exact ⟨⟨rfl, rfl, rfl, rfl⟩, rfl⟩

theorem SameSite.findFirst (hsame : SameSite h h') (login : String) :
    h'.findFirst login = h.findFirst login := by
  unfold Host.findFirst
  rw [hsame.table]

/-- A phone number finds its line. -/
theorem Ready.findFirst (hr : h.Ready) (hline : line ∈ h.table.rows) :
    h.findFirst (phoneOf line) = some line := by
  obtain ⟨number, hnumber, -⟩ := hr.digits line hline
  have hphone : line.attr .phoneNumber = some (phoneOf line) := by
    simp [phoneOf, phpText, hnumber]
  unfold Host.findFirst
  cases hfind : h.table.rows.find? fun x => decide (x.attr .phoneNumber = some (phoneOf line)) with
  | none => simpa [hphone] using List.find?_eq_none.1 hfind line hline
  | some other =>
    have hmem := List.mem_of_find?_eq_some hfind
    have hother : other.attr .phoneNumber = some (phoneOf line) := by
      simpa using List.find?_some hfind
    have hsame : phoneOf other = phoneOf line := by
      simp [phoneOf, phpText, hother]
    rw [List.inj_on_of_nodup_map hr.distinct hmem hline hsame]

theorem fileExists_mwMkdir_of (path : String) {q : String} (hq : h.fileExists q = true) :
    (h.mwMkdir path).fileExists q = true := by
  unfold mwMkdir
  split_ifs
  · simp only [fileExists, Bool.and_eq_true, Bool.or_eq_true] at hq ⊢
    refine ⟨hq.1, hq.2.imp_right fun hdirs => ?_⟩
    rw [List.any_cons, hdirs, Bool.or_true]
  · exact hq

/-- With a directory there is the one it is in. -/
theorem fileExists_of_sub {path : String} (sub : String) (hpath : path ≠ "")
    (hsub : path ++ "/" ++ sub ∈ h.dirs) : h.fileExists path = true := by
  have hinside : (path.toList ++ ['/']).isPrefixOf (path ++ "/" ++ sub).toList = true := by
    have hslash : "/".toList = ['/'] := rfl
    rw [List.isPrefixOf_iff_prefix, String.toList_append, String.toList_append, hslash]
    exact List.prefix_append _ _
  have hany : (h.dirs.any fun dir =>
      decide (dir = path) || (path.toList ++ ['/']).isPrefixOf dir.toList) = true :=
    List.any_eq_true.2 ⟨_, hsub, by rw [hinside, Bool.or_true]⟩
  simp [fileExists, hpath, hany]

theorem fileExists_filePutContents {q : String} (path text : String) (hq : h.fileExists q = true) :
    (h.filePutContents path text).fileExists q = true := by
  simp only [fileExists, filePutContents, Bool.and_eq_true, Bool.or_eq_true] at hq ⊢
  refine ⟨hq.1, hq.2.imp_left fun hfile => ?_⟩
  rw [Function.update_apply]
  split_ifs
  · rfl
  · exact hfile

theorem initWorkDir_of_none (numPhone : String) (hnone : h.findFirst auth.login = none) :
    auth.initWorkDir numPhone h = (auth, h) := by
  unfold TelegramAuth.initWorkDir
  rw [hnone]

/-- The directories are made if the login finds a row. -/
theorem initWorkDir_of_found (numPhone : String) (hfound : h.findFirst auth.login = some settings)
    (hcreatable : ∀ path, h.creatable path = true) :
    ∃ h₁, auth.initWorkDir numPhone h =
        ({ auth with
            workDir := workDirOf h.moduleDir numPhone
            workKeyboardDir := keyboardDirOf h.moduleDir numPhone
            workBotDir := botDirOf h.moduleDir }, h₁) ∧
      SameSite h h₁ ∧ h₁.files = h.files ∧ h₁.fileExists (workDirOf h.moduleDir numPhone) = true ∧
      h₁.fileExists (keyboardDirOf h.moduleDir numPhone) = true := by
  unfold TelegramAuth.initWorkDir
  rw [hfound]
  refine ⟨_, rfl, ?_, ?_, fileExists_mwMkdir ?_ workDirOf_ne_empty, ?_⟩
  · exact ((sameSite_mwMkdir _ _).1.trans (sameSite_mwMkdir _ _).1).trans (sameSite_mwMkdir _ _).1
  · rw [(sameSite_mwMkdir _ _).2, (sameSite_mwMkdir _ _).2, (sameSite_mwMkdir _ _).2]
  · rw [(sameSite_mwMkdir _ _).1.creatable, (sameSite_mwMkdir _ _).1.creatable]
    exact hcreatable _
  · refine fileExists_mwMkdir_of _ (fileExists_mwMkdir_of _ ?_)
    refine fileExists_of_sub "database" keyboardDirOf_ne_empty ?_
    have hdatabase : "/" ++ "database" = "/database" := rfl
    rw [String.append_assoc, hdatabase, mwMkdir, if_pos (hcreatable _)]
    exact List.mem_cons_self

/-- The settings are those of the row the login finds. -/
theorem makeSettingsFile_of_found (numPhone : String) {named : TelegramAuth}
    (hnamed : named = if phpEmpty auth.login then { auth with login := numPhone } else auth)
    (hfound : h.findFirst named.login = some settings)
    (hcreatable : ∀ path, h.creatable path = true) :
    ∃ auth' h', auth.makeSettingsFile numPhone h = .ok (settingsFile h.moduleDir numPhone, auth', h') ∧
      auth'.login = named.login ∧ auth'.id = settings.id ∧
      auth'.workDir = workDirOf h.moduleDir numPhone ∧ SameSite h h' ∧
      h'.fileExists auth'.workDir = true ∧
      h'.files = Function.update h.files (settingsFile h.moduleDir numPhone)
        (some (settingsText h.sipPort numPhone settings)) := by
  obtain ⟨h₁, hinit, hsame, hfiles, hexists, -⟩ := initWorkDir_of_found numPhone hfound hcreatable
  have hfound₁ : h₁.findFirst named.login = some settings := by
    rw [hsame.findFirst, hfound]
  unfold TelegramAuth.makeSettingsFile
  dsimp only
  rw [← hnamed, hinit]
  simp only [hexists, hfound₁, Bool.not_true, Bool.false_eq_true, if_false]
  refine ⟨_, _, rfl, rfl, rfl, rfl, ⟨hsame.moduleDir, hsame.table, hsame.sipPort, hsame.creatable⟩,
    fileExists_filePutContents _ _ hexists, ?_⟩
  rw [← hfiles, ← hsame.sipPort]
  rfl

/-- What the object remembers : no login, or the one of the line `first`. -/
def Knows (h : Host) (auth : TelegramAuth) : Option Line → Prop
  | none => phpEmpty auth.login = true
  | some first => phpEmpty auth.login = false ∧ h.findFirst auth.login = some first

theorem Knows.of_sameSite (hknows : h.Knows auth first) (hsame : SameSite h h') :
    h'.Knows auth first := by
  cases first with
  | none => exact hknows
  | some first => exact ⟨hknows.1, (hsame.findFirst _).trans hknows.2⟩

/-- A line gets the settings of the row the object remembers, or else its own. -/
theorem Knows.makeSettingsFile (hknows : h.Knows auth first) (hr : h.Ready)
    (hline : line ∈ h.table.rows) :
    ∃ auth' h', auth.makeSettingsFile (phoneOf line) h =
        .ok (settingsFile h.moduleDir (phoneOf line), auth', h') ∧
      h'.Knows auth' (first.or (if phpEmpty (phoneOf line) then none else some line)) ∧
      SameSite h h' ∧
      h'.files = Function.update h.files (settingsFile h.moduleDir (phoneOf line))
        (some (settingsText h.sipPort (phoneOf line) (first.getD line))) := by
  cases first with
  | none =>
    have hempty : phpEmpty auth.login = true := hknows
    obtain ⟨auth', h', hok, hlogin, -, -, hsame, -, hfiles⟩ :=
      makeSettingsFile_of_found (phoneOf line) (if_pos hempty).symm (hr.findFirst hline) hr.creatable
    refine ⟨auth', h', hok, ?_, hsame, hfiles⟩
    by_cases hphone : phpEmpty (phoneOf line) = true
    · rw [if_pos hphone]
      exact (congrArg phpEmpty hlogin).trans hphone
    · rw [if_neg hphone]
      refine ⟨(congrArg phpEmpty hlogin).trans (by simpa using hphone), ?_⟩
      rw [hlogin, hsame.findFirst]
      exact hr.findFirst hline
  | some settings =>
    obtain ⟨hlogin, hfound⟩ := hknows
    obtain ⟨auth', h', hok, hlogin', -, -, hsame, -, hfiles⟩ :=
      makeSettingsFile_of_found (phoneOf line) (if_neg (by simp [hlogin])).symm hfound hr.creatable
    refine ⟨auth', h', hok, ⟨by rw [hlogin', hlogin], ?_⟩, hsame, hfiles⟩
    rw [hlogin', hsame.findFirst, hfound]

/-! ## All lines -/

/-- The files of the lines, with what is written to them. -/
def written (h : Host) (first : Option Line) (rows : List Line) : List (String × String) :=
  (sources first rows).map fun p =>
    (settingsFile h.moduleDir (phoneOf p.1), settingsText h.sipPort (phoneOf p.1) p.2)

theorem SameSite.written (hsame : SameSite h h') : h'.written first rows = h.written first rows := by
  unfold Host.written
  rw [hsame.moduleDir, hsame.sipPort]

theorem SameSite.ready (hsame : SameSite h h') (hr : h.Ready) : h'.Ready :=
  ⟨hsame.table ▸ hr.digits, hsame.table ▸ hr.distinct, hsame.creatable ▸ hr.creatable⟩

/-- The loop writes the file of each line, one after the other. -/
theorem Knows.startLines (hknows : h.Knows auth first) (hr : h.Ready)
    (hrows : ∀ line ∈ rows, line ∈ h.table.rows) :
    ∃ auth' h', Host.startLines rows auth h = (none, auth', h') ∧ SameSite h h' ∧
      h'.files = puts (h.written first rows) h.files := by
  induction rows generalizing h auth first with
  | nil => exact ⟨auth, h, rfl, ⟨rfl, rfl, rfl, rfl⟩, rfl⟩
  | cons line rows ih =>
    have hline : line ∈ h.table.rows := hrows line List.mem_cons_self
    obtain ⟨number, hnumber, hdigits⟩ := hr.digits line hline
    have hphone : digitsOnly (phoneOf line) = phoneOf line := by
      refine digitsOnly_of_digits ?_
      simpa [phoneOf, phpText, hnumber] using hdigits
    obtain ⟨auth₁, h₁, hok, hknows₁, hsame₁, hfiles₁⟩ := hknows.makeSettingsFile hr hline
    generalize hstart : h₁.startGateway line (phoneOf line) (settingsFile h.moduleDir (phoneOf line)) =
      h₂
    obtain ⟨hsame₂, hfiles₂⟩ : SameSite h₁ h₂ ∧ h₂.files = h₁.files :=
      hstart ▸ sameSite_startGateway _
    have hsame := hsame₁.trans hsame₂
    obtain ⟨auth', h', hok', hsame', hfiles'⟩ := ih (hknows₁.of_sameSite hsame₂) (hsame.ready hr)
      fun x hx => hsame.table ▸ hrows x (List.mem_cons_of_mem _ hx)
    refine ⟨auth', h', ?_, hsame.trans hsame', ?_⟩
    · simp only [Host.startLines, hphone, hok, hstart, hok']
    · rw [hfiles', hsame.written, hfiles₂, hfiles₁]
      rfl

end Host

/-! ## Every table -/

section sources

variable {first : Option Line} {rows : List Line} {p : Line × Line}

theorem map_fst_sources (first : Option Line) (rows : List Line) :
    (sources first rows).map Prod.fst = rows := by
  induction rows generalizing first with
  | nil => rfl
  | cons line rows ih => rw [sources, List.map_cons, ih]

/-- The settings are those of a line of the table. -/
theorem mem_of_mem_sources (h : p ∈ sources first rows) :
    p.1 ∈ rows ∧ (first = some p.2 ∨ p.2 ∈ rows) := by
  induction rows generalizing first with
  | nil => simp [sources] at h
  | cons line rows ih =>
    rw [sources, List.mem_cons] at h
    rcases h with rfl | h
    · cases first with
      | none => simp
      | some first => simp
    · obtain ⟨hline, hfirst | hmem⟩ := ih h
      · refine ⟨List.mem_cons_of_mem _ hline, ?_⟩
        cases first with
        | none =>
          rw [Option.none_or] at hfirst
          split_ifs at hfirst
          exact Or.inr (by simp [Option.some.inj hfirst])
        | some first => exact Or.inl hfirst
      · exact ⟨List.mem_cons_of_mem _ hline, Or.inr (List.mem_cons_of_mem _ hmem)⟩

/-- Every line gets its own settings exactly if only the last has a number that is not empty. -/
theorem own_sources_iff (hnodup : rows.Nodup) : (∀ p ∈ sources none rows, p.2 = p.1) ↔
    ∀ line ∈ rows.dropLast, phpEmpty (phoneOf line) = true := by
  induction rows with
  | nil => simp [sources]
  | cons line rows ih =>
    obtain ⟨hnot, hnodup⟩ := List.nodup_cons.1 hnodup
    cases rows with
    | nil => simp [sources]
    | cons next rows =>
      rw [sources, List.dropLast_cons_cons, List.forall_mem_cons, List.forall_mem_cons,
        Option.getD_none, Option.none_or]
      by_cases hphone : phpEmpty (phoneOf line) = true
      · rw [if_pos hphone, ih hnodup]
        simp [hphone]
      · rw [if_neg hphone]
        refine iff_of_false (fun h => ?_) (fun h => hphone h.1)
        have hsame : line = next := h.2 (next, line) (by simp [sources])
        exact hnot (by simp [hsame])

end sources

/-- What `startSipTg` leaves in the file of a line. -/
theorem exists_startSipTg {h : Host} (hr : h.Ready) : ∃ h', h.startSipTg = .ok h' ∧
    ∀ p ∈ sources none h.table.rows, h'.files (settingsFile h.moduleDir (phoneOf p.1)) =
      some (settingsText h.sipPort (phoneOf p.1) p.2) := by
  have hknows : h.Knows {} none := rfl
  obtain ⟨auth, h', hok, -, hfiles⟩ := hknows.startLines hr fun _ hline => hline
  refine ⟨h', by rw [Host.startSipTg, hok], fun p hp => ?_⟩
  rw [hfiles]
  refine puts_of_mem ?_ (List.mem_map.2 ⟨p, hp, rfl⟩)
  have hkeys : (h.written none h.table.rows).map Prod.fst =
      (h.table.rows.map phoneOf).map (settingsFile h.moduleDir) := by
    rw [Host.written, List.map_map, List.map_map]
    conv_rhs => rw [← map_fst_sources none h.table.rows, List.map_map]
    rfl
  rw [hkeys]
  exact hr.distinct.map fun _ _ => settingsFile_inj

/-- `startSipTg` gives every line its own settings exactly if at most the last line has a phone
number that is not empty for PHP. -/
theorem configured_iff (h : Host) (hr : h.Ready) : ∃ h', h.startSipTg = .ok h' ∧
    (Configured h h' ↔ ∀ line ∈ h.table.rows.dropLast, phpEmpty (phoneOf line) = true) := by
  obtain ⟨h', hok, hfiles⟩ := exists_startSipTg hr
  refine ⟨h', hok, ?_⟩
  rw [← own_sources_iff h.table.nodup_ids.of_map]
  constructor
  · rintro hconfigured p hp
    obtain ⟨hline, hfirst⟩ := mem_of_mem_sources hp
    have htext := (hfiles p hp).symm.trans (hconfigured p.1 hline)
    have hid := id_eq_of_settingsText (Option.some.inj htext)
    exact Records.Table.eq_of_id_eq (hfirst.resolve_left (by simp)) hline hid
  · intro hown line hline
    obtain ⟨p, hp, rfl⟩ : ∃ p ∈ sources none h.table.rows, p.1 = line := by
      rwa [← map_fst_sources none h.table.rows, List.mem_map] at hline
    rw [hfiles p hp, hown p hp]

/-- A module directory with the lines of a table, where nothing runs and nothing is written. -/
def installed (t : Table Attributes) : Host where
  moduleDir := "/storage/usbdisk1/mikopbx/custom_modules/ModuleTelegramProvider"
  table := t
  files := fun _ => none
  dirs := []
  creatable := fun _ => true
  sipPort := "5060"
  pidOf := fun _ => ""
  genDb := fun _ => textAuthOk

/-- The row of a phone number, with the settings of the first line. -/
def attributesOf (phoneNumber : String) : Attributes
  | .apiId => some "94575"
  | .apiHash => some "a3406de8d171"
  | .phoneNumber => some phoneNumber
  | column => Attributes.default column

/-- One line, and the same with a second. -/
def oneRow : Table Attributes where
  rows := [⟨1, attributesOf "79000000001"⟩]
  sorted := List.pairwise_singleton _ _

def twoRows : Table Attributes :=
  oneRow.insert 0 (attributesOf "79000000002")

theorem ready_installed {t : Table Attributes} {numbers : List String}
    (hrows : t.rows.map (·.attr) = numbers.map attributesOf)
    (hdigits : (numbers.all fun number => number.toList.all Char.isDigit) = true)
    (hnodup : numbers.Nodup) : (installed t).Ready := by
  refine ⟨fun line hline => ?_, ?_, fun _ => rfl⟩
  · have hattr : line.attr ∈ numbers.map attributesOf := hrows ▸ List.mem_map_of_mem hline
    obtain ⟨number, hnumber, hline⟩ := List.mem_map.1 hattr
    exact ⟨number, hline ▸ rfl, List.all_eq_true.1 (List.all_eq_true.1 hdigits number hnumber)⟩
  · have hphones : t.rows.map phoneOf = numbers := by
      have hmap := congrArg (List.map fun attr => phpText (attr .phoneNumber)) hrows
      rw [List.map_map, List.map_map] at hmap
      exact hmap.trans (List.map_id numbers)
    exact hphones.symm ▸ hnodup

theorem configured_iff_one_line :
    ∃ h', (installed oneRow).startSipTg = .ok h' ∧ Configured (installed oneRow) h' := by
  have hready : (installed oneRow).Ready :=
    @ready_installed oneRow ["79000000001"] rfl (by decide) (by decide)
  obtain ⟨h', hok, hiff⟩ := configured_iff (installed oneRow) hready
  exact ⟨h', hok, hiff.2 (by simp [installed, oneRow])⟩

/-- The second of two lines gets the port of the first. -/
theorem misconfigured_of_two_lines : (installed twoRows).Ready ∧
    ∃ h', (installed twoRows).startSipTg = .ok h' ∧ ¬Configured (installed twoRows) h' := by
  have hready : (installed twoRows).Ready :=
    @ready_installed twoRows ["79000000001", "79000000002"] rfl (by decide) (by decide)
  obtain ⟨h', hok, hfiles⟩ := exists_startSipTg hready
  refine ⟨hready, h', hok, fun hconfigured => ?_⟩
  have hsecond := hfiles (⟨2, attributesOf "79000000002"⟩, ⟨1, attributesOf "79000000001"⟩)
    (List.mem_cons_of_mem _ (List.mem_singleton.2 rfl))
  have hown := hconfigured ⟨2, attributesOf "79000000002"⟩
    (List.mem_cons_of_mem _ (List.mem_singleton.2 rfl))
  have hid := id_eq_of_settingsText (Option.some.inj (hsecond.symm.trans hown))
  exact absurd hid (by decide)

end TelegramProvider
