import TelegramProvider.Keyboard

/-!
# One line, seen from seven sides

A line is looked up by its phone number as it is stored, by the digits of it, or by its id.
`start`, `enterCommand` and the directories of `startTdKeyboard` go by the stored number,
`startKeyboard` and the settings of `startTdKeyboard` by the digits, `startSipTg` by the digits
of the first line that has some, `getStatus` by the id, and `logout` by the digits it is given.

`oneRecord_iff` says for which lines they all find the same row and use the same directories.
-/

set_option autoImplicit false

namespace TelegramProvider

open Records

/-! ## The other entries -/

/-- `TelegramProviderConf::STATUS_FILE_NAME`. -/
def statusFileName : String := "status.txt"

namespace TelegramAuth

/-- The settings `start` makes, or `none` if it exits. -/
def startSettings (params : String) (auth : TelegramAuth) (h : Host) :
    Option (Except PhpError (String × TelegramAuth × Host)) :=
  if phpEmpty params then none else
    some (makeSettingsFile (digitsOnly params) { auth with login := params } h)

/-- The settings `startKeyboard` makes, or `none` if it exits. -/
def startKeyboardSettings (pbx : Pbx) (params : String) (auth : TelegramAuth) (h : Host) :
    Option (String × TelegramAuth × Host) :=
  if phpEmpty params then none else
    some (makeSettingsKeyboardFile pbx (digitsOnly params) { auth with login := params } h)

end TelegramAuth

namespace Host

/-- The row and the status file `enterCommand` takes, or `none` if it fails before. -/
def commandFile (login key : String) (h : Host) : Option (Line × String) :=
  if phpEmpty login then none else
    match h.findFirst login with
    | none => none
    | some settings =>
      let phone := digitsOnly (phoneOf settings)
      if key = "user" then some (settings, keyboardDirOf h.moduleDir phone ++ "/" ++ statusFileName)
      else if key = "gw" then some (settings, workDirOf h.moduleDir phone ++ "/" ++ statusFileName)
      else none

/-- The row and the status files of `getStatus`, or `none` if it answers that there is no row. -/
def statusFiles (id : String) (h : Host) : Option (Line × List (String × String)) :=
  if phpEmpty id then none else
    match h.table.rows.find? (Controller.hasId id) with
    | none => none
    | some settings =>
      let phone := digitsOnly (phoneOf settings)
      some (settings, [
        ("gw", workDirOf h.moduleDir phone ++ "/" ++ statusFileName),
        ("user", keyboardDirOf h.moduleDir phone ++ "/" ++ statusFileName),
        ("bot", keyboardDirOf h.moduleDir "bot" ++ "/" ++ statusFileName)])

/-- A path is in a directory, or is the directory. -/
def under (dir path : String) : Bool :=
  path = dir || (dir.toList ++ ['/']).isPrefixOf path.toList

/-- `rm -rf`. -/
def removeTree (dir : String) (h : Host) : Host :=
  { h with
    files := fun path => if under dir path then none else h.files path
    dirs := h.dirs.filter fun path => !under dir path }

/-- What `logout` did : the titles whose processes it killed, and whether it succeeded. -/
structure LoggedOut where
  killed : List String
  success : Bool
  host : Host

/-- `logout`. -/
def logout (id phone : String) (h : Host) : LoggedOut :=
  let killed := ["tg2sip -" ++ id ++ "-", "td-keyboard=" ++ id ++ "-"]
  let numPhone := digitsOnly phone
  let h := if phpEmpty numPhone then h else
    (h.removeTree (workDirOf h.moduleDir numPhone)).removeTree (keyboardDirOf h.moduleDir numPhone)
  ⟨killed, !h.fileExists (workDirOf h.moduleDir numPhone) &&
    !h.fileExists (keyboardDirOf h.moduleDir numPhone), h⟩

/-! ## One record -/

end Host

/-- The digits of the phone number of a line. -/
def digitsOf (line : Line) : String :=
  digitsOnly (phoneOf line)

namespace Host

/-- All entries find the row of a line, and use the directories of its digits. `before` are the
lines before it in the table. -/
structure OneRecord (pbx : Pbx) (before : List Line) (line : Line) (h : Host) : Prop where
  start : ∀ auth₀ : TelegramAuth, ∃ auth h', auth₀.startSettings (phoneOf line) h =
      some (.ok (settingsFile h.moduleDir (digitsOf line), auth, h')) ∧
    auth.id = line.id ∧ auth.workDir = workDirOf h.moduleDir (digitsOf line) ∧
    h'.files (settingsFile h.moduleDir (digitsOf line)) =
      some (settingsText h.sipPort (digitsOf line) line)
  startKeyboard : ∀ auth₀ : TelegramAuth, ∃ auth h',
    auth₀.startKeyboardSettings pbx (phoneOf line) h =
      some (keyboardFile h.moduleDir (digitsOf line), auth, h') ∧
    auth.workDir = keyboardDirOf h.moduleDir (digitsOf line) ∧
    h'.files (keyboardFile h.moduleDir (digitsOf line)) =
      some (pbx.clientText h.moduleDir (digitsOf line) (digitsOf line)
        (keyboardDirOf h.moduleDir (digitsOf line)) line)
  startSipTg : ∃ auth h₁ auth' h', startLines before {} h = (none, auth, h₁) ∧
    auth.makeSettingsFile (digitsOf line) h₁ =
      .ok (settingsFile h.moduleDir (digitsOf line), auth', h') ∧
    auth'.id = line.id ∧ auth'.workDir = workDirOf h.moduleDir (digitsOf line) ∧
    h'.files (settingsFile h.moduleDir (digitsOf line)) =
      some (settingsText h.sipPort (digitsOf line) line)
  startTdKeyboard : ∃ auth h', ({} : TelegramAuth).makeSettingsKeyboardFile pbx (phoneOf line)
      (startClients pbx before h) = (keyboardFile h.moduleDir (digitsOf line), auth, h') ∧
    auth.workDir = keyboardDirOf h.moduleDir (digitsOf line) ∧
    h'.files (keyboardFile h.moduleDir (digitsOf line)) =
      some (pbx.clientText h.moduleDir (phoneOf line) (digitsOf line)
        (keyboardDirOf h.moduleDir (digitsOf line)) line)
  enterCommand : ∀ login ∈ [phoneOf line, digitsOf line],
    h.commandFile login "gw" =
      some (line, workDirOf h.moduleDir (digitsOf line) ++ "/" ++ statusFileName) ∧
    h.commandFile login "user" =
      some (line, keyboardDirOf h.moduleDir (digitsOf line) ++ "/" ++ statusFileName)
  getStatus : h.statusFiles (toString line.id) = some (line, [
    ("gw", workDirOf h.moduleDir (digitsOf line) ++ "/" ++ statusFileName),
    ("user", keyboardDirOf h.moduleDir (digitsOf line) ++ "/" ++ statusFileName),
    ("bot", keyboardDirOf h.moduleDir "bot" ++ "/" ++ statusFileName)])
  logout : h.logout (toString line.id) (phoneOf line) =
    ⟨["tg2sip -" ++ toString line.id ++ "-", "td-keyboard=" ++ toString line.id ++ "-"], true,
      (h.removeTree (workDirOf h.moduleDir (digitsOf line))).removeTree
        (keyboardDirOf h.moduleDir (digitsOf line))⟩

/-- No two lines have the same digits. -/
def Distinct (h : Host) : Prop :=
  (h.table.rows.map digitsOf).Nodup

end Host

/-- The phone number is stored as its digits. -/
def Own (line : Line) : Prop :=
  line.attr .phoneNumber = some (digitsOf line)

instance (line : Line) : Decidable (Own line) :=
  inferInstanceAs (Decidable (line.attr .phoneNumber = some (digitsOf line)))

theorem digitsOnly_digitsOnly (s : String) : digitsOnly (digitsOnly s) = digitsOnly s := by
  refine digitsOnly_of_digits fun c hc => ?_
  rw [digitsOnly, String.toList_ofList] at hc
  exact (List.mem_filter.1 hc).2

theorem phoneOf_eq {line : Line} {number : String} (h : line.attr .phoneNumber = some number) :
    phoneOf line = number := by
  simp [phoneOf, phpText, h]

theorem toString_nat_injective {m n : ℕ} (h : toString m = toString n) : m = n := by
  have htext : toString m ++ ("\n" ++ "") = toString n ++ ("\n" ++ "") := by rw [h]
  exact eq_of_append_newline htext

theorem Own.phoneOf {line : Line} (h : Own line) : phoneOf line = digitsOf line :=
  phoneOf_eq h

/-- The object `makeSettingsFile` goes on with. -/
def TelegramAuth.named (numPhone : String) (auth : TelegramAuth) : TelegramAuth :=
  if phpEmpty auth.login then { auth with login := numPhone } else auth

namespace Host

variable {pbx : Pbx} {h h' : Host} {auth auth' : TelegramAuth} {line r : Line}
  {es before after : List Line} {numPhone login file : String}

/-! ## Rows that are found -/

theorem of_findFirst (hfound : h.findFirst login = some r) :
    r ∈ h.table.rows ∧ r.attr .phoneNumber = some login := by
  refine ⟨List.mem_of_find?_eq_some hfound, ?_⟩
  simpa using List.find?_some hfound

/-- The digits find a line exactly if it is stored as its digits. -/
theorem Distinct.findFirst_iff (hd : h.Distinct) (hline : line ∈ h.table.rows) :
    h.findFirst (digitsOf line) = some r ↔ r = line ∧ Own line := by
  have hkey : ∀ s ∈ h.table.rows, s.attr .phoneNumber = some (digitsOf line) → s = line := by
    intro s hs hphone
    refine List.inj_on_of_nodup_map hd hs hline ?_
    rw [digitsOf, phoneOf_eq hphone, digitsOf, digitsOnly_digitsOnly]
  constructor
  · intro hfound
    obtain ⟨hmem, hphone⟩ := of_findFirst hfound
    obtain rfl := hkey r hmem hphone
    exact ⟨rfl, hphone⟩
  · rintro ⟨rfl, hown⟩
    cases hfind : h.findFirst (digitsOf r) with
    | none =>
      unfold Host.findFirst at hfind
      have hnumber : r.attr .phoneNumber = some (digitsOf r) := hown
      simpa [hnumber] using List.find?_eq_none.1 hfind r hline
    | some s =>
      obtain ⟨hmem, hphone⟩ := of_findFirst hfind
      rw [hkey s hmem hphone]

theorem Distinct.findFirst_eq_none (hd : h.Distinct) (hline : line ∈ h.table.rows)
    (hown : ¬Own line) : h.findFirst (digitsOf line) = none := by
  cases hfind : h.findFirst (digitsOf line) with
  | none => rfl
  | some s => exact absurd ((hd.findFirst_iff hline).1 hfind).2 hown

theorem SameSite.distinct (hsame : SameSite h h') (hd : h.Distinct) : h'.Distinct := by
  unfold Distinct
  rw [hsame.table]
  exact hd

/-! ## `makeSettingsFile`, whatever it finds -/

theorem sameSite_initWorkDir (numPhone : String) (auth : TelegramAuth) (h : Host) :
    (auth.initWorkDir numPhone h).1.login = auth.login ∧
      (auth.initWorkDir numPhone h).1.id = auth.id ∧
      SameSite h (auth.initWorkDir numPhone h).2 := by
  unfold TelegramAuth.initWorkDir
  split
  · exact ⟨rfl, rfl, rfl, rfl, rfl, rfl⟩
  · exact ⟨rfl, rfl, ((sameSite_mwMkdir _ _).1.trans (sameSite_mwMkdir _ _).1).trans
      (sameSite_mwMkdir _ _).1⟩

/-- What `makeSettingsFile` does when it returns : it makes the directories, and writes the settings
if it gets there. -/
theorem makeSettingsFile_cases (hok : auth.makeSettingsFile numPhone h = .ok (file, auth', h')) :
    ∃ ready h₁, (auth.named numPhone).initWorkDir numPhone h = (ready, h₁) ∧
      ((file = "" ∧ auth' = ready ∧ h' = h₁) ∨
        ∃ r, h₁.findFirst ready.login = some r ∧ auth' = { ready with id := r.id } ∧
          h' = h₁.filePutContents (ready.workDir ++ "/settings.ini")
            (settingsText h₁.sipPort numPhone r)) := by
  unfold TelegramAuth.makeSettingsFile at hok
  obtain ⟨⟨ready, h₁⟩, hinit⟩ : ∃ p, (auth.named numPhone).initWorkDir numPhone h = p := ⟨_, rfl⟩
  have hnamed : (if phpEmpty auth.login = true then { auth with login := numPhone } else auth) =
      auth.named numPhone := rfl
  dsimp only at hok
  rw [hnamed, hinit] at hok
  dsimp only at hok
  refine ⟨ready, h₁, hinit, ?_⟩
  split_ifs at hok with hexists
  · obtain ⟨rfl, hauth⟩ := Prod.mk.inj (Except.ok.inj hok)
    obtain ⟨rfl, rfl⟩ := Prod.mk.inj hauth
    exact Or.inl ⟨rfl, rfl, rfl⟩
  · cases hfind : h₁.findFirst ready.login with
    | none => simp [hfind] at hok
    | some r =>
      rw [hfind] at hok
      obtain ⟨-, hauth⟩ := Prod.mk.inj (Except.ok.inj hok)
      obtain ⟨rfl, rfl⟩ := Prod.mk.inj hauth
      exact Or.inr ⟨r, rfl, rfl, rfl⟩

/-- A login that was set stays. The id is that of the row the login finds, if a file is written. -/
theorem of_makeSettingsFile (hok : auth.makeSettingsFile numPhone h = .ok (file, auth', h')) :
    auth'.login = (if phpEmpty auth.login then numPhone else auth.login) ∧ SameSite h h' ∧
      ((file = "" ∧ auth'.id = auth.id) ∨
        ∃ r, h.findFirst auth'.login = some r ∧ auth'.id = r.id) := by
  obtain ⟨ready, h₁, hinit, hcases⟩ := makeSettingsFile_cases hok
  have hnamed : (auth.named numPhone).login = (if phpEmpty auth.login then numPhone else auth.login) ∧
      (auth.named numPhone).id = auth.id := by
    unfold TelegramAuth.named
    split_ifs
    · exact ⟨rfl, rfl⟩
    · exact ⟨rfl, rfl⟩
  obtain ⟨hready, hid, hsame⟩ := sameSite_initWorkDir numPhone (auth.named numPhone) h
  rw [hinit] at hready hid hsame
  rw [← hnamed.1, ← hnamed.2, ← hready, ← hid]
  rcases hcases with ⟨rfl, rfl, rfl⟩ | ⟨r, hfind, rfl, rfl⟩
  · exact ⟨rfl, hsame, Or.inl ⟨rfl, rfl⟩⟩
  · refine ⟨rfl, ⟨hsame.moduleDir, hsame.table, hsame.sipPort, hsame.creatable⟩, Or.inr ?_⟩
    exact ⟨r, (hsame.findFirst _).symm.trans hfind, rfl⟩

/-- Without a row nothing is written, and a directory that is left from before is an error. -/
theorem makeSettingsFile_of_none (hempty : phpEmpty auth.login = true)
    (hnone : h.findFirst numPhone = none) :
    auth.makeSettingsFile numPhone h =
      if h.fileExists auth.workDir then .error .typeError
      else .ok ("", { auth with login := numPhone }, h) := by
  have hinit : ({ auth with login := numPhone } : TelegramAuth).initWorkDir numPhone h = _ :=
    initWorkDir_of_none numPhone hnone
  unfold TelegramAuth.makeSettingsFile
  simp only [hempty, if_true, hinit, hnone]
  cases h.fileExists auth.workDir <;> rfl

/-! ## The lines before a line -/

theorem fileExists_startGateway (settings : Line) (confFile path : String) :
    (h.startGateway settings numPhone confFile).fileExists path = h.fileExists path := by
  unfold startGateway
  dsimp only
  split_ifs
  · rfl
  · rfl

/-- The login the object has after some lines : the first digits that are not empty. -/
def loginAfter (es : List Line) (login : String) : String :=
  es.foldl (fun login e => if phpEmpty login then digitsOf e else login) login

theorem loginAfter_of_set (hlogin : phpEmpty login = false) : loginAfter es login = login := by
  induction es with
  | nil => rfl
  | cons e es ih =>
    rw [loginAfter, List.foldl_cons, hlogin]
    exact ih

/-- The login stays empty, or is that of one of the lines. -/
theorem loginAfter_cases (es : List Line) (hlogin : phpEmpty login = true) :
    (phpEmpty (loginAfter es login) = true ∧ ∀ e ∈ es, phpEmpty (digitsOf e) = true) ∨
      ∃ e ∈ es, loginAfter es login = digitsOf e ∧ phpEmpty (digitsOf e) = false := by
  induction es generalizing login with
  | nil => exact Or.inl ⟨hlogin, by simp⟩
  | cons e es ih =>
    have hstep : loginAfter (e :: es) login = loginAfter es (digitsOf e) := by
      rw [loginAfter, List.foldl_cons, if_pos hlogin]
      rfl
    rw [hstep]
    cases he : phpEmpty (digitsOf e) with
    | true =>
      rcases ih he with ⟨hempty, hall⟩ | ⟨e', he', hsame, hset⟩
      · exact Or.inl ⟨hempty, List.forall_mem_cons.2 ⟨he, hall⟩⟩
      · exact Or.inr ⟨e', List.mem_cons_of_mem _ he', hsame, hset⟩
    | false =>
      exact Or.inr ⟨e, List.mem_cons_self, loginAfter_of_set he, he⟩

theorem of_startLines (hok : startLines es auth h = (none, auth', h')) :
    SameSite h h' ∧ auth'.login = loginAfter es auth.login := by
  induction es generalizing auth h with
  | nil =>
    obtain ⟨rfl, rfl⟩ := Prod.mk.inj (Prod.mk.inj hok).2
    exact ⟨⟨rfl, rfl, rfl, rfl⟩, rfl⟩
  | cons e es ih =>
    unfold startLines at hok
    dsimp only at hok
    split at hok
    · simp at hok
    · rename_i file auth₁ h₁ hmade
      obtain ⟨hlogin₁, hsame₁, -⟩ := of_makeSettingsFile hmade
      obtain ⟨hsame, hlogin⟩ := ih hok
      refine ⟨(hsame₁.trans (sameSite_startGateway _).1).trans hsame, ?_⟩
      rw [hlogin, hlogin₁, loginAfter, loginAfter, List.foldl_cons]
      rfl

/-- Lines without digits do not stop the loop exactly if no line that is found is followed by one
that is not. -/
theorem startLines_finishes_iff (hd : h.Distinct) (hcreatable : ∀ path, h.creatable path = true)
    (hmem : ∀ e ∈ es, e ∈ h.table.rows) (hempty : ∀ e ∈ es, phpEmpty (digitsOf e) = true)
    (hlogin : phpEmpty auth.login = true)
    (hdir : auth.workDir = "" ∨ h.fileExists auth.workDir = true) :
    (∃ p, startLines es auth h = (none, p)) ↔
      es.Pairwise (fun a b => Own a → Own b) ∧ (auth.workDir ≠ "" → ∀ e ∈ es, Own e) := by
  induction es generalizing auth h with
  | nil => simp [startLines]
  | cons e es ih =>
    obtain ⟨heMem, hesMem⟩ := List.forall_mem_cons.1 hmem
    obtain ⟨heEmpty, hesEmpty⟩ := List.forall_mem_cons.1 hempty
    have hdigits : digitsOnly (phoneOf e) = digitsOf e := rfl
    unfold startLines
    dsimp only
    rw [List.pairwise_cons]
    by_cases hown : Own e
    · have hnamed : ({ auth with login := digitsOf e } : TelegramAuth) =
          if phpEmpty auth.login then { auth with login := digitsOf e } else auth :=
        (if_pos hlogin).symm
      obtain ⟨auth₁, h₁, hok, hlogin₁, -, hdir₁, hsame₁, hexists₁, -⟩ :=
        makeSettingsFile_of_found (digitsOf e) hnamed ((hd.findFirst_iff heMem).2 ⟨rfl, hown⟩)
          hcreatable
      have hsame : SameSite h
          (h₁.startGateway e (digitsOf e) (settingsFile h.moduleDir (digitsOf e))) :=
        hsame₁.trans (sameSite_startGateway _).1
      have hne : auth₁.workDir ≠ "" := hdir₁ ▸ workDirOf_ne_empty
      rw [hdigits, hok]
      dsimp only
      rw [ih (hsame.distinct hd) (hsame.creatable ▸ hcreatable) (hsame.table ▸ hesMem) hesEmpty
        (hlogin₁ ▸ heEmpty) (Or.inr ((fileExists_startGateway _ _ _).trans hexists₁))]
      constructor
      · rintro ⟨hpair, htail⟩
        exact ⟨⟨fun e' he' _ => htail hne e' he', hpair⟩, fun _ =>
          List.forall_mem_cons.2 ⟨hown, htail hne⟩⟩
      · rintro ⟨⟨hafter, hpair⟩, -⟩
        exact ⟨hpair, fun _ e' he' => hafter e' he' hown⟩
    · have hnone := hd.findFirst_eq_none heMem hown
      rw [hdigits, makeSettingsFile_of_none hlogin hnone]
      by_cases hleft : auth.workDir = ""
      · have hnot : h.fileExists auth.workDir = false := by
          rw [hleft]
          rfl
        have hsame : SameSite h (h.startGateway e (digitsOf e) "") := (sameSite_startGateway _).1
        have hrest : (∃ p, startLines es { auth with login := digitsOf e }
            (h.startGateway e (digitsOf e) "") = (none, p)) ↔ _ :=
          ih (hsame.distinct hd) (hsame.creatable ▸ hcreatable) (hsame.table ▸ hesMem) hesEmpty
            heEmpty (Or.inl hleft)
        rw [hnot]
        simp only [Bool.false_eq_true, if_false]
        rw [hrest]
        simp [hleft, hown]
      · rw [hdir.resolve_left hleft]
        simp [hleft, hown]

/-! ## `makeSettingsKeyboardFile` and `startTdKeyboard` -/

/-- What `makeSettingsKeyboardFile` does : it makes the directories, and writes the settings of the
client and of the bot if the digits find a row. -/
theorem makeSettingsKeyboardFile_cases
    (hmade : auth.makeSettingsKeyboardFile pbx numPhone h = (file, auth', h')) :
    ∃ ready h₁, TelegramAuth.initWorkDir numPhone { auth with login := numPhone } h = (ready, h₁) ∧
      auth'.id = ready.id ∧
      ((file = "" ∧ h' = h₁) ∨ ∃ r text text', h₁.findFirst (digitsOnly numPhone) = some r ∧
        h' = (h₁.filePutContents (ready.workKeyboardDir ++ "/settings.conf") text).filePutContents
          (ready.workBotDir ++ "/settings.conf") text') := by
  unfold TelegramAuth.makeSettingsKeyboardFile at hmade
  obtain ⟨⟨ready, h₁⟩, hinit⟩ : ∃ p, TelegramAuth.initWorkDir numPhone
      { auth with login := numPhone } h = p := ⟨_, rfl⟩
  rw [hinit] at hmade
  dsimp only at hmade
  refine ⟨ready, h₁, hinit, ?_⟩
  split_ifs at hmade
  · obtain ⟨rfl, hauth⟩ := Prod.mk.inj hmade
    obtain ⟨rfl, rfl⟩ := Prod.mk.inj hauth
    exact ⟨rfl, Or.inl ⟨rfl, rfl⟩⟩
  · cases hfind : h₁.findFirst (digitsOnly numPhone) with
    | none =>
      rw [hfind] at hmade
      obtain ⟨rfl, hauth⟩ := Prod.mk.inj hmade
      obtain ⟨rfl, rfl⟩ := Prod.mk.inj hauth
      exact ⟨rfl, Or.inl ⟨rfl, rfl⟩⟩
    | some r =>
      rw [hfind] at hmade
      obtain ⟨-, hauth⟩ := Prod.mk.inj hmade
      obtain ⟨rfl, rfl⟩ := Prod.mk.inj hauth
      exact ⟨rfl, Or.inr ⟨r, _, _, rfl, rfl⟩⟩

/-- A file is written only if the digits find a row. -/
theorem of_makeSettingsKeyboardFile
    (hmade : auth.makeSettingsKeyboardFile pbx numPhone h = (file, auth', h')) :
    SameSite h h' ∧ (file ≠ "" → ∃ r, h.findFirst (digitsOnly numPhone) = some r) := by
  obtain ⟨ready, h₁, hinit, -, hcases⟩ := makeSettingsKeyboardFile_cases hmade
  obtain ⟨-, -, hsame⟩ := sameSite_initWorkDir numPhone { auth with login := numPhone } h
  rw [hinit] at hsame
  rcases hcases with ⟨rfl, rfl⟩ | ⟨r, text, text', hfind, rfl⟩
  · exact ⟨hsame, fun hne => absurd rfl hne⟩
  · refine ⟨⟨hsame.moduleDir, hsame.table, hsame.sipPort, hsame.creatable⟩, fun _ => ⟨r, ?_⟩⟩
    exact (hsame.findFirst _).symm.trans hfind

/-- The directory of a line is not the directory of the bot. -/
theorem keyboardFile_ne_bot (moduleDir : String) (hidem : digitsOnly numPhone = numPhone) :
    keyboardFile moduleDir numPhone ≠ botDirOf moduleDir ++ "/settings.conf" := by
  intro hfile
  unfold keyboardFile keyboardDirOf botDirOf at hfile
  have hdir := (String.append_left_inj _).1 hfile
  rw [String.append_assoc, String.append_right_inj] at hdir
  have hbot : "/db/keyboard/" ++ numPhone = "/db/keyboard/" ++ "bot" := hdir
  rw [(String.append_right_inj _).1 hbot] at hidem
  revert hidem
  decide

/-- The settings are written if the row is stored as digits. -/
theorem makeSettingsKeyboardFile_of_found (pbx : Pbx) (auth : TelegramAuth)
    (hidem : digitsOnly numPhone = numPhone) (hfound : h.findFirst numPhone = some line)
    (hcreatable : ∀ path, h.creatable path = true) :
    ∃ auth' h', auth.makeSettingsKeyboardFile pbx numPhone h =
        (keyboardFile h.moduleDir numPhone, auth', h') ∧
      auth'.workDir = keyboardDirOf h.moduleDir numPhone ∧
      h'.files (keyboardFile h.moduleDir numPhone) =
        some (pbx.clientText h.moduleDir numPhone numPhone
          (keyboardDirOf h.moduleDir numPhone) line) := by
  have hlogin : h.findFirst ({ auth with login := numPhone } : TelegramAuth).login = some line :=
    hfound
  obtain ⟨h₁, hinit, hsame, -, -, hexists⟩ := initWorkDir_of_found numPhone hlogin hcreatable
  unfold TelegramAuth.makeSettingsKeyboardFile
  rw [hinit]
  dsimp only
  rw [hexists, hsame.findFirst, hidem, hfound, hsame.moduleDir]
  refine ⟨_, _, rfl, rfl, ?_⟩
  have hfile : keyboardFile h.moduleDir numPhone =
      keyboardDirOf h.moduleDir numPhone ++ "/settings.conf" := rfl
  have hbot := keyboardFile_ne_bot h.moduleDir hidem
  rw [hfile] at hbot ⊢
  simp only [filePutContents]
  rw [Function.update_of_ne hbot, Function.update_self]

theorem sameSite_startClients (pbx : Pbx) (es : List Line) (h : Host) :
    SameSite h (h.startClients pbx es) := by
  induction es generalizing h with
  | nil => exact ⟨rfl, rfl, rfl, rfl⟩
  | cons e es ih =>
    obtain ⟨made, hmade⟩ : ∃ made, ({} : TelegramAuth).makeSettingsKeyboardFile pbx (phoneOf e) h =
        made := ⟨_, rfl⟩
    unfold startClients
    rw [hmade]
    refine ((of_makeSettingsKeyboardFile hmade).1.trans ?_).trans (ih _)
    unfold startClient
    dsimp only
    split_ifs
    · exact ⟨rfl, rfl, rfl, rfl⟩
    · exact ⟨rfl, rfl, rfl, rfl⟩

/-! ## `logout` -/

theorem fileExists_removeTree (dir : String) (h : Host) :
    (h.removeTree dir).fileExists dir = false := by
  have hself : under dir dir = true := by simp [under]
  have hdirs : ((h.removeTree dir).dirs.any fun d =>
      decide (d = dir) || (dir.toList ++ ['/']).isPrefixOf d.toList) = false := by
    refine List.any_eq_false.2 fun d hd hunder => ?_
    have hkept : (!under dir d) = true := (List.mem_filter.1 hd).2
    have hin : under dir d = true := hunder
    rw [hin] at hkept
    exact absurd hkept (by decide)
  have hfiles : (h.removeTree dir).files dir = none := by
    simp [removeTree, hself]
  simp [fileExists, hdirs, hfiles]

theorem fileExists_removeTree_of_not (dir : String) {path : String}
    (hnot : h.fileExists path = false) : (h.removeTree dir).fileExists path = false := by
  simp only [fileExists, Bool.and_eq_false_iff, Bool.or_eq_false_iff] at hnot ⊢
  refine hnot.imp_right fun h => ?_
  obtain ⟨hfile, hdirs⟩ := h
  constructor
  · simp only [removeTree]
    split_ifs
    · rfl
    · exact hfile
  · rw [List.any_eq_false] at hdirs ⊢
    exact fun d hd => hdirs d (List.mem_filter.1 hd).1

/-- `logout` removes the directories if there are digits. -/
theorem logout_of_digits {id phone : String} (hphone : phpEmpty (digitsOnly phone) = false) :
    h.logout id phone = ⟨["tg2sip -" ++ id ++ "-", "td-keyboard=" ++ id ++ "-"], true,
      (h.removeTree (workDirOf h.moduleDir (digitsOnly phone))).removeTree
        (keyboardDirOf h.moduleDir (digitsOnly phone))⟩ := by
  have hwork := fileExists_removeTree_of_not (keyboardDirOf h.moduleDir (digitsOnly phone))
    (fileExists_removeTree (workDirOf h.moduleDir (digitsOnly phone)) h)
  have hkeyboard := fileExists_removeTree (keyboardDirOf h.moduleDir (digitsOnly phone))
    (h.removeTree (workDirOf h.moduleDir (digitsOnly phone)))
  unfold logout
  simp only [hphone, Bool.false_eq_true, if_false]
  congr 1
  rw [Bool.and_eq_true, Bool.not_eq_true', Bool.not_eq_true']
  exact ⟨hwork, hkeyboard⟩

/-! ## Which lines are one record -/

theorem keyboardFile_ne_empty {moduleDir : String} : keyboardFile moduleDir numPhone ≠ "" := by
  intro hfile
  have hlist := congrArg String.toList hfile
  simp [keyboardFile] at hlist

theorem settingsFile_ne_empty {moduleDir : String} : settingsFile moduleDir numPhone ≠ "" := by
  intro hfile
  have hlist := congrArg String.toList hfile
  simp [settingsFile] at hlist

/-- The earlier lines leave the loop of `startSipTg` to a line. -/
structure Leaves (before : List Line) : Prop where
  empty : ∀ e ∈ before, phpEmpty (digitsOf e) = true
  pairwise : before.Pairwise fun a b => Own a → Own b

/-- The loop of `startSipTg` comes to a line without a login exactly if the earlier lines leave
it to it. -/
theorem leaves_of_startSipTg (hd : h.Distinct) (hcreatable : ∀ path, h.creatable path = true)
    (hrows : h.table.rows = before ++ line :: after) {h₁ : Host}
    (hpass : startLines before {} h = (none, auth, h₁))
    (hmade : auth.makeSettingsFile (digitsOf line) h₁ = .ok (file, auth', h')) (hne : file ≠ "")
    (hid : auth'.id = line.id) : Leaves before := by
  have hbefore : ∀ e ∈ before, e ∈ h.table.rows := by
    intro e he
    rw [hrows]
    exact List.mem_append_left _ he
  have hline : line ∈ h.table.rows := by
    rw [hrows]
    simp
  obtain ⟨hsame, hlogin⟩ := of_startLines hpass
  obtain ⟨hlogin', -, hfound⟩ := of_makeSettingsFile hmade
  have hempty : ∀ e ∈ before, phpEmpty (digitsOf e) = true := by
    have hstart : phpEmpty "" = true := rfl
    rcases loginAfter_cases before hstart with ⟨-, hall⟩ | ⟨e, he, hset, hdigits⟩
    · exact hall
    · obtain ⟨r, hr, hrid⟩ := hfound.resolve_left fun hempty => hne hempty.1
      have hsetLogin : auth.login = digitsOf e := hlogin.trans hset
      rw [hlogin', hsetLogin, hdigits, hsame.findFirst] at hr
      obtain ⟨rfl, -⟩ := (hd.findFirst_iff (hbefore e he)).1 hr
      have heq : r = line := Records.Table.eq_of_id_eq (hbefore r he) hline (hrid.symm.trans hid)
      have hnodup : (h.table.rows.map digitsOf).Nodup := hd
      rw [hrows, List.map_append, List.map_cons] at hnodup
      have hdisjoint := (List.nodup_append.1 hnodup).2.2
      exact absurd rfl (hdisjoint (digitsOf r) (List.mem_map_of_mem he) (digitsOf r)
        (by rw [heq]; exact List.mem_cons_self))
  exact ⟨hempty, ((startLines_finishes_iff hd hcreatable hbefore hempty rfl (Or.inl rfl)).1
    ⟨_, hpass⟩).1⟩

/-! ## Each entry, on a line that is stored as its digits -/

theorem startSettings_of_found (auth : TelegramAuth) (hset : phpEmpty numPhone = false)
    (hidem : digitsOnly numPhone = numPhone) (hfound : h.findFirst numPhone = some line)
    (hcreatable : ∀ path, h.creatable path = true) :
    ∃ auth' h', auth.startSettings numPhone h =
        some (.ok (settingsFile h.moduleDir numPhone, auth', h')) ∧
      auth'.id = line.id ∧ auth'.workDir = workDirOf h.moduleDir numPhone ∧
      h'.files (settingsFile h.moduleDir numPhone) =
        some (settingsText h.sipPort numPhone line) := by
  unfold TelegramAuth.startSettings
  rw [hset, hidem]
  generalize hnamed : ({ auth with login := numPhone } : TelegramAuth) = named
  have hlogin : h.findFirst named.login = some line := hnamed ▸ hfound
  have hempty : ¬phpEmpty named.login = true := by
    rw [← hnamed]
    simp [hset]
  obtain ⟨auth', h', hok, -, hid, hdir, -, -, hfiles⟩ :=
    makeSettingsFile_of_found numPhone (if_neg hempty).symm hlogin hcreatable
  refine ⟨auth', h', congrArg some hok, hid, hdir, ?_⟩
  rw [hfiles, Function.update_self]

theorem startKeyboardSettings_of_found (pbx : Pbx) (auth : TelegramAuth)
    (hset : phpEmpty numPhone = false) (hidem : digitsOnly numPhone = numPhone)
    (hfound : h.findFirst numPhone = some line) (hcreatable : ∀ path, h.creatable path = true) :
    ∃ auth' h', auth.startKeyboardSettings pbx numPhone h =
        some (keyboardFile h.moduleDir numPhone, auth', h') ∧
      auth'.workDir = keyboardDirOf h.moduleDir numPhone ∧
      h'.files (keyboardFile h.moduleDir numPhone) =
        some (pbx.clientText h.moduleDir numPhone numPhone
          (keyboardDirOf h.moduleDir numPhone) line) := by
  obtain ⟨auth', h', hok, hdir, hfiles⟩ := makeSettingsKeyboardFile_of_found pbx
    { auth with login := numPhone } hidem hfound hcreatable
  refine ⟨auth', h', ?_, hdir, hfiles⟩
  rw [TelegramAuth.startKeyboardSettings, hset, hidem]
  exact congrArg some hok

/-- The loop of `startSipTg` comes to a line without a login. -/
theorem Leaves.startLines (hleaves : Leaves before) (hd : h.Distinct)
    (hcreatable : ∀ path, h.creatable path = true) (hbefore : ∀ e ∈ before, e ∈ h.table.rows) :
    ∃ auth h', Host.startLines before {} h = (none, auth, h') ∧ phpEmpty auth.login = true ∧
      SameSite h h' := by
  have hok : ∃ p, Host.startLines before {} h = (none, p) :=
    (startLines_finishes_iff hd hcreatable hbefore hleaves.empty rfl (Or.inl rfl)).2
      ⟨hleaves.pairwise, fun hne => absurd rfl hne⟩
  obtain ⟨⟨auth, h'⟩, hpass⟩ := hok
  obtain ⟨hsame, hlogin⟩ := of_startLines hpass
  refine ⟨auth, h', hpass, ?_, hsame⟩
  have hstart : phpEmpty "" = true := rfl
  rcases loginAfter_cases before hstart with ⟨hempty, -⟩ | ⟨e, he, -, hne⟩
  · exact hlogin ▸ hempty
  · rw [hleaves.empty e he] at hne
    exact absurd hne (by decide)

theorem statusFiles_of_mem (hline : line ∈ h.table.rows) (hid : line.id ≠ 0) :
    h.statusFiles (toString line.id) = some (line, [
      ("gw", workDirOf h.moduleDir (digitsOf line) ++ "/" ++ statusFileName),
      ("user", keyboardDirOf h.moduleDir (digitsOf line) ++ "/" ++ statusFileName),
      ("bot", keyboardDirOf h.moduleDir "bot" ++ "/" ++ statusFileName)]) := by
  have hset : phpEmpty (toString line.id) = false := by
    have hnil : (toString line.id).toList ≠ [] := by
      have hlist : (toString line.id).toList = Nat.toDigits 10 line.id := Nat.toList_repr
      rw [hlist]
      exact Nat.toDigits_ne_nil
    have hempty : toString line.id ≠ "" := fun hempty => hnil (by rw [hempty]; rfl)
    have hzero : toString line.id ≠ "0" := fun hzero => hid (toString_nat_injective hzero)
    rw [phpEmpty, decide_eq_false hempty, decide_eq_false hzero]
    rfl
  have hfind : h.table.rows.find? (Controller.hasId (toString line.id)) = some line := by
    cases hfind : h.table.rows.find? (Controller.hasId (toString line.id)) with
    | none =>
      have hnot := List.find?_eq_none.1 hfind line hline
      simp [Controller.hasId] at hnot
    | some r =>
      have hr : toString r.id = toString line.id := by
        simpa [Controller.hasId] using List.find?_some hfind
      rw [Records.Table.eq_of_id_eq (List.mem_of_find?_eq_some hfind) hline
        (toString_nat_injective hr)]
  unfold statusFiles
  rw [hset, hfind]
  rfl

/-- A line that is stored as its digits is one record, if the earlier lines leave the loop of
`startSipTg` to it. -/
theorem oneRecord_of_own (pbx : Pbx) (hd : h.Distinct) (hline : line ∈ h.table.rows)
    (hbefore : ∀ e ∈ before, e ∈ h.table.rows) (hcreatable : ∀ path, h.creatable path = true)
    (hid : line.id ≠ 0) (hown : Own line) (hset : phpEmpty (digitsOf line) = false)
    (hleaves : Leaves before) : h.OneRecord pbx before line := by
  have hphone : phoneOf line = digitsOf line := hown.phoneOf
  have hfound : h.findFirst (digitsOf line) = some line := (hd.findFirst_iff hline).2 ⟨rfl, hown⟩
  have hidem : digitsOnly (digitsOf line) = digitsOf line := digitsOnly_digitsOnly _
  have hclients := sameSite_startClients pbx before h
  refine ⟨fun auth => ?_, fun auth => ?_, ?_, ?_, fun login hlogin => ?_, ?_, ?_⟩
  · rw [hphone]
    exact startSettings_of_found auth hset hidem hfound hcreatable
  · rw [hphone]
    exact startKeyboardSettings_of_found pbx auth hset hidem hfound hcreatable
  · obtain ⟨auth, h₁, hpass, hempty, hsame⟩ := hleaves.startLines hd hcreatable hbefore
    obtain ⟨auth', h', hok, -, hid', hdir, -, -, hfiles⟩ := makeSettingsFile_of_found
      (digitsOf line) (if_pos hempty).symm ((hsame.findFirst _).trans hfound)
      (hsame.creatable ▸ hcreatable)
    rw [hsame.moduleDir] at hok hdir hfiles
    refine ⟨auth, h₁, auth', h', hpass, hok, hid', hdir, ?_⟩
    rw [hfiles, Function.update_self, hsame.sipPort]
  · obtain ⟨auth', h', hok, hdir, hfiles⟩ := makeSettingsKeyboardFile_of_found pbx {} hidem
      ((hclients.findFirst _).trans hfound) (hclients.creatable ▸ hcreatable)
    rw [hclients.moduleDir] at hok hdir hfiles
    rw [hphone]
    exact ⟨auth', h', hok, hdir, hfiles⟩
  · have hsame : login = digitsOf line := by
      simpa [hphone] using hlogin
    unfold commandFile
    rw [hsame, hset, hfound]
    exact ⟨rfl, rfl⟩
  · exact statusFiles_of_mem hline hid
  · exact logout_of_digits hset

/-- All entries find the row of a line with a digit, and use its directories, exactly if the line
is stored as its digits, these are not a zero, and the earlier lines leave the loop of `startSipTg`
to it. -/
theorem oneRecord_iff (pbx : Pbx) (h : Host) (before after : List Line) (line : Line)
    (hrows : h.table.rows = before ++ line :: after) (hd : h.Distinct)
    (hcreatable : ∀ path, h.creatable path = true) (hid : line.id ≠ 0) (hdigit : digitsOf line ≠ "") :
    h.OneRecord pbx before line ↔ Own line ∧ phoneOf line ≠ "0" ∧ Leaves before := by
  have hline : line ∈ h.table.rows := by
    rw [hrows]
    simp
  constructor
  · intro hone
    refine ⟨?_, ?_, ?_⟩
    · obtain ⟨auth, h', hmade, -⟩ := hone.startKeyboard {}
      unfold TelegramAuth.startKeyboardSettings at hmade
      split_ifs at hmade
      obtain ⟨r, hr⟩ := (of_makeSettingsKeyboardFile (Option.some.inj hmade)).2 keyboardFile_ne_empty
      rw [digitsOnly_digitsOnly] at hr
      exact ((hd.findFirst_iff hline).1 hr).2
    · obtain ⟨auth, h', hmade, -⟩ := hone.start {}
      intro hzero
      rw [hzero] at hmade
      simp [TelegramAuth.startSettings, phpEmpty] at hmade
    · obtain ⟨auth, h₁, auth', h', hpass, hmade, hid', -⟩ := hone.startSipTg
      exact leaves_of_startSipTg hd hcreatable hrows hpass hmade settingsFile_ne_empty hid'
  · rintro ⟨hown, hzero, hleaves⟩
    have hset : phpEmpty (digitsOf line) = false := by
      have hzero' : digitsOf line ≠ "0" := hown.phoneOf ▸ hzero
      simp [phpEmpty, hdigit, hzero']
    refine oneRecord_of_own pbx hd hline (fun e he => ?_) hcreatable hid hown hset hleaves
    rw [hrows]
    exact List.mem_append_left _ he

theorem oneRecord_iff_digits :
    (installed oneRow).OneRecord {} [] ⟨1, attributesOf "79000000001"⟩ := by
  have hleaves : Leaves [] := ⟨by simp, List.Pairwise.nil⟩
  have hdistinct : (installed oneRow).Distinct := List.nodup_singleton _
  exact (oneRecord_iff {} (installed oneRow) [] [] ⟨1, attributesOf "79000000001"⟩ rfl hdistinct
    (fun _ => rfl) (by decide) (by decide)).2 ⟨by decide, by decide, hleaves⟩

/-- One line, whose number is stored as people write it. -/
def formattedRow : Table Attributes where
  rows := [⟨1, attributesOf "+7 (900) 000-00-01"⟩]
  sorted := List.pairwise_singleton _ _

/-- The keyboard client of such a line gets no settings. -/
theorem not_oneRecord_of_format : (installed formattedRow).Distinct ∧
    digitsOf ⟨1, attributesOf "+7 (900) 000-00-01"⟩ = "79000000001" ∧
    ¬(installed formattedRow).OneRecord {} [] ⟨1, attributesOf "+7 (900) 000-00-01"⟩ := by
  refine ⟨List.nodup_singleton _, by decide, fun hone => ?_⟩
  obtain ⟨auth, h', hmade, -⟩ := hone.startKeyboard {}
  unfold TelegramAuth.startKeyboardSettings at hmade
  split_ifs at hmade
  obtain ⟨r, hr⟩ := (of_makeSettingsKeyboardFile (Option.some.inj hmade)).2 keyboardFile_ne_empty
  obtain ⟨hmem, hphone⟩ := of_findFirst hr
  obtain rfl : r = ⟨1, attributesOf "+7 (900) 000-00-01"⟩ := List.mem_singleton.1 hmem
  revert hphone
  decide

end Host

end TelegramProvider
