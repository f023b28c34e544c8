import TelegramProvider.Ini
import TelegramProvider.Keyboard

/-!
# The credentials of the two clients of a line

The gateway and the keyboard client of a line read the api_id and the api_hash of a row from files
of their own : `tg2sip` from `settings.ini`, with the INI parser and `strtol`, `td-keyboard` from
`settings.conf`, with the JSON decoder of Go and the number PHP made of the api_id.

`sameCredentials_iff` : for values that are one line each and fit the line of the INI parser, both
get the same or one does not start exactly if the two languages read the same number and the
api_hash is read as it is, or a value is one of those that are refused.
-/

set_option autoImplicit false

namespace TelegramProvider

open C Records

/-- The credentials of a client. -/
structure Credentials where
  apiId : ℤ
  apiHash : Bytes
  deriving DecidableEq

/-! ## What the clients read -/

namespace Tg2sip

/-- `Settings::Settings` : the credentials, if it is loaded. -/
def settings (file : Bytes) : Option Credentials :=
  let reader := Ini.parse file
  let apiId := toInt (reader.getInteger (bytesOf "telegram") (bytesOf "api_id") 0)
  let apiHash := reader.get (bytesOf "telegram") (bytesOf "api_hash") []
  if apiId = 0 ∨ apiHash = [] then none else some ⟨apiId, apiHash⟩

end Tg2sip

namespace TdKeyboard

/-- The members of an object that are decoded into a field. Letters are the same in both cases. -/
def membersOf (field : String) (fields : Json.Fields) : List Json.Value :=
  (fields.filter fun (key, _) => key.toList.map Char.toLower = field.toList.map Char.toLower).map (·.2)

/-- The numbers of type `int32`. -/
def IsInt32 (n : ℤ) : Prop :=
  -2 ^ 31 ≤ n ∧ n < 2 ^ 31

instance (n : ℤ) : Decidable (IsInt32 n) :=
  inferInstanceAs (Decidable (_ ∧ _))

/-- A field of type `int32`. -/
def int32Of (values : List Json.Value) : Option ℤ :=
  values.foldlM (fun old value =>
    match value with
    | .null => some old
    | .int n => if IsInt32 n then some n else none
    | .str _ => none) 0

/-- A field of type `string`. -/
def stringOf (values : List Json.Value) : Option String :=
  values.foldlM (fun old value =>
    match value with
    | .null => some old
    | .int _ => none
    | .str s => some s) ""

/-- `json.Unmarshal` into `Settings` : the credentials, if there is no error. -/
def settings (file : String) : Option Credentials := do
  let fields ← Json.decode file
  let apiId ← int32Of (membersOf "ApiId" fields)
  let apiHash ← stringOf (membersOf "ApiHash" fields)
  some ⟨apiId, bytesOf apiHash⟩

end TdKeyboard

/-! ## The property -/

/-- Both clients get the same credentials, or one of them does not start. -/
def SameCredentials (ini : Bytes) (conf : String) : Prop :=
  ∀ c ∈ Tg2sip.settings ini, ∀ c' ∈ TdKeyboard.settings conf, c = c'

/-- A value of one line that is not too long. -/
structure OneLine (room : ℕ) (bs : Bytes) : Prop where
  newline : byte '\n' ∉ bs
  length : bs.length ≤ room

instance (room : ℕ) (bs : Bytes) : Decidable (OneLine room bs) :=
  decidable_of_iff (byte '\n' ∉ bs ∧ bs.length ≤ room) ⟨fun h => ⟨h.1, h.2⟩, fun h => ⟨h.1, h.2⟩⟩

/-- The number the gateway reads. -/
def gatewayNumber (apiId : Bytes) : ℤ :=
  toInt ((strtol apiId).getD 0)

/-- The values a client refuses : an api_id that is 0 for the gateway or too large for the keyboard
client, and an api_hash of white space. -/
def Refused (apiId apiHash : String) : Prop :=
  gatewayNumber (bytesOf apiId) = 0 ∨ ¬TdKeyboard.IsInt32 (Php.intval apiId) ∨
    Blank (bytesOf apiHash)

/-- The values both clients read as the same : the api_id is the same number with `strtol` and with
the cast of PHP, and nothing of the api_hash is left out. -/
def Kept (apiId apiHash : String) : Prop :=
  gatewayNumber (bytesOf apiId) = Php.intval apiId ∧ OneLine 190 (bytesOf apiHash) ∧
    Ini.Plain (bytesOf apiHash)

instance (apiId apiHash : String) : Decidable (Refused apiId apiHash) :=
  inferInstanceAs (Decidable (_ ∨ _ ∨ _))

instance (apiId apiHash : String) : Decidable (Kept apiId apiHash) :=
  inferInstanceAs (Decidable (_ ∧ _ ∧ _))

/-! ## The keyboard client -/

section

theorem membersOf_clientText (moduleDir logFile phone tdDir : String) (setting : Line) (pbx : Pbx) :
    TdKeyboard.membersOf "ApiId" (pbx.keyboardData moduleDir logFile phone tdDir setting) =
        [.int (Php.intval (phpText (setting.attr .apiId)))] ∧
      TdKeyboard.membersOf "ApiHash" (pbx.keyboardData moduleDir logFile phone tdDir setting) =
        [jsonOf (setting.attr .apiHash)] := by
  unfold Pbx.keyboardData Pbx.queueFields
  split
  · exact ⟨rfl, rfl⟩
  · exact ⟨rfl, rfl⟩

/-- What the keyboard client reads of its file. -/
theorem settings_clientText (moduleDir numPhone phone tdDir : String) (setting : Line) (pbx : Pbx) :
    TdKeyboard.settings (pbx.clientText moduleDir numPhone phone tdDir setting) =
      if TdKeyboard.IsInt32 (Php.intval (phpText (setting.attr .apiId))) then
        some ⟨Php.intval (phpText (setting.attr .apiId)), bytesOf (phpText (setting.attr .apiHash))⟩
      else none := by
  obtain ⟨hid, hhash⟩ := membersOf_clientText moduleDir ("/tg-chats-" ++ numPhone ++ ".log") phone tdDir
    setting pbx
  have hstring : TdKeyboard.stringOf [jsonOf (setting.attr .apiHash)] =
      some (phpText (setting.attr .apiHash)) := by
    cases setting.attr .apiHash with
    | none => rfl
    | some value => rfl
  unfold TdKeyboard.settings Pbx.clientText
  rw [Json.decode_encode, Option.bind_eq_bind, Option.bind_some, hid, hhash, hstring]
  simp only [TdKeyboard.int32Of, List.foldlM_cons, List.foldlM_nil]
  split_ifs
  · rfl
  · rfl

end

/-! ## The gateway -/

section

variable {s : Ini.State} {sipPort phone : String} {setting : Line}

/-- The bytes of a text of lines. -/
theorem bytesOf_join (lines : List String) :
    bytesOf (String.join (lines.map (· ++ "\n"))) = Ini.fileOf (lines.map bytesOf) := by
  have hnewline : bytesOf "\n" = [byte '\n'] := by decide
  have hfrom : ∀ text, bytesOf ((lines.map (· ++ "\n")).foldl (· ++ ·) text) =
      bytesOf text ++ Ini.fileOf (lines.map bytesOf) := by
    induction lines with
    | nil => simp [Ini.fileOf]
    | cons line lines ih =>
      intro text
      rw [List.map_cons, List.foldl_cons, ih]
      simp [Ini.fileOf, hnewline]
  exact hfrom ""

def loggingLines : List String := [
  "core=1", "tgvoip=1", "pjsip=1", "sip_messages=true", "file_min_level=4", "tdlib=1",
  "console_min_level=1", ""]

def sipLines (port : ℕ) (numPhone sipPort : String) : List String := [
  "public_address=127.0.0.1",
  "port=" ++ toString port,
  "id_uri=sip:" ++ numPhone ++ "@127.0.0.1:" ++ sipPort,
  "callback_uri=sip:" ++ numPhone ++ "@127.0.0.1:" ++ sipPort,
  "raw_pcm=false",
  "thread_count=1",
  ""]

theorem settingsLines_eq (port : ℕ) (numPhone sipPort apiId apiHash : String) :
    settingsLines port numPhone sipPort apiId apiHash =
      "[logging]" :: loggingLines ++ ("[sip]" :: sipLines port numPhone sipPort ++
        ["[telegram]", "api_id=" ++ apiId, "api_hash=" ++ apiHash, "", "[other]"]) := rfl

theorem bracket_not_mem_sipLines {port : ℕ} {numPhone : String}
    (hphone : ∀ c ∈ numPhone.toList, c.isDigit = true)
    (hport : ∀ c ∈ sipPort.toList, c.isDigit = true) :
    ∀ line ∈ sipLines port numPhone sipPort, '[' ∉ line.toList := by
  have hdigits : ∀ text : String, (∀ c ∈ text.toList, c.isDigit = true) → '[' ∉ text.toList :=
    fun text h hmem => absurd (h '[' hmem) (by decide)
  have huri : ∀ word : String, '[' ∉ word.toList →
      '[' ∉ (word ++ numPhone ++ "@127.0.0.1:" ++ sipPort).toList := by
    intro word hword
    have hhost : '[' ∉ "@127.0.0.1:".toList := by decide
    simp only [String.toList_append, List.mem_append, not_or]
    exact ⟨⟨⟨hword, hdigits numPhone hphone⟩, hhost⟩, hdigits sipPort hport⟩
  have hnumber : '[' ∉ ("port=" ++ toString port).toList := by
    have hword : '[' ∉ "port=".toList := by decide
    rw [String.toList_append, List.mem_append, not_or]
    refine ⟨hword, hdigits _ fun c hc => ?_⟩
    have hlist : (toString port).toList = Nat.toDigits 10 port := Nat.toList_repr
    exact Decimal.isDigit_of_mem_toDigits (hlist ▸ hc)
  unfold sipLines
  simp only [List.forall_mem_cons]
  exact ⟨by decide, hnumber, huri _ (by decide), huri _ (by decide), by decide, by decide, by decide,
    by simp⟩

/-- The lines before the section of Telegram write none of its values. -/
theorem feed_settingsText (setting : Line) (phone : String)
    (hport : ∀ c ∈ sipPort.toList, c.isDigit = true) :
    ∃ s : Ini.State, Ini.parse (bytesOf (settingsText sipPort (digitsOnly phone) setting)) =
        Ini.feed s (Ini.fileOf (["[telegram]", "api_id=" ++ phpText (setting.attr .apiId),
          "api_hash=" ++ phpText (setting.attr .apiHash), "", "[other]"].map bytesOf)) ∧
      ∀ name, s.values (Ini.makeKey (bytesOf "telegram") name) = none := by
  have hlogging : bytesOf "[logging]" = byte '[' :: (bytesOf "logging" ++ [byte ']']) := by decide
  have hsip : bytesOf "[sip]" = byte '[' :: (bytesOf "sip" ++ [byte ']']) := by decide
  have hphone : ∀ c ∈ (digitsOnly phone).toList, c.isDigit = true := by
    intro c hc
    rw [digitsOnly, String.toList_ofList] at hc
    exact (List.mem_filter.1 hc).2
  have hlines : ∀ line ∈ (sipLines (30000 + setting.id) (digitsOnly phone) sipPort).map bytesOf,
      byte '[' ∉ line := by
    refine List.forall_mem_map.2 fun line hline hmem => ?_
    exact bracket_not_mem_sipLines hphone hport line hline ((byte_mem_bytesOf_iff (by decide)).1 hmem)
  have hloggingLines : ∀ line ∈ loggingLines.map bytesOf, byte '[' ∉ line := by decide
  rw [settingsText, bytesOf_join, settingsLines_eq, List.map_append, List.map_append, Ini.fileOf_append,
    Ini.fileOf_append, List.map_cons, List.map_cons, hlogging, hsip, Ini.parse]
  obtain ⟨s₁, hs₁, hvalues₁⟩ := Ini.feed_sectionOf {} (bytesOf "logging") (by decide) (by decide)
    hloggingLines _
  obtain ⟨s₂, hs₂, hvalues₂⟩ := Ini.feed_sectionOf s₁ (bytesOf "sip") (by decide) (by decide)
    hlines _
  rw [hs₁, hs₂]
  refine ⟨s₂, rfl, fun name => ?_⟩
  have hother : ∀ n, Ini.makeKey (bytesOf "telegram") name ≠ Ini.makeKey (bytesOf "logging") n := by
    intro n hkey
    have hfirst : some (byte 't') = some (byte 'l') := congrArg List.head? hkey
    exact absurd hfirst (by decide)
  have hother' : ∀ n, Ini.makeKey (bytesOf "telegram") name ≠ Ini.makeKey (bytesOf "sip") n := by
    intro n hkey
    have hfirst : some (byte 't') = some (byte 's') := congrArg List.head? hkey
    exact absurd hfirst (by decide)
  rw [hvalues₂ _ hother', hvalues₁ _ hother]

theorem values_otherSection (s : Ini.State) :
    (Ini.feed s (bytesOf "\n[other]\n")).values = s.values := by
  have hgets : Ini.fgets 199 [] (bytesOf "\n[other]\n") =
      [[byte '\n'], byte '[' :: (bytesOf "other" ++ [byte ']', byte '\n'])] := by decide
  rw [Ini.feed, hgets, List.foldl_cons, List.foldl_cons, List.foldl_nil, Ini.readLine_blank,
    Ini.readLine_section _ (by decide)]

/-- The file from the section of Telegram on. -/
theorem fileOf_telegram (apiId apiHash : String) :
    Ini.fileOf (["[telegram]", "api_id=" ++ apiId, "api_hash=" ++ apiHash, "", "[other]"].map bytesOf) =
      byte '[' :: (bytesOf "telegram" ++ byte ']' :: byte '\n' :: (bytesOf "api_id" ++ byte '=' ::
        (bytesOf apiId ++ byte '\n' :: (bytesOf "api_hash" ++ byte '=' ::
          (bytesOf apiHash ++ byte '\n' :: bytesOf "\n[other]\n"))))) := by
  have hsection : bytesOf "[telegram]" = byte '[' :: (bytesOf "telegram" ++ [byte ']']) := by decide
  have hid : bytesOf "api_id=" = bytesOf "api_id" ++ [byte '='] := by decide
  have hhash : bytesOf "api_hash=" = bytesOf "api_hash" ++ [byte '='] := by decide
  have hother : Ini.fileOf [bytesOf "", bytesOf "[other]"] = bytesOf "\n[other]\n" := by decide
  have hsplit : Ini.fileOf
      (["[telegram]", "api_id=" ++ apiId, "api_hash=" ++ apiHash, "", "[other]"].map bytesOf) =
      Ini.fileOf [bytesOf "[telegram]", bytesOf ("api_id=" ++ apiId), bytesOf ("api_hash=" ++ apiHash)] ++
        Ini.fileOf [bytesOf "", bytesOf "[other]"] :=
    Ini.fileOf_append [_, _, _] [_, _]
  rw [hsplit, hother, bytesOf_append, bytesOf_append, hsection, hid, hhash]
  simp [Ini.fileOf]

/-- The values of the section of Telegram : the api_id, and the first line of the api_hash. What is
added is no longer than the rest of the api_hash, without its line feeds. -/
theorem values_telegram {apiId : String} (apiHash : String) (hid : OneLine 192 (bytesOf apiId))
    (hnone : ∀ name, s.values (Ini.makeKey (bytesOf "telegram") name) = none) :
    let s' := Ini.feed s (Ini.fileOf
      (["[telegram]", "api_id=" ++ apiId, "api_hash=" ++ apiHash, "", "[other]"].map bytesOf))
    ∃ n more more',
      n + (Ini.firstLine 190 (bytesOf apiHash)).length = (bytesOf apiHash).countP (· ≠ byte '\n') ∧
      (s'.get (bytesOf "telegram") (bytesOf "api_id") [] = Ini.valueOf (bytesOf apiId) ++ more ∧
        more.length ≤ n ∧ (Ini.valueOf (bytesOf apiId) ≠ [] → ∀ b ∈ more.head?, b = byte '\n')) ∧
      s'.get (bytesOf "telegram") (bytesOf "api_hash") [] =
        Ini.valueOf (Ini.firstLine 190 (bytesOf apiHash)) ++ more' ∧
        more'.length ≤ n ∧ (Ini.valueOf (Ini.firstLine 190 (bytesOf apiHash)) ≠ [] →
          ∀ b ∈ more'.head?, b = byte '\n') := by
  have hkeys : Ini.makeKey (bytesOf "telegram") (bytesOf "api_hash") ≠
      Ini.makeKey (bytesOf "telegram") (bytesOf "api_id") := by decide
  have hidName : (bytesOf "api_id").length = 6 := by decide
  have hhashName : (bytesOf "api_hash").length = 8 := by decide
  have hidLength := hid.length
  rw [fileOf_telegram, Ini.feed_section s (by decide) (by decide)]
  obtain ⟨s₀, hs₀⟩ : ∃ s₀ : Ini.State, { s with
    lineno := s.lineno + 1, sectionName := bytesOf "telegram", prevName := [] } = s₀ := ⟨_, rfl⟩
  have hsection₀ : s₀.sectionName = bytesOf "telegram" := by rw [← hs₀]
  have hnone₀ : ∀ name, s₀.values (Ini.makeKey (bytesOf "telegram") name) = none := by
    rw [← hs₀]
    exact hnone
  rw [hs₀]
  obtain ⟨s₁, h₁, hsection₁, hvalues₁⟩ := Ini.feed_value s₀ (bytesOf "api_id") (by decide)
    (by decide) hid.newline (by omega) (hsection₀ ▸ hnone₀ _) (bytesOf "api_hash" ++ byte '=' ::
      (bytesOf apiHash ++ byte '\n' :: bytesOf "\n[other]\n"))
  rw [hsection₀] at hsection₁ hvalues₁
  have hnone₁ : s₁.values (Ini.makeKey s₁.sectionName (bytesOf "api_hash")) = none := by
    rw [hsection₁, hvalues₁, Function.update_of_ne hkeys, hnone₀]
  obtain ⟨s₂, text, h₂, hlineno, hvalues₂, hcount⟩ := Ini.feed_firstLine s₁ (bytesOf "api_hash")
    (by decide) (by decide) (by omega) hnone₁ (bytesOf apiHash) (bytesOf "\n[other]\n")
  rw [hsection₁, hvalues₁] at hvalues₂
  have hadds := Ini.feed_adds text hlineno
  obtain ⟨more, hmore, hlen, hhead⟩ := hadds (Ini.makeKey (bytesOf "telegram") (bytesOf "api_id"))
    (Ini.valueOf (bytesOf apiId)) (by
      rw [hvalues₂, Function.update_of_ne hkeys.symm, Function.update_self])
  obtain ⟨more', hmore', hlen', hhead'⟩ := hadds (Ini.makeKey (bytesOf "telegram") (bytesOf "api_hash"))
    _ (by rw [hvalues₂, Function.update_self])
  dsimp only
  rw [h₁, h₂, Ini.State.get, Ini.State.get, values_otherSection, hmore, hmore']
  exact ⟨_, more, more', hcount, ⟨rfl, hlen, hhead⟩, rfl, hlen', hhead'⟩

/-- A text that is read as it is, though further lines may be added, is one line. -/
theorem oneLine_of_read {n : ℕ} {b more : Bytes}
    (hcount : n + (Ini.firstLine 190 b).length = b.countP (· ≠ byte '\n')) (hlen : more.length ≤ n)
    (hhead : ∀ c ∈ more.head?, c = byte '\n')
    (hread : Ini.valueOf (Ini.firstLine 190 b) ++ more = b) : OneLine 190 b := by
  have hvalue := Ini.length_valueOf_le (Ini.firstLine 190 b)
  have hroom := Ini.length_firstLine_le 190 b
  have hlength := congrArg List.length hread
  rw [List.length_append] at hlength
  have hle : b.countP (· ≠ byte '\n') ≤ b.length := List.countP_le_length
  -- nothing is left for line feeds
  have hnewline : byte '\n' ∉ b := by
    intro hmem
    have hall := List.countP_eq_length.1 (by omega : b.countP (· ≠ byte '\n') = b.length)
    simpa using hall _ hmem
  have hmore : more = [] := by
    cases more with
    | nil => rfl
    | cons c more =>
      have hc : c = byte '\n' := hhead c rfl
      exact absurd (hread ▸ hc ▸ List.mem_append_right _ List.mem_cons_self) hnewline
  refine ⟨hnewline, ?_⟩
  rw [hmore, List.length_nil] at hlength
  omega

/-- What the gateway reads of its file. -/
theorem settings_settingsText (setting : Line) (phone : String)
    (hport : ∀ c ∈ sipPort.toList, c.isDigit = true)
    (hid : OneLine 192 (bytesOf (phpText (setting.attr .apiId))))
    (hhash : OneLine 190 (bytesOf (phpText (setting.attr .apiHash))) ∨
      ¬Blank (bytesOf (phpText (setting.attr .apiId))) ∧
        ¬Blank (Ini.firstLine 190 (bytesOf (phpText (setting.attr .apiHash))))) :
    ∃ apiHash, Tg2sip.settings (bytesOf (settingsText sipPort (digitsOnly phone) setting)) =
        (if gatewayNumber (bytesOf (phpText (setting.attr .apiId))) = 0 ∨ apiHash = [] then none
        else some ⟨gatewayNumber (bytesOf (phpText (setting.attr .apiId))), apiHash⟩) ∧
      (apiHash = [] ↔ Blank (bytesOf (phpText (setting.attr .apiHash)))) ∧
      (apiHash = bytesOf (phpText (setting.attr .apiHash)) ↔
        OneLine 190 (bytesOf (phpText (setting.attr .apiHash))) ∧
          Ini.Plain (bytesOf (phpText (setting.attr .apiHash)))) := by
  obtain ⟨s, hparse, hnone⟩ := feed_settingsText setting phone hport
  obtain ⟨n, more, more', hcount, ⟨hread, hlen, hhead⟩, hread', hlen', hhead'⟩ :=
    values_telegram (phpText (setting.attr .apiHash)) hid hnone
  have hsettings : Tg2sip.settings (bytesOf (settingsText sipPort (digitsOnly phone) setting)) =
      if toInt ((strtol (Ini.valueOf (bytesOf (phpText (setting.attr .apiId))) ++ more)).getD 0) = 0 ∨
          Ini.valueOf (Ini.firstLine 190 (bytesOf (phpText (setting.attr .apiHash)))) ++ more' = []
      then none
      else some ⟨toInt ((strtol (Ini.valueOf (bytesOf (phpText (setting.attr .apiId))) ++ more)).getD 0),
        Ini.valueOf (Ini.firstLine 190 (bytesOf (phpText (setting.attr .apiHash)))) ++ more'⟩ := by
    unfold Tg2sip.settings Ini.State.getInteger
    rw [hparse]
    dsimp only
    rw [hread, hread']
  generalize bytesOf (phpText (setting.attr .apiId)) = a at *
  generalize bytesOf (phpText (setting.attr .apiHash)) = b at *
  -- nothing is added to values of one line
  have hline : OneLine 190 b → Ini.firstLine 190 b = b ∧ more = [] ∧ more' = [] := by
    intro h
    have hfirst := Ini.firstLine_of_line h.newline h.length
    rw [hfirst, Ini.countP_newline h.newline] at hcount
    exact ⟨hfirst, List.eq_nil_of_length_eq_zero (by omega), List.eq_nil_of_length_eq_zero (by omega)⟩
  have hnumber : strtol (Ini.valueOf a ++ more) = strtol a := by
    rcases hhash with hone | ⟨hid, -⟩
    · rw [(hline hone).2.1, List.append_nil, Ini.strtol_valueOf]
    · have hne : Ini.valueOf a ≠ [] := fun hnil => hid (Ini.valueOf_eq_nil_iff.1 hnil)
      exact Ini.strtol_valueOf_append hne (hhead hne)
  rw [hnumber] at hsettings
  refine ⟨_, hsettings, ?_, ?_⟩
  · rcases hhash with hone | ⟨-, hfirst⟩
    · obtain ⟨hfirst, -, hmore⟩ := hline hone
      rw [hfirst, hmore, List.append_nil, Ini.valueOf_eq_nil_iff]
    · refine iff_of_false (fun hnil => ?_) fun hblank => ?_
      · exact hfirst (Ini.valueOf_eq_nil_iff.1 (List.append_eq_nil_iff.1 hnil).1)
      · exact hfirst (hblank.of_start (Ini.firstLine_isPrefix 190 b))
  · constructor
    · intro hsame
      have hone : OneLine 190 b := by
        rcases hhash with hone | ⟨-, hfirst⟩
        · exact hone
        · have hne : Ini.valueOf (Ini.firstLine 190 b) ≠ [] := fun hnil =>
            hfirst (Ini.valueOf_eq_nil_iff.1 hnil)
          exact oneLine_of_read hcount hlen' (hhead' hne) hsame
      obtain ⟨hfirst, -, hmore⟩ := hline hone
      rw [hfirst, hmore, List.append_nil] at hsame
      exact ⟨hone, Ini.valueOf_eq_self_iff.1 hsame⟩
    · rintro ⟨hone, hplain⟩
      obtain ⟨hfirst, -, hmore⟩ := hline hone
      rw [hfirst, hmore, List.append_nil, Ini.valueOf_eq_self_iff.2 hplain]

/-! ## Both clients -/

/-- When two clients agree of which one does not start with a number that is 0 or an empty text, and
the other not with a number that is too large. -/
theorem credentials_agree_iff (n n' : ℤ) (hash hash' : Bytes) :
    (∀ c ∈ (if n = 0 ∨ hash = [] then none else some ⟨n, hash⟩ : Option Credentials),
      ∀ c' ∈ (if TdKeyboard.IsInt32 n' then some ⟨n', hash'⟩ else none : Option Credentials), c = c') ↔
      (n = 0 ∨ ¬TdKeyboard.IsInt32 n' ∨ hash = []) ∨ (n = n' ∧ hash = hash') := by
  by_cases hrefused : n = 0 ∨ hash = []
  · rw [if_pos hrefused]
    refine iff_of_true (by simp) (Or.inl ?_)
    rcases hrefused with hzero | hnil
    · exact Or.inl hzero
    · exact Or.inr (Or.inr hnil)
  · obtain ⟨hzero, hnil⟩ := not_or.1 hrefused
    rw [if_neg hrefused]
    by_cases hrange : TdKeyboard.IsInt32 n'
    · simp [hrange, hzero, hnil]
    · simp [hrange]

/-- An api_id in decimal is the same number for both. -/
theorem gatewayNumber_toString {n : ℕ} (h : n ≠ 0) (hn : n < 2 ^ 31) :
    gatewayNumber (bytesOf (toString n)) = Php.intval (toString n) := by
  have hmin : min n (2 ^ 63 - 1) = n := by omega
  have hint : toInt n = n := by
    unfold toInt
    rw [Int.bmod_eq_of_le]
    · omega
    · omega
  rw [gatewayNumber, strtol_toString h, Php.intval_toString, hmin, Option.getD_some, hint]

/-- For an api_id of one line that fits the line of the parser, and an api_hash that is such a line too
or begins with a line that is not blank, both clients get the same credentials or one does not start
exactly if a value is refused, or both are kept. -/
theorem sameCredentials_iff (setting : Line) (phone moduleDir numPhone tdDir : String) (pbx : Pbx)
    (hport : ∀ c ∈ sipPort.toList, c.isDigit = true)
    (hid : OneLine 192 (bytesOf (phpText (setting.attr .apiId))))
    (hhash : OneLine 190 (bytesOf (phpText (setting.attr .apiHash))) ∨
      ¬Blank (bytesOf (phpText (setting.attr .apiId))) ∧
        ¬Blank (Ini.firstLine 190 (bytesOf (phpText (setting.attr .apiHash))))) :
    SameCredentials (bytesOf (settingsText sipPort (digitsOnly phone) setting))
        (pbx.clientText moduleDir numPhone (digitsOnly phone) tdDir setting) ↔
      Refused (phpText (setting.attr .apiId)) (phpText (setting.attr .apiHash)) ∨
        Kept (phpText (setting.attr .apiId)) (phpText (setting.attr .apiHash)) := by
  obtain ⟨apiHash, hgateway, hblank, hsame⟩ := settings_settingsText setting phone hport hid hhash
  unfold SameCredentials Refused Kept
  rw [settings_clientText, hgateway, ← hblank, ← hsame]
  exact credentials_agree_iff _ _ _ _

end

/-! ## A row whose values are kept, and others -/

/-- A row with other values. -/
def lineWith (apiId apiHash : String) : Line :=
  ⟨1, fun column => match column with
    | .apiId => some apiId
    | .apiHash => some apiHash
    | column => attributesOf "79000000001" column⟩

/-- Both clients of a row get the same. -/
def SameOfLine (setting : Line) : Prop :=
  SameCredentials (bytesOf (settingsText "5060" (digitsOnly "79000000001") setting))
    (({} : Pbx).clientText "/modules" "79000000001" (digitsOnly "79000000001") "/db" setting)

theorem sameCredentials_iff_decimal : SameOfLine (lineWith "94575" "a3406de8d171") := by
  have hport : ∀ c ∈ "5060".toList, c.isDigit = true := List.all_eq_true.1 (by decide)
  have hnumber : gatewayNumber (bytesOf "94575") = Php.intval "94575" :=
    gatewayNumber_toString (n := 94575) (by decide) (by decide)
  have hid : OneLine 192 (bytesOf "94575") := by decide
  have hhash : OneLine 190 (bytesOf "a3406de8d171") := by decide
  exact (sameCredentials_iff (lineWith "94575" "a3406de8d171") "79000000001" "/modules" "79000000001"
    "/db" {} hport hid (Or.inl hhash)).2 (Or.inr ⟨hnumber, hhash, by decide⟩)

/-- An api_id with a leading zero is octal for the gateway, and a blank behind an api_hash is left
out. -/
theorem otherCredentials : ¬SameOfLine (lineWith "012345" "a3406de8d171") ∧
    ¬SameOfLine (lineWith "94575" "a3406de8d171 ") := by
  have hport : ∀ c ∈ "5060".toList, c.isDigit = true := List.all_eq_true.1 (by decide)
  have hsame : ∀ apiId apiHash, OneLine 192 (bytesOf apiId) → OneLine 190 (bytesOf apiHash) →
      SameOfLine (lineWith apiId apiHash) → Refused apiId apiHash ∨ Kept apiId apiHash := by
    intro apiId apiHash hid hhash hline
    obtain ⟨hash, hgateway, hblank, hkept⟩ := settings_settingsText
      (lineWith apiId apiHash) "79000000001" hport hid (Or.inl hhash)
    unfold SameOfLine SameCredentials at hline
    rw [settings_clientText, hgateway, credentials_agree_iff, hblank, hkept] at hline
    exact hline
  constructor
  · intro hline
    have hor := hsame "012345" "a3406de8d171" (by decide) (by decide) hline
    exact absurd hor (by decide)
  · intro hline
    have hor := hsame "94575" "a3406de8d171 " (by decide) (by decide) hline
    exact absurd hor (by decide)

end TelegramProvider
