import TelegramProvider.Credentials
import TelegramProvider.FloodDelay

/-!
# The settings of the gateway

`Settings::Settings` reads every field from a key of `settings.ini`, with a default : numbers with
`GetInteger` and a cast, flags with `GetBoolean`, texts with `Get`. The language code of the system
is read from the key of the database folder.

`controls_iff` : of two files that differ in one key, the key controls its own field and no other
just when it is not the key of the database folder, with values that are not both the default of the
language code, and not the key of the language code, set to another one.
-/

set_option autoImplicit false

namespace TelegramProvider

namespace Tg2sip

open C

/-! ## The constructor -/

/-- `Settings`. -/
structure Settings where
  consoleMinLevel : ℤ
  fileMinLevel : ℤ
  logLevel : ℤ
  tdlibLogLevel : ℤ
  tgvoipLogLevel : ℤ
  pjsipLogLevel : ℤ
  pjsipLogSipMessages : Bool
  sipPort : UInt32
  idUri : Bytes
  callbackUri : Bytes
  publicAddress : Bytes
  stunServer : Bytes
  rawPcm : Bool
  sipThreadCount : UInt32
  sipPortRange : UInt32
  apiId : ℤ
  apiHash : Bytes
  dbFolder : Bytes
  systemLanguageCode : Bytes
  deviceModel : Bytes
  systemVersion : Bytes
  applicationVersion : Bytes
  udpP2p : Bool
  udpReflector : Bool
  aecEnabled : Bool
  nsEnabled : Bool
  agcEnabled : Bool
  proxyEnabled : Bool
  proxyAddress : Bytes
  proxyPort : ℤ
  proxyUsername : Bytes
  proxyPassword : Bytes
  voipProxyEnabled : Bool
  voipProxyAddress : Bytes
  voipProxyPort : UInt16
  voipProxyUsername : Bytes
  voipProxyPassword : Bytes
  extraWaitTime : UInt32
  peerFloodTime : UInt32
  isLoaded : Bool

/-- The key of a name in a section. -/
def keyOf (sectionName name : String) : Bytes :=
  Ini.makeKey (bytesOf sectionName) (bytesOf name)

/-- `std::clamp` to the levels of a log. -/
def clampLevel (n : ℤ) : ℤ :=
  if n < 0 then 0 else if 6 < n then 6 else n

/-- A number. -/
def getNumber (sectionName name : String) (defaultValue : ℤ) (reader : Ini.State) : ℤ :=
  reader.getInteger (bytesOf sectionName) (bytesOf name) defaultValue

/-- The level of a log. -/
def getLevel (sectionName name : String) (defaultValue : ℤ) (reader : Ini.State) : ℤ :=
  clampLevel (toInt (getNumber sectionName name defaultValue reader))

/-- A flag. -/
def getFlag (sectionName name : String) (defaultValue : Bool) (reader : Ini.State) : Bool :=
  reader.getBoolean (bytesOf sectionName) (bytesOf name) defaultValue

/-- A text. -/
def getText (sectionName name defaultValue : String) (reader : Ini.State) : Bytes :=
  reader.get (bytesOf sectionName) (bytesOf name) (bytesOf defaultValue)

/-- `Settings::Settings`, for a file that could be opened. -/
def Settings.ofReader (reader : Ini.State) : Settings where
  consoleMinLevel := getLevel "logging" "console_min_level" 0 reader
  fileMinLevel := getLevel "logging" "file_min_level" 0 reader
  logLevel := getLevel "logging" "core" 2 reader
  tdlibLogLevel := getLevel "logging" "tdlib" 3 reader
  tgvoipLogLevel := getLevel "logging" "tgvoip" 5 reader
  pjsipLogLevel := getLevel "logging" "pjsip" 2 reader
  pjsipLogSipMessages := getFlag "logging" "sip_messages" true reader
  sipPort := UInt32.ofInt (getNumber "sip" "port" 0 reader)
  idUri := getText "sip" "id_uri" "sip:localhost" reader
  callbackUri := getText "sip" "callback_uri" "" reader
  publicAddress := getText "sip" "public_address" "" reader
  stunServer := getText "sip" "stun_server" "" reader
  rawPcm := getFlag "sip" "raw_pcm" true reader
  sipThreadCount := UInt32.ofInt (getNumber "sip" "thread_count" 1 reader)
  sipPortRange := UInt32.ofInt (getNumber "sip" "port_range" 0 reader)
  apiId := toInt (getNumber "telegram" "api_id" 0 reader)
  apiHash := getText "telegram" "api_hash" "" reader
  dbFolder := getText "telegram" "database_folder" "" reader
  systemLanguageCode := getText "telegram" "database_folder" "en-US" reader
  deviceModel := getText "telegram" "device_model" "PC" reader
  systemVersion := getText "telegram" "system_version" "Linux" reader
  applicationVersion := getText "telegram" "application_version" "1.0" reader
  udpP2p := getFlag "telegram" "udp_p2p" false reader
  udpReflector := getFlag "telegram" "udp_reflector" true reader
  aecEnabled := getFlag "telegram" "enable_aec" false reader
  nsEnabled := getFlag "telegram" "enable_ns" false reader
  agcEnabled := getFlag "telegram" "enable_agc" false reader
  proxyEnabled := getFlag "telegram" "use_proxy" false reader
  proxyAddress := getText "telegram" "proxy_address" "" reader
  proxyPort := toInt (getNumber "telegram" "proxy_port" 0 reader)
  proxyUsername := getText "telegram" "proxy_username" "" reader
  proxyPassword := getText "telegram" "proxy_password" "" reader
  voipProxyEnabled := getFlag "telegram" "use_voip_proxy" false reader
  voipProxyAddress := getText "telegram" "voip_proxy_address" "" reader
  voipProxyPort := UInt16.ofInt (getNumber "telegram" "voip_proxy_port" 0 reader)
  voipProxyUsername := getText "telegram" "voip_proxy_username" "" reader
  voipProxyPassword := getText "telegram" "voip_proxy_password" "" reader
  extraWaitTime := UInt32.ofInt (getNumber "other" "extra_wait_time" 30 reader)
  peerFloodTime := UInt32.ofInt (getNumber "other" "peer_flood_time" 86400 reader)
  isLoaded :=
    toInt (getNumber "telegram" "api_id" 0 reader) ≠ 0 &&
      getText "telegram" "api_hash" "" reader ≠ []

/-! ## Fields -/

/-- A field that is read from a key. -/
inductive Field
  | consoleMinLevel
  | fileMinLevel
  | logLevel
  | tdlibLogLevel
  | tgvoipLogLevel
  | pjsipLogLevel
  | pjsipLogSipMessages
  | sipPort
  | idUri
  | callbackUri
  | publicAddress
  | stunServer
  | rawPcm
  | sipThreadCount
  | sipPortRange
  | apiId
  | apiHash
  | dbFolder
  | systemLanguageCode
  | deviceModel
  | systemVersion
  | applicationVersion
  | udpP2p
  | udpReflector
  | aecEnabled
  | nsEnabled
  | agcEnabled
  | proxyEnabled
  | proxyAddress
  | proxyPort
  | proxyUsername
  | proxyPassword
  | voipProxyEnabled
  | voipProxyAddress
  | voipProxyPort
  | voipProxyUsername
  | voipProxyPassword
  | extraWaitTime
  | peerFloodTime
  deriving DecidableEq, Repr

/-- The value of a field. -/
inductive Value
  | int (n : ℤ)
  | bool (b : Bool)
  | str (bs : Bytes)
  deriving DecidableEq

namespace Settings

/-- The value a field has. -/
def value (s : Settings) : Field → Value
  | .consoleMinLevel => .int s.consoleMinLevel
  | .fileMinLevel => .int s.fileMinLevel
  | .logLevel => .int s.logLevel
  | .tdlibLogLevel => .int s.tdlibLogLevel
  | .tgvoipLogLevel => .int s.tgvoipLogLevel
  | .pjsipLogLevel => .int s.pjsipLogLevel
  | .pjsipLogSipMessages => .bool s.pjsipLogSipMessages
  | .sipPort => .int s.sipPort.toNat
  | .idUri => .str s.idUri
  | .callbackUri => .str s.callbackUri
  | .publicAddress => .str s.publicAddress
  | .stunServer => .str s.stunServer
  | .rawPcm => .bool s.rawPcm
  | .sipThreadCount => .int s.sipThreadCount.toNat
  | .sipPortRange => .int s.sipPortRange.toNat
  | .apiId => .int s.apiId
  | .apiHash => .str s.apiHash
  | .dbFolder => .str s.dbFolder
  | .systemLanguageCode => .str s.systemLanguageCode
  | .deviceModel => .str s.deviceModel
  | .systemVersion => .str s.systemVersion
  | .applicationVersion => .str s.applicationVersion
  | .udpP2p => .bool s.udpP2p
  | .udpReflector => .bool s.udpReflector
  | .aecEnabled => .bool s.aecEnabled
  | .nsEnabled => .bool s.nsEnabled
  | .agcEnabled => .bool s.agcEnabled
  | .proxyEnabled => .bool s.proxyEnabled
  | .proxyAddress => .str s.proxyAddress
  | .proxyPort => .int s.proxyPort
  | .proxyUsername => .str s.proxyUsername
  | .proxyPassword => .str s.proxyPassword
  | .voipProxyEnabled => .bool s.voipProxyEnabled
  | .voipProxyAddress => .str s.voipProxyAddress
  | .voipProxyPort => .int s.voipProxyPort.toNat
  | .voipProxyUsername => .str s.voipProxyUsername
  | .voipProxyPassword => .str s.voipProxyPassword
  | .extraWaitTime => .int s.extraWaitTime.toNat
  | .peerFloodTime => .int s.peerFloodTime.toNat

end Settings

namespace Field

/-- The key that is documented for a field. -/
def key : Field → Bytes
  | .consoleMinLevel => keyOf "logging" "console_min_level"
  | .fileMinLevel => keyOf "logging" "file_min_level"
  | .logLevel => keyOf "logging" "core"
  | .tdlibLogLevel => keyOf "logging" "tdlib"
  | .tgvoipLogLevel => keyOf "logging" "tgvoip"
  | .pjsipLogLevel => keyOf "logging" "pjsip"
  | .pjsipLogSipMessages => keyOf "logging" "sip_messages"
  | .sipPort => keyOf "sip" "port"
  | .idUri => keyOf "sip" "id_uri"
  | .callbackUri => keyOf "sip" "callback_uri"
  | .publicAddress => keyOf "sip" "public_address"
  | .stunServer => keyOf "sip" "stun_server"
  | .rawPcm => keyOf "sip" "raw_pcm"
  | .sipThreadCount => keyOf "sip" "thread_count"
  | .sipPortRange => keyOf "sip" "port_range"
  | .apiId => keyOf "telegram" "api_id"
  | .apiHash => keyOf "telegram" "api_hash"
  | .dbFolder => keyOf "telegram" "database_folder"
  | .systemLanguageCode => keyOf "telegram" "system_language_code"
  | .deviceModel => keyOf "telegram" "device_model"
  | .systemVersion => keyOf "telegram" "system_version"
  | .applicationVersion => keyOf "telegram" "application_version"
  | .udpP2p => keyOf "telegram" "udp_p2p"
  | .udpReflector => keyOf "telegram" "udp_reflector"
  | .aecEnabled => keyOf "telegram" "enable_aec"
  | .nsEnabled => keyOf "telegram" "enable_ns"
  | .agcEnabled => keyOf "telegram" "enable_agc"
  | .proxyEnabled => keyOf "telegram" "use_proxy"
  | .proxyAddress => keyOf "telegram" "proxy_address"
  | .proxyPort => keyOf "telegram" "proxy_port"
  | .proxyUsername => keyOf "telegram" "proxy_username"
  | .proxyPassword => keyOf "telegram" "proxy_password"
  | .voipProxyEnabled => keyOf "telegram" "use_voip_proxy"
  | .voipProxyAddress => keyOf "telegram" "voip_proxy_address"
  | .voipProxyPort => keyOf "telegram" "voip_proxy_port"
  | .voipProxyUsername => keyOf "telegram" "voip_proxy_username"
  | .voipProxyPassword => keyOf "telegram" "voip_proxy_password"
  | .extraWaitTime => keyOf "other" "extra_wait_time"
  | .peerFloodTime => keyOf "other" "peer_flood_time"

/-- The key a field is read from. -/
def source : Field → Bytes
  | .systemLanguageCode => keyOf "telegram" "database_folder"
  | f => f.key

end Field

/-- How a field is read, with its default. -/
inductive Kind
  | level (defaultValue : ℤ)
  | unsigned (defaultValue : ℤ)
  | int32 (defaultValue : ℤ)
  | port (defaultValue : ℤ)
  | flag (defaultValue : Bool)
  | text (defaultValue : Bytes)

/-- How each field is read. -/
def Field.kind : Field → Kind
  | .consoleMinLevel => .level 0
  | .fileMinLevel => .level 0
  | .logLevel => .level 2
  | .tdlibLogLevel => .level 3
  | .tgvoipLogLevel => .level 5
  | .pjsipLogLevel => .level 2
  | .pjsipLogSipMessages => .flag true
  | .sipPort => .unsigned 0
  | .idUri => .text (bytesOf "sip:localhost")
  | .callbackUri => .text (bytesOf "")
  | .publicAddress => .text (bytesOf "")
  | .stunServer => .text (bytesOf "")
  | .rawPcm => .flag true
  | .sipThreadCount => .unsigned 1
  | .sipPortRange => .unsigned 0
  | .apiId => .int32 0
  | .apiHash => .text (bytesOf "")
  | .dbFolder => .text (bytesOf "")
  | .systemLanguageCode => .text (bytesOf "en-US")
  | .deviceModel => .text (bytesOf "PC")
  | .systemVersion => .text (bytesOf "Linux")
  | .applicationVersion => .text (bytesOf "1.0")
  | .udpP2p => .flag false
  | .udpReflector => .flag true
  | .aecEnabled => .flag false
  | .nsEnabled => .flag false
  | .agcEnabled => .flag false
  | .proxyEnabled => .flag false
  | .proxyAddress => .text (bytesOf "")
  | .proxyPort => .int32 0
  | .proxyUsername => .text (bytesOf "")
  | .proxyPassword => .text (bytesOf "")
  | .voipProxyEnabled => .flag false
  | .voipProxyAddress => .text (bytesOf "")
  | .voipProxyPort => .port 0
  | .voipProxyUsername => .text (bytesOf "")
  | .voipProxyPassword => .text (bytesOf "")
  | .extraWaitTime => .unsigned 30
  | .peerFloodTime => .unsigned 86400

namespace Kind

/-- What is read of a value, or without one. -/
def read : Kind → Option Bytes → Value
  | .level d, raw => .int (clampLevel (toInt ((strtol (raw.getD [])).getD d)))
  | .unsigned d, raw => .int (UInt32.ofInt ((strtol (raw.getD [])).getD d)).toNat
  | .int32 d, raw => .int (toInt ((strtol (raw.getD [])).getD d))
  | .port d, raw => .int (UInt16.ofInt ((strtol (raw.getD [])).getD d)).toNat
  | .flag d, raw => .bool (Ini.wordValue d ((raw.getD []).map toLower))
  | .text d, raw => .str (raw.getD d)

/-- The default. -/
def defaultValue : Kind → Value
  | .level d | .unsigned d | .int32 d | .port d => .int d
  | .flag d => .bool d
  | .text d => .str d

/-- A number is one of the type of the field. -/
def InRange : Kind → ℤ → Prop
  | .level _, n => 0 ≤ n ∧ n ≤ 6
  | .unsigned _, n => 0 ≤ n ∧ n < 2 ^ 32
  | .int32 _, n => -2 ^ 31 ≤ n ∧ n < 2 ^ 31
  | .port _, n => 0 ≤ n ∧ n < 2 ^ 16
  | _, _ => False

/-- The text is valid for the field, and stands for a value : a number in its range, a word for true
or false, or any text. -/
def Denotes : Kind → Bytes → Value → Prop
  | .flag _, bs, v => bs.map toLower ∈ Ini.trueWords ∧ v = .bool true ∨
      bs.map toLower ∈ Ini.falseWords ∧ v = .bool false
  | .text _, bs, v => v = .str bs
  | k, bs, v => ∃ n, strtol bs = some n ∧ k.InRange n ∧ v = .int n

/-- A valid value that is not the default. -/
def Valid (k : Kind) (bs : Bytes) : Prop :=
  ∃ v, k.Denotes bs v ∧ v ≠ k.defaultValue

end Kind

/-! ## What a field is read from -/

section fields

variable {k : Kind} {n : ℤ} {bs : Bytes} {v : Value} {f : Field} {reader : Ini.State}

/-- Every field is read from its key alone. -/
theorem value_ofReader (f : Field) (reader : Ini.State) :
    (Settings.ofReader reader).value f = f.kind.read (reader.values f.source) := by
  cases f <;> rfl

/-- Every default is in the range of its field. -/
theorem read_none (f : Field) : f.kind.read none = f.kind.defaultValue := by
  cases f <;> decide

theorem toNat_ofInt16 (n : ℤ) : ((UInt16.ofInt n).toNat : ℤ) = n % 2 ^ 16 := by
  have hnonneg : 0 ≤ n % 2 ^ 16 := Int.emod_nonneg _ (by decide)
  have hlt : n % 2 ^ 16 < 2 ^ 16 := Int.emod_lt_of_pos _ (by decide)
  have hsize : UInt16.size = 2 ^ 16 := rfl
  rw [UInt16.ofInt, UInt16.toNat_ofNat_of_lt' (by omega), Int.toNat_of_nonneg hnonneg]

/-- A number in the range of its field is kept by the cast. -/
theorem read_of_inRange (hread : strtol bs = some n) (hrange : k.InRange n) :
    k.read (some bs) = .int n := by
  cases k with
  | level d =>
    obtain ⟨hlow, hhigh⟩ := hrange
    have hint : toInt n = n := Int.bmod_eq_of_le (by omega) (by omega)
    have hclamp : clampLevel n = n := by
      unfold clampLevel
      rw [if_neg (by omega), if_neg (by omega)]
    simp [Kind.read, hread, hint, hclamp]
  | unsigned d =>
    obtain ⟨hlow, hhigh⟩ := hrange
    have hcast := Actions.toNat_ofInt n
    rw [Int.emod_eq_of_lt hlow hhigh] at hcast
    simp [Kind.read, hread, hcast]
  | int32 d =>
    obtain ⟨hlow, hhigh⟩ := hrange
    have hint : toInt n = n := Int.bmod_eq_of_le (by omega) (by omega)
    simp [Kind.read, hread, hint]
  | port d =>
    obtain ⟨hlow, hhigh⟩ := hrange
    have hcast := toNat_ofInt16 n
    rw [Int.emod_eq_of_lt hlow hhigh] at hcast
    simp [Kind.read, hread, hcast]
  | flag d => exact hrange.elim
  | text d => exact hrange.elim

/-- No word is one for true and for false. -/
theorem not_mem_trueWords {word : Bytes} (h : word ∈ Ini.falseWords) : word ∉ Ini.trueWords := by
  have hwords : ∀ word ∈ Ini.falseWords, word ∉ Ini.trueWords := by decide
  exact hwords word h

/-- A valid text is read as what it stands for. -/
theorem read_of_denotes (h : k.Denotes bs v) : k.read (some bs) = v := by
  cases k with
  | flag d =>
    rcases h with ⟨hword, rfl⟩ | ⟨hword, rfl⟩
    · simp [Kind.read, Ini.wordValue, hword]
    · simp [Kind.read, Ini.wordValue, hword, not_mem_trueWords hword]
  | text d => exact h.symm
  | level d | unsigned d | int32 d | port d =>
    obtain ⟨n, hread, hrange, rfl⟩ := h
    exact read_of_inRange hread hrange

/-- A valid value that is not the default is read as another one. -/
theorem read_ne_of_valid (h : f.kind.Valid bs) : f.kind.read none ≠ f.kind.read (some bs) := by
  obtain ⟨v, hdenotes, hne⟩ := h
  rw [read_none, read_of_denotes hdenotes]
  exact hne.symm

end fields

/-! ## Two files -/

/-- The key of the api_id, and of the api_hash. -/
def IsCredential (key : Bytes) : Prop :=
  key = Field.apiId.key ∨ key = Field.apiHash.key

/-- Two files differ in the value of one key. -/
structure DifferAt (reader reader' : Ini.State) (key : Bytes) : Prop where
  differ : reader.values key ≠ reader'.values key
  same : ∀ key', key' ≠ key → reader.values key' = reader'.values key'

/-- The key controls its field : no other field changes, whether the settings are loaded only with
the key of a credential, and the field changes from where the key is not there to a valid value that
is not the default. -/
structure Controls (reader reader' : Ini.State) (key : Bytes) : Prop where
  others : ∀ f : Field, f.key ≠ key →
    (Settings.ofReader reader).value f = (Settings.ofReader reader').value f
  loaded : ¬IsCredential key →
    (Settings.ofReader reader).isLoaded = (Settings.ofReader reader').isLoaded
  changes : ∀ f : Field, f.key = key → reader.values key = none →
    ∀ bs, reader'.values key = some bs → f.kind.Valid bs →
      (Settings.ofReader reader).value f ≠ (Settings.ofReader reader').value f

/-- The language code that is read from a value of the database folder. -/
def languageOf (raw : Option Bytes) : Bytes :=
  raw.getD (bytesOf "en-US")

/-- The key is not mixed up with the other one : a database folder does not change the language
code, and a language code is not set. -/
structure NotMixedUp (reader reader' : Ini.State) (key : Bytes) : Prop where
  folder : key = Field.dbFolder.key →
    languageOf (reader.values key) = languageOf (reader'.values key)
  language : key = Field.systemLanguageCode.key → reader.values key = none →
    ∀ bs, reader'.values key = some bs → bs = bytesOf "en-US"

section two

variable {reader reader' : Ini.State} {key : Bytes} {f : Field}

/-- All fields but the language code are read from the key that is documented. -/
theorem source_eq_key (h : f ≠ .systemLanguageCode) : f.source = f.key := by
  cases f <;> first | rfl | exact absurd rfl h

theorem folder_ne_language : Field.dbFolder.key ≠ Field.systemLanguageCode.key := by
  decide

/-- A field that is read from another key is the same in both files. -/
theorem DifferAt.value_eq (h : DifferAt reader reader' key) (hsource : f.source ≠ key) :
    (Settings.ofReader reader).value f = (Settings.ofReader reader').value f := by
  rw [value_ofReader, value_ofReader, h.same _ hsource]

theorem value_systemLanguageCode (reader : Ini.State) :
    (Settings.ofReader reader).value .systemLanguageCode =
      .str (languageOf (reader.values Field.dbFolder.key)) := by
  rw [value_ofReader]
  rfl

/-- Whether the settings are loaded depends on the credentials alone. -/
theorem DifferAt.isLoaded_eq (h : DifferAt reader reader' key) (hkey : ¬IsCredential key) :
    (Settings.ofReader reader).isLoaded = (Settings.ofReader reader').isLoaded := by
  have hid := h.value_eq (f := .apiId) fun heq => hkey (Or.inl heq.symm)
  have hhash := h.value_eq (f := .apiHash) fun heq => hkey (Or.inr heq.symm)
  have hid' : (Settings.ofReader reader).apiId = (Settings.ofReader reader').apiId :=
    Value.int.inj hid
  have hhash' : (Settings.ofReader reader).apiHash = (Settings.ofReader reader').apiHash :=
    Value.str.inj hhash
  change (decide ((Settings.ofReader reader).apiId ≠ 0) &&
      decide ((Settings.ofReader reader).apiHash ≠ [])) =
    (decide ((Settings.ofReader reader').apiId ≠ 0) &&
      decide ((Settings.ofReader reader').apiHash ≠ []))
  rw [hid', hhash']

/-- A field that is read from the key changes with it. -/
theorem value_ne_of_valid (hsource : f.source = key) (hnone : reader.values key = none) {bs : Bytes}
    (hsome : reader'.values key = some bs) (hvalid : f.kind.Valid bs) :
    (Settings.ofReader reader).value f ≠ (Settings.ofReader reader').value f := by
  rw [value_ofReader, value_ofReader, hsource, hnone, hsome]
  exact read_ne_of_valid hvalid

end two

/-- Of two files that differ in one key, the key controls its own field and no other just when it is
not mixed up with another one. -/
theorem controls_iff {reader reader' : Ini.State} {key : Bytes} (h : DifferAt reader reader' key) :
    Controls reader reader' key ↔ NotMixedUp reader reader' key := by
  constructor
  · rintro ⟨hothers, -, hchanges⟩
    refine ⟨?_, ?_⟩
    · rintro rfl
      have hvalue := hothers .systemLanguageCode folder_ne_language.symm
      rw [value_systemLanguageCode, value_systemLanguageCode] at hvalue
      exact Value.str.inj hvalue
    · rintro rfl hnone bs hsome
      by_contra hne
      -- another language code is valid, but its key is not read
      have hvalid : Field.systemLanguageCode.kind.Valid bs :=
        ⟨.str bs, rfl, fun heq => hne (Value.str.inj heq)⟩
      refine hchanges .systemLanguageCode rfl hnone bs hsome hvalid ?_
      exact h.value_eq folder_ne_language
  · rintro ⟨hfolder, hlanguage⟩
    refine ⟨fun f hf => ?_, h.isLoaded_eq, fun f hf hnone bs hsome hvalid => ?_⟩
    · by_cases hcode : f = .systemLanguageCode
      · subst hcode
        by_cases hkey : key = Field.dbFolder.key
        · have hsame := hfolder hkey
          subst hkey
          rw [value_systemLanguageCode, value_systemLanguageCode, hsame]
        · exact h.value_eq fun heq => hkey heq.symm
      · exact h.value_eq fun heq => hf ((source_eq_key hcode).symm.trans heq)
    · by_cases hcode : f = .systemLanguageCode
      · subst hcode
        have hdefault := hlanguage hf.symm hnone bs hsome
        obtain ⟨v, hdenotes, hne⟩ := hvalid
        have hstr : v = .str bs := hdenotes
        exact absurd (hstr.trans (congrArg Value.str hdefault)) hne
      · exact value_ne_of_valid ((source_eq_key hcode).trans hf) hnone hsome hvalid

/-! ## What others have of the settings -/

/-- The credentials are those of the settings, if they are loaded. -/
theorem settings_eq (file : Bytes) : settings file =
    if (Settings.ofReader (Ini.parse file)).isLoaded then
      some ⟨(Settings.ofReader (Ini.parse file)).apiId,
        (Settings.ofReader (Ini.parse file)).apiHash⟩
    else none := by
  have hsettings : settings file =
      if (Settings.ofReader (Ini.parse file)).apiId = 0 ∨
        (Settings.ofReader (Ini.parse file)).apiHash = [] then none
      else some ⟨(Settings.ofReader (Ini.parse file)).apiId,
        (Settings.ofReader (Ini.parse file)).apiHash⟩ := rfl
  have hloaded : (Settings.ofReader (Ini.parse file)).isLoaded =
      (decide ((Settings.ofReader (Ini.parse file)).apiId ≠ 0) &&
        decide ((Settings.ofReader (Ini.parse file)).apiHash ≠ [])) := rfl
  rw [hsettings, hloaded]
  by_cases hid : (Settings.ofReader (Ini.parse file)).apiId = 0
  · simp [hid]
  · by_cases hhash : (Settings.ofReader (Ini.parse file)).apiHash = [] <;> simp [hid, hhash]

/-- The times of a flood are the casts of what is configured. -/
theorem floodTimes_eq (g : TelegramProvider.Settings) (reader : Ini.State) :
    let configured := Actions.configured g (getNumber "other" "extra_wait_time" 30 reader)
      (getNumber "other" "peer_flood_time" 86400 reader)
    (Settings.ofReader reader).extraWaitTime = configured.extraWaitTime ∧
      (Settings.ofReader reader).peerFloodTime = configured.peerFloodTime :=
  ⟨rfl, rfl⟩

/-! ## Files -/

/-- A file with one value in a section. -/
def oneValue (sectionName name value : String) : Bytes :=
  bytesOf ("[" ++ sectionName ++ "]\n" ++ name ++ "=" ++ value ++ "\n")

/-- The empty file differs from it in one key. -/
theorem differAt_of_values {file key : Bytes} (bs : Bytes)
    (h : (Ini.parse file).values = Function.update (fun _ => none) key (some bs)) :
    DifferAt (Ini.parse []) (Ini.parse file) key := by
  have hnone : (Ini.parse []).values = fun _ => none := rfl
  refine ⟨?_, fun key' hne => ?_⟩
  · rw [h, hnone, Function.update_self]
    simp
  · rw [h, hnone, Function.update_of_ne hne]

/-- The port of the proxy is set. -/
theorem controls_proxyPort :
    Controls (Ini.parse []) (Ini.parse (oneValue "telegram" "proxy_port" "1080"))
      (keyOf "telegram" "proxy_port") :=
  (controls_iff (differAt_of_values (bytesOf "1080") rfl)).2
    ⟨fun heq => absurd heq (by decide), fun heq => absurd heq (by decide)⟩

/-- A database folder becomes the language code, and a language code is not read. -/
theorem not_controls :
    ¬Controls (Ini.parse []) (Ini.parse (oneValue "telegram" "database_folder" "/var/db"))
      (keyOf "telegram" "database_folder") ∧
    ¬Controls (Ini.parse []) (Ini.parse (oneValue "telegram" "system_language_code" "ru-RU"))
      (keyOf "telegram" "system_language_code") := by
  refine ⟨fun h => ?_, fun h => ?_⟩
  · have hsame := h.others .systemLanguageCode (by decide)
    exact absurd hsame (by decide)
  · refine h.changes .systemLanguageCode rfl rfl (bytesOf "ru-RU") (by decide) ?_ (by decide)
    exact ⟨.str (bytesOf "ru-RU"), rfl, by decide⟩

end Tg2sip

end TelegramProvider
