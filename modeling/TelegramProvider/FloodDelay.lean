import Mathlib.Data.List.TakeWhile
import TelegramProvider.Gateway

/-!
# How long a flood blocks

`parse_error` reads the seconds of a retry notice into an `int` and adds them to a setting of type
`unsigned int`, which was cast from the `long` that the settings file has for it.

`Notice` says which digits are the seconds of a message : the longest that stand behind the first
text of a notice with a digit behind it. `exactBlock_iff` : the block ends exactly when these
seconds and the configured ones are over just when the seconds fit an `int`, and what is configured
or the sum an `unsigned int`.
-/

set_option autoImplicit false

namespace TelegramProvider

namespace Actions

/-! ## Digits behind a text -/

/-- The digits stand behind `pat`, behind `pre`, and no digit behind them. -/
structure Behind (pat cs pre digits post : List Char) : Prop where
  split : cs = pre ++ pat ++ digits ++ post
  nonempty : digits ≠ []
  isDigit : ∀ c ∈ digits, c.isDigit = true
  longest : ∀ c ∈ post.head?, c.isDigit = false

/-- The digits stand behind the first `pat` with digits behind it. -/
def FirstBehind (pat cs digits : List Char) : Prop :=
  ∃ pre post, Behind pat cs pre digits post ∧
    ∀ pre' digits' post', Behind pat cs pre' digits' post' → pre.length ≤ pre'.length

section behind

variable {pat cs pre digits digits' post rest : List Char} {c : Char}

theorem takeWhile_digits (h : Behind pat cs pre digits post) :
    (digits ++ post).takeWhile Char.isDigit = digits := by
  have hpost : post.takeWhile Char.isDigit = [] := by
    cases post with
    | nil => rfl
    | cons c post => simp [h.longest c (by simp)]
  rw [List.takeWhile_append_of_pos h.isDigit, hpost, List.append_nil]

/-- Digits behind a text at the beginning. -/
theorem behind_nil_iff : (∃ post, Behind pat cs [] digits post) ↔
    ∃ rest, cs.dropPrefix? pat = some rest ∧ rest.takeWhile Char.isDigit = digits ∧
      digits ≠ [] := by
  constructor
  · rintro ⟨post, h⟩
    refine ⟨digits ++ post, ?_, takeWhile_digits h, h.nonempty⟩
    exact List.dropPrefix?_eq_some_iff.2 ⟨pat, by simpa using h.split, by simp⟩
  · rintro ⟨rest, hrest, hdigits, hne⟩
    obtain ⟨pat', hsplit, hpat⟩ := List.dropPrefix?_eq_some_iff.1 hrest
    obtain rfl : pat' = pat := by simpa using hpat
    refine ⟨rest.dropWhile Char.isDigit, ?_, hne, ?_, ?_⟩
    · rw [← hdigits, List.nil_append, List.append_assoc, List.takeWhile_append_dropWhile, hsplit]
    · rw [← hdigits]
      exact fun c hc => List.mem_takeWhile_imp hc
    · intro c hc
      have hstop := List.head?_dropWhile_not Char.isDigit rest
      rw [Option.mem_def.1 hc] at hstop
      exact hstop

theorem behind_cons_iff : Behind pat (c :: cs) (c :: pre) digits post ↔
    Behind pat cs pre digits post :=
  ⟨fun h => ⟨by simpa using h.split, h.nonempty, h.isDigit, h.longest⟩,
    fun h => ⟨by simp [h.split], h.nonempty, h.isDigit, h.longest⟩⟩

theorem Behind.eq_cons (h : Behind pat (c :: cs) pre digits post) (hne : pre ≠ []) :
    ∃ pre', pre = c :: pre' ∧ Behind pat cs pre' digits post := by
  cases pre with
  | nil => exact absurd rfl hne
  | cons c' pre =>
    obtain ⟨rfl, -⟩ : c = c' ∧ _ := by simpa using h.split
    exact ⟨pre, rfl, behind_cons_iff.1 h⟩

/-- Where no digits stand behind a text at the beginning, the first character does not matter. -/
theorem firstBehind_cons_iff (h : ∀ digits post, ¬Behind pat (c :: cs) [] digits post) :
    FirstBehind pat (c :: cs) digits ↔ FirstBehind pat cs digits := by
  constructor
  · rintro ⟨pre, post, hbehind, hfirst⟩
    have hne : pre ≠ [] := by
      rintro rfl
      exact h _ _ hbehind
    obtain ⟨pre, rfl, hbehind'⟩ := hbehind.eq_cons hne
    refine ⟨pre, post, hbehind', fun pre' digits' post' h' => ?_⟩
    have hle := hfirst _ _ _ (behind_cons_iff.2 h')
    simpa using hle
  · rintro ⟨pre, post, hbehind, hfirst⟩
    refine ⟨c :: pre, post, behind_cons_iff.2 hbehind, fun pre' digits' post' h' => ?_⟩
    have hne : pre' ≠ [] := by
      rintro rfl
      exact h _ _ h'
    obtain ⟨pre', rfl, hbehind'⟩ := h'.eq_cons hne
    simpa using hfirst _ _ _ hbehind'

theorem firstBehind_of_nil (h : Behind pat cs [] digits post)
    (hfirst : FirstBehind pat cs digits') :
    digits' = digits := by
  obtain ⟨pre, post', hbehind, hle⟩ := hfirst
  obtain rfl : pre = [] := List.eq_nil_of_length_eq_zero (Nat.le_zero.1 (hle _ _ _ h))
  have hsame : digits' ++ post' = digits ++ post := by
    have hsplit := hbehind.split.symm.trans h.split
    simpa using hsplit
  rw [← takeWhile_digits hbehind, hsame, takeWhile_digits h]

/-- Digits behind a text at the beginning are found. -/
theorem searchDigitsAfter_of_behind (h : Behind pat (c :: cs) [] digits post) :
    searchDigitsAfter pat (c :: cs) = some digits := by
  obtain ⟨rest, hrest, htake, hne⟩ := behind_nil_iff.1 ⟨post, h⟩
  unfold searchDigitsAfter
  rw [hrest]
  dsimp only
  split
  · rename_i hnil
    exact absurd (htake.symm.trans hnil) hne
  · rw [htake]

/-- Where there are none, the search goes on behind the first character. -/
theorem searchDigitsAfter_of_not_behind
    (h : ∀ digits post, ¬Behind pat (c :: cs) [] digits post) :
    searchDigitsAfter pat (c :: cs) = searchDigitsAfter pat cs := by
  rw [searchDigitsAfter]
  split
  · rename_i rest hrest
    split
    · rfl
    · rename_i ds hne
      obtain ⟨post, hbehind⟩ := behind_nil_iff.2 ⟨rest, hrest, rfl, hne⟩
      exact absurd hbehind (h _ _)
  · rfl

/-- The search of the regular expression finds the first. -/
theorem searchDigitsAfter_eq_some_iff :
    searchDigitsAfter pat cs = some digits ↔ FirstBehind pat cs digits := by
  induction cs with
  | nil =>
    refine iff_of_false (by simp [searchDigitsAfter]) ?_
    rintro ⟨pre, post, hbehind, -⟩
    have hnil : digits = [] := by
      have hsplit := hbehind.split
      simp only [List.nil_eq, List.append_eq_nil_iff] at hsplit
      exact hsplit.1.2
    exact hbehind.nonempty hnil
  | cons c cs ih =>
    by_cases hstart : ∃ digits post, Behind pat (c :: cs) [] digits post
    · obtain ⟨ds, post, hbehind⟩ := hstart
      rw [searchDigitsAfter_of_behind hbehind]
      constructor
      · intro h
        obtain rfl := Option.some.inj h
        exact ⟨[], post, hbehind, by simp⟩
      · intro h
        rw [firstBehind_of_nil hbehind h]
    · have hnone : ∀ digits post, ¬Behind pat (c :: cs) [] digits post :=
        fun digits post h => hstart ⟨digits, post, h⟩
      rw [searchDigitsAfter_of_not_behind hnone, ih, firstBehind_cons_iff hnone]

end behind

/-! ## Notices -/

/-- The digits are the seconds of the retry notice in a message. -/
def Notice (message : String) (digits : List Char) : Prop :=
  FirstBehind delayText.toList message.toList digits

/-- The message has no retry notice. -/
def NoNotice (message : String) : Prop :=
  ∀ digits, ¬Notice message digits

/-- The number that is written with these digits. -/
def secondsOf (digits : List Char) : ℕ :=
  Nat.ofDigitChars 10 digits 0

theorem retryAfter_eq_some_iff {message : String} {digits : List Char} :
    retryAfter message = some digits ↔ Notice message digits :=
  searchDigitsAfter_eq_some_iff

theorem retryAfter_eq_none_iff {message : String} :
    retryAfter message = none ↔ NoNotice message := by
  rw [Option.eq_none_iff_forall_ne_some]
  exact forall_congr' fun digits => not_congr retryAfter_eq_some_iff

/-! ## The block -/

/-- The settings with the two times the settings file has, each a `long`. -/
def configured (settings : Settings) (extra peer : ℤ) : Settings :=
  { settings with extraWaitTime := UInt32.ofInt extra, peerFloodTime := UInt32.ofInt peer }

/-- `parse_error` returns, and blocks until exactly these seconds are over. -/
def BlocksFor (settings : Settings) (r : Replies) (error : Td.Error) (f : Frame) (seconds : ℤ) :
    Prop :=
  parseError settings r error f = .ok (f.block (r.later + seconds * 10 ^ 9))

/-- With these times configured, an error blocks for the seconds of its notice and the extra ones,
or else for the time of a peer flood, or else does not block. -/
structure ExactBlock (settings : Settings) (extra peer : ℤ) (r : Replies) (error : Td.Error)
    (f : Frame) : Prop where
  retry : ∀ digits, Notice error.message digits →
    BlocksFor (configured settings extra peer) r error f (secondsOf digits + extra)
  flood : NoNotice error.message → floodText.toList <:+: error.message.toList →
    BlocksFor (configured settings extra peer) r error f peer
  other : NoNotice error.message → ¬floodText.toList <:+: error.message.toList →
    parseError (configured settings extra peer) r error f = .ok f

/-- A number of seconds that an `unsigned int` can hold. -/
def FitsUnsigned (n : ℤ) : Prop :=
  0 ≤ n ∧ n < 2 ^ 32

/-- The seconds of the notice of a message fit an `int`, their sum with the extra ones an
`unsigned int`; where there is no notice but a flood, the time of a peer flood does. -/
structure Fits (extra peer : ℤ) (message : String) : Prop where
  retry : ∀ digits, Notice message digits →
    secondsOf digits < 2 ^ 31 ∧ FitsUnsigned (secondsOf digits + extra)
  flood : NoNotice message → floodText.toList <:+: message.toList → FitsUnsigned peer

section block

variable {settings : Settings} {extra peer n : ℤ} {r : Replies} {error : Td.Error} {f : Frame}
  {digits : List Char} {t t' : ℤ}

theorem toNat_ofInt (n : ℤ) : ((UInt32.ofInt n).toNat : ℤ) = n % 2 ^ 32 := by
  have hnonneg : 0 ≤ n % 2 ^ 32 := Int.emod_nonneg _ (by decide)
  have hlt : n % 2 ^ 32 < 2 ^ 32 := Int.emod_lt_of_pos _ (by decide)
  have hsize : UInt32.size = 2 ^ 32 := rfl
  rw [UInt32.ofInt, UInt32.toNat_ofNat_of_lt' (by omega), Int.toNat_of_nonneg hnonneg]

theorem emod_eq_self_iff : n % 2 ^ 32 = n ↔ FitsUnsigned n := by
  unfold FitsUnsigned
  omega

/-- The sum is one of `unsigned int`s. -/
theorem delaySeconds_configured (seconds : ℕ) :
    (delaySeconds (configured settings extra peer) seconds : ℤ) = (seconds + extra) % 2 ^ 32 := by
  have hcast := toNat_ofInt extra
  unfold delaySeconds configured
  dsimp only
  omega

theorem block_eq_block_iff :
    (.ok (f.block t) : Except Crash Frame) = .ok (f.block t') ↔ t = t' := by
  constructor
  · intro h
    exact congrArg (fun g : Frame => g.deps.blockUntil) (Except.ok.inj h)
  · rintro rfl
    rfl

/-- A time that is off is not the time. -/
theorem blocked_iff {m : ℕ} : r.later + nanoseconds m = r.later + n * 10 ^ 9 ↔ (m : ℤ) = n := by
  unfold nanoseconds
  omega

/-- A notice blocks for its seconds and the extra ones just when they fit. -/
theorem blocksFor_iff_of_notice (h : Notice error.message digits) :
    BlocksFor (configured settings extra peer) r error f (secondsOf digits + extra) ↔
      secondsOf digits < 2 ^ 31 ∧ FitsUnsigned (secondsOf digits + extra) := by
  unfold BlocksFor parseError stoi
  rw [retryAfter_eq_some_iff.2 h]
  dsimp only
  by_cases hint : 2 ^ 31 ≤ secondsOf digits
  · -- `std::stoi` throws
    rw [if_pos (show 2 ^ 31 ≤ Nat.ofDigitChars 10 digits 0 from hint)]
    refine iff_of_false (by simp) ?_
    rintro ⟨hlt, -⟩
    omega
  · rw [if_neg (show ¬2 ^ 31 ≤ Nat.ofDigitChars 10 digits 0 from hint)]
    dsimp only
    rw [block_eq_block_iff, blocked_iff, delaySeconds_configured]
    change (secondsOf digits + extra) % 2 ^ 32 = _ ↔ _
    rw [emod_eq_self_iff]
    exact ⟨fun hfits => ⟨by omega, hfits⟩, fun hfits => hfits.2⟩

/-- A peer flood blocks for its time just when it fits. -/
theorem blocksFor_iff_of_flood (h : NoNotice error.message)
    (hflood : floodText.toList <:+: error.message.toList) :
    BlocksFor (configured settings extra peer) r error f peer ↔ FitsUnsigned peer := by
  unfold BlocksFor parseError
  rw [retryAfter_eq_none_iff.2 h]
  dsimp only
  rw [if_pos hflood, block_eq_block_iff, blocked_iff]
  change ((UInt32.ofInt peer).toNat : ℤ) = _ ↔ _
  rw [toNat_ofInt, emod_eq_self_iff]

theorem parseError_of_other (h : NoNotice error.message)
    (hflood : ¬floodText.toList <:+: error.message.toList) :
    parseError settings r error f = .ok f := by
  unfold parseError
  rw [retryAfter_eq_none_iff.2 h]
  exact if_neg hflood

end block

/-- The block of an error is exact just when the seconds of its notice fit an `int`, and these with
the extra ones, or the time of a peer flood, an `unsigned int`. -/
theorem exactBlock_iff (settings : Settings) (extra peer : ℤ) (r : Replies) (error : Td.Error)
    (f : Frame) : ExactBlock settings extra peer r error f ↔ Fits extra peer error.message := by
  constructor
  · rintro ⟨hretry, hflood, -⟩
    exact ⟨fun digits h => (blocksFor_iff_of_notice h).1 (hretry digits h),
      fun h hpeer => (blocksFor_iff_of_flood h hpeer).1 (hflood h hpeer)⟩
  · rintro ⟨hretry, hflood⟩
    exact ⟨fun digits h => (blocksFor_iff_of_notice h).2 (hretry digits h),
      fun h hpeer => (blocksFor_iff_of_flood h hpeer).2 (hflood h hpeer),
      fun h hpeer => parseError_of_other h hpeer⟩

/-- The seconds `2 ^ 31` of a notice fit no `int` : an exception leaves `parse_error`. With
`2 ^ 32 - 10` extra seconds, a notice of 15 seconds blocks for 5. -/
theorem not_exactBlock :
    ¬ExactBlock { callbackUri := "sip:pbx" } 30 86400 (.granting 0 9)
      ⟨429, "Too Many Requests: retry after 2147483648"⟩
      ⟨{ id := 1 }, (Gateway.initial 1 .empty 0).deps⟩ ∧
    ¬ExactBlock { callbackUri := "sip:pbx" } (2 ^ 32 - 10) 86400 (.granting 0 9)
      ⟨429, "Too Many Requests: retry after 15"⟩
      ⟨{ id := 1 }, (Gateway.initial 1 .empty 0).deps⟩ := by
  constructor
  · intro h
    have hnotice : Notice "Too Many Requests: retry after 2147483648" "2147483648".toList :=
      retryAfter_eq_some_iff.1 (by decide)
    have hblocks := h.retry _ hnotice
    unfold BlocksFor at hblocks
    rw [show parseError _ _ _ _ = .error (.escaped (.outOfRange "stoi")) by rfl] at hblocks
    simp at hblocks
  · intro h
    have hnotice : Notice "Too Many Requests: retry after 15" "15".toList :=
      retryAfter_eq_some_iff.1 (by decide)
    have hblocks := congrArg (Except.map fun f => f.deps.blockUntil) (h.retry _ hnotice)
    exact absurd hblocks (by decide)

end Actions

end TelegramProvider
