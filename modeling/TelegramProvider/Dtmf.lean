import Mathlib.Data.List.Infix
import Mathlib.Tactic.IntervalCases
import TelegramProvider.Listener
import TelegramProvider.Machine
import TelegramProvider.TelegramAuth

/-!
# DTMF digits from Telegram

A user sends digits for a call as a text. Three programs may play them : the keyboard client
(`Listener`), the PHP agent and the PHP bot, whose keyboard sends one symbol at a time. The
gateway has a guard of its own for what is a string of DTMF digits.

The programs that play digits ask whether the text is a number, in Go or in PHP, and that is
another question. `agree_iff` says for which texts the answers, and what is played, are the
same : decimal digits other than "0" alone, and texts that are neither numbers nor digits.
-/

set_option autoImplicit false

namespace TelegramProvider

/-- The symbols of DTMF. -/
def dtmfSymbols : List Char := "0123456789ABCD*#".toList

/-- The text is a string of 1 to 32 DTMF symbols. -/
def IsDtmf (s : String) : Prop :=
  1 ≤ s.toList.length ∧ s.toList.length ≤ 32 ∧ ∀ c ∈ s.toList, c ∈ dtmfSymbols

instance : DecidablePred IsDtmf := fun s =>
  decidable_of_iff (1 ≤ s.toList.length ∧ s.toList.length ≤ 32 ∧
    s.toList.all (fun c => dtmfSymbols.contains c) = true) (by simp [IsDtmf])

/-- Digits played : the channel and the digit, in order. -/
abbrev Played := List (String × String)

/-- The symbols of a text, one by one, on a channel. -/
def symbolsOn (channel s : String) : Played :=
  s.toList.map fun c => (channel, String.singleton c)

/-! ## PHP -/

/-- `AmiActions::SendDtmf`. -/
def AmiActions.sendDtmf (channel dtmf : String) : Played :=
  if phpEmpty channel || phpEmpty dtmf then [] else symbolsOn channel dtmf

/-- `BotEventHandler::sendDTMF`, with the channels the cache has for the users : whether the user
is in the cache, and what is played. -/
def BotEventHandler.sendDTMF (cache : ℤ → Option String) (user : ℤ) (bytes : String) :
    Bool × Played :=
  if phpEmpty bytes || !Php.isNumeric bytes then (false, []) else
    match cache user with
    | none => (false, [])
    | some channel =>
      (true, if phpEmpty channel then [] else AmiActions.sendDtmf channel bytes)

/-- `TgUserEventHandler::onUpdateNewMessage`, on an incoming text : what is played. -/
def TgUserEventHandler.onUpdateNewMessage (cache : ℤ → Option String) (user : ℤ)
    (message : String) : Played :=
  if Php.isNumeric message then (BotEventHandler.sendDTMF cache user message).2 else []

theorem mem_of_strpos {s word : String} (h : strpos s word = true) {c : Char}
    (hc : c ∈ word.toList) : c ∈ s.toList :=
  (strpos_iff.1 h).subset hc

/-- `BotEventHandler::onAny`, on a callback query : what is played. A callback with the word
"callback" orders a call. -/
def BotEventHandler.onAny (cache : ℤ → Option String) (user : ℤ) (bytes : String) : Played :=
  if strpos bytes "callback" then [] else (BotEventHandler.sendDTMF cache user bytes).2

/-- The data of the buttons of the DTMF keyboard (`getDtmfKeyboardMessage`). -/
def dtmfKeyboard : List String :=
  ["1", "2", "3", "4", "5", "6", "7", "8", "9", "*", "0", "#"]

/-! ## Go -/

namespace Listener

/-- The digits a record has as played. -/
def played (trace : List Obs) : Played :=
  trace.filterMap fun
    | .played channel digit => some (channel, digit)
    | _ => none

end Listener

/-- A user is in a call with a channel : the client takes the user for no bot, and Go and PHP
both know the channel. -/
structure InCall (l : Listener) (r : Listener.Replies) (cache : ℤ → Option String) (userId : ℤ)
    (channel : String) : Prop where
  person : (l.isBot r userId).1 = some false
  known : r.channel (toString userId) = channel
  cached : cache userId = some channel
  named : phpEmpty channel = false

/-- The programs agree on a text : it is played, each symbol once and in order, if it is a string
of DTMF digits, and nothing is played otherwise. -/
structure Agree (settings : Listener.Settings) (l : Listener) (r : Listener.Replies)
    (cache : ℤ → Option String) (userId : ℤ) (channel s : String) : Prop where
  listener : Listener.played (l.handle settings (.newMessage false userId (.text s)) r).trace =
    Listener.played l.trace ++ if IsDtmf s then symbolsOn channel s else []
  agent : TgUserEventHandler.onUpdateNewMessage cache userId s =
    if IsDtmf s then symbolsOn channel s else []
  bot : BotEventHandler.onAny cache userId s = if IsDtmf s then symbolsOn channel s else []
  gateway : ∀ senderId, Guards.isDtmfString ⟨senderId, .text s⟩ = true ↔ IsDtmf s

/-! ## Symbols -/

section symbols

variable {c : Char} {s : String}

/-- A character is known by its code. -/
theorem eq_of_toNat {n : ℕ} (h : c.toNat = n) : c = Char.ofNat n := by
  rw [← h, Char.ofNat_toNat]

theorem isDigit_iff_mem : c.isDigit = true ↔ c ∈ "0123456789".toList := by
  constructor
  · intro h
    obtain ⟨hzero, hnine⟩ := Char.isDigit_iff_toNat.1 h
    generalize hn : c.toNat = n at hzero hnine
    rw [eq_of_toNat hn]
    have hzero' : 48 ≤ n := hzero
    have hnine' : n ≤ 57 := hnine
    interval_cases n <;> decide
  · intro h
    have hlist : "0123456789".toList = ['0', '1', '2', '3', '4', '5', '6', '7', '8', '9'] := rfl
    simp only [hlist, List.mem_cons, List.not_mem_nil, or_false] at h
    rcases h with rfl | rfl | rfl | rfl | rfl | rfl | rfl | rfl | rfl | rfl <;> rfl

/-- A symbol is a digit, a letter up to D, or one of the two signs. -/
theorem mem_dtmfSymbols : c ∈ dtmfSymbols ↔ c.isDigit = true ∨ c ∈ ['A', 'B', 'C', 'D', '*', '#'] := by
  have happ : dtmfSymbols = "0123456789".toList ++ ['A', 'B', 'C', 'D', '*', '#'] := rfl
  rw [happ, List.mem_append, isDigit_iff_mem]

/-- `dtmf_regex` has these symbols. -/
theorem isDtmfChar_iff : Guards.isDtmfChar c = true ↔ c ∈ dtmfSymbols := by
  have hletters : 'A' ≤ c ∧ c ≤ 'D' ↔ c ∈ ['A', 'B', 'C', 'D'] := by
    constructor
    · rintro ⟨hA, hD⟩
      generalize hn : c.toNat = n
      have hA' : 65 ≤ n := hn ▸ UInt32.le_iff_toNat_le.1 hA
      have hD' : n ≤ 68 := hn ▸ UInt32.le_iff_toNat_le.1 hD
      rw [eq_of_toNat hn]
      interval_cases n <;> decide
    · intro h
      simp only [List.mem_cons, List.not_mem_nil, or_false] at h
      rcases h with rfl | rfl | rfl | rfl <;> decide
  rw [mem_dtmfSymbols]
  simp only [Guards.isDtmfChar, Bool.or_eq_true, Bool.and_eq_true, decide_eq_true_eq, hletters,
    List.mem_cons, List.not_mem_nil, or_false, or_assoc]

theorem isDtmfString_iff {senderId : Td.MessageSender} :
    Guards.isDtmfString ⟨senderId, .text s⟩ = true ↔ IsDtmf s := by
  simp only [Guards.isDtmfString, IsDtmf, Bool.and_eq_true, decide_eq_true_eq, List.all_eq_true,
    isDtmfChar_iff, and_assoc]

/-- A string of symbols is digits, or has a first symbol after digits that is none. -/
theorem digits_or_split (h : IsDtmf s) : (∀ c ∈ s.toList, c.isDigit = true) ∨
    ∃ ds c rest, s.toList = ds ++ c :: rest ∧ (∀ d ∈ ds, d.isDigit = true) ∧
      c ∈ ['A', 'B', 'C', 'D', '*', '#'] := by
  obtain ⟨-, -, hall⟩ := h
  generalize s.toList = cs at hall ⊢
  induction cs with
  | nil => exact Or.inl (by simp)
  | cons c cs ih =>
    obtain hc | hc := mem_dtmfSymbols.1 (hall c (by simp))
    · obtain hdigits | ⟨ds, c', rest, rfl, hds, hc'⟩ :=
        ih fun c' hc' => hall c' (List.mem_cons_of_mem c hc')
      · exact Or.inl (by simpa [hc] using hdigits)
      · exact Or.inr ⟨c :: ds, c', rest, rfl, by simpa [hc] using hds, hc'⟩
    · exact Or.inr ⟨[], c, cs, rfl, by simp, hc⟩

/-- 1 to 32 decimal digits, other than "0" alone. -/
structure IsPlain (s : String) : Prop where
  digits : ∀ c ∈ s.toList, c.isDigit = true
  one : 1 ≤ s.toList.length
  most : s.toList.length ≤ 32
  notZero : s ≠ "0"

theorem IsPlain.isDtmf (h : IsPlain s) : IsDtmf s :=
  ⟨h.one, h.most, fun c hc => mem_dtmfSymbols.2 (Or.inl (h.digits c hc))⟩

/-- Go and PHP take a string of symbols for a number just when it is digits. -/
theorem number_iff_digits (h : IsDtmf s) :
    (Go.parseFloat s = true ↔ ∀ c ∈ s.toList, c.isDigit = true) ∧
      (Php.isNumeric s = true ↔ ∀ c ∈ s.toList, c.isDigit = true) := by
  obtain hdigits | ⟨ds, c, rest, hs, hds, hc⟩ := digits_or_split h
  · have hne : s.toList ≠ [] := by
      intro hnil
      have hone := h.1
      simp [hnil] at hone
    have hlen := h.2.1
    have hgo : Go.parseFloat s = true := Go.parseFloat_of_digits hdigits hne (by omega)
    have hphp : Php.isNumeric s = true := Php.isNumeric_of_digits hdigits hne
    exact ⟨⟨fun _ => hdigits, fun _ => hgo⟩, ⟨fun _ => hdigits, fun _ => hphp⟩⟩
  · have hstop : c.isDigit = false ∧ Go.Stops c ∧ Php.Stops c := by
      simp only [List.mem_cons, List.not_mem_nil, or_false] at hc
      rcases hc with rfl | rfl | rfl | rfl | rfl | rfl <;>
        refine ⟨rfl, ⟨rfl, ?_, ?_⟩, rfl, rfl, ?_⟩ <;> decide
    have hnot : ¬∀ c ∈ s.toList, c.isDigit = true := by
      intro hall
      have hcdigit := hall c (by simp [hs])
      simp [hstop.1] at hcdigit
    simp [hnot, Go.parseFloat_of_stop hds hstop.2.1 hs, Php.isNumeric_of_stop hds hstop.2.2 hs]

end symbols

/-! ## What is played -/

namespace Listener

variable {settings : Settings} {l : Listener} {r : Replies} {chatId : ℤ} {channel : String}
  {o : Obs} {trace : List Obs}

@[simp] theorem played_append (trace trace' : List Obs) :
    played (trace ++ trace') = played trace ++ played trace' :=
  List.filterMap_append

theorem played_playAll (digits : List Char) : played (l.playAll channel digits).trace =
    played l.trace ++ digits.map fun c => (channel, String.singleton c) := by
  unfold playAll
  induction digits generalizing l with
  | nil => simp
  | cons c digits ih =>
    rw [List.foldl_cons, ih, log_trace, played_append, List.append_assoc]
    rfl

theorem played_sendMessage {k : ℕ} {message : String} :
    played (l.sendMessage r k chatId message).trace = played l.trace := by
  unfold sendMessage
  dsimp only
  split <;> simp [played]

theorem played_isBot : played (l.isBot r chatId).2.trace = played l.trace := by
  unfold isBot
  dsimp only
  split
  · simp [played]
  · split <;> simp [played]

end Listener

section agree

variable {settings : Listener.Settings} {l : Listener} {r : Listener.Replies}
  {cache : ℤ → Option String} {userId : ℤ} {channel s : String}

/-- The client plays what Go takes for a number. -/
theorem InCall.played_listener (h : InCall l r cache userId channel) :
    Listener.played (l.handle settings (.newMessage false userId (.text s)) r).trace =
      Listener.played l.trace ++ if Go.parseFloat s then symbolsOn channel s else [] := by
  have hne : channel ≠ "" := by
    rintro rfl
    exact absurd h.named (by decide)
  have hbot : Listener.played (l.isBot r userId).2.trace = Listener.played l.trace :=
    Listener.played_isBot
  have hperson := h.person
  simp only [Listener.handle, Listener.incomingText]
  generalize l.isBot r userId = p at hbot hperson
  obtain ⟨bot, l₁⟩ := p
  obtain rfl : bot = some false := hperson
  have hbot' : Listener.played l₁.trace = Listener.played l.trace := hbot
  simp only [Listener.answerText, Listener.isNumeric, h.known, if_neg hne]
  split_ifs
  · rw [Listener.played_playAll, hbot']
    rfl
  · rw [Listener.played_sendMessage, hbot', List.append_nil]

/-- PHP plays what it takes for a number and not for empty. -/
theorem InCall.sendDTMF (h : InCall l r cache userId channel) :
    (BotEventHandler.sendDTMF cache userId s).2 =
      if phpEmpty s = false ∧ Php.isNumeric s = true then symbolsOn channel s else [] := by
  simp only [BotEventHandler.sendDTMF, AmiActions.sendDtmf, h.cached, h.named]
  cases phpEmpty s <;> cases Php.isNumeric s <;> simp

theorem InCall.onUpdateNewMessage (h : InCall l r cache userId channel) :
    TgUserEventHandler.onUpdateNewMessage cache userId s =
      if phpEmpty s = false ∧ Php.isNumeric s = true then symbolsOn channel s else [] := by
  simp only [TgUserEventHandler.onUpdateNewMessage, h.sendDTMF]
  cases Php.isNumeric s <;> simp

theorem symbolsOn_ne_nil (h : s ≠ "") : symbolsOn channel s ≠ [] := by
  intro hnil
  exact h (by simpa [symbolsOn] using hnil)

/-- Of a text that is not empty, what is played says whether it is played. -/
theorem playedIf_eq_iff {p q : Prop} [Decidable p] [Decidable q] (h : s ≠ "") :
    ((if p then symbolsOn channel s else []) = if q then symbolsOn channel s else []) ↔ (p ↔ q) := by
  have hne : symbolsOn channel s ≠ [] := symbolsOn_ne_nil h
  by_cases hp : p
  · by_cases hq : q
    · simp [hp, hq]
    · simp [hp, hq, hne]
  · by_cases hq : q
    · simp [hp, hq, hne.symm]
    · simp [hp, hq]

/-- The programs agree on a text that is not empty just when Go and PHP play strings of symbols only,
and all of them. -/
theorem InCall.agree_iff_plays (h : InCall l r cache userId channel) (hne : s ≠ "") :
    Agree settings l r cache userId channel s ↔ (Go.parseFloat s = true ↔ IsDtmf s) ∧
      (phpEmpty s = false ∧ Php.isNumeric s = true ↔ IsDtmf s) := by
  constructor
  · rintro ⟨hlistener, hagent, -, -⟩
    rw [h.played_listener, List.append_cancel_left_eq] at hlistener
    rw [h.onUpdateNewMessage] at hagent
    exact ⟨(playedIf_eq_iff hne).1 hlistener, (playedIf_eq_iff hne).1 hagent⟩
  · rintro ⟨hgo, hphp⟩
    refine ⟨?_, ?_, ?_, fun _ => isDtmfString_iff⟩
    · rw [h.played_listener, List.append_cancel_left_eq]
      exact (playedIf_eq_iff hne).2 hgo
    · rw [h.onUpdateNewMessage]
      exact (playedIf_eq_iff hne).2 hphp
    · rw [BotEventHandler.onAny, h.sendDTMF]
      by_cases hword : strpos s "callback" = true
      · -- no symbol is a small letter
        have hdtmf : ¬IsDtmf s := by
          intro hdtmf
          exact absurd (hdtmf.2.2 'c' (mem_of_strpos hword (by decide))) (by decide)
        rw [if_pos hword, if_neg hdtmf]
      · rw [if_neg hword]
        exact (playedIf_eq_iff hne).2 hphp

/-- Of the buttons of the keyboard, the bot plays the digits other than zero. -/
theorem InCall.playable_iff (h : InCall l r cache userId channel) :
    ∀ b ∈ dtmfKeyboard, BotEventHandler.onAny cache userId b = symbolsOn channel b ↔
      b ∉ ["*", "0", "#"] := by
  have hbutton : ∀ b ∈ dtmfKeyboard, ¬strpos b "callback" = true ∧ b ≠ "" ∧
      (phpEmpty b = false ∧ Php.isNumeric b = true ↔ b ∉ ["*", "0", "#"]) := by decide
  intro b hb
  obtain ⟨hword, hne, hiff⟩ := hbutton b hb
  rw [BotEventHandler.onAny, if_neg hword, h.sendDTMF, ← hiff]
  split_ifs with hboth
  · exact ⟨fun _ => hboth, fun _ => rfl⟩
  · exact ⟨fun heq => absurd heq.symm (symbolsOn_ne_nil hne), fun hboth' => absurd hboth' hboth⟩

/-- The programs agree on a text just when it is 1 to 32 decimal digits other than "0" alone, or
neither a string of DTMF symbols nor a number of Go or PHP. -/
theorem agree_iff (h : InCall l r cache userId channel) :
    Agree settings l r cache userId channel s ↔
      IsPlain s ∨ ¬IsDtmf s ∧ Go.parseFloat s = false ∧ Php.isNumeric s = false := by
  by_cases hne : s = ""
  · subst hne
    have hempty : ¬IsDtmf "" ∧ Go.parseFloat "" = false ∧ Php.isNumeric "" = false := by decide
    refine ⟨fun _ => Or.inr hempty, fun _ => ⟨?_, ?_, ?_, fun _ => isDtmfString_iff⟩⟩
    · rw [h.played_listener, hempty.2.1, if_neg hempty.1]
      rfl
    · rw [if_neg hempty.1]
      rfl
    · rw [if_neg hempty.1]
      rfl
  · rw [h.agree_iff_plays hne]
    by_cases hdtmf : IsDtmf s
    · obtain ⟨hgo, hphp⟩ := number_iff_digits hdtmf
      have hplain : IsPlain s ↔ (∀ c ∈ s.toList, c.isDigit = true) ∧ s ≠ "0" :=
        ⟨fun hplain => ⟨hplain.digits, hplain.notZero⟩,
          fun ⟨hdigits, hzero⟩ => ⟨hdigits, hdtmf.1, hdtmf.2.1, hzero⟩⟩
      have hnotEmpty : phpEmpty s = false ↔ s ≠ "0" := by simp [phpEmpty, hne]
      rw [hgo, hphp, hnotEmpty, hplain]
      simp only [hdtmf, iff_true, not_true_eq_false, false_and, or_false]
      exact ⟨fun ⟨hdigits, hzero, _⟩ => ⟨hdigits, hzero⟩,
        fun ⟨hdigits, hzero⟩ => ⟨hdigits, hzero, hdigits⟩⟩
    · have hnotPlain : ¬IsPlain s := fun hplain => hdtmf hplain.isDtmf
      have hnotZero : s ≠ "0" := by
        rintro rfl
        exact hdtmf (by decide)
      have hnotEmpty : phpEmpty s = false := by simp [phpEmpty, hne, hnotZero]
      simp [hdtmf, hnotPlain, hnotEmpty]

end agree

/-! ## Texts in a call -/

/-- User 5 is in a call. -/
def inCallReplies : Listener.Replies where
  getUser := some ⟨5, false, "", ""⟩
  inlineResults := none
  inlineMessage := none
  channel _ := "PJSIP/101-00000001"
  clock _ := 0

/-- The cache of PHP then. -/
def inCallCache (_ : ℤ) : Option String :=
  some "PJSIP/101-00000001"

theorem inCall_five : InCall {} inCallReplies inCallCache 5 "PJSIP/101-00000001" :=
  ⟨rfl, rfl, rfl, rfl⟩

theorem agree_iff_digits :
    Agree ⟨9, "busy"⟩ {} inCallReplies inCallCache 5 "PJSIP/101-00000001" "123" :=
  (agree_iff inCall_five).2 (Or.inl ⟨by simp, by decide, by decide, by decide⟩)

/-- The sign "#" and the digit "0" are not played by PHP; "1.5", which is no string of DTMF symbols,
is played, with its point. -/
theorem disagree :
    ¬Agree ⟨9, "busy"⟩ {} inCallReplies inCallCache 5 "PJSIP/101-00000001" "#" ∧
    ¬Agree ⟨9, "busy"⟩ {} inCallReplies inCallCache 5 "PJSIP/101-00000001" "0" ∧
    ¬Agree ⟨9, "busy"⟩ {} inCallReplies inCallCache 5 "PJSIP/101-00000001" "1.5" := by
  refine ⟨?_, ?_, ?_⟩
  · intro h
    exact absurd h.agent (by decide)
  · intro h
    exact absurd h.agent (by decide)
  · intro h
    exact absurd h.agent (by decide)

end TelegramProvider
