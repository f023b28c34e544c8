import TelegramProvider.Listener

/-!
# Keys that collide

The keys of the keyboard client's cache are not tagged : the keyboard of a chat is under the
digits of its id, and the mark of a text under the digits followed by the text. So a text of
digits gives one chat the key of another, and the empty text gives a chat its own key. The
note that a keyboard was deleted is under the key of the keyboard, and is no message id.

`clean_of_run` says when entries are not confused : the text of the settings is not made of
digits only and is not the start text behind digits, and a call is not over in a chat while
the last deletion there is still noted. Then every `Get` finds what was set for the same
purpose, and no panic stops the client.
-/

set_option autoImplicit false

namespace TelegramProvider

open Runs Decimal

namespace Listener

/-! ## When keys collide -/

/-- The text is made of digits only, perhaps of none. -/
def AllDigits (text : String) : Prop :=
  ∀ c ∈ text.toList, c.isDigit = true

/-- One text is the other behind some digits. -/
def BehindDigits (message message' : String) : Prop :=
  ∃ digits, digits ≠ "" ∧ AllDigits digits ∧ message = digits ++ message'

/-- The text of the settings gives every chat a mark of its own : it is not made of digits, and
is not the start text behind digits. -/
structure Settings.Distinct (settings : Settings) : Prop where
  notDigits : ¬AllDigits settings.autoAnswerText
  notStart : ¬BehindDigits settings.autoAnswerText startText

/-- A mark the client sets : the text of the settings, or the start text for the bot. -/
def Settings.Marks (settings : Settings) (chatId : ℤ) (message : String) : Prop :=
  message = settings.autoAnswerText ∨ chatId = settings.botId ∧ message = startText

variable {settings : Settings} {chatId chatId' userId : ℤ} {message message' : String}

theorem not_allDigits_startText : ¬AllDigits startText := by
  intro h
  have hS : 'S'.isDigit = true := h 'S' (by decide)
  simp at hS

theorem Settings.Distinct.not_allDigits (hset : settings.Distinct)
    (h : settings.Marks chatId message) : ¬AllDigits message := by
  obtain rfl | ⟨-, rfl⟩ := h
  · exact hset.notDigits
  · exact not_allDigits_startText

/-- The key of a chat with a text behind it is the key of a chat only if the text is digits. -/
theorem key_mark_ne_key (h : ¬AllDigits message) :
    toString chatId ++ message ≠ toString chatId' := by
  intro heq
  have hlist := congrArg String.toList heq
  rw [String.toList_append] at hlist
  exact h (isDigit_of_append hlist.symm)

theorem key_bot_ne (text : String) : "bot-" ++ toString userId ≠ toString chatId ++ text := by
  intro heq
  have hlist := congrArg String.toList heq
  obtain ⟨c, cs, hcs, hc, -⟩ := exists_cons_toString chatId
  have hbot : "bot-".toList = 'b' :: "ot-".toList := rfl
  rw [String.toList_append, String.toList_append, hcs, hbot] at hlist
  obtain ⟨rfl, -⟩ := List.cons.inj hlist
  simp at hc

theorem not_behindDigits_self : ¬BehindDigits message message := by
  rintro ⟨digits, hne, -, heq⟩
  have hlen := congrArg (fun s => s.toList.length) heq
  simp only [String.toList_append, List.length_append] at hlen
  have hnil : digits.toList = [] := List.eq_nil_of_length_eq_zero (by omega)
  exact hne (by simpa using hnil)

theorem not_behindDigits_startText : ¬BehindDigits startText message := by
  rintro ⟨digits, hne, hdigits, heq⟩
  have hlist := congrArg String.toList heq
  have hstart : startText.toList = 'S' :: "tarting a new session...".toList := rfl
  rw [String.toList_append, hstart] at hlist
  cases hcs : digits.toList with
  | nil => exact hne (by simpa using hcs)
  | cons c cs =>
    rw [hcs] at hlist
    obtain ⟨rfl, -⟩ := List.cons.inj hlist
    have hS : 'S'.isDigit = true := hdigits 'S' (by simp [hcs])
    simp at hS

/-- Where the key of one chat is longer, the text of the other starts with its digits. -/
theorem mark_eq_of_append {cs : List Char}
    (hid : (toString chatId').toList = (toString chatId).toList ++ cs)
    (hmessage : message.toList = cs ++ message'.toList) (hne : ¬BehindDigits message message') :
    chatId = chatId' ∧ message = message' := by
  by_cases hcs : cs = []
  · subst hcs
    rw [List.append_nil] at hid
    exact ⟨toString_injective (String.toList_inj.1 hid.symm), String.toList_inj.1 hmessage⟩
  · refine absurd ⟨String.ofList cs, ?_, ?_, ?_⟩ hne
    · intro h
      exact hcs (by simpa using congrArg String.toList h)
    · simpa [AllDigits] using isDigit_of_append hid
    · rw [← String.toList_inj, String.toList_append, hmessage]
      simp

/-- A chat and a text are known by the key of their mark, if neither of two texts is the other
behind digits. -/
theorem key_mark_injective (hne : ¬BehindDigits message message')
    (hne' : ¬BehindDigits message' message)
    (heq : toString chatId ++ message = toString chatId' ++ message') :
    chatId = chatId' ∧ message = message' := by
  have hlist := congrArg String.toList heq
  rw [String.toList_append, String.toList_append, List.append_eq_append_iff] at hlist
  obtain ⟨cs, hid, hmessage⟩ | ⟨cs, hid, hmessage⟩ := hlist
  · exact mark_eq_of_append hid hmessage hne
  · obtain ⟨hchat, hmsg⟩ := mark_eq_of_append hid hmessage hne'
    exact ⟨hchat.symm, hmsg.symm⟩

/-- No two marks of the client have the same key. -/
theorem Settings.Distinct.mark_injective (hset : settings.Distinct)
    (h : settings.Marks chatId message) (h' : settings.Marks chatId' message')
    (heq : toString chatId ++ message = toString chatId' ++ message') :
    chatId = chatId' ∧ message = message' := by
  obtain rfl | ⟨-, rfl⟩ := h <;> obtain rfl | ⟨-, rfl⟩ := h'
  · exact key_mark_injective not_behindDigits_self not_behindDigits_self heq
  · exact key_mark_injective hset.notStart not_behindDigits_startText heq
  · exact key_mark_injective not_behindDigits_startText hset.notStart heq
  · exact key_mark_injective not_behindDigits_self not_behindDigits_self heq

/-! ## Sound listeners -/

/-- The values that are set for a purpose. -/
def Purpose.Holds : Purpose → Value → Prop
  | .keyboard _, .int64 _ => True
  | .deleted _, .str s => s = ""
  | .mark _ _, .str s => s = "1"
  | .bot _, .bool _ => True
  | _, _ => False

/-- The purposes something is set for. -/
def Settings.Uses (settings : Settings) : Purpose → Prop
  | .mark chatId message => settings.Marks chatId message
  | _ => True

/-- An entry is under the key of its purpose, with a value for it. -/
def Filed (settings : Settings) (key : String) (e : Entry) : Prop :=
  key = e.purpose.key ∧ e.purpose.Holds e.value ∧ settings.Uses e.purpose

/-- A `Get` finds only what was set for the same purpose. -/
def Obs.Clean : Obs → Prop
  | .got p (some e) => e.purpose = p ∧ p.Holds e.value
  | _ => True

/-- No panic has stopped the client, the entries are filed, and every `Get` was clean. -/
structure Sound (settings : Settings) (l : Listener) : Prop where
  running : l.stopped = false
  filed : l.cache.Satisfies (Filed settings)
  clean : ∀ o ∈ l.trace, o.Clean

section sound

variable {l l' : Listener} {o : Obs} {p : Purpose} {value : Value} {e : Entry} {r : Replies}
  {k : ℕ} {now seconds : ℤ} {text : String}

theorem Sound.log (h : Sound settings l) (ho : o.Clean) : Sound settings (l.log o) := by
  refine ⟨h.running, h.filed, ?_⟩
  intro o' ho'
  rcases List.mem_append.1 ho' with ho' | ho'
  · exact h.clean o' ho'
  · rw [List.mem_singleton.1 ho']
    exact ho

theorem Sound.set (h : Sound settings l) (hvalue : p.Holds value) (huses : settings.Uses p) :
    Sound settings (l.set p value now seconds) :=
  ⟨h.running, h.filed.set ⟨rfl, hvalue, huses⟩, h.clean⟩

/-- What is found under the key of a purpose was set for that purpose, unless it is the note of
a deletion. -/
theorem purpose_eq (hset : settings.Distinct) (hp : settings.Uses p)
    (he : settings.Uses e.purpose) (hkey : p.key = e.purpose.key)
    (hdeleted : ∀ chatId, e.purpose = .deleted chatId → p ≠ .keyboard chatId)
    (hdeleted' : ∀ chatId, p ≠ .deleted chatId) : e.purpose = p := by
  have happ : ∀ n : ℤ, toString n ++ "" = toString n := fun n => String.append_empty
  generalize e.purpose = p' at *
  cases p with
  | deleted chatId => exact absurd rfl (hdeleted' chatId)
  | keyboard chatId =>
    cases p' with
    | keyboard chatId' => rw [toString_injective hkey]
    | deleted chatId' =>
      rw [toString_injective hkey] at hdeleted
      exact absurd rfl (hdeleted chatId' rfl)
    | mark chatId' message => exact absurd hkey.symm (key_mark_ne_key (hset.not_allDigits he))
    | bot userId => exact absurd (hkey.symm.trans (happ chatId).symm) (key_bot_ne "")
  | mark chatId message =>
    cases p' with
    | keyboard chatId' => exact absurd hkey (key_mark_ne_key (hset.not_allDigits hp))
    | deleted chatId' => exact absurd hkey (key_mark_ne_key (hset.not_allDigits hp))
    | mark chatId' message' =>
      obtain ⟨rfl, rfl⟩ := hset.mark_injective hp he hkey
      rfl
    | bot userId => exact absurd hkey.symm (key_bot_ne message)
  | bot userId =>
    cases p' with
    | keyboard chatId => exact absurd (hkey.trans (happ chatId).symm) (key_bot_ne "")
    | deleted chatId => exact absurd (hkey.trans (happ chatId).symm) (key_bot_ne "")
    | mark chatId message => exact absurd hkey (key_bot_ne message)
    | bot userId' =>
      have hid : toString userId = toString userId' := by
        have hlist := congrArg String.toList hkey
        rw [Purpose.key, Purpose.key, String.toList_append, String.toList_append] at hlist
        exact String.toList_inj.1 (List.append_cancel_left hlist)
      rw [toString_injective hid]

/-- A `Get` of a sound client is clean. -/
theorem Sound.got (h : Sound settings l) (hset : settings.Distinct) (hp : settings.Uses p)
    (hdeleted : ∀ e chatId, l.get p now = some e → e.purpose = .deleted chatId →
      p ≠ .keyboard chatId)
    (hdeleted' : ∀ chatId, p ≠ .deleted chatId) : (Obs.got p (l.get p now)).Clean := by
  cases hget : l.get p now with
  | none => trivial
  | some e =>
    obtain ⟨hkey, hvalue, huses⟩ := h.filed.get hget
    have hpurpose : e.purpose = p := purpose_eq hset hp huses hkey (hdeleted e · hget) hdeleted'
    exact ⟨hpurpose, hpurpose ▸ hvalue⟩

/-! ## Every update -/

theorem Sound.sendMessage (h : Sound settings l) (hset : settings.Distinct)
    (hmark : settings.Marks chatId message) :
    Sound settings (l.sendMessage r k chatId message) := by
  have hgot : (Obs.got (.mark chatId message) (l.get (.mark chatId message) (r.clock k))).Clean :=
    h.got hset hmark (by simp) (by simp)
  have hlog := h.log hgot
  have hone : (Purpose.mark chatId message).Holds (.str "1") := rfl
  unfold Listener.sendMessage
  dsimp only
  split
  · exact hlog
  · exact (hlog.set hone hmark).log trivial

theorem Sound.playAll {channel : String} {digits : List Char} (h : Sound settings l) :
    Sound settings (l.playAll channel digits) := by
  unfold Listener.playAll
  induction digits generalizing l with
  | nil => exact h
  | cons digit digits ih => exact ih (h.log trivial)

theorem Sound.answerText (h : Sound settings l) (hset : settings.Distinct) :
    Sound settings (l.answerText settings r chatId text) := by
  unfold Listener.answerText
  dsimp only
  split_ifs
  · exact h.sendMessage hset (Or.inl rfl)
  · exact h.playAll
  · exact h.sendMessage hset (Or.inl rfl)

theorem Sound.isBot (h : Sound settings l) (hset : settings.Distinct) :
    Sound settings (l.isBot r chatId).2 := by
  have hgot : (Obs.got (.bot chatId) (l.get (.bot chatId) (r.clock 0))).Clean :=
    h.got hset trivial (by simp) (by simp)
  have hlog := h.log hgot
  unfold Listener.isBot
  dsimp only
  split
  · exact hlog
  · split
    · exact hlog
    · exact hlog.set trivial trivial

theorem Sound.incomingText (h : Sound settings l) (hset : settings.Distinct) :
    Sound settings (l.incomingText settings r chatId text) := by
  have hbot : Sound settings (l.isBot r chatId).2 := h.isBot hset
  unfold Listener.incomingText
  split
  · rename_i heq
    rw [heq] at hbot
    exact hbot.answerText hset
  · rename_i heq
    rw [heq] at hbot
    exact hbot

/-- The first result for an inline query is an article, if there is one. -/
def Replies.Articles (r : Replies) : Prop :=
  r.inlineResults.bind List.head? ≠ some .other

theorem exists_of_articles (h : r.Articles) : ∃ messageId, sendMsgFromBot r = some messageId := by
  unfold Replies.Articles at h
  unfold sendMsgFromBot
  split <;> simp_all

theorem Sound.outgoingCallOver {duration : ℤ} (h : Sound settings l) (hr : r.Articles) :
    Sound settings (l.outgoingCallOver settings r chatId duration) := by
  obtain ⟨messageId, hsent⟩ := exists_of_articles hr
  unfold Listener.outgoingCallOver
  split_ifs
  · split
    · exact h
    · simp only [hsent]
      exact h.log trivial
  · exact h

theorem Sound.incomingCall (h : Sound settings l) (hr : r.Articles) :
    Sound settings (l.incomingCall settings r userId) := by
  obtain ⟨messageId, hsent⟩ := exists_of_articles hr
  have hlog : Sound settings (l.log (.asked settings.botId userId "keyboard:")) := h.log trivial
  unfold Listener.incomingCall
  simp only [hsent]
  split_ifs
  · exact hlog
  · exact hlog.set trivial trivial

/-- The last deletion of a keyboard in the chat is still noted. -/
def NotesDeletion (r : Replies) (chatId : ℤ) (l : Listener) : Prop :=
  (l.get (.keyboard chatId) (r.clock 0)).map Entry.purpose = some (.deleted chatId)

theorem Sound.incomingCallOver (h : Sound settings l) (hset : settings.Distinct)
    (hdeleted : ¬l.NotesDeletion r chatId) : Sound settings (l.incomingCallOver r chatId) := by
  have hgot : (Obs.got (.keyboard chatId) (l.get (.keyboard chatId) (r.clock 0))).Clean := by
    refine h.got hset trivial ?_ (by simp)
    rintro e chatId' he hpurpose heq
    obtain rfl := Purpose.keyboard.inj heq
    exact hdeleted (by simp [NotesDeletion, he, hpurpose])
  have hlog := h.log hgot
  have hnote : (Purpose.deleted chatId).Holds (.str "") := rfl
  unfold Listener.incomingCallOver
  dsimp only
  split
  · exact hlog
  · rename_i e he
    rw [he] at hgot
    have hvalue : (Purpose.keyboard chatId).Holds e.value := hgot.2
    split
    · rename_i messageId _
      have hdone : (Obs.deleted chatId [messageId]).Clean := trivial
      exact (hlog.log hdone).set hnote trivial
    · rename_i hother
      cases hv : e.value with
      | int64 messageId => exact absurd hv (hother messageId)
      | str s => simp [hv, Purpose.Holds] at hvalue
      | bool b => simp [hv, Purpose.Holds] at hvalue

/-- The bot answers with articles, and no incoming call is over in a chat while the last deletion
of a keyboard there is still noted. -/
def Allowed (l : Listener) (x : Update × Replies) : Prop :=
  x.2.Articles ∧ match x.1 with
    | .newMessage false chatId (.call _) => ¬l.NotesDeletion x.2 chatId
    | _ => True

theorem Sound.handle {x : Update × Replies} (h : Sound settings l) (hset : settings.Distinct)
    (hx : l.Allowed x) : Sound settings (l.handle settings x.1 x.2) := by
  obtain ⟨u, r⟩ := x
  obtain ⟨hr, hover⟩ := hx
  unfold Listener.handle
  dsimp only at hover ⊢
  split
  · split_ifs
    · exact h.set trivial trivial
    · exact h
  · exact h.outgoingCallOver hr
  · exact h.incomingCallOver hset hover
  · exact h.incomingText hset
  · exact h.incomingCall hr
  · exact h

theorem sound_started (hset : settings.Distinct) : Sound settings (started settings r) := by
  have hnew : Sound settings {} := ⟨rfl, Expiring.Cache.satisfies_empty, by simp⟩
  exact hnew.sendMessage hset (Or.inr ⟨rfl, rfl⟩)

end sound

/-- The entries of the cache are not confused in any run : no panic stops the client, and every
`Get` finds only what was set for the same purpose. -/
theorem clean_of_run {settings : Settings} {r : Replies} {xs : List (Update × Replies)}
    {l : Listener} (hset : settings.Distinct)
    (h : Run (Restrict (Step settings) Allowed) (started settings r) xs l) :
    l.stopped = false ∧ ∀ o ∈ l.trace, o.Clean := by
  have hsound : Sound settings l := by
    refine h.invariant (Sound settings) ?_ (sound_started hset)
    intro l x l' hl hstep
    obtain ⟨rfl, hx⟩ := hstep
    rw [hl.running, if_neg (by simp)]
    exact hl.handle hset hx
  exact ⟨hsound.running, hsound.clean⟩

/-! ## Runs -/

instance (r : Replies) (chatId : ℤ) (l : Listener) : Decidable (l.NotesDeletion r chatId) :=
  inferInstanceAs (Decidable (_ = _))

instance (l : Listener) : DecidablePred l.Allowed
  | (.newMessage false chatId (.call _), r) =>
    inferInstanceAs (Decidable (r.inlineResults.bind List.head? ≠ some .other ∧
      ¬l.NotesDeletion r chatId))
  | (.newMessage false _ (.text _), r) | (.newMessage false _ .other, r)
  | (.newMessage true _ _, r) | (.user _, r) | (.call _ _ _, r) | (.other, r) =>
    inferInstanceAs (Decidable (r.inlineResults.bind List.head? ≠ some .other ∧ True))

/-- The step, computed. -/
def next (settings : Settings) (l : Listener) (x : Update × Replies) : Option Listener :=
  some (if l.stopped then l else l.handle settings x.1 x.2)

theorem step_of_next {settings : Settings} {l l' : Listener} {x : Update × Replies}
    (h : l.next settings x = some l') : Step settings l x l' :=
  (Option.some.inj h).symm

/-- Nobody is a bot, no call has a channel, and the bot answers with message 77, or not at all. -/
def repliesAt (seconds : ℤ) (answers : Bool) : Replies where
  getUser := some ⟨5, false, "", ""⟩
  inlineResults := if answers then some [.article "1"] else none
  inlineMessage := some 77
  channel _ := ""
  clock _ := seconds * second

/-- User 5 calls, hangs up, writes, and calls again. -/
def calledTwice : List (Update × Replies) := [
  (.call false 5 true, repliesAt 100 true),
  (.newMessage false 5 (.call 10), repliesAt 110 true),
  (.newMessage false 5 (.text "hello"), repliesAt 111 true),
  (.newMessage false 5 (.call 10), repliesAt 112 true)]

theorem distinct_busy : (⟨9, "busy"⟩ : Settings).Distinct := by
  refine ⟨?_, ?_⟩
  · intro h
    have hb : 'b'.isDigit = true := h 'b' (by decide)
    simp at hb
  · rintro ⟨digits, -, -, heq⟩
    have hlen := congrArg (fun s => s.toList.length) heq
    have hbusy : "busy".toList.length = 4 := rfl
    have hstart : startText.toList.length = 25 := rfl
    simp only [String.toList_append, List.length_append, hbusy, hstart] at hlen
    omega

theorem clean_of_run_calledTwice :
    (exec (guarded Allowed (next ⟨9, "busy"⟩)) (started ⟨9, "busy"⟩ (repliesAt 0 true))
        calledTwice).isSome = true ∧
      ∀ l, exec (guarded Allowed (next ⟨9, "busy"⟩)) (started ⟨9, "busy"⟩ (repliesAt 0 true))
        calledTwice = some l → l.stopped = false ∧ ∀ o ∈ l.trace, o.Clean :=
  ⟨by decide, fun _ h =>
    clean_of_run distinct_busy (Run.of_guarded (fun _ _ _ => step_of_next) h)⟩

/-- With an empty text in the settings, the keyboard of a chat is taken for the mark of the
text; the mark of the text, for a keyboard. And a call that is over within a second of a
deletion stops the client with any text. -/
theorem confused :
    (∃ l, exec (next ⟨9, ""⟩) (started ⟨9, ""⟩ (repliesAt 0 true))
        [(.call false 5 true, repliesAt 100 true),
          (.newMessage false 5 (.text "hello"), repliesAt 101 true)] = some l ∧
      .got (.mark 5 "") (some ⟨.int64 77, .keyboard 5⟩) ∈ l.trace) ∧
    (∃ l, exec (next ⟨9, ""⟩) (started ⟨9, ""⟩ (repliesAt 0 true))
        [(.newMessage false 5 (.text "hello"), repliesAt 100 true),
          (.call false 5 true, repliesAt 101 false),
          (.newMessage false 5 (.call 10), repliesAt 110 true)] = some l ∧ l.stopped = true) ∧
    ∃ l, exec (next ⟨9, "busy"⟩) (started ⟨9, "busy"⟩ (repliesAt 0 true))
        [(.call false 5 true, repliesAt 100 true),
          (.newMessage false 5 (.call 10), repliesAt 110 true),
          (.newMessage false 5 (.call 10), repliesAt 110 true)] = some l ∧ l.stopped = true := by
  refine ⟨⟨_, rfl, ?_⟩, ⟨_, rfl, ?_⟩, ⟨_, rfl, ?_⟩⟩
  · decide
  · decide
  · decide

end Listener

end TelegramProvider
