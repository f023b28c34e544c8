import TelegramProvider.Agent
import TelegramProvider.Throttle

/-!
# The last answers of the PHP agent

`onUpdateNewMessage` keeps the time of the last answer to each user, to answer a user at most every
30 seconds, and then forgets the times that are over. The loop that forgets does not look at the
time of the entry it is at, but at the one the user of the message had before the answer. So behind
an answer it forgets all entries, the new one as well, and no user is ever found in the map.

`exactAnswers_iff` : the throttle is exact just when there is nothing to hold back, and no message
comes in the first 30 seconds of the clock.
-/

set_option autoImplicit false

namespace TelegramProvider

open Histories Throttle

namespace Agent

/-! ## Messages to answer -/

/-- The user to be answered : an incoming message that is not a number, of a user. -/
def asker (x : Update × Replies) : Option ℤ :=
  match x.1 with
  | .phoneCall _ => none
  | .newMessage m =>
    if m.kind ≠ "updateNewMessage" ∧ m.out = false then
      match m.content with
      | .text text => if Php.isNumeric text then none else m.userId
      | _ => m.userId
    else none

/-- The texts a record has as sent. -/
def sentIn (trace : List Obs) : List (ℤ × String) :=
  trace.filterMap fun
    | .sent userId text => some (userId, text)
    | _ => none

/-- Behind some updates, an update is answered with the text of the settings. -/
def Answers (settings : Settings) (pre : List (Update × Replies)) (x : Update × Replies)
    (userId : ℤ) : Prop :=
  sentIn (({} : Agent).handleAll settings (pre ++ [x])).trace =
    sentIn (({} : Agent).handleAll settings pre).trace ++ [(userId, settings.autoAnswerText)]

/-- The throttle as it is meant : by the user, and the readings of the clock when the last answer is
looked up and when the new one is noted. -/
def byUser : Limiter (Update × Replies) (Option ℤ) where
  key := asker
  start x := x.2.clock 0
  stop x := x.2.clock 1
  window := 30

/-- A message is answered just when no earlier message of the same user has been answered within the
window. -/
def ExactAnswers (settings : Settings) (xs : List (Update × Replies)) : Prop :=
  ∀ pre x post userId, xs = pre ++ x :: post → asker x = some userId →
    (Answers settings pre x userId ↔ ¬∃ pre' y post', pre = pre' ++ y :: post' ∧
      byUser.Blocks y x ∧ Answers settings pre' y userId)

/-- The clock does not go back. -/
structure Clocked (xs : List (Update × Replies)) : Prop where
  monotone : ∀ x ∈ xs, ∀ j k, j ≤ k → x.2.clock j ≤ x.2.clock k
  apart : xs.Pairwise fun y x => y.2.clock 1 ≤ x.2.clock 0

/-- Messages to answer come more than 30 seconds after the clock started, and those of one user more
than 30 seconds one after the other. -/
structure Spaced (xs : List (Update × Replies)) : Prop where
  late : ∀ x ∈ xs, asker x ≠ none → 30 < x.2.clock 0
  apart : xs.Pairwise fun y x => asker x ≠ none → ¬byUser.Blocks y x

/-! ## One message -/

section step

variable {settings : Settings} {a : Agent} {x : Update × Replies} {r : Replies} {m : Message}
  {userId lastTime id callId : ℤ} {peerId : Option ℤ} {phoneCall : Option PhoneCall}
  {query text : String}

@[simp] theorem sentIn_append (trace trace' : List Obs) :
    sentIn (trace ++ trace') = sentIn trace ++ sentIn trace' :=
  List.filterMap_append

theorem sentIn_sendKeyboard :
    sentIn (a.sendKeyboard settings peerId phoneCall query r).trace = sentIn a.trace := by
  unfold sendKeyboard
  split
  · rfl
  · dsimp only
    split_ifs
    · simp [sentIn]
    · split <;> simp [sentIn]

theorem sentIn_deleteKeyboard : sentIn (a.deleteKeyboard callId).trace = sentIn a.trace := by
  unfold deleteKeyboard
  split
  · rfl
  · split
    · rfl
    · dsimp only
      split_ifs <;> simp [sentIn]

theorem sentIn_onAny : sentIn (a.onAny settings m r).trace = sentIn a.trace := by
  unfold onAny
  split
  · split_ifs
    · exact sentIn_deleteKeyboard
    · rfl
  · split_ifs
    · rw [sentIn_sendKeyboard]
      simp [sentIn]
    · rfl
  · rfl

theorem playText_lastMsg : (a.playText userId id text r).lastMsg = a.lastMsg := by
  unfold playText
  dsimp only
  split_ifs <;> rfl

/-- A message to answer is handled by `autoAnswer`, with the last answers as they were. -/
theorem exists_of_asker (settings : Settings) (a : Agent) (h : asker x = some userId) :
    ∃ a' : Agent, a'.lastMsg = a.lastMsg ∧ sentIn a'.trace = sentIn a.trace ∧
      a.handle settings x = a'.autoAnswer settings userId x.2 := by
  obtain ⟨u, r⟩ := x
  cases u with
  | phoneCall call => simp [asker] at h
  | newMessage m =>
    obtain ⟨kind, id, out, user, fromId, peerId, content⟩ := m
    refine ⟨a.onAny settings ⟨kind, id, out, user, fromId, peerId, content⟩ r, onAny_lastMsg,
      sentIn_onAny, ?_⟩
    unfold asker at h
    unfold handle onUpdateNewMessage newMessage
    dsimp only at h ⊢
    split_ifs at h with hincoming
    rw [if_pos hincoming]
    cases content with
    | text text =>
      dsimp only at h
      split_ifs at h with hnumeric
      subst h
      exact if_neg hnumeric
    | call reason callId =>
      dsimp only at h
      subst h
      rfl
    | other =>
      dsimp only at h
      subst h
      rfl

/-- Any other update leaves the last answers. -/
theorem handle_lastMsg_of_none (h : asker x = none) :
    (a.handle settings x).lastMsg = a.lastMsg := by
  obtain ⟨u, r⟩ := x
  cases u with
  | phoneCall call =>
    unfold handle onUpdatePhoneCall
    dsimp only
    split_ifs
    · rfl
    · exact sendKeyboard_lastMsg
    · rfl
  | newMessage m =>
    obtain ⟨kind, id, out, user, fromId, peerId, content⟩ := m
    have hany : (a.onAny settings ⟨kind, id, out, user, fromId, peerId, content⟩ r).lastMsg =
      a.lastMsg := onAny_lastMsg
    unfold asker at h
    unfold handle onUpdateNewMessage newMessage
    dsimp only at h ⊢
    split_ifs at h ⊢
    · cases user with
      | none => exact hany
      | some userId =>
        cases content with
        | text text =>
          dsimp only at h ⊢
          split_ifs at h ⊢
          exact playText_lastMsg.trans hany
        | call reason callId => exact absurd h (Option.some_ne_none _)
        | other => exact absurd h (Option.some_ne_none _)
    · exact hany

/-- Without last answers, a message is answered if the clock has run for 30 seconds, and there are
no last answers again. -/
theorem autoAnswer_of_nil (userId : ℤ) (hset : phpEmpty settings.autoAnswerText = false)
    (hclock : ∀ j k, j ≤ k → r.clock j ≤ r.clock k) (h : a.lastMsg = []) :
    (a.autoAnswer settings userId r).lastMsg = [] ∧
      sentIn (a.autoAnswer settings userId r).trace = sentIn a.trace ++
        if 30 < r.clock 0 then [(userId, settings.autoAnswerText)] else [] := by
  have hlookup : (a.lastMsg.lookup userId).getD 0 = 0 := by
    rw [h]
    rfl
  unfold autoAnswer
  rw [hset, if_neg Bool.false_ne_true, hlookup]
  dsimp only
  unfold forget answer
  rw [Int.sub_zero, setLastMsg_lastMsg, setLastMsg_trace]
  by_cases hlate : 30 < r.clock 0
  · -- the reading in the loop is later than the first one
    have hle : r.clock 0 ≤ r.clock 2 := hclock 0 2 (by omega)
    have hforget : 30 < r.clock 2 := by omega
    rw [if_pos hlate, if_pos hlate]
    simp [h, put, hforget, sentIn]
  · rw [if_neg hlate, if_neg hlate]
    simp [h]

end step

/-! ## Runs -/

section run

variable {settings : Settings} {xs pre : List (Update × Replies)} {x : Update × Replies}
  {userId : ℤ}

theorem Clocked.left {post : List (Update × Replies)} (h : Clocked (pre ++ post)) : Clocked pre :=
  ⟨fun x hx => h.monotone x (List.mem_append_left _ hx), (List.pairwise_append.1 h.apart).1⟩

/-- There are never any last answers. -/
theorem lastMsg_handleAll (hset : phpEmpty settings.autoAnswerText = false) (hclock : Clocked xs) :
    (({} : Agent).handleAll settings xs).lastMsg = [] := by
  induction xs using List.reverseRecOn with
  | nil => rfl
  | append_singleton xs x ih =>
    have hnil := ih hclock.left
    rw [handleAll_concat]
    cases hx : asker x with
    | none => rw [handle_lastMsg_of_none hx, hnil]
    | some userId =>
      obtain ⟨a', hlast, -, hhandle⟩ :=
        exists_of_asker settings (({} : Agent).handleAll settings xs) hx
      rw [hhandle]
      exact (autoAnswer_of_nil userId hset (hclock.monotone x (by simp)) (hlast.trans hnil)).1

/-- A message is answered just when the clock has run for 30 seconds. -/
theorem answers_iff (hset : phpEmpty settings.autoAnswerText = false)
    (hclock : Clocked (pre ++ [x])) (hx : asker x = some userId) :
    Answers settings pre x userId ↔ 30 < x.2.clock 0 := by
  have hnil := lastMsg_handleAll hset hclock.left
  obtain ⟨a', hlast, hsent, hhandle⟩ :=
    exists_of_asker settings (({} : Agent).handleAll settings pre) hx
  have htexts := (autoAnswer_of_nil userId hset (hclock.monotone x (by simp)) (hlast.trans hnil)).2
  unfold Answers
  rw [handleAll_concat, hhandle, htexts, hsent, List.append_cancel_left_eq]
  split_ifs with hlate <;> simp [hlate]

end run

/-- The throttle of the agent is exact just when every message to answer comes more than 30 seconds
after the clock started, and more than 30 seconds after the one before of the same user. -/
theorem exactAnswers_iff {settings : Settings} {xs : List (Update × Replies)}
    (hset : phpEmpty settings.autoAnswerText = false) (hclock : Clocked xs) :
    ExactAnswers settings xs ↔ Spaced xs := by
  have hanswers : ∀ pre x post userId, xs = pre ++ x :: post → asker x = some userId →
      (Answers settings pre x userId ↔ 30 < x.2.clock 0) := by
    rintro pre x post userId rfl hx
    have hsplit : Clocked ((pre ++ [x]) ++ post) := by simpa using hclock
    exact answers_iff hset hsplit.left hx
  constructor
  · intro h
    have hlate : ∀ x ∈ xs, asker x ≠ none → 30 < x.2.clock 0 := by
      intro x hx hasker
      obtain ⟨pre, post, hsplit⟩ := List.append_of_mem hx
      obtain ⟨userId, huser⟩ := Option.ne_none_iff_exists'.1 hasker
      have hiff := hanswers pre x post userId hsplit huser
      by_contra hearly
      have hno : ¬Answers settings pre x userId := fun hyes => hearly (hiff.1 hyes)
      rw [h pre x post userId hsplit huser, not_not] at hno
      obtain ⟨pre', y, post', hpre, hblocks, hy⟩ := hno
      -- the earlier message was answered, so the clock had run for 30 seconds then
      have hyuser : asker y = some userId := hblocks.1.trans huser
      have hylate :=
        (hanswers pre' y (post' ++ x :: post) userId (by simp [hsplit, hpre]) hyuser).1 hy
      have hmem : y ∈ pre := by simp [hpre]
      rw [hsplit] at hclock
      have hmono := hclock.monotone y (List.mem_append_left _ hmem) 0 1 (by simp)
      have hle := (List.pairwise_append.1 hclock.apart).2.2 y hmem x (by simp)
      omega
    refine ⟨hlate, Justified.pairwise fun pre x post hsplit y hy hasker hblocks => ?_⟩
    -- both are answered
    obtain ⟨userId, huser⟩ := Option.ne_none_iff_exists'.1 hasker
    obtain ⟨pre', post', hpre⟩ := List.append_of_mem hy
    have hyuser : asker y = some userId := hblocks.1.trans huser
    have hyes := (hanswers pre' y (post' ++ x :: post) userId (by simp [hsplit, hpre]) hyuser).2
      (hlate y (by simp [hsplit, hy]) (by simp [hyuser]))
    have hxes := (hanswers pre x post userId hsplit huser).2 (hlate x (by simp [hsplit]) hasker)
    exact (h pre x post userId hsplit huser).1 hxes ⟨pre', y, post', hpre, hblocks, hyes⟩
  · rintro ⟨hlate, hapart⟩ pre x post userId hsplit hx
    have hyes :=
      (hanswers pre x post userId hsplit hx).2 (hlate x (by simp [hsplit]) (by simp [hx]))
    refine iff_of_true hyes ?_
    rintro ⟨pre', y, post', hpre, hblocks, -⟩
    rw [hsplit] at hapart
    exact (List.pairwise_append.1 hapart).2.2 y (by simp [hpre]) x (by simp) (by simp [hx]) hblocks

/-- User `userId` writes when the clock reads `seconds`. -/
def textAt (seconds userId : ℤ) : Update × Replies :=
  (.newMessage ⟨"message", 1, false, some userId, some userId, some userId, .text "hello"⟩,
    { users := fun _ => [], peer := userId, results := 0, response := none,
      channel := fun _ => none, clock := fun _ => seconds })

theorem clocked_textAt {times : List (ℤ × ℤ)} (h : times.Pairwise fun p q => p.1 ≤ q.1) :
    Clocked (times.map fun p => textAt p.1 p.2) := by
  refine ⟨?_, List.pairwise_map.2 h⟩
  intro x hx
  obtain ⟨p, -, rfl⟩ := List.mem_map.1 hx
  exact fun _ _ _ => Int.le_refl _

/-- Two users write, and the first writes again later. -/
theorem exactAnswers_spaced : ExactAnswers ⟨"79000000000", 3, 9, "busy"⟩
    ([(100, 5), (101, 6), (140, 5)].map fun p => textAt p.1 p.2) := by
  refine (exactAnswers_iff (by decide) (clocked_textAt (by decide))).2 ⟨?_, ?_⟩
  · decide
  · decide

/-- A user who writes twice is answered twice. -/
theorem not_exactAnswers : ¬ExactAnswers ⟨"79000000000", 3, 9, "busy"⟩
    ([(100, 5), (101, 5)].map fun p => textAt p.1 p.2) := by
  intro h
  have hfirst : Answers ⟨"79000000000", 3, 9, "busy"⟩ [] (textAt 100 5) 5 := by
    unfold Answers
    decide
  have hsecond : Answers ⟨"79000000000", 3, 9, "busy"⟩ [textAt 100 5] (textAt 101 5) 5 := by
    unfold Answers
    decide
  exact (h [textAt 100 5] (textAt 101 5) [] 5 rfl rfl).1 hsecond
    ⟨[], textAt 100 5, [], rfl, by decide, hfirst⟩

end Agent

end TelegramProvider
