import TelegramProvider.Collisions

/-!
# Keyboards left behind

The keyboard client sends a keyboard whenever TDLib says that an incoming call is pending, and
remembers one message for each chat. When the message of the call comes, it deletes the one it
remembers.

`Accounted` : what was sent to a chat is what was deleted there and what is remembered. It is kept
as long as no keyboard is sent to a chat where one is remembered. A second update about the same
pending call does that, and leaves a keyboard behind. `tidied_of_run` says of which runs every
keyboard of a chat is deleted once when the message of a call comes.
-/

set_option autoImplicit false

namespace TelegramProvider

open Runs Decimal

namespace Listener

/-! ## What is sent and deleted -/

/-- The keyboard that is sent, if Telegram gave it an id. -/
def keyboardOf (r : Replies) : Option ℤ :=
  (sendMsgFromBot r).filter (· ≠ 0)

/-- The keyboards that are sent to a chat, one for each update about a pending incoming call. -/
def sentTo (chatId : ℤ) (xs : List (Update × Replies)) : List ℤ :=
  xs.flatMap fun x =>
    match x.1 with
    | .call false userId true => if userId = chatId then (keyboardOf x.2).toList else []
    | _ => []

/-- The messages that were deleted in a chat. -/
def deletedIn (chatId : ℤ) (trace : List Obs) : List ℤ :=
  trace.flatMap fun
    | .deleted chatId' messageIds => if chatId' = chatId then messageIds else []
    | _ => []

/-- The message of an incoming call that is over. -/
def IsOver (chatId : ℤ) (x : Update × Replies) : Prop :=
  ∃ duration, x.1 = .newMessage false chatId (.call duration)

/-- Behind a run, messages were deleted in the chat they were sent to, and behind the message of a
call, every keyboard of the chat was deleted once. -/
structure Tidied (xs : List (Update × Replies)) (l : Listener) : Prop where
  own : ∀ chatId, ∀ messageId ∈ deletedIn chatId l.trace, messageId ∈ sentTo chatId xs
  once : ∀ chatId pre x, xs = pre ++ [x] → IsOver chatId x →
    deletedIn chatId l.trace = sentTo chatId xs

/-! ## What is remembered -/

/-- The id of a message, if the value is one. -/
def Value.messageId : Value → Option ℤ
  | .int64 messageId => some messageId
  | _ => none

/-- The message that is remembered under the key of a purpose. -/
def remembered (p : Purpose) (l : Listener) : Option ℤ :=
  (l.cache.items p.key).bind fun item => item.value.value.messageId

/-- A message that is remembered has not expired. -/
def Lasts (p : Purpose) (now : ℤ) (l : Listener) : Prop :=
  l.remembered p ≠ none → (l.get p now).isSome = true

/-- The client runs, and the messages it remembers last. A keyboard is sent only to a chat where
none is remembered. -/
def Tidy (settings : Settings) (l : Listener) (x : Update × Replies) : Prop :=
  l.stopped = false ∧ match x.1 with
    | .call false userId true => keyboardOf x.2 = none ∨ l.remembered (.keyboard userId) = none
    | .newMessage false chatId (.call _) => l.Lasts (.keyboard chatId) (x.2.clock 0)
    | .newMessage false chatId (.text _) =>
      l.Lasts (.mark chatId settings.autoAnswerText) (x.2.clock 2)
    | _ => True

section remembered

variable {l : Listener} {p q : Purpose} {e : Entry} {value : Value} {now seconds : ℤ}

@[simp] theorem remembered_log (o : Obs) (l : Listener) :
    (l.log o).remembered p = l.remembered p := rfl

theorem remembered_set_of_key (h : q.key = p.key) :
    (l.set p value now seconds).remembered q = value.messageId := by
  unfold remembered Listener.set Expiring.Cache.set
  dsimp only
  rw [h, Function.update_self]
  rfl

theorem remembered_set_of_ne (h : q.key ≠ p.key) :
    (l.set p value now seconds).remembered q = l.remembered q := by
  unfold remembered Listener.set Expiring.Cache.set
  dsimp only
  rw [Function.update_of_ne h]

theorem remembered_of_get (h : l.get p now = some e) : l.remembered p = e.value.messageId := by
  unfold Listener.get Expiring.Cache.get at h
  unfold remembered
  split at h
  · simp at h
  · rename_i item hitem
    split_ifs at h
    obtain rfl := Option.some.inj h
    rw [hitem]
    rfl

theorem remembered_of_lasts (h : l.Lasts p now) (hget : l.get p now = none) :
    l.remembered p = none := by
  by_contra hne
  have hsome := h hne
  simp [hget] at hsome

end remembered

/-! ## What leaves the keyboards alone -/

/-- Between `l` and `l'` no keyboard was sent or deleted. -/
structure Untouched (l l' : Listener) : Prop where
  remembered : ∀ chatId, l'.remembered (.keyboard chatId) = l.remembered (.keyboard chatId)
  deleted : ∀ chatId, deletedIn chatId l'.trace = deletedIn chatId l.trace

section untouched

variable {settings : Settings} {l l' l'' : Listener} {o : Obs} {p : Purpose} {value : Value}
  {now seconds chatId duration : ℤ} {r : Replies} {k : ℕ} {message text channel : String}
  {digits : List Char}

@[simp] theorem deletedIn_append (trace trace' : List Obs) :
    deletedIn chatId (trace ++ trace') = deletedIn chatId trace ++ deletedIn chatId trace' :=
  List.flatMap_append

theorem Untouched.refl (l : Listener) : Untouched l l :=
  ⟨fun _ => rfl, fun _ => rfl⟩

theorem Untouched.trans (h : Untouched l l') (h' : Untouched l' l'') : Untouched l l'' :=
  ⟨fun chatId => (h'.remembered chatId).trans (h.remembered chatId),
    fun chatId => (h'.deleted chatId).trans (h.deleted chatId)⟩

/-- Recording anything but a deletion. -/
theorem untouched_log (ho : ∀ chatId, deletedIn chatId [o] = []) (l : Listener) :
    Untouched l (l.log o) := by
  refine ⟨fun _ => rfl, fun chatId => ?_⟩
  rw [log_trace, deletedIn_append, ho, List.append_nil]

/-- Setting an entry is harmless if its key is no chat, or if the same message is remembered. -/
theorem untouched_set (h : ∀ chatId, (Purpose.keyboard chatId).key = p.key →
    value.messageId = l.remembered p) : Untouched l (l.set p value now seconds) := by
  refine ⟨fun chatId => ?_, fun _ => rfl⟩
  by_cases hkey : (Purpose.keyboard chatId).key = p.key
  · rw [remembered_set_of_key hkey, h chatId hkey]
    unfold Listener.remembered
    rw [hkey]
  · exact remembered_set_of_ne hkey

theorem key_bot_ne_keyboard (userId chatId : ℤ) :
    (Purpose.keyboard chatId).key ≠ (Purpose.bot userId).key := by
  intro heq
  exact key_bot_ne "" (heq.symm.trans (String.append_empty).symm)

/-- A note about a bot. -/
theorem untouched_set_bot (userId : ℤ) (l : Listener) :
    Untouched l (l.set (.bot userId) value now seconds) :=
  untouched_set fun chatId hkey => absurd hkey (key_bot_ne_keyboard userId chatId)

/-- The mark of a message may have the key of a keyboard, but is not set while that lasts. -/
theorem untouched_sendMessage (h : l.Lasts (.mark chatId message) (r.clock k)) :
    Untouched l (l.sendMessage r k chatId message) := by
  unfold sendMessage
  dsimp only
  split
  · exact untouched_log (fun _ => rfl) l
  · rename_i hget
    have hlog := untouched_log (o := .got (.mark chatId message)
      (l.get (.mark chatId message) (r.clock k))) (fun _ => rfl) l
    refine (hlog.trans (untouched_set fun _ _ => ?_)).trans (untouched_log (fun _ => rfl) _)
    exact (remembered_of_lasts h hget).symm

theorem untouched_playAll (l : Listener) : Untouched l (l.playAll channel digits) := by
  unfold playAll
  induction digits generalizing l with
  | nil => exact Untouched.refl l
  | cons digit digits ih => exact (untouched_log (fun _ => rfl) l).trans (ih _)

theorem untouched_answerText
    (h : l.Lasts (.mark chatId settings.autoAnswerText) (r.clock 2)) :
    Untouched l (l.answerText settings r chatId text) := by
  unfold answerText
  dsimp only
  split_ifs
  · exact untouched_sendMessage h
  · exact untouched_playAll l
  · exact untouched_sendMessage h

/-- A note about a bot leaves the marks alone. -/
theorem isBot_items (l : Listener) :
    (l.isBot r chatId).2.cache.items (Purpose.mark chatId message).key =
      l.cache.items (Purpose.mark chatId message).key := by
  unfold isBot
  dsimp only
  split
  · rfl
  · split
    · rfl
    · exact Function.update_of_ne (key_bot_ne message).symm _ _

theorem untouched_isBot (l : Listener) : Untouched l (l.isBot r chatId).2 := by
  have hlog := untouched_log (o := .got (.bot chatId) (l.get (.bot chatId) (r.clock 0)))
    (fun _ => rfl) l
  unfold isBot
  dsimp only
  split
  · exact hlog
  · split
    · exact hlog
    · exact hlog.trans (untouched_set_bot _ _)

theorem untouched_incomingText
    (h : l.Lasts (.mark chatId settings.autoAnswerText) (r.clock 2)) :
    Untouched l (l.incomingText settings r chatId text) := by
  have hbot : Untouched l (l.isBot r chatId).2 := untouched_isBot l
  have hlasts : (l.isBot r chatId).2.Lasts (.mark chatId settings.autoAnswerText) (r.clock 2) := by
    unfold Lasts Listener.remembered Listener.get Expiring.Cache.get
    rw [isBot_items]
    exact h
  unfold incomingText
  split
  · rename_i heq
    rw [heq] at hbot hlasts
    exact hbot.trans (untouched_answerText hlasts)
  · rename_i heq
    rw [heq] at hbot
    exact hbot

theorem untouched_outgoingCallOver (l : Listener) :
    Untouched l (l.outgoingCallOver settings r chatId duration) := by
  unfold outgoingCallOver
  split_ifs
  · split
    · exact Untouched.refl l
    · rename_i u _
      have hlog := untouched_log (o := .asked settings.botId chatId
        ("callback:" ++ u.phoneNumber ++ ":" ++ toString u.id ++ ":" ++ u.username))
        (fun _ => rfl) l
      dsimp only
      split
      · exact ⟨hlog.remembered, hlog.deleted⟩
      · exact hlog
  · exact Untouched.refl l

/-- A pending call for which no keyboard is sent. -/
theorem untouched_incomingCall (h : keyboardOf r = none) (l : Listener) :
    Untouched l (l.incomingCall settings r chatId) := by
  have hlog := untouched_log (o := .asked settings.botId chatId "keyboard:") (fun _ => rfl) l
  unfold incomingCall
  dsimp only
  split
  · exact ⟨hlog.remembered, hlog.deleted⟩
  · rename_i messageId hsent
    have hzero : messageId = 0 := by simpa [keyboardOf, hsent] using h
    rw [if_pos hzero]
    exact hlog

end untouched

/-! ## Every keyboard is accounted for -/

/-- What was sent to a chat is what was deleted there and what is remembered. -/
def Accounted (xs : List (Update × Replies)) (l : Listener) : Prop :=
  ∀ chatId, sentTo chatId xs =
    deletedIn chatId l.trace ++ (l.remembered (.keyboard chatId)).toList

section accounted

variable {settings : Settings} {l l' : Listener} {xs : List (Update × Replies)}
  {x : Update × Replies} {r : Replies} {chatId chatId' userId messageId duration : ℤ}

theorem sentTo_concat : sentTo chatId (xs ++ [x]) = sentTo chatId xs ++ sentTo chatId [x] :=
  List.flatMap_append

theorem sentTo_pending :
    sentTo chatId [(.call false userId true, r)] =
      if userId = chatId then (keyboardOf r).toList else [] :=
  List.flatMap_singleton _ _

/-- An update that is not about a pending call sends no keyboard. -/
theorem sentTo_of_not_pending (h : ∀ userId, x.1 ≠ .call false userId true) :
    sentTo chatId [x] = [] := by
  obtain ⟨u, r⟩ := x
  unfold sentTo
  rw [List.flatMap_singleton]
  dsimp only
  split
  · exact absurd rfl (h _)
  · rfl

/-- No keyboard was sent, and the client left the others alone. -/
theorem Accounted.untouched (h : Accounted xs l) (hsame : Untouched l l')
    (hx : ∀ chatId, sentTo chatId [x] = []) : Accounted (xs ++ [x]) l' := by
  intro chatId
  rw [sentTo_concat, hx, List.append_nil, hsame.deleted, hsame.remembered]
  exact h chatId

/-- A keyboard is sent for a pending call, and none is remembered. -/
theorem Accounted.incomingCall (h : Accounted xs l)
    (hx : keyboardOf r = none ∨ l.remembered (.keyboard userId) = none) :
    Accounted (xs ++ [(.call false userId true, r)]) (l.incomingCall settings r userId) := by
  cases hkeyboard : keyboardOf r with
  | none =>
    refine h.untouched (untouched_incomingCall hkeyboard l) fun chatId => ?_
    rw [sentTo_pending, hkeyboard, Option.toList_none, ite_self]
  | some messageId =>
    have hnone : l.remembered (.keyboard userId) = none := by simpa [hkeyboard] using hx
    obtain ⟨hsent, hzero⟩ : sendMsgFromBot r = some messageId ∧ messageId ≠ 0 := by
      simpa [keyboardOf, Option.filter_eq_some_iff] using hkeyboard
    have hlog := untouched_log (o := .asked settings.botId userId "keyboard:") (fun _ => rfl) l
    unfold Listener.incomingCall
    simp only [hsent, if_neg hzero]
    intro chatId
    rw [sentTo_concat, sentTo_pending, hkeyboard, set_trace, hlog.deleted, h chatId]
    by_cases hchat : userId = chatId
    · -- nothing was remembered, so nothing is overwritten
      subst hchat
      rw [remembered_set_of_key rfl, hnone, if_pos rfl, Option.toList_none, List.append_nil]
      rfl
    · have hne : (Purpose.keyboard chatId).key ≠ (Purpose.keyboard userId).key :=
        fun heq => hchat (toString_injective heq).symm
      rw [remembered_set_of_ne hne, if_neg hchat, List.append_nil, remembered_log]

/-- What is remembered for a chat is deleted there, and replaced by the note of the deletion. -/
theorem Accounted.delete {now : ℤ} (h : Accounted xs l)
    (hremembered : l.remembered (.keyboard chatId) = some messageId)
    (hx : ∀ chatId, sentTo chatId [x] = []) :
    Accounted (xs ++ [x]) ((l.log (.deleted chatId [messageId])).set (.deleted chatId) (.str "")
      now 1) := by
  have hkey : (Purpose.keyboard chatId).key = (Purpose.deleted chatId).key := rfl
  intro chatId'
  rw [sentTo_concat, hx, List.append_nil, set_trace, log_trace, deletedIn_append, h chatId']
  by_cases hchat : chatId = chatId'
  · subst hchat
    rw [remembered_set_of_key hkey, hremembered]
    simp [deletedIn, Value.messageId]
  · have hne : (Purpose.keyboard chatId').key ≠ (Purpose.deleted chatId).key :=
      fun heq => hchat (toString_injective heq).symm
    rw [remembered_set_of_ne hne, remembered_log]
    simp [deletedIn, hchat]

/-- When the message of a call comes, what is remembered for the chat is deleted. -/
theorem Accounted.incomingCallOver (h : Accounted xs l)
    (hlasts : l.Lasts (.keyboard chatId) (r.clock 0)) :
    Accounted (xs ++ [(.newMessage false chatId (.call duration), r)])
        (l.incomingCallOver r chatId) ∧
      (l.incomingCallOver r chatId).remembered (.keyboard chatId) = none := by
  have hover : ∀ chatId', sentTo chatId' [(.newMessage false chatId (.call duration), r)] = [] :=
    fun _ => sentTo_of_not_pending (by simp)
  have hlog := untouched_log (o := .got (.keyboard chatId) (l.get (.keyboard chatId) (r.clock 0)))
    (fun _ => rfl) l
  unfold Listener.incomingCallOver
  dsimp only
  split
  · rename_i hget
    exact ⟨h.untouched hlog hover, remembered_of_lasts hlasts hget⟩
  · rename_i entry hget
    have hremembered := remembered_of_get hget
    split
    · rename_i messageId hvalue
      rw [hvalue] at hremembered
      have hl : Accounted xs (l.log (.got (.keyboard chatId)
          (l.get (.keyboard chatId) (r.clock 0)))) := by
        intro chatId'
        rw [hlog.deleted, hlog.remembered]
        exact h chatId'
      exact ⟨hl.delete hremembered hover, remembered_set_of_key rfl⟩
    · -- what was found is no id, and the type assertion panics
      rename_i hvalue
      have hnone : l.remembered (.keyboard chatId) = none := by
        rw [hremembered]
        cases hv : entry.value with
        | int64 messageId => exact absurd hv (hvalue messageId)
        | str s => rfl
        | bool b => rfl
      exact ⟨h.untouched ⟨hlog.remembered, hlog.deleted⟩ hover, hnone⟩

theorem Accounted.handle (h : Accounted xs l) (hx : l.Tidy settings x) :
    Accounted (xs ++ [x]) (l.handle settings x.1 x.2) := by
  obtain ⟨u, r⟩ := x
  obtain ⟨-, hx⟩ := hx
  unfold Listener.handle
  dsimp only at hx ⊢
  split
  · refine h.untouched ?_ fun _ => rfl
    split_ifs
    · exact untouched_set_bot _ _
    · exact Untouched.refl l
  · exact h.untouched (untouched_outgoingCallOver l) fun _ => rfl
  · exact (h.incomingCallOver hx).1
  · exact h.untouched (untouched_incomingText hx) fun _ => rfl
  · exact h.incomingCall hx
  · rename_i hother
    refine h.untouched (Untouched.refl l) fun _ => sentTo_of_not_pending fun userId heq => ?_
    exact hother userId heq

theorem accounted_started : Accounted [] (started settings r) := by
  have hnone : ∀ p : Purpose, ({} : Listener).remembered p = none := fun _ => rfl
  have hsame : Untouched {} (started settings r) :=
    untouched_sendMessage fun hne => absurd (hnone _) hne
  intro chatId
  rw [hsame.deleted, hsame.remembered, hnone]
  rfl

theorem accounted_of_run
    (h : Run (Restrict (Step settings) (Tidy settings)) (started settings r) xs l) :
    Accounted xs l := by
  induction h with
  | nil => exact accounted_started
  | snoc _ hstep ih =>
    obtain ⟨rfl, hx⟩ := hstep
    rw [hx.1, if_neg (by simp)]
    exact ih.handle hx

/-- The message of a call leaves nothing remembered for its chat. -/
theorem remembered_handle (h : Accounted xs l) (hx : l.Tidy settings x) (hover : IsOver chatId x) :
    (l.handle settings x.1 x.2).remembered (.keyboard chatId) = none := by
  obtain ⟨u, r⟩ := x
  obtain ⟨duration, rfl⟩ := hover
  have hboth : Accounted (xs ++ [(.newMessage false chatId (.call duration), r)])
      (l.incomingCallOver r chatId) ∧
        (l.incomingCallOver r chatId).remembered (.keyboard chatId) = none :=
    h.incomingCallOver hx.2
  exact hboth.2

end accounted

/-- No keyboard is left behind in a run that sends a keyboard only to chats where none is
remembered : what is deleted in a chat was sent there, and behind the message of a call, every
keyboard of the chat has been deleted once. -/
theorem tidied_of_run {settings : Settings} {r : Replies} {xs : List (Update × Replies)}
    {l : Listener}
    (h : Run (Restrict (Step settings) (Tidy settings)) (started settings r) xs l) :
    Tidied xs l := by
  have hl := accounted_of_run h
  refine ⟨fun chatId messageId hmem => ?_, fun chatId pre x hsplit hover => ?_⟩
  · rw [hl chatId]
    exact List.mem_append_left _ hmem
  · cases h with
    | nil => simp at hsplit
    | @snoc ys l₀ y _ hrun hstep =>
      obtain ⟨rfl, rfl⟩ : ys = pre ∧ y = x := by simpa using hsplit
      obtain ⟨rfl, hx⟩ := hstep
      have hnone : (l₀.handle settings y.1 y.2).remembered (.keyboard chatId) = none :=
        remembered_handle (accounted_of_run hrun) hx hover
      have hsent := hl chatId
      rw [hx.1, if_neg (by simp)] at hsent ⊢
      rw [hsent, hnone, Option.toList_none, List.append_nil]

/-! ## Runs -/

instance (p : Purpose) (now : ℤ) (l : Listener) : Decidable (l.Lasts p now) :=
  inferInstanceAs (Decidable (_ → _))

instance (settings : Settings) (l : Listener) : DecidablePred (l.Tidy settings)
  | (.call false userId true, r) => inferInstanceAs (Decidable (l.stopped = false ∧
      (keyboardOf r = none ∨ l.remembered (.keyboard userId) = none)))
  | (.newMessage false chatId (.call _), r) => inferInstanceAs (Decidable (l.stopped = false ∧
      l.Lasts (.keyboard chatId) (r.clock 0)))
  | (.newMessage false chatId (.text _), r) => inferInstanceAs (Decidable (l.stopped = false ∧
      l.Lasts (.mark chatId settings.autoAnswerText) (r.clock 2)))
  | (.newMessage false _ .other, _) | (.newMessage true _ _, _) | (.user _, _)
  | (.call false _ false, _) | (.call true _ _, _) | (.other, _) =>
    inferInstanceAs (Decidable (l.stopped = false ∧ True))

/-- The bot answers with the given message. -/
def answersWith (messageId seconds : ℤ) : Replies :=
  { repliesAt seconds true with inlineMessage := some messageId }

/-- User 5 calls, writes, hangs up, and calls again. -/
def calledAgain : List (Update × Replies) := [
  (.call false 5 true, answersWith 77 100),
  (.newMessage false 5 (.text "hello"), answersWith 0 101),
  (.newMessage false 5 (.call 10), answersWith 0 110),
  (.call false 5 true, answersWith 78 200),
  (.newMessage false 5 (.call 20), answersWith 0 220)]

theorem tidied_of_run_calledAgain :
    (exec (guarded (Tidy ⟨9, "busy"⟩) (next ⟨9, "busy"⟩)) (started ⟨9, "busy"⟩ (repliesAt 0 true))
        calledAgain).isSome = true ∧
      ∀ l, exec (guarded (Tidy ⟨9, "busy"⟩) (next ⟨9, "busy"⟩))
        (started ⟨9, "busy"⟩ (repliesAt 0 true)) calledAgain = some l → Tidied calledAgain l :=
  ⟨by decide, fun _ h => tidied_of_run (Run.of_guarded (fun _ _ _ => step_of_next) h)⟩

/-- TDLib says twice that the call of user 5 is pending. -/
def pendingTwice : List (Update × Replies) := [
  (.call false 5 true, answersWith 77 100),
  (.call false 5 true, answersWith 78 101),
  (.newMessage false 5 (.call 10), answersWith 0 110)]

/-- The first of two keyboards for one call is left behind. -/
theorem not_tidied_pendingTwice : ∃ l,
    Run (Step ⟨9, "busy"⟩) (started ⟨9, "busy"⟩ (repliesAt 0 true)) pendingTwice l ∧
      sentTo 5 pendingTwice = [77, 78] ∧ deletedIn 5 l.trace = [78] ∧ ¬Tidied pendingTwice l := by
  obtain ⟨l, hl⟩ : ∃ l, exec (next ⟨9, "busy"⟩) (started ⟨9, "busy"⟩ (repliesAt 0 true))
      pendingTwice = some l := ⟨_, rfl⟩
  have hdeleted : deletedIn 5 l.trace = [78] := by
    obtain rfl := Option.some.inj hl
    decide
  have hsent : sentTo 5 pendingTwice = [77, 78] := by decide
  refine ⟨l, Run.of_exec (fun _ _ _ => step_of_next) hl, hsent, hdeleted, fun h => ?_⟩
  have hall := h.once 5 _ _ (List.dropLast_append_getLast (by simp [pendingTwice])).symm ⟨10, rfl⟩
  rw [hdeleted, hsent] at hall
  simp at hall

end Listener

end TelegramProvider
