import TelegramProvider.Listener
import TelegramProvider.Throttle

/-!
# The throttle of the auto-answer

`sendMessage` sends the same message to the same chat not twice within 30 seconds. It keeps a mark
in the cache under one string, the id of the chat followed by the message, so it is a throttle with
coarser keys than it is meant to be : the id may end with digits of the message.

`exact_iff` : the throttle is exact just when no message is sent within 30 seconds of another one
whose mark is the same.
-/

set_option autoImplicit false

namespace TelegramProvider

open Throttle

namespace Listener

/-! ## Calls -/

/-- A call of `sendMessage`, with the readings of the clock when the mark is looked up and when it
is set. -/
structure Call where
  chatId : ℤ
  message : String
  asked : ℤ
  marked : ℤ
  deriving DecidableEq, Repr

/-- What is outside of a call. -/
def Call.replies (c : Call) : Replies where
  getUser := none
  inlineResults := none
  inlineMessage := none
  channel _ := ""
  clock k := if k = 0 then c.asked else c.marked

/-- One call. -/
def sendCall (l : Listener) (c : Call) : Listener :=
  l.sendMessage c.replies 0 c.chatId c.message

/-- The client behind some calls. -/
def sendAll (calls : List Call) : Listener :=
  calls.foldl sendCall {}

/-- The messages that are sent. -/
def messagesIn (obs : List Obs) : List (ℤ × String) :=
  obs.filterMap fun
    | .sent chatId text => some (chatId, text)
    | _ => none

/-- Behind some calls, a call sends its message. -/
def Sends (pre : List Call) (c : Call) : Prop :=
  messagesIn (sendAll (pre ++ [c])).trace =
    messagesIn (sendAll pre).trace ++ [(c.chatId, c.message)]

/-- How long a mark lasts. -/
def window : ℤ :=
  30 * second

/-- A call sends its message just when no call for the same chat with the same message has sent it
within the window. -/
def Exact (calls : List Call) : Prop :=
  ∀ pre c post, calls = pre ++ c :: post →
    (Sends pre c ↔ ¬∃ pre' d post', pre = pre' ++ d :: post' ∧ Sends pre' d ∧
      (d.chatId, d.message) = (c.chatId, c.message) ∧ c.asked ≤ d.marked + window)

/-! ## The two throttles -/

/-- The throttle as it is meant : by the chat and the message. -/
def byChat : Limiter Call (ℤ × String) where
  key c := (c.chatId, c.message)
  start := Call.asked
  stop := Call.marked
  window := window

/-- The string under which a mark is kept. -/
def joined (p : ℤ × String) : String :=
  (Purpose.mark p.1 p.2).key

/-- The throttle as it is : by the string. -/
def byKey : Limiter Call String :=
  byChat.coarsen joined

/-- The mark of a call. -/
def Call.mark (c : Call) : Entry :=
  ⟨.str "1", .mark c.chatId c.message⟩

section sendAll

variable {calls pre : List Call} {c : Call} {l : Listener}

theorem sendAll_concat (calls : List Call) (c : Call) :
    sendAll (calls ++ [c]) = (sendAll calls).sendCall c :=
  List.foldl_append

theorem messagesIn_append (obs obs' : List Obs) :
    messagesIn (obs ++ obs') = messagesIn obs ++ messagesIn obs' :=
  List.filterMap_append

/-- A call whose mark is found sends nothing. -/
theorem sendCall_of_some (h : (l.cache.get (byKey.key c) c.asked).isSome = true) :
    (l.sendCall c).cache = l.cache ∧ messagesIn (l.sendCall c).trace = messagesIn l.trace := by
  obtain ⟨entry, hget⟩ := Option.isSome_iff_exists.1 h
  have hfound : l.get (.mark c.chatId c.message) (c.replies.clock 0) = some entry := hget
  unfold sendCall sendMessage
  rw [hfound]
  exact ⟨rfl, (messagesIn_append _ _).trans (List.append_nil _)⟩

/-- A call whose mark is not found sets it, and sends the message. -/
theorem sendCall_of_none (h : (l.cache.get (byKey.key c) c.asked).isSome = false) :
    (l.sendCall c).cache = l.cache.set (byKey.key c) c.mark c.marked byKey.window ∧
      messagesIn (l.sendCall c).trace = messagesIn l.trace ++ [(c.chatId, c.message)] := by
  have hget : l.cache.get (byKey.key c) c.asked = none := by simpa using h
  have hfound : l.get (.mark c.chatId c.message) (c.replies.clock 0) = none := hget
  unfold sendCall sendMessage
  rw [hfound]
  refine ⟨rfl, ?_⟩
  rw [log_trace, set_trace, log_trace, messagesIn_append, messagesIn_append]
  exact congrArg (· ++ [(c.chatId, c.message)]) (List.append_nil _)

/-- The cache has the marks of what the throttle by the string serves, which is what is sent. -/
theorem sendAll_spec (h : byKey.InOrder calls) :
    byKey.Tracks Call.mark (byKey.served calls) (sendAll calls).cache ∧
      messagesIn (sendAll calls).trace =
        (byKey.served calls).map fun c => (c.chatId, c.message) := by
  induction calls using List.reverseRecOn with
  | nil => exact ⟨byKey.tracks_empty _, rfl⟩
  | append_singleton calls c ih =>
    obtain ⟨htracks, hsent⟩ := ih h.left
    have hfound := htracks.isSome_get_iff h.left.sorted_served c
    rw [sendAll_concat]
    by_cases hadmits : byKey.Admits calls c
    · have hnone : ((sendAll calls).cache.get (byKey.key c) c.asked).isSome = false :=
        Bool.eq_false_iff.2 fun hsome => hadmits (hfound.1 hsome)
      obtain ⟨hcache, hmessages⟩ := sendCall_of_none hnone
      rw [hcache, hmessages, Limiter.served_of_admits hadmits, hsent, List.map_append]
      exact ⟨htracks.set c, rfl⟩
    · obtain ⟨hcache, hmessages⟩ := sendCall_of_some (hfound.2 (not_not.1 hadmits))
      rw [hcache, hmessages, Limiter.served_of_not_admits hadmits]
      exact ⟨htracks, hsent⟩

/-- A call sends its message just when the throttle by the string admits it. -/
theorem sends_iff (h : byKey.InOrder (pre ++ [c])) : Sends pre c ↔ byKey.Admits pre c := by
  unfold Sends
  rw [(sendAll_spec h).2, (sendAll_spec h.left).2]
  by_cases hadmits : byKey.Admits pre c
  · rw [Limiter.served_of_admits hadmits, List.map_append]
    exact iff_of_true rfl hadmits
  · rw [Limiter.served_of_not_admits hadmits]
    refine iff_of_false (fun heq => ?_) hadmits
    have hlen := congrArg List.length heq
    simp at hlen

/-- The throttle of the auto-answer is exact just when, by the rule it is meant to follow, no
message is sent within 30 seconds of one for another chat or with another text whose mark is the
same. -/
theorem exact_iff (h : byChat.InOrder calls) : Exact calls ↔ byChat.CollisionFree joined calls := by
  rw [← Limiter.agrees_iff h]
  have hkey : byKey.InOrder calls := ⟨h.apart, h.forward⟩
  have hsends : ∀ pre c post, calls = pre ++ c :: post → (Sends pre c ↔ byKey.Admits pre c) := by
    rintro pre c post rfl
    have hsplit : byKey.InOrder ((pre ++ [c]) ++ post) := by simpa using hkey
    exact sends_iff hsplit.left
  refine forall_congr' fun pre => forall_congr' fun c => forall_congr' fun post =>
    forall_congr' fun hsplit => ?_
  rw [hsends pre c post hsplit]
  refine iff_congr Iff.rfl (not_congr ?_)
  constructor
  · rintro ⟨pre', d, post', hpre, hd, hsame, hle⟩
    have hadmits := (hsends pre' d (post' ++ c :: post) (by rw [hsplit, hpre]; simp)).1 hd
    exact ⟨d, Limiter.mem_served_iff.2 ⟨pre', post', hpre, hadmits⟩, hsame, hle⟩
  · rintro ⟨d, hd, hsame, hle⟩
    obtain ⟨pre', post', hpre, hadmits⟩ := Limiter.mem_served_iff.1 hd
    have hsend := (hsends pre' d (post' ++ c :: post) (by rw [hsplit, hpre]; simp)).2 hadmits
    exact ⟨pre', d, post', hpre, hsend, hsame, hle⟩

end sendAll

/-- The same text to two chats, and once more to the first. -/
def threeCalls : List Call :=
  [⟨1, "Hello", 0, 0⟩, ⟨2, "Hello", second, second⟩, ⟨1, "Hello", 2 * second, 2 * second⟩]

theorem exact_threeCalls : Exact threeCalls := by
  have horder : byChat.InOrder threeCalls := ⟨by decide, by decide⟩
  have hinj : ∀ d ∈ threeCalls, ∀ c ∈ threeCalls, joined (byChat.key d) = joined (byChat.key c) →
      byChat.key d = byChat.key c := by
    decide
  refine (exact_iff horder).2 fun pre c post hsplit d hd hblocks => ?_
  have hmem : d ∈ pre := (Limiter.served_sublist byChat pre).subset hd
  exact hinj d (by rw [hsplit]; simp [hmem]) c (by rw [hsplit]; simp) hblocks.1

/-- The text `23` to chat 1 keeps the text `3` from chat 12. -/
def collidingCalls : List Call :=
  [⟨1, "23", 0, 0⟩, ⟨12, "3", second, second⟩]

theorem not_exact_collidingCalls : ¬Exact collidingCalls := by
  intro h
  have hkept : ¬Sends [⟨1, "23", 0, 0⟩] ⟨12, "3", second, second⟩ := by
    unfold Sends
    decide
  refine hkept ((h _ _ [] rfl).2 ?_)
  rintro ⟨pre, d, post, hsplit, -, hsame, -⟩
  have hd : d ∈ [(⟨1, "23", 0, 0⟩ : Call)] := by rw [hsplit]; simp
  rw [List.mem_singleton.1 hd] at hsame
  exact absurd hsame (by decide)

end Listener

end TelegramProvider
