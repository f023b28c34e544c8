import TelegramProvider.Agent
import TelegramProvider.Bot
import TelegramProvider.Listener

/-!
# Cards for a callback

When a call of the account is not answered, the client of the account asks the bot for a card, with
the phone number, the id and the username of the user in its query. The bot puts the first of them
into the data of the button, and calls it back when the button is pressed.

`callsBack_iff` : the button calls the user back just when the phone number is known, and is not
marked as called. The bot in PHP has the username where it is not known
(`callbackOf_callbackData`), and `sameDestination_iff` says for which users the two bots call the
same.
-/

set_option autoImplicit false

namespace TelegramProvider

/-! ## From the call to the callback -/

namespace Listener

/-- The query for the card of a user. -/
def cardQuery (u : User) : String :=
  "callback:" ++ u.phoneNumber ++ ":" ++ toString u.id ++ ":" ++ u.username

/-- A call that was not answered asks for the card of its user, and for nothing else. -/
theorem handle_asks {settings : Settings} {r : Replies} {l : Listener} {chatId duration : ℤ}
    {u : User} (hshort : duration < 2) (huser : r.getUser = some u) :
    (l.handle settings (.newMessage true chatId (.call duration)) r).trace =
      l.trace ++ [.asked settings.botId chatId (cardQuery u)] := by
  unfold handle outgoingCallOver
  dsimp only
  rw [if_pos hshort, huser]
  dsimp only
  split <;> rfl

end Listener

namespace Bot

variable {settings : Settings} {r : Replies} {b : Bot} {query phone username : String}

/-- The query is answered with one button, and pressing it starts a callback to `phone`. -/
def Orders (settings : Settings) (r : Replies) (b : Bot) (query phone : String) : Prop :=
  ∃ article button, onQuery settings query = some article ∧ article.rows = [[button]] ∧
    ∃ action, (b.onCallback settings r button.data).trace =
      b.trace ++ [.called phone action (r.clock 1)]

/-- The destination says who the user is : the phone number if it is known, the id or the username
otherwise. -/
structure Identifies (u : Listener.User) (dst : String) : Prop where
  nonempty : dst ≠ ""
  known : u.phoneNumber ≠ "" → dst = u.phoneNumber
  hidden : u.phoneNumber = "" → dst = toString u.id ∨ dst = u.username

/-- The card of the user is sent for a call that was not answered, and its button calls the user
back. -/
def CallsBack (client : Listener.Settings) (settings : Settings) (lr : Listener.Replies)
    (l : Listener) (chatId duration : ℤ) (r : Replies) (b : Bot) (u : Listener.User) : Prop :=
  ∃ query dst, (l.handle client (.newMessage true chatId (.call duration)) lr).trace =
      l.trace ++ [.asked client.botId chatId query] ∧
    Orders settings r b query dst ∧ Identifies u dst

theorem not_colon_of_isDigit {c : Char} (h : c.isDigit = true) : c ≠ ':' := by
  rintro rfl
  simp at h

theorem not_colon_toString (n : ℤ) : ':' ∉ (toString n).toList := by
  obtain ⟨c, cs, hcs, hc, hdigits⟩ := Decimal.exists_cons_toString n
  rw [hcs]
  intro hmem
  rcases List.mem_cons.1 hmem with rfl | hmem
  · rcases hc with hc | hc
    · exact absurd hc (by decide)
    · exact not_colon_of_isDigit hc rfl
  · exact not_colon_of_isDigit (hdigits _ hmem) rfl

/-- The query for a card has four parts. -/
theorem splitBy_cardQuery {u : Listener.User} (hphone : ':' ∉ u.phoneNumber.toList)
    (husername : ':' ∉ u.username.toList) :
    splitBy ':' (Listener.cardQuery u) =
      ["callback", u.phoneNumber, toString u.id, u.username] := by
  have hid := not_colon_toString u.id
  unfold Listener.cardQuery
  generalize toString u.id = id at hid ⊢
  exact splitBy_eq (by simp [List.intercalate]) (by simp [hphone, husername, hid]) (by simp)

/-- The button for a callback starts it where the number is not marked. -/
theorem onCallback_dial (settings : Settings) (hphone : ':' ∉ phone.toList)
    (hfresh : b.isMarked phone (r.clock 0) = false) :
    ∃ action, (b.onCallback settings r ("dial:" ++ phone)).trace =
      b.trace ++ [.called phone action (r.clock 1)] := by
  unfold onCallback
  rw [requestOf_dial hphone]
  dsimp only
  unfold dial
  rw [hfresh, if_neg Bool.false_ne_true]
  exact ⟨_, rfl⟩

/-- Where it is marked, the press is taken for a flood. -/
theorem onCallback_dial_of_marked (settings : Settings) (hphone : ':' ∉ phone.toList)
    (hmarked : b.isMarked phone (r.clock 0) = true) :
    (b.onCallback settings r ("dial:" ++ phone)).trace =
      b.trace ++ [.flood phone (r.clock 0)] := by
  unfold onCallback
  rw [requestOf_dial hphone]
  dsimp only
  unfold dial
  rw [hmarked, if_pos rfl]
  rfl

/-- The button of a card calls the phone number, whether it is known or not, if it is not marked. -/
theorem orders_cardQuery_iff {u : Listener.User} {dst : String}
    (hphone : ':' ∉ u.phoneNumber.toList) (husername : ':' ∉ u.username.toList) :
    Orders settings r b (Listener.cardQuery u) dst ↔
      dst = u.phoneNumber ∧ b.isMarked u.phoneNumber (r.clock 0) = false := by
  have hcard := onQuery_callback settings (splitBy_cardQuery hphone husername)
  constructor
  · rintro ⟨article, button, harticle, hrows, action, htrace⟩
    rw [hcard] at harticle
    obtain rfl := Option.some.inj harticle
    obtain rfl : (⟨settings.callbackButtonText, "dial:" ++ u.phoneNumber⟩ : Button) = button := by
      simpa [menuCallback] using hrows
    cases hmarked : b.isMarked u.phoneNumber (r.clock 0) with
    | true =>
      rw [onCallback_dial_of_marked settings hphone hmarked, List.append_cancel_left_eq] at htrace
      simp at htrace
    | false =>
      obtain ⟨action', hpressed⟩ := onCallback_dial settings hphone hmarked
      rw [hpressed, List.append_cancel_left_eq, List.cons.injEq] at htrace
      exact ⟨(Obs.called.inj htrace.1).1.symm, rfl⟩
  · rintro ⟨rfl, hfresh⟩
    obtain ⟨action, hpressed⟩ := onCallback_dial settings hphone hfresh
    exact ⟨_, _, hcard, rfl, action, hpressed⟩

/-- The button of the card calls the user back just when the phone number of the user is known, and
is not marked as called. -/
theorem callsBack_iff {client : Listener.Settings} {lr : Listener.Replies} {l : Listener}
    {chatId duration : ℤ} {u : Listener.User} (hshort : duration < 2) (huser : lr.getUser = some u)
    (hphone : ':' ∉ u.phoneNumber.toList) (husername : ':' ∉ u.username.toList) :
    CallsBack client settings lr l chatId duration r b u ↔
      u.phoneNumber ≠ "" ∧ b.isMarked u.phoneNumber (r.clock 0) = false := by
  constructor
  · rintro ⟨query, dst, hasked, horders, hident⟩
    rw [Listener.handle_asks hshort huser, List.append_cancel_left_eq, List.cons.injEq] at hasked
    obtain rfl := (Listener.Obs.asked.inj hasked.1).2.2
    obtain ⟨rfl, hfresh⟩ := (orders_cardQuery_iff hphone husername).1 horders
    exact ⟨hident.nonempty, hfresh⟩
  · rintro ⟨hknown, hfresh⟩
    refine ⟨Listener.cardQuery u, u.phoneNumber, Listener.handle_asks hshort huser, ?_, ?_⟩
    · exact (orders_cardQuery_iff hphone husername).2 ⟨rfl, hfresh⟩
    · exact ⟨hknown, fun _ => rfl, fun hhidden => absurd hhidden hknown⟩

end Bot

/-! ## The bot in PHP -/

namespace BotEventHandler

/-- `getCallbackKeyboardMessage` : the data of its button. The username of a card is never null, so
the id is not used. -/
def callbackData (card : Agent.Card) : String :=
  let phone := if phpEmpty card.phone then card.username else card.phone
  "callback:" ++ phone ++ ":" ++ card.login

/-- `onAny`, on a button for a callback : what `startCallback` is called with. -/
def callbackOf (bytes : String) : Option (String × String) :=
  if strpos bytes "callback" then
    some (((splitBy ':' bytes)[1]?).getD "", ((splitBy ':' bytes)[2]?).getD "")
  else none

/-- The button calls the phone number of the card, or the username if there is none. -/
theorem callbackOf_callbackData {card : Agent.Card} (hphone : ':' ∉ card.phone.toList)
    (husername : ':' ∉ card.username.toList) (hlogin : ':' ∉ card.login.toList) :
    callbackOf (callbackData card) =
      some (if phpEmpty card.phone then card.username else card.phone, card.login) := by
  unfold callbackOf callbackData
  dsimp only
  generalize hdst : (if phpEmpty card.phone then card.username else card.phone) = dst
  have hcolon : ':' ∉ dst.toList := by
    rw [← hdst]
    split_ifs
    · exact husername
    · exact hphone
  have hword : strpos ("callback:" ++ dst ++ ":" ++ card.login) "callback" = true := by
    refine strpos_iff.2 ⟨[], (':' :: dst.toList) ++ ":".toList ++ card.login.toList, ?_⟩
    simp
  have hsplit : splitBy ':' ("callback:" ++ dst ++ ":" ++ card.login) =
      ["callback", dst, card.login] :=
    Bot.splitBy_eq (by simp [List.intercalate]) (by simp [hcolon, hlogin]) (by simp)
  rw [if_pos hword, hsplit]
  rfl

/-- The card PHP has for a user. -/
def cardOf (login : String) (u : Listener.User) : Agent.Card :=
  ⟨login, "callback", u.phoneNumber, u.username, u.id⟩

/-- Both bots call the same just when the phone number is one for PHP, or there is no username
either. -/
theorem sameDestination_iff {settings : Bot.Settings} {r : Bot.Replies} {b : Bot} {login : String}
    {u : Listener.User} (hphone : ':' ∉ u.phoneNumber.toList) (husername : ':' ∉ u.username.toList)
    (hlogin : ':' ∉ login.toList) (hfresh : b.isMarked u.phoneNumber (r.clock 0) = false) :
    (∃ dst, Bot.Orders settings r b (Listener.cardQuery u) dst ∧
        callbackOf (callbackData (cardOf login u)) = some (dst, login)) ↔
      (phpEmpty u.phoneNumber = true → u.username = u.phoneNumber) := by
  have hphp : callbackOf (callbackData (cardOf login u)) =
      some (if phpEmpty u.phoneNumber then u.username else u.phoneNumber, login) :=
    callbackOf_callbackData hphone husername hlogin
  rw [hphp]
  constructor
  · rintro ⟨dst, horders, heq⟩ hempty
    obtain ⟨rfl, -⟩ := (Bot.orders_cardQuery_iff hphone husername).1 horders
    rw [if_pos hempty] at heq
    exact (Prod.mk.inj (Option.some.inj heq)).1
  · intro h
    refine ⟨u.phoneNumber, (Bot.orders_cardQuery_iff hphone husername).2 ⟨rfl, hfresh⟩, ?_⟩
    split_ifs with hempty
    · rw [h hempty]
    · rfl

end BotEventHandler

/-! ## Two users -/

namespace Bot

/-- The user the client asks about. -/
def userReplies (u : Listener.User) : Listener.Replies where
  getUser := some u
  inlineResults := some [.article "1"]
  inlineMessage := some 77
  channel _ := ""
  clock _ := 0

/-- AMI is connected. -/
def connectedAt (time : ℤ) : Replies where
  senderId := 5
  channel _ := ""
  connected := true
  clock _ := time

theorem callsBack_known :
    CallsBack ⟨9, "busy"⟩ queueSettings (userReplies ⟨5, false, "79000000000", "bob"⟩) {} 5 0
      (connectedAt 0) {} ⟨5, false, "79000000000", "bob"⟩ :=
  (callsBack_iff (by decide) rfl (by decide) (by decide)).2 ⟨by decide, rfl⟩

/-- A user who hides the phone number is not called back. -/
theorem not_callsBack_hidden :
    ¬CallsBack ⟨9, "busy"⟩ queueSettings (userReplies ⟨5, false, "", "bob"⟩) {} 5 0
      (connectedAt 0) {} ⟨5, false, "", "bob"⟩ := by
  rintro ⟨query, dst, hasked, ⟨article, button, harticle, hrows, action, htrace⟩, hident⟩
  have hquery : query = "callback::5:bob" := by
    rw [Listener.handle_asks (by decide) rfl, List.append_cancel_left_eq, List.cons.injEq] at hasked
    exact (Listener.Obs.asked.inj hasked.1).2.2.symm
  subst hquery
  have hcard : onQuery queueSettings "callback::5:bob" = some
      ⟨"Ordering a callback", "Nobody answered", [[⟨"request a call back", "dial:"⟩]]⟩ := by
    decide
  rw [hcard] at harticle
  obtain rfl := Option.some.inj harticle
  obtain rfl : (⟨"request a call back", "dial:"⟩ : Button) = button := by simpa using hrows
  have hcalled : (onCallback queueSettings (connectedAt 0) "dial:" {}).trace =
      [.called "" (some (originate queueSettings "" "2200100" "QUEUE-1")) 0] := by
    decide
  rw [hcalled] at htrace
  have hempty : "" = dst := (Obs.called.inj (List.cons.inj htrace).1).1
  exact hident.nonempty hempty.symm

end Bot

end TelegramProvider
