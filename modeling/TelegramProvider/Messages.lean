import TelegramProvider.Legs

/-!
# Messages

A text of DTMF digits is meant for the call of the user who wrote it : the digits are dialed
into it if it is the only call of that user and waits for digits (`Gateway.dtmfOwed`).

`process_event` has the test for the sender the wrong way round. A message of a user is
dropped, and the id of a chat is compared with the ids of users. So a message is handled as
meant just when it has no digits for a call found by the id of its sender, whatever the
sender is (`Gateway.routesDtmf_iff`).
-/

set_option autoImplicit false

namespace TelegramProvider

/-- `wait_dtmf`, of either nested machine. -/
def State.WaitsDtmf (s : State) : Prop :=
  s = .fromTg .waitDtmf ∨ s = .fromSip .waitDtmf

instance : DecidablePred State.WaitsDtmf := fun s =>
  inferInstanceAs (Decidable (s = .fromTg .waitDtmf ∨ s = .fromSip .waitDtmf))

instance : DecidablePred Td.UpdateNewMessage.IsDtmf := fun m =>
  inferInstanceAs (Decidable (Guards.isTextContent m = true ∧ Guards.isDtmfString m = true))

/-- The field of either class of senders. -/
def Td.MessageSender.id : MessageSender → ℤ
  | .user userId => userId
  | .chat chatId => chatId

/-- The calls of `Client::DialDtmf` in a record : the SIP call id and the digits. -/
def dtmfCalls (trace : List Obs) : List (ℤ × String) :=
  trace.filterMap fun
    | .sip _ (.dialDtmf id digits) _ => some (id, digits)
    | _ => none

theorem dtmfCalls_append (trace trace' : List Obs) :
    dtmfCalls (trace ++ trace') = dtmfCalls trace ++ dtmfCalls trace' :=
  List.filterMap_append

theorem dtmfCalls_logged (c : CtxId) (logs : List String) :
    dtmfCalls (logs.map (.logged c)) = [] := by
  simp [dtmfCalls, List.filterMap_map]

namespace Gateway

/-- The bridges with a user id. -/
def bridgesOf (userId : ℤ) (g : Gateway) : List Bridge :=
  g.bridges.filter fun b => b.ctx.userId = userId

/-- The message has digits for the bridge, the only one with the user id. -/
def DtmfFor (m : Td.UpdateNewMessage) (userId : ℤ) (b : Bridge) (g : Gateway) : Prop :=
  g.bridgesOf userId = [b] ∧ b.state.WaitsDtmf ∧ m.IsDtmf

/-- What a message is to dial : the text of a user, into the only call of that user. -/
def dtmfOwed (m : Td.UpdateNewMessage) (g : Gateway) : List (ℤ × String) :=
  match m.senderId, m.content with
  | .user userId, .text text =>
    match g.bridgesOf userId with
    | [b] => if b.state.WaitsDtmf ∧ m.IsDtmf then [(b.ctx.sipCallId, text)] else []
    | _ => []
  | _, _ => []

/-- The message is handled as meant : what is to be dialed is dialed, and the bridges stay as
they are. -/
def RoutesDtmf (settings : Settings) (r : Replies) (m : Td.UpdateNewMessage) (g : Gateway) :
    Prop :=
  ∃ g', g.processEvent settings r (.updateNewMessage m) = .ok g' ∧ g'.bridges = g.bridges ∧
    dtmfCalls g'.deps.trace = dtmfCalls g.deps.trace ++ g.dtmfOwed m

variable {settings : Settings} {r : Replies} {m : Td.UpdateNewMessage} {g : Gateway}
  {b : Bridge} {userId chatId : ℤ}

/-! ## What is owed -/

theorem dtmfOwed_of_dtmfFor (hsender : m.senderId = .user userId) (h : g.DtmfFor m userId b) :
    ∃ text, m.content = .text text ∧ g.dtmfOwed m = [(b.ctx.sipCallId, text)] := by
  obtain ⟨hb, hs, hdtmf⟩ := h
  obtain ⟨text, htext⟩ := hdtmf.exists_text
  refine ⟨text, htext, ?_⟩
  simp [dtmfOwed, hsender, htext, hb, hs, hdtmf]

/-- Nothing is owed to a call the message has no digits for. -/
theorem dtmfOwed_of_not_dtmfFor (h : ∀ b, ¬g.DtmfFor m m.senderId.id b) : g.dtmfOwed m = [] := by
  unfold dtmfOwed
  split
  · rename_i userId text hsender htext
    split
    · rename_i b hb
      rw [if_neg]
      intro hdtmf
      refine h b ⟨?_, hdtmf⟩
      simpa [hsender, Td.MessageSender.id] using hb
    · rfl
  · rfl

/-- Nothing is owed to a chat. -/
theorem dtmfOwed_of_chat (hsender : m.senderId = .chat chatId) : g.dtmfOwed m = [] := by
  unfold dtmfOwed
  rw [hsender]

/-! ## What is done -/

/-- A message of a user is dropped. -/
theorem processEvent_of_user (hsender : m.senderId = .user userId) :
    g.processEvent settings r (.updateNewMessage m) = .ok g := by
  have hfilter : g.bridges.filter (routes (.updateNewMessage m)) = [] := by
    rw [List.filter_eq_nil_iff]
    intro b _
    simp [routes, hsender]
  simp only [processEvent, processMessage, hfilter]

theorem routes_of_chat (hsender : m.senderId = .chat chatId) :
    routes (.updateNewMessage m) = fun b => decide (b.ctx.userId = chatId) := by
  ext b
  simp [routes, hsender]

/-- The only bridge with the id of a chat as its user's gets the messages of that chat. -/
theorem slot_of_chat (hsender : m.senderId = .chat chatId) (h : g.bridgesOf chatId = [b]) :
    ∃ pre post, Slot g (.updateNewMessage m) pre b post g.ctxCounter := by
  unfold bridgesOf at h
  rw [← routes_of_chat hsender] at h
  obtain ⟨pre, post, split, first, routed, only⟩ := List.filter_eq_cons_iff.1 h
  refine ⟨pre, post, .existing split routed (by simpa using first) ?_⟩
  rintro m' hm' x hx
  obtain rfl := Event.updateNewMessage.inj hm'
  simpa using List.filter_eq_nil_iff.1 only x hx

/-- A bridge does nothing with a message without digits, or while it does not wait for them. -/
theorem process_of_not_dtmf (d : Deps) (h : ¬(b.state.WaitsDtmf ∧ m.IsDtmf)) :
    b.process settings r (.updateNewMessage m) d =
      .ok (b, { d with trace := d.trace ++ [.event b.ctx.id (.updateNewMessage m)] }) := by
  have hnone : transition settings b.state (.updateNewMessage m) = none := by
    rw [Option.eq_none_iff_forall_not_mem]
    rintro ⟨s', as⟩ hmem
    have hmoves := transition_eq_some_iff.1 hmem
    generalize hs : b.state = s at hmoves
    cases hmoves with
    | dtmfTg hdtmf => exact h ⟨Or.inl hs, hdtmf⟩
    | dtmfSip hdtmf => exact h ⟨Or.inr hs, hdtmf⟩
    | drop hdrop => cases hdrop
    | endTg hends => cases hends
    | endSip hends => cases hends
  rw [Bridge.process_of_none hnone]
  rfl

/-- A bridge that handles digits calls `DialDtmf` once. -/
theorem dtmfCalls_of_process {b' : Bridge} {d d' : Deps} (hs : b.state.WaitsDtmf)
    (hdtmf : m.IsDtmf) (h : b.process settings r (.updateNewMessage m) d = .ok (b', d')) :
    ∃ call, dtmfCalls d'.trace = dtmfCalls d.trace ++ [call] := by
  have hout := outcome_of_process h
  generalize hstate' : b'.state = s' at hout
  generalize b.state = s at hout hs
  cases hout with
  | idle hnone =>
    obtain rfl | rfl := hs
    · have hmoves : Moves settings _ _ _ _ := .dtmfTg hdtmf
      simp [transition_eq_some_iff.2 hmoves] at hnone
    · have hmoves : Moves settings _ _ _ _ := .dtmfSip hdtmf
      simp [transition_eq_some_iff.2 hmoves] at hnone
  | @dtmf _ _ text _ _ _ _ _ _ changed =>
    refine ⟨(b.ctx.sipCallId, text), ?_⟩
    rw [changed.trace, dtmfCalls_append, dtmfCalls_append, dtmfCalls_logged]
    rfl
  | dropped hdrop => cases hdrop
  | ended _ hends => cases hends

/-- A message of a chat with no digits for a call changes nothing and dials nothing. -/
theorem routesDtmf_of_chat (hsender : m.senderId = .chat chatId)
    (h : ∀ b, ¬g.DtmfFor m chatId b) : g.RoutesDtmf settings r m := by
  have howed := dtmfOwed_of_chat (g := g) hsender
  obtain ⟨pre, b, post, c, hslot⟩ | ⟨-, hignored⟩ := exists_slot_or_ignored (.updateNewMessage m) g
  · cases hslot with
    | new hopens => exact hopens.elim
    | existing split routed first only =>
      have hb : g.bridgesOf chatId = [b] := by
        unfold bridgesOf
        rw [← routes_of_chat hsender]
        exact List.filter_eq_cons_iff.2 ⟨pre, post, split, by simpa using first, routed,
          List.filter_eq_nil_iff.2 (by simpa using only m rfl)⟩
      have hproc : b.process settings r (.updateNewMessage m) g.deps = _ :=
        process_of_not_dtmf g.deps fun hdtmf => h b ⟨hb, hdtmf⟩
      have hok : g.processEvent settings r (.updateNewMessage m) = _ :=
        processEvent_of_slot (.existing split routed first only)
      rw [hproc] at hok
      refine ⟨_, hok, ?_, ?_⟩
      · simp [keep, split]
      · simp [howed, dtmfCalls]
  · exact ⟨g, hignored settings r, rfl, by simp [howed]⟩

/-- A message is handled as meant just when it has no digits for a call that is found by the id
of its sender. -/
theorem routesDtmf_iff : g.RoutesDtmf settings r m ↔ ∀ b, ¬g.DtmfFor m m.senderId.id b := by
  cases hsender : m.senderId with
  | user userId =>
    constructor
    · rintro ⟨g', hok, -, hcalls⟩ b hfor
      obtain rfl := Except.ok.inj ((processEvent_of_user hsender).symm.trans hok)
      obtain ⟨text, -, howed⟩ := dtmfOwed_of_dtmfFor hsender hfor
      simp [howed] at hcalls
    · intro h
      have howed := dtmfOwed_of_not_dtmfFor (g := g) (m := m) (by rwa [hsender])
      exact ⟨g, processEvent_of_user hsender, rfl, by simp [howed]⟩
  | chat chatId =>
    constructor
    · rintro ⟨g', hok, -, hcalls⟩ b ⟨hb, hs, hdtmf⟩
      obtain ⟨pre, post, hslot⟩ := slot_of_chat hsender hb
      rw [processEvent_of_slot hslot] at hok
      cases hproc : b.process settings r (.updateNewMessage m) g.deps with
      | error x => simp [hproc, Except.map] at hok
      | ok p =>
        obtain ⟨call, hcall⟩ := dtmfCalls_of_process hs hdtmf hproc
        rw [hproc] at hok
        obtain rfl := Except.ok.inj hok
        simp [hcall, dtmfOwed_of_chat hsender] at hcalls
    · exact routesDtmf_of_chat hsender

/-- The text "1" of the user of the call of `bridgedRun`. -/
def pressedOne : Td.UpdateNewMessage :=
  ⟨.user 42, .text "1"⟩

/-- The digit of a user with one call, which waits for it, is not dialed. -/
theorem misrouted_of_user :
    ∃ g, execFresh bridgedRun = some g ∧ g.dtmfOwed pressedOne = [(0, "1")] ∧
      ¬g.RoutesDtmf { callbackUri := "sip:pbx" } (.granting 1 9) pressedOne := by
  refine ⟨_, rfl, by decide, ?_⟩
  rintro ⟨g', hok, -, hcalls⟩
  obtain rfl := Except.ok.inj ((processEvent_of_user rfl).symm.trans hok)
  exact absurd hcalls (by decide)

end Gateway

end TelegramProvider
