import TelegramProvider.Keyed
import TelegramProvider.Outcome
import TelegramProvider.Runs

/-!
# The gateway

`Gateway` keeps the bridges of all calls and routes every event to one of them : Telegram
updates by Telegram call id, SIP events by SIP call id, internal errors by context id,
messages by user id. `search_call` opens a new bridge for an id that no bridge holds; a
bridge whose machine reached `X` is removed after the event.

`Slot` is the place an event finds, an existing bridge or a new one, and
`Gateway.processEvent_of_slot` is all that `process_event` does there. `Gateway.Step` is
one step of the process : an event is handled, PJSIP's thread registers an incoming call,
or an internal error is taken from the queue.
-/

set_option autoImplicit false

namespace TelegramProvider

/-- `Gateway`, with the counter of `Context::next_ctx_id`. -/
structure Gateway where
  bridges : List Bridge
  ctxCounter : ℕ
  deps : Deps

/-! ## Routing -/

/-- The predicates `process_event` searches with. The sender of a message is taken for a
user when it is not one, and the id read from it is the chat's. -/
def routes : Event → Bridge → Bool
  | .updateCall u, b => b.ctx.tgCallId = u.id
  | .incomingCall e, b => b.ctx.sipCallId = e.id
  | .callStateUpdate e, b => b.ctx.sipCallId = e.id
  | .callMediaStateUpdate e, b => b.ctx.sipCallId = e.id
  | .internalError e, b => b.ctx.id = e.ctxId
  | .updateNewMessage m, b =>
    match m.senderId with
    | .user _ => false
    | .chat chatId => b.ctx.userId = chatId

namespace Gateway

/-- The bridge `search_call` makes. -/
def newBridge (g : Gateway) : Bridge :=
  { ctx := { id := g.ctxCounter + 1 } }

/-- `search_call` : the position of the bridge, and the gateway with it. -/
def searchCall (predicate : Bridge → Bool) (g : Gateway) : ℕ × Gateway :=
  match g.bridges.findIdx? predicate with
  | some i => (i, g)
  | none => (g.bridges.length,
      { g with bridges := g.bridges ++ [g.newBridge], ctxCounter := g.ctxCounter + 1 })

/-- The bridge at a position handles an event. -/
def advance (settings : Settings) (r : Replies) (e : Event) (i : ℕ) (g : Gateway) :
    Except Crash Gateway :=
  match g.bridges[i]? with
  | none => .ok g
  | some b => (b.process settings r e g.deps).map fun (b', deps') =>
      { g with bridges := g.bridges.set i b', deps := deps' }

/-- Remove the bridge at a position if its machine is in `X`. -/
def reap (i : ℕ) (g : Gateway) : Gateway :=
  match g.bridges[i]? with
  | none => g
  | some b => if b.state = .x then { g with bridges := g.bridges.eraseIdx i } else g

/-- `process_event` of an update of a call, and of a SIP event. -/
def processCall (settings : Settings) (r : Replies) (e : Event) (g : Gateway) :
    Except Crash Gateway :=
  let (i, g₁) := g.searchCall (routes e)
  (g₁.advance settings r e i).map (reap i)

/-- `process_event` of a message. The bridge is not removed here. -/
def processMessage (settings : Settings) (r : Replies) (e : Event) (g : Gateway) :
    Except Crash Gateway :=
  match g.bridges.filter (routes e), g.bridges.findIdx? (routes e) with
  | [_], some i => g.advance settings r e i
  | _, _ => .ok g

/-- `process_event` of an internal error. It is ignored when its bridge is gone. -/
def processError (settings : Settings) (r : Replies) (e : Event) (g : Gateway) :
    Except Crash Gateway :=
  match g.bridges.findIdx? (routes e) with
  | none => .ok g
  | some i => (g.advance settings r e i).map (reap i)

/-- `process_event`. -/
def processEvent (settings : Settings) (r : Replies) (e : Event) (g : Gateway) :
    Except Crash Gateway :=
  match e with
  | .updateCall _ => g.processCall settings r e
  | .updateNewMessage _ => g.processMessage settings r e
  | .incomingCall _ => g.processCall settings r e
  | .callStateUpdate _ => g.processCall settings r e
  | .callMediaStateUpdate _ => g.processCall settings r e
  | .internalError _ => g.processError settings r e

end Gateway

/-! ## The slot of an event -/

/-- A new bridge is opened for this event if none holds its id. -/
def Event.Opens : Event → Prop
  | .updateNewMessage _ => False
  | .internalError _ => False
  | _ => True

/-- What is left of a bridge after an event. -/
def keep (e : Event) (b : Bridge) : List Bridge :=
  match e with
  | .updateNewMessage _ => [b]
  | _ => if b.state = .x then [] else [b]

/-- Where an event is handled : the bridges before the one that gets it, that bridge, the
bridges after it, and the context counter then. -/
inductive Slot (g : Gateway) (e : Event) : List Bridge → Bridge → List Bridge → ℕ → Prop
  | existing {pre post : List Bridge} {b : Bridge} (split : g.bridges = pre ++ b :: post)
      (routed : routes e b = true) (first : ∀ x ∈ pre, routes e x = false)
      (only : ∀ m, e = .updateNewMessage m → ∀ x ∈ post, routes e x = false) :
      Slot g e pre b post g.ctxCounter
  | new (opens : e.Opens) (none : ∀ x ∈ g.bridges, routes e x = false) :
      Slot g e g.bridges g.newBridge [] (g.ctxCounter + 1)

namespace Gateway

variable {settings : Settings} {r : Replies} {e : Event} {g g' : Gateway}
  {pre post : List Bridge} {b : Bridge} {c : ℕ}

theorem advance_split (h : g.bridges = pre ++ b :: post) :
    g.advance settings r e pre.length = (b.process settings r e g.deps).map fun p =>
      ⟨pre ++ p.1 :: post, g.ctxCounter, p.2⟩ := by
  unfold advance
  rw [h, Keyed.getElem?_split]
  simp

theorem reap_split (h : g.bridges = pre ++ b :: post) : g.reap pre.length =
    ⟨pre ++ (if b.state = .x then [] else [b]) ++ post, g.ctxCounter, g.deps⟩ := by
  unfold reap
  rw [h, Keyed.getElem?_split]
  dsimp only
  split_ifs
  · rw [Keyed.eraseIdx_split]
    simp
  · obtain ⟨bridges, ctxCounter, deps⟩ := g
    obtain rfl : bridges = _ := h
    simp

theorem handle_split (h : g.bridges = pre ++ b :: post) :
    (g.advance settings r e pre.length).map (reap pre.length) =
      (b.process settings r e g.deps).map fun p =>
        ⟨pre ++ (if p.1.state = .x then [] else [p.1]) ++ post, g.ctxCounter, p.2⟩ := by
  rw [advance_split h]
  cases b.process settings r e g.deps with
  | error x => rfl
  | ok p =>
    simp only [Except.map]
    have hset : (⟨pre ++ p.1 :: post, g.ctxCounter, p.2⟩ : Gateway).bridges = pre ++ p.1 :: post := rfl
    rw [reap_split hset]

/-- All that `process_event` does, in the slot of the event. -/
theorem processEvent_of_slot (h : Slot g e pre b post c) :
    g.processEvent settings r e = (b.process settings r e g.deps).map fun p =>
      ⟨pre ++ keep e p.1 ++ post, c, p.2⟩ := by
  cases h with
  | existing split routed first only =>
    have hfind : g.bridges.findIdx? (routes e) = some pre.length := by
      rw [split]
      exact Keyed.findIdx?_split routed first
    cases e with
    | updateNewMessage m =>
      have hfilter : g.bridges.filter (routes (.updateNewMessage m)) = [b] := by
        have hpre : pre.filter (routes (.updateNewMessage m)) = [] := by
          simpa [List.filter_eq_nil_iff] using first
        have hpost : post.filter (routes (.updateNewMessage m)) = [] := by
          simpa [List.filter_eq_nil_iff] using only m rfl
        rw [split, List.filter_append, List.filter_cons_of_pos routed, hpre, hpost]
        rfl
      simp only [processEvent, processMessage, hfilter, hfind, keep]
      simpa using advance_split split
    | internalError i =>
      simp only [processEvent, processError, hfind]
      exact handle_split split
    | updateCall _ | incomingCall _ | callStateUpdate _ | callMediaStateUpdate _ =>
      simp only [processEvent, processCall, searchCall, hfind]
      exact handle_split split
  | new opens none =>
    have hfind : g.bridges.findIdx? (routes e) = .none := by
      simpa [List.findIdx?_eq_none_iff] using none
    cases e with
    | updateNewMessage m => exact opens.elim
    | internalError i => exact opens.elim
    | updateCall _ | incomingCall _ | callStateUpdate _ | callMediaStateUpdate _ =>
      simp only [processEvent, processCall, searchCall, hfind]
      exact handle_split (g := ⟨g.bridges ++ [g.newBridge], g.ctxCounter + 1, g.deps⟩) rfl

/-- An event without a slot is ignored. -/
theorem exists_slot_or_ignored (e : Event) (g : Gateway) :
    (∃ pre b post c, Slot g e pre b post c) ∨
      (¬e.Opens ∧ ∀ settings r, g.processEvent settings r e = .ok g) := by
  cases hfind : g.bridges.findIdx? (routes e) with
  | none =>
    have hnone : ∀ x ∈ g.bridges, routes e x = false := by
      simpa [List.findIdx?_eq_none_iff] using hfind
    cases e with
    | updateNewMessage m =>
      refine Or.inr ⟨id, fun settings r => ?_⟩
      simp only [processEvent, processMessage, hfind]
      split <;> simp_all
    | internalError i =>
      refine Or.inr ⟨id, fun settings r => ?_⟩
      simp only [processEvent, processError, hfind]
    | updateCall _ | incomingCall _ | callStateUpdate _ | callMediaStateUpdate _ =>
      exact Or.inl ⟨_, _, _, _, .new trivial hnone⟩
  | some i =>
    obtain ⟨pre, b, post, hsplit, -, hb, hpre⟩ := Keyed.exists_split_of_findIdx? hfind
    by_cases honly : ∀ m, e = .updateNewMessage m → ∀ x ∈ post, routes e x = false
    · exact Or.inl ⟨pre, b, post, _, .existing hsplit hb hpre honly⟩
    · push Not at honly
      obtain ⟨m, rfl, x, hx, hroute⟩ := honly
      refine Or.inr ⟨id, fun settings r => ?_⟩
      have hxmem : x ∈ post.filter (routes (.updateNewMessage m)) :=
        List.mem_filter.2 ⟨hx, by simpa using hroute⟩
      have hlen : ∀ y, g.bridges.filter (routes (.updateNewMessage m)) ≠ [y] := by
        intro y hy
        have hpre' : pre.filter (routes (.updateNewMessage m)) = [] := by
          simpa [List.filter_eq_nil_iff] using hpre
        rw [hsplit, List.filter_append, List.filter_cons_of_pos hb, hpre', List.nil_append] at hy
        rw [(List.cons.inj hy).2] at hxmem
        simp at hxmem
      simp only [processEvent, processMessage]
      split
      · exact absurd ‹_› (hlen _)
      · rfl

/-- What an event that is handled leads to. -/
theorem processEvent_cases (h : g.processEvent settings r e = .ok g') :
    (g' = g ∧ ¬e.Opens) ∨ ∃ pre b post c b' d', Slot g e pre b post c ∧
      b.process settings r e g.deps = .ok (b', d') ∧ g' = ⟨pre ++ keep e b' ++ post, c, d'⟩ := by
  obtain ⟨pre, b, post, c, hslot⟩ | ⟨hopens, hignored⟩ := exists_slot_or_ignored e g
  · rw [processEvent_of_slot hslot] at h
    cases hp : b.process settings r e g.deps with
    | error x => simp [hp, Except.map] at h
    | ok p =>
      rw [hp] at h
      exact Or.inr ⟨pre, b, post, c, p.1, p.2, hslot, hp, (Except.ok.inj h).symm⟩
  · rw [hignored] at h
    exact Or.inl ⟨(Except.ok.inj h).symm, hopens⟩

end Gateway

/-! ## What a slot says -/

section slot

variable {settings : Settings} {r : Replies} {e : Event} {g : Gateway} {pre post : List Bridge}
  {b b' : Bridge} {c : ℕ} {ctx ctx' : Context} {d d' : Deps} {s s' : State}

/-- The other bridges are bridges of the gateway. -/
theorem Slot.mem_of_mem (h : Slot g e pre b post c) {x : Bridge} (hx : x ∈ pre ++ post) :
    x ∈ g.bridges := by
  cases h with
  | existing split =>
    rw [split]
    rcases List.mem_append.1 hx with hx | hx
    · exact List.mem_append_left _ hx
    · exact List.mem_append_right _ (List.mem_cons_of_mem _ hx)
  | new => simpa using hx

/-- A bridge of the gateway is the one in the slot or one of the others. -/
theorem Slot.mem_cases (h : Slot g e pre b post c) {x : Bridge} (hx : x ∈ g.bridges) :
    x = b ∨ x ∈ pre ++ post := by
  cases h with
  | existing split =>
    rw [split] at hx
    simp only [List.mem_append, List.mem_cons] at hx ⊢
    tauto
  | new => exact Or.inr (by simpa using hx)

/-- A key that a new bridge does not have is still unique with the bridge in its slot. -/
theorem Slot.uniqueKeys {κ : Type*} {key : Bridge → κ} {null : κ} (h : Slot g e pre b post c)
    (hnew : key g.newBridge = null) (hg : Keyed.UniqueKeys key null g.bridges) :
    Keyed.UniqueKeys key null (pre ++ b :: post) := by
  cases h with
  | existing split => exact split ▸ hg
  | new => exact hg.append (Or.inl hnew)

/-- A message leaves the state of a bridge as it is. -/
theorem Outcome.state_of_message {m : Td.UpdateNewMessage}
    (h : Outcome settings r ctx ctx' d d' s (.updateNewMessage m) s') : s' = s := by
  cases h with
  | idle | dtmf => rfl
  | dropped drops => cases drops
  | ended _ ends => cases ends

/-- A bridge that is kept is not in `X`, if it was not before. -/
theorem keep_cases (h : Outcome settings r ctx b'.ctx d d' s e b'.state) (hs : s ≠ .x) :
    (keep e b' = [] ∧ b'.state = .x) ∨ (keep e b' = [b'] ∧ b'.state ≠ .x) := by
  by_cases hx : b'.state = .x
  · cases e with
    | updateNewMessage m => exact absurd (h.state_of_message.symm.trans hx) hs
    | updateCall _ | incomingCall _ | callStateUpdate _ | callMediaStateUpdate _
    | internalError _ => exact Or.inl ⟨by simp [keep, hx], hx⟩
  · cases e <;> exact Or.inr ⟨by simp [keep, hx], hx⟩

/-- What holds of the other bridges, and of the one in the slot if it is not in `X`, holds of all
that are left. -/
theorem forall_mem_keep {P : Bridge → Prop}
    (h : Outcome settings r ctx b'.ctx d d' s e b'.state) (hs : s ≠ .x)
    (hrest : ∀ x ∈ pre ++ post, P x) (hslot : b'.state ≠ .x → P b') :
    ∀ x ∈ pre ++ keep e b' ++ post, P x := by
  intro x hxmem
  obtain ⟨hkeep, -⟩ | ⟨hkeep, hx⟩ := keep_cases h hs
  · exact hrest x (by simpa [hkeep] using hxmem)
  · obtain hxmem | rfl : x ∈ pre ++ post ∨ x = b' := by
      simp only [hkeep, List.mem_append, List.mem_singleton] at hxmem ⊢
      tauto
    · exact hrest x hxmem
    · exact hslot hx

/-- A key is still unique if the bridge in the slot ends, keeps it, loses it, or gets one that no
other bridge has. -/
theorem uniqueKeys_keep {κ : Type*} {key : Bridge → κ} {null : κ}
    (h : Outcome settings r ctx b'.ctx d d' s e b'.state) (hs : s ≠ .x)
    (hunique : Keyed.UniqueKeys key null (pre ++ b :: post))
    (hkey : b'.state ≠ .x →
      key b' = key b ∨ key b' = null ∨ ∀ x ∈ pre ++ post, key x ≠ key b') :
    Keyed.UniqueKeys key null (pre ++ keep e b' ++ post) := by
  obtain ⟨hkeep, -⟩ | ⟨hkeep, hx⟩ := keep_cases h hs
  · simpa [hkeep] using hunique.remove
  · simpa [hkeep] using hunique.replace (hkey hx)

end slot

/-! ## Steps -/

/-- What can happen to the process of the gateway. -/
inductive Label
  | event (e : Event) (r : Replies)
  | incoming (id : ℤ) (localUser : String)
  | pop

namespace Gateway

/-- PJSIP's thread registers an incoming call. -/
def registerIncoming (id : ℤ) (localUser : String) (g : Gateway) : Gateway :=
  { g with deps := { g.deps with sip := (g.deps.sip.onIncomingCall id localUser).1 } }

/-- `internal_events_.pop()`. -/
def popError (g : Gateway) : Gateway :=
  { g with deps := { g.deps with internalEvents := g.deps.internalEvents.tail } }

/-- One step. There is none for an event that ends the process. -/
inductive Step (settings : Settings) : Gateway → Label → Gateway → Prop
  | event {g g' : Gateway} {e : Event} {r : Replies}
      (h : g.processEvent settings r e = .ok g') : Step settings g (.event e r) g'
  | incoming {g : Gateway} {id : ℤ} {localUser : String} :
      Step settings g (.incoming id localUser) (g.registerIncoming id localUser)
  | pop {g : Gateway} : Step settings g .pop g.popError

/-- The step, computed. -/
def next (settings : Settings) (g : Gateway) : Label → Option Gateway
  | .event e r => (g.processEvent settings r e).toOption
  | .incoming id localUser => some (g.registerIncoming id localUser)
  | .pop => some g.popError

theorem step_of_next {settings : Settings} {g g' : Gateway} {l : Label}
    (h : g.next settings l = some g') : Step settings g l g' := by
  cases l with
  | event e r =>
    refine .event ?_
    cases hp : g.processEvent settings r e with
    | error x => simp [next, hp, Except.toOption] at h
    | ok g'' => simpa [next, hp, Except.toOption] using h
  | incoming id localUser =>
    obtain rfl := Option.some.inj h
    exact .incoming
  | pop =>
    obtain rfl := Option.some.inj h
    exact .pop

/-- A gateway that was just constructed, with a contacts cache. -/
def initial (pid : ℕ) (cache : Cache) (now : ℤ) : Gateway where
  bridges := []
  ctxCounter := 0
  deps := {
    pid
    sip := .empty
    internalEvents := []
    cache
    blockUntil := now
    trace := [] }

end Gateway

/-- No contacts. -/
def Cache.empty : Cache where
  usernameCache _ := none
  phoneCache _ := none

/-- Replies that grant everything, with the ids the calls get. -/
def Replies.granting (sipId tgId : ℤ) : Replies where
  getUser := .ok ⟨"", "", "", ""⟩
  acceptCall := .ok ()
  createCall := .ok tgId
  importContacts := .ok ⟨[1], rfl⟩
  searchPublicChat := .ok ⟨1, true⟩
  discardCall := .ok ()
  pj := {
    makeCall := .ok sipId
    answer := .ok ()
    hangup := .ok ()
    audioMedia := .ok true
    startTransmit := .ok ()
    dialDtmf := .ok () }
  now := 0
  later := 0

end TelegramProvider
