import TelegramProvider.Contexts
import TelegramProvider.Legs

/-!
# Teardown

A bridge ends on three kinds of events, whatever sub-state it is in : its Telegram call is
discarded, its SIP call is disconnected, or an internal error was queued for it. The event
removes this bridge and no other, and nothing else removes it. `CleanUp` then releases the
legs the event did not end : a Telegram call is discarded, a SIP call is hung up and the
controller is stopped, each once, and nothing of this happens earlier or later under the
id of the bridge (`spends_released`).
-/

set_option autoImplicit false

namespace TelegramProvider

open Runs

/-! ## Releases in the record -/

/-- What a bridge holds. -/
inductive Leg
  | tg
  | sip
  | voice
  deriving DecidableEq, Repr

/-- The leg an entry releases. -/
def Obs.released : Obs → Option Leg
  | .query _ (.discardCall ..) => some .tg
  | .sip _ (.hangup ..) _ => some .sip
  | .stopped _ => some .voice
  | _ => none

/-- The event ends the call of the bridge. -/
def Terminates : Event → Bridge → Prop
  | .updateCall u, b => (u.state = .discarded ∨ u.state = .error) ∧ b.ctx.tgCallId = u.id
  | .callStateUpdate e, b => e.state = .disconnected ∧ b.ctx.sipCallId = e.id
  | .internalError i, b => b.ctx.id = i.ctxId
  | _, _ => False

/-- The discarding that is due when the event removes the bridge : none if the event ended
the Telegram call, or if there is none. -/
def dueTg (b : Bridge) : Event → List Obs
  | .updateCall _ => []
  | _ => if b.ctx.tgCallId = 0 then [] else
      [.query b.ctx.id (.discardCall b.ctx.tgCallId false 0 false b.ctx.tgCallId)]

/-- The hangup that is due, with the parameters of the internal error if that is the event. -/
def dueSip (sip : Sip.Client) (b : Bridge) (e : Event) : List Obs :=
  let hangup (prm : Sip.CallOpParam) : List Obs :=
    if b.ctx.sipCallId = Sip.invalidId then [] else
      [.sip b.ctx.id (.hangup b.ctx.sipCallId prm) (sip.calls b.ctx.sipCallId)]
  match e with
  | .callStateUpdate _ => []
  | .internalError i => hangup i.prm
  | _ => hangup b.ctx.hangupPrm

/-- The controller is stopped if there is one. -/
def dueVoice (b : Bridge) : List Obs :=
  if b.ctx.controller.isSome then [.stopped b.ctx.id] else []

/-- What is recorded when an event removes a bridge : every leg it holds is released once,
but for the leg the event itself ended. -/
structure Released (sip : Sip.Client) (b : Bridge) (e : Event) (obs : List Obs) : Prop where
  own : ∀ o ∈ obs, o.ctx = b.ctx.id
  tg : entriesOf Obs.released b.ctx.id .tg obs = dueTg b e
  sip : entriesOf Obs.released b.ctx.id .sip obs = dueSip sip b e
  voice : entriesOf Obs.released b.ctx.id .voice obs = dueVoice b

section releases

variable {settings : Settings} {r : Replies} {e : Event} {ctx ctx' : Context} {d d' : Deps}
  {s s' : State} {c : CtxId} {leg : Leg} {obs obs' : List Obs}

theorem releasesOf_stopObs : entriesOf Obs.released ctx.id leg (stopObs ctx) =
    if leg = .voice ∧ ctx.controller.isSome then [.stopped ctx.id] else [] := by
  unfold stopObs entriesOf
  by_cases hc : ctx.controller.isSome <;> cases leg <;> simp [hc, Obs.ctx, Obs.released]

theorem releasesOf_discardObs : entriesOf Obs.released ctx.id leg (discardObs r ctx) =
    if leg = .tg ∧ ctx.tgCallId ≠ 0 then
      [.query ctx.id (.discardCall ctx.tgCallId false 0 false ctx.tgCallId)] else [] := by
  unfold discardObs entriesOf
  by_cases htg : ctx.tgCallId = 0
  · simp [htg]
  · cases r.discardCall <;> cases leg <;> simp [htg, Obs.ctx, Obs.released]

theorem releasesOf_hangupObs {sip : Sip.Client} :
    entriesOf Obs.released ctx.id leg (hangupObs r sip ctx) =
    if leg = .sip ∧ ctx.sipCallId ≠ Sip.invalidId then
      [.sip ctx.id (.hangup ctx.sipCallId ctx.hangupPrm) (sip.calls ctx.sipCallId)] else [] := by
  unfold hangupObs entriesOf
  by_cases hsip : ctx.sipCallId = Sip.invalidId
  · simp [hsip]
  · rcases sip.hangup_cases r.pj ctx.sipCallId with ⟨sip', h⟩ | ⟨reason, h⟩ <;> rw [h] <;>
      cases leg <;> simp [hsip, Obs.ctx, Obs.released]

/-- What `CleanUp` releases. -/
theorem releasesOf_releases {sip : Sip.Client} :
    entriesOf Obs.released ctx.id leg (releases r sip ctx) =
    match leg with
    | .tg => if ctx.tgCallId = 0 then [] else
        [.query ctx.id (.discardCall ctx.tgCallId false 0 false ctx.tgCallId)]
    | .sip => if ctx.sipCallId = Sip.invalidId then [] else
        [.sip ctx.id (.hangup ctx.sipCallId ctx.hangupPrm) (sip.calls ctx.sipCallId)]
    | .voice => if ctx.controller.isSome then [.stopped ctx.id] else [] := by
  rw [releases, entriesOf_append, entriesOf_append, releasesOf_stopObs, releasesOf_discardObs,
    releasesOf_hangupObs]
  cases leg <;> simp

theorem released_of_lookup {q : Td.Query} (h : Actions.IsLookup q) :
    (Obs.query c q).released = none := by
  cases q <;> first | exact h.elim | rfl

theorem released_of_create {creates : List Td.Query} {q : Td.Query}
    (h : creates = [] ∨ ∃ userId, creates = [.createCall userId (callProtocol settings) false])
    (hq : q ∈ creates) : (Obs.query c q).released = none := by
  rcases h with rfl | ⟨userId, rfl⟩
  · simp at hq
  · rw [List.mem_singleton.1 hq]
    rfl

/-- A bridge that does not end releases nothing. -/
theorem Outcome.releasesOf_kept (h : Outcome settings r ctx ctx' d d' s e s') (hx : s' ≠ .x)
    (leg : Leg) :
    entriesOf Obs.released ctx.id leg d'.trace = entriesOf Obs.released ctx.id leg d.trace := by
  have happend : ∀ obs, d'.trace = d.trace ++ obs → (∀ o ∈ obs, o.released = none) →
      entriesOf Obs.released ctx.id leg d'.trace = entriesOf Obs.released ctx.id leg d.trace := by
    intro obs htrace hobs
    have hnil : entriesOf Obs.released ctx.id leg obs = [] :=
      entriesOf_eq_nil fun o ho => by simp [hobs o ho]
    rw [htrace, entriesOf_append, hnil, List.append_nil]
  cases h with
  | declined | dropped | ended => exact absurd rfl hx
  | dialedTg _ _ asked _ _ changed =>
    refine happend _ changed.trace fun o ho => ?_
    simp only [List.mem_append, List.mem_map, List.mem_cons, List.not_mem_nil, or_false] at ho
    rcases ho with ((rfl | rfl) | ⟨q, hq, rfl⟩) | rfl | rfl
    · rfl
    · rfl
    · exact released_of_lookup (asked q hq)
    · rfl
    · rfl
  | dialTgFailed _ asked asked' _ changed =>
    refine happend _ changed.trace fun o ho => ?_
    simp only [List.mem_append, List.mem_map, List.mem_cons, List.not_mem_nil, or_false] at ho
    rcases ho with (((rfl | rfl) | ⟨q, hq, rfl⟩) | ⟨q, hq, rfl⟩) | rfl
    · rfl
    · rfl
    · exact released_of_lookup (asked q hq)
    · exact released_of_create asked' hq
    · rfl
  | idle _ _ changed | dialed _ _ _ _ _ _ changed | dialRefused _ _ _ _ _ _ changed
  | accepted _ _ _ changed | rejected _ _ changed | answeredTg _ _ _ changed
  | joinedTg _ _ _ changed | answeredSip _ _ _ changed | joinedSip _ _ _ _ changed
  | dtmf _ _ _ _ _ changed =>
    refine happend _ changed.trace ?_
    simp only [failures, List.forall_mem_append, List.forall_mem_cons, List.forall_mem_map]
    simp [Obs.released]

/-- Entries that release nothing, followed by `CleanUp`. -/
theorem releasesOf_append_releases {sip : Sip.Client} (hc : ctx.id = c)
    (hobs : ∀ o ∈ obs, o.released = none) :
    entriesOf Obs.released c leg (obs ++ releases r sip ctx) =
      entriesOf Obs.released ctx.id leg (releases r sip ctx) := by
  have hnil : entriesOf Obs.released c leg obs = [] :=
    entriesOf_eq_nil fun o ho => by simp [hobs o ho]
  rw [entriesOf_append, hnil, List.nil_append, hc]

theorem length_releasesOf_releases {sip : Sip.Client} :
    (entriesOf Obs.released ctx.id leg (releases r sip ctx)).length ≤ 1 := by
  rw [releasesOf_releases]
  cases leg <;> dsimp only <;> split_ifs <;> simp

/-- The legs are released on the way to `X`. -/
theorem spends_released : Spends Obs.released fun _ s => s ≠ .x := by
  intro settings r ctx ctx' d d' s s' e h leg
  by_cases hx : s' = .x
  · have happend : ∀ obs ctx₁, d'.trace = d.trace ++ (obs ++ releases r d.sip ctx₁) →
        ctx₁.id = ctx.id → (∀ o ∈ obs, o.released = none) →
        (entriesOf Obs.released ctx.id leg d'.trace).length ≤
          (entriesOf Obs.released ctx.id leg d.trace).length + 1 := by
      intro obs ctx₁ htrace hid hobs
      have hlen : (entriesOf Obs.released ctx₁.id leg (releases r d.sip ctx₁)).length ≤ 1 :=
        length_releasesOf_releases
      rw [htrace, entriesOf_append, releasesOf_append_releases hid hobs, List.length_append]
      omega
    have hnot : ¬s' ≠ .x := not_not_intro hx
    cases h with
    | declined _ _ _ changed =>
      exact Or.inr ⟨by simp, hnot, happend _ _ changed.trace rfl (by simp [Obs.released])⟩
    | dropped _ changed =>
      exact Or.inr ⟨by simp, hnot, happend _ _ changed.trace rfl (by simp [Obs.released])⟩
    | ended hs _ changed =>
      refine Or.inr ⟨?_, hnot, happend _ _ changed.trace endCtx_id (by simp [Obs.released])⟩
      rintro rfl
      simp [State.top] at hs
    | idle _ _ changed =>
      have hnone : entriesOf Obs.released ctx.id leg [.event ctx.id e] = [] :=
        entriesOf_eq_nil (by simp [Obs.released])
      exact Or.inl ⟨by rw [changed.trace, entriesOf_append, hnone, List.append_nil], id⟩
    | dtmf hs => simp [hx] at hs
    | _ => simp at hx
  · refine Or.inl ⟨h.releasesOf_kept hx leg, fun _ hs => ?_⟩
    cases h with
    | idle => exact hx hs
    | dtmf hs' => simp [hs] at hs'
    | ended => exact hx rfl
    | _ => simp at hs

/-- A bridge that ends is removed by an event of its call, which releases its legs. -/
theorem Outcome.released_of_nested (h : Outcome settings r ctx ctx' d d' s e .x) (hs : s.Nested) :
    (∃ a, Ends e a) ∧ ∃ obs, d'.trace = d.trace ++ obs ∧ Released d.sip ⟨s, ctx⟩ e obs := by
  generalize hx : State.x = s' at h
  cases h with
  | declined | dropped => simp [State.Nested, State.top] at hs
  | idle => simp [← hx, State.Nested, State.top] at hs
  | dtmf hs' => simp [← hx] at hs'
  | ended _ ends changed =>
    refine ⟨⟨_, ends⟩, _, changed.trace, ctx_of_mem_append_releases endCtx_id (by simp [Obs.ctx]),
      ?_, ?_, ?_⟩ <;>
      rw [releasesOf_append_releases endCtx_id (by simp [Obs.released]), releasesOf_releases] <;>
      cases ends <;> rfl
  | _ => simp at hx

end releases

/-! ## The step that removes a bridge -/

namespace Gateway

variable {settings : Settings} {r : Replies} {e : Event} {g g' : Gateway} {l : Label}
  {pre post : List Bridge} {b b' : Bridge} {c : ℕ} {d' : Deps}

theorem exists_ends_of_terminates (h : Terminates e b) : ∃ a, Ends e a := by
  cases e with
  | updateCall u => exact ⟨_, .tg h.1⟩
  | callStateUpdate e => exact ⟨_, .sip h.1⟩
  | internalError i => exact ⟨_, .internal⟩
  | updateNewMessage _ | incomingCall _ | callMediaStateUpdate _ => exact h.elim

theorem terminates_of_ends {a : Action} (h : Ends e a) (hroute : routes e b = true) :
    Terminates e b := by
  cases h with
  | tg hu => exact ⟨hu, of_decide_eq_true hroute⟩
  | sip he => exact ⟨he, of_decide_eq_true hroute⟩
  | internal => exact (of_decide_eq_true hroute : b.ctx.id = _)

/-- A terminating event finds the bridge it is for : no other holds the id. -/
theorem slot_of_terminates (hg : g.Legs) (hn : g.Numbered) (hvalid : e.ValidIds)
    (hsplit : g.bridges = pre ++ b :: post) (h : Terminates e b) :
    Slot g e pre b post g.ctxCounter := by
  have hslot : routes e b = true → (∀ x ∈ pre ++ post, routes e x = false) →
      (∀ m, e ≠ .updateNewMessage m) → Slot g e pre b post g.ctxCounter :=
    fun hroute hother hmessage => .existing hsplit hroute (fun x hx => hother x (by simp [hx]))
      fun m he => absurd he (hmessage m)
  cases e with
  | updateCall u =>
    refine hslot (decide_eq_true h.2) (fun x hx => decide_eq_false ?_) (by simp)
    exact h.2 ▸ (hsplit ▸ hg.tgUnique).ne_of_mem (h.2 ▸ hvalid) x hx
  | callStateUpdate e =>
    refine hslot (decide_eq_true h.2) (fun x hx => decide_eq_false ?_) (by simp)
    exact h.2 ▸ (hsplit ▸ hg.sipUnique).ne_of_mem (h.2 ▸ hvalid) x hx
  | internalError i => exact hn.slot_of_internalError hsplit h
  | updateNewMessage _ | incomingCall _ | callMediaStateUpdate _ => exact h.elim

/-- The bridge in the slot of an event that ends it is removed in the same step, whatever TDLib
and PJSIP answer, and every leg is released once. -/
theorem removes_of_slot {a : Action} (hs : b.state.Nested) (hends : Ends e a)
    (hslot : Slot g e pre b post c) :
    ∃ d', g.processEvent settings r e = .ok ⟨pre ++ post, c, d'⟩ ∧
      ∃ obs, d'.trace = g.deps.trace ++ obs ∧ Released g.deps.sip b e obs := by
  obtain ⟨b', d', hproc, hx⟩ : ∃ b' d', b.process settings r e g.deps = .ok (b', d') ∧ b'.state = .x :=
    exists_process_of_ends hs hends
  have hkeep : keep e b' = [] := by
    cases hends <;> simp [keep, hx]
  refine ⟨d', ?_, ?_⟩
  · rw [processEvent_of_slot hslot, hproc]
    simp [Except.map, hkeep]
  · have hout := outcome_of_process hproc
    rw [hx] at hout
    exact (hout.released_of_nested hs).2

/-- A terminating event removes the bridge it is for. -/
theorem removes_of_terminates (hg : g.Legs) (hn : g.Numbered) (hvalid : e.ValidIds)
    (hsplit : g.bridges = pre ++ b :: post) (h : Terminates e b) :
    ∃ d', g.processEvent settings r e = .ok ⟨pre ++ post, g.ctxCounter, d'⟩ ∧
      ∃ obs, d'.trace = g.deps.trace ++ obs ∧ Released g.deps.sip b e obs := by
  obtain ⟨a, hends⟩ := exists_ends_of_terminates h
  have hnested : b.state.Nested := (hg.bridges b (by simp [hsplit])).nested
  exact removes_of_slot hnested hends (slot_of_terminates hg hn hvalid hsplit h)

/-- Nothing else removes a bridge. -/
theorem terminates_of_removed (hg : g.Legs) (hn : g.Numbered) (hstep : Step settings g l g')
    (hb : b ∈ g.bridges) (hgone : ∀ x ∈ g'.bridges, x.ctx.id ≠ b.ctx.id) :
    ∃ e r, l = .event e r ∧ Terminates e b := by
  cases hstep with
  | incoming | pop => exact absurd rfl (hgone b hb)
  | @event g' e r h =>
    refine ⟨e, r, rfl, ?_⟩
    obtain ⟨rfl, -⟩ | ⟨pre, b₀, post, c, b', d', hslot, hproc, rfl⟩ := processEvent_cases h
    · exact absurd rfl (hgone b hb)
    have hrest : b ∉ pre ++ post := fun hmem => by
      refine hgone b ?_ rfl
      rcases List.mem_append.1 hmem with hmem | hmem <;> simp [hmem]
    cases hslot with
    | new => exact absurd (by simpa using hb) hrest
    | existing split routed =>
      obtain rfl : b = b₀ := by
        rw [split] at hb
        simp only [List.mem_append, List.mem_cons, not_or] at hb hrest
        tauto
      have hout := outcome_of_process hproc
      obtain ⟨-, hx⟩ | ⟨hkeep, hx⟩ := keep_cases hout (hg.wired.ne_x hb)
      · rw [hx] at hout
        obtain ⟨⟨a, hends⟩, -⟩ := hout.released_of_nested (hg.bridges b hb).nested
        exact terminates_of_ends hends routed
      · exact absurd (hout.ctx_id hx) (hgone b' (by simp [hkeep]))

/-! ## Every run -/

/-- In every run in which ids are handed out as TDLib and PJSUA promise, a terminating event
removes its bridge and no other in that step and releases its legs, nothing else removes a
bridge, nothing was released for a bridge that is there, and no leg is released twice. -/
theorem teardown_of_run {settings : Settings} {pid : ℕ} {cache : Cache} {now : ℤ}
    {ls : List Label} {g : Gateway}
    (hrun : Run (Restrict (Step settings) FreshIds) (initial pid cache now) ls g) :
    (∀ pre b post e r, g.bridges = pre ++ b :: post → e.ValidIds → Terminates e b →
      ∃ d', g.processEvent settings r e = .ok ⟨pre ++ post, g.ctxCounter, d'⟩ ∧
        ∃ obs, d'.trace = g.deps.trace ++ obs ∧ Released g.deps.sip b e obs) ∧
    (∀ l g', Step settings g l g' → ∀ b ∈ g.bridges,
      (∀ x ∈ g'.bridges, x.ctx.id ≠ b.ctx.id) → ∃ e r, l = .event e r ∧ Terminates e b) ∧
    (∀ b ∈ g.bridges, ∀ leg, entriesOf Obs.released b.ctx.id leg g.deps.trace = []) ∧
    ∀ c leg, (entriesOf Obs.released c leg g.deps.trace).length ≤ 1 := by
  have hinv : g.Legs ∧ g.Numbered ∧ g.Once Obs.released fun _ s => s ≠ .x := by
    refine hrun.invariant (fun g => g.Legs ∧ g.Numbered ∧ g.Once Obs.released fun _ s => s ≠ .x) ?_
      ⟨legs_of_starts rfl, numbered_initial .., once_initial ..⟩
    rintro s l s' ⟨hg, hn, ho⟩ ⟨hstep, hfresh⟩
    exact ⟨hg.step hfresh hstep, hn.step hstep, ho.step spends_released hn hstep⟩
  obtain ⟨hg, hn, ho⟩ := hinv
  refine ⟨fun pre b post e r hsplit hvalid hterm => ?_, fun l g' hstep b hb hgone => ?_,
    fun b hb leg => ho.ahead b hb leg (hg.wired.ne_x hb), ho.once⟩
  · exact removes_of_terminates hg hn hvalid hsplit hterm
  · exact terminates_of_removed hg hn hstep hb hgone

/-- A bridged call whose SIP side hangs up : its Telegram call is discarded, once. -/
theorem teardown_of_run_disconnected :
    (execFresh (bridgedRun ++
        [.event (.callStateUpdate ⟨0, .disconnected, 0⟩) (.granting 1 9)])).map (fun g =>
          (g.bridges, entriesOf Obs.released 1 .tg g.deps.trace)) =
      some ([], [.query 1 (.discardCall 7 false 0 false 7)]) ∧
    ∀ g, execFresh (bridgedRun ++
        [.event (.callStateUpdate ⟨0, .disconnected, 0⟩) (.granting 1 9)]) = some g →
      ∀ c leg, (entriesOf Obs.released c leg g.deps.trace).length ≤ 1 :=
  ⟨rfl, fun _ h => (teardown_of_run (run_of_execFresh h)).2.2.2⟩

end Gateway

end TelegramProvider
