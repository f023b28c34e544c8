import TelegramProvider.Crashes
import TelegramProvider.Gateway

/-!
# The legs of a bridge

Between two events every bridge is in a nested machine, and its sub-state says which of its
legs it has : the Telegram call, the SIP call and the voice controller (`Bridge.Legs`). No
two bridges hold the same Telegram call or the same SIP call.

This needs what TDLib and PJSUA promise about the ids they give out (`FreshIds`). The state
advances even when an action of its row fails, so what a sub-state promises comes from the
event that led there : a bridge gets a media event only if it has a SIP call to be found
by.
-/

set_option autoImplicit false

namespace TelegramProvider

open Runs

/-! ## The invariant -/

namespace State

/-- The sub-states of a bridge that has its Telegram call. -/
def HasTg : State → Prop
  | .fromTg _ => True
  | .fromSip .sipWaitMedia => True
  | .fromSip .waitDtmf => True
  | _ => False

/-- The sub-states of a bridge that has its SIP call. -/
def HasSip : State → Prop
  | .fromSip _ => True
  | .fromTg .waitTg => True
  | .fromTg .waitDtmf => True
  | _ => False

/-- The sub-states of a bridge that has its controller. -/
def HasController : State → Prop
  | .fromTg .waitDtmf => True
  | .fromSip .sipWaitMedia => True
  | .fromSip .waitDtmf => True
  | _ => False

/-- The state is one of a nested machine. -/
def Nested (s : State) : Prop :=
  s.top = .fromTg ∨ s.top = .fromSip

end State

/-- A bridge is in a nested machine, and has its controller. This needs nothing of the ids. -/
structure Bridge.Wired (b : Bridge) : Prop where
  nested : b.state.Nested
  controller : b.state.HasController → b.ctx.controller.isSome

/-- All bridges are. -/
def Gateway.Wired (g : Gateway) : Prop :=
  ∀ b ∈ g.bridges, b.Wired

/-- What the state of a bridge says about its legs. -/
structure Bridge.Legs (b : Bridge) : Prop extends Bridge.Wired b where
  tg : b.state.HasTg → b.ctx.tgCallId ≠ 0
  sip : b.state.HasSip → b.ctx.sipCallId ≠ Sip.invalidId

/-- The bridges have their legs, and no two share one. -/
structure Gateway.Legs (g : Gateway) : Prop where
  bridges : ∀ b ∈ g.bridges, b.Legs
  tgUnique : Keyed.UniqueKeys (·.ctx.tgCallId) 0 g.bridges
  sipUnique : Keyed.UniqueKeys (·.ctx.sipCallId) Sip.invalidId g.bridges

/-! ## What is assumed of the ids -/

/-- Call ids in events are not the ones that stand for no call. -/
def Event.ValidIds : Event → Prop
  | .updateCall u => u.id ≠ 0
  | .incomingCall e => e.id ≠ Sip.invalidId
  | .callStateUpdate e => e.id ≠ Sip.invalidId
  | .callMediaStateUpdate e => e.id ≠ Sip.invalidId
  | _ => True

/-- What was granted satisfies `p`. -/
def Granted {ε α : Type*} (p : α → Prop) : Except ε α → Prop
  | .ok a => p a
  | .error _ => True

theorem Granted.of_ok {ε α : Type*} {p : α → Prop} {x : Except ε α} {a : α} (h : Granted p x)
    (hx : x = .ok a) : p a :=
  (hx ▸ h : Granted p (.ok a))

/-- An incoming call has an id that no bridge holds. -/
def IncomingIsNew (g : Gateway) : Event → Prop
  | .incomingCall i => ∀ b ∈ g.bridges, b.ctx.sipCallId ≠ i.id
  | _ => True

/-- Ids are valid, and no id is handed out that a bridge still holds. -/
def FreshIds (g : Gateway) : Label → Prop
  | .event e r => e.ValidIds ∧
      Granted (fun id => id ≠ 0 ∧ ∀ b ∈ g.bridges, b.ctx.tgCallId ≠ id) r.createCall ∧
      Granted (fun id => id ≠ Sip.invalidId ∧ ∀ b ∈ g.bridges, b.ctx.sipCallId ≠ id)
        r.pj.makeCall ∧
      IncomingIsNew g e
  | _ => True

instance {ε α : Type*} (p : α → Prop) [DecidablePred p] : DecidablePred (Granted p : Except ε α → Prop)
  | .ok a => inferInstanceAs (Decidable (p a))
  | .error _ => inferInstanceAs (Decidable True)

instance : DecidablePred Event.ValidIds
  | .updateCall u => inferInstanceAs (Decidable (u.id ≠ 0))
  | .incomingCall e => inferInstanceAs (Decidable (e.id ≠ Sip.invalidId))
  | .callStateUpdate e => inferInstanceAs (Decidable (e.id ≠ Sip.invalidId))
  | .callMediaStateUpdate e => inferInstanceAs (Decidable (e.id ≠ Sip.invalidId))
  | .updateNewMessage _ => inferInstanceAs (Decidable True)
  | .internalError _ => inferInstanceAs (Decidable True)

instance (g : Gateway) : DecidablePred (IncomingIsNew g)
  | .incomingCall i => inferInstanceAs (Decidable (∀ b ∈ g.bridges, b.ctx.sipCallId ≠ i.id))
  | .updateCall _ => inferInstanceAs (Decidable True)
  | .callStateUpdate _ => inferInstanceAs (Decidable True)
  | .callMediaStateUpdate _ => inferInstanceAs (Decidable True)
  | .updateNewMessage _ => inferInstanceAs (Decidable True)
  | .internalError _ => inferInstanceAs (Decidable True)

instance (g : Gateway) : DecidablePred (FreshIds g)
  | .event e r => inferInstanceAs (Decidable (e.ValidIds ∧
      Granted (fun id => id ≠ 0 ∧ ∀ b ∈ g.bridges, b.ctx.tgCallId ≠ id) r.createCall ∧
      Granted (fun id => id ≠ Sip.invalidId ∧ ∀ b ∈ g.bridges, b.ctx.sipCallId ≠ id)
        r.pj.makeCall ∧ IncomingIsNew g e))
  | .incoming _ _ => inferInstanceAs (Decidable True)
  | .pop => inferInstanceAs (Decidable True)

/-! ## One event -/

section step

variable {settings : Settings} {r : Replies} {e : Event} {ctx ctx' : Context} {d d' : Deps}
  {s s' : State}

/-- Where the Telegram call of a bridge comes from. -/
theorem Outcome.tgCallId (h : Outcome settings r ctx ctx' d d' s e s') (hx : s' ≠ .x) :
    ctx'.tgCallId = ctx.tgCallId ∨ (s = .init ∧ ∃ u, e = .updateCall u ∧ ctx'.tgCallId = u.id) ∨
      r.createCall = .ok ctx'.tgCallId := by
  cases h with
  | dialed _ _ _ _ _ hctx => exact Or.inr (Or.inl ⟨rfl, _, rfl, by rw [hctx]⟩)
  | dialRefused _ _ _ _ _ hctx => exact Or.inr (Or.inl ⟨rfl, _, rfl, by rw [hctx]⟩)
  | dialedTg _ created _ _ hctx => exact Or.inr (Or.inr (by rw [created, hctx]))
  | declined | dropped | ended => exact absurd rfl hx
  | @accepted _ ext _ _ _ hctx => exact Or.inl (by rw [hctx]; cases ext <;> rfl)
  | idle _ hctx | rejected _ hctx | answeredTg _ _ hctx | joinedTg _ _ hctx
  | dialTgFailed _ _ _ hctx | answeredSip _ _ hctx | joinedSip _ _ _ hctx
  | dtmf _ _ _ _ hctx => exact Or.inl (by rw [hctx])

/-- The update of an incoming call that waits to be answered. -/
def Event.IsPending : Event → Prop
  | .updateCall u => u.isOutgoing = false ∧ u.state = .pending
  | _ => False

/-- Where its SIP call comes from, and what becomes of the call table. -/
theorem Outcome.sipCallId (h : Outcome settings r ctx ctx' d d' s e s') (hx : s' ≠ .x) :
    (ctx'.sipCallId = ctx.sipCallId ∧ ctx'.sipCall = ctx.sipCall ∧ d'.sip = d.sip) ∨
      (s = .init ∧ ∃ i, e = .incomingCall i ∧ ctx'.sipCallId = i.id ∧
        ctx'.sipCall = some i.call ∧ d'.sip = d.sip ∧
        .sipAssociated ctx.id i.id i.call ∈ d'.trace) ∨
      (s = .init ∧ r.pj.makeCall = .ok ctx'.sipCallId ∧ e.IsPending ∧
        ctx'.sipCall = some d.sip.created ∧
        d'.sip = d.sip.register ctx'.sipCallId ⟨d.sip.created, ""⟩ ∧
        .sipAssociated ctx.id ctx'.sipCallId d.sip.created ∈ d'.trace) := by
  cases h with
  | dialed hin hpending _ _ made hctx changed =>
    subst hctx
    exact Or.inr (Or.inr ⟨rfl, made, ⟨hin, hpending⟩, rfl, changed.sip,
      by rw [changed.trace]; simp⟩)
  | @accepted _ ext _ _ _ hctx changed =>
    refine Or.inr (Or.inl ⟨rfl, _, rfl, ?_, ?_, changed.sip, by rw [changed.trace]; simp⟩)
    · rw [hctx]
      cases ext <;> rfl
    · rw [hctx]
      cases ext <;> rfl
  | rejected _ hctx changed =>
    subst hctx
    exact Or.inr (Or.inl ⟨rfl, _, rfl, rfl, rfl, changed.sip, by rw [changed.trace]; simp⟩)
  | declined | dropped | ended => exact absurd rfl hx
  | idle _ hctx changed | dialRefused _ _ _ _ _ hctx changed | answeredTg _ _ hctx changed
  | joinedTg _ _ hctx changed | dialedTg _ _ _ _ hctx changed | dialTgFailed _ _ _ hctx changed
  | answeredSip _ _ hctx changed | joinedSip _ _ _ hctx changed | dtmf _ _ _ _ hctx changed =>
    subst hctx
    exact Or.inl ⟨rfl, rfl, changed.sip⟩

/-- A bridge with its controller has it after an event, unless it ends. -/
theorem Outcome.wired (h : Outcome settings r ctx ctx' d d' s e s') (hb : Bridge.Wired ⟨s, ctx⟩)
    (hx : s' ≠ .x) : Bridge.Wired ⟨s', ctx'⟩ := by
  cases h with
  | dialed | dialRefused | accepted | rejected => simpa [State.Nested, State.top] using hb.nested
  | declined | dropped | ended => exact absurd rfl hx
  | idle _ hctx | dtmf _ _ _ _ hctx =>
    rw [hctx]
    exact hb
  | answeredTg | dialedTg | dialTgFailed =>
    exact ⟨by simp [State.Nested, State.top], False.elim⟩
  | joinedTg _ _ hctx | answeredSip _ _ hctx =>
    exact ⟨by simp [State.Nested, State.top], fun _ => by simp [hctx]⟩
  | joinedSip _ hcontroller _ hctx =>
    exact ⟨by simp [State.Nested, State.top], fun _ => by simp [hctx, hcontroller]⟩

/-- A bridge that has its legs has them after an event it was found by, unless it ends. -/
theorem Outcome.legs (h : Outcome settings r ctx ctx' d d' s e s') (hb : Bridge.Legs ⟨s, ctx⟩)
    (hroute : routes e ⟨s, ctx⟩ = true) (hvalid : e.ValidIds) (hx : s' ≠ .x) :
    Bridge.Legs ⟨s', ctx'⟩ := by
  refine { h.wired hb.toWired hx with tg := fun htg => ?_, sip := fun hsip => ?_ }
  · cases h with
    | dialed | dialRefused | accepted | rejected => simpa [State.Nested, State.top] using hb.nested
    | declined | dropped | ended => exact absurd rfl hx
    | idle _ hctx | dtmf _ _ _ _ hctx =>
      rw [hctx]
      exact hb.tg htg
    | answeredTg _ _ hctx | joinedTg _ _ hctx | joinedSip _ _ _ hctx =>
      rw [hctx]
      exact hb.tg trivial
    | dialedTg | dialTgFailed => exact htg.elim
    | answeredSip _ _ hctx =>
      have hfound : ctx.tgCallId = _ := of_decide_eq_true hroute
      rw [hctx]
      exact hfound ▸ hvalid
  · cases h with
    | dialed | dialRefused | accepted | rejected => simpa [State.Nested, State.top] using hb.nested
    | declined | dropped | ended => exact absurd rfl hx
    | idle _ hctx | dtmf _ _ _ _ hctx =>
      rw [hctx]
      exact hb.sip hsip
    | answeredTg _ _ hctx =>
      have hfound : ctx.sipCallId = _ := of_decide_eq_true hroute
      rw [hctx]
      exact hfound ▸ hvalid
    | joinedTg _ _ hctx | dialedTg _ _ _ _ hctx | dialTgFailed _ _ _ hctx | answeredSip _ _ hctx
    | joinedSip _ _ _ hctx =>
      rw [hctx]
      exact hb.sip trivial

/-- A new bridge handles every event it was opened for. -/
theorem transition_init_ne_none (h : e.Opens) : transition settings .init e ≠ none := by
  cases e with
  | updateCall u =>
    simp [transition, State.top, fire_init_updateCall]
  | updateNewMessage m => exact h.elim
  | internalError i => exact h.elim
  | incomingCall c | callStateUpdate c | callMediaStateUpdate c =>
    simp [transition, State.top, stateMachine, Table.fire_cons, Guards.onUpdateCall,
      Guards.onIncomingCall, Guards.onCallState, Guards.onMediaState]

theorem Outcome.wired_of_new (h : Outcome settings r ctx ctx' d d' .init e s') (hopens : e.Opens)
    (hx : s' ≠ .x) : Bridge.Wired ⟨s', ctx'⟩ := by
  cases h with
  | idle hnone => exact absurd hnone (transition_init_ne_none hopens)
  | declined | dropped | ended => exact absurd rfl hx
  | dtmf hs => simp at hs
  | dialed | dialRefused | accepted | rejected =>
    exact ⟨by simp [State.Nested, State.top], False.elim⟩

/-- A new bridge has its legs after its first event, unless it is dropped. -/
theorem Outcome.legs_of_new (h : Outcome settings r ctx ctx' d d' .init e s') (hopens : e.Opens)
    (hvalid : e.ValidIds) (hx : s' ≠ .x) : Bridge.Legs ⟨s', ctx'⟩ := by
  refine { h.wired_of_new hopens hx with tg := fun htg => ?_, sip := fun hsip => ?_ }
  · cases h with
    | idle hnone => exact absurd hnone (transition_init_ne_none hopens)
    | declined | dropped | ended => exact absurd rfl hx
    | dtmf hs => simp at hs
    | accepted | rejected => exact htg.elim
    | dialed _ _ _ _ _ hctx | dialRefused _ _ _ _ _ hctx =>
      rw [hctx]
      exact hvalid
  · cases h with
    | idle hnone => exact absurd hnone (transition_init_ne_none hopens)
    | declined | dropped | ended => exact absurd rfl hx
    | dtmf hs => simp at hs
    | dialed | dialRefused => exact hsip.elim
    | @accepted _ ext _ _ _ hctx =>
      rw [hctx]
      cases ext <;> exact hvalid
    | rejected _ hctx =>
      rw [hctx]
      exact hvalid

end step

/-! ## Every run -/

namespace Gateway

variable {settings : Settings} {r : Replies} {e : Event} {g g' : Gateway} {l : Label}

/-- A bridge of the gateway is not new. -/
theorem Wired.ne_init (hg : g.Wired) {b : Bridge} (hb : b ∈ g.bridges) : b.state ≠ .init := by
  intro hinit
  simpa [State.Nested, hinit, State.top] using (hg b hb).nested

theorem Wired.ne_x (hg : g.Wired) {b : Bridge} (hb : b ∈ g.bridges) : b.state ≠ .x := by
  intro hx
  simpa [State.Nested, hx, State.top] using (hg b hb).nested

section slot

variable {pre post : List Bridge} {b b' : Bridge} {c : ℕ} {d' : Deps}

theorem Wired.slot_ne_x (hg : g.Wired) (hslot : Slot g e pre b post c) : b.state ≠ .x := by
  cases hslot with
  | existing split => exact hg.ne_x (by simp [split])
  | new => simp [newBridge]

/-- The bridge in the slot is wired after the event, unless it ends. -/
theorem Wired.slot (hg : g.Wired) (hslot : Slot g e pre b post c)
    (hout : Outcome settings r b.ctx b'.ctx g.deps d' b.state e b'.state) (hx : b'.state ≠ .x) :
    b'.Wired := by
  cases hslot with
  | existing split => exact hout.wired (hg b (by simp [split])) hx
  | new opens => exact hout.wired_of_new opens hx

end slot

theorem Wired.processEvent (hg : g.Wired) (h : g.processEvent settings r e = .ok g') :
    g'.Wired := by
  obtain ⟨rfl, -⟩ | ⟨pre, b, post, c, b', d', hslot, hproc, rfl⟩ := processEvent_cases h
  · exact hg
  have hout := outcome_of_process hproc
  exact forall_mem_keep hout (hg.slot_ne_x hslot) (fun x hx => hg x (hslot.mem_of_mem hx))
    (hg.slot hslot hout)

theorem Wired.step (hg : g.Wired) (h : Step settings g l g') : g'.Wired := by
  cases h with
  | event h => exact hg.processEvent h
  | incoming | pop => exact hg

theorem Legs.wired (hg : g.Legs) : g.Wired :=
  fun b hb => (hg.bridges b hb).toWired

theorem legs_of_starts (h : g.bridges = []) : g.Legs where
  bridges := by simp [h]
  tgUnique := h ▸ Keyed.uniqueKeys_nil
  sipUnique := h ▸ Keyed.uniqueKeys_nil

section slot

variable {pre post : List Bridge} {b b' : Bridge} {c : ℕ} {d' : Deps}

/-- A new Telegram call is no other bridge's. -/
theorem Legs.tg_fresh (hg : g.Legs) (hfresh : FreshIds g (.event e r))
    (hslot : Slot g e pre b post c)
    (hout : Outcome settings r b.ctx b'.ctx g.deps d' b.state e b'.state) (hx : b'.state ≠ .x) :
    b'.ctx.tgCallId = b.ctx.tgCallId ∨ b'.ctx.tgCallId = 0 ∨
      ∀ x ∈ pre ++ post, x.ctx.tgCallId ≠ b'.ctx.tgCallId := by
  obtain hsame | ⟨hinit, u, rfl, hu⟩ | hcreated := hout.tgCallId hx
  · exact Or.inl hsame
  · cases hslot with
    | existing split => exact absurd hinit (hg.wired.ne_init (by simp [split]))
    | new _ none =>
      refine Or.inr (Or.inr fun x hxmem => ?_)
      simpa [routes, hu] using none x (by simpa using hxmem)
  · exact Or.inr (Or.inr fun x hxmem => (hfresh.2.1.of_ok hcreated).2 x (hslot.mem_of_mem hxmem))

/-- A new SIP call is no other bridge's. -/
theorem Legs.sip_fresh (hfresh : FreshIds g (.event e r)) (hslot : Slot g e pre b post c)
    (hout : Outcome settings r b.ctx b'.ctx g.deps d' b.state e b'.state) (hx : b'.state ≠ .x) :
    b'.ctx.sipCallId = b.ctx.sipCallId ∨ b'.ctx.sipCallId = Sip.invalidId ∨
      ∀ x ∈ pre ++ post, x.ctx.sipCallId ≠ b'.ctx.sipCallId := by
  obtain ⟨hsame, -⟩ | ⟨-, i, rfl, hi, -⟩ | ⟨-, hmade, -⟩ := hout.sipCallId hx
  · exact Or.inl hsame
  · exact Or.inr (Or.inr fun x hxmem => hi ▸ hfresh.2.2.2 x (hslot.mem_of_mem hxmem))
  · exact Or.inr (Or.inr fun x hxmem => (hfresh.2.2.1.of_ok hmade).2 x (hslot.mem_of_mem hxmem))

end slot

/-- One event. -/
theorem Legs.processEvent (hg : g.Legs) (hfresh : FreshIds g (.event e r))
    (h : g.processEvent settings r e = .ok g') : g'.Legs := by
  obtain ⟨rfl, -⟩ | ⟨pre, b, post, c, b', d', hslot, hproc, rfl⟩ := processEvent_cases h
  · exact hg
  have hout := outcome_of_process hproc
  have hlegs : b'.state ≠ .x → b'.Legs := by
    cases hslot with
    | existing split routed => exact hout.legs (hg.bridges b (by simp [split])) routed hfresh.1
    | new opens => exact hout.legs_of_new opens hfresh.1
  have htg : Keyed.UniqueKeys (·.ctx.tgCallId) 0 (pre ++ b :: post) :=
    hslot.uniqueKeys rfl hg.tgUnique
  have hsip : Keyed.UniqueKeys (·.ctx.sipCallId) Sip.invalidId (pre ++ b :: post) :=
    hslot.uniqueKeys rfl hg.sipUnique
  have hne := hg.wired.slot_ne_x hslot
  refine ⟨?_, ?_, ?_⟩
  · exact forall_mem_keep hout hne (fun x hx => hg.bridges x (hslot.mem_of_mem hx)) hlegs
  · exact uniqueKeys_keep hout hne htg (hg.tg_fresh hfresh hslot hout)
  · exact uniqueKeys_keep hout hne hsip (Legs.sip_fresh hfresh hslot hout)

theorem Legs.step (hg : g.Legs) (hfresh : FreshIds g l) (h : Step settings g l g') : g'.Legs := by
  cases h with
  | event h => exact hg.processEvent hfresh h
  | incoming | pop => exact ⟨hg.bridges, hg.tgUnique, hg.sipUnique⟩

/-- A bridge that has its legs has a controller to bridge. -/
theorem Legs.ne_nullController (hg : g.Legs) (e : Event) (r : Replies) :
    g.processEvent settings r e ≠ .error .nullController := by
  obtain ⟨pre, b, post, c, hslot⟩ | ⟨-, hignored⟩ := exists_slot_or_ignored e g
  · rw [processEvent_of_slot hslot]
    cases hp : b.process settings r e g.deps with
    | ok p => simp [Except.map]
    | error x =>
      have hcrash := process_eq_error_iff.1 hp
      rintro h
      obtain rfl : x = .nullController := by simpa [Except.map] using h
      cases hcrash with
      | controller hs hmedia missing =>
        cases hslot with
        | existing split =>
          have hcontroller := (hg.bridges b (by simp [split])).controller
          simp [hs, State.HasController, missing] at hcontroller
        | new => simp [newBridge] at hs
  · simp [hignored]

/-- In every run from an empty list of bridges, in which ids are handed out as TDLib and
PJSUA promise, every bridge has the legs its state says, no two bridges share a leg, and no
event makes `BridgeAudio` use a missing controller. -/
theorem legs_of_run {settings : Settings} {g₀ g : Gateway} {ls : List Label}
    (hstart : g₀.bridges = []) (hrun : Run (Restrict (Step settings) FreshIds) g₀ ls g) :
    (∀ b ∈ g.bridges, b.Legs) ∧
      Keyed.UniqueKeys (·.ctx.tgCallId) 0 g.bridges ∧
      Keyed.UniqueKeys (·.ctx.sipCallId) Sip.invalidId g.bridges ∧
      ∀ e r, g.processEvent settings r e ≠ .error .nullController := by
  have hg : g.Legs := hrun.invariant Legs (fun _ _ _ hs h => hs.step h.2 h.1) (legs_of_starts hstart)
  exact ⟨hg.bridges, hg.tgUnique, hg.sipUnique, hg.ne_nullController⟩

/-- A call from Telegram that is forwarded, answered and bridged. -/
def bridgedRun : List Label := [
  .event (.updateCall ⟨7, 42, false, .pending⟩) (.granting 0 9),
  .event (.callMediaStateUpdate ⟨0, true, 0⟩) (.granting 1 9),
  .event (.updateCall ⟨7, 42, false, .ready "key" []⟩) (.granting 1 9)]

/-- The gateway after a run with fresh ids, if there is one. -/
def execFresh (ls : List Label) : Option Gateway :=
  exec (guarded FreshIds (next { callbackUri := "sip:pbx" })) (initial 1 .empty 0) ls

theorem run_of_execFresh {ls : List Label} {g : Gateway} (h : execFresh ls = some g) :
    Run (Restrict (Step { callbackUri := "sip:pbx" }) FreshIds) (initial 1 .empty 0) ls g :=
  Run.of_guarded (fun _ _ _ => step_of_next) h

theorem legs_of_run_bridged :
    (execFresh bridgedRun).map (·.bridges.map Bridge.state) = some [.fromTg .waitDtmf] ∧
      ∀ g, execFresh bridgedRun = some g → ∀ b ∈ g.bridges, b.Legs :=
  ⟨rfl, fun _ h => (legs_of_run rfl (run_of_execFresh h)).1⟩

end Gateway

end TelegramProvider
