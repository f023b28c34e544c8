import TelegramProvider.Gateway

/-!
# The main loop

`Gateway::start` polls three queues in turn : the internal errors, the updates from TDLib
and the events from PJSIP. A tick takes at most one element of each. TDLib's thread and
PJSIP's threads put elements into the queues at any time, also between two polls of one
tick.

`Node` is the gateway with its queues and the poll whose turn it is. A run of the loop is a
run of the gateway (`gatewayRun`), so what holds in every run of the gateway holds in the
loop; where the order of the polls matters, the loop is looked at itself.
-/

set_option autoImplicit false

namespace TelegramProvider

open Runs

/-! ## Queues -/

/-- The polls of a tick, in order. -/
inductive Phase
  | internal
  | telegram
  | sip
  deriving DecidableEq, Repr

def Phase.next : Phase → Phase
  | .internal => .telegram
  | .telegram => .sip
  | .sip => .internal

/-- What `process_event` gets for an update. -/
def Td.Update.event : Td.Update → Event
  | .call u => .updateCall u
  | .newMessage u => .updateNewMessage u

/-- What `process_event` gets for a SIP event. -/
def Sip.Event.event : Sip.Event → TelegramProvider.Event
  | .incomingCall e => .incomingCall e
  | .callStateUpdate e => .callStateUpdate e
  | .callMediaStateUpdate e => .callMediaStateUpdate e

/-- The gateway in its loop. -/
structure Node where
  gateway : Gateway
  tgEvents : List Td.Update := []
  sipEvents : List Sip.Event := []
  phase : Phase := .internal

/-- What can happen in the process : TDLib delivers an update, PJSIP reports a new call, the
state of a call or the state of its media, or the loop makes its next poll. -/
inductive Move
  | update (u : Td.Update)
  | incoming (id : ℤ) (localUser : String)
  | callState (id : ℤ) (state : Sip.InvState)
  | callMediaState (id : ℤ) (hasMedia : Bool)
  | poll (r : Replies)

namespace Node

/-- The poll whose turn it is takes an element, if there is one : the event, and the node
without it. -/
def take (n : Node) : Option (Event × Node) :=
  match n.phase with
  | .internal =>
    match n.gateway.deps.internalEvents with
    | [] => none
    | i :: _ => some (.internalError i, { n with gateway := n.gateway.popError })
  | .telegram =>
    match n.tgEvents with
    | [] => none
    | u :: us => some (u.event, { n with tgEvents := us })
  | .sip =>
    match n.sipEvents with
    | [] => none
    | e :: es => some (e.event, { n with sipEvents := es })

/-- The next poll has its turn. -/
def turn (n : Node) : Node :=
  { n with phase := n.phase.next }

/-- A handler of PJSIP puts an event into the queue. -/
def emit (e : Sip.Event) (n : Node) : Node :=
  { n with sipEvents := n.sipEvents ++ [e] }

/-- One step. A call reports through the `Call` object that is bound to its id. -/
inductive Step (settings : Settings) : Node → Move → Node → Prop
  | update {n : Node} {u : Td.Update} :
      Step settings n (.update u) { n with tgEvents := n.tgEvents ++ [u] }
  | incoming {n : Node} {id : ℤ} {localUser : String} :
      Step settings n (.incoming id localUser)
        (emit (.incomingCall (n.gateway.deps.sip.onIncomingCall id localUser).2)
          { n with gateway := n.gateway.registerIncoming id localUser })
  | callState {n : Node} {id : ℤ} {state : Sip.InvState} {call : ℕ}
      (bound : n.gateway.deps.sip.live id = some call) :
      Step settings n (.callState id state) (n.emit (.callStateUpdate ⟨id, state, call⟩))
  | callMediaState {n : Node} {id : ℤ} {hasMedia : Bool} {call : ℕ}
      (bound : n.gateway.deps.sip.live id = some call) :
      Step settings n (.callMediaState id hasMedia)
        (n.emit (.callMediaStateUpdate ⟨id, hasMedia, call⟩))
  | idle {n : Node} {r : Replies} (empty : n.take = none) : Step settings n (.poll r) n.turn
  | handle {n n' : Node} {r : Replies} {e : Event} {g : Gateway} (taken : n.take = some (e, n'))
      (h : n'.gateway.processEvent settings r e = .ok g) :
      Step settings n (.poll r) { n' with gateway := g }.turn

/-- The step, computed. -/
def next (settings : Settings) (n : Node) : Move → Option Node
  | .update u => some { n with tgEvents := n.tgEvents ++ [u] }
  | .incoming id localUser =>
    some (emit (.incomingCall (n.gateway.deps.sip.onIncomingCall id localUser).2)
      { n with gateway := n.gateway.registerIncoming id localUser })
  | .callState id state =>
    (n.gateway.deps.sip.live id).map fun call => n.emit (.callStateUpdate ⟨id, state, call⟩)
  | .callMediaState id hasMedia =>
    (n.gateway.deps.sip.live id).map fun call =>
      n.emit (.callMediaStateUpdate ⟨id, hasMedia, call⟩)
  | .poll r =>
    match n.take with
    | none => some n.turn
    | some (e, n') =>
      (n'.gateway.processEvent settings r e).toOption.map fun g => { n' with gateway := g }.turn

variable {settings : Settings} {n n₀ n' : Node} {e : Event} {r : Replies} {m : Move}
  {ms : List Move}

theorem step_of_next (h : n.next settings m = some n') : Step settings n m n' := by
  cases m with
  | update u =>
    obtain rfl := Option.some.inj h
    exact .update
  | incoming id localUser =>
    obtain rfl := Option.some.inj h
    exact .incoming
  | callState id state =>
    obtain ⟨call, hcall, rfl⟩ := Option.map_eq_some_iff.1 h
    exact .callState hcall
  | callMediaState id hasMedia =>
    obtain ⟨call, hcall, rfl⟩ := Option.map_eq_some_iff.1 h
    exact .callMediaState hcall
  | poll r =>
    unfold next at h
    dsimp only at h
    split at h
    · obtain rfl := Option.some.inj h
      exact .idle ‹_›
    · obtain ⟨g, hg, rfl⟩ := Option.map_eq_some_iff.1 h
      refine .handle ‹_› ?_
      cases hp : Gateway.processEvent settings r _ _ with
      | error x => simp [hp, Except.toOption] at hg
      | ok g' => simpa [hp, Except.toOption] using hg

/-- The loop with nothing in its queues, of a gateway that was just constructed. -/
def initial (pid : ℕ) (cache : Cache) (now : ℤ) : Node where
  gateway := Gateway.initial pid cache now

/-- The node after some moves, in a process that was just started. -/
def execLoop (ms : List Move) : Option Node :=
  exec (next { callbackUri := "sip:pbx" }) (initial 1 .empty 0) ms

theorem run_of_execLoop (h : execLoop ms = some n) :
    Run (Step { callbackUri := "sip:pbx" }) (initial 1 .empty 0) ms n :=
  Run.of_exec (fun _ _ _ => step_of_next) h

/-- An incoming Telegram call, and the polls from the start of a tick to the one that takes
it. -/
def forwarded (id : ℤ) : List Move :=
  [.update (.call ⟨id, 42, false, .pending⟩), .poll (.granting 0 9), .poll (.granting 0 9)]

/-! ## What a poll takes -/

/-- A poll takes an internal error, an update or a SIP event, the first of its queue. -/
theorem take_cases (h : n.take = some (e, n')) :
    (∃ i is, n.phase = .internal ∧ n.gateway.deps.internalEvents = i :: is ∧
      e = .internalError i ∧ n' = { n with gateway := n.gateway.popError }) ∨
    (∃ u us, n.phase = .telegram ∧ n.tgEvents = u :: us ∧
      e = u.event ∧ n' = { n with tgEvents := us }) ∨
    ∃ s ss, n.phase = .sip ∧ n.sipEvents = s :: ss ∧
      e = s.event ∧ n' = { n with sipEvents := ss } := by
  unfold take at h
  cases hphase : n.phase with
  | internal =>
    cases hqueue : n.gateway.deps.internalEvents with
    | nil => simp [hphase, hqueue] at h
    | cons i is =>
      simp only [hphase, hqueue, Option.some.injEq, Prod.mk.injEq] at h
      exact Or.inl ⟨i, is, rfl, rfl, h.1.symm, h.2.symm⟩
  | telegram =>
    cases hqueue : n.tgEvents with
    | nil => simp [hphase, hqueue] at h
    | cons u us =>
      simp only [hphase, hqueue, Option.some.injEq, Prod.mk.injEq] at h
      exact Or.inr (Or.inl ⟨u, us, rfl, rfl, h.1.symm, h.2.symm⟩)
  | sip =>
    cases hqueue : n.sipEvents with
    | nil => simp [hphase, hqueue] at h
    | cons s ss =>
      simp only [hphase, hqueue, Option.some.injEq, Prod.mk.injEq] at h
      exact Or.inr (Or.inr ⟨s, ss, rfl, rfl, h.1.symm, h.2.symm⟩)

/-! ## The loop runs the gateway -/

/-- A condition on the steps of the gateway, for the moves of the loop. -/
def Allows (ok : Gateway → Label → Prop) (n : Node) : Move → Prop
  | .incoming id localUser => ok n.gateway (.incoming id localUser)
  | .poll r => ∀ p ∈ n.take, ok p.2.gateway (.event p.1 r)
  | _ => True

instance (ok : Gateway → Label → Prop) [∀ g l, Decidable (ok g l)] (n : Node) :
    DecidablePred (n.Allows ok)
  | .incoming id localUser => inferInstanceAs (Decidable (ok n.gateway (.incoming id localUser)))
  | .poll r => inferInstanceAs (Decidable (∀ p ∈ n.take, ok p.2.gateway (.event p.1 r)))
  | .update _ => inferInstanceAs (Decidable True)
  | .callState _ _ => inferInstanceAs (Decidable True)
  | .callMediaState _ _ => inferInstanceAs (Decidable True)

/-- A move of the loop is some steps of the gateway. -/
theorem gatewaySteps {ok : Gateway → Label → Prop} (hpop : ∀ g, ok g .pop)
    (h : Step settings n m n') (hok : n.Allows ok m) :
    ∃ ls, Run (Restrict (Gateway.Step settings) ok) n.gateway ls n'.gateway := by
  cases h with
  | update => exact ⟨_, Run.nil⟩
  | callState => exact ⟨_, Run.nil⟩
  | callMediaState => exact ⟨_, Run.nil⟩
  | idle => exact ⟨_, Run.nil⟩
  | incoming => exact ⟨_, Run.one ⟨.incoming, hok⟩⟩
  | @handle n₁ r e g taken hg =>
    have hevent : ok n₁.gateway (.event e r) := hok (e, n₁) taken
    obtain ⟨i, is, -, -, rfl, rfl⟩ | ⟨u, us, -, -, rfl, rfl⟩ | ⟨s, ss, -, -, rfl, rfl⟩ :=
      take_cases taken
    · exact ⟨_, Run.cons ⟨.pop, hpop _⟩ (Run.one ⟨.event hg, hevent⟩)⟩
    · exact ⟨_, Run.one ⟨.event hg, hevent⟩⟩
    · exact ⟨_, Run.one ⟨.event hg, hevent⟩⟩

/-- A run of the loop is a run of the gateway, under the same condition. -/
theorem gatewayRun {ok : Gateway → Label → Prop} (hpop : ∀ g, ok g .pop)
    (h : Run (Restrict (Step settings) (Allows ok)) n₀ ms n) :
    ∃ ls, Run (Restrict (Gateway.Step settings) ok) n₀.gateway ls n.gateway :=
  h.simulate Node.gateway fun _ _ _ hs => gatewaySteps hpop hs.1 hs.2

/-- What every step of the gateway keeps holds in the loop. -/
theorem invariant_of_run (I : Gateway → Prop)
    (hstep : ∀ g l g', I g → Gateway.Step settings g l g' → I g')
    (h : Run (Step settings) n₀ ms n) (h0 : I n₀.gateway) : I n.gateway := by
  have hfree : Run (Restrict (Step settings) (Allows fun _ _ => True)) n₀ ms n := by
    refine h.mono fun n m n' hs => ⟨hs, ?_⟩
    cases m <;> simp [Allows]
  obtain ⟨ls, hrun⟩ := gatewayRun (fun _ => trivial) hfree
  exact hrun.of_restrict.invariant I hstep h0

end Node

end TelegramProvider
