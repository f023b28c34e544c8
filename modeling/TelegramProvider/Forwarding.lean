import TelegramProvider.CallTable

/-!
# A Telegram call is forwarded once

`DialSip` is run for a `Pending` update that finds no bridge with its call, and the gateway
keeps no memory of a call once its bridge is gone. So a call is forwarded again when TDLib
repeats the update and the bridge has ended in between.

While every `Pending` update is the first for its call or finds the bridge of that call
(`Timely`), `DialSip` is run at most once for a call (`forwarded_of_run`).
-/

set_option autoImplicit false

namespace TelegramProvider

open Runs

/-! ## Forwarding -/

/-- The entry is `DialSip`, run for the Telegram call `id`. -/
def Obs.isForward (id : ℤ) : Obs → Bool
  | .action _ .dialSip (.updateCall u) => u.id = id
  | _ => false

/-- The runs of `DialSip` for a Telegram call. -/
def forwardsOf (id : ℤ) (obs : List Obs) : List Obs :=
  obs.filter (·.isForward id)

/-- The entry is the handling of a `Pending` update for the call `id`. -/
def Obs.isPending (id : ℤ) : Obs → Bool
  | .event _ (.updateCall u) => decide (u.isOutgoing = false ∧ u.state = .pending ∧ u.id = id)
  | _ => false

section outcome

variable {settings : Settings} {r : Replies} {e : Event} {ctx ctx' : Context} {d d' : Deps}
  {s s' : State} {id : ℤ} {obs obs' : List Obs}

@[simp] theorem forwardsOf_append :
    forwardsOf id (obs ++ obs') = forwardsOf id obs ++ forwardsOf id obs' :=
  List.filter_append ..

theorem forwardsOf_eq_nil (h : ∀ o ∈ obs, o.isForward id = false) : forwardsOf id obs = [] := by
  simpa [forwardsOf, List.filter_eq_nil_iff] using h

theorem forwardsOf_releases {sip : Sip.Client} : forwardsOf id (releases r sip ctx) = [] := by
  refine forwardsOf_eq_nil fun o ho => ?_
  obtain rfl | rfl | ⟨error, rfl⟩ | ⟨-, rfl⟩ := mem_releases ho <;> rfl

/-- `DialSip` is run once, by a new bridge, for the `Pending` update it was opened for. -/
theorem Outcome.forwards (h : Outcome settings r ctx ctx' d d' s e s') (id : ℤ) :
    ∃ obs, d'.trace = d.trace ++ obs ∧ (forwardsOf id obs = [] ∨
      (s = .init ∧ (∃ u, e = .updateCall u ∧ u.isOutgoing = false ∧ u.state = .pending ∧ u.id = id) ∧
        (∃ o ∈ obs, o.isPending id) ∧ (forwardsOf id obs).length = 1)) := by
  have hnil : ∀ obs, d'.trace = d.trace ++ obs → (∀ o ∈ obs, o.isForward id = false) →
      ∃ obs, d'.trace = d.trace ++ obs ∧ (forwardsOf id obs = [] ∨ (s = .init ∧
        (∃ u, e = .updateCall u ∧ u.isOutgoing = false ∧ u.state = .pending ∧ u.id = id) ∧
        (∃ o ∈ obs, o.isPending id) ∧ (forwardsOf id obs).length = 1)) :=
    fun obs htrace hobs => ⟨obs, htrace, Or.inl (forwardsOf_eq_nil hobs)⟩
  cases h with
  | @dialed u _ _ _ hin hpending _ _ _ _ changed =>
    by_cases hid : u.id = id
    · refine ⟨_, changed.trace, Or.inr ⟨rfl, ⟨u, rfl, hin, hpending, hid⟩, ?_, ?_⟩⟩
      · exact ⟨_, List.mem_cons_self, decide_eq_true ⟨hin, hpending, hid⟩⟩
      · simp [forwardsOf, Obs.isForward, hid]
    · exact hnil _ changed.trace (by simp [Obs.isForward, hid])
  | @dialRefused u _ _ _ hin hpending _ _ _ _ changed =>
    by_cases hid : u.id = id
    · refine ⟨_, changed.trace, Or.inr ⟨rfl, ⟨u, rfl, hin, hpending, hid⟩, ?_, ?_⟩⟩
      · exact ⟨_, List.mem_cons_self, decide_eq_true ⟨hin, hpending, hid⟩⟩
      · simp [forwardsOf, Obs.isForward, hid]
    · exact hnil _ changed.trace (by simp [Obs.isForward, hid])
  | declined _ _ _ changed | dropped _ changed =>
    refine ⟨_, changed.trace, Or.inl ?_⟩
    rw [forwardsOf_append, forwardsOf_releases, List.append_nil]
    exact forwardsOf_eq_nil (by simp [Obs.isForward])
  | ended _ ends changed =>
    refine ⟨_, changed.trace, Or.inl ?_⟩
    rw [forwardsOf_append, forwardsOf_releases, List.append_nil]
    cases ends <;> exact forwardsOf_eq_nil (by simp [Obs.isForward])
  | idle _ _ changed | accepted _ _ _ changed | rejected _ _ changed | answeredTg _ _ _ changed
  | joinedTg _ _ _ changed | answeredSip _ _ _ changed | joinedSip _ _ _ _ changed
  | dtmf _ _ _ _ _ changed =>
    exact hnil _ changed.trace (by simp [Obs.isForward, failures, or_imp, forall_and])
  | dialedTg _ _ _ _ _ changed | dialTgFailed _ _ _ _ changed =>
    exact hnil _ changed.trace (by simp [Obs.isForward, or_imp, forall_and])

end outcome

/-! ## Every run -/

namespace Gateway

/-- A `Pending` update is the first for its call, or a bridge holds the call. -/
def Timely (g : Gateway) : Label → Prop
  | .event (.updateCall u) _ => u.isOutgoing = false → u.state = .pending →
      (∃ b ∈ g.bridges, b.ctx.tgCallId = u.id) ∨ ∀ o ∈ g.deps.trace, o.isPending u.id = false
  | _ => True

/-- A call was forwarded at most once, and not before its first `Pending` update. -/
structure ForwardedOnce (g : Gateway) (id : ℤ) : Prop where
  once : (forwardsOf id g.deps.trace).length ≤ 1
  pending : (∀ o ∈ g.deps.trace, o.isPending id = false) → forwardsOf id g.deps.trace = []

variable {settings : Settings} {r : Replies} {e : Event} {g g' : Gateway} {l : Label} {id : ℤ}

theorem ForwardedOnce.processEvent (hf : g.ForwardedOnce id) (hg : g.Wired)
    (hok : g.Timely (.event e r)) (h : g.processEvent settings r e = .ok g') :
    g'.ForwardedOnce id := by
  obtain ⟨rfl, -⟩ | ⟨pre, b, post, c, b', d', hslot, hproc, rfl⟩ := processEvent_cases h
  · exact hf
  obtain ⟨obs, htrace, hnil | ⟨hinit, ⟨u, rfl, hin, hpending, hid⟩, hmem, hlen⟩⟩ :=
    (outcome_of_process hproc).forwards id
  · have hsame : forwardsOf id d'.trace = forwardsOf id g.deps.trace := by
      rw [htrace, forwardsOf_append, hnil, List.append_nil]
    refine ⟨hsame ▸ hf.once, fun hnone => hsame ▸ hf.pending fun o ho => hnone o ?_⟩
    exact htrace ▸ List.mem_append_left _ ho
  · cases hslot with
    | existing split => exact absurd hinit (hg.ne_init (by simp [split]))
    | new _ none =>
      have hfirst : ∀ o ∈ g.deps.trace, o.isPending id = false := by
        refine hid ▸ (hok hin hpending).resolve_left ?_
        rintro ⟨b, hb, hheld⟩
        exact absurd (decide_eq_true hheld) (by simpa [routes] using none b hb)
      refine ⟨?_, fun hnone => ?_⟩
      · have hforwards : forwardsOf id d'.trace = forwardsOf id obs := by
          rw [htrace, forwardsOf_append, hf.pending hfirst, List.nil_append]
        exact Nat.le_of_eq (hforwards ▸ hlen)
      · obtain ⟨o, ho, ho'⟩ := hmem
        have hcontra := hnone o (htrace ▸ List.mem_append_right _ ho)
        simp [ho'] at hcontra

/-- While every `Pending` update is timely, `DialSip` is run at most once for a call. -/
theorem forwarded_of_steps {pid : ℕ} {cache : Cache} {now : ℤ} {ls : List Label}
    (hrun : Run (Restrict (Step settings) Timely) (initial pid cache now) ls g) :
    (forwardsOf id g.deps.trace).length ≤ 1 := by
  have hinv : g.Wired ∧ g.ForwardedOnce id := by
    refine hrun.invariant (fun g => g.Wired ∧ g.ForwardedOnce id) ?_
      ⟨by simp [Wired, initial], by simp [initial, forwardsOf], fun _ => rfl⟩
    rintro g l g' ⟨hg, hf⟩ ⟨hstep, hok⟩
    refine ⟨hg.step hstep, ?_⟩
    cases hstep with
    | event h => exact hf.processEvent hg hok h
    | incoming | pop => exact ⟨hf.once, hf.pending⟩
  exact hinv.2.once

end Gateway

namespace Node

/-- In every run of the loop in which a `Pending` update is the first for its call or finds
the bridge of that call, `DialSip` is run at most once for every Telegram call. -/
theorem forwarded_of_run {settings : Settings} {pid : ℕ} {cache : Cache} {now : ℤ}
    {ms : List Move} {n : Node}
    (hrun : Run (Restrict (Step settings) (Allows Gateway.Timely)) (initial pid cache now) ms n)
    (id : ℤ) : (forwardsOf id n.gateway.deps.trace).length ≤ 1 := by
  obtain ⟨ls, hgateway⟩ := gatewayRun (fun _ => trivial) hrun
  exact Gateway.forwarded_of_steps hgateway

instance (g : Gateway) : DecidablePred g.Timely
  | .event (.updateCall u) _ => inferInstanceAs (Decidable (u.isOutgoing = false →
      u.state = .pending → (∃ b ∈ g.bridges, b.ctx.tgCallId = u.id) ∨
        ∀ o ∈ g.deps.trace, o.isPending u.id = false))
  | .event (.updateNewMessage _) _ => inferInstanceAs (Decidable True)
  | .event (.incomingCall _) _ => inferInstanceAs (Decidable True)
  | .event (.callStateUpdate _) _ => inferInstanceAs (Decidable True)
  | .event (.callMediaStateUpdate _) _ => inferInstanceAs (Decidable True)
  | .event (.internalError _) _ => inferInstanceAs (Decidable True)
  | .incoming _ _ => inferInstanceAs (Decidable True)
  | .pop => inferInstanceAs (Decidable True)

/-- The node after a run in which all updates are timely, if there is one. -/
def execTimely (ms : List Move) : Option Node :=
  exec (guarded (Allows Gateway.Timely) (next { callbackUri := "sip:pbx" })) (initial 1 .empty 0) ms

/-- A call whose `Pending` update is repeated while its bridge is there. -/
def repeatedRun : List Move :=
  forwarded 7 ++ [.poll (.granting 0 9)] ++ forwarded 7

theorem forwarded_of_run_repeated :
    (execTimely repeatedRun).map (fun n => n.gateway.bridges.map Bridge.state) =
      some [.fromTg .sipWaitMedia] ∧
    ∀ n, execTimely repeatedRun = some n → ∀ id, (forwardsOf id n.gateway.deps.trace).length ≤ 1 :=
  ⟨rfl, fun _ h => forwarded_of_run (Run.of_guarded (fun _ _ _ => step_of_next) h)⟩

/-- Whether the call `id` was forwarded (`true`) or discarded, in order. -/
def forwardings (id : ℤ) (obs : List Obs) : List Bool :=
  obs.filterMap fun
    | .action _ .dialSip (.updateCall u) => if u.id = id then some true else none
    | .query _ (.discardCall callId ..) => if callId = id then some false else none
    | _ => none

/-- Two `Pending` updates are in the queue when dialing fails : the call is discarded, and
then forwarded again. -/
theorem forwarded_twice :
    ∃ n, Run (Step { callbackUri := "sip:pbx" }) (initial 1 .empty 0)
        [.update (.call ⟨7, 42, false, .pending⟩), .update (.call ⟨7, 42, false, .pending⟩),
          .poll (.granting 0 9), .poll Gateway.refusedDial, .poll (.granting 0 9),
          .poll (.granting 0 9), .poll (.granting 0 9)] n ∧
      forwardings 7 n.gateway.deps.trace = [true, false, true] ∧
      (forwardsOf 7 n.gateway.deps.trace).length = 2 :=
  ⟨_, run_of_execLoop rfl, rfl, rfl⟩

end Node

end TelegramProvider
