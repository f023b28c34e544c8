import TelegramProvider.Escape
import TelegramProvider.Loop

/-!
# The queue of internal errors

An action that fails queues an internal error, and its bridge goes on until the loop comes
to the error. A tick takes one internal error, then one update and one SIP event, so an
error with `k` others ahead of it waits for `3 * k` polls more than those left of the tick
(`Phase.due`), and the updates and SIP events these polls take are still handled, by the
bridge that failed as by others. The poll that takes the error ends the bridge, if it is
still there, and nothing happens for its context afterwards (`stops_of_run`).
-/

set_option autoImplicit false

namespace TelegramProvider

open Runs

/-! ## The end of a context -/

/-- What is recorded for a context. -/
def recordOf (c : CtxId) (obs : List Obs) : List Obs :=
  obs.filter fun o => decide (o.ctx = c)

/-- All that is recorded when an internal error ends a bridge. -/
def lastRecord (r : Replies) (sip : Sip.Client) (ctx : Context) (i : InternalError) : List Obs :=
  [.event ctx.id (.internalError i), .action ctx.id .setHangupPrm (.internalError i),
    .action ctx.id .cleanUp (.internalError i)] ++ releases r sip { ctx with hangupPrm := i.prm }

section outcome

variable {settings : Settings} {r : Replies} {e : Event} {ctx ctx' : Context} {d d' : Deps}
  {s s' : State} {c : CtxId} {i : InternalError}

theorem Outcome.recordOf_other (h : Outcome settings r ctx ctx' d d' s e s') (hc : ctx.id ≠ c) :
    recordOf c d'.trace = recordOf c d.trace := by
  obtain ⟨obs, htrace, hobs⟩ := h.recorded
  have hnone : recordOf c obs = [] := by
    refine List.filter_eq_nil_iff.2 fun o ho => ?_
    simp [hobs o ho, hc]
  have happend : recordOf c d'.trace = recordOf c d.trace ++ recordOf c obs := by
    rw [htrace, recordOf, List.filter_append]
    rfl
  rw [happend, hnone, List.append_nil]

/-- An internal error ends every bridge between two events. -/
theorem Outcome.of_internalError
    (h : Outcome settings r ctx ctx' d d' s (.internalError i) s') (hs : s.Nested) :
    s' = .x ∧ d'.trace = d.trace ++ lastRecord r d.sip ctx i := by
  cases h with
  | idle none => simp [transition_of_ends hs .internal] at none
  | dropped drops => cases drops
  | ended _ ends changed =>
    cases ends
    exact ⟨rfl, changed.trace⟩

end outcome

namespace Gateway

/-- The context was given to a bridge that is there no more. -/
structure Ended (g : Gateway) (c : CtxId) : Prop where
  given : c ≤ g.ctxCounter
  gone : ∀ b ∈ g.bridges, b.ctx.id ≠ c

/-- An internal error is handled : its bridge ends, and nothing else happens. If there is none
any more, nothing happens. -/
inductive Fails (r : Replies) (i : InternalError) (g : Gateway) : Gateway → Prop
  | ends {pre post : List Bridge} {b : Bridge} {d' : Deps} (split : g.bridges = pre ++ b :: post)
      (hid : b.ctx.id = i.ctxId) (others : ∀ x ∈ pre ++ post, x.ctx.id ≠ i.ctxId)
      (recorded : d'.trace = g.deps.trace ++ lastRecord r g.deps.sip b.ctx i) :
      Fails r i g ⟨pre ++ post, g.ctxCounter, d'⟩
  | gone (none : ∀ b ∈ g.bridges, b.ctx.id ≠ i.ctxId) : Fails r i g g

variable {settings : Settings} {r : Replies} {e : Event} {g g' : Gateway} {l : Label} {c : CtxId}
  {i : InternalError}

/-- Nothing happens for a context that ended. -/
theorem Ended.processEvent (he : g.Ended c) (hn : g.Numbered)
    (h : g.processEvent settings r e = .ok g') :
    g'.Ended c ∧ recordOf c g'.deps.trace = recordOf c g.deps.trace := by
  obtain ⟨rfl, -⟩ | ⟨pre, b, post, k, b', d', hslot, hproc, rfl⟩ := processEvent_cases h
  · exact ⟨he, rfl⟩
  have hout := outcome_of_process hproc
  have hne : b.ctx.id ≠ c := by
    cases hslot with
    | existing split => exact he.gone b (by simp [split])
    | new => exact Nat.ne_of_gt (Nat.lt_succ_of_le he.given)
  refine ⟨⟨Nat.le_trans he.given (hn.slot hslot).2.2.1, fun x hx => ?_⟩, hout.recordOf_other hne⟩
  obtain hx | ⟨rfl, hid⟩ := mem_keep_cases hout hx
  · exact he.gone x (hslot.mem_of_mem hx)
  · exact hid ▸ hne

theorem Ended.step (he : g.Ended c) (hn : g.Numbered) (h : Step settings g l g') :
    g'.Ended c ∧ recordOf c g'.deps.trace = recordOf c g.deps.trace := by
  cases h with
  | event h => exact he.processEvent hn h
  | incoming | pop => exact ⟨⟨he.given, he.gone⟩, rfl⟩

/-- An internal error is handled, whatever TDLib and PJSIP answer. -/
theorem exists_fails (hg : g.Wired) (hn : g.Numbered) (r : Replies) (i : InternalError) :
    ∃ g', g.processEvent settings r (.internalError i) = .ok g' ∧ Fails r i g g' := by
  by_cases hb : ∃ b ∈ g.bridges, b.ctx.id = i.ctxId
  · obtain ⟨b, hmem, hid⟩ := hb
    obtain ⟨pre, post, hsplit⟩ := List.append_of_mem hmem
    have hnested := (hg b hmem).nested
    have hothers := (hsplit ▸ hn.unique).ne_of_mem (hn.pos b hmem)
    obtain ⟨b', d', hproc, hx⟩ : ∃ b' d',
        b.process settings r (.internalError i) g.deps = .ok (b', d') ∧ b'.state = .x :=
      exists_process_of_ends hnested .internal
    have hkeep : keep (.internalError i) b' = [] := by simp [keep, hx]
    obtain ⟨-, htrace⟩ := (outcome_of_process hproc).of_internalError hnested
    refine ⟨_, ?_, .ends hsplit hid (fun x hxmem => hid ▸ hothers x hxmem) htrace⟩
    rw [processEvent_of_slot (hn.slot_of_internalError hsplit hid), hproc]
    simp [Except.map, hkeep]
  · push Not at hb
    have hfind : g.bridges.findIdx? (routes (.internalError i)) = none :=
      List.findIdx?_eq_none_iff.2 fun b hmem => by simp [routes, hb b hmem]
    exact ⟨g, by simp [Gateway.processEvent, processError, hfind], .gone hb⟩

theorem Fails.ended (h : Fails r i g g') (hi : i.ctxId ≤ g.ctxCounter) : g'.Ended i.ctxId := by
  cases h with
  | ends _ _ others => exact ⟨hi, others⟩
  | gone none => exact ⟨hi, none⟩

/-- An error that was recorded is the last of the queue, and the event was no internal error. -/
theorem queued_of_failed {prm : Sip.CallOpParam} {obs : List Obs} (hg : g.Wired)
    (h : g.processEvent settings r e = .ok g') (htrace : g'.deps.trace = g.deps.trace ++ obs)
    (hfailed : .failed c prm ∈ obs) :
    g'.deps.internalEvents = g.deps.internalEvents ++ [⟨c, prm⟩] ∧
      ∀ i, e ≠ .internalError i := by
  obtain ⟨rfl, -⟩ | ⟨pre, b, post, k, b', d', hslot, hproc, rfl⟩ := processEvent_cases h
  · obtain rfl : obs = [] := by simpa using htrace
    simp at hfailed
  have hout := outcome_of_process hproc
  obtain ⟨sip, errs, obs', hch, hlen, hqueued⟩ := hout.queued
  obtain ⟨obs₁, htrace₁, hctx⟩ := hout.recorded
  obtain rfl : obs' = obs := List.append_cancel_left (hch.trace.symm.trans htrace)
  obtain rfl : obs₁ = obs' := List.append_cancel_left (htrace₁.symm.trans htrace)
  obtain rfl : c = b.ctx.id := hctx _ hfailed
  have herrs : errs = [prm] := by
    have hmem := (hqueued prm).1 hfailed
    match errs, hlen with
    | [x], _ => rw [List.mem_singleton.1 hmem]
  refine ⟨by simpa [herrs] using hch.errors, ?_⟩
  rintro i rfl
  have hnested : b.state.Nested := by
    cases hslot with
    | existing split => exact (hg b (by simp [split])).nested
    | new opens => exact opens.elim
  have hlast : obs₁ = lastRecord r g.deps.sip b.ctx i :=
    List.append_cancel_left (htrace₁.symm.trans (hout.of_internalError hnested).2)
  rw [hlast] at hfailed
  simp only [lastRecord, List.mem_append, List.mem_cons, List.not_mem_nil, reduceCtorEq,
    or_false, false_or] at hfailed
  simpa using mem_releases hfailed

/-- Errors are put at the end of the queue. -/
theorem errors_of_processEvent (h : g.processEvent settings r e = .ok g') :
    ∃ later, g'.deps.internalEvents = g.deps.internalEvents ++ later := by
  obtain ⟨rfl, -⟩ | ⟨pre, b, post, k, b', d', hslot, hproc, rfl⟩ := processEvent_cases h
  · exact ⟨[], by simp⟩
  · obtain ⟨sip, errs, obs, hch⟩ := (outcome_of_process hproc).changed
    exact ⟨_, hch.errors⟩

end Gateway

/-! ## The turn of an error -/

/-- The polls before the next one of the internal errors. -/
def Phase.due : Phase → ℕ
  | .internal => 0
  | .telegram => 2
  | .sip => 1

def Move.isPoll : Move → Bool
  | .poll _ => true
  | _ => false

/-- How often the loop polls. -/
def polls (ms : List Move) : ℕ :=
  ms.countP Move.isPoll

namespace Node

/-- The error `i` is in the queue, and will be taken after `wait` more polls. -/
def Queued (n : Node) (i : InternalError) (wait : ℕ) : Prop :=
  ∃ ahead behind, n.gateway.deps.internalEvents = ahead ++ i :: behind ∧
    wait = 3 * ahead.length + n.phase.due

variable {settings : Settings} {r : Replies} {e : Event} {n n₀ n' : Node} {m : Move}
  {ms ms' : List Move} {i : InternalError} {wait : ℕ}

/-- What a move does to the queue of internal errors : a poll that has its turn takes the first,
and new ones are put at the end. -/
theorem errors_of_step (h : Step settings n m n') :
    (m.isPoll = false ∧ n'.phase = n.phase ∧
      n'.gateway.deps.internalEvents = n.gateway.deps.internalEvents) ∨
    (m.isPoll = true ∧ n'.phase = n.phase.next ∧ ∃ later, n'.gateway.deps.internalEvents =
      (if n.phase = .internal then n.gateway.deps.internalEvents.tail
        else n.gateway.deps.internalEvents) ++ later) := by
  cases h with
  | update | incoming | callState | callMediaState => exact Or.inl ⟨rfl, rfl, rfl⟩
  | idle empty =>
    refine Or.inr ⟨rfl, rfl, [], ?_⟩
    split_ifs with hp
    · cases hqueue : n.gateway.deps.internalEvents with
      | nil => simp [turn, hqueue]
      | cons x xs => simp [take, hp, hqueue] at empty
    · simp [turn]
  | handle taken hg =>
    obtain ⟨later, hlater⟩ := Gateway.errors_of_processEvent hg
    obtain ⟨x, xs, hp, hqueue, rfl, rfl⟩ | ⟨u, us, hp, hqueue, rfl, rfl⟩ | ⟨s, ss, hp, hqueue, rfl, rfl⟩ :=
      take_cases taken
    · exact Or.inr ⟨rfl, rfl, later, by simpa [hp, turn, Gateway.popError] using hlater⟩
    · exact Or.inr ⟨rfl, rfl, later, by simpa [hp, turn] using hlater⟩
    · exact Or.inr ⟨rfl, rfl, later, by simpa [hp, turn] using hlater⟩

/-- Every poll brings an error nearer to its turn. -/
theorem Queued.step (hq : n.Queued i wait) (h : Step settings n m n') :
    (m.isPoll = false ∧ n'.Queued i wait) ∨
      (m.isPoll = true ∧ (wait = 0 ∨ (0 < wait ∧ n'.Queued i (wait - 1)))) := by
  obtain ⟨ahead, behind, hqueue, rfl⟩ := hq
  obtain ⟨hpoll, hphase, hsame⟩ | ⟨hpoll, hphase, later, hlater⟩ := errors_of_step h
  · exact Or.inl ⟨hpoll, ahead, behind, hsame.trans hqueue, by rw [hphase]⟩
  · refine Or.inr ⟨hpoll, ?_⟩
    cases hp : n.phase with
    | internal =>
      cases ahead with
      | nil => exact Or.inl rfl
      | cons x ahead =>
        have hwait : 3 * (x :: ahead).length + Phase.due .internal = 3 * ahead.length + 3 := rfl
        rw [hwait]
        refine Or.inr ⟨by omega, ahead, behind ++ later, by simp [hlater, hp, hqueue], ?_⟩
        rw [hphase, hp]
        rfl
    | telegram | sip =>
      refine Or.inr ⟨by simp [Phase.due], ahead, behind ++ later, by simp [hlater, hp, hqueue], ?_⟩
      simp [hphase, hp, Phase.next, Phase.due]

theorem Queued.mem (hq : n.Queued i wait) : i ∈ n.gateway.deps.internalEvents := by
  obtain ⟨ahead, behind, hqueue, -⟩ := hq
  simp [hqueue]

/-- An error that need not wait is taken by the next poll. -/
theorem Queued.take (hq : n.Queued i 0) :
    n.take = some (.internalError i, { n with gateway := n.gateway.popError }) := by
  obtain ⟨ahead, behind, hqueue, hwait⟩ := hq
  have hlen : ahead.length = 0 := by omega
  obtain rfl := List.length_eq_zero_iff.1 hlen
  cases hp : n.phase with
  | internal => simp [Node.take, hp, hqueue]
  | telegram | sip => simp [hp, Phase.due] at hwait

/-- The poll that takes an error ends its bridge. -/
theorem Queued.poll (hq : n.Queued i 0) (hg : n.gateway.Wired) (hn : n.gateway.Numbered)
    (r : Replies) : (∃ n', Step settings n (.poll r) n') ∧
      ∀ n', Step settings n (.poll r) n' → Gateway.Fails r i n.gateway.popError n'.gateway := by
  have hpop : Gateway.Step settings n.gateway .pop n.gateway.popError := .pop
  obtain ⟨g, hproc, hfails⟩ : ∃ g, n.gateway.popError.processEvent settings r (.internalError i) =
      .ok g ∧ Gateway.Fails r i n.gateway.popError g :=
    Gateway.exists_fails (hg.step hpop) (hn.step hpop) r i
  refine ⟨⟨_, .handle hq.take hproc⟩, fun n' h => ?_⟩
  cases h with
  | idle empty => simp [hq.take] at empty
  | handle taken hg =>
    obtain ⟨rfl, rfl⟩ := Prod.mk.inj (Option.some.inj (hq.take.symm.trans taken))
    obtain rfl := Except.ok.inj (hproc.symm.trans hg)
    exact hfails

/-- An error that was recorded waits for the ones before it and for the rest of the tick. -/
theorem queued_of_failed {c : CtxId} {prm : Sip.CallOpParam} {obs : List Obs}
    (hg : n.gateway.Wired) (h : Step settings n m n')
    (htrace : n'.gateway.deps.trace = n.gateway.deps.trace ++ obs) (hfailed : .failed c prm ∈ obs) :
    n'.phase ≠ .telegram ∧
      n'.Queued ⟨c, prm⟩ (3 * n.gateway.deps.internalEvents.length + n'.phase.due) := by
  have hsame : n'.gateway.deps.trace ≠ n.gateway.deps.trace := by
    intro hsame
    obtain rfl : obs = [] := by simpa [hsame] using htrace
    simp at hfailed
  cases h with
  | update | incoming | callState | callMediaState | idle => exact absurd rfl hsame
  | @handle n₁ r e g taken hproc =>
    obtain ⟨x, xs, hp, hqueue, rfl, rfl⟩ | ⟨u, us, hp, hqueue, rfl, rfl⟩ | ⟨s, ss, hp, hqueue, rfl, rfl⟩ :=
      take_cases taken
    · have hpop : Gateway.Step settings n.gateway .pop n.gateway.popError := .pop
      exact absurd rfl ((Gateway.queued_of_failed (hg.step hpop) hproc htrace hfailed).2 x)
    · obtain ⟨herrors, -⟩ := Gateway.queued_of_failed hg hproc htrace hfailed
      exact ⟨by simp [turn, hp, Phase.next], _, [], herrors, rfl⟩
    · obtain ⟨herrors, -⟩ := Gateway.queued_of_failed hg hproc htrace hfailed
      exact ⟨by simp [turn, hp, Phase.next], _, [], herrors, rfl⟩

/-- What becomes of the error `i`, which had to wait for `wait` polls, after `done` polls. -/
structure Stops (settings : Settings) (i : InternalError) (wait done : ℕ) (n : Node) : Prop where
  queued : done ≤ wait → n.Queued i (wait - done)
  ends : done = wait → ∀ r, (∃ n', Step settings n (.poll r) n') ∧
    ∀ n', Step settings n (.poll r) n' → Gateway.Fails r i n.gateway.popError n'.gateway
  ended : wait < done → n.gateway.Ended i.ctxId ∧ ∀ m n', Step settings n m n' →
    recordOf i.ctxId n'.gateway.deps.trace = recordOf i.ctxId n.gateway.deps.trace

/-- A step of the loop keeps that a context ended. -/
theorem ended_step {c : CtxId} (he : n.gateway.Ended c) (hn : n.gateway.Numbered)
    (h : Step settings n m n') : n'.gateway.Ended c ∧
      recordOf c n'.gateway.deps.trace = recordOf c n.gateway.deps.trace := by
  cases h with
  | update | incoming | callState | callMediaState | idle => exact ⟨⟨he.given, he.gone⟩, rfl⟩
  | handle taken hg =>
    obtain ⟨x, xs, -, -, rfl, rfl⟩ | ⟨u, us, -, -, rfl, rfl⟩ | ⟨s, ss, -, -, rfl, rfl⟩ :=
      take_cases taken
    · have hpop : Gateway.Step settings n.gateway .pop n.gateway.popError := .pop
      exact (he.step hn hpop).1.processEvent (hn.step hpop) hg
    · exact he.processEvent hn hg
    · exact he.processEvent hn hg

/-- An error is in the queue until its turn comes, and its bridge ends then. -/
theorem stops_of_queued (hq : n.Queued i wait)
    (hinv : ∀ ms n', Run (Step settings) n ms n' → n'.gateway.Wired ∧ n'.gateway.Numbered)
    (hrun : Run (Step settings) n ms n') : Stops settings i wait (polls ms) n' := by
  have hphases : (polls ms ≤ wait ∧ n'.Queued i (wait - polls ms)) ∨
      (wait < polls ms ∧ n'.gateway.Ended i.ctxId) := by
    induction hrun with
    | nil => exact Or.inl ⟨Nat.zero_le _, hq⟩
    | @snoc ms n₁ m n' hr hs ih =>
      obtain ⟨hg, hn⟩ := hinv _ _ hr
      have hpolls : polls (ms ++ [m]) = polls ms + if m.isPoll then 1 else 0 := by
        simp [polls, List.countP_cons]
      rw [hpolls]
      obtain ⟨hle, hqueued⟩ | ⟨hlt, hended⟩ := ih
      · obtain ⟨hm, hqueued'⟩ | ⟨hm, hzero | ⟨hpos, hqueued'⟩⟩ := hqueued.step hs
        · exact Or.inl ⟨by simpa [hm] using hle, by simpa [hm] using hqueued'⟩
        · refine Or.inr ⟨by simp only [hm, if_true]; omega, ?_⟩
          cases m with
          | poll r =>
            have hfails := ((hzero ▸ hqueued).poll hg hn r).2 n' hs
            exact hfails.ended (hn.errors i hqueued.mem)
          | update | incoming | callState | callMediaState => simp [Move.isPoll] at hm
        · refine Or.inl ⟨by simp only [hm, if_true]; omega, ?_⟩
          simpa [hm, Nat.sub_sub] using hqueued'
      · exact Or.inr ⟨by split_ifs <;> omega, (ended_step hended hn hs).1⟩
  obtain ⟨hg, hn⟩ := hinv _ _ hrun
  obtain ⟨hle, hqueued⟩ | ⟨hlt, hended⟩ := hphases
  · refine ⟨fun _ => hqueued, fun hdone => ?_, fun hlt => absurd hle (Nat.not_le_of_lt hlt)⟩
    have hzero : wait - polls ms = 0 := by omega
    exact (hzero ▸ hqueued).poll hg hn
  · refine ⟨fun hle => absurd hle (Nat.not_le_of_lt hlt), fun hdone => ?_, fun _ => ⟨hended, ?_⟩⟩
    · omega
    · exact fun m n'' hs => (ended_step hended hn hs).2

/-- In every run of the loop : an action that fails puts its error behind those in the queue.
It waits for a tick for each of them and for the rest of its own tick, which is at most the
SIP poll. The poll that takes it then ends the bridge, if it is still there, and does nothing
else; afterwards nothing happens for its context. -/
theorem stops_of_run {pid : ℕ} {cache : Cache} {now : ℤ} {c : CtxId} {prm : Sip.CallOpParam}
    {obs : List Obs} (hrun : Run (Step settings) (initial pid cache now) ms n₀)
    (hstep : Step settings n₀ m n)
    (htrace : n.gateway.deps.trace = n₀.gateway.deps.trace ++ obs) (hfailed : .failed c prm ∈ obs) :
    n.phase ≠ .telegram ∧ ∀ ms' n', Run (Step settings) n ms' n' →
      Stops settings ⟨c, prm⟩ (3 * n₀.gateway.deps.internalEvents.length + n.phase.due)
        (polls ms') n' := by
  have hinv : ∀ ms n', Run (Step settings) (initial pid cache now) ms n' →
      n'.gateway.Wired ∧ n'.gateway.Numbered := by
    intro ms n' h
    refine invariant_of_run (fun g => g.Wired ∧ g.Numbered) ?_ h
      ⟨by simp [Gateway.Wired, initial, Gateway.initial], Gateway.numbered_initial pid cache now⟩
    exact fun g l g' hg hs => ⟨hg.1.step hs, hg.2.step hs⟩
  obtain ⟨hphase, hqueued⟩ := queued_of_failed (hinv _ _ hrun).1 hstep htrace hfailed
  refine ⟨hphase, fun ms' n' hcont => stops_of_queued hqueued (fun ms₁ n₁ h₁ => ?_) hcont⟩
  exact hinv _ _ ((hrun.snoc hstep).trans h₁)

/-- A call that cannot be dialed. -/
theorem stops_of_run_refused :
    ∃ n₀ n obs, Run (Step { callbackUri := "sip:pbx" }) (initial 1 .empty 0)
        [.update (.call ⟨7, 42, false, .pending⟩), .poll (.granting 0 9)] n₀ ∧
      Step { callbackUri := "sip:pbx" } n₀ (.poll Gateway.refusedDial) n ∧
      n.gateway.deps.trace = n₀.gateway.deps.trace ++ obs ∧
      .failed 1 (internalServerError "PJSIP_EINVALIDURI") ∈ obs ∧
      ∀ ms' n', Run (Step { callbackUri := "sip:pbx" }) n ms' n' →
        Stops { callbackUri := "sip:pbx" } ⟨1, internalServerError "PJSIP_EINVALIDURI"⟩
          (3 * n₀.gateway.deps.internalEvents.length + n.phase.due) (polls ms') n' := by
  obtain ⟨n₀, n, obs, hrun, hstep, htrace, hfailed⟩ : ∃ n₀ n obs,
      Run (Step { callbackUri := "sip:pbx" }) (initial 1 .empty 0)
        [.update (.call ⟨7, 42, false, .pending⟩), .poll (.granting 0 9)] n₀ ∧
      Step { callbackUri := "sip:pbx" } n₀ (.poll Gateway.refusedDial) n ∧
      n.gateway.deps.trace = n₀.gateway.deps.trace ++ obs ∧
      .failed 1 (internalServerError "PJSIP_EINVALIDURI") ∈ obs :=
    ⟨_, _, _, run_of_execLoop rfl, step_of_next rfl, rfl, List.mem_of_getLast? rfl⟩
  exact ⟨n₀, n, obs, hrun, hstep, htrace, hfailed, (stops_of_run hrun hstep htrace hfailed).2⟩

/-! ## What a bridge still does -/

/-- The actions that advance a call. -/
def advances : Action → Bool
  | .dialTg => true
  | .answerTg => true
  | .createTgVoip => true
  | .answerSip => true
  | .bridgeAudio => true
  | _ => false

/-- No action that advances the call is run after an error was queued for it. -/
def StopsAtOnce (obs : List Obs) : Prop :=
  ∀ c prm a e, advances a = true → ¬[Obs.failed c prm, .action c a e].Sublist obs

/-- Replies with which a call cannot be answered. -/
def refusedAnswer : Replies :=
  { Replies.granting 0 9 with
    pj := { (Replies.granting 0 9).pj with answer := .error "PJSIP_ESESSIONSTATE" } }

/-- Answering the caller fails in the poll of an update, and the media of the call, which are
next in the same tick, are still bridged. -/
theorem bridged_after_failure :
    ∃ n, Run (Step { callbackUri := "sip:pbx" }) (initial 1 .empty 0)
        [.incoming 3 "77", .poll (.granting 0 9), .poll (.granting 0 9), .poll (.granting 0 9),
          .callState 3 .early, .poll (.granting 0 9), .poll (.granting 0 9), .poll (.granting 0 9),
          .update (.call ⟨9, 77, true, .ready "key" []⟩), .callMediaState 3 true,
          .poll (.granting 0 9), .poll refusedAnswer, .poll (.granting 0 9)] n ∧
      ¬StopsAtOnce n.gateway.deps.trace :=
  ⟨_, run_of_execLoop rfl, fun h => h 1 (internalServerError "PJSIP_ESESSIONSTATE") .bridgeAudio
    (.callMediaStateUpdate ⟨3, true, 0⟩) rfl (by decide)⟩

end Node

end TelegramProvider
