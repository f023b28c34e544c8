import TelegramProvider.ErrorQueue
import TelegramProvider.Passing
import TelegramProvider.TgClient

/-!
# Nothing is lost on the way

Three queues lead into the main loop : TDLib's thread fills one, PJSIP's threads another, and the
actions themselves the third. What was queued is handed to `process_event` once and in its order,
whatever the threads do in between (`Node.queue_of_step`), and a poll of a queue comes every third
time, so nothing waits longer than what is before it takes (`Node.served_of_run`).

`Chain` puts the client of TDLib before the loop. `delivered_of_run` : the calls and the messages
TDLib reports reach `process_event` in the order of the reports, each once.
-/

set_option autoImplicit false

namespace TelegramProvider

open Runs

/-! ## What is put into a queue -/

/-- The internal error an entry has queued. -/
def Obs.failure : Obs → Option InternalError
  | .failed c prm => some ⟨c, prm⟩
  | _ => none

section failures

variable {settings : Settings} {r : Replies} {e : Event} {ctx ctx' : Context} {d d' : Deps}
  {s s' : State} {c : CtxId} {errs : List Sip.CallOpParam}

theorem filterMap_failures : (failures c errs).filterMap Obs.failure = errs.map (⟨c, ·⟩) := by
  induction errs with
  | nil => rfl
  | cons prm errs ih => simpa [failures, Obs.failure] using ih

theorem filterMap_releases {sip : Sip.Client} :
    (releases r sip ctx).filterMap Obs.failure = [] := by
  refine List.filterMap_eq_nil_iff.2 fun o ho => ?_
  obtain rfl | rfl | ⟨error, rfl⟩ | ⟨-, rfl⟩ := mem_releases ho <;> rfl

theorem filterMap_queries {qs : List Td.Query} :
    (qs.map (Obs.query c)).filterMap Obs.failure = [] := by
  refine List.filterMap_eq_nil_iff.2 fun o ho => ?_
  obtain ⟨q, -, rfl⟩ := List.mem_map.1 ho
  rfl

theorem filterMap_logs {logs : List String} :
    (logs.map (Obs.logged c)).filterMap Obs.failure = [] := by
  refine List.filterMap_eq_nil_iff.2 fun o ho => ?_
  obtain ⟨log, -, rfl⟩ := List.mem_map.1 ho
  rfl

/-- The errors an event queues are on record, in their order. -/
theorem Outcome.failures (h : Outcome settings r ctx ctx' d d' s e s') : ∃ obs,
    d'.trace = d.trace ++ obs ∧
      d'.internalEvents = d.internalEvents ++ obs.filterMap Obs.failure := by
  cases h with
  | declined _ _ _ changed | dropped _ changed | ended _ _ changed =>
    refine ⟨_, changed.trace, ?_⟩
    rw [changed.errors, List.filterMap_append, filterMap_releases]
    simp [Obs.failure]
  | accepted _ _ _ changed | joinedTg _ _ _ changed | answeredSip _ _ _ changed
  | joinedSip _ _ _ _ changed | answeredTg _ _ _ changed =>
    refine ⟨_, changed.trace, ?_⟩
    rw [changed.errors, List.filterMap_append, filterMap_failures]
    simp [Obs.failure]
  | dialedTg _ _ _ _ _ changed =>
    refine ⟨_, changed.trace, ?_⟩
    rw [changed.errors, List.filterMap_append, List.filterMap_append, filterMap_queries]
    simp [Obs.failure]
  | dialTgFailed _ _ _ _ changed =>
    refine ⟨_, changed.trace, ?_⟩
    rw [changed.errors, List.filterMap_append, List.filterMap_append, List.filterMap_append,
      filterMap_queries, filterMap_queries]
    simp [Obs.failure]
  | dtmf _ _ _ _ _ changed =>
    refine ⟨_, changed.trace, ?_⟩
    rw [changed.errors, List.filterMap_append, filterMap_logs]
    simp [Obs.failure]
  | idle _ _ changed | dialed _ _ _ _ _ _ changed | dialRefused _ _ _ _ _ _ changed
  | rejected _ _ changed =>
    refine ⟨_, changed.trace, ?_⟩
    rw [changed.errors]
    simp [Obs.failure, List.filterMap_cons]

theorem Gateway.failures_of_processEvent {g g' : Gateway}
    (h : g.processEvent settings r e = .ok g') : ∃ obs,
    g'.deps.trace = g.deps.trace ++ obs ∧
      g'.deps.internalEvents = g.deps.internalEvents ++ obs.filterMap Obs.failure := by
  obtain ⟨rfl, -⟩ | ⟨pre, b, post, k, b', d', hslot, hproc, rfl⟩ := processEvent_cases h
  · exact ⟨[], by simp, by simp⟩
  · exact (outcome_of_process hproc).failures

end failures

namespace Node

/-- A queue, as the events `process_event` gets from it. -/
def queue : Phase → Node → List Event
  | .internal, n => n.gateway.deps.internalEvents.map .internalError
  | .telegram, n => n.tgEvents.map Td.Update.event
  | .sip, n => n.sipEvents.map Sip.Event.event

/-- What TDLib's thread puts into its queue. -/
def delivered : Move → List Event
  | .update u => [u.event]
  | _ => []

/-- What PJSIP's threads put into theirs. A call reports through the object that is bound. -/
def emitted (n : Node) : Move → List Event
  | .incoming id localUser => [.incomingCall (n.gateway.deps.sip.onIncomingCall id localUser).2]
  | .callState id state =>
    (n.gateway.deps.sip.live id).toList.map fun call => .callStateUpdate ⟨id, state, call⟩
  | .callMediaState id hasMedia =>
    (n.gateway.deps.sip.live id).toList.map fun call => .callMediaStateUpdate ⟨id, hasMedia, call⟩
  | _ => []

/-- What the actions put into theirs : the errors that came on record. -/
def failed (n n' : Node) : List Event :=
  ((n'.gateway.deps.trace.drop n.gateway.deps.trace.length).filterMap Obs.failure).map
    .internalError

/-- What a step puts into a queue. -/
def put (q : Phase) (n : Node) (m : Move) (n' : Node) : List Event :=
  match q with
  | .internal => n.failed n'
  | .telegram => delivered m
  | .sip => n.emitted m

/-- What a step takes out of a queue and hands to `process_event`. -/
def handed (q : Phase) (n : Node) (m : Move) : List Event :=
  if m.isPoll = true ∧ n.phase = q then (n.take.map Prod.fst).toList else []

variable {settings : Settings} {n n₀ n' : Node} {m : Move} {ms : List Move} {q : Phase}
  {ins outs : List Event}

/-- The polls that are not for a queue leave it to what is put into it. -/
theorem handed_of_not_poll (h : m.isPoll = false) : n.handed q m = [] := by
  simp [handed, h]

/-- A poll gets nothing only from an empty queue. -/
theorem queue_of_take_none (h : n.take = none) (hq : n.phase = q) : n.queue q = [] := by
  subst hq
  unfold take at h
  cases hphase : n.phase with
  | internal =>
    cases hqueue : n.gateway.deps.internalEvents with
    | nil => simp [queue, hqueue]
    | cons i is => simp [hphase, hqueue] at h
  | telegram =>
    cases hqueue : n.tgEvents with
    | nil => simp [queue, hqueue]
    | cons u us => simp [hphase, hqueue] at h
  | sip =>
    cases hqueue : n.sipEvents with
    | nil => simp [queue, hqueue]
    | cons s ss => simp [hphase, hqueue] at h

/-- A poll takes the first of its queue, and records nothing by that. -/
theorem queue_of_take {n₁ : Node} {e : Event} (h : n.take = some (e, n₁)) :
    n₁.gateway.deps.trace = n.gateway.deps.trace ∧ ∀ q r,
      n.queue q = n.handed q (.poll r) ++ n₁.queue q := by
  obtain ⟨i, is, hp, hqueue, rfl, rfl⟩ | ⟨u, us, hp, hqueue, rfl, rfl⟩ |
    ⟨s, ss, hp, hqueue, rfl, rfl⟩ := take_cases h <;> refine ⟨rfl, fun q r => ?_⟩ <;> cases q <;>
    simp [handed, h, hp, queue, hqueue, Move.isPoll, Gateway.popError]

/-- The errors an event records are put behind those that are left. -/
theorem failed_of_processEvent {n₁ : Node} {e : Event} {r : Replies} {g : Gateway}
    (htrace : n₁.gateway.deps.trace = n.gateway.deps.trace)
    (h : n₁.gateway.processEvent settings r e = .ok g) :
    queue .internal { n₁ with gateway := g }.turn =
      n₁.queue .internal ++ n.failed { n₁ with gateway := g }.turn := by
  obtain ⟨obs, hobs, herrors⟩ := Gateway.failures_of_processEvent h
  have hnew : g.deps.trace.drop n.gateway.deps.trace.length = obs := by
    rw [hobs, htrace, List.drop_left]
  simp only [failed, turn, queue, hnew, herrors, List.map_append]

/-- A queue is added to at its end, and taken from at its front. -/
theorem queue_of_step (h : Step settings n m n') (q : Phase) :
    n.queue q ++ n.put q m n' = n.handed q m ++ n'.queue q := by
  cases h with
  | update =>
    rw [handed_of_not_poll rfl]
    cases q
    · simp [put, failed, queue]
    · simp [put, delivered, queue]
    · simp [put, emitted, queue]
  | incoming =>
    rw [handed_of_not_poll rfl]
    cases q
    · simp [put, failed, queue, emit, Gateway.registerIncoming]
    · simp [put, delivered, queue, emit]
    · simp [put, emitted, queue, emit, Sip.Event.event]
  | callState bound =>
    rw [handed_of_not_poll rfl]
    cases q
    · simp [put, failed, queue, emit]
    · simp [put, delivered, queue, emit]
    · simp [put, emitted, queue, emit, bound, Sip.Event.event]
  | callMediaState bound =>
    rw [handed_of_not_poll rfl]
    cases q
    · simp [put, failed, queue, emit]
    · simp [put, delivered, queue, emit]
    · simp [put, emitted, queue, emit, bound, Sip.Event.event]
  | @idle r empty =>
    have hnone : n.handed q (.poll r) = [] := by simp [handed, empty]
    rw [hnone]
    cases q <;> simp [put, failed, delivered, emitted, queue, turn]
  | @handle n₁ r e g taken hg =>
    obtain ⟨htrace, htake⟩ := queue_of_take taken
    rw [htake q r, List.append_assoc]
    congr 1
    cases q with
    | internal => exact (failed_of_processEvent htrace hg).symm
    | telegram | sip => simp [put, delivered, emitted, queue, turn]

/-! ## Turns -/

/-- The polls before the next one of a queue. -/
def waits (q : Phase) (n : Node) : ℕ :=
  match q, n.phase with
  | .internal, .internal | .telegram, .telegram | .sip, .sip => 0
  | .internal, .sip | .telegram, .internal | .sip, .telegram => 1
  | .internal, .telegram | .telegram, .sip | .sip, .internal => 2

/-- A poll is the turn of its queue, and brings the others nearer. -/
theorem turns_of_step (h : Step settings n m n') (q : Phase) :
    Passing.Turns Move.isPoll (waits q) 3 (queue q) (handed q) n m n' := by
  have hnext : ∀ n₁ : Node, n₁.phase = n.phase →
      (n.phase = q ∧ n.waits q = 0 ∧ n₁.turn.waits q + 1 = 3) ∨
        (n.phase ≠ q ∧ n₁.turn.waits q + 1 = n.waits q) := by
    intro n₁ hn₁
    cases q <;> cases hp : n.phase <;> simp [waits, turn, hn₁, hp, Phase.next]
  cases h with
  | update | incoming | callState | callMediaState => exact .free rfl rfl
  | idle empty =>
    rcases hnext n rfl with ⟨hq, hdue, hdue'⟩ | ⟨-, hdue⟩
    · exact .turn rfl hdue hdue' fun _ => queue_of_take_none empty hq
    · exact .waits rfl hdue
  | @handle n₁ r e g taken hg =>
    have hphase : n₁.phase = n.phase := by
      obtain ⟨i, is, hp, hqueue, rfl, rfl⟩ | ⟨u, us, hp, hqueue, rfl, rfl⟩ |
        ⟨s, ss, hp, hqueue, rfl, rfl⟩ := take_cases taken <;> rfl
    rcases hnext { n₁ with gateway := g } hphase with ⟨hq, hdue, hdue'⟩ | ⟨-, hdue⟩
    · refine .turn rfl hdue hdue' fun hnone => ?_
      simp [handed, Move.isPoll, hq, taken] at hnone
    · exact .waits rfl hdue

/-- In every run, and for each of the three queues : what was in it and what was put into it is
what its polls have handed to `process_event` and what is in it, in the same order. The event with
`k` others before it was handed over after `3 * k` polls and those before the next one of its
queue. -/
theorem served_of_run (hrun : Run (Step settings) n₀ ms n) (q : Phase) :
    ∃ ins outs, Passing (Step settings) (put q) (handed q) n₀ ms ins outs n ∧
      n₀.queue q ++ ins = outs ++ n.queue q ∧
      ∀ k e, (n₀.queue q)[k]? = some e → 3 * k + n₀.waits q < polls ms → outs[k]? = some e := by
  obtain ⟨ins, outs, hpass⟩ := hrun.passing (put q) (handed q)
  have hqueue : ∀ n m n', Step settings n m n' →
      n.queue q ++ n.put q m n' = n.handed q m ++ n'.queue q := fun _ _ _ hs => queue_of_step hs q
  refine ⟨ins, outs, hpass, hpass.conserved (queue q) hqueue, fun k e hk hpolls => ?_⟩
  exact hpass.taken hqueue (fun _ _ _ hs => turns_of_step hs q) hk hpolls

/-- Two calls of one user wait, and five polls are enough for the second. -/
theorem served_of_run_two : ∃ n₀ n ins outs,
    Run (Step { callbackUri := "sip:pbx" }) n₀ (List.replicate 5 (.poll (.granting 0 9))) n ∧
      Passing (Step { callbackUri := "sip:pbx" }) (put .telegram) (handed .telegram) n₀
        (List.replicate 5 (.poll (.granting 0 9))) ins outs n ∧
      outs[1]? = some (Td.Update.event (.call ⟨8, 42, false, .pending⟩)) := by
  obtain ⟨n₀, n, hk, hrun⟩ : ∃ n₀ n,
      (n₀.queue .telegram)[1]? = some (Td.Update.event (.call ⟨8, 42, false, .pending⟩)) ∧
      n₀.waits .telegram = 1 ∧
      Run (Step { callbackUri := "sip:pbx" }) n₀ (List.replicate 5 (.poll (.granting 0 9))) n :=
    ⟨{ initial 1 .empty 0 with
        tgEvents := [.call ⟨7, 42, false, .pending⟩, .call ⟨8, 42, false, .pending⟩] }, _, rfl, rfl,
      Run.of_exec (fun _ _ _ => step_of_next) rfl⟩
  obtain ⟨ins, outs, hpass, -, htaken⟩ := served_of_run hrun.2 .telegram
  exact ⟨n₀, n, ins, outs, hrun.2, hpass, htaken 1 _ hk (by rw [hrun.1]; decide)⟩

end Node

/-! ## The client before the loop -/

namespace TgClient

variable {φ ω : Type} {s s' : TgClient φ ω} {l : Label φ ω}

/-- The calls and messages TDLib has reported, as the events they are for `process_event`. -/
def reported (log : List (Obs φ ω)) : List TelegramProvider.Event :=
  log.filterMap fun
    | .updated (.update u) => some u.event
    | _ => none

/-- A step queues nothing and no report is on record for it, or it queues the one that is. -/
theorem events_of_step (h : Step s l s') :
    (s'.events = s.events ∧ reported s'.log = reported s.log) ∨
      ∃ u, s'.events = s.events ++ [u] ∧ reported s'.log = reported s.log ++ [u.event] := by
  cases h with
  | send | sendAsync | sendNext => exact Or.inl ⟨rfl, by simp [reported, sendQuery, record]⟩
  | sendAsyncInHandler | timeout | updated | finish => exact Or.inl ⟨rfl, rfl⟩
  | receive id object =>
    unfold processResponse
    by_cases hid : id = 0
    · rw [if_pos hid]
      cases object with
      | update u => exact Or.inr ⟨u, rfl, by simp [reported, processUpdate, record]⟩
      | updateAuthorizationState state =>
        refine Or.inl ?_
        cases hstate : onAuthorizationStateUpdate (φ := φ) state s.resources <;>
          simp [processUpdate, record, hstate, reported]
      | _ => exact Or.inl ⟨rfl, by simp [reported, processUpdate, record]⟩
    · rw [if_neg hid]
      refine Or.inl ?_
      cases hhandler : s.exchange.handlers id with
      | none => exact ⟨rfl, by simp [reported, record]⟩
      | some handler => cases handler <;> simp [call, record, reported]

end TgClient

namespace Chain

variable {φ ω : Type}

/-- TDLib's thread and the rest of the process. What the thread queues is in the queue of the
loop. -/
inductive Step (settings : Settings) :
    TgClient φ ω × Node → TgClient.Label φ ω ⊕ Move → TgClient φ ω × Node → Prop
  | quiet {s s' : TgClient φ ω} {n : Node} {l : TgClient.Label φ ω} (client : TgClient.Step s l s')
      (quiet : s'.events = s.events) : Step settings (s, n) (.inl l) (s', n)
  | queued {s s' : TgClient φ ω} {n n' : Node} {l : TgClient.Label φ ω} {u : Td.Update}
      (client : TgClient.Step s l s') (queued : s'.events = s.events ++ [u])
      (put : Node.Step settings n (.update u) n') : Step settings (s, n) (.inl l) (s', n')
  | loop {s : TgClient φ ω} {n n' : Node} {m : Move} (node : Node.Step settings n m n')
      (own : ∀ u, m ≠ .update u) : Step settings (s, n) (.inr m) (s, n')

/-- What the thread of TDLib puts into the queue. -/
def put (p : TgClient φ ω × Node) (_ : TgClient.Label φ ω ⊕ Move) (p' : TgClient φ ω × Node) :
    List Event :=
  (p'.1.events.drop p.1.events.length).map Td.Update.event

/-- What the polls of the updates hand to `process_event`. -/
def handed (p : TgClient φ ω × Node) : TgClient.Label φ ω ⊕ Move → List Event
  | .inl _ => []
  | .inr m => p.2.handed .telegram m

variable {settings : Settings} {s s' : TgClient φ ω} {n : Node}

/-- Nothing keeps TDLib's thread from its next step. -/
theorem exists_step {l : TgClient.Label φ ω} (h : TgClient.Step s l s') (n : Node) :
    ∃ n', Step settings (s, n) (.inl l) (s', n') := by
  obtain ⟨hquiet, -⟩ | ⟨u, hqueued, -⟩ := TgClient.events_of_step h
  · exact ⟨n, .quiet h hquiet⟩
  · exact ⟨_, .queued h hqueued .update⟩

variable {p p' : TgClient φ ω × Node} {l : TgClient.Label φ ω ⊕ Move}

theorem queue_of_step (h : Step settings p l p') :
    p.2.queue .telegram ++ put p l p' = handed p l ++ p'.2.queue .telegram := by
  cases h with
  | quiet client quiet => simp [put, handed, quiet]
  | @queued s s' n n' _ u client queued hput =>
    have hqueue := Node.queue_of_step hput .telegram
    rw [Node.handed_of_not_poll rfl] at hqueue
    simpa [put, handed, queued, Node.put, Node.delivered] using hqueue
  | @loop _ n n' m node own =>
    have hnone : Node.put .telegram n m n' = [] := by
      cases m with
      | update u => exact absurd rfl (own u)
      | _ => rfl
    simpa [put, handed, hnone] using Node.queue_of_step node .telegram

theorem reported_of_step (h : Step settings p l p') :
    TgClient.reported p'.1.log = TgClient.reported p.1.log ++ put p l p' := by
  cases h with
  | quiet client quiet =>
    obtain ⟨-, hlog⟩ | ⟨u, hqueued, -⟩ := TgClient.events_of_step client
    · simp [put, quiet, hlog]
    · simp [quiet] at hqueued
  | @queued s s' n n' _ u client queued hput =>
    obtain ⟨hquiet, -⟩ | ⟨v, hqueued, hlog⟩ := TgClient.events_of_step client
    · simp [hquiet] at queued
    · simp [put, hqueued, hlog]
  | loop node own => simp [put]

/-- In every run of TDLib's thread, PJSIP's threads and the loop, from the start of the process :
the calls and messages TDLib has reported are those that were handed to `process_event` and those
that wait, each once and in the order of the reports. -/
theorem delivered_of_run {ls : List (TgClient.Label φ ω ⊕ Move)} {client : Td.Settings} {pid : ℕ}
    {cache : Cache} {now : ℤ}
    (hrun : Run (Step settings) (TgClient.start client, Node.initial pid cache now) ls (s, n)) :
    ∃ outs, Passing (Step settings) put handed (TgClient.start client, Node.initial pid cache now)
        ls (TgClient.reported s.log) outs (s, n) ∧
      TgClient.reported s.log = outs ++ n.queue .telegram := by
  obtain ⟨ins, outs, hpass⟩ := hrun.passing put handed
  have hins : TgClient.reported s.log = ins := by
    have hgrown := hpass.recorded (fun p => TgClient.reported p.1.log)
      fun _ _ _ hs => reported_of_step hs
    simpa [TgClient.start, TgClient.reported] using hgrown
  have hout := hpass.conserved (fun p => p.2.queue .telegram) fun _ _ _ hs => queue_of_step hs
  refine ⟨outs, hins ▸ hpass, ?_⟩
  rw [hins]
  simpa [Node.queue, Node.initial] using hout

/-- TDLib reports a call, and the second poll hands it over. -/
theorem delivered_of_run_call : ∃ (s : TgClient String String) (n : Node) (outs : List Event),
    Run (Step { callbackUri := "sip:pbx" }) (TgClient.start .direct, Node.initial 1 .empty 0)
        [.inl (.receive 0 (.update (.call ⟨7, 42, false, .pending⟩))),
          .inr (.poll (.granting 0 9)), .inr (.poll (.granting 0 9))] (s, n) ∧
      TgClient.reported s.log = outs ++ n.queue .telegram ∧
      outs = [Td.Update.event (.call ⟨7, 42, false, .pending⟩)] := by
  have hreceive : TgClient.Step (TgClient.start .direct : TgClient String String)
      (.receive 0 (.update (.call ⟨7, 42, false, .pending⟩))) _ :=
    .receive _ 0 _ rfl rfl (Or.inl rfl)
  obtain ⟨s, n, hlog, hqueue, hrun⟩ : ∃ (s : TgClient String String) (n : Node),
      TgClient.reported s.log = [Td.Update.event (.call ⟨7, 42, false, .pending⟩)] ∧
      n.queue .telegram = [] ∧
      Run (Step { callbackUri := "sip:pbx" }) (TgClient.start .direct, Node.initial 1 .empty 0)
        [.inl (.receive 0 (.update (.call ⟨7, 42, false, .pending⟩))),
          .inr (.poll (.granting 0 9)), .inr (.poll (.granting 0 9))] (s, n) :=
    ⟨_, _, rfl, rfl, ((Run.one (.queued hreceive rfl .update)).snoc
      (.loop (Node.step_of_next rfl) nofun)).snoc (.loop (Node.step_of_next rfl) nofun)⟩
  obtain ⟨outs, -, hout⟩ := delivered_of_run hrun
  refine ⟨s, n, outs, hrun, hout, ?_⟩
  rw [hlog, hqueue, List.append_nil] at hout
  exact hout.symm

end Chain

end TelegramProvider
