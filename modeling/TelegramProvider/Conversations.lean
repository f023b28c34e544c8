import TelegramProvider.ErrorQueue
import TelegramProvider.Mealy

/-!
# Conversations

The gateway works for all calls at once : it looks a bridge up, shares one call table, one cache
and one queue of errors between them, and removes bridges from the vector. The transition tables
speak of one call. `alone` is the tables by themselves, a machine whose outputs are the actions.

`conversations_of_run` : in every run of the gateway, what was handed to the machine of a context
and what was run for it is a run of `alone`, and the bridge is where that run ends. So the calls do
not disturb each other, whatever the order of their events. `scripted_of_run` : the actions of a
context are a script, broken off anywhere, and an end, if there is one, is the last of it.
-/

set_option autoImplicit false

namespace TelegramProvider

open Runs Mealy

/-! ## The tables alone -/

/-- The tables, on one event : the new state, and the actions run for it. -/
def alone (settings : Settings) (s : State) (e : Event) : State × List (Action × Event) :=
  match transition settings s e with
  | none => (s, [])
  | some (s', as) => (s', (as ++ onEntry s').map (·, e))

/-- The event an entry hands to a context. -/
def Obs.eventFor (c : CtxId) : Obs → Option Event
  | .event c' e => if c' = c then some e else none
  | _ => none

/-- The action an entry runs for a context, with its event. -/
def Obs.actionFor (c : CtxId) : Obs → Option (Action × Event)
  | .action c' a e => if c' = c then some (a, e) else none
  | _ => none

/-- The events a context was handed. -/
def eventsOf (c : CtxId) (trace : List Obs) : List Event :=
  trace.filterMap (Obs.eventFor c)

/-- The actions run for a context. -/
def actionsOf (c : CtxId) (trace : List Obs) : List (Action × Event) :=
  trace.filterMap (Obs.actionFor c)

/-- Entries of neither kind. -/
def Silent (obs : List Obs) : Prop :=
  ∀ o ∈ obs, ∀ c, o.eventFor c = none ∧ o.actionFor c = none

section entries

variable {c : CtxId} {obs obs' : List Obs} {settings : Settings} {r : Replies} {ctx : Context}

@[simp] theorem eventsOf_append : eventsOf c (obs ++ obs') = eventsOf c obs ++ eventsOf c obs' :=
  List.filterMap_append ..

@[simp] theorem actionsOf_append : actionsOf c (obs ++ obs') = actionsOf c obs ++ actionsOf c obs' :=
  List.filterMap_append ..

@[simp] theorem eventsOf_cons {o : Obs} :
    eventsOf c (o :: obs) = (o.eventFor c).toList ++ eventsOf c obs := by
  cases ho : o.eventFor c <;> simp [eventsOf, ho]

@[simp] theorem actionsOf_cons {o : Obs} :
    actionsOf c (o :: obs) = (o.actionFor c).toList ++ actionsOf c obs := by
  cases ho : o.actionFor c <;> simp [actionsOf, ho]

@[simp] theorem eventsOf_nil : eventsOf c [] = [] :=
  rfl

@[simp] theorem actionsOf_nil : actionsOf c [] = [] :=
  rfl

theorem silent_nil : Silent [] := by
  simp [Silent]

theorem Silent.append (h : Silent obs) (h' : Silent obs') : Silent (obs ++ obs') := by
  intro o ho
  exact (List.mem_append.1 ho).elim (h o) (h' o)

theorem Silent.eventsOf (h : Silent obs) : TelegramProvider.eventsOf c obs = [] :=
  List.filterMap_eq_nil_iff.2 fun o ho => (h o ho c).1

theorem Silent.actionsOf (h : Silent obs) : TelegramProvider.actionsOf c obs = [] :=
  List.filterMap_eq_nil_iff.2 fun o ho => (h o ho c).2

theorem silent_releases {sip : Sip.Client} : Silent (releases r sip ctx) := by
  intro o ho c
  obtain rfl | rfl | ⟨error, rfl⟩ | ⟨-, rfl⟩ := mem_releases ho <;> exact ⟨rfl, rfl⟩

theorem silent_failures {errs : List Sip.CallOpParam} : Silent (failures c errs) := by
  intro o ho c
  obtain ⟨prm, -, rfl⟩ := List.mem_map.1 ho
  exact ⟨rfl, rfl⟩

theorem silent_queries {qs : List Td.Query} : Silent (qs.map (.query c)) := by
  intro o ho c
  obtain ⟨q, -, rfl⟩ := List.mem_map.1 ho
  exact ⟨rfl, rfl⟩

theorem silent_logs {logs : List String} : Silent (logs.map (.logged c)) := by
  intro o ho c
  obtain ⟨error, -, rfl⟩ := List.mem_map.1 ho
  exact ⟨rfl, rfl⟩

/-- Entries of other contexts. -/
theorem eventsOf_of_ne (h : ∀ o ∈ obs, o.ctx ≠ c) : eventsOf c obs = [] := by
  refine List.filterMap_eq_nil_iff.2 fun o ho => ?_
  cases o with
  | event c₀ e => exact if_neg (h _ ho)
  | _ => rfl

theorem actionsOf_of_ne (h : ∀ o ∈ obs, o.ctx ≠ c) : actionsOf c obs = [] := by
  refine List.filterMap_eq_nil_iff.2 fun o ho => ?_
  cases o with
  | action c₀ a e => exact if_neg (h _ ho)
  | _ => rfl

end entries

/-! ## One event -/

section outcome

variable {settings : Settings} {r : Replies} {e : Event} {ctx ctx' : Context} {d d' : Deps}
  {s s' : State}

theorem alone_of_moves {as : List Action} (h : Moves settings s e s' as) :
    alone settings s e = (s', (as ++ onEntry s').map (·, e)) := by
  rw [alone, transition_eq_some_iff.2 h]

theorem Changed.append_nil {c : CtxId} {sip : Sip.Client} {errs : List Sip.CallOpParam}
    {obs : List Obs} (h : Changed c d d' sip errs obs) : Changed c d d' sip errs (obs ++ []) := by
  rwa [List.append_nil]

/-- The entries of an event : the event, the actions of its row in order, and entries that are
neither. -/
theorem alone_of_changed {as : List Action} {head tail : List Obs} {sip : Sip.Client}
    {errs : List Sip.CallOpParam} (hmoves : Moves settings s e s' as)
    (changed : Changed ctx.id d d' sip errs (head ++ tail)) (htail : Silent tail)
    (hhead : eventsOf ctx.id head = [e] ∧ actionsOf ctx.id head = (as ++ onEntry s').map (·, e)) :
    ∃ obs, d'.trace = d.trace ++ obs ∧ eventsOf ctx.id obs = [e] ∧
      alone settings s e = (s', actionsOf ctx.id obs) := by
  refine ⟨_, changed.trace, ?_, ?_⟩
  · rw [eventsOf_append, htail.eventsOf, hhead.1, List.append_nil]
  · rw [actionsOf_append, htail.actionsOf, hhead.2, List.append_nil, alone_of_moves hmoves]

/-- A bridge that handles an event records what the tables do alone. -/
theorem Outcome.alone (h : Outcome settings r ctx ctx' d d' s e s') : ∃ obs,
    d'.trace = d.trace ++ obs ∧ eventsOf ctx.id obs = [e] ∧
      TelegramProvider.alone settings s e = (s', actionsOf ctx.id obs) := by
  cases h with
  | idle none hctx changed =>
    refine ⟨_, changed.trace, by simp [Obs.eventFor], ?_⟩
    simp [TelegramProvider.alone, none, Obs.actionFor]
  | dialed hin hpending huri getUser made hctx changed =>
    exact alone_of_changed (.dial hin hpending huri) changed.append_nil silent_nil
      (by simp [Obs.eventFor, Obs.actionFor, onEntry])
  | dialRefused hin hpending huri getUser refused hctx changed =>
    exact alone_of_changed (.dial hin hpending huri) changed.append_nil silent_nil
      (by simp [Obs.eventFor, Obs.actionFor, onEntry])
  | accepted parsed cause hctx changed =>
    exact alone_of_changed .accept changed silent_failures
      (by simp [Obs.eventFor, Obs.actionFor, onEntry])
  | rejected parsed hctx changed =>
    exact alone_of_changed .accept changed.append_nil silent_nil
      (by simp [Obs.eventFor, Obs.actionFor, onEntry])
  | declined hin hpending huri changed =>
    exact alone_of_changed (.drop (.noCallback hin hpending huri)) changed silent_releases
      (by simp [Obs.eventFor, Obs.actionFor, onEntry])
  | dropped drops changed =>
    exact alone_of_changed (.drop drops) changed silent_releases
      (by simp [Obs.eventFor, Obs.actionFor, onEntry])
  | answeredTg hmedia cause hctx changed =>
    exact alone_of_changed (.answerTg hmedia) changed silent_failures
      (by simp [Obs.eventFor, Obs.actionFor, onEntry])
  | joinedTg hready cause hctx changed =>
    exact alone_of_changed (.joinTg hready) changed silent_failures
      (by simp [Obs.eventFor, Obs.actionFor, onEntry])
  | dialedTg hearly created asked granted hctx changed =>
    rw [List.append_assoc] at changed
    refine alone_of_changed (.dialTg hearly) changed (silent_queries.append ?_)
      (by simp [Obs.eventFor, Obs.actionFor, onEntry])
    simp [Silent, Obs.eventFor, Obs.actionFor]
  | dialTgFailed hearly asked asked' hctx changed =>
    rw [List.append_assoc, List.append_assoc] at changed
    refine alone_of_changed (.dialTg hearly) changed
      (silent_queries.append (silent_queries.append ?_))
      (by simp [Obs.eventFor, Obs.actionFor, onEntry])
    simp [Silent, Obs.eventFor, Obs.actionFor]
  | answeredSip hready cause hctx changed =>
    exact alone_of_changed (.answerSip hready) changed silent_failures
      (by simp [Obs.eventFor, Obs.actionFor, onEntry])
  | joinedSip hmedia hcontroller cause hctx changed =>
    exact alone_of_changed (.joinSip hmedia) changed silent_failures
      (by simp [Obs.eventFor, Obs.actionFor, onEntry])
  | dtmf hs hdtmf htext cause hctx changed =>
    rcases hs with rfl | rfl
    · exact alone_of_changed (.dtmfTg hdtmf) changed silent_logs
        (by simp [Obs.eventFor, Obs.actionFor, onEntry])
    · exact alone_of_changed (.dtmfSip hdtmf) changed silent_logs
        (by simp [Obs.eventFor, Obs.actionFor, onEntry])
  | ended hs ends changed =>
    cases s with
    | init | x => simp [State.top] at hs
    | fromTg q =>
      exact alone_of_changed (.endTg ends) changed silent_releases
        (by simp [Obs.eventFor, Obs.actionFor, onEntry])
    | fromSip q =>
      exact alone_of_changed (.endSip ends) changed silent_releases
        (by simp [Obs.eventFor, Obs.actionFor, onEntry])

/-- An event says nothing for other contexts. -/
theorem Outcome.silent_other {c : CtxId} (h : Outcome settings r ctx ctx' d d' s e s')
    (hc : ctx.id ≠ c) :
    eventsOf c d'.trace = eventsOf c d.trace ∧ actionsOf c d'.trace = actionsOf c d.trace := by
  obtain ⟨obs, htrace, hobs⟩ := h.recorded
  have hne : ∀ o ∈ obs, o.ctx ≠ c := fun o ho => hobs o ho ▸ hc
  rw [htrace, eventsOf_append, actionsOf_append, eventsOf_of_ne hne, actionsOf_of_ne hne]
  simp

end outcome

/-! ## Every run -/

namespace Gateway

/-- What is on record for a context is a run of the tables alone, to `s`. -/
abbrev Converses (settings : Settings) (g : Gateway) (c : CtxId) (s : State) : Prop :=
  Follows (alone settings) .init (eventsOf c g.deps.trace) (actionsOf c g.deps.trace) s

/-- Every bridge is where its conversation ends, and a context without a bridge has ended, or was
not given. -/
structure Conversing (settings : Settings) (g : Gateway) : Prop where
  live : ∀ b ∈ g.bridges, g.Converses settings b.ctx.id b.state
  rest : ∀ c, (∀ b ∈ g.bridges, b.ctx.id ≠ c) →
    (g.Converses settings c .init ∧ eventsOf c g.deps.trace = []) ∨ g.Converses settings c .x

variable {settings : Settings} {r : Replies} {e : Event} {g g' : Gateway} {l : Label}
  {pre post : List Bridge} {b : Bridge} {c : ℕ}

theorem conversing_initial (pid : ℕ) (cache : Cache) (now : ℤ) :
    (initial pid cache now).Conversing settings where
  live := by simp [initial]
  rest _ _ := Or.inl ⟨.refl, rfl⟩

/-- The bridge in a slot is where its conversation ends. -/
theorem Conversing.slot (hg : g.Conversing settings) (hn : g.Numbered) (h : Slot g e pre b post c) :
    g.Converses settings b.ctx.id b.state := by
  cases h with
  | existing split => exact hg.live b (by simp [split])
  | new =>
    have hne : ∀ o ∈ g.deps.trace, o.ctx ≠ g.newBridge.ctx.id := fun o ho =>
      Nat.ne_of_lt (Nat.lt_succ_of_le (hn.trace o ho))
    rw [Converses, eventsOf_of_ne hne, actionsOf_of_ne hne]
    exact .refl

theorem Conversing.processEvent (hg : g.Conversing settings) (hw : g.Wired) (hn : g.Numbered)
    (h : g.processEvent settings r e = .ok g') : g'.Conversing settings := by
  obtain ⟨rfl, -⟩ | ⟨pre, b, post, k, b', d', hslot, hproc, rfl⟩ := processEvent_cases h
  · exact hg
  have hout := outcome_of_process hproc
  -- the bridge in the slot takes one step of the tables, the others are not heard of
  have hself : Follows (alone settings) .init (eventsOf b.ctx.id d'.trace)
      (actionsOf b.ctx.id d'.trace) b'.state := by
    obtain ⟨obs, htrace, hevents, halone⟩ := hout.alone
    have hsnoc := (hg.slot hn hslot).snoc e
    rw [halone] at hsnoc
    rw [htrace, eventsOf_append, actionsOf_append, hevents]
    exact hsnoc
  have hother : ∀ c s, b.ctx.id ≠ c → g.Converses settings c s →
      Follows (alone settings) .init (eventsOf c d'.trace) (actionsOf c d'.trace) s := by
    intro c s hc hs
    rw [(hout.silent_other hc).1, (hout.silent_other hc).2]
    exact hs
  refine ⟨fun x hx => ?_, fun c hc => ?_⟩
  · obtain hx | ⟨rfl, hid⟩ := mem_keep_cases hout hx
    · exact hother _ _ (Ne.symm ((hn.slot hslot).2.2.2 x hx)) (hg.live x (hslot.mem_of_mem hx))
    · exact hid ▸ hself
  · by_cases hbc : b.ctx.id = c
    · subst hbc
      obtain ⟨-, hx⟩ | ⟨hkeep, hx⟩ := keep_cases hout (hw.slot_ne_x hslot)
      · exact Or.inr (hx ▸ hself)
      · exact absurd (hout.ctx_id hx) (hc b' (by simp [hkeep]))
    · have hfree : ∀ x ∈ g.bridges, x.ctx.id ≠ c := fun x hx => by
        obtain rfl | hx := hslot.mem_cases hx
        · exact hbc
        · exact hc x (by simp only [List.mem_append] at hx ⊢; tauto)
      obtain ⟨hinit, hnone⟩ | hx := hg.rest c hfree
      · exact Or.inl ⟨hother c _ hbc hinit, (hout.silent_other hbc).1.trans hnone⟩
      · exact Or.inr (hother c _ hbc hx)

theorem Conversing.step (hg : g.Conversing settings) (hw : g.Wired) (hn : g.Numbered)
    (h : Step settings g l g') : g'.Conversing settings := by
  cases h with
  | event h => exact hg.processEvent hw hn h
  | incoming | pop => exact ⟨hg.live, hg.rest⟩

theorem conversing_of_run {pid : ℕ} {cache : Cache} {now : ℤ} {ls : List Label}
    (hrun : Run (Step settings) (initial pid cache now) ls g) : g.Conversing settings := by
  have hinv : g.Wired ∧ g.Numbered ∧ g.Conversing settings := by
    refine hrun.invariant (fun g => g.Wired ∧ g.Numbered ∧ g.Conversing settings) ?_
      ⟨by simp [Wired, initial], numbered_initial pid cache now, conversing_initial pid cache now⟩
    rintro g l g' ⟨hw, hn, hg⟩ hstep
    exact ⟨hw.step hstep, hn.step hstep, hg.step hw hn hstep⟩
  exact hinv.2.2

/-- In every run, what a context was handed and what was run for it is a run of the tables alone.
It ends where its bridge is, or in `X` if the bridge is gone, and nothing is on record before the
bridge was opened. -/
theorem conversations_of_run {pid : ℕ} {cache : Cache} {now : ℤ} {ls : List Label}
    (hrun : Run (Step settings) (initial pid cache now) ls g) (c : CtxId) :
    ∃ s, run (alone settings) .init (eventsOf c g.deps.trace) = (s, actionsOf c g.deps.trace) ∧
      (∀ b ∈ g.bridges, b.ctx.id = c → b.state = s) ∧
      ((∀ b ∈ g.bridges, b.ctx.id ≠ c) → s = .x ∨ eventsOf c g.deps.trace = []) := by
  have hg := conversing_of_run hrun
  by_cases hc : ∃ b ∈ g.bridges, b.ctx.id = c
  · obtain ⟨b, hb, rfl⟩ := hc
    have hs := hg.live b hb
    refine ⟨b.state, Prod.ext hs.state hs.outputs, fun x hx hid => ?_, fun hnone => ?_⟩
    · exact (hid ▸ hg.live x hx).state.symm.trans hs.state
    · exact absurd rfl (hnone b hb)
  · push Not at hc
    obtain ⟨hs, hnone⟩ | hs := hg.rest c hc
    · exact ⟨.init, Prod.ext hs.state hs.outputs, fun b hb hid => absurd hid (hc b hb),
        fun _ => Or.inr hnone⟩
    · exact ⟨.x, Prod.ext hs.state hs.outputs, fun b hb hid => absurd hid (hc b hb),
        fun _ => Or.inl rfl⟩

/-- A call from Telegram is joined with one from SIP, and both end. -/
theorem conversations_of_run_disconnected :
    (execFresh (bridgedRun ++
        [.event (.callStateUpdate ⟨0, .disconnected, 0⟩) (.granting 1 9)])).map (fun g =>
          (actionsOf 1 g.deps.trace).map Prod.fst) =
      some [.storeTgId, .storeTgUserId, .dialSip, .answerTg, .createTgVoip, .bridgeAudio,
        .cleanSipId, .cleanUp] ∧
    ∀ g, execFresh (bridgedRun ++
        [.event (.callStateUpdate ⟨0, .disconnected, 0⟩) (.granting 1 9)]) = some g →
      ∃ s, run (alone { callbackUri := "sip:pbx" }) .init (eventsOf 1 g.deps.trace) =
        (s, actionsOf 1 g.deps.trace) := by
  refine ⟨rfl, fun g h => ?_⟩
  obtain ⟨s, hs, -⟩ := conversations_of_run (run_of_execFresh h).of_restrict 1
  exact ⟨s, hs⟩

end Gateway

/-! ## Scripts -/

/-- A call from Telegram, up to `n` messages with digits. -/
def tgScript (n : ℕ) : List Action :=
  [.storeTgId, .storeTgUserId, .dialSip, .answerTg, .createTgVoip, .bridgeAudio] ++
    List.replicate n .dialDtmf

/-- A call from SIP, up to `n` messages with digits. -/
def sipScript (n : ℕ) : List Action :=
  [.storeSipId, .acceptIncomingSip, .dialTg, .storeTgUserId, .createTgVoip, .answerSip,
    .bridgeAudio] ++ List.replicate n .dialDtmf

/-- What was done for a context that has a bridge (`true`), or has none. -/
inductive Scripted : Bool → List Action → Prop
  | absent : Scripted false []
  | running {n : ℕ} {as : List Action} (begun : as ≠ [])
      (script : as <+: tgScript n ∨ as <+: sipScript n) : Scripted true as
  | ended {n : ℕ} {as : List Action} {a : Action} (begun : as ≠ [])
      (script : as <+: tgScript n ∨ as <+: sipScript n)
      (ends : a ∈ [Action.cleanTgId, .cleanSipId, .setHangupPrm]) :
      Scripted false (as ++ [a, .cleanUp])
  | dropped {as : List Action} (h : as = [] ∨ as = [.storeTgId]) : Scripted false (as ++ [.cleanUp])

/-- The actions that lead to a state of a nested machine, with `n` messages so far. -/
def performed (n : ℕ) : State → List Action
  | .fromTg .sipWaitMedia => (tgScript n).take 3
  | .fromTg .waitTg => (tgScript n).take 4
  | .fromTg .waitDtmf => tgScript n
  | .fromSip .sipWaitConfirm => (sipScript n).take 2
  | .fromSip .waitTg => (sipScript n).take 3
  | .fromSip .sipWaitMedia => (sipScript n).take 6
  | .fromSip .waitDtmf => sipScript n
  | _ => []

/-- What the tables alone have run when they are in a state. -/
inductive Performed : State → List Action → Prop
  | init : Performed .init []
  | nested {s : State} (n : ℕ) (hs : s.Nested) : Performed s (performed n s)
  | ended {s : State} {e : Event} {a : Action} (n : ℕ) (hs : s.Nested) (h : Ends e a) :
      Performed .x (performed n s ++ [a, .cleanUp])
  | dropped {settings : Settings} {e : Event} {as : List Action} (h : Drops settings e as) :
      Performed .x (as ++ [.cleanUp])

section scripts

variable {settings : Settings} {s s' : State} {e : Event} {as : List Action} {n : ℕ}

theorem script_succ (n : ℕ) : tgScript (n + 1) = tgScript n ++ [.dialDtmf] ∧
    sipScript (n + 1) = sipScript n ++ [.dialDtmf] := by
  constructor <;> simp [tgScript, sipScript, List.replicate_succ']

/-- A row that leads on from a state of a nested machine goes on with the script. -/
theorem performed_of_moves (hs : s.Nested) (hs' : s'.Nested) (h : Moves settings s e s' as) :
    ∃ n', performed n' s' = performed n s ++ as := by
  cases h with
  | dial | accept | drop => simp [State.Nested, State.top] at hs
  | endTg | endSip => simp [State.Nested, State.top] at hs'
  | dtmfTg => exact ⟨n + 1, (script_succ n).1⟩
  | dtmfSip => exact ⟨n + 1, (script_succ n).2⟩
  | answerTg | dialTg | answerSip => exact ⟨n, rfl⟩
  | joinTg | joinSip => exact ⟨0, rfl⟩

/-- A row that opens a call begins a script. -/
theorem performed_of_opens (hs' : s'.Nested) (h : Moves settings .init e s' as) :
    performed 0 s' = as := by
  cases h with
  | dial | accept => rfl
  | drop => simp [State.Nested, State.top] at hs'

theorem nested_or_x_of_moves (h : Moves settings s e s' as) : s'.Nested ∨ s' = .x := by
  cases h <;> simp [State.Nested, State.top]

theorem onEntry_of_nested (hs : s.Nested) : onEntry s = [] := by
  cases s <;> simp [State.Nested, State.top, onEntry] at hs ⊢

/-- One event of the tables alone. -/
theorem Performed.step (h : Performed s as) (settings : Settings) (e : Event) :
    Performed (alone settings s e).1 (as ++ (alone settings s e).2.map Prod.fst) := by
  cases ht : transition settings s e with
  | none => simpa [alone, ht] using h
  | some sas =>
    obtain ⟨s', new⟩ := sas
    have hmoves := moves_of_transition ht
    have hmap : (alone settings s e).2.map Prod.fst = new ++ onEntry s' := by
      simp [alone_of_moves hmoves, Function.comp_def]
    rw [hmap, alone_of_moves hmoves]
    cases h with
    | init =>
      rcases nested_or_x_of_moves hmoves with hs' | rfl
      · rw [onEntry_of_nested hs', List.append_nil, List.nil_append, ← performed_of_opens hs' hmoves]
        exact .nested 0 hs'
      · cases hmoves with
        | drop hdrop => exact .dropped hdrop
    | nested n hs =>
      rcases nested_or_x_of_moves hmoves with hs' | rfl
      · obtain ⟨n', hn'⟩ := performed_of_moves (n := n) hs hs' hmoves
        rw [onEntry_of_nested hs', List.append_nil, ← hn']
        exact .nested n' hs'
      · cases hmoves with
        | drop => simp [State.Nested, State.top] at hs
        | endTg hends => exact .ended n hs hends
        | endSip hends => exact .ended n hs hends
    | ended => cases hmoves
    | dropped => cases hmoves

theorem performed_ne_nil (hs : s.Nested) : performed n s ≠ [] := by
  rcases s with _ | q | q | _
  · simp [State.Nested, State.top] at hs
  · cases q <;> simp [performed, tgScript]
  · cases q <;> simp [performed, sipScript]
  · simp [State.Nested, State.top] at hs

theorem performed_isPrefix (n : ℕ) (s : State) :
    performed n s <+: tgScript n ∨ performed n s <+: sipScript n := by
  rcases s with _ | q | q | _
  · exact Or.inl (List.nil_prefix)
  · cases q
    · exact Or.inl (List.take_prefix 3 _)
    · exact Or.inl (List.take_prefix 4 _)
    · exact Or.inl List.prefix_rfl
  · cases q
    · exact Or.inr (List.take_prefix 2 _)
    · exact Or.inr (List.take_prefix 3 _)
    · exact Or.inr (List.take_prefix 6 _)
    · exact Or.inr List.prefix_rfl
  · exact Or.inl (List.nil_prefix)

theorem Performed.running (h : Performed s as) (hs : s.Nested) : Scripted true as := by
  cases h with
  | nested n => exact .running (performed_ne_nil hs) (performed_isPrefix n s)
  | init | ended | dropped => simp [State.Nested, State.top] at hs

theorem Performed.over (h : Performed s as) (hs : ¬s.Nested) : Scripted false as := by
  cases h with
  | init => exact .absent
  | nested n hs' => exact absurd hs' hs
  | ended n hs' hends =>
    refine .ended (performed_ne_nil hs') (performed_isPrefix n _) ?_
    cases hends <;> simp
  | dropped hdrop => exact .dropped (by cases hdrop <;> simp)

/-- The tables alone perform what their state says. -/
theorem performed_run (settings : Settings) (es : List Event) :
    Performed (run (alone settings) .init es).1
      ((run (alone settings) .init es).2.map Prod.fst) := by
  refine run_invariant (fun s os => Performed s (os.map Prod.fst)) (fun s os e h => ?_) .init es
  rw [List.map_append]
  exact h.step settings e

/-- In every run, the actions of a context with a bridge begin one of the two scripts. Those of a
context whose bridge is gone begin one and end with the teardown, or are those of an event that no
call was opened for. -/
theorem Gateway.scripted_of_run {g : Gateway} {pid : ℕ} {cache : Cache} {now : ℤ}
    {ls : List Label} (hrun : Run (Gateway.Step settings) (Gateway.initial pid cache now) ls g)
    (c : CtxId) :
    Scripted (g.bridges.any (·.ctx.id = c)) ((actionsOf c g.deps.trace).map Prod.fst) := by
  have hg := conversing_of_run hrun
  have hw : g.Wired :=
    hrun.invariant Wired (fun _ _ _ hw hstep => hw.step hstep) (by simp [Wired, initial])
  have hperf : ∀ s, g.Converses settings c s →
      Performed s ((actionsOf c g.deps.trace).map Prod.fst) := by
    rintro s ⟨rfl, hactions⟩
    exact hactions ▸ performed_run settings _
  by_cases hc : ∃ b ∈ g.bridges, b.ctx.id = c
  · obtain ⟨b, hb, rfl⟩ := hc
    have hany : g.bridges.any (·.ctx.id = b.ctx.id) = true := List.any_eq_true.2 ⟨b, hb, by simp⟩
    rw [hany]
    exact (hperf _ (hg.live b hb)).running (hw b hb).nested
  · have hany : g.bridges.any (·.ctx.id = c) = false := by
      push Not at hc
      simpa using hc
    push Not at hc
    rw [hany]
    obtain ⟨hs, -⟩ | hs := hg.rest c hc
    · exact (hperf _ hs).over (by simp [State.Nested, State.top])
    · exact (hperf _ hs).over (by simp [State.Nested, State.top])

/-- A call from Telegram that was joined. -/
theorem Gateway.scripted_of_run_bridged :
    (execFresh bridgedRun).map (fun g => (actionsOf 1 g.deps.trace).map Prod.fst) =
        some (tgScript 0) ∧
      ∀ g, execFresh bridgedRun = some g →
        Scripted (g.bridges.any (·.ctx.id = 1)) ((actionsOf 1 g.deps.trace).map Prod.fst) :=
  ⟨rfl, fun _ h => scripted_of_run (run_of_execFresh h).of_restrict 1⟩

end scripts

end TelegramProvider
