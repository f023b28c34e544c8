import TelegramProvider.CallTable
import TelegramProvider.Lag

/-!
# SIP events reach the call that emitted them

A SIP event carries a call id, and PJSUA gives an id again while events of the earlier call
are still in the queue. Incoming calls are safe : their `IncomingCall` is queued behind
those events, so the gateway learns of the new owner of an id in order, as a reader that
lags behind (`Lag.Behind`). `Dial` is not : it returns an id at once, past the queue.

On the steps where `Dial` gets no id that is still held or still in the queue, and an
incoming call finds its id free (`Orderly`), every state or media event is handled by the
bridge that owns the call that emitted it, or by a bridge that does not last
(`attributed_of_run`).
-/

set_option autoImplicit false

namespace TelegramProvider

open Runs

/-! ## Owners -/

/-- What PJSIP tells the gateway about the owner of an id : a new call, or an event of the
call that has the id now. -/
def Sip.Event.msg : Sip.Event → Lag.Msg ℤ ℕ
  | .incomingCall e => .write e.id e.call
  | .callStateUpdate e => .remark e.id e.call
  | .callMediaStateUpdate e => .remark e.id e.call

@[simp] theorem Sip.Event.key_msg (s : Sip.Event) : s.msg.key = s.id := by
  cases s <;> rfl

section outcome

variable {settings : Settings} {r : Replies} {e : Event} {ctx ctx' : Context} {d d' : Deps}
  {s s' : State} {sip : Sip.Client}

theorem released_live : (released r sip ctx).live = sip.live ∧
    (released r sip ctx).created = sip.created := by
  unfold released Sip.Client.hangup
  split_ifs
  · exact ⟨rfl, rfl⟩
  · cases sip.calls ctx.sipCallId with
    | none => exact ⟨rfl, rfl⟩
    | some call => cases r.pj.hangup <;> exact ⟨rfl, rfl⟩

/-- A bridge that ends gives no id a new owner. -/
theorem Outcome.live_of_x (h : Outcome settings r ctx ctx' d d' s e .x) :
    d'.sip.live = d.sip.live ∧ d'.sip.created = d.sip.created := by
  generalize hx : State.x = s' at h
  cases h with
  | declined _ _ _ changed | dropped _ changed | ended _ _ changed =>
    rw [changed.sip]
    exact released_live
  | idle _ _ changed | dtmf _ _ _ _ _ changed =>
    rw [changed.sip]
    exact ⟨rfl, rfl⟩
  | _ => simp at hx

/-- A SIP event other than an incoming call opens no bridge that lasts. -/
theorem Outcome.drops_sip {q : Sip.Event} (hq : q.incoming? = none)
    (h : Outcome settings r ctx ctx' d d' .init q.event s') : s' = .x := by
  cases q with
  | incomingCall i => simp [Sip.Event.incoming?] at hq
  | callStateUpdate _ | callMediaStateUpdate _ =>
    cases h with
    | idle none => exact absurd none (transition_init_ne_none trivial)
    | dropped | ended => rfl

end outcome

namespace Gateway

/-- `own` has the call each bridge holds under its id, and `idOf` the id each call was given. -/
structure Owns (g : Gateway) (own : ℤ → Option ℕ) (idOf : ℕ → ℤ) : Prop where
  wired : g.Wired
  unique : Keyed.UniqueKeys (·.ctx.sipCallId) Sip.invalidId g.bridges
  own : ∀ b ∈ g.bridges, b.ctx.sipCallId ≠ Sip.invalidId → b.ctx.sipCall = own b.ctx.sipCallId
  bridges : ∀ b ∈ g.bridges, ∀ call, b.ctx.sipCall = some call →
    call < g.deps.sip.created ∧ idOf call = b.ctx.sipCallId
  live : ∀ id call, g.deps.sip.live id = some call →
    id ≠ Sip.invalidId ∧ call < g.deps.sip.created ∧ idOf call = id

/-- The events that keep the owners in order, with `q` in the queue : `Dial` gets an id that
no bridge holds and no event in the queue has, and an incoming call finds its id free. -/
def Orderly (g : Gateway) (q : List Sip.Event) (e : Event) (r : Replies) : Prop :=
  (g.Dials e → Granted (fun id => id ≠ Sip.invalidId ∧ (∀ b ∈ g.bridges, b.ctx.sipCallId ≠ id) ∧
    ∀ s ∈ q, s.id ≠ id) r.pj.makeCall) ∧ IncomingIsNew g e

/-- The event `s` was handled by the bridge that owns the call it comes from, and no other
bridge has changed, or that bridge is gone and no bridge has changed. -/
def Attributed (g g' : Gateway) (s : Sip.Event) : Prop :=
  (∃ pre b post rest, g.bridges = pre ++ b :: post ∧ b.ctx.sipCallId = s.id ∧
    b.ctx.sipCall = some s.call ∧ g'.bridges = pre ++ rest ++ post ∧
    (rest = [] ∨ ∃ b', rest = [b'] ∧ b'.ctx.id = b.ctx.id)) ∨
  (g'.bridges = g.bridges ∧ ∀ b ∈ g.bridges, b.ctx.sipCallId ≠ s.id ∧ b.ctx.sipCall ≠ some s.call)

section step

variable {settings : Settings} {r : Replies} {e : Event} {g g' : Gateway} {own : ℤ → Option ℕ}
  {idOf idOf' : ℕ → ℤ} {b' : Bridge} {id : ℤ} {call : ℕ}

/-- Bridges went on with the calls they had, or have none. -/
theorem Owns.kept (hg : g.Owns own idOf) (hwired : g'.Wired)
    (hunique : Keyed.UniqueKeys (·.ctx.sipCallId) Sip.invalidId g'.bridges)
    (hbridges : ∀ x ∈ g'.bridges, (x.ctx.sipCallId = Sip.invalidId ∧ x.ctx.sipCall = none) ∨
      ∃ y ∈ g.bridges, x.ctx.sipCallId = y.ctx.sipCallId ∧ x.ctx.sipCall = y.ctx.sipCall)
    (hlive : g'.deps.sip.live = g.deps.sip.live)
    (hcreated : g'.deps.sip.created = g.deps.sip.created) : g'.Owns own idOf where
  wired := hwired
  unique := hunique
  own x hx hvalid := by
    obtain ⟨hid, -⟩ | ⟨y, hy, hid, hcall⟩ := hbridges x hx
    · exact absurd hid hvalid
    · rw [hid] at hvalid ⊢
      rw [hcall]
      exact hg.own y hy hvalid
  bridges x hx call hx' := by
    obtain ⟨-, hnone⟩ | ⟨y, hy, hid, hcall⟩ := hbridges x hx
    · simp [hnone] at hx'
    · rw [hid, hcreated]
      exact hg.bridges y hy call (hcall ▸ hx')
  live := by
    rw [hlive, hcreated]
    exact hg.live

/-- A new bridge owns the call `call`, which was given the id `id`. -/
theorem Owns.opened (hg : g.Owns own idOf) (hwired : g'.Wired)
    (hbridges : g'.bridges = g.bridges ++ [b']) (hid : b'.ctx.sipCallId = id)
    (hcall : b'.ctx.sipCall = some call) (hfree : ∀ b ∈ g.bridges, b.ctx.sipCallId ≠ id)
    (hnew : call < g'.deps.sip.created ∧ idOf' call = id)
    (hold : ∀ call' < g.deps.sip.created, call' < g'.deps.sip.created ∧ idOf' call' = idOf call')
    (hlive : ∀ id' call', g'.deps.sip.live id' = some call' →
      id' ≠ Sip.invalidId ∧ call' < g'.deps.sip.created ∧ idOf' call' = id') :
    g'.Owns (Function.update own id (some call)) idOf' where
  wired := hwired
  unique := by
    rw [hbridges]
    exact hg.unique.append (Or.inr fun x hx => hid ▸ hfree x hx)
  own x hx hvalid := by
    rcases List.mem_append.1 (hbridges ▸ hx) with hx | hx
    · rw [Function.update_of_ne (hfree x hx)]
      exact hg.own x hx hvalid
    · rw [List.mem_singleton.1 hx, hid, hcall, Function.update_self]
  bridges x hx call' hx' := by
    rcases List.mem_append.1 (hbridges ▸ hx) with hx | hx
    · obtain ⟨hlt, hidOf⟩ := hg.bridges x hx call' hx'
      exact ⟨(hold call' hlt).1, (hold call' hlt).2.trans hidOf⟩
    · rw [List.mem_singleton.1 hx] at hx' ⊢
      obtain rfl := Option.some.inj (hcall.symm.trans hx')
      exact hid ▸ hnew
  live := hlive

/-- An incoming call that finds its id free gets a bridge of its own. -/
theorem Owns.took {i : Sip.IncomingCall} (hg : g.Owns own idOf)
    (hnew : IncomingIsNew g (.incomingCall i))
    (hi : i.id ≠ Sip.invalidId ∧ i.call < g.deps.sip.created ∧ idOf i.call = i.id)
    (h : g.processEvent settings r (.incomingCall i) = .ok g') :
    g'.Owns (Function.update own i.id (some i.call)) idOf ∧
      g'.deps.sip.live = g.deps.sip.live ∧ g'.deps.sip.created = g.deps.sip.created := by
  have hwired := hg.wired.processEvent h
  obtain ⟨-, hopens⟩ | ⟨pre, b, post, c, b', d', hslot, hproc, rfl⟩ := processEvent_cases h
  · exact absurd trivial hopens
  have hout := outcome_of_process hproc
  cases hslot with
  | existing split routed =>
    exact absurd (of_decide_eq_true routed) (hnew b (by simp [split]))
  | new =>
    obtain ⟨hs, hid, hcall, hsip, -⟩ := hout.takes_incoming
    have hkeep : keep (.incomingCall i) b' = [b'] := by simp [keep, hs]
    rw [hkeep, List.append_nil] at hwired ⊢
    have hsame : d'.sip.live = g.deps.sip.live ∧ d'.sip.created = g.deps.sip.created := by
      rw [hsip]
      exact ⟨rfl, rfl⟩
    refine ⟨hg.opened hwired rfl hid hcall hnew ?_ ?_ ?_, hsame⟩
    · exact hsame.2 ▸ hi.2
    · exact fun call' hlt => ⟨hsame.2 ▸ hlt, rfl⟩
    · rw [hsip]
      exact hg.live

/-- Any other event changes no owner, or it dials. -/
theorem Owns.processEvent {q : List Sip.Event} (hg : g.Owns own idOf) (hok : g.Orderly q e r)
    (he : e.incoming = []) (h : g.processEvent settings r e = .ok g') :
    (g'.Owns own idOf ∧ g'.deps.sip.live = g.deps.sip.live ∧
      g'.deps.sip.created = g.deps.sip.created) ∨
    ∃ id, (∀ s ∈ q, s.id ≠ id) ∧ e.IsPending ∧
      g'.Owns (Function.update own id (some g.deps.sip.created))
        (Function.update idOf g.deps.sip.created id) ∧
      g'.deps.sip.live = Function.update g.deps.sip.live id (some g.deps.sip.created) ∧
      g'.deps.sip.created = g.deps.sip.created + 1 := by
  have hwired := hg.wired.processEvent h
  obtain ⟨rfl, -⟩ | ⟨pre, b, post, c, b', d', hslot, hproc, rfl⟩ := processEvent_cases h
  · exact Or.inl ⟨hg, rfl, rfl⟩
  have hout := outcome_of_process hproc
  have hunique : Keyed.UniqueKeys (·.ctx.sipCallId) Sip.invalidId (pre ++ b :: post) :=
    hslot.uniqueKeys rfl hg.unique
  obtain ⟨hkeep, hx⟩ | ⟨hkeep, hx⟩ := keep_cases hout (hg.wired.slot_ne_x hslot) <;>
    rw [hkeep] at hwired ⊢
  · obtain ⟨hlive, hcreated⟩ := (hx ▸ hout).live_of_x
    refine Or.inl ⟨hg.kept hwired (by simpa using hunique.remove) (fun x hxmem => ?_) hlive hcreated,
      hlive, hcreated⟩
    exact Or.inr ⟨x, hslot.mem_of_mem (by simpa using hxmem), rfl, rfl⟩
  obtain ⟨hid, hcall, hsip⟩ | ⟨-, i, rfl, -⟩ | ⟨hinit, hid, hpending, hcall, hsip, -⟩ :=
    hout.sipCallId hx
  · have hsame : d'.sip.live = g.deps.sip.live ∧ d'.sip.created = g.deps.sip.created := by
      rw [hsip]
      exact ⟨rfl, rfl⟩
    refine Or.inl ⟨hg.kept hwired ?_ (fun x hxmem => ?_) hsame.1 hsame.2, hsame⟩
    · simpa using hunique.replace (Or.inl hid)
    · obtain hxmem | rfl : x ∈ pre ++ post ∨ x = b' := by
        simp only [List.mem_append, List.mem_singleton] at hxmem ⊢
        tauto
      · exact Or.inr ⟨x, hslot.mem_of_mem hxmem, rfl, rfl⟩
      · cases hslot with
        | existing split => exact Or.inr ⟨b, by simp [split], hid, hcall⟩
        | new => exact Or.inl ⟨hid, hcall⟩
  · simp [Event.incoming] at he
  · cases hslot with
    | existing split => exact absurd hinit (hg.wired.ne_init (by simp [split]))
    | new _ none =>
      obtain ⟨hvalid, hfree, hquiet⟩ := (hok.1 ⟨hpending, none⟩).of_ok hid
      have hcreated : d'.sip.created = g.deps.sip.created + 1 := by rw [hsip]; rfl
      have hlive : d'.sip.live =
          Function.update g.deps.sip.live b'.ctx.sipCallId (some g.deps.sip.created) := by
        rw [hsip]
        rfl
      have hold : ∀ call' < g.deps.sip.created, call' < d'.sip.created ∧
          Function.update idOf g.deps.sip.created b'.ctx.sipCallId call' = idOf call' :=
        fun call' hlt => ⟨by omega, Function.update_of_ne (Nat.ne_of_lt hlt) _ _⟩
      refine Or.inr ⟨_, hquiet, hpending, hg.opened hwired (by simp) rfl hcall hfree
        ⟨by dsimp only; omega, Function.update_self ..⟩ hold ?_, hlive, hcreated⟩
      intro id' call' hcall'
      dsimp only at hcall' ⊢
      rw [hlive] at hcall'
      by_cases hne : id' = b'.ctx.sipCallId
      · subst hne
        rw [Function.update_self] at hcall'
        obtain rfl := Option.some.inj hcall'
        exact ⟨hvalid, by omega, Function.update_self ..⟩
      · rw [Function.update_of_ne hne] at hcall'
        obtain ⟨hid', hlt, hidOf⟩ := hg.live id' call' hcall'
        exact ⟨hid', (hold call' hlt).1, (hold call' hlt).2.trans hidOf⟩

end step

end Gateway

/-! ## Every run of the loop -/

namespace Node

/-- The steps that keep the owners in order. -/
def Orderly (n : Node) : Move → Prop
  | .incoming id _ => id ≠ Sip.invalidId
  | .poll r => ∀ p ∈ n.take, p.2.gateway.Orderly p.2.sipEvents p.1 r
  | _ => True

/-- The gateway is behind PJSIP by what is in the queue. -/
structure Owned (n : Node) (own : ℤ → Option ℕ) (idOf : ℕ → ℤ) : Prop where
  gateway : n.gateway.Owns own idOf
  behind : Lag.Behind own (n.sipEvents.map Sip.Event.msg) n.gateway.deps.sip.live
  events : ∀ s ∈ n.sipEvents,
    s.id ≠ Sip.invalidId ∧ s.call < n.gateway.deps.sip.created ∧ idOf s.call = s.id

variable {settings : Settings} {n n' : Node} {m : Move} {r : Replies} {own : ℤ → Option ℕ}
  {idOf : ℕ → ℤ} {q : Sip.Event} {qs : List Sip.Event}

theorem owned_initial (pid : ℕ) (cache : Cache) (now : ℤ) :
    (initial pid cache now).Owned (fun _ => none) (fun _ => 0) where
  gateway :=
    { wired := by simp [Gateway.Wired, initial, Gateway.initial]
      unique := Keyed.uniqueKeys_nil
      own := by simp [initial, Gateway.initial]
      bridges := by simp [initial, Gateway.initial]
      live := by simp [initial, Gateway.initial, Sip.Client.empty] }
  behind := rfl
  events := by simp [initial]

/-- A call reports through the object bound to its id. -/
theorem Owned.emit (hn : n.Owned own idOf) (hq : q.msg = .remark q.id q.call)
    (hlive : n.gateway.deps.sip.live q.id = some q.call) : (n.emit q).Owned own idOf where
  gateway := hn.gateway
  behind := by
    rw [Node.emit, List.map_append, List.map_singleton, hq]
    exact hn.behind.remark hlive
  events s hs := by
    rcases List.mem_append.1 hs with hs | hs
    · exact hn.events s hs
    · obtain rfl := List.mem_singleton.1 hs
      exact hn.gateway.live _ _ hlive

/-- A new call is queued with the object that gets its id. -/
theorem Owned.incoming {id : ℤ} {localUser : String} (hn : n.Owned own idOf)
    (hid : id ≠ Sip.invalidId) :
    (Node.emit (.incomingCall (n.gateway.deps.sip.onIncomingCall id localUser).2)
      { n with gateway := n.gateway.registerIncoming id localUser }).Owned own
        (Function.update idOf n.gateway.deps.sip.created id) := by
  have hold : ∀ call < n.gateway.deps.sip.created, call < n.gateway.deps.sip.created + 1 ∧
      Function.update idOf n.gateway.deps.sip.created id call = idOf call :=
    fun call hlt => ⟨by omega, Function.update_of_ne (Nat.ne_of_lt hlt) _ _⟩
  have hnew : id ≠ Sip.invalidId ∧ n.gateway.deps.sip.created < n.gateway.deps.sip.created + 1 ∧
      Function.update idOf n.gateway.deps.sip.created id n.gateway.deps.sip.created = id :=
    ⟨hid, by omega, Function.update_self ..⟩
  refine ⟨⟨hn.gateway.wired, hn.gateway.unique, hn.gateway.own, ?_, ?_⟩, ?_, ?_⟩
  · intro b hb call hcall
    obtain ⟨hlt, hidOf⟩ := hn.gateway.bridges b hb call hcall
    exact ⟨(hold call hlt).1, (hold call hlt).2.trans hidOf⟩
  · intro id' call hcall
    have hlive : Function.update n.gateway.deps.sip.live id (some n.gateway.deps.sip.created) id' =
        some call := hcall
    by_cases hne : id' = id
    · rw [hne, Function.update_self] at hlive
      obtain rfl := Option.some.inj hlive
      exact hne ▸ hnew
    · rw [Function.update_of_ne hne] at hlive
      obtain ⟨hvalid, hlt, hidOf⟩ := hn.gateway.live id' call hlive
      exact ⟨hvalid, (hold call hlt).1, (hold call hlt).2.trans hidOf⟩
  · rw [Node.emit, List.map_append, List.map_singleton]
    exact hn.behind.write
  · intro s hs
    rcases List.mem_append.1 hs with hs | hs
    · obtain ⟨hvalid, hlt, hidOf⟩ := hn.events s hs
      exact ⟨hvalid, (hold _ hlt).1, (hold _ hlt).2.trans hidOf⟩
    · obtain rfl := List.mem_singleton.1 hs
      exact hnew

/-- Taking an event from another queue changes nothing the owners depend on. -/
theorem Owned.popError (hn : n.Owned own idOf) :
    Owned { n with gateway := n.gateway.popError } own idOf :=
  ⟨⟨hn.gateway.wired, hn.gateway.unique, hn.gateway.own, hn.gateway.bridges, hn.gateway.live⟩,
    hn.behind, hn.events⟩

/-- An event that is no incoming call is handled, with `qs` left in the SIP queue. -/
theorem owned_of_processEvent {g g' : Gateway} {e : Event} {tgEvents : List Td.Update}
    {phase : Phase} (hg : g.Owns own idOf)
    (hbehind : Lag.Behind own (qs.map Sip.Event.msg) g.deps.sip.live)
    (hevents : ∀ s ∈ qs, s.id ≠ Sip.invalidId ∧ s.call < g.deps.sip.created ∧ idOf s.call = s.id)
    (hok : g.Orderly qs e r) (he : e.incoming = []) (h : g.processEvent settings r e = .ok g') :
    ∃ own' idOf', Owned ⟨g', tgEvents, qs, phase⟩ own' idOf' := by
  obtain ⟨hg', hlive, hcreated⟩ | ⟨id, hquiet, -, hg', hlive, hcreated⟩ :=
    hg.processEvent hok he h
  · exact ⟨own, idOf, hg', hlive ▸ hbehind, hcreated ▸ hevents⟩
  · refine ⟨_, _, hg', ?_, ?_⟩
    · dsimp only
      rw [hlive]
      refine hbehind.update fun x hx => ?_
      obtain ⟨s, hs, rfl⟩ := List.mem_map.1 hx
      exact s.key_msg ▸ hquiet s hs
    · intro s hs
      obtain ⟨hvalid, hlt, hidOf⟩ := hevents s hs
      refine ⟨hvalid, ?_, (Function.update_of_ne (Nat.ne_of_lt hlt) ..).trans hidOf⟩
      dsimp only
      omega

theorem owned_step (hn : n.Owned own idOf) (h : Step settings n m n') (hok : n.Orderly m) :
    ∃ own' idOf', n'.Owned own' idOf' := by
  cases h with
  | update => exact ⟨own, idOf, hn.gateway, hn.behind, hn.events⟩
  | idle => exact ⟨own, idOf, hn.gateway, hn.behind, hn.events⟩
  | callState bound => exact ⟨own, idOf, hn.emit rfl bound⟩
  | callMediaState bound => exact ⟨own, idOf, hn.emit rfl bound⟩
  | incoming => exact ⟨own, _, hn.incoming hok⟩
  | @handle n₁ r e g taken hg =>
    have hevent : n₁.gateway.Orderly n₁.sipEvents e r := hok (e, n₁) taken
    obtain ⟨i, is, -, -, rfl, rfl⟩ | ⟨u, us, -, -, rfl, rfl⟩ | ⟨s, ss, -, hqueue, rfl, rfl⟩ :=
      take_cases taken
    · have hn₁ := hn.popError
      exact owned_of_processEvent hn₁.gateway hn₁.behind hn₁.events hevent rfl hg
    · have he : u.event.incoming = [] := by cases u <;> rfl
      exact owned_of_processEvent hn.gateway hn.behind hn.events hevent he hg
    · have hbehind := hn.behind
      have hevents := hn.events
      rw [hqueue] at hbehind hevents
      have hrest := fun x hx => hevents x (List.mem_cons_of_mem s hx)
      cases s with
      | incomingCall i =>
        have hi := hevents (.incomingCall i) List.mem_cons_self
        obtain ⟨hg', hlive, hcreated⟩ := hn.gateway.took hevent.2 hi hg
        exact ⟨_, idOf, hg', hlive ▸ hbehind, hcreated ▸ hrest⟩
      | callStateUpdate c | callMediaStateUpdate c =>
        exact owned_of_processEvent hn.gateway hbehind.2 hrest hevent rfl hg

/-- A state or media event is routed by its id. -/
theorem routes_event {b : Bridge} (hq : q.incoming? = none) :
    routes q.event b = decide (b.ctx.sipCallId = q.id) := by
  cases q with
  | incomingCall i => simp [Sip.Event.incoming?] at hq
  | callStateUpdate _ | callMediaStateUpdate _ => rfl

/-- A state or media event reaches the call that emitted it. -/
theorem Owned.attributed (hn : n.Owned own idOf) (hphase : n.phase = .sip)
    (hqueue : n.sipEvents = q :: qs) (hq : q.incoming? = none)
    (h : Step settings n (.poll r) n') : n.gateway.Attributed n'.gateway q := by
  have htake : n.take = some (q.event, { n with sipEvents := qs }) := by
    simp [take, hphase, hqueue]
  have howner : own q.id = some q.call := by
    have hbehind := hn.behind
    rw [hqueue] at hbehind
    cases q with
    | incomingCall i => simp [Sip.Event.incoming?] at hq
    | callStateUpdate _ | callMediaStateUpdate _ => exact hbehind.1
  obtain ⟨hvalid, -, hidOf⟩ := hn.events q (by simp [hqueue])
  cases h with
  | idle empty => simp [htake] at empty
  | @handle n₁ r e g taken hg =>
    obtain ⟨rfl, rfl⟩ : e = q.event ∧ n₁ = { n with sipEvents := qs } := by
      simpa [eq_comm] using htake.symm.trans taken
    obtain ⟨-, hopens⟩ | ⟨pre, b, post, c, b', d', hslot, hproc, rfl⟩ :=
      Gateway.processEvent_cases hg
    · cases q <;> exact absurd trivial hopens
    have hout := outcome_of_process hproc
    cases hslot with
    | existing split routed =>
      rw [routes_event hq] at routed
      have hid : b.ctx.sipCallId = q.id := of_decide_eq_true routed
      have hb : b ∈ n.gateway.bridges := by
        rw [show n.gateway.bridges = pre ++ b :: post from split]
        simp
      have hcall := hn.gateway.own b hb (hid ▸ hvalid)
      rw [hid, howner] at hcall
      refine Or.inl ⟨pre, b, post, _, split, hid, hcall, rfl, ?_⟩
      obtain hkeep | ⟨hkeep, hctx⟩ := keep_id hout
      · exact Or.inl hkeep
      · exact Or.inr ⟨b', hkeep, hctx⟩
    | new _ none =>
      have hx := hout.drops_sip hq
      have hkeep : keep q.event b' = [] := by
        cases q <;> exact if_pos hx
      refine Or.inr ⟨by simp [turn, hkeep], fun b hb => ?_⟩
      have hne : b.ctx.sipCallId ≠ q.id := by
        simpa [routes_event hq] using none b hb
      exact ⟨hne, fun hcall => hne ((hn.gateway.bridges b hb _ hcall).2.symm.trans hidOf)⟩

/-- In every run of the loop in which `Dial` gets no id that is still held or still in the
queue, and incoming calls find their id free, no two bridges hold the same SIP call, and
every state or media event is handled by the bridge that owns the call it comes from, or,
if that one is gone, by none that lasts. -/
theorem attributed_of_run {settings : Settings} {pid : ℕ} {cache : Cache} {now : ℤ}
    {ms : List Move} {n : Node}
    (hrun : Run (Restrict (Step settings) Orderly) (initial pid cache now) ms n) :
    Keyed.UniqueKeys (·.ctx.sipCallId) Sip.invalidId n.gateway.bridges ∧
    ∀ q qs r n', n.phase = .sip → n.sipEvents = q :: qs → q.incoming? = none →
      Step settings n (.poll r) n' → n.gateway.Attributed n'.gateway q := by
  obtain ⟨own, idOf, hn⟩ : ∃ own idOf, n.Owned own idOf := by
    refine hrun.invariant (fun n => ∃ own idOf, n.Owned own idOf) ?_ ⟨_, _, owned_initial ..⟩
    rintro n m n' ⟨own, idOf, hn⟩ ⟨hstep, hok⟩
    exact owned_step hn hstep hok
  exact ⟨hn.gateway.unique, fun q qs r n' hphase hqueue hq h => hn.attributed hphase hqueue hq h⟩

instance (g : Gateway) (q : List Sip.Event) (e : Event) : DecidablePred (g.Orderly q e) :=
  fun _ => inferInstanceAs (Decidable (_ ∧ _))

instance (n : Node) : DecidablePred n.Orderly
  | .incoming id _ => inferInstanceAs (Decidable (id ≠ Sip.invalidId))
  | .poll r => inferInstanceAs (Decidable (∀ p ∈ n.take, p.2.gateway.Orderly p.2.sipEvents p.1 r))
  | .update _ => inferInstanceAs (Decidable True)
  | .callState _ _ => inferInstanceAs (Decidable True)
  | .callMediaState _ _ => inferInstanceAs (Decidable True)

/-- The node after a run in which the owners stay in order, if there is one. -/
def execOrderly (ms : List Move) : Option Node :=
  exec (guarded Orderly (next { callbackUri := "sip:pbx" })) (initial 1 .empty 0) ms

/-- A call that disconnects, and the next call, which gets its id. -/
def reusedRun : List Move :=
  forwarded 7 ++ [.callState 0 .disconnected, .poll (.granting 0 9)] ++ forwarded 8

theorem attributed_of_run_reused :
    (execOrderly reusedRun).map (·.gateway.bridges.map (·.ctx.sipCall)) = some [some 1] ∧
    ∀ n, execOrderly reusedRun = some n →
      Keyed.UniqueKeys (·.ctx.sipCallId) Sip.invalidId n.gateway.bridges :=
  ⟨rfl, fun _ h => (attributed_of_run (Run.of_guarded (fun _ _ _ => step_of_next) h)).1⟩

/-- A call whose media changes and that disconnects, while Telegram discards it and another
call arrives, which gets its id. -/
def overtakenRun : List Move :=
  forwarded 7 ++ [.poll (.granting 0 9), .update (.call ⟨7, 42, false, .discarded⟩),
    .callMediaState 0 true, .callState 0 .disconnected, .poll (.granting 0 9),
    .poll (.granting 0 9), .poll (.granting 0 9)] ++ forwarded 8

/-- The end of the first call is still in the queue when the second is dialed, and ends it. -/
theorem misattributed_of_overtaken :
    ∃ n n', Run (Step { callbackUri := "sip:pbx" }) (initial 1 .empty 0) overtakenRun n ∧
      n.phase = .sip ∧ n.sipEvents = [.callStateUpdate ⟨0, .disconnected, 0⟩] ∧
      n.gateway.bridges.map (fun b => (b.ctx.sipCallId, b.ctx.sipCall)) = [(0, some 1)] ∧
      Step { callbackUri := "sip:pbx" } n (.poll (.granting 0 9)) n' ∧ n'.gateway.bridges = [] ∧
      ¬n.gateway.Attributed n'.gateway (.callStateUpdate ⟨0, .disconnected, 0⟩) := by
  obtain ⟨n, n', hrun, hphase, hqueue, howner, hstep, hgone⟩ : ∃ n n',
      Run (Step { callbackUri := "sip:pbx" }) (initial 1 .empty 0) overtakenRun n ∧
      n.phase = .sip ∧ n.sipEvents = [.callStateUpdate ⟨0, .disconnected, 0⟩] ∧
      n.gateway.bridges.map (fun b => (b.ctx.sipCallId, b.ctx.sipCall)) = [(0, some 1)] ∧
      Step { callbackUri := "sip:pbx" } n (.poll (.granting 0 9)) n' ∧ n'.gateway.bridges = [] :=
    ⟨_, _, run_of_execLoop rfl, rfl, rfl, rfl, step_of_next rfl, rfl⟩
  refine ⟨n, n', hrun, hphase, hqueue, howner, hstep, hgone, ?_⟩
  rintro (⟨pre, b, post, rest, hsplit, -, hcall, -⟩ | ⟨hsame, -⟩)
  · have hb : (b.ctx.sipCallId, b.ctx.sipCall) ∈ [((0 : ℤ), some 1)] := by
      rw [← howner, hsplit]
      simp
    simp [hcall, Sip.Event.call] at hb
  · simp [← hsame, hgone] at howner

end Node

end TelegramProvider
