import TelegramProvider.Gateway

/-!
# Context ids

A context id is given once : the counter of `next_ctx_id` only grows, no two bridges have
the same id, and what is recorded or queued is for an id that was given (`Numbered`). So
the history of a bridge is the part of the record with its id, and an internal error finds
the bridge it is for or none.

What a bridge does while it handles an event is recorded under its own id, and an error it
queues carries that id (`Outcome.recorded`).
-/

set_option autoImplicit false

namespace TelegramProvider

/-! ## What all outcomes share -/

section outcome

variable {settings : Settings} {r : Replies} {e : Event} {ctx ctx' : Context} {d d' : Deps}
  {s s' : State}

/-- A context keeps its id. -/
theorem Outcome.ctx_id (h : Outcome settings r ctx ctx' d d' s e s') (hx : s' ≠ .x) :
    ctx'.id = ctx.id := by
  cases h with
  | declined | dropped | ended => exact absurd rfl hx
  | @accepted _ ext _ _ _ hctx => rw [hctx]; cases ext <;> rfl
  | dialed _ _ _ _ _ hctx | dialRefused _ _ _ _ _ hctx | dialedTg _ _ _ _ hctx
  | idle _ hctx | rejected _ hctx | answeredTg _ _ hctx | joinedTg _ _ hctx
  | dialTgFailed _ _ _ hctx | answeredSip _ _ hctx | joinedSip _ _ _ hctx
  | dtmf _ _ _ _ hctx => rw [hctx]

/-- A bridge that is kept keeps its id. -/
theorem keep_id {b' : Bridge} (h : Outcome settings r ctx b'.ctx d d' s e b'.state) :
    keep e b' = [] ∨ (keep e b' = [b'] ∧ b'.ctx.id = ctx.id) := by
  by_cases hx : b'.state = .x
  · cases e with
    | updateNewMessage m =>
      refine Or.inr ⟨rfl, ?_⟩
      generalize b'.ctx = ctx', b'.state = s' at h
      cases h with
      | idle _ hctx | dtmf _ _ _ _ hctx => rw [hctx]
      | dropped drops => cases drops
      | ended _ ends => cases ends
    | updateCall _ | incomingCall _ | callStateUpdate _ | callMediaStateUpdate _
    | internalError _ => exact Or.inl (by simp [keep, hx])
  · exact Or.inr ⟨by cases e <;> simp [keep, hx], h.ctx_id hx⟩

/-- A bridge that is left is one of the others, or the one in the slot with its context. -/
theorem mem_keep_cases {b' x : Bridge} {pre post : List Bridge}
    (h : Outcome settings r ctx b'.ctx d d' s e b'.state) (hx : x ∈ pre ++ keep e b' ++ post) :
    x ∈ pre ++ post ∨ (x = b' ∧ b'.ctx.id = ctx.id) := by
  obtain hkeep | ⟨hkeep, hid⟩ := keep_id h <;>
    simp only [hkeep, List.mem_append, List.mem_singleton, List.not_mem_nil] at hx ⊢ <;> tauto

/-- The changes of an outcome. -/
theorem Outcome.changed (h : Outcome settings r ctx ctx' d d' s e s') :
    ∃ sip errs obs, Changed ctx.id d d' sip errs obs := by
  cases h <;> exact ⟨_, _, _, ‹_›⟩

/-- What `CleanUp` records is for its context. -/
theorem ctx_of_mem_releases {sip : Sip.Client} {o : Obs} (h : o ∈ releases r sip ctx) :
    o.ctx = ctx.id := by
  obtain rfl | rfl | ⟨error, rfl⟩ | ⟨-, rfl⟩ := mem_releases h <;> rfl

@[simp] theorem endCtx_id : (endCtx e ctx).id = ctx.id := by
  cases e <;> rfl

/-- Entries for a context, followed by what `CleanUp` records for it. -/
theorem ctx_of_mem_append_releases {sip : Sip.Client} {c : CtxId} {obs : List Obs} (hc : ctx.id = c)
    (hobs : ∀ o ∈ obs, o.ctx = c) : ∀ o ∈ obs ++ releases r sip ctx, o.ctx = c := by
  intro o ho
  rcases List.mem_append.1 ho with ho | ho
  · exact hobs o ho
  · exact (ctx_of_mem_releases ho).trans hc

/-- What an outcome records is for its context. -/
theorem Outcome.recorded (h : Outcome settings r ctx ctx' d d' s e s') :
    ∃ obs, d'.trace = d.trace ++ obs ∧ ∀ o ∈ obs, o.ctx = ctx.id := by
  cases h with
  | declined _ _ _ changed =>
    exact ⟨_, changed.trace, ctx_of_mem_append_releases rfl (by simp [Obs.ctx])⟩
  | dropped _ changed => exact ⟨_, changed.trace, ctx_of_mem_append_releases rfl (by simp [Obs.ctx])⟩
  | ended _ _ changed =>
    exact ⟨_, changed.trace, ctx_of_mem_append_releases endCtx_id (by simp [Obs.ctx])⟩
  | idle _ _ changed | dialed _ _ _ _ _ _ changed | dialRefused _ _ _ _ _ _ changed
  | accepted _ _ _ changed | rejected _ _ changed | answeredTg _ _ _ changed
  | joinedTg _ _ _ changed | dialedTg _ _ _ _ _ changed | answeredSip _ _ _ changed
  | joinedSip _ _ _ _ changed | dtmf _ _ _ _ _ changed =>
    exact ⟨_, changed.trace, by simp [Obs.ctx, failures, or_imp, forall_and]⟩
  | dialTgFailed _ _ _ _ changed =>
    exact ⟨_, changed.trace, by simp [Obs.ctx, or_imp, forall_and]⟩

end outcome

/-! ## Ids are given once -/

namespace Gateway

/-- The ids of the bridges are different and were given, and nothing is recorded or queued
for an id that was not. -/
structure Numbered (g : Gateway) : Prop where
  pos : ∀ b ∈ g.bridges, b.ctx.id ≠ 0
  bound : ∀ b ∈ g.bridges, b.ctx.id ≤ g.ctxCounter
  unique : Keyed.UniqueKeys (·.ctx.id) 0 g.bridges
  trace : ∀ o ∈ g.deps.trace, o.ctx ≤ g.ctxCounter
  errors : ∀ i ∈ g.deps.internalEvents, i.ctxId ≤ g.ctxCounter

variable {settings : Settings} {r : Replies} {e : Event} {g g' : Gateway} {l : Label}
  {pre post : List Bridge} {b b' : Bridge} {c : ℕ} {d' : Deps}

theorem numbered_initial (pid : ℕ) (cache : Cache) (now : ℤ) : (initial pid cache now).Numbered where
  pos := by simp [initial]
  bound := by simp [initial]
  unique := Keyed.uniqueKeys_nil
  trace := by simp [initial]
  errors := by simp [initial]

/-- The id in a slot is different from the others, and was given. -/
theorem Numbered.slot (hg : g.Numbered) (h : Slot g e pre b post c) :
    b.ctx.id ≠ 0 ∧ b.ctx.id ≤ c ∧ g.ctxCounter ≤ c ∧ ∀ x ∈ pre ++ post, x.ctx.id ≠ b.ctx.id := by
  cases h with
  | existing split =>
    have hb : b ∈ g.bridges := by simp [split]
    exact ⟨hg.pos b hb, hg.bound b hb, Nat.le.refl,
      (split ▸ hg.unique).ne_of_mem (hg.pos b hb)⟩
  | new =>
    refine ⟨Nat.succ_ne_zero _, Nat.le.refl, Nat.le_succ _, fun x hx => ?_⟩
    have hbound := hg.bound x (by simpa using hx)
    exact Nat.ne_of_lt (Nat.lt_succ_of_le hbound)

/-- An internal error finds the bridge it is for. -/
theorem Numbered.slot_of_internalError {i : InternalError} (hg : g.Numbered)
    (hsplit : g.bridges = pre ++ b :: post) (hid : b.ctx.id = i.ctxId) :
    Slot g (.internalError i) pre b post g.ctxCounter := by
  have hother : ∀ x ∈ pre ++ post, routes (.internalError i) x = false := by
    intro x hx
    refine decide_eq_false ?_
    exact hid ▸ (hsplit ▸ hg.unique).ne_of_mem (hg.pos b (by simp [hsplit])) x hx
  refine .existing hsplit (decide_eq_true hid) (fun x hx => hother x (by simp [hx])) ?_
  rintro m h
  cases h

theorem Numbered.processEvent (hg : g.Numbered) (h : g.processEvent settings r e = .ok g') :
    g'.Numbered := by
  obtain ⟨rfl, -⟩ | ⟨pre, b, post, c, b', d', hslot, hproc, rfl⟩ := processEvent_cases h
  · exact hg
  obtain ⟨hpos, hbound, hle, hne⟩ := hg.slot hslot
  have hout := outcome_of_process hproc
  obtain ⟨obs, htrace, hobs⟩ := hout.recorded
  obtain ⟨sip, errs, obs', hch⟩ := hout.changed
  have hunique : Keyed.UniqueKeys (·.ctx.id) 0 (pre ++ b :: post) := by
    cases hslot with
    | existing split => exact split ▸ hg.unique
    | new => exact hg.unique.append (Or.inr fun x hx => hne x (by simpa using hx))
  have hrest : ∀ x ∈ pre ++ post, x.ctx.id ≠ 0 ∧ x.ctx.id ≤ c := fun x hx =>
    ⟨hg.pos x (hslot.mem_of_mem hx), Nat.le_trans (hg.bound x (hslot.mem_of_mem hx)) hle⟩
  have htrace' : ∀ o ∈ d'.trace, o.ctx ≤ c := by
    intro o ho
    rcases List.mem_append.1 (htrace ▸ ho) with ho | ho
    · exact Nat.le_trans (hg.trace o ho) hle
    · exact hobs o ho ▸ hbound
  have herrors : ∀ i ∈ d'.internalEvents, i.ctxId ≤ c := by
    intro i hi
    rcases List.mem_append.1 (hch.errors ▸ hi) with hi | hi
    · exact Nat.le_trans (hg.errors i hi) hle
    · obtain ⟨prm, -, rfl⟩ := List.mem_map.1 hi
      exact hbound
  have hbridges : ∀ x ∈ pre ++ keep e b' ++ post, x.ctx.id ≠ 0 ∧ x.ctx.id ≤ c := by
    intro x hx
    obtain hx | ⟨rfl, hid⟩ := mem_keep_cases hout hx
    · exact hrest x hx
    · exact hid ▸ ⟨hpos, hbound⟩
  have hunique' : Keyed.UniqueKeys (·.ctx.id) 0 (pre ++ keep e b' ++ post) := by
    obtain hkeep | ⟨hkeep, hid⟩ := keep_id hout
    · simpa [hkeep] using hunique.remove
    · simpa [hkeep] using hunique.replace (Or.inl hid)
  exact ⟨fun x hx => (hbridges x hx).1, fun x hx => (hbridges x hx).2, hunique', htrace', herrors⟩

theorem Numbered.step (hg : g.Numbered) (h : Step settings g l g') : g'.Numbered := by
  cases h with
  | event h => exact hg.processEvent h
  | incoming => exact ⟨hg.pos, hg.bound, hg.unique, hg.trace, hg.errors⟩
  | pop => exact ⟨hg.pos, hg.bound, hg.unique, hg.trace, fun i hi => hg.errors i (List.mem_of_mem_tail hi)⟩

end Gateway

/-! ## What a bridge does once

A bridge never goes back to an earlier state, so what it does on leaving one for good it does
once. -/

section entries

variable {τ : Type*} [DecidableEq τ]

/-- The entries of a context that `tag` gives `t`. -/
def entriesOf (tag : Obs → Option τ) (c : CtxId) (t : τ) (obs : List Obs) : List Obs :=
  obs.filter fun o => decide (o.ctx = c ∧ tag o = some t)

/-- A bridge makes an entry `t` only on the way from a state where `t` is ahead to one where it
is not, one in one event, and nothing comes ahead again. -/
def Spends (tag : Obs → Option τ) (ahead : τ → State → Prop) : Prop :=
  ∀ {settings : Settings} {r : Replies} {ctx ctx' : Context} {d d' : Deps} {s s' : State}
    {e : Event}, Outcome settings r ctx ctx' d d' s e s' → ∀ t,
    (entriesOf tag ctx.id t d'.trace = entriesOf tag ctx.id t d.trace ∧
      (ahead t s' → ahead t s)) ∨
    (ahead t s ∧ ¬ahead t s' ∧
      (entriesOf tag ctx.id t d'.trace).length ≤ (entriesOf tag ctx.id t d.trace).length + 1)

/-- No bridge made the entries that are ahead of it, and no context made one twice. -/
structure Gateway.Once (tag : Obs → Option τ) (ahead : τ → State → Prop) (g : Gateway) : Prop where
  ahead : ∀ b ∈ g.bridges, ∀ t, ahead t b.state → entriesOf tag b.ctx.id t g.deps.trace = []
  once : ∀ c t, (entriesOf tag c t g.deps.trace).length ≤ 1

variable {settings : Settings} {r : Replies} {e : Event} {ctx ctx' : Context} {d d' : Deps}
  {s s' : State} {tag : Obs → Option τ} {ahead : τ → State → Prop} {c : CtxId} {t : τ}
  {obs obs' : List Obs}

@[simp] theorem entriesOf_append :
    entriesOf tag c t (obs ++ obs') = entriesOf tag c t obs ++ entriesOf tag c t obs' :=
  List.filter_append ..

theorem entriesOf_of_ne {c' : CtxId} (hne : c' ≠ c) (h : ∀ o ∈ obs, o.ctx = c') :
    entriesOf tag c t obs = [] := by
  refine List.filter_eq_nil_iff.2 fun o ho => ?_
  simp [h o ho, hne]

theorem entriesOf_eq_nil (h : ∀ o ∈ obs, tag o ≠ some t) : entriesOf tag c t obs = [] := by
  refine List.filter_eq_nil_iff.2 fun o ho => ?_
  simp [h o ho]

theorem length_entriesOf_le : (entriesOf tag c t obs).length ≤ (obs.filterMap tag).count t := by
  rw [entriesOf, ← List.countP_eq_length_filter, List.count, List.countP_filterMap]
  refine List.countP_mono_left fun o _ ho => ?_
  have htag : tag o = some t := (of_decide_eq_true ho).2
  simp [htag]

/-- An event makes no entry for other contexts. -/
theorem Outcome.entriesOf_other (h : Outcome settings r ctx ctx' d d' s e s') (hc : ctx.id ≠ c) :
    entriesOf tag c t d'.trace = entriesOf tag c t d.trace := by
  obtain ⟨obs, htrace, hobs⟩ := h.recorded
  rw [htrace, entriesOf_append, entriesOf_of_ne hc hobs, List.append_nil]

namespace Gateway

variable {g g' : Gateway} {l : Label} {pre post : List Bridge} {b b' : Bridge} {c' : ℕ}

theorem once_initial (pid : ℕ) (cache : Cache) (now : ℤ) :
    (initial pid cache now).Once tag ahead where
  ahead := by simp [initial]
  once := by simp [initial, entriesOf]

/-- The bridge in a slot made no entry that is ahead of it. -/
theorem Once.slot (ho : g.Once tag ahead) (hn : g.Numbered) (h : Slot g e pre b post c')
    (ht : ahead t b.state) : entriesOf tag b.ctx.id t g.deps.trace = [] := by
  cases h with
  | existing split => exact ho.ahead b (by simp [split]) t ht
  | new =>
    refine List.filter_eq_nil_iff.2 fun o ho => ?_
    have hne : o.ctx ≠ g.newBridge.ctx.id := Nat.ne_of_lt (Nat.lt_succ_of_le (hn.trace o ho))
    simp [hne]

theorem Once.processEvent (hspends : Spends tag ahead) (ho : g.Once tag ahead) (hn : g.Numbered)
    (h : g.processEvent settings r e = .ok g') : g'.Once tag ahead := by
  obtain ⟨rfl, -⟩ | ⟨pre, b, post, c', b', d', hslot, hproc, rfl⟩ := processEvent_cases h
  · exact ho
  have hout := outcome_of_process hproc
  refine ⟨fun x hx t ht => ?_, fun c t => ?_⟩
  · obtain hx | ⟨rfl, hid⟩ := mem_keep_cases hout hx
    · rw [hout.entriesOf_other fun heq => (hn.slot hslot).2.2.2 x hx heq.symm]
      exact ho.ahead x (hslot.mem_of_mem hx) t ht
    · rw [hid]
      obtain ⟨hsame, hback⟩ | ⟨-, hpast, -⟩ := hspends hout t
      · exact hsame.trans (ho.slot hn hslot (hback ht))
      · exact absurd ht hpast
  · by_cases hc : b.ctx.id = c
    · obtain ⟨hsame, -⟩ | ⟨ht, -, hlen⟩ := hspends hout t
      · exact hc ▸ hsame ▸ ho.once _ t
      · rw [ho.slot hn hslot ht] at hlen
        exact hc ▸ hlen
    · rw [hout.entriesOf_other hc]
      exact ho.once c t

theorem Once.step (hspends : Spends tag ahead) (ho : g.Once tag ahead) (hn : g.Numbered)
    (h : Step settings g l g') : g'.Once tag ahead := by
  cases h with
  | event h => exact ho.processEvent hspends hn h
  | incoming | pop => exact ⟨ho.ahead, ho.once⟩

end Gateway

end entries

end TelegramProvider
