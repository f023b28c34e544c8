import TelegramProvider.Loop

/-!
# The flood block

A refusal that names a flood blocks all calls to Telegram until some later time
(`Deps.blockUntil`). One field is shared by all bridges, and it is written deep inside the
lookups and the call.

Only `DialTg` touches the block and the cache (`Bridge.keeps_or_dials`). It reads the block
before anything else, and blocks again only from a later reading of the clock, so with a
clock that does not go back the block never moves to an earlier time. `Node.flood_of_run`
says this of every run of the loop, with what `DialTg` does while it is blocked
(`HeedsBlock`).
-/

set_option autoImplicit false

namespace TelegramProvider

open Runs

/-! ## Queries and refusals -/

/-- The queries in a record. -/
def queriesOf (trace : List Obs) : List Td.Query :=
  trace.filterMap fun
    | .query _ q => some q
    | _ => none

/-- TDLib answers the query with this error. -/
def Replies.RefusesWith (r : Replies) (error : Td.Error) : Td.Query → Prop
  | .getUser _ => r.getUser = .error error
  | .acceptCall _ _ => r.acceptCall = .error error
  | .createCall _ _ _ => r.createCall = .error error
  | .importContacts _ => r.importContacts = .error error
  | .searchPublicChat _ => r.searchPublicChat = .error error
  | .discardCall _ _ _ _ _ => r.discardCall = .error error

theorem Replies.RefusesWith.refuses {r : Replies} {error : Td.Error} {q : Td.Query}
    (h : r.RefusesWith error q) : r.Refuses q := by
  cases q <;> exact ⟨error, h⟩

/-- The text of an error that `parse_error` takes for a flood. -/
def Td.Error.IsFlood (error : Error) : Prop :=
  Actions.retryAfter error.message ≠ none ∨ Actions.floodText.toList <:+: error.message.toList

/-- Only the last query is refused. -/
def LastRefused (r : Replies) (qs : List Td.Query) : Prop :=
  ∀ pre q post, qs = pre ++ q :: post → r.Refuses q → post = []

section lastRefused

variable {r : Replies} {q q' : Td.Query}

theorem lastRefused_nil : LastRefused r [] := by
  intro pre q post h
  simp at h

theorem lastRefused_singleton : LastRefused r [q] := by
  intro pre q' post h _
  have hlen := congrArg List.length h
  simp only [List.length_append, List.length_cons, List.length_nil] at hlen
  exact List.eq_nil_of_length_eq_zero (by omega)

theorem lastRefused_pair (hgranted : ¬r.Refuses q) : LastRefused r [q, q'] := by
  intro pre q'' post h hrefused
  cases pre with
  | nil =>
    obtain ⟨rfl, -⟩ := List.cons.inj h
    exact absurd hrefused hgranted
  | cons x pre => exact lastRefused_singleton pre q'' post (List.cons.inj h).2 hrefused

end lastRefused

/-! ## What dialing asks -/

namespace Actions

variable {settings : Settings} {r : Replies} {f f' : Frame}

/-- The block is as it was, or it was set at the later reading of the clock. -/
def BlockedLater (r : Replies) (f f' : Frame) : Prop :=
  f'.deps.blockUntil = f.deps.blockUntil ∨ r.later ≤ f'.deps.blockUntil

theorem later_le_nanoseconds (seconds : ℕ) : r.later ≤ r.later + nanoseconds seconds := by
  have hpos : (0 : ℤ) ≤ nanoseconds seconds := by
    unfold nanoseconds
    omega
  omega

/-- A flood blocks at the later reading, anything else does not block. -/
theorem blockedLater_of_parseError {error : Td.Error}
    (h : parseError settings r error f = .ok f') :
    BlockedLater r f f' ∧ (error.IsFlood → r.later ≤ f'.deps.blockUntil) := by
  unfold parseError at h
  split at h
  · split at h
    · obtain rfl := Except.ok.inj h
      exact ⟨Or.inr (later_le_nanoseconds _), fun _ => later_le_nanoseconds _⟩
    · simp at h
  · rename_i hretry
    split_ifs at h with hflood
    · obtain rfl := Except.ok.inj h
      exact ⟨Or.inr (later_le_nanoseconds _), fun _ => later_le_nanoseconds _⟩
    · obtain rfl := Except.ok.inj h
      refine ⟨Or.inl rfl, fun herror => ?_⟩
      rcases herror with herror | herror
      · exact absurd hretry herror
      · exact absurd herror hflood

/-- What a dialing function does : the queries it adds, of which only the last is refused,
and the block, which a flood sets. -/
structure Asked (r : Replies) (f f' : Frame) (qs : List Td.Query) : Prop where
  trace : ∃ obs, f'.deps.trace = f.deps.trace ++ obs ∧ queriesOf obs = qs
  last : LastRefused r qs
  block : BlockedLater r f f'
  flood : ∀ q ∈ qs, ∀ error, r.RefusesWith error q → error.IsFlood → r.later ≤ f'.deps.blockUntil

theorem asked_dialFailed {error : Td.Error} {q : Td.Query}
    (hreply : ∀ error', r.RefusesWith error' q → error' = error)
    (h : dialFailed settings r error (f.send q) = .ok f') : Asked r f f' [q] := by
  obtain ⟨hblock, hflood⟩ := blockedLater_of_parseError h
  refine ⟨?_, lastRefused_singleton, hblock, ?_⟩
  · obtain rfl | ⟨t, rfl⟩ := exists_block_of_parseError h <;>
      exact ⟨[.query f.ctx.id q, .failed f.ctx.id _], List.append_assoc _ _ _, rfl⟩
  · intro q' hq' error' hrefused herror
    obtain rfl := List.mem_singleton.1 hq'
    obtain rfl := hreply error' hrefused
    exact hflood herror

/-- One query that is granted, whatever becomes of it. -/
theorem asked_granted {q : Td.Query} (hgranted : ¬r.Refuses q)
    (htrace : ∃ obs, f'.deps.trace = f.deps.trace ++ obs ∧ queriesOf obs = [q])
    (hblock : f'.deps.blockUntil = f.deps.blockUntil) : Asked r f f' [q] := by
  refine ⟨htrace, lastRefused_singleton, Or.inl hblock, ?_⟩
  intro q' hq' error hrefused
  obtain rfl := List.mem_singleton.1 hq'
  exact absurd hrefused.refuses hgranted

theorem asked_dialById {id : ℤ} (h : dialById settings r id f = .ok f') :
    Asked r f f' [.createCall id (callProtocol settings) false] := by
  unfold dialById at h
  split at h
  · rename_i error hreply
    refine asked_dialFailed ?_ h
    intro error' herror
    exact Except.error.inj (herror.symm.trans hreply)
  · rename_i callId hreply
    obtain rfl := Except.ok.inj h
    refine asked_granted ?_ ⟨[.query _ _, .tgAssociated _ _], List.append_assoc _ _ _, rfl⟩ rfl
    simp [Replies.Refuses, hreply]

/-- A lookup that is granted, and then the call. -/
theorem asked_lookup {q q' : Td.Query} {g : Cache → Cache} (hgranted : ¬r.Refuses q)
    (h : Asked r ((f.send q).modifyCache g) f' [q']) : Asked r f f' [q, q'] := by
  obtain ⟨obs, htrace, hqs⟩ := h.trace
  refine ⟨⟨.query f.ctx.id q :: obs, ?_, ?_⟩, lastRefused_pair hgranted, h.block, ?_⟩
  · simpa using htrace
  · have hcons : queriesOf (.query f.ctx.id q :: obs) = q :: queriesOf obs := rfl
    rw [hcons, hqs]
  · intro q'' hq'' error hrefused herror
    obtain rfl | hq'' := List.mem_cons.1 hq''
    · exact absurd hrefused.refuses hgranted
    · exact h.flood q'' hq'' error hrefused herror

theorem asked_dialByPhone (h : dialByPhone settings r f = .ok f') : ∃ qs, Asked r f f' qs := by
  unfold dialByPhone at h
  split at h
  · exact ⟨_, asked_dialById h⟩
  · split at h
    · rename_i error hreply
      refine ⟨_, asked_dialFailed ?_ h⟩
      intro error' herror
      exact Except.error.inj (herror.symm.trans hreply)
    · rename_i contacts hreply
      have hgranted : ¬r.Refuses (.importContacts [f.ctx.extPhone]) := by
        simp [Replies.Refuses, hreply]
      dsimp only at h
      split_ifs at h
      · obtain rfl := Except.ok.inj h
        exact ⟨_, asked_granted hgranted
          ⟨[.query _ _, .failed _ _], List.append_assoc _ _ _, rfl⟩ rfl⟩
      · exact ⟨_, asked_lookup hgranted (asked_dialById h)⟩

theorem asked_dialByUsername (h : dialByUsername settings r f = .ok f') :
    ∃ qs, Asked r f f' qs := by
  unfold dialByUsername at h
  split at h
  · exact ⟨_, asked_dialById h⟩
  · split at h
    · rename_i error hreply
      refine ⟨_, asked_dialFailed ?_ h⟩
      intro error' herror
      exact Except.error.inj (herror.symm.trans hreply)
    · rename_i chat hreply
      have hgranted : ¬r.Refuses (.searchPublicChat f.ctx.extUsername) := by
        simp [Replies.Refuses, hreply]
      split_ifs at h
      · exact ⟨_, asked_lookup hgranted (asked_dialById h)⟩
      · obtain rfl := Except.ok.inj h
        exact ⟨_, asked_granted hgranted
          ⟨[.query _ _, .failed _ _], List.append_assoc _ _ _, rfl⟩ rfl⟩

theorem asked_dialTg (h : dialTg settings r f = .ok f') : ∃ qs, Asked r f f' qs := by
  unfold dialTg at h
  split_ifs at h
  · obtain rfl := Except.ok.inj h
    exact ⟨[], ⟨[.failed _ _], rfl, rfl⟩, lastRefused_nil, Or.inl rfl, by simp⟩
  · exact asked_dialByUsername h
  · exact asked_dialByPhone h
  · exact ⟨_, asked_dialById h⟩

/-- While calls are blocked nothing is asked. -/
theorem dialTg_of_blocked (settings : Settings) (h : r.now < f.deps.blockUntil) : ∃ prm,
    dialTg settings r f = .ok (f.emplaceError prm) := by
  rw [dialTg, if_pos h]
  exact ⟨_, rfl⟩

/-- The block never moves to an earlier time, if the clock does not go back. -/
theorem blockUntil_le_of_dialTg (hclock : r.now ≤ r.later) (h : dialTg settings r f = .ok f') :
    f.deps.blockUntil ≤ f'.deps.blockUntil := by
  by_cases hblocked : r.now < f.deps.blockUntil
  · obtain ⟨prm, hok⟩ := dialTg_of_blocked settings hblocked
    obtain rfl := Except.ok.inj (hok.symm.trans h)
    exact Int.le_refl _
  · obtain ⟨qs, hasked⟩ := asked_dialTg h
    obtain hsame | hlater := hasked.block
    · exact Int.le_of_eq hsame.symm
    · omega

end Actions

/-! ## The other actions -/

/-- The entry is an execution of `DialTg`. -/
def Obs.IsDialTg : Obs → Prop
  | .action _ .dialTg _ => True
  | _ => False

/-- The cache and the block are as they were, and `DialTg` was not executed. -/
structure Deps.Keeps (d d' : Deps) : Prop where
  cache : d'.cache = d.cache
  block : d'.blockUntil = d.blockUntil
  trace : ∃ obs, d'.trace = d.trace ++ obs ∧ ∀ o ∈ obs, ¬o.IsDialTg

section keeps

variable {settings : Settings} {r : Replies} {e : Event} {d d₁ d' : Deps} {f f' : Frame}

theorem Deps.Keeps.refl (d : Deps) : Keeps d d :=
  ⟨rfl, rfl, [], by simp, by simp⟩

theorem Deps.Keeps.trans (h₁ : Keeps d d₁) (h : Keeps d₁ d') : Keeps d d' := by
  obtain ⟨obs₁, htrace₁, hobs₁⟩ := h₁.trace
  obtain ⟨obs, htrace, hobs⟩ := h.trace
  refine ⟨h.cache.trans h₁.cache, h.block.trans h₁.block, obs₁ ++ obs, ?_, ?_⟩
  · rw [htrace, htrace₁, List.append_assoc]
  · intro o ho
    rcases List.mem_append.1 ho with ho | ho
    · exact hobs₁ o ho
    · exact hobs o ho

/-- An entry other than an execution of `DialTg` is recorded. -/
theorem Deps.Keeps.log {o : Obs} (h : Keeps d f.deps) (ho : ¬o.IsDialTg) :
    Keeps d (f.log o).deps :=
  h.trans ⟨rfl, rfl, [o], rfl, by simpa using ho⟩

theorem Deps.Keeps.emplaceError {prm : Sip.CallOpParam} (h : Keeps d f.deps) :
    Keeps d (f.emplaceError prm).deps :=
  h.trans ⟨rfl, rfl, [.failed _ _], rfl, by simp [Obs.IsDialTg]⟩

theorem Deps.Keeps.recover {x : Except Sip.Exn Unit} (h : Keeps d f.deps)
    (hok : f.recover x = .ok f') : Keeps d f'.deps := by
  unfold Frame.recover at hok
  split at hok
  · obtain rfl := Except.ok.inj hok
    exact h
  · obtain rfl := Except.ok.inj hok
    exact h.emplaceError
  · obtain rfl := Except.ok.inj hok
    exact h.emplaceError
  · simp at hok

theorem Deps.Keeps.callSip {op : SipOp} {id : ℤ} (h : Keeps d f.deps) :
    Keeps d (f.callSip op id).deps :=
  h.log not_false

theorem Deps.Keeps.withSip {sip : Sip.Client} (h : Keeps d f.deps) : Keeps d (f.withSip sip).deps :=
  h.trans ⟨rfl, rfl, [], by simp, by simp⟩

theorem keeps_answerWith {prm : Sip.CallOpParam} (h : d.Keeps f.deps)
    (hok : Actions.answerWith r prm f = .ok f') : d.Keeps f'.deps :=
  h.callSip.recover hok

theorem keeps_acceptIncomingSip {i : Sip.IncomingCall} (h : d.Keeps f.deps)
    (hok : Actions.acceptIncomingSip r i f = .ok f') : d.Keeps f'.deps := by
  unfold Actions.acceptIncomingSip at hok
  split at hok
  · exact keeps_answerWith (f := f.modifyCtx _) h hok
  · obtain rfl := Except.ok.inj hok
    exact h.emplaceError

theorem keeps_dialSip {u : Td.UpdateCall} (h : d.Keeps f.deps)
    (hok : Actions.dialSip settings r u f = .ok f') : d.Keeps f'.deps := by
  unfold Actions.dialSip at hok
  dsimp only at hok
  have hasked : d.Keeps (f.send (.getUser u.userId)).deps := h.log id
  split at hok
  · simp at hok
  · split at hok
    · obtain rfl := Except.ok.inj hok
      exact (hasked.log id).withSip.log id
    · obtain rfl := Except.ok.inj hok
      exact (hasked.log id).emplaceError
    · simp at hok

theorem keeps_answerTg (h : d.Keeps f.deps) :
    d.Keeps (Actions.answerTg settings r f).deps := by
  unfold Actions.answerTg
  have hasked : d.Keeps (f.send (.acceptCall f.ctx.tgCallId (callProtocol settings))).deps :=
    h.log id
  dsimp only
  split
  · exact hasked.emplaceError
  · exact hasked

theorem keeps_createTgVoip {u : Td.UpdateCall} (h : d.Keeps f.deps) :
    d.Keeps (Actions.createTgVoip settings u f).deps := by
  unfold Actions.createTgVoip
  split <;> exact h

theorem keeps_bridgeAudio (h : d.Keeps f.deps) (hok : Actions.bridgeAudio r f = .ok f') :
    d.Keeps f'.deps := by
  unfold Actions.bridgeAudio at hok
  split at hok
  · simp at hok
  · exact h.callSip.recover hok

theorem keeps_dialDtmf {m : Td.UpdateNewMessage} (h : d.Keeps f.deps)
    (hok : Actions.dialDtmf r m f = .ok f') : d.Keeps f'.deps := by
  unfold Actions.dialDtmf at hok
  split at hok
  · obtain rfl := Except.ok.inj hok
    exact h
  · split at hok
    · obtain rfl := Except.ok.inj hok
      exact h.callSip
    · obtain rfl := Except.ok.inj hok
      exact h.callSip.log id
    · simp at hok

theorem keeps_discardTg (h : d.Keeps f.deps) : d.Keeps (Actions.discardTg r f).deps := by
  unfold Actions.discardTg
  split_ifs
  · exact h
  · dsimp only
    split
    · exact (h.log id).log id
    · exact h.log id

theorem keeps_cleanUp (h : d.Keeps f.deps) (hok : Actions.cleanUp r f = .ok f') :
    d.Keeps f'.deps := by
  unfold Actions.cleanUp Actions.hangupSip at hok
  have hstop : d.Keeps (Actions.stopController f).deps := by
    unfold Actions.stopController
    split_ifs
    · exact h.log id
    · exact h
  have hdiscard : d.Keeps (Actions.discardTg r (Actions.stopController f)).deps :=
    keeps_discardTg hstop
  split_ifs at hok
  · obtain rfl := Except.ok.inj hok
    exact hdiscard
  · split at hok
    · obtain rfl := Except.ok.inj hok
      exact hdiscard.callSip.withSip
    · obtain rfl := Except.ok.inj hok
      exact hdiscard.callSip.log id
    · simp at hok

/-- Every other action keeps the cache and the block. -/
theorem keeps_of_runAction {a : Action} (ha : a ≠ .dialTg)
    (hok : runAction settings r e a f = .ok f') : f.deps.Keeps f'.deps := by
  have hlog : f.deps.Keeps (f.log (.action f.ctx.id a e)).deps :=
    (Deps.Keeps.refl f.deps).log (by cases a <;> simp_all [Obs.IsDialTg])
  unfold runAction at hok
  dsimp only at hok
  generalize f.log (.action f.ctx.id a e) = f₀ at hok hlog
  split at hok
  · obtain rfl := Except.ok.inj hok
    exact hlog.log id
  · obtain rfl := Except.ok.inj hok
    exact hlog.log id
  · obtain rfl := Except.ok.inj hok
    exact hlog
  · obtain rfl := Except.ok.inj hok
    exact hlog
  · obtain rfl := Except.ok.inj hok
    exact hlog
  · exact keeps_cleanUp hlog hok
  · exact keeps_dialSip hlog hok
  · obtain rfl := Except.ok.inj hok
    exact keeps_answerTg hlog
  · exact keeps_acceptIncomingSip hlog hok
  · exact keeps_answerWith hlog hok
  · obtain rfl := Except.ok.inj hok
    exact keeps_createTgVoip hlog
  · exact keeps_bridgeAudio hlog hok
  · obtain rfl := Except.ok.inj hok
    exact hlog
  · exact absurd rfl ha
  · exact keeps_dialDtmf hlog hok
  · obtain rfl := Except.ok.inj hok
    exact hlog

theorem keeps_of_perform {as : List Action} (has : .dialTg ∉ as)
    (hok : Table.perform (runAction settings r e) as f = .ok f') : f.deps.Keeps f'.deps := by
  induction as generalizing f with
  | nil =>
    obtain rfl := Except.ok.inj hok
    exact Deps.Keeps.refl _
  | cons a as ih =>
    rw [List.mem_cons, not_or] at has
    obtain ⟨f₁, h₁, h⟩ := Table.perform_cons_eq_ok_iff.1 hok
    exact (keeps_of_runAction (Ne.symm has.1) h₁).trans (ih has.2 h)

end keeps

/-! ## A bridge -/

section bridge

variable {settings : Settings} {r : Replies} {e : Event} {b b' : Bridge} {d d' : Deps}

/-- A bridge executes `DialTg` : the frame it starts in has the event and the action on
record. -/
structure Bridge.Dials (settings : Settings) (r : Replies) (e : Event) (b b' : Bridge)
    (d d' : Deps) : Prop where
  early : ∃ c, e = .callStateUpdate c
  state : b.state = .fromSip .sipWaitConfirm
  state' : b'.state = .fromSip .waitTg
  dial : Actions.dialTg settings r ((b.frame e d).log (.action b.ctx.id .dialTg e)) =
    .ok ⟨b'.ctx, d'⟩

/-- A bridge that handles an event executes `DialTg`, or keeps the cache and the block. -/
theorem Bridge.keeps_or_dials (hok : b.process settings r e d = .ok (b', d')) :
    d.Keeps d' ∨ b.Dials settings r e b' d d' := by
  have hframe : d.Keeps (b.frame e d).deps := (Deps.Keeps.refl d).log (f := ⟨b.ctx, d⟩) id
  cases ht : transition settings b.state e with
  | none =>
    rw [Bridge.process_of_none ht] at hok
    obtain ⟨rfl, rfl⟩ := Prod.mk.inj (Except.ok.inj hok)
    exact Or.inl hframe
  | some sas =>
    obtain ⟨s, as⟩ := sas
    have hmoves := moves_of_transition ht
    obtain ⟨hs, hperf⟩ := Bridge.perform_of_process hmoves hok
    by_cases has : .dialTg ∈ as
    · generalize hstate : b.state = s₀ at hmoves
      cases hmoves with
      | dialTg hearly =>
        refine Or.inr ⟨⟨_, rfl⟩, hstate, hs, ?_⟩
        exact Table.perform_singleton.symm.trans hperf
      | drop hdrop => cases hdrop <;> simp at has
      | endTg hends => cases hends <;> simp at has
      | endSip hends => cases hends <;> simp at has
      | _ => simp at has
    · have hall : .dialTg ∉ as ++ onEntry s := by cases s <;> simp [onEntry, has]
      exact Or.inl (hframe.trans (keeps_of_perform hall hperf))

/-- The entries of a bridge that executes `DialTg`. -/
theorem Bridge.Dials.exists_asked (h : b.Dials settings r e b' d d') :
    ∃ qs obs, Actions.Asked r ((b.frame e d).log (.action b.ctx.id .dialTg e)) ⟨b'.ctx, d'⟩ qs ∧
      d'.trace = d.trace ++ (.event b.ctx.id e :: .action b.ctx.id .dialTg e :: obs) ∧
      queriesOf (.event b.ctx.id e :: .action b.ctx.id .dialTg e :: obs) = qs := by
  obtain ⟨qs, hasked⟩ := Actions.asked_dialTg h.dial
  obtain ⟨obs, htrace, hqs⟩ := hasked.trace
  refine ⟨qs, obs, hasked, htrace.trans ?_, hqs⟩
  simp [Bridge.frame]

/-- A gateway that handles an event keeps the cache and the block, or one of its bridges
executes `DialTg`. -/
theorem Gateway.keeps_or_dials {g g' : Gateway} (h : g.processEvent settings r e = .ok g') :
    g.deps.Keeps g'.deps ∨ ∃ pre b b' post, g.bridges = pre ++ b :: post ∧
      g'.bridges = pre ++ b' :: post ∧ b.Dials settings r e b' g.deps g'.deps := by
  obtain ⟨rfl, -⟩ | ⟨pre, b, post, c, b', d', hslot, hproc, rfl⟩ := Gateway.processEvent_cases h
  · exact Or.inl (Deps.Keeps.refl _)
  · obtain hkeeps | hdials := Bridge.keeps_or_dials hproc
    · exact Or.inl hkeeps
    · have hkeep : keep e b' = [b'] := by
        obtain ⟨c, rfl⟩ := hdials.early
        simp [keep, hdials.state']
      cases hslot with
      | existing split => exact Or.inr ⟨pre, b, b', post, split, by simp [hkeep], hdials⟩
      | new => simpa [newBridge] using hdials.state

end bridge

/-! ## The loop -/

namespace Node

variable {settings : Settings} {r : Replies} {n n₀ n₁ n' : Node} {m : Move} {ms : List Move}

/-- `DialTg` of a context did nothing but queue one error. -/
structure OnlyFails (c : CtxId) (obs : List Obs) (n n' : Node) : Prop where
  queries : queriesOf obs = []
  cache : n'.gateway.deps.cache = n.gateway.deps.cache
  contexts : n'.gateway.bridges.map Bridge.ctx = n.gateway.bridges.map Bridge.ctx
  errors : ∃ prm, n'.gateway.deps.internalEvents = n.gateway.deps.internalEvents ++ [⟨c, prm⟩]

/-- What a poll with these replies does about the block. If it executes `DialTg` while calls
are blocked, that fails at once; and after a flood it asks nothing more, and calls are
blocked. -/
def HeedsBlock (r : Replies) (n n' : Node) : Prop :=
  ∃ obs, n'.gateway.deps.trace = n.gateway.deps.trace ++ obs ∧
    ∀ c e, .action c .dialTg e ∈ obs →
      (r.now < n.gateway.deps.blockUntil → OnlyFails c obs n n') ∧
      ∀ pre q post error, queriesOf obs = pre ++ q :: post → r.RefusesWith error q →
        error.IsFlood → post = [] ∧ r.later ≤ n'.gateway.deps.blockUntil

/-- The clock does not go back between its two readings. -/
def Clocked : Move → Prop
  | .poll r => r.now ≤ r.later
  | _ => True

instance : DecidablePred Clocked
  | .poll r => inferInstanceAs (Decidable (r.now ≤ r.later))
  | .update _ => inferInstanceAs (Decidable True)
  | .incoming _ _ => inferInstanceAs (Decidable True)
  | .callState _ _ => inferInstanceAs (Decidable True)
  | .callMediaState _ _ => inferInstanceAs (Decidable True)

/-- A poll that keeps the cache and the block does not execute `DialTg`. -/
theorem heedsBlock_of_keeps (h : n.gateway.deps.Keeps n'.gateway.deps) : HeedsBlock r n n' := by
  obtain ⟨obs, htrace, hobs⟩ := h.trace
  exact ⟨obs, htrace, fun c e he => absurd trivial (hobs _ he)⟩

theorem heedsBlock_of_dials {e : Event} {pre post : List Bridge} {b b' : Bridge}
    (hsplit : n.gateway.bridges = pre ++ b :: post)
    (hsplit' : n'.gateway.bridges = pre ++ b' :: post)
    (h : b.Dials settings r e b' n.gateway.deps n'.gateway.deps) : HeedsBlock r n n' := by
  obtain ⟨qs, obs, hasked, htrace, hqs⟩ := h.exists_asked
  refine ⟨_, htrace, fun c e' hmem => ⟨fun hblocked => ?_, ?_⟩⟩
  · obtain ⟨prm, hok⟩ := Actions.dialTg_of_blocked settings (r := r)
      (f := (b.frame e n.gateway.deps).log (.action b.ctx.id .dialTg e)) hblocked
    obtain ⟨hctx, hdeps⟩ := Frame.mk.inj (Except.ok.inj (h.dial.symm.trans hok))
    have hobs : obs = [.failed b.ctx.id prm] := by
      rw [hdeps] at htrace
      simpa [Bridge.frame] using htrace.symm
    obtain ⟨hc, -⟩ : c = b.ctx.id ∧ e' = e := by
      simpa [hobs] using hmem
    refine ⟨?_, ?_, ?_, prm, ?_⟩
    · rw [hobs]
      rfl
    · rw [hdeps]
      rfl
    · rw [hsplit, hsplit', List.map_append, List.map_cons, hctx]
      simp [Bridge.frame]
    · rw [hdeps, hc]
      rfl
  · rw [hqs]
    intro pre' q post' error hsplit' hrefused hflood
    refine ⟨hasked.last pre' q post' hsplit' hrefused.refuses, ?_⟩
    exact hasked.flood q (by simp [hsplit']) error hrefused hflood

/-- Every poll heeds the block. -/
theorem heedsBlock_of_step (h : Step settings n (.poll r) n') : HeedsBlock r n n' := by
  cases h with
  | idle => exact heedsBlock_of_keeps (Deps.Keeps.refl _)
  | @handle n₁ _ e g taken hg =>
    obtain hkeeps | ⟨pre, b, b', post, hsplit, hsplit', hdials⟩ := Gateway.keeps_or_dials hg
    · refine heedsBlock_of_keeps (Deps.Keeps.trans ?_ hkeeps)
      obtain ⟨i, is, -, -, -, rfl⟩ | ⟨u, us, -, -, -, rfl⟩ | ⟨s, ss, -, -, -, rfl⟩ :=
        take_cases taken
      · exact ⟨rfl, rfl, [], by simp [Gateway.popError], by simp⟩
      · exact Deps.Keeps.refl _
      · exact Deps.Keeps.refl _
    · obtain ⟨c, rfl⟩ := hdials.early
      obtain ⟨i, is, -, -, he, -⟩ | ⟨u, us, -, -, he, -⟩ | ⟨s, ss, -, -, -, rfl⟩ :=
        take_cases taken
      · cases he
      · cases u <;> cases he
      · exact heedsBlock_of_dials hsplit hsplit' hdials

theorem blockUntil_le_of_step (h : Step settings n m n') (hclock : Clocked m) :
    n.gateway.deps.blockUntil ≤ n'.gateway.deps.blockUntil := by
  cases h with
  | update => exact Int.le_refl _
  | incoming => exact Int.le_refl _
  | callState => exact Int.le_refl _
  | callMediaState => exact Int.le_refl _
  | idle => exact Int.le_refl _
  | @handle n₁ _ e g taken hg =>
    have hsame : n₁.gateway.deps.blockUntil = n.gateway.deps.blockUntil := by
      obtain ⟨i, is, -, -, -, rfl⟩ | ⟨u, us, -, -, -, rfl⟩ | ⟨s, ss, -, -, -, rfl⟩ :=
        take_cases taken <;> rfl
    rw [← hsame]
    obtain hkeeps | ⟨pre, b, b', post, -, -, hdials⟩ := Gateway.keeps_or_dials hg
    · exact Int.le_of_eq hkeeps.block.symm
    · exact Actions.blockUntil_le_of_dialTg hclock hdials.dial

/-- The flood block is respected, from any state on, in every run with a clock that does not go
back : every poll heeds the block, and the block does not move to an earlier time. -/
theorem flood_of_run (h : Run (Restrict (Step settings) fun _ => Clocked) n₀ ms n) :
    n₀.gateway.deps.blockUntil ≤ n.gateway.deps.blockUntil ∧
      ∀ r n', Step settings n (.poll r) n' → HeedsBlock r n n' := by
  refine ⟨?_, fun r n' => heedsBlock_of_step⟩
  refine h.invariant (fun n => n₀.gateway.deps.blockUntil ≤ n.gateway.deps.blockUntil) ?_
    (Int.le_refl _)
  intro n m n' hle hstep
  exact Int.le_trans hle (blockUntil_le_of_step hstep.1 hstep.2)

/-- A SIP call is refused with a flood, when the clock reads 5 and then 7; a second one is at
the point where it is dialed. -/
def flooded : List Move :=
  let r : Replies := .granting 0 9
  let refused : Replies := { r with
    searchPublicChat := .error ⟨400, "PEER_FLOOD"⟩, now := 5, later := 7 }
  [.incoming 0 "tg#bob", .poll r, .poll r, .poll r,
    .callState 0 .early, .poll r, .poll r, .poll refused,
    .incoming 1 "tg#eve", .callState 1 .early, .poll r, .poll r, .poll r, .poll r, .poll r]

/-- The loop after some moves with a clock that does not go back. -/
def execClocked (ms : List Move) : Option Node :=
  exec (guarded (fun _ => Clocked) (next { callbackUri := "sip:pbx" })) (initial 1 .empty 0) ms

theorem flood_of_run_flooded :
    (execClocked flooded).map (·.gateway.deps.blockUntil) = some (7 + 86400 * 10 ^ 9) ∧
      ∀ n, execClocked flooded = some n → 0 ≤ n.gateway.deps.blockUntil ∧
        ∀ r n', Step { callbackUri := "sip:pbx" } n (.poll r) n' → HeedsBlock r n n' :=
  ⟨by decide, fun _ h => flood_of_run (Run.of_guarded (fun _ _ _ => step_of_next) h)⟩

end Node

end TelegramProvider
