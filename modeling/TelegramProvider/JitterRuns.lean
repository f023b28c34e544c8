import TelegramProvider.JitterBuffer
import TelegramProvider.Passing

/-!
# What the jitter buffer plays

`JitterBuffer.safe_of_run` : in every run no operation faults, each packet has a buffer of its own,
and it is played no more often than it came. `JitterBuffer.increasing_of_run` : until a packet comes
after a reset, the timestamps that are played increase. `JitterBuffer.minDelay_le_of_run` : the
delay is raised once at most.

Each operation has one lemma that says what it does to the packets, the timestamp and the delay, and
the runs go by these.
-/

set_option autoImplicit false

namespace TelegramProvider

open Runs Pools

namespace JitterBuffer

/-! ## Operations -/

/-- The packets that wait. -/
def packets (b : JitterBuffer) : List Packet :=
  held b.slots b.pool

/-- What every run keeps. -/
structure Safe (b : JitterBuffer) : Prop where
  count : b.pool.count = slotCount
  length : b.slots.length = slotCount
  tidy : Tidy b.slots b.pool

/-- Nothing but the slots has changed. -/
def Refills (b b' : JitterBuffer) : Prop :=
  b' = { b with pool := b'.pool, slots := b'.slots }

/-- The delay is kept, and a bar to raise it is not lifted. -/
structure Steady (b b' : JitterBuffer) : Prop where
  minDelay : b'.minDelay = b.minDelay
  barred : b'.dontIncMinDelay = 0 → b.dontIncMinDelay = 0

/-- The timestamp does not go back, and there is no reset. -/
structure Onward (b b' : JitterBuffer) : Prop extends Steady b b' where
  next : b.nextTimestamp ≤ b'.nextTimestamp
  wasReset : b'.wasReset = b.wasReset

section operations

variable {c : Config} {b b' : JitterBuffer} {i : ℕ} {s : Slot} {p : Slot → Bool} {pkt : Packet}

theorem Steady.trans {b₁ : JitterBuffer} (h : b.Steady b₁) (h' : b₁.Steady b') : b.Steady b' :=
  ⟨h'.minDelay.trans h.minDelay, fun hzero => h.barred (h'.barred hzero)⟩

theorem Onward.trans {b₁ : JitterBuffer} (h : b.Onward b₁) (h' : b₁.Onward b') : b.Onward b' :=
  ⟨h.toSteady.trans h'.toSteady, Int.le_trans h.next h'.next, h'.wasReset.trans h.wasReset⟩

theorem Onward.refl (b : JitterBuffer) : b.Onward b :=
  ⟨⟨rfl, id⟩, Int.le_refl _, rfl⟩

theorem Refills.onward (h : b.Refills b') : b.Onward b' := by
  rw [h]
  exact ⟨⟨rfl, id⟩, Int.le_refl _, rfl⟩

theorem onward_advance : b.Onward (b.advance c) :=
  ⟨⟨rfl, id⟩, by simp only [advance]; omega, rfl⟩

theorem safe_new (c : Config) : Safe (new c) where
  count := rfl
  length := List.length_replicate
  tidy := by
    have hempty : ∀ s ∈ (new c).slots, s = {} := fun s hs => List.eq_of_mem_replicate hs
    have hpackets : held (new c).slots (new c).pool = [] :=
      List.filterMap_eq_nil_iff.2 fun s hs => by rw [hempty s hs]; rfl
    have hbuffers : (new c).slots.filterMap Slot.buffer = [] :=
      List.filterMap_eq_nil_iff.2 fun s hs => by rw [hempty s hs]
    refine ⟨?_, by simp [hpackets], fun s hs => ?_⟩
    · rw [hbuffers]
      exact ⟨List.nodup_nil, fun i => by simp [new]⟩
    · rw [hempty s hs]
      exact nofun

theorem exists_clear (h : Safe b) (hi : b.slots[i]? = some s) (hs : s.live = true) : ∃ b' pkt,
    b.clear i = some b' ∧ Safe b' ∧ b.Refills b' ∧ s.packet? b.pool = some pkt ∧
      b.packets.Perm (pkt :: b'.packets) ∧ b'.slots[i]? = some { s with buffer := none } := by
  obtain ⟨pre, post, hslots, rfl⟩ := exists_split_of_getElem? hi
  obtain ⟨pool, pkt, hreuse, -, hcount, hpkt, htidy, hheld⟩ := (hslots ▸ h.tidy).clear hs
  refine ⟨{ b with pool, slots := pre ++ { s with buffer := none } :: post }, pkt, ?_,
    ⟨hcount.trans h.count, ?_, htidy⟩, rfl, hpkt, ?_, by simp⟩
  · simp [clear, hslots, hreuse]
  · have hlen := h.length
    simp only [hslots, List.length_append, List.length_cons] at hlen ⊢
    exact hlen
  · unfold packets
    rw [hslots, hheld, held_append, held_cons, hpkt]
    exact List.perm_middle

theorem exists_releaseAll (h : Safe b) (p : Slot → Bool) : ∃ b',
    b.releaseAll p = some b' ∧ Safe b' ∧ b.Refills b' ∧ b'.packets.Sublist b.packets ∧
      ∀ s ∈ b'.slots, s.live = true → p s = false := by
  have hall : Tidy ([] ++ b.slots) b.pool := h.tidy
  obtain ⟨slots, pool, hrelease, hcount, hlen, hclean, hsub, htidy⟩ := hall.release p
  exact ⟨{ b with slots, pool }, by simp [releaseAll, hrelease],
    ⟨hcount.trans h.count, hlen.trans h.length, htidy⟩, rfl, hsub, hclean⟩

theorem exists_reset (h : Safe b) : ∃ b', b.reset = some b' ∧ Safe b' ∧ b'.packets = [] ∧
    b'.wasReset = true ∧ b'.minDelay = b.minDelay ∧ b'.dontIncMinDelay = b.dontIncMinDelay := by
  obtain ⟨b', hreset, hsafe, hrefills, -, hclean⟩ := exists_releaseAll (b := { b with
    wasReset := true
    needBuffering := true
    lastPutTimestamp := 0
    lostSinceReset := 0
    gotSinceReset := 0
    outstandingDelayChange := 0
    dontChangeDelay := 0 }) ⟨h.count, h.length, h.tidy⟩ fun _ => true
  refine ⟨b', hreset, hsafe, List.filterMap_eq_nil_iff.2 fun s hs => ?_, ?_, ?_, ?_⟩
  · refine packet?_of_not_live ?_
    by_contra hlive
    exact absurd (hclean s hs (by simpa using hlive)) (by simp)
  · rw [hrefills]
  · rw [hrefills]
  · rw [hrefills]

/-- Of two packets one is before the greatest timestamp. -/
theorem exists_oldest_of_two (h : Safe b) (htwo : 2 ≤ b.getCurrentDelay) :
    ∃ i s, oldest 0 (none, 0xFFFFFFFF) b.slots = some i ∧ b.slots[i]? = some s ∧ s.live = true := by
  obtain ⟨s, hs, hlive, hlt⟩ : ∃ s ∈ b.slots, s.live = true ∧ s.timestamp < 0xFFFFFFFF := by
    have hmem : ∀ q ∈ b.packets, ∃ s ∈ b.slots, s.live = true ∧ s.timestamp = q.timestamp := by
      intro q hq
      obtain ⟨s, hs, hq⟩ := List.mem_filterMap.1 hq
      obtain ⟨j, hj, rfl⟩ := Option.map_eq_some_iff.1 hq
      exact ⟨s, hs, live_iff.2 ⟨j, hj⟩, rfl⟩
    rw [getCurrentDelay, countP_live b.slots b.pool] at htwo
    have hstamps := h.tidy.stamps
    cases hpackets : held b.slots b.pool with
    | nil => simp [hpackets] at htwo
    | cons q qs =>
      cases qs with
      | nil => simp [hpackets] at htwo
      | cons q' qs =>
        have hne : q.timestamp ≠ q'.timestamp := by
          rw [hpackets] at hstamps
          intro heq
          simp [heq] at hstamps
        by_cases hq : q.timestamp < 0xFFFFFFFF
        · obtain ⟨s, hs, hlive, hst⟩ := hmem q (by simp [packets, hpackets])
          exact ⟨s, hs, hlive, hst ▸ hq⟩
        · obtain ⟨s, hs, hlive, hst⟩ := hmem q' (by simp [packets, hpackets])
          refine ⟨s, hs, hlive, ?_⟩
          rw [hst]
          rw [UInt32.lt_iff_toNat_lt] at hq ⊢
          have hbound := q.timestamp.toNat_lt
          have hbound' := q'.timestamp.toNat_lt
          have hne' : q.timestamp.toNat ≠ q'.timestamp.toNat := fun heq =>
            hne (UInt32.toNat_inj.1 heq)
          have hmax : (0xFFFFFFFF : UInt32).toNat = 2 ^ 32 - 1 := rfl
          omega
  obtain ⟨i, hi, hsome | ⟨s', -, hget, hlive'⟩⟩ :=
    exists_oldest 0 (none, 0xFFFFFFFF) (Or.inr ⟨s, hs, hlive, hlt⟩)
  · cases hsome
  · exact ⟨i, s', hi, hget, hlive'⟩

theorem Safe.advance (h : Safe b) : Safe (b.advance c) :=
  ⟨h.count, h.length, h.tidy⟩

/-- There is always room for a packet, if a buffer with two packets may have a third. -/
theorem exists_makeRoom (h : Safe b) (hc : 2 ≤ c.maxUsedSlots) : ∃ i b' s,
    b.makeRoom c = some (i, b') ∧ Safe b' ∧ b.Onward b' ∧ b'.packets.Subperm b.packets ∧
      b'.slots[i]? = some s ∧ s.live = false := by
  unfold makeRoom
  by_cases hfull : (b.slots.findIdx? fun s => !s.live) = none ∨ c.maxUsedSlots ≤ b.getCurrentDelay
  · have htwo : 2 ≤ b.getCurrentDelay := by
      rcases hfull with hfull | hfull
      · have hall : b.slots.countP Slot.live = b.slots.length := by
          refine List.countP_eq_length.2 fun s hs => ?_
          simpa using List.findIdx?_eq_none_iff.1 hfull s hs
        rw [getCurrentDelay, hall, h.length]
        decide
      · exact Nat.le_trans hc hfull
    obtain ⟨i, s, hi, hget, hlive⟩ := exists_oldest_of_two h htwo
    obtain ⟨b', pkt, hclear, hsafe, hrefills, -, hperm, hget'⟩ :=
      exists_clear (b := b.advance c) h.advance hget hlive
    refine ⟨i, b', _, ?_, hsafe, onward_advance.trans hrefills.onward, ?_, hget', rfl⟩
    · rw [if_pos hfull]
      simp [hi, hclear]
    · exact ((List.sublist_cons_self pkt b'.packets).subperm).trans hperm.symm.subperm
  · rw [not_or] at hfull
    obtain ⟨i, hi⟩ := Option.ne_none_iff_exists'.1 hfull.1
    obtain ⟨pre, s, post, hslots, rfl, hdead, -⟩ := Keyed.exists_split_of_findIdx? hi
    refine ⟨pre.length, b, s, ?_, h, .refl b, List.Subperm.refl _, by simp [hslots],
      by simpa using hdead⟩
    rw [if_neg (not_or.2 hfull)]
    simp [hi]

/-- A packet that is not there is stored in a free slot. -/
theorem safe_store (h : Safe b) (hi : b.slots[i]? = some s) (hs : s.live = false)
    (hnew : pkt.timestamp ∉ b.packets.map Packet.timestamp) (hsize : pkt.data.length ≤ slotSize) :
    Safe (b.store pkt i) ∧ b.Refills (b.store pkt i) ∧
      (b.store pkt i).packets.Perm (pkt :: b.packets) := by
  obtain ⟨pre, post, hslots, rfl⟩ := exists_split_of_getElem? hi
  have hroom : (pre ++ s :: post).length ≤ b.pool.count :=
    hslots ▸ Nat.le_of_eq (h.length.trans h.count.symm)
  obtain ⟨j, pool, hget, hcount, hperm, htidy⟩ :=
    (hslots ▸ h.tidy).store hs hroom (by simpa [packets, hslots] using hnew) hsize
  have hstore : b.store pkt pre.length = { b with
      pool := pool.write j pkt.data
      slots := pre ++ ⟨some j, pkt.data.length, pkt.timestamp, pkt.isEC⟩ :: post } := by
    simp [store, hget, hslots]
  rw [hstore]
  refine ⟨⟨hcount.trans h.count, ?_, htidy⟩, rfl, ?_⟩
  · have hlen := h.length
    simpa [hslots] using hlen
  · simpa [packets, hslots] using hperm

/-- A packet that is there is replaced. -/
theorem safe_overwrite (h : Safe b) (hi : b.slots[i]? = some s) (hs : s.live = true)
    (hstamp : s.timestamp = pkt.timestamp) (hsize : pkt.data.length ≤ slotSize) :
    Safe (b.overwrite pkt i) ∧ b.Refills (b.overwrite pkt i) ∧
      (b.overwrite pkt i).packets.Subperm (pkt :: b.packets) := by
  obtain ⟨pre, post, hslots, rfl⟩ := exists_split_of_getElem? hi
  obtain ⟨j, hj⟩ := live_iff.1 hs
  obtain ⟨hheld, htidy⟩ := (hslots ▸ h.tidy).overwrite hj hstamp hsize
  have hstore : b.overwrite pkt pre.length = { b with
      pool := b.pool.write j pkt.data
      slots := pre ++ ⟨some j, pkt.data.length, s.timestamp, pkt.isEC⟩ :: post } := by
    obtain ⟨buffer, size, timestamp, isEC⟩ := s
    obtain rfl := hj
    simp [overwrite, hslots]
  rw [hstore]
  refine ⟨⟨h.count, ?_, htidy⟩, rfl, ?_⟩
  · have hlen := h.length
    simpa [hslots] using hlen
  · unfold packets
    rw [hheld, hslots, held_append, held_cons]
    refine List.perm_middle.subperm.trans ((List.Sublist.cons_cons pkt ?_).subperm)
    simp

theorem not_mem_stamps (hnone : (b.slots.findIdx? fun s => s.live && s.timestamp == pkt.timestamp) =
    none) : pkt.timestamp ∉ b.packets.map Packet.timestamp := by
  intro hmem
  obtain ⟨q, hq, hstamp⟩ := List.mem_map.1 hmem
  obtain ⟨s, hs, hq⟩ := List.mem_filterMap.1 hq
  obtain ⟨j, hj, rfl⟩ := Option.map_eq_some_iff.1 hq
  have hnot := List.findIdx?_eq_none_iff.1 hnone s hs
  simp [live_iff.2 ⟨j, hj⟩, show s.timestamp = pkt.timestamp from hstamp] at hnot

theorem safe_countNew (h : Safe b) (timestamp : UInt32) : Safe (b.countNew c timestamp) ∧
    (b.countNew c timestamp).packets = b.packets ∧ b.Steady (b.countNew c timestamp) ∧
      (b.wasReset = false → b.Onward (b.countNew c timestamp)) := by
  unfold countNew
  cases hreset : b.wasReset with
  | true => exact ⟨⟨h.count, h.length, h.tidy⟩, rfl, ⟨rfl, id⟩, nofun⟩
  | false =>
    exact ⟨⟨h.count, h.length, h.tidy⟩, rfl, ⟨rfl, id⟩,
      fun _ => ⟨⟨rfl, id⟩, Int.le_refl _, hreset.symm⟩⟩

theorem safe_countLate (h : Safe b) (timestamp : UInt32) : Safe (b.countLate timestamp) ∧
    (b.countLate timestamp).packets = b.packets ∧ b.Onward (b.countLate timestamp) := by
  unfold countLate
  dsimp only
  split_ifs <;> exact ⟨⟨h.count, h.length, h.tidy⟩, rfl, ⟨rfl, id⟩, Int.le_refl _, rfl⟩

/-- `PutInternal` does not fault, and at most one packet more waits. Without a reset before, the
timestamp does not go back. -/
theorem exists_putInternal (h : Safe b) (hc : 2 ≤ c.maxUsedSlots) (pkt : Packet)
    (overwriteExisting : Bool) : ∃ b', b.putInternal c pkt overwriteExisting = some b' ∧ Safe b' ∧
      b'.packets.Subperm (pkt :: b.packets) ∧ b.Steady b' ∧ (b.wasReset = false → b.Onward b') := by
  have hkeep : b.packets.Subperm (pkt :: b.packets) := (List.sublist_cons_self pkt _).subperm
  unfold putInternal
  by_cases hsize : slotSize < pkt.data.length
  · exact ⟨b, if_pos hsize, h, hkeep, (Onward.refl b).toSteady, fun _ => .refl b⟩
  rw [if_neg hsize]
  rw [Nat.not_lt] at hsize
  cases hfind : b.slots.findIdx? fun s => s.live && s.timestamp == pkt.timestamp with
  | some i =>
    obtain ⟨pre, s, post, hslots, rfl, hs, -⟩ := Keyed.exists_split_of_findIdx? hfind
    simp only [Bool.and_eq_true, beq_iff_eq] at hs
    cases overwriteExisting with
    | false => exact ⟨b, rfl, h, hkeep, (Onward.refl b).toSteady, fun _ => .refl b⟩
    | true =>
      have hget : b.slots[pre.length]? = some s := by simp [hslots]
      obtain ⟨hsafe, hrefills, hsub⟩ := safe_overwrite h hget hs.1 hs.2 hsize
      exact ⟨_, rfl, hsafe, hsub, hrefills.onward.toSteady, fun _ => hrefills.onward⟩
  | none =>
    obtain ⟨hsafe₁, hpackets₁, hsteady₁, honward₁⟩ := safe_countNew (c := c) h pkt.timestamp
    obtain ⟨b₂, hrelease, hsafe₂, hrefills₂, hsub₂, -⟩ := exists_releaseAll hsafe₁ fun s =>
      (s.timestamp.toNat : ℤ) < (b.countNew c pkt.timestamp).nextTimestamp - 1
    obtain ⟨hsafe₃, hpackets₃, honward₃⟩ := safe_countLate hsafe₂ pkt.timestamp
    obtain ⟨i, b₄, s, hroom, hsafe₄, honward₄, hsub₄, hget, hdead⟩ := exists_makeRoom hsafe₃ hc
    have hsub : b₄.packets.Subperm b.packets := by
      refine hsub₄.trans ?_
      rw [hpackets₃, ← hpackets₁]
      exact hsub₂.subperm
    have hnew : pkt.timestamp ∉ b₄.packets.map Packet.timestamp := fun hmem =>
      not_mem_stamps hfind (List.map_subset Packet.timestamp hsub.subset hmem)
    obtain ⟨hsafe, hrefills, hperm⟩ := safe_store hsafe₄ hget hdead hnew hsize
    have honward : (b.countNew c pkt.timestamp).Onward (b₄.store pkt i) :=
      hrefills₂.onward.trans (honward₃.trans (honward₄.trans hrefills.onward))
    refine ⟨_, ?_, hsafe, hperm.subperm.trans ((List.subperm_cons pkt).2 hsub),
      hsteady₁.trans honward.toSteady, fun hreset => (honward₁ hreset).trans honward⟩
    dsimp only
    rw [hrelease, Option.bind_some, hroom]
    rfl

theorem safe_countLost (h : Safe b) (offset : ℤ) : Safe (b.countLost offset) ∧
    (b.countLost offset).packets = b.packets ∧ b.Onward (b.countLost offset) := by
  unfold countLost
  split_ifs <;> exact ⟨⟨h.count, h.length, h.tidy⟩, rfl, ⟨rfl, id⟩, Int.le_refl _, rfl⟩

/-- What is lost bars the delay from being raised, and the reset does not lift that. -/
theorem exists_restart (h : Safe b) : ∃ b', b.restart = some b' ∧ Safe b' ∧ b'.packets = [] ∧
    b'.wasReset = true ∧ b.Steady b' := by
  obtain ⟨b', hreset, hsafe, hnone, hwas, hdelay, hbarred⟩ := exists_reset (b := { b with
    dontIncMinDelay := 16
    dontDecMinDelay := b.dontDecMinDelay + 128
    nextTimestamp := b.nextTimestamp - (b.minDelay - b.getCurrentDelay : ℕ)
    lostCount := 0 }) ⟨h.count, h.length, h.tidy⟩
  refine ⟨b', hreset, hsafe, hnone, hwas, hdelay, fun hzero => ?_⟩
  rw [hbarred] at hzero
  exact absurd hzero (by simp)

/-- What `GetInternal` can do : take out the packet that is asked for, and go on to the next; find
none; or start again, with nothing. -/
inductive Fetched (c : Config) (len : ℕ) (offset : ℤ) (b : JitterBuffer) :
    Got → JitterBuffer → Prop
  | taken {got : Got} {pkt : Packet} {b' : JitterBuffer} (hgot : got = .ok pkt ∨ got = .tooBig)
      (hfits : slotSize ≤ len → got ≠ .tooBig)
      (hstamp : (pkt.timestamp.toNat : ℤ) = b.nextTimestamp + offset * c.step)
      (hpackets : b.packets.Perm (pkt :: b'.packets)) (honward : b.Onward b')
      (hnext : offset = 0 → b'.nextTimestamp = b.nextTimestamp + c.step) :
      Fetched c len offset b got b'
  | absent {got : Got} {b' : JitterBuffer} (hgot : got = .missing ∨ got = .buffering)
      (hpackets : b'.packets = b.packets) (honward : b.Onward b') : Fetched c len offset b got b'
  | restarted {b' : JitterBuffer} (hpackets : b'.packets = []) (hreset : b'.wasReset = true)
      (hsteady : b.Steady b') : Fetched c len offset b .missing b'

theorem exists_getInternal (h : Safe b) (len : ℕ) (offset : ℤ) (advance : Bool) : ∃ got b',
    b.getInternal c len offset advance = some (got, b') ∧ Safe b' ∧
      Fetched c len offset b got b' := by
  unfold getInternal
  dsimp only
  cases hfind : b.slots.findIdx? fun s =>
      s.live && (s.timestamp.toNat : ℤ) == b.nextTimestamp + offset * c.step with
  | some i =>
    obtain ⟨pre, s, post, hslots, rfl, hs, -⟩ := Keyed.exists_split_of_findIdx? hfind
    simp only [Bool.and_eq_true, beq_iff_eq] at hs
    have hget : b.slots[pre.length]? = some s := by simp [hslots]
    obtain ⟨b', pkt, hclear, hsafe, hrefills, hpkt, hperm, -⟩ := exists_clear h hget hs.1
    have hstamp : pkt.timestamp = s.timestamp := by
      obtain ⟨j, -, rfl⟩ := Option.map_eq_some_iff.1 hpkt
      rfl
    have hfits : s.size ≤ slotSize := h.tidy.fits s (by simp [hslots]) hs.1
    dsimp only
    rw [hclear, Option.map_some, hget]
    have hnext : (pkt.timestamp.toNat : ℤ) = b.nextTimestamp + offset * c.step := hstamp ▸ hs.2
    refine ⟨_, _, rfl, ?_, .taken ?_ ?_ hnext ?_ ?_ ?_⟩
    · split_ifs <;> exact ⟨hsafe.count, hsafe.length, hsafe.tidy⟩
    · dsimp only
      rw [hpkt]
      split_ifs
      · exact Or.inr rfl
      · exact Or.inl rfl
    · intro hle
      dsimp only
      rw [hpkt, if_neg (by omega)]
      exact nofun
    · split_ifs <;> exact hperm
    · have honward := hrefills.onward
      split_ifs
      · exact ⟨⟨honward.minDelay, honward.barred⟩,
          Int.le_trans honward.next onward_advance.next, honward.wasReset⟩
      · exact ⟨⟨honward.minDelay, honward.barred⟩, honward.next, honward.wasReset⟩
    · intro hoffset
      rw [if_pos hoffset]
      simp only [JitterBuffer.advance]
      rw [hrefills]
  | none =>
    dsimp only
    obtain ⟨b₁, hb₁, hsafe₁, hpackets₁, honward₁⟩ : ∃ b₁,
        b₁ = (if advance then b.advance c else b) ∧ Safe b₁ ∧ b₁.packets = b.packets ∧
          b.Onward b₁ := by
      refine ⟨_, rfl, ?_⟩
      split_ifs
      · exact ⟨h.advance, rfl, onward_advance⟩
      · exact ⟨h, rfl, .refl b⟩
    rw [← hb₁]
    obtain ⟨hsafe₂, hpackets₂, honward₂⟩ := safe_countLost hsafe₁ offset
    split_ifs with hbuffering hlost
    · exact ⟨_, _, rfl, hsafe₁, .absent (Or.inr rfl) hpackets₁ honward₁⟩
    · obtain ⟨b', hrestart, hsafe, hnone, hreset, hsteady⟩ := exists_restart hsafe₂
      refine ⟨_, b', by rw [hrestart]; rfl, hsafe, .restarted hnone hreset ?_⟩
      exact (honward₁.trans honward₂).toSteady.trans hsteady
    · exact ⟨_, _, rfl, hsafe₂, .absent (Or.inl rfl) (hpackets₂.trans hpackets₁)
        (honward₁.trans honward₂)⟩

theorem exists_dropNext (h : Safe b) : ∃ b', b.dropNext = some b' ∧ Safe b' ∧ b.Onward b' ∧
    b'.packets.Subperm b.packets := by
  unfold dropNext
  cases hfind : b.slots.findIdx? fun s => (s.timestamp.toNat : ℤ) == b.nextTimestamp with
  | none => exact ⟨b, rfl, h, .refl b, List.Subperm.refl _⟩
  | some i =>
    obtain ⟨pre, s, post, hslots, rfl, -, -⟩ := Keyed.exists_split_of_findIdx? hfind
    have hget : b.slots[pre.length]? = some s := by simp [hslots]
    cases hs : s.live with
    | false => exact ⟨b, by simp [hget, hs], h, .refl b, List.Subperm.refl _⟩
    | true =>
      obtain ⟨b', pkt, hclear, hsafe, hrefills, -, hperm, -⟩ := exists_clear h hget hs
      exact ⟨b', by simp [hget, hs, hclear], hsafe, hrefills.onward,
        ((List.sublist_cons_self pkt b'.packets).subperm).trans hperm.symm.subperm⟩

theorem exists_dropFirst (h : Safe b) (n : ℕ) : ∃ b', b.dropFirst c n = some b' ∧ Safe b' ∧
    b.Onward b' ∧ b'.packets.Subperm b.packets := by
  induction n generalizing b with
  | zero => exact ⟨b, rfl, h, .refl b, List.Subperm.refl _⟩
  | succ n ih =>
    obtain ⟨b₁, hb₁, hsafe₁, honward₁, hsub₁⟩ := exists_dropNext h
    obtain ⟨b', hb', hsafe, honward, hsub⟩ := ih hsafe₁.advance
    refine ⟨b', ?_, hsafe, honward₁.trans (onward_advance.trans honward), hsub.trans hsub₁⟩
    rw [dropFirst, hb₁, Option.bind_some]
    exact hb'

/-- `HandleOutput` may drop packets at first, and then takes out the one that is asked for. -/
theorem exists_handleOutput (h : Safe b) (len : ℕ) (offset : ℤ) (advance : Bool) : ∃ b₁ got d b',
    b.handleOutput c len offset advance = some (got, d, b') ∧ Safe b' ∧ b.Onward b₁ ∧
      b₁.packets.Subperm b.packets ∧ Fetched c len offset b₁ got b' := by
  obtain ⟨b₁, hb₁, hsafe₁, honward₁, hsub₁⟩ : ∃ b₁,
      (if b.first then
        dropFirst c (if 5 < b.getCurrentDelay then b.getCurrentDelay - b.minDelay else 0)
          { b with first := false }
      else some b) = some b₁ ∧ Safe b₁ ∧ b.Onward b₁ ∧ b₁.packets.Subperm b.packets := by
    cases hfirst : b.first with
    | false => exact ⟨b, rfl, h, .refl b, List.Subperm.refl _⟩
    | true =>
      obtain ⟨b', hb', hsafe, honward, hsub⟩ :=
        exists_dropFirst (c := c) (b := { b with first := false }) ⟨h.count, h.length, h.tidy⟩ _
      exact ⟨b', hb', hsafe,
        ⟨⟨honward.minDelay, honward.barred⟩, honward.next, honward.wasReset⟩, hsub⟩
  obtain ⟨got, b₂, hget, hsafe₂, hfetched⟩ := exists_getInternal (c := c) hsafe₁ len offset advance
  unfold handleOutput
  dsimp only
  rw [hb₁, Option.bind_some, hget, Option.map_some]
  have hlater : ∀ k : ℤ, Safe { b₂ with outstandingDelayChange := k } ∧
      Fetched c len offset b₁ got { b₂ with outstandingDelayChange := k } := by
    intro k
    refine ⟨⟨hsafe₂.count, hsafe₂.length, hsafe₂.tidy⟩, ?_⟩
    cases hfetched with
    | taken hgot hfits hstamp hpackets honward hnext =>
      exact .taken hgot hfits hstamp hpackets
        ⟨⟨honward.minDelay, honward.barred⟩, honward.next, honward.wasReset⟩ hnext
    | absent hgot hpackets honward =>
      exact .absent hgot hpackets
        ⟨⟨honward.minDelay, honward.barred⟩, honward.next, honward.wasReset⟩
    | restarted hpackets hreset hsteady =>
      exact .restarted hpackets hreset ⟨hsteady.minDelay, hsteady.barred⟩
  dsimp only
  split_ifs
  · exact ⟨b₁, got, 40, _, rfl, (hlater _).1, honward₁, hsub₁, (hlater _).2⟩
  · exact ⟨b₁, got, 80, _, rfl, (hlater _).1, honward₁, hsub₁, (hlater _).2⟩
  · exact ⟨b₁, got, 80, _, rfl, hsafe₂, honward₁, hsub₁, hfetched⟩
  · exact ⟨b₁, got, 60, _, rfl, hsafe₂, honward₁, hsub₁, hfetched⟩

end operations

/-! ## Runs -/

/-- What is done with the buffer : a packet comes, the decoder asks, the controller ticks, it sets
the delay, or all starts again. -/
inductive Label
  | input (pkt : Packet)
  | output (len : ℕ) (offsetInSteps : ℤ) (advance : Bool)
  | tick (stats : Stats)
  | setMinPacketCount (count : ℕ)
  | reset

/-- The buffer after an operation, or `none` for a fault. -/
def next (c : Config) (b : JitterBuffer) : Label → Option JitterBuffer
  | .input pkt => b.handleInput c pkt
  | .output len offsetInSteps advance =>
    (b.handleOutput c len offsetInSteps advance).map fun p => p.2.2
  | .tick stats => some (b.tick c stats)
  | .setMinPacketCount count => some (b.setMinPacketCount count)
  | .reset => b.reset

/-- One operation. -/
def Step (c : Config) (b : JitterBuffer) (l : Label) (b' : JitterBuffer) : Prop :=
  b.next c l = some b'

/-- The packet that comes. -/
def put (_ : JitterBuffer) : Label → JitterBuffer → List Packet
  | .input pkt, _ => [pkt]
  | _, _ => []

/-- The packet that is played. -/
def played (c : Config) (b : JitterBuffer) : Label → List Packet
  | .output len offsetInSteps advance =>
    match b.handleOutput c len offsetInSteps advance with
    | some (.ok pkt, _) => [pkt]
    | _ => []
  | _ => []

section runs

variable {c : Config} {b b₀ b' : JitterBuffer} {l : Label} {ls : List Label}
  {ins outs : List Packet}

theorem run_of_exec (h : exec (next c) b₀ ls = some b) : Run (Step c) b₀ ls b :=
  Run.of_exec (fun _ _ _ hs => hs) h

theorem run_of_guarded {ok : JitterBuffer → Label → Prop} [∀ b l, Decidable (ok b l)]
    (h : exec (guarded ok (next c)) b₀ ls = some b) : Run (Restrict (Step c) ok) b₀ ls b :=
  Run.of_guarded (fun _ _ _ hs => hs) h

/-- What is played or waits has come, no more often than that. -/
def Accounts (c : Config) (b : JitterBuffer) (l : Label) (b' : JitterBuffer) : Prop :=
  ∀ p, (played c b l).count p + b'.packets.count p ≤ b.packets.count p + (put b l b').count p

/-- `Tick` leaves the packets and the timestamp as they are. -/
theorem tick_keeps (c : Config) (stats : Stats) (b : JitterBuffer) :
    (b.tick c stats).slots = b.slots ∧ (b.tick c stats).pool = b.pool ∧
      (b.tick c stats).nextTimestamp = b.nextTimestamp ∧
        (b.tick c stats).wasReset = (b.wasReset || stats.resync) := by
  unfold tick adaptDelay adaptPlayback
  dsimp only
  split_ifs <;> exact ⟨rfl, rfl, rfl, rfl⟩

theorem exists_step (h : Safe b) (hc : 2 ≤ c.maxUsedSlots) (l : Label) :
    ∃ b', Step c b l b' ∧ Safe b' ∧ Accounts c b l b' := by
  cases l with
  | input pkt =>
    obtain ⟨b', hput, hsafe, hsub, -⟩ := exists_putInternal h hc pkt (!pkt.isEC)
    refine ⟨b', hput, hsafe, fun p => ?_⟩
    have hcount := hsub.count_le p
    simp only [played, put, List.count_nil, List.count_cons, Nat.zero_add] at hcount ⊢
    omega
  | output len offset advance =>
    obtain ⟨b₁, got, d, b', hout, hsafe, -, hsub, hfetched⟩ :=
      exists_handleOutput (c := c) h len offset advance
    refine ⟨b', by simp [Step, next, hout], hsafe, fun p => ?_⟩
    have hcount := hsub.count_le p
    simp only [played, hout, put, List.count_nil, Nat.add_zero]
    cases hfetched with
    | @taken _ pkt _ hgot hfits hstamp hpackets =>
      have hperm := hpackets.count_eq p
      rw [List.count_cons] at hperm
      rcases hgot with rfl | rfl
      · simp only [List.count_singleton]
        omega
      · simp only [List.count_nil]
        omega
    | absent hgot hpackets =>
      rw [hpackets]
      rcases hgot with rfl | rfl <;> simpa using hcount
    | restarted hpackets => simp [hpackets]
  | tick stats =>
    obtain ⟨hslots, hpool, -⟩ := tick_keeps c stats b
    refine ⟨_, rfl, ⟨hpool ▸ h.count, hslots ▸ h.length, hslots ▸ hpool ▸ h.tidy⟩, fun p => ?_⟩
    simp [played, put, packets, hslots, hpool]
  | setMinPacketCount count =>
    exact ⟨_, rfl, ⟨h.count, h.length, h.tidy⟩, fun p => by simp [played, put]; exact Nat.le.refl⟩
  | reset =>
    obtain ⟨b', hreset, hsafe, hnone, -⟩ := exists_reset h
    exact ⟨b', hreset, hsafe, fun p => by simp [played, put, hnone]⟩

theorem safe_of_step (h : Safe b) (hc : 2 ≤ c.maxUsedSlots) (hstep : Step c b l b') :
    Safe b' ∧ Accounts c b l b' := by
  obtain ⟨b'', hstep', hsafe⟩ := exists_step h hc l
  obtain rfl := Option.some.inj (hstep.symm.trans hstep')
  exact hsafe

theorem safe_of_reached (hc : 2 ≤ c.maxUsedSlots) (hrun : Run (Step c) (new c) ls b) : Safe b :=
  hrun.invariant Safe (fun _ _ _ hs hstep => (safe_of_step hs hc hstep).1) (safe_new c)

/-- In every run no operation faults, each packet that waits has a buffer of the pool and a
timestamp of its own, a caller with the memory of a slot gets the packet, and each packet is played
no more often than it came. -/
theorem safe_of_run (hc : 2 ≤ c.maxUsedSlots) (hrun : Run (Step c) (new c) ls b) :
    (∀ l, ∃ b', Step c b l b') ∧ b.pool.Holds (b.slots.filterMap Slot.buffer) ∧
      (b.packets.map Packet.timestamp).Nodup ∧
      (∀ len offset advance got d b', slotSize ≤ len →
        b.handleOutput c len offset advance = some (got, d, b') → got ≠ .tooBig) ∧
      ∃ ins outs, Passing (Step c) put (played c) (new c) ls ins outs b ∧
        ∀ p, outs.count p + b.packets.count p ≤ ins.count p := by
  have hsafe : Safe b := safe_of_reached hc hrun
  refine ⟨fun l => ?_, hsafe.tidy.holds, hsafe.tidy.stamps, ?_, ?_⟩
  · obtain ⟨b', hstep, -⟩ := exists_step hsafe hc l
    exact ⟨b', hstep⟩
  · intro len offset advance got d b' hlen hout
    obtain ⟨b₁, got', d', b'', hout', -, -, -, hfetched⟩ :=
      exists_handleOutput (c := c) hsafe len offset advance
    obtain ⟨rfl, -⟩ := Prod.mk.inj (Option.some.inj (hout'.symm.trans hout))
    cases hfetched with
    | taken _ hfits => exact hfits hlen
    | absent hgot => rcases hgot with rfl | rfl <;> exact nofun
    | restarted => exact nofun
  · obtain ⟨ins, outs, hpass⟩ := hrun.passing put (played c)
    refine ⟨ins, outs, hpass, ?_⟩
    have hinv := hpass.invariant
      (fun ins outs b => Safe b ∧ ∀ p, outs.count p + b.packets.count p ≤ ins.count p) ?_ ?_
    · exact hinv.2
    · rintro ins outs b l b' ⟨hsafe, hle⟩ hstep
      obtain ⟨hsafe', hcount⟩ := safe_of_step hsafe hc hstep
      refine ⟨hsafe', fun p => ?_⟩
      have hle := hle p
      have hcount := hcount p
      simp only [List.count_append]
      omega
    · refine ⟨safe_new c, fun p => ?_⟩
      have hnone : (new c).packets = [] :=
        List.filterMap_eq_nil_iff.2 fun s hs => by rw [List.eq_of_mem_replicate hs]; rfl
      simp [hnone]

/-- A packet with one byte. -/
def Packet.short (timestamp : UInt32) (byte : UInt8) : Packet :=
  ⟨timestamp, [byte], false⟩

/-- The first packet of a stream. -/
def started : List Label :=
  [.setMinPacketCount 0, .input (.short 600 1)]

/-- Two more packets, the second before the first, and what the decoder asks for. -/
def disordered : List Label :=
  [.input (.short 720 3), .input (.short 660 2), .output 1024 0 true, .output 1024 0 true,
    .output 1024 0 true]

/-- The packets are all played, and there is room for more. -/
theorem safe_of_run_disordered : ∃ b,
    Run (Step .long) (new .long) (started ++ disordered) b ∧ b.packets = [] ∧
      b.nextTimestamp = 780 ∧ ∀ l, ∃ b', Step .long b l b' := by
  obtain ⟨b, hnone, hnext, hrun⟩ : ∃ b : JitterBuffer, b.packets = [] ∧ b.nextTimestamp = 780 ∧
      Run (Step .long) (new .long) (started ++ disordered) b :=
    ⟨_, by decide, by decide, run_of_exec rfl⟩
  exact ⟨b, hrun, hnone, hnext, (safe_of_run (by decide) hrun).1⟩

/-- The decoder asks for the next packet only, and no packet comes after a reset. -/
def InOrder (b : JitterBuffer) : Label → Prop
  | .input _ => b.wasReset = false
  | .output _ offsetInSteps _ => offsetInSteps = 0
  | _ => True

instance : DecidablePred (InOrder b)
  | .input _ => inferInstanceAs (Decidable (b.wasReset = false))
  | .output _ offsetInSteps _ => inferInstanceAs (Decidable (offsetInSteps = 0))
  | .tick _ => inferInstanceAs (Decidable True)
  | .setMinPacketCount _ => inferInstanceAs (Decidable True)
  | .reset => inferInstanceAs (Decidable True)

/-- What was played is in order and before what comes next, or nothing comes before a reset. -/
structure Ordered (outs : List Packet) (b : JitterBuffer) : Prop where
  pairwise : outs.Pairwise fun p q => p.timestamp < q.timestamp
  before : (∀ p ∈ outs, (p.timestamp.toNat : ℤ) < b.nextTimestamp) ∨
    (b.packets = [] ∧ b.wasReset = true)

theorem Ordered.onward (h : Ordered outs b) (honward : b.Onward b')
    (hpackets : b.packets = [] → b'.packets = []) : Ordered outs b' := by
  refine ⟨h.pairwise, h.before.imp (fun hbefore p hp => ?_) fun hnone => ?_⟩
  · exact Int.lt_of_lt_of_le (hbefore p hp) honward.next
  · exact ⟨hpackets hnone.1, honward.wasReset.trans hnone.2⟩

/-- A packet that is played at the next timestamp comes behind all the others. -/
theorem Ordered.snoc (h : Ordered outs b) {pkt : Packet}
    (hbefore : ∀ p ∈ outs, (p.timestamp.toNat : ℤ) < b.nextTimestamp)
    (hstamp : (pkt.timestamp.toNat : ℤ) = b.nextTimestamp)
    (hnext : b.nextTimestamp < b'.nextTimestamp) : Ordered (outs ++ [pkt]) b' := by
  refine ⟨List.pairwise_append.2 ⟨h.pairwise, List.pairwise_singleton _ _, ?_⟩, Or.inl ?_⟩
  · intro p hp q hq
    obtain rfl := List.mem_singleton.1 hq
    have hlt := hbefore p hp
    rw [UInt32.lt_iff_toNat_lt]
    omega
  · intro p hp
    rcases List.mem_append.1 hp with hp | hp
    · exact Int.lt_trans (hbefore p hp) hnext
    · obtain rfl := List.mem_singleton.1 hp
      exact hstamp ▸ hnext

theorem Ordered.step (h : Ordered outs b) (hsafe : Safe b) (hc : 2 ≤ c.maxUsedSlots)
    (hpos : 0 < c.step) (hstep : Restrict (Step c) InOrder b l b') :
    Ordered (outs ++ played c b l) b' := by
  obtain ⟨hstep, hok⟩ := hstep
  cases l with
  | input pkt =>
    obtain ⟨b'', hput, -, -, -, honward⟩ := exists_putInternal hsafe hc pkt (!pkt.isEC)
    obtain rfl := Option.some.inj (hput.symm.trans hstep)
    have hbefore := h.before.resolve_right fun hnone => by
      rw [show b.wasReset = false from hok] at hnone
      exact Bool.noConfusion hnone.2
    refine ⟨by simpa [played] using h.pairwise, Or.inl fun p hp => ?_⟩
    exact Int.lt_of_lt_of_le (hbefore p (by simpa [played] using hp)) (honward hok).next
  | output len offset advance =>
    obtain rfl : offset = 0 := hok
    obtain ⟨b₁, got, d, b'', hout, -, honward₁, hsub, hfetched⟩ :=
      exists_handleOutput (c := c) hsafe len 0 advance
    obtain rfl : b'' = b' := by simpa [Step, next, hout] using hstep
    have h₁ : Ordered outs b₁ := h.onward honward₁ fun hnone =>
      List.subperm_nil.1 (hnone ▸ hsub)
    simp only [played, hout]
    cases hfetched with
    | @taken _ pkt _ hgot hfits hstamp hpackets honward hnext =>
      have hbefore := h₁.before.resolve_right fun hnone => by
        have hlen := hpackets.length_eq
        simp [hnone.1] at hlen
      have hstamp' : (pkt.timestamp.toNat : ℤ) = b₁.nextTimestamp := by simpa using hstamp
      have hless : b₁.nextTimestamp < b''.nextTimestamp := by
        rw [hnext rfl]
        omega
      rcases hgot with rfl | rfl
      · exact h₁.snoc hbefore hstamp' hless
      · refine ⟨by simpa using h.pairwise, Or.inl fun p hp => ?_⟩
        exact Int.lt_trans (hbefore p (by simpa using hp)) hless
    | absent hgot hpackets honward =>
      have hafter := h₁.onward honward fun hnone => hpackets.trans hnone
      rcases hgot with rfl | rfl <;> simpa using hafter
    | restarted hpackets hreset => exact ⟨by simpa using h.pairwise, Or.inr ⟨hpackets, hreset⟩⟩
  | tick stats =>
    obtain rfl := Option.some.inj hstep
    obtain ⟨hslots, hpool, hnext, hreset⟩ := tick_keeps c stats b
    refine ⟨by simpa [played] using h.pairwise, ?_⟩
    rw [hnext, hreset]
    refine h.before.imp (fun hbefore p hp => hbefore p (by simpa [played] using hp)) fun hnone => ?_
    exact ⟨by simpa [packets, hslots, hpool] using hnone.1, by simp [hnone.2]⟩
  | setMinPacketCount count =>
    obtain rfl := Option.some.inj hstep
    refine ⟨by simpa [played] using h.pairwise, ?_⟩
    rw [show played c b (.setMinPacketCount count) = [] from rfl, List.append_nil]
    exact h.before
  | reset =>
    obtain ⟨b'', hreset, -, hnone, hwas, -⟩ := exists_reset hsafe
    obtain rfl := Option.some.inj (hreset.symm.trans hstep)
    exact ⟨by simpa [played] using h.pairwise, Or.inr ⟨hnone, hwas⟩⟩

/-- In every run, from any point on : as long as no packet comes after a reset, the timestamps that
are played increase. -/
theorem increasing_of_run {ls₀ : List Label} (hc : 2 ≤ c.maxUsedSlots) (hpos : 0 < c.step)
    (hrun₀ : Run (Step c) (new c) ls₀ b₀) (hrun : Run (Restrict (Step c) InOrder) b₀ ls b) :
    ∃ ins outs, Passing (Restrict (Step c) InOrder) put (played c) b₀ ls ins outs b ∧
      outs.Pairwise fun p q => p.timestamp < q.timestamp := by
  obtain ⟨ins, outs, hpass⟩ := hrun.passing put (played c)
  refine ⟨ins, outs, hpass, ?_⟩
  have hinv := hpass.invariant (fun _ outs b => Safe b ∧ Ordered outs b) ?_ ?_
  · exact hinv.2.pairwise
  · rintro ins outs b l b' ⟨hsafe, hord⟩ hstep
    exact ⟨(safe_of_step hsafe hc hstep.1).1, hord.step hsafe hc hpos hstep⟩
  · exact ⟨safe_of_reached hc hrun₀, List.Pairwise.nil, Or.inl nofun⟩

/-- What was out of order is played in order. -/
theorem increasing_of_run_disordered : ∃ b₀ b ins outs, Run (Step .long) (new .long) started b₀ ∧
    Passing (Restrict (Step .long) InOrder) put (played .long) b₀ disordered ins outs b ∧
      outs.Pairwise fun p q => p.timestamp < q.timestamp := by
  obtain ⟨b₀, b, hrun₀, hrun⟩ : ∃ b₀ b, Run (Step .long) (new .long) started b₀ ∧
      Run (Restrict (Step .long) InOrder) b₀ disordered b :=
    ⟨_, _, run_of_exec rfl, run_of_guarded rfl⟩
  obtain ⟨ins, outs, hpass, hordered⟩ := increasing_of_run (by decide) (by decide) hrun₀ hrun
  exact ⟨b₀, b, ins, outs, hrun₀, hpass, hordered⟩

/-- The operation is not the one that sets the delay. -/
def NotSet (_ : JitterBuffer) : Label → Prop
  | .setMinPacketCount _ => False
  | _ => True

/-- The delay was raised once at most, and not while that was barred. -/
structure Raised (b₀ b : JitterBuffer) : Prop where
  once : b.minDelay ≤ b₀.minDelay + 1
  barred : b₀.dontIncMinDelay ≠ 0 → b.minDelay ≤ b₀.minDelay
  free : b.dontIncMinDelay = 0 → b₀.dontIncMinDelay = 0 ∧ b.minDelay ≤ b₀.minDelay

theorem Raised.steady (h : b₀.Raised b) (hsteady : b.Steady b') : b₀.Raised b' := by
  refine ⟨hsteady.minDelay ▸ h.once, fun hbar => hsteady.minDelay ▸ h.barred hbar, fun hzero => ?_⟩
  rw [hsteady.minDelay]
  exact h.free (hsteady.barred hzero)

theorem Raised.adaptDelay (h : b₀.Raised b) (stddevDelay : ℕ) :
    b₀.Raised (b.adaptDelay stddevDelay) := by
  unfold JitterBuffer.adaptDelay
  split_ifs with hraise hfree hlower
  · obtain ⟨hfree₀, hle⟩ := h.free hfree
    exact ⟨Nat.succ_le_succ hle, fun hbar => absurd hfree₀ hbar,
      fun hzero => absurd hzero (by simp)⟩
  · exact ⟨h.once, h.barred, h.free⟩
  · have hless : b.minDelay - 1 ≤ b.minDelay := Nat.sub_le _ _
    exact ⟨Nat.le_trans hless h.once, fun hbar => Nat.le_trans hless (h.barred hbar),
      fun hzero => ⟨(h.free hzero).1, Nat.le_trans hless (h.free hzero).2⟩⟩
  · exact h

theorem Raised.step (h : b₀.Raised b) (hsafe : Safe b) (hc : 2 ≤ c.maxUsedSlots)
    (hstep : Step c b l b') (hok : NotSet b l) : b₀.Raised b' := by
  cases l with
  | input pkt =>
    obtain ⟨b'', hput, -, -, hsteady, -⟩ := exists_putInternal hsafe hc pkt (!pkt.isEC)
    obtain rfl := Option.some.inj (hput.symm.trans hstep)
    exact h.steady hsteady
  | output len offset advance =>
    obtain ⟨b₁, got, d, b'', hout, -, honward₁, -, hfetched⟩ :=
      exists_handleOutput (c := c) hsafe len offset advance
    obtain rfl : b'' = b' := by simpa [Step, next, hout] using hstep
    have h₁ := h.steady honward₁.toSteady
    cases hfetched with
    | taken _ _ _ _ honward => exact h₁.steady honward.toSteady
    | absent _ _ honward => exact h₁.steady honward.toSteady
    | restarted _ _ hsteady => exact h₁.steady hsteady
  | tick stats =>
    obtain rfl := Option.some.inj hstep
    have hadapted := Raised.adaptDelay (b := { b with
      latePacketCount := 0
      wasReset := b.wasReset || stats.resync
      dontDecMinDelay := b.dontDecMinDelay - if stats.noLatePackets then 1 else 0 })
      ⟨h.once, h.barred, h.free⟩ (min (max stats.stddevDelay b.minMinDelay) c.maxMinDelay)
    refine hadapted.steady ?_
    unfold tick adaptPlayback
    dsimp only
    split_ifs <;> exact ⟨rfl, id⟩
  | setMinPacketCount => exact hok.elim
  | reset =>
    obtain ⟨b'', hreset, -, -, -, hdelay, hbarred⟩ := exists_reset hsafe
    obtain rfl := Option.some.inj (hreset.symm.trans hstep)
    exact h.steady ⟨hdelay, fun hzero => hbarred ▸ hzero⟩

/-- In every run, from any point on, until the delay is set : it is raised once at most, whatever
the statistics say. The bar that is put up then is never counted down. -/
theorem minDelay_le_of_run {ls₀ : List Label} (hc : 2 ≤ c.maxUsedSlots)
    (hrun₀ : Run (Step c) (new c) ls₀ b₀) (hrun : Run (Restrict (Step c) NotSet) b₀ ls b) :
    b.minDelay ≤ b₀.minDelay + 1 ∧ (b₀.dontIncMinDelay ≠ 0 → b.minDelay ≤ b₀.minDelay) := by
  have hinv := hrun.invariant (fun b => Safe b ∧ b₀.Raised b) ?_ ⟨safe_of_reached hc hrun₀, ?_⟩
  · exact ⟨hinv.2.once, hinv.2.barred⟩
  · rintro b l b' ⟨hsafe, hraised⟩ ⟨hstep, hok⟩
    exact ⟨(safe_of_step hsafe hc hstep).1, hraised.step hsafe hc hstep hok⟩
  · exact ⟨Nat.le_succ _, fun _ => Nat.le.refl, fun hzero => ⟨hzero, Nat.le.refl⟩⟩

/-- What `Tick` finds when packets come at any time. -/
def unsteady : Stats where
  stddevDelay := 10
  resync := false
  noLatePackets := true
  wayAbove := false
  above := false
  below := false

instance : DecidablePred (NotSet b)
  | .input _ => inferInstanceAs (Decidable True)
  | .output _ _ _ => inferInstanceAs (Decidable True)
  | .tick _ => inferInstanceAs (Decidable True)
  | .setMinPacketCount _ => inferInstanceAs (Decidable False)
  | .reset => inferInstanceAs (Decidable True)

/-- Ten packets are asked for in each tick, and the delay goes from six to seven. -/
theorem minDelay_le_of_run_unsteady : ∃ b,
    Run (Restrict (Step .long) NotSet) (new .long) (List.replicate 3 (.tick unsteady)) b ∧
      b.minDelay = 7 ∧ b.minDelay ≤ (new .long).minDelay + 1 := by
  obtain ⟨b, hdelay, hrun⟩ : ∃ b : JitterBuffer, b.minDelay = 7 ∧
      Run (Restrict (Step .long) NotSet) (new .long) (List.replicate 3 (.tick unsteady)) b :=
    ⟨_, by decide, run_of_guarded rfl⟩
  exact ⟨b, hrun, hdelay, (minDelay_le_of_run (by decide) .nil hrun).1⟩

end runs

end JitterBuffer

end TelegramProvider
