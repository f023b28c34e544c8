import Mathlib.Data.Int.Notation
import TelegramProvider.Keyed
import TelegramProvider.Pools

/-!
# The jitter buffer

What the other side of a call says comes in packets that may be late, lost or out of order. They
wait in 64 slots until the decoder asks for the packet of the next timestamp. The data of a packet is
in a buffer of a pool, and to give back a buffer that is not one of the pool's ends the process.

A packet is played at its timestamp, which advances with each request. A packet that is not there is
missing, and after too many of these the buffer starts again with the next packet that comes. What
`Tick` computes with floating point may be anything here.

The slots are `Tidy` when each packet in them has a buffer and a timestamp of its own. Then a packet
can be taken out, put in or replaced, and nothing is read that was not written for it.
-/

set_option autoImplicit false

namespace TelegramProvider

open Pools

namespace JitterBuffer

/-- `JITTER_SLOT_COUNT`. -/
def slotCount : ℕ := 64

/-- `JITTER_SLOT_SIZE`. -/
def slotSize : ℕ := 1024

/-- A packet of a stream. One that comes with another packet to correct errors is `isEC`. -/
structure Packet where
  timestamp : UInt32
  data : List UInt8
  isEC : Bool
  deriving DecidableEq, Repr

/-- A slot. What is in it counts while it has a buffer. -/
structure Slot where
  buffer : Option ℕ := none
  size : ℕ := 0
  timestamp : UInt32 := 0
  isEC : Bool := false

/-- What the constructor takes, and has from the configuration of the server. -/
structure Config where
  step : ℕ
  minMinDelay : ℕ
  maxMinDelay : ℕ
  maxUsedSlots : ℕ
  lossesToReset : ℕ

/-- The values for frames of 60 ms. -/
def Config.long : Config where
  step := 60
  minMinDelay := 2
  maxMinDelay := 10
  maxUsedSlots := 20
  lossesToReset := 20

/-- What `Tick` computes of the histories : the deviation as a number of packets, whether packets
were late, and where the average delay is. -/
structure Stats where
  stddevDelay : ℕ
  resync : Bool
  noLatePackets : Bool
  wayAbove : Bool
  above : Bool
  below : Bool

/-- What `GetInternal` leaves : a packet, or nothing in the memory of the caller if it is too small
for the packet. -/
inductive Got
  | ok (pkt : Packet)
  | tooBig
  | missing
  | buffering
  deriving DecidableEq, Repr

namespace Slot

/-- There is a packet in the slot. -/
def live (s : Slot) : Bool :=
  s.buffer.isSome

/-- The packet in a slot. -/
def packet? (pool : Pool UInt8) (s : Slot) : Option Packet :=
  s.buffer.map fun i => ⟨s.timestamp, pool.read i s.size, s.isEC⟩

end Slot

end JitterBuffer

open JitterBuffer in
/-- `JitterBuffer`, without the histories. -/
structure JitterBuffer where
  pool : Pool UInt8
  slots : List Slot
  nextTimestamp : ℤ := 0
  minDelay : ℕ := 6
  minMinDelay : ℕ
  lastPutTimestamp : UInt32 := 0
  lostCount : ℕ := 0
  lostSinceReset : ℕ := 0
  gotSinceReset : ℕ := 0
  wasReset : Bool := true
  needBuffering : Bool := true
  latePacketCount : ℕ := 0
  dontIncMinDelay : ℕ := 0
  dontDecMinDelay : ℕ := 0
  lostPackets : ℤ := 0
  outstandingDelayChange : ℤ := 0
  dontChangeDelay : ℕ := 0
  first : Bool := true
  tickCount : ℕ := 0

namespace JitterBuffer

/-- The constructor. -/
def new (c : Config) : JitterBuffer where
  pool := ⟨slotCount, fun _ => false, fun _ => List.replicate slotSize 0⟩
  slots := List.replicate slotCount {}
  minMinDelay := c.minMinDelay

/-- `SetMinPacketCount`. -/
def setMinPacketCount (count : ℕ) (b : JitterBuffer) : JitterBuffer :=
  { b with minDelay := count, minMinDelay := count }

/-- `GetCurrentDelay`. -/
def getCurrentDelay (b : JitterBuffer) : ℕ :=
  b.slots.countP Slot.live

/-- `Advance`. -/
def advance (c : Config) (b : JitterBuffer) : JitterBuffer :=
  { b with nextTimestamp := b.nextTimestamp + c.step }

/-- Give back the buffer of a slot. What is behind the last slot has no buffer of the pool. -/
def clear (i : ℕ) (b : JitterBuffer) : Option JitterBuffer :=
  match b.slots[i]? with
  | none => none
  | some s => (b.pool.reuse s.buffer).map fun pool =>
      { b with pool, slots := b.slots.set i { s with buffer := none } }

/-- Give back the buffers of the slots with a packet for which `p` holds. -/
def release (p : Slot → Bool) : List Slot → Pool UInt8 → Option (List Slot × Pool UInt8)
  | [], pool => some ([], pool)
  | s :: slots, pool =>
    if s.live && p s then
      (pool.reuse s.buffer).bind fun pool => (release p slots pool).map fun (slots, pool) =>
        ({ s with buffer := none } :: slots, pool)
    else (release p slots pool).map fun (slots, pool) => (s :: slots, pool)

/-- Such a loop over all slots. -/
def releaseAll (p : Slot → Bool) (b : JitterBuffer) : Option JitterBuffer :=
  (release p b.slots b.pool).map fun (slots, pool) => { b with slots, pool }

/-- `Reset`. -/
def reset (b : JitterBuffer) : Option JitterBuffer :=
  releaseAll (fun _ => true) { b with
    wasReset := true
    needBuffering := true
    lastPutTimestamp := 0
    lostSinceReset := 0
    gotSinceReset := 0
    outstandingDelayChange := 0
    dontChangeDelay := 0 }

/-- The oldest packet : its position, where it is before `2 ^ 32 - 1`. -/
def oldest : ℕ → Option ℕ × UInt32 → List Slot → Option ℕ
  | _, best, [] => best.1
  | i, best, s :: slots =>
    oldest (i + 1) (if s.live && s.timestamp < best.2 then (some i, s.timestamp) else best) slots

/-- The first packet after a reset says where to go on. -/
def resync (c : Config) (timestamp : UInt32) (b : JitterBuffer) : JitterBuffer :=
  { b with
    wasReset := false
    outstandingDelayChange := 0
    nextTimestamp := timestamp.toNat - c.step * b.minDelay
    first := true }

/-- A packet that is new is counted. -/
def countNew (c : Config) (timestamp : UInt32) (b : JitterBuffer) : JitterBuffer :=
  if b.wasReset then resync c timestamp { b with gotSinceReset := b.gotSinceReset + 1 }
  else { b with gotSinceReset := b.gotSinceReset + 1 }

/-- A packet that is late is counted. One that is far too late is late, so none is dropped. -/
def countLate (timestamp : UInt32) (b : JitterBuffer) : JitterBuffer :=
  let b := { b with lastPutTimestamp := max b.lastPutTimestamp timestamp }
  if (timestamp.toNat : ℤ) < b.nextTimestamp then
    { b with latePacketCount := b.latePacketCount + 1, lostPackets := b.lostPackets - 1 }
  else b

/-- A slot for a packet : a free one, or that of the oldest packet if there are too many. -/
def makeRoom (c : Config) (b : JitterBuffer) : Option (ℕ × JitterBuffer) :=
  let free := b.slots.findIdx? fun s => !s.live
  if free = none ∨ c.maxUsedSlots ≤ b.getCurrentDelay then
    -- without a packet before the greatest timestamp this would be a slot behind the last
    (oldest 0 (none, 0xFFFFFFFF) b.slots).bind fun i => ((b.advance c).clear i).map (i, ·)
  else free.map (·, b)

/-- A packet goes into a slot. -/
def store (pkt : Packet) (i : ℕ) (b : JitterBuffer) : JitterBuffer :=
  match b.pool.get with
  | none => { b with slots := b.slots.set i ⟨none, pkt.data.length, pkt.timestamp, pkt.isEC⟩ }
  | some (j, pool) => { b with
      pool := pool.write j pkt.data
      slots := b.slots.set i ⟨some j, pkt.data.length, pkt.timestamp, pkt.isEC⟩ }

/-- A packet replaces another. -/
def overwrite (pkt : Packet) (i : ℕ) (b : JitterBuffer) : JitterBuffer :=
  match b.slots[i]? with
  | some ⟨some j, _, timestamp, _⟩ => { b with
      pool := b.pool.write j pkt.data
      slots := b.slots.set i ⟨some j, pkt.data.length, timestamp, pkt.isEC⟩ }
  | _ => b

/-- `PutInternal`. -/
def putInternal (c : Config) (pkt : Packet) (overwriteExisting : Bool) (b : JitterBuffer) :
    Option JitterBuffer :=
  if slotSize < pkt.data.length then some b
  else
    match b.slots.findIdx? fun s => s.live && s.timestamp == pkt.timestamp with
    | some i => some (if overwriteExisting then b.overwrite pkt i else b)
    | none =>
      let b := b.countNew c pkt.timestamp
      (b.releaseAll fun s => (s.timestamp.toNat : ℤ) < b.nextTimestamp - 1).bind fun b =>
        ((b.countLate pkt.timestamp).makeRoom c).map fun (i, b) => b.store pkt i

/-- `HandleInput`. -/
def handleInput (c : Config) (pkt : Packet) (b : JitterBuffer) : Option JitterBuffer :=
  b.putInternal c pkt (!pkt.isEC)

/-- A packet that is missing is counted. -/
def countLost (offset : ℤ) (b : JitterBuffer) : JitterBuffer :=
  if offset = 0 then { b with
    lostCount := b.lostCount + 1
    lostPackets := b.lostPackets + 1
    lostSinceReset := b.lostSinceReset + 1 }
  else { b with lostCount := b.lostCount + 1 }

/-- After too many of these, start again. -/
def restart (b : JitterBuffer) : Option JitterBuffer :=
  reset { b with
    dontIncMinDelay := 16
    dontDecMinDelay := b.dontDecMinDelay + 128
    nextTimestamp := b.nextTimestamp - (b.minDelay - b.getCurrentDelay : ℕ)
    lostCount := 0 }

/-- `GetInternal`, for a caller with `len` bytes. -/
def getInternal (c : Config) (len : ℕ) (offset : ℤ) (advance : Bool) (b : JitterBuffer) :
    Option (Got × JitterBuffer) :=
  let timestampToGet := b.nextTimestamp + offset * c.step
  match b.slots.findIdx? fun s => s.live && (s.timestamp.toNat : ℤ) == timestampToGet with
  | some i =>
    let got := match b.slots[i]? with
      | none => Got.tooBig
      | some s => if len < s.size then .tooBig else ((s.packet? b.pool).map Got.ok).getD .tooBig
    (b.clear i).map fun b =>
      let b := if offset = 0 then b.advance c else b
      (got, { b with lostCount := 0, needBuffering := false })
  | none =>
    let b := if advance then b.advance c else b
    if b.needBuffering then some (.buffering, b)
    else
      let b := b.countLost offset
      if c.lossesToReset ≤ b.lostCount ∨
          b.minDelay * 25 < b.gotSinceReset ∧ b.gotSinceReset / 2 < b.lostSinceReset then
        b.restart.map (.missing, ·)
      else some (.missing, b)

/-- Drop the next packet. The first slot with the timestamp is looked at, also if its packet is
gone. -/
def dropNext (b : JitterBuffer) : Option JitterBuffer :=
  match b.slots.findIdx? fun s => (s.timestamp.toNat : ℤ) == b.nextTimestamp with
  | none => some b
  | some i => if (b.slots[i]?.map Slot.live).getD false then b.clear i else some b

/-- The first request drops what is too much. -/
def dropFirst (c : Config) : ℕ → JitterBuffer → Option JitterBuffer
  | 0, b => some b
  | n + 1, b => b.dropNext.bind fun b => dropFirst c n (b.advance c)

/-- `HandleOutput` : what is played, and for how many milliseconds. -/
def handleOutput (c : Config) (len : ℕ) (offsetInSteps : ℤ) (advance : Bool)
    (b : JitterBuffer) : Option (Got × ℕ × JitterBuffer) :=
  let delay := b.getCurrentDelay
  let b' := if b.first then
      dropFirst c (if 5 < delay then delay - b.minDelay else 0) { b with first := false }
    else some b
  b'.bind fun b => (b.getInternal c len offsetInSteps advance).map fun (got, b) =>
    if b.outstandingDelayChange < 0 then
      (got, 40, { b with outstandingDelayChange := b.outstandingDelayChange + 20 })
    else if 0 < b.outstandingDelayChange then
      (got, 80, { b with outstandingDelayChange := b.outstandingDelayChange - 20 })
    else if advance && b.getCurrentDelay == 0 then (got, 80, b)
    else (got, 60, b)

/-- `Tick`, where the delay that is kept goes towards what the deviation asks for. -/
def adaptDelay (stddevDelay : ℕ) (b : JitterBuffer) : JitterBuffer :=
  if b.minDelay < stddevDelay then
    if b.dontIncMinDelay = 0 then { b with
      minDelay := b.minDelay + 1
      outstandingDelayChange := b.outstandingDelayChange + 60
      dontChangeDelay := b.dontChangeDelay + 32
      dontIncMinDelay := 25
      dontDecMinDelay := 100 }
    else { b with dontDecMinDelay := 100 }
  else if stddevDelay < b.minDelay ∧ b.dontDecMinDelay = 0 then { b with
    minDelay := b.minDelay - 1
    outstandingDelayChange := b.outstandingDelayChange - 60
    dontChangeDelay := b.dontChangeDelay + 32
    dontDecMinDelay := b.dontDecMinDelay + 25 }
  else b

/-- `Tick`, where what is played is made shorter or longer. -/
def adaptPlayback (stats : Stats) (b : JitterBuffer) : JitterBuffer :=
  if b.dontChangeDelay ≠ 0 then b
  else if stats.above then { b with
    outstandingDelayChange := b.outstandingDelayChange - if stats.wayAbove then 60 else 20
    dontChangeDelay := b.dontChangeDelay + 10 }
  else if stats.below then { b with
    outstandingDelayChange := b.outstandingDelayChange + 20
    dontChangeDelay := b.dontChangeDelay + 10 }
  else b

/-- `Tick`. -/
def tick (c : Config) (stats : Stats) (b : JitterBuffer) : JitterBuffer :=
  let b := { b with
    latePacketCount := 0
    wasReset := b.wasReset || stats.resync
    dontDecMinDelay := b.dontDecMinDelay - if stats.noLatePackets then 1 else 0 }
  let stddevDelay := min (max stats.stddevDelay b.minMinDelay) c.maxMinDelay
  let b := (b.adaptDelay stddevDelay).adaptPlayback stats
  { b with dontChangeDelay := b.dontChangeDelay - 1, tickCount := b.tickCount + 1 }

/-! ## Slots -/

/-- The packets in some slots. -/
def held (slots : List Slot) (pool : Pool UInt8) : List Packet :=
  slots.filterMap (Slot.packet? pool)

/-- Each packet has a buffer and a timestamp of its own, and fits the buffer. -/
structure Tidy (slots : List Slot) (pool : Pool UInt8) : Prop where
  holds : pool.Holds (slots.filterMap Slot.buffer)
  stamps : ((held slots pool).map Packet.timestamp).Nodup
  fits : ∀ s ∈ slots, s.live = true → s.size ≤ slotSize

section slots

variable {pool pool' : Pool UInt8} {slots pre post : List Slot} {s : Slot} {i j : ℕ} {pkt : Packet}

theorem exists_split_of_getElem? (h : slots[i]? = some s) :
    ∃ pre post, slots = pre ++ s :: post ∧ pre.length = i := by
  obtain ⟨hi, rfl⟩ := List.getElem?_eq_some_iff.1 h
  refine ⟨slots.take i, slots.drop (i + 1), ?_, by simp; omega⟩
  rw [← List.drop_eq_getElem_cons hi, List.take_append_drop]

@[simp] theorem held_append : held (pre ++ post) pool = held pre pool ++ held post pool :=
  List.filterMap_append

@[simp] theorem held_cons : held (s :: post) pool = (s.packet? pool).toList ++ held post pool := by
  cases h : s.packet? pool <;> simp [held, h]

theorem packet?_of_not_live (h : s.live = false) : s.packet? pool = none := by
  simpa [Slot.live, Slot.packet?] using h

theorem live_iff : s.live = true ↔ ∃ j, s.buffer = some j := by
  simp [Slot.live, Option.isSome_iff_exists]

theorem countP_live (slots : List Slot) (pool : Pool UInt8) :
    slots.countP Slot.live = (held slots pool).length := by
  induction slots with
  | nil => rfl
  | cons s slots ih =>
    cases hs : s.buffer <;> simp [ih, Slot.live, Slot.packet?, hs, Nat.add_comm]

/-- What is read from the slots depends on their own buffers only. -/
theorem held_congr (h : ∀ s ∈ slots, ∀ j, s.buffer = some j → pool'.memory j = pool.memory j) :
    held slots pool' = held slots pool := by
  refine List.filterMap_congr fun s hs => ?_
  cases hj : s.buffer with
  | none => simp [Slot.packet?, hj]
  | some j => simp [Slot.packet?, hj, Pool.read, h s hs j hj]

/-- The buffer of a slot is given back. -/
theorem Tidy.clear (h : Tidy (pre ++ s :: post) pool) (hs : s.live = true) : ∃ pool' p,
    pool.reuse s.buffer = some pool' ∧ pool'.memory = pool.memory ∧ pool'.count = pool.count ∧
      s.packet? pool = some p ∧ Tidy (pre ++ { s with buffer := none } :: post) pool' ∧
      held (pre ++ { s with buffer := none } :: post) pool' = held pre pool ++ held post pool := by
  obtain ⟨j, hj⟩ := live_iff.1 hs
  have hholds := h.holds
  simp only [List.filterMap_append, List.filterMap_cons, hj] at hholds
  obtain ⟨hreuse, hholds'⟩ := hholds.exists_reuse
  have hheld : held (pre ++ { s with buffer := none } :: post)
      { pool with used := Function.update pool.used j false } =
        held pre pool ++ held post pool := by
    simp [packet?_of_not_live (s := { s with buffer := none }) rfl]
    rfl
  refine ⟨{ pool with used := Function.update pool.used j false },
    ⟨s.timestamp, pool.read j s.size, s.isEC⟩, hj ▸ hreuse, rfl, rfl, by simp [Slot.packet?, hj],
    ⟨?_, ?_, ?_⟩, hheld⟩
  · simpa using hholds'
  · rw [hheld]
    refine h.stamps.sublist (List.Sublist.map _ ?_)
    simp
  · intro s' hs' hlive
    simp only [List.mem_append, List.mem_cons] at hs'
    obtain hs' | rfl | hs' := hs'
    · exact h.fits s' (by simp [hs']) hlive
    · simp [Slot.live] at hlive
    · exact h.fits s' (by simp [hs']) hlive

/-- A packet that is not there goes into a slot that is free. -/
theorem Tidy.store (h : Tidy (pre ++ s :: post) pool) (hs : s.live = false)
    (hroom : (pre ++ s :: post).length ≤ pool.count)
    (hnew : pkt.timestamp ∉ (held (pre ++ s :: post) pool).map Packet.timestamp)
    (hsize : pkt.data.length ≤ slotSize) : ∃ j pool', pool.get = some (j, pool') ∧
      pool'.count = pool.count ∧
      (held (pre ++ ⟨some j, pkt.data.length, pkt.timestamp, pkt.isEC⟩ :: post)
        (pool'.write j pkt.data)).Perm (pkt :: held (pre ++ s :: post) pool) ∧
      Tidy (pre ++ ⟨some j, pkt.data.length, pkt.timestamp, pkt.isEC⟩ :: post)
        (pool'.write j pkt.data) := by
  have hbuffer : s.buffer = none := by simpa [Slot.live] using hs
  have hlen : ((pre ++ s :: post).filterMap Slot.buffer).length < pool.count := by
    refine Nat.lt_of_lt_of_le ?_ hroom
    have hpre := List.length_filterMap_le Slot.buffer pre
    have hpost := List.length_filterMap_le Slot.buffer post
    simp only [List.filterMap_append, List.filterMap_cons, hbuffer, List.length_append,
      List.length_cons]
    omega
  obtain ⟨j, hj, hget, hholds⟩ := h.holds.exists_get hlen
  have hsame : ∀ l : List Slot, (∀ s' ∈ l, s' ∈ pre ++ s :: post) →
      held l (Pool.write j pkt.data { pool with used := Function.update pool.used j true }) =
        held l pool := by
    intro l hl
    refine held_congr fun s' hs' k hk => ?_
    have hne : k ≠ j := by
      rintro rfl
      exact hj (List.mem_filterMap.2 ⟨s', hl s' hs', hk⟩)
    simp [Pool.write, hne]
  have hperm : (held (pre ++ ⟨some j, pkt.data.length, pkt.timestamp, pkt.isEC⟩ :: post)
      (Pool.write j pkt.data { pool with used := Function.update pool.used j true })).Perm
        (pkt :: held (pre ++ s :: post) pool) := by
    rw [held_append, held_cons, held_append, held_cons, packet?_of_not_live hs,
      hsame pre (by simp +contextual), hsame post (by simp +contextual)]
    simp [Slot.packet?]
  refine ⟨j, _, hget, rfl, hperm, ?_, ?_, ?_⟩
  · refine Pool.Holds.write (hholds.perm ?_) j pkt.data
    simp only [List.filterMap_append, List.filterMap_cons, hbuffer]
    exact List.perm_middle.symm
  · rw [(hperm.map Packet.timestamp).nodup_iff]
    exact List.nodup_cons.2 ⟨hnew, h.stamps⟩
  · intro s' hs' hlive
    simp only [List.mem_append, List.mem_cons] at hs'
    obtain hs' | rfl | hs' := hs'
    · exact h.fits s' (by simp [hs']) hlive
    · exact hsize
    · exact h.fits s' (by simp [hs']) hlive

/-- A packet replaces the one that has its timestamp. -/
theorem Tidy.overwrite (h : Tidy (pre ++ s :: post) pool) (hj : s.buffer = some j)
    (hstamp : s.timestamp = pkt.timestamp) (hsize : pkt.data.length ≤ slotSize) :
    held (pre ++ ⟨some j, pkt.data.length, s.timestamp, pkt.isEC⟩ :: post)
        (pool.write j pkt.data) = held pre pool ++ pkt :: held post pool ∧
      Tidy (pre ++ ⟨some j, pkt.data.length, s.timestamp, pkt.isEC⟩ :: post)
        (pool.write j pkt.data) := by
  have hnodup := h.holds.1
  simp only [List.filterMap_append, List.filterMap_cons, hj] at hnodup
  obtain ⟨hother, -⟩ := List.nodup_cons.1 (List.nodup_middle.1 hnodup)
  have hsame : ∀ l : List Slot, (∀ s' ∈ l, s' ∈ pre ++ post) →
      held l (pool.write j pkt.data) = held l pool := by
    intro l hl
    refine held_congr fun s' hs' k hk => ?_
    have hne : k ≠ j := by
      rintro rfl
      refine hother ?_
      rw [← List.filterMap_append]
      exact List.mem_filterMap.2 ⟨s', hl s' hs', hk⟩
    simp [Pool.write, hne]
  have hheld : held (pre ++ ⟨some j, pkt.data.length, s.timestamp, pkt.isEC⟩ :: post)
      (pool.write j pkt.data) = held pre pool ++ pkt :: held post pool := by
    rw [held_append, held_cons, hsame pre (by simp +contextual), hsame post (by simp +contextual)]
    simp [Slot.packet?, hstamp]
  refine ⟨hheld, ?_, ?_, ?_⟩
  · simpa [hj] using h.holds.write j pkt.data
  · rw [hheld]
    have hstamps := h.stamps
    simpa [Slot.packet?, hj, hstamp] using hstamps
  · intro s' hs' hlive
    simp only [List.mem_append, List.mem_cons] at hs'
    obtain hs' | rfl | hs' := hs'
    · exact h.fits s' (by simp [hs']) hlive
    · exact hsize
    · exact h.fits s' (by simp [hs']) hlive

/-- Some slots behind others are cleared, and no packet for which `p` holds is left in them. -/
theorem Tidy.release (p : Slot → Bool) (h : Tidy (pre ++ slots) pool) : ∃ slots' pool',
    release p slots pool = some (slots', pool') ∧ pool'.count = pool.count ∧
      slots'.length = slots.length ∧ (∀ s ∈ slots', s.live = true → p s = false) ∧
      (held (pre ++ slots') pool').Sublist (held (pre ++ slots) pool) ∧
      Tidy (pre ++ slots') pool' := by
  induction slots generalizing pre pool with
  | nil => exact ⟨[], pool, rfl, rfl, rfl, nofun, List.Sublist.refl _, h⟩
  | cons s slots ih =>
    by_cases hs : (s.live && p s) = true
    · obtain ⟨pool₁, q, hreuse, hmemory, hcount, hq, htidy, hheld⟩ :=
        h.clear (by simpa using (Bool.and_eq_true_iff.1 hs).1)
      have hcleared : Tidy (pre ++ [{ s with buffer := none }] ++ slots) pool₁ := by
        simpa using htidy
      obtain ⟨slots', pool', hrelease, hcount', hlen, hclean, hsub, htidy'⟩ := ih hcleared
      refine ⟨{ s with buffer := none } :: slots', pool', ?_, hcount'.trans hcount, by simp [hlen],
        ?_, ?_, by simpa using htidy'⟩
      · simp [JitterBuffer.release, hs, hreuse, hrelease]
      · intro s' hs' hlive
        rcases List.mem_cons.1 hs' with rfl | hs'
        · simp [Slot.live] at hlive
        · exact hclean s' hs' hlive
      · have hless : (held pre pool ++ held slots pool).Sublist
            (held (pre ++ s :: slots) pool) := by
          simp
        rw [← hheld] at hless
        refine List.Sublist.trans ?_ hless
        simpa using hsub
    · have hkept : Tidy (pre ++ [s] ++ slots) pool := by simpa using h
      obtain ⟨slots', pool', hrelease, hcount', hlen, hclean, hsub, htidy'⟩ := ih hkept
      refine ⟨s :: slots', pool', ?_, hcount', by simp [hlen], ?_, by simpa using hsub,
        by simpa using htidy'⟩
      · simp [JitterBuffer.release, hs, hrelease]
      · intro s' hs' hlive
        rcases List.mem_cons.1 hs' with rfl | hs'
        · simpa [hlive] using hs
        · exact hclean s' hs' hlive

/-- There is an oldest packet, unless its timestamp is the greatest one. -/
theorem exists_oldest (n : ℕ) (best : Option ℕ × UInt32)
    (h : best.1.isSome = true ∨ ∃ s ∈ slots, s.live = true ∧ s.timestamp < best.2) :
    ∃ i, oldest n best slots = some i ∧
      (best.1 = some i ∨ ∃ s, n ≤ i ∧ slots[i - n]? = some s ∧ s.live = true) := by
  induction slots generalizing n best with
  | nil =>
    obtain ⟨i, hi⟩ := Option.isSome_iff_exists.1 (h.resolve_right (by simp))
    exact ⟨i, hi, Or.inl hi⟩
  | cons s slots ih =>
    have hfound : ∀ {best' : Option ℕ × UInt32}, (best' = best ∨ best' = (some n, s.timestamp) ∧
        s.live = true) → (best'.1.isSome = true ∨ ∃ s ∈ slots, s.live = true ∧
          s.timestamp < best'.2) → ∃ i, oldest (n + 1) best' slots = some i ∧
            (best.1 = some i ∨ ∃ s', n ≤ i ∧ (s :: slots)[i - n]? = some s' ∧ s'.live = true) := by
      intro best' hbest hsome
      obtain ⟨i, hi, hi' | ⟨s', hle, hget, hlive⟩⟩ := ih _ _ hsome
      · obtain rfl | ⟨rfl, hlive⟩ := hbest
        · exact ⟨i, hi, Or.inl hi'⟩
        · obtain rfl := Option.some.inj hi'
          exact ⟨n, hi, Or.inr ⟨s, Nat.le.refl, by simp, hlive⟩⟩
      · have hsub : i - n = (i - (n + 1)) + 1 := by omega
        exact ⟨i, hi, Or.inr ⟨s', by omega, by rw [hsub]; simpa using hget, hlive⟩⟩
    unfold oldest
    split_ifs with hs
    · exact hfound (Or.inr ⟨rfl, by simp at hs; exact hs.1⟩) (Or.inl rfl)
    · refine hfound (Or.inl rfl) (h.imp id ?_)
      rintro ⟨s', hs', hlive, hlt⟩
      rcases List.mem_cons.1 hs' with rfl | hs'
      · exact absurd (by simp [hlive, hlt]) hs
      · exact ⟨s', hs', hlive, hlt⟩

end slots

end JitterBuffer

end TelegramProvider
