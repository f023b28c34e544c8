import TelegramProvider.Acks
import TelegramProvider.ExtraData
import TelegramProvider.Runs
import Mathlib.Data.List.TakeDrop
import Mathlib.Logic.Function.Basic

/-!
# The packets of a call

The two ends of a call write packets to each other over a network that may lose, repeat and reorder
them. A header says what has come of the peer's packets, so a packet carries data and
acknowledgements at once. Two things are sent until they are acknowledged : the extras, which go
with every header (`Controller.sendExtra`), and the queued packets, which are written again under a
new number each time (`Controller.sendPacketReliably`, `Controller.updateQueuedPackets`).

A number is drawn before the header is written, by whichever thread has something to send, and a
packet may wait in the send queue in between, so headers are not always written in the order of
their numbers (`Controller.inHand`, `Controller.sendQueue`). To write a header and to process a
packet is one step each here. The threads of the program do so without a lock on what has come, and
what they may see of each other halfway is left out.
-/

set_option autoImplicit false

namespace TelegramProvider

open Runs

namespace Voip

structure UnacknowledgedExtraData where
  type : UInt8
  data : Buffer
  /-- The number of the first packet that carries it, 0 before there is one. -/
  firstContainingSeq : Seq := 0
  deriving DecidableEq

def UnacknowledgedExtraData.extra (x : UnacknowledgedExtraData) : Extra :=
  ⟨x.type, x.data⟩

structure RecentOutgoingPacket where
  seq : Seq
  sendTime : ℕ
  /-- When it was acknowledged, 0 before. -/
  ackTime : ℕ := 0

structure PendingOutgoingPacket where
  seq : Seq
  type : UInt8
  data : Buffer

/-- A packet that is written until it is acknowledged. -/
structure QueuedPacket where
  type : UInt8
  data : Buffer
  /-- The numbers of its last 16 copies, the latest first, then zeros. -/
  seqs : List Seq := List.replicate 16 0
  firstSentTime : ℕ := 0
  lastSentTime : ℕ := 0
  retryInterval : ℕ
  timeout : ℕ
  deriving DecidableEq

/-- A packet on the network : the header, up to its flags, and the bytes behind it. -/
structure Packet where
  type : UInt8
  ackId : Seq
  pseq : Seq
  acks : BitVec 32
  pflags : UInt8
  body : Buffer

/-- The extras the peer reads. -/
def Packet.extras (pkt : Packet) : List Extra :=
  readExtras pkt.pflags pkt.body

/-- What the program does with what it receives. -/
inductive Event
  /-- A packet is taken, `far` if its number is more than 31 ahead of all before. -/
  | accepted (pseq : Seq) (far : Bool)
  /-- An extra is processed, `isNew` if it is not the one its kind has already. -/
  | processed (extra : Extra) (isNew : Bool)
  /-- To process an extra throws an exception. -/
  | failed (extra : Extra)
  /-- An extra is acknowledged and no longer sent. -/
  | acknowledged (extra : UnacknowledgedExtraData)
  /-- A queued packet is acknowledged and no longer sent. -/
  | discharged (packet : QueuedPacket)
  deriving DecidableEq

/-- `HistoricBuffer::Add`. -/
def QueuedPacket.add (seqs : List Seq) (seq : Seq) : List Seq :=
  (seq :: seqs).take 16

def maxRecentPackets : ℕ := 128

structure Controller where
  /-- The next number, before it is cut to 32 bits. -/
  seq : ℕ := 1
  window : Window := {}
  lastRemoteAckSeq : Seq := 0
  lastSentSeq : Seq := 0
  packetsReceived : ℕ := 0
  recentOutgoingPackets : List RecentOutgoingPacket := []
  queuedPackets : List QueuedPacket := []
  currentExtras : List UnacknowledgedExtraData := []
  /-- Packets that have their number, in the hands of some thread. -/
  inHand : List PendingOutgoingPacket := []
  sendQueue : List PendingOutgoingPacket := []
  lastReceivedExtrasByType : UInt8 → BitVec 64 := fun _ => 0

/-- Whether the socket takes a packet. -/
inductive Readiness
  | notReady
  /-- It would, but its protocol is not in use. -/
  | unused
  | ready
  deriving DecidableEq

namespace Controller

/-! ## Writing -/

/-- `GenerateOutSeq`. -/
def outSeq (c : Controller) : Seq :=
  BitVec.ofNat 32 c.seq

/-- A number is drawn for a packet, of which `SendInit` writes a copy to each endpoint. -/
def generate (c : Controller) (type : UInt8) (data : Buffer) (copies : ℕ) : Controller :=
  { c with
    seq := c.seq + 1
    inHand := c.inHand ++ List.replicate copies ⟨c.outSeq, type, data⟩ }

/-- The extras that go with a header. -/
def extras (c : Controller) : List Extra :=
  c.currentExtras.map UnacknowledgedExtraData.extra

/-- The packet whose header `WritePacketHeader` writes. -/
def packet (c : Controller) (pkt : PendingOutgoingPacket) : Packet where
  type := pkt.type
  ackId := c.window.lastRemoteSeq
  pseq := pkt.seq
  acks := c.window.acks
  pflags := extraFlags c.extras
  body := writeExtras c.extras ++ pkt.data

/-- An extra in a header remembers the first packet that carries it. -/
def carry (pseq : Seq) (x : UnacknowledgedExtraData) : UnacknowledgedExtraData :=
  if x.firstContainingSeq = 0 then { x with firstContainingSeq := pseq } else x

/-- `WritePacketHeader`. -/
def writePacketHeader (c : Controller) (pseq : Seq) (now : ℕ) : Controller :=
  let recent := c.recentOutgoingPackets ++ [{ seq := pseq, sendTime := now }]
  { c with
    currentExtras := c.currentExtras.map (carry pseq)
    recentOutgoingPackets := recent.drop (recent.length - maxRecentPackets)
    lastSentSeq := pseq }

/-- `SendOrEnqueuePacket`. -/
def sendOrEnqueuePacket (c : Controller) (pkt : PendingOutgoingPacket) (readiness : Readiness)
    (enqueue : Bool) (now : ℕ) : Controller × List Packet :=
  match readiness with
  | .notReady => (if enqueue then { c with sendQueue := c.sendQueue ++ [pkt] } else c, [])
  | .unused => (c, [])
  | .ready => (c.writePacketHeader pkt.seq now, [c.packet pkt])

/-- `SendPacketReliably`. -/
def sendPacketReliably (c : Controller) (type : UInt8) (data : Buffer) (retryInterval timeout : ℕ) :
    Controller :=
  { c with queuedPackets := c.queuedPackets ++ [{ type, data, retryInterval, timeout }] }

/-- The loop of `UpdateQueuedPackets` : the packets it keeps, those it sends and the next number. -/
def updateFrom (now : ℕ) : List QueuedPacket → ℕ →
    List QueuedPacket × List PendingOutgoingPacket × ℕ
  | [], seq => ([], [], seq)
  | qp :: qps, seq =>
    if 0 < qp.timeout ∧ 0 < qp.firstSentTime ∧ qp.firstSentTime + qp.timeout ≤ now then
      updateFrom now qps seq
    else if qp.lastSentTime + qp.retryInterval ≤ now then
      let rest := updateFrom now qps (seq + 1)
      ({ qp with
          seqs := QueuedPacket.add qp.seqs (BitVec.ofNat 32 seq)
          lastSentTime := now
          firstSentTime := if qp.firstSentTime = 0 then now else qp.firstSentTime } :: rest.1,
        ⟨BitVec.ofNat 32 seq, qp.type, qp.data⟩ :: rest.2.1, rest.2.2)
    else
      let rest := updateFrom now qps seq
      (qp :: rest.1, rest.2)

/-- `UpdateQueuedPackets`, up to the point where it sends them. -/
def updateQueuedPackets (c : Controller) (now : ℕ) : Controller :=
  let updated := updateFrom now c.queuedPackets c.seq
  { c with
    seq := updated.2.2
    queuedPackets := updated.1
    inHand := c.inHand ++ updated.2.1 }

/-- `SendExtra` : an extra takes the place of one of its kind. -/
def putExtra (x : UnacknowledgedExtraData) :
    List UnacknowledgedExtraData → List UnacknowledgedExtraData
  | [] => [x]
  | y :: xs => if y.type = x.type then x :: xs else y :: putExtra x xs

def sendExtra (c : Controller) (data : Buffer) (type : UInt8) : Controller :=
  { c with currentExtras := putExtra { type, data } c.currentExtras }

/-! ## Reading -/

/-- The word of a header is read one number lower than it is written : the bit for the highest
number marks the packet before it. -/
def acknowledge (ackId : Seq) (acks : BitVec 32) (now : ℕ) (opkt : RecentOutgoingPacket) :
    RecentOutgoingPacket :=
  if opkt.ackTime = 0 ∧ (List.range 31).any fun i =>
      acks.getLsbD (31 - i) && decide (opkt.seq = ackId - BitVec.ofNat 32 (i + 1)) then
    { opkt with ackTime := now }
  else opkt

/-- One of the last 16 copies of the packet is marked. -/
def didAck (recent : List RecentOutgoingPacket) (lastRemoteAckSeq : Seq) (qp : QueuedPacket) :
    Bool :=
  (qp.seqs.takeWhile (· ≠ 0)).any fun seq =>
    seqgt lastRemoteAckSeq seq && decide ((lastRemoteAckSeq - seq).toNat < 32) &&
      recent.any fun opkt => decide (opkt.seq = seq) && decide (0 < opkt.ackTime)

/-- The peer has got as far as the first packet with the extra. -/
def isAcknowledged (lastRemoteAckSeq : Seq) (x : UnacknowledgedExtraData) : Bool :=
  decide (x.firstContainingSeq ≠ 0) &&
    (decide (lastRemoteAckSeq = x.firstContainingSeq) ||
      seqgt lastRemoteAckSeq x.firstContainingSeq)

/-- `ProcessIncomingPacket` : the acknowledgements of a header, if it is the latest. -/
def processAcks (c : Controller) (ackId : Seq) (acks : BitVec 32) (now : ℕ) :
    Controller × List Event :=
  if seqgt ackId c.lastRemoteAckSeq then
    let recent := c.recentOutgoingPackets.map (acknowledge ackId acks now)
    ({ c with
        lastRemoteAckSeq := ackId
        recentOutgoingPackets := recent
        queuedPackets := c.queuedPackets.filter fun qp => !didAck recent ackId qp
        currentExtras := c.currentExtras.filter fun x => !isAcknowledged ackId x },
      (c.queuedPackets.filter (didAck recent ackId)).map Event.discharged ++
        (c.currentExtras.filter (isAcknowledged ackId)).map Event.acknowledged)
  else (c, [])

variable (hash : Buffer → BitVec 64)

/-- `ProcessExtraData` : the kind is noted before the data is read. -/
def processExtraData (c : Controller) (r : Receiver) (x : Extra) : Controller × Event :=
  if c.lastReceivedExtrasByType x.type = hash (x.type :: x.data) then (c, .processed x false)
  else
    ({ c with
        lastReceivedExtrasByType :=
          Function.update c.lastReceivedExtrasByType x.type (hash (x.type :: x.data)) },
      if handles r x then .processed x true else .failed x)

/-- The extras of a packet, of which an exception leaves the rest. -/
def processExtras (r : Receiver) : Controller → List Extra → Controller × List Event
  | c, [] => (c, [])
  | c, x :: xs =>
    let first := c.processExtraData hash r x
    if first.2 = .failed x then (first.1, [first.2])
    else
      let rest := processExtras r first.1 xs
      (rest.1, first.2 :: rest.2)

/-- `ProcessIncomingPacket`, from the decrypted header on. -/
def processIncomingPacket (c : Controller) (pkt : Packet) (now : ℕ) (r : Receiver) :
    Controller × List Event :=
  let c := { c with packetsReceived := c.packetsReceived + 1 }
  match c.window.receive pkt.pseq now with
  | none => (c, [])
  | some window =>
    let far := seqgt pkt.pseq c.window.lastRemoteSeq &&
      decide (31 < (pkt.pseq - c.window.lastRemoteSeq).toNat)
    let acked := { c with window }.processAcks pkt.ackId pkt.acks now
    let rest := acked.1.processExtras hash r pkt.extras
    (rest.1, .accepted pkt.pseq far :: acked.2 ++ rest.2)

end Controller

/-! ## The two ends -/

inductive Side
  | caller
  | callee
  deriving DecidableEq

def Side.other : Side → Side
  | .caller => .callee
  | .callee => .caller

/-- One end, with the extras it was told to send, all it has written, how far into the packets of
the peer the last one was that it was given, and all it has done with what it received. -/
structure Party where
  controller : Controller := {}
  said : List Extra := []
  written : List Packet := []
  given : ℕ := 0
  log : List Event := []

abbrev Call := Side → Party

/-- What an end does on its own. -/
inductive Action
  | generate (type : UInt8) (data : Buffer) (copies : ℕ)
  | sendPacketReliably (type : UInt8) (data : Buffer) (retryInterval timeout : ℕ)
  | updateQueuedPackets (now : ℕ)
  | sendExtra (data : Buffer) (type : UInt8)
  /-- The thread with the `i`-th packet in hand sends it. -/
  | send (i : ℕ) (readiness : Readiness) (now : ℕ)
  /-- The `i`-th packet of the send queue is sent, or dropped. -/
  | flush (i : ℕ) (readiness : Readiness) (now : ℕ)

/-- The extra an action has the end send. -/
def Action.extra : Action → Option Extra
  | .sendExtra data type => some ⟨type, data⟩
  | _ => none

/-- The network delivers the `i`-th packet of the other end, at a time, to an end that goes by some
things when it processes extras. -/
structure Delivery where
  i : ℕ
  now : ℕ
  receiver : Receiver := .thorough

inductive Label
  | act (side : Side) (action : Action)
  | deliver (side : Side) (d : Delivery)

namespace Controller

/-- An action, with the packets it writes. -/
def perform (c : Controller) : Action → Option (Controller × List Packet)
  | .generate type data copies => some (c.generate type data copies, [])
  | .sendPacketReliably type data retryInterval timeout =>
    some (c.sendPacketReliably type data retryInterval timeout, [])
  | .updateQueuedPackets now => some (c.updateQueuedPackets now, [])
  | .sendExtra data type => some (c.sendExtra data type, [])
  | .send i readiness now =>
    c.inHand[i]?.map fun pkt =>
      { c with inHand := c.inHand.eraseIdx i }.sendOrEnqueuePacket pkt readiness true now
  | .flush i readiness now =>
    c.sendQueue[i]?.map fun pkt =>
      { c with sendQueue := c.sendQueue.eraseIdx i }.sendOrEnqueuePacket pkt readiness false now

end Controller

namespace Party

variable (hash : Buffer → BitVec 64)

def perform (p : Party) (action : Action) : Option Party :=
  (p.controller.perform action).map fun done =>
    { p with
      controller := done.1
      said := p.said ++ action.extra.toList
      written := p.written ++ done.2 }

def receive (p : Party) (pkt : Packet) (d : Delivery) : Party :=
  let done := p.controller.processIncomingPacket hash pkt d.now d.receiver
  { p with controller := done.1, given := d.i + 1, log := p.log ++ done.2 }

end Party

namespace Call

variable (hash : Buffer → BitVec 64)

/-- A packet may be delivered at any time after it was written, more than once or never. -/
def next (s : Call) : Label → Option Call
  | .act side action => ((s side).perform action).map (Function.update s side)
  | .deliver side d =>
    if 0 < d.now then
      (s side.other).written[d.i]?.map fun pkt =>
        Function.update s side ((s side).receive hash pkt d)
    else none

def Step (s : Call) (l : Label) (s' : Call) : Prop :=
  s.next hash l = some s'

/-- Nothing has been sent. -/
def start : Call := fun _ => {}

end Call

end Voip

end TelegramProvider
