import Mathlib.Data.List.TakeWhile
import TelegramProvider.Reliability

/-!
# What the acknowledgements of a call mean

`told_of_run` : whatever the network does, a packet is marked acknowledged only if the peer has
taken the packet with the next higher number. What holds of an end and its peer is carried along a
run by what each of them does and receives (`Call.invariant_of_run`).
-/

set_option autoImplicit false

namespace TelegramProvider

open Runs

namespace Voip

variable {hash : Buffer → BitVec 64}

/-! ## What a step does to an end -/

/-- The extra of an event that processes one. -/
def Event.extra : Event → Option Extra
  | .processed x _ => some x
  | _ => none

/-- What comes of an extra. -/
inductive Event.OfExtra : Event → Prop
  | processed (x : Extra) (isNew : Bool) : OfExtra (.processed x isNew)
  | failed (x : Extra) : OfExtra (.failed x)

namespace Controller

variable {c c' : Controller} {pkt : Packet} {now : ℕ} {r : Receiver} {es : List Event}

/-- An extra is known, or it is noted and is processed or fails. -/
theorem processExtraData_cases (hash : Buffer → BitVec 64) (c : Controller) (r : Receiver)
    (x : Extra) :
    (∃ last, (c.processExtraData hash r x).1 = { c with lastReceivedExtrasByType := last }) ∧
      ((∃ isNew, (c.processExtraData hash r x).2 = .processed x isNew) ∨
        handles r x = false ∧ (c.processExtraData hash r x).2 = .failed x) := by
  unfold processExtraData
  split_ifs with hknown hhandles
  · exact ⟨⟨_, rfl⟩, .inl ⟨false, rfl⟩⟩
  · exact ⟨⟨_, rfl⟩, .inl ⟨true, rfl⟩⟩
  · exact ⟨⟨_, rfl⟩, .inr ⟨by simpa using hhandles, rfl⟩⟩

theorem processExtras_eq (hash : Buffer → BitVec 64) (c : Controller) (r : Receiver)
    (xs : List Extra) :
    ∃ last, (c.processExtras hash r xs).1 = { c with lastReceivedExtrasByType := last } := by
  induction xs generalizing c with
  | nil => exact ⟨_, rfl⟩
  | cons x xs ih =>
    obtain ⟨⟨first, hfirst⟩, -⟩ := processExtraData_cases hash c r x
    simp only [processExtras]
    split_ifs
    · exact ⟨first, hfirst⟩
    · obtain ⟨last, hlast⟩ := ih (c.processExtraData hash r x).1
      exact ⟨last, by rw [hlast, hfirst]⟩

/-- The extras of a header are processed in order, if none of them fails, and nothing else. -/
theorem processExtras_events (hash : Buffer → BitVec 64) (c : Controller) (r : Receiver)
    (xs : List Extra) :
    ((∀ x ∈ xs, handles r x = true) →
        (c.processExtras hash r xs).2.filterMap Event.extra = xs) ∧
      ∀ e ∈ (c.processExtras hash r xs).2, e.OfExtra := by
  induction xs generalizing c with
  | nil => simp [processExtras]
  | cons x xs ih =>
    obtain ⟨hall, honly⟩ := ih (c.processExtraData hash r x).1
    simp only [processExtras]
    rcases (processExtraData_cases hash c r x).2 with ⟨isNew, hhead⟩ | ⟨hfails, hhead⟩
    · simp only [hhead, reduceCtorEq, if_false, List.forall_mem_cons]
      exact ⟨fun hhandles => congrArg (x :: ·) (hall hhandles.2), .processed x isNew, honly⟩
    · simp only [hhead, if_true, List.forall_mem_cons, hfails, Bool.false_eq_true, false_and]
      exact ⟨fun hhandles => hhandles.elim, .failed x, by simp⟩

/-- A packet is taken or dropped. -/
inductive Processed (hash : Buffer → BitVec 64) (c : Controller) (pkt : Packet) (now : ℕ)
    (r : Receiver) : Controller → List Event → Prop
  | dropped (hnone : c.window.receive pkt.pseq now = none) :
      Processed hash c pkt now r { c with packetsReceived := c.packetsReceived + 1 } []
  | taken (window : Window) (far : Bool) (last : UInt8 → BitVec 64)
      (acked : Controller × List Event) (extras : List Event)
      (htaken : Window.Taken c.window pkt.pseq now window)
      (hfar : far = true ↔ seqgt pkt.pseq c.window.lastRemoteSeq = true ∧
        31 < (pkt.pseq - c.window.lastRemoteSeq).toNat)
      (hextras : (∀ x ∈ pkt.extras, handles r x = true) →
        extras.filterMap Event.extra = pkt.extras)
      (honly : ∀ e ∈ extras, e.OfExtra)
      (hacked : acked = { c with
        window, packetsReceived := c.packetsReceived + 1 }.processAcks pkt.ackId pkt.acks now) :
      Processed hash c pkt now r { acked.1 with lastReceivedExtrasByType := last }
        (.accepted pkt.pseq far :: (acked.2 ++ extras))

/-- Acknowledgements leave what has come as it is. -/
theorem processAcks_window (c : Controller) (ackId : Seq) (acks : BitVec 32) (now : ℕ) :
    (c.processAcks ackId acks now).1.window = c.window := by
  unfold processAcks
  split_ifs <;> rfl

theorem processed_processIncomingPacket (hash : Buffer → BitVec 64) (c : Controller) (pkt : Packet)
    (now : ℕ) (r : Receiver) :
    Processed hash c pkt now r (c.processIncomingPacket hash pkt now r).1
      (c.processIncomingPacket hash pkt now r).2 := by
  unfold processIncomingPacket
  cases hreceive : c.window.receive pkt.pseq now with
  | none => simpa only [hreceive] using Processed.dropped hreceive
  | some window =>
    simp only [hreceive]
    generalize hacked : processAcks _ pkt.ackId pkt.acks now = acked
    obtain ⟨last, hlast⟩ := processExtras_eq hash acked.1 r pkt.extras
    obtain ⟨hall, honly⟩ := processExtras_events hash acked.1 r pkt.extras
    rw [hlast]
    exact .taken window _ last acked _ (Window.taken_of_receive hreceive) (by simp) hall honly
      hacked.symm

/-- The packet whose header an action writes. -/
def writes (c : Controller) : Action → Option PendingOutgoingPacket
  | .send i .ready _ => c.inHand[i]?
  | .flush i .ready _ => c.sendQueue[i]?
  | _ => none

/-- The packets that have their number and are not sent yet. -/
def pending (c : Controller) : List PendingOutgoingPacket :=
  c.inHand ++ c.sendQueue

/-- An action writes one header or none. -/
inductive Performed (c : Controller) : Action → Controller → List Packet → Prop
  | generate (type : UInt8) (data : Buffer) (copies : ℕ) :
      Performed c (.generate type data copies) (c.generate type data copies) []
  | reliably (type : UInt8) (data : Buffer) (retryInterval timeout : ℕ) :
      Performed c (.sendPacketReliably type data retryInterval timeout)
        (c.sendPacketReliably type data retryInterval timeout) []
  | update (now : ℕ) : Performed c (.updateQueuedPackets now) (c.updateQueuedPackets now) []
  | extra (data : Buffer) (type : UInt8) :
      Performed c (.sendExtra data type) (c.sendExtra data type) []
  | keep (action : Action) (inHand sendQueue : List PendingOutgoingPacket)
      (hsub : inHand ++ sendQueue ⊆ c.pending) (hextra : action.extra = none) :
      Performed c action { c with inHand, sendQueue } []
  | write (action : Action) (inHand sendQueue : List PendingOutgoingPacket)
      (pkt : PendingOutgoingPacket) (now : ℕ)
      (hsub : inHand ++ sendQueue ⊆ c.pending) (hpkt : pkt ∈ c.pending)
      (hwrites : c.writes action = some pkt) :
      Performed c action ({ c with inHand, sendQueue }.writePacketHeader pkt.seq now)
        [c.packet pkt]

theorem performed_of_perform {action : Action} {done : Controller × List Packet}
    (h : c.perform action = some done) : Performed c action done.1 done.2 := by
  cases action with
  | generate type data copies =>
    obtain rfl := Option.some.inj h
    exact .generate type data copies
  | sendPacketReliably type data retryInterval timeout =>
    obtain rfl := Option.some.inj h
    exact .reliably type data retryInterval timeout
  | updateQueuedPackets now =>
    obtain rfl := Option.some.inj h
    exact .update now
  | sendExtra data type =>
    obtain rfl := Option.some.inj h
    exact .extra data type
  | send i readiness now =>
    obtain ⟨pkt, hi, rfl⟩ := Option.map_eq_some_iff.1 h
    have hpkt : pkt ∈ c.pending := List.mem_append_left _ (List.mem_of_getElem? hi)
    have hleft : c.inHand.eraseIdx i ⊆ c.pending :=
      List.Subset.trans List.eraseIdx_subset (List.subset_append_left ..)
    have hright : c.sendQueue ⊆ c.pending := List.subset_append_right ..
    cases readiness with
    | notReady =>
      refine .keep _ _ (c.sendQueue ++ [pkt]) (List.append_subset.2 ⟨hleft, ?_⟩) rfl
      exact List.append_subset.2 ⟨hright, by simpa using hpkt⟩
    | unused => exact .keep _ _ _ (List.append_subset.2 ⟨hleft, hright⟩) rfl
    | ready => exact .write _ _ _ pkt now (List.append_subset.2 ⟨hleft, hright⟩) hpkt hi
  | flush i readiness now =>
    obtain ⟨pkt, hi, rfl⟩ := Option.map_eq_some_iff.1 h
    have hpkt : pkt ∈ c.pending := List.mem_append_right _ (List.mem_of_getElem? hi)
    have hleft : c.inHand ++ c.sendQueue.eraseIdx i ⊆ c.pending :=
      List.append_subset.2 ⟨List.subset_append_left ..,
        List.Subset.trans List.eraseIdx_subset (List.subset_append_right ..)⟩
    cases readiness with
    | notReady => exact .keep _ _ _ hleft rfl
    | unused => exact .keep _ _ _ hleft rfl
    | ready => exact .write _ _ _ pkt now hleft hpkt hi

theorem Performed.window_eq {action : Action} {pkts : List Packet}
    (h : Performed c action c' pkts) : c'.window = c.window := by
  cases h <;> rfl

/-- A header says what has come. -/
theorem Performed.header {action : Action} {pkts : List Packet} (h : Performed c action c' pkts) :
    ∀ pkt ∈ pkts, pkt.ackId = c.window.lastRemoteSeq ∧ pkt.acks = c.window.acks := by
  cases h with
  | write _ _ _ pkt => simp [packet]
  | _ => simp

/-- An action acknowledges nothing. -/
theorem Performed.mem_recent {action : Action} {pkts : List Packet}
    (h : Performed c action c' pkts) {opkt : RecentOutgoingPacket}
    (hmem : opkt ∈ c'.recentOutgoingPackets) (htime : 0 < opkt.ackTime) :
    opkt ∈ c.recentOutgoingPackets := by
  cases h with
  | write _ inHand sendQueue pkt now =>
    simp only [writePacketHeader] at hmem
    rcases List.mem_append.1 (List.mem_of_mem_drop hmem) with hold | hnew
    · exact hold
    · rw [List.mem_singleton.1 hnew] at htime
      exact absurd htime (Nat.lt_irrefl 0)
  | _ => exact hmem

end Controller

/-! ## Invariants of the two ends -/

namespace Side

@[simp] theorem other_other (side : Side) : side.other.other = side := by
  cases side <;> rfl

theorem other_ne (side : Side) : side.other ≠ side := by
  cases side <;> decide

theorem eq_other_of_ne {t side : Side} (h : t ≠ side) : side = t.other := by
  cases side <;> cases t <;> first | rfl | exact absurd rfl h

end Side

namespace Call

variable {s s' : Call} {ls : List Label}

/-- What an end does, and what it is given, meets the conditions. -/
def Allowed (ok : Party → Action → Prop) (fit : Party → Delivery → Prop) (s : Call) :
    Label → Prop
  | .act side action => ok (s side) action
  | .deliver side d => fit (s side) d

/-- A run is one that meets no condition. -/
theorem run_allowed (hrun : Run (Step hash) start ls s) :
    Run (Restrict (Step hash) (Allowed (fun _ _ => True) fun _ _ => True)) start ls s := by
  refine hrun.mono fun _ l _ hstep => ⟨hstep, ?_⟩
  cases l with
  | act => exact trivial
  | deliver => exact trivial

instance {ok : Party → Action → Prop} {fit : Party → Delivery → Prop}
    [∀ p action, Decidable (ok p action)] [∀ p d, Decidable (fit p d)] (s : Call) :
    ∀ l, Decidable (Allowed ok fit s l)
  | .act side action => inferInstanceAs (Decidable (ok (s side) action))
  | .deliver side d => inferInstanceAs (Decidable (fit (s side) d))

/-- A computed run, with what can be read off its end. -/
theorem exists_run (hash : Buffer → BitVec 64) (ls : List Label)
    (ok : Party → Action → Prop) (fit : Party → Delivery → Prop)
    [∀ p action, Decidable (ok p action)] [∀ p d, Decidable (fit p d)]
    (P : Call → Prop) [DecidablePred P]
    (h : ((exec (guarded (Allowed ok fit) (next hash)) start ls).any fun s =>
      decide (P s)) = true) :
    ∃ s, Run (Restrict (Step hash) (Allowed ok fit)) start ls s ∧ P s := by
  obtain ⟨s, hs, hP⟩ := (Option.any_eq_true ..).1 h
  exact ⟨s, Run.of_guarded (fun _ _ _ h => h) hs, of_decide_eq_true hP⟩

/-- What holds of an end and its peer is kept by a run if it is kept by what either of them does,
and by what either of them receives of the other. -/
theorem invariant_of_run {ok : Party → Action → Prop} {fit : Party → Delivery → Prop}
    {I : Party → Party → Prop} (hstart : I {} {})
    (hact : ∀ p q action p', I p q → ok p action → p.perform action = some p' → I p' q)
    (hpeer : ∀ p q action q', I p q → ok q action → q.perform action = some q' → I p q')
    (hreceive : ∀ p q pkt d, I p q → I q p → q.written[d.i]? = some pkt → fit p d → 0 < d.now →
      I (p.receive hash pkt d) q)
    (hheard : ∀ p q pkt d, I p q → I q p → p.written[d.i]? = some pkt → fit q d → 0 < d.now →
      I p (q.receive hash pkt d))
    (hrun : Run (Restrict (Step hash) (Allowed ok fit)) start ls s) (side : Side) :
    I (s side) (s side.other) := by
  refine hrun.invariant (fun s => ∀ side, I (s side) (s side.other)) ?_ (fun _ => hstart) side
  rintro s l s' hI ⟨hstep, hok⟩ t
  cases l with
  | act side action =>
    obtain ⟨p, hp, rfl⟩ := Option.map_eq_some_iff.1 hstep
    rcases eq_or_ne t side with rfl | hne
    · simpa [t.other_ne] using hact _ _ _ _ (hI t) hok hp
    · obtain rfl := Side.eq_other_of_ne hne
      simpa [hne] using hpeer _ _ _ _ (hI t) hok hp
  | deliver side d =>
    simp only [Step, next] at hstep
    split_ifs at hstep with hnow
    obtain ⟨pkt, hpkt, rfl⟩ := Option.map_eq_some_iff.1 hstep
    have hself := hI t
    have hother := hI t.other
    rw [Side.other_other] at hother
    rcases eq_or_ne t side with rfl | hne
    · simpa [t.other_ne] using hreceive _ _ pkt d hself hother hpkt hok hnow
    · obtain rfl := Side.eq_other_of_ne hne
      rw [Side.other_other] at hpkt
      simpa [hne] using hheard _ _ pkt d hself hother hpkt hok hnow

end Call

/-! ## What a mark means -/

/-- The number of a packet that is taken. -/
def Event.acceptedSeq : Event → Option Seq
  | .accepted pseq _ => some pseq
  | _ => none

/-- The numbers of the packets an end has taken, in order. -/
def Party.accepted (p : Party) : List Seq :=
  p.log.filterMap Event.acceptedSeq

/-- What is marked as come has come. -/
theorem Window.mem_of_heard {w w' : Window} {pseq : Seq} {now : ℕ} {seqs : List Seq}
    (h : Taken w pseq now w')
    (hseqs : ∀ i < 32, 0 < w.heard i → w.lastRemoteSeq - BitVec.ofNat 32 i ∈ seqs)
    {i : ℕ} (hi : i < 32) (hheard : 0 < w'.heard i) :
    w'.lastRemoteSeq - BitVec.ofNat 32 i ∈ seqs ++ [pseq] := by
  rw [List.mem_append, List.mem_singleton]
  cases h with
  | jump _ _ _ hzero => exact absurd (hzero i hi) (Nat.ne_of_gt hheard)
  | ahead diff hpos hnear hdiff _ hlast htimes =>
    rw [htimes i hi] at hheard
    rw [hlast]
    split_ifs at hheard with h0 hlt
    · subst h0
      exact .inr (by bv_omega)
    · exact absurd hheard (Nat.lt_irrefl 0)
    · have hseq : pseq - BitVec.ofNat 32 i = w.lastRemoteSeq - BitVec.ofNat 32 (i - diff) := by
        bv_omega
      exact .inl (hseq ▸ hseqs _ (by omega) hheard)
  | late j _ hdiff _ _ hlast htimes =>
    rw [htimes i hi] at hheard
    rw [hlast]
    split_ifs at hheard with hij
    · exact .inr (by subst hij; bv_omega)
    · exact .inl (hseqs i hi hheard)

namespace Party

variable {p p' q q' : Party} {action : Action} {pkt : Packet} {d : Delivery}

theorem log_of_perform (h : p.perform action = some p') : p'.log = p.log := by
  obtain ⟨done, -, rfl⟩ := Option.map_eq_some_iff.1 h
  rfl

theorem accepted_of_perform (h : p.perform action = some p') : p'.accepted = p.accepted :=
  congrArg (List.filterMap Event.acceptedSeq) (log_of_perform h)

theorem processed_of_receive (hash : Buffer → BitVec 64) (p : Party) (pkt : Packet)
    (d : Delivery) :
    ∃ c es, Controller.Processed hash p.controller pkt d.now d.receiver c es ∧
      p.receive hash pkt d =
        { p with controller := c, given := d.i + 1, log := p.log ++ es } :=
  ⟨_, _, Controller.processed_processIncomingPacket hash p.controller pkt d.now d.receiver, rfl⟩

theorem accepted_subset_receive (p : Party) (pkt : Packet) (d : Delivery) :
    p.accepted ⊆ (p.receive hash pkt d).accepted :=
  fun seq hseq => by
    unfold accepted receive
    rw [List.filterMap_append]
    exact List.mem_append_left _ hseq

end Party

/-- What one end believes the other has is so : its header says nothing of packets that have not
come, and a mark, which is one number too low, is justified by the next number. -/
structure Told (p q : Party) : Prop where
  heard : ∀ i < 32, 0 < p.controller.window.heard i →
    p.controller.window.lastRemoteSeq - BitVec.ofNat 32 i ∈ p.accepted
  words : ∀ pkt ∈ p.written, ∀ i < 32, pkt.acks.getLsbD (31 - i) = true →
    pkt.ackId - BitVec.ofNat 32 i ∈ p.accepted
  marks : ∀ opkt ∈ p.controller.recentOutgoingPackets, 0 < opkt.ackTime →
    opkt.seq + 1 ∈ q.accepted
  discharged : ∀ qp, Event.discharged qp ∈ p.log →
    ∃ seq ∈ qp.seqs, seq ≠ 0 ∧ seq + 1 ∈ q.accepted

namespace Told

variable {p p' q q' : Party} {action : Action} {pkt : Packet} {now : ℕ} {d : Delivery}

theorem start : Told {} {} where
  heard i _ h := absurd (Window.heard_start i) (Nat.ne_of_gt h)
  words := by simp
  marks := by simp
  discharged := by simp

theorem mono (h : Told p q) (hsub : q.accepted ⊆ q'.accepted) : Told p q' where
  heard := h.heard
  words := h.words
  marks opkt hmem htime := hsub (h.marks opkt hmem htime)
  discharged qp hqp :=
    (h.discharged qp hqp).imp fun _ hseq => ⟨hseq.1, hseq.2.1, hsub hseq.2.2⟩

theorem of_perform (h : Told p q) (hperform : p.perform action = some p') : Told p' q := by
  obtain ⟨done, hdone, rfl⟩ := Option.map_eq_some_iff.1 hperform
  have hmoved := Controller.performed_of_perform hdone
  exact {
    heard := by
      intro i hi hheard
      rw [hmoved.window_eq] at hheard ⊢
      exact h.heard i hi hheard
    words := by
      intro pkt hmem i hi hbit
      rcases List.mem_append.1 hmem with hold | hnew
      · exact h.words pkt hold i hi hbit
      · obtain ⟨hack, hacks⟩ := hmoved.header pkt hnew
        rw [hacks, Window.getLsbD_acks _ hi, decide_eq_true_eq] at hbit
        rw [hack]
        exact h.heard i hi hbit
    marks := fun opkt hmem htime => h.marks opkt (hmoved.mem_recent hmem htime) htime
    discharged := h.discharged }

/-- The marks a header makes are justified by the next numbers. -/
theorem of_acknowledge {ackId : Seq} {acks : BitVec 32} {opkts : List RecentOutgoingPacket}
    {seqs : List Seq}
    (hacks : ∀ i < 32, acks.getLsbD (31 - i) = true → ackId - BitVec.ofNat 32 i ∈ seqs)
    (hmarks : ∀ opkt ∈ opkts, 0 < opkt.ackTime → opkt.seq + 1 ∈ seqs) :
    ∀ opkt ∈ opkts.map (Controller.acknowledge ackId acks now), 0 < opkt.ackTime →
      opkt.seq + 1 ∈ seqs := by
  intro opkt hmem htime
  obtain ⟨old, hold, rfl⟩ := List.mem_map.1 hmem
  unfold Controller.acknowledge at htime ⊢
  split_ifs at htime ⊢ with hmark
  · obtain ⟨i, hi, hbit⟩ := List.any_eq_true.1 hmark.2
    simp only [List.mem_range, Bool.and_eq_true, decide_eq_true_eq] at hi hbit
    have hnext : old.seq + 1 = ackId - BitVec.ofNat 32 i := by
      rw [hbit.2]
      bv_omega
    exact hnext ▸ hacks i (by omega) hbit.1
  · exact hmarks old hold htime

/-- A queued packet goes when one of its copies is marked. -/
theorem of_didAck {recent : List RecentOutgoingPacket} {ackId : Seq} {qp : QueuedPacket}
    {seqs : List Seq} (hmarks : ∀ opkt ∈ recent, 0 < opkt.ackTime → opkt.seq + 1 ∈ seqs)
    (h : Controller.didAck recent ackId qp = true) :
    ∃ seq ∈ qp.seqs, seq ≠ 0 ∧ seq + 1 ∈ seqs := by
  obtain ⟨seq, hseq, hack⟩ := List.any_eq_true.1 h
  simp only [Bool.and_eq_true, List.any_eq_true, decide_eq_true_eq] at hack
  obtain ⟨-, opkt, hmem, rfl, htime⟩ := hack
  have hne : opkt.seq ≠ 0 := by simpa using List.mem_takeWhile_imp hseq
  exact ⟨opkt.seq, (List.takeWhile_subset _) hseq, hne, hmarks opkt hmem htime⟩

theorem of_receive (h : Told p q) (hq : Told q p) (hpkt : pkt ∈ q.written) :
    Told (p.receive hash pkt d) q := by
  obtain ⟨c, es, hprocessed, hreceive⟩ := Party.processed_of_receive hash p pkt d
  rw [hreceive]
  cases hprocessed with
  | dropped hnone =>
    rw [List.append_nil]
    exact ⟨h.heard, h.words, h.marks, h.discharged⟩
  | taken window far last acked extras htaken hfar hextras honly hacked =>
    have hwindow : acked.1.window = window := hacked ▸ Controller.processAcks_window ..
    have hmarks : ∀ opkt ∈ acked.1.recentOutgoingPackets, 0 < opkt.ackTime →
        opkt.seq + 1 ∈ q.accepted := by
      rw [hacked, Controller.processAcks]
      split_ifs
      · exact of_acknowledge (hq.words pkt hpkt) h.marks
      · exact h.marks
    have hdischarged : ∀ qp, Event.discharged qp ∈ acked.2 →
        ∃ seq ∈ qp.seqs, seq ≠ 0 ∧ seq + 1 ∈ q.accepted := by
      rw [hacked, Controller.processAcks]
      split_ifs
      · intro qp hqp
        simp only [List.mem_append, List.mem_map, List.mem_filter, reduceCtorEq, and_false,
          exists_false, or_false, Event.discharged.injEq] at hqp
        obtain ⟨_, ⟨-, hack⟩, rfl⟩ := hqp
        exact of_didAck (of_acknowledge (hq.words pkt hpkt) h.marks) hack
      · simp
    have haccepted : p.accepted ++ [pkt.pseq] ⊆
        (p.log ++ .accepted pkt.pseq far :: (acked.2 ++ extras)).filterMap Event.acceptedSeq := by
      rw [List.filterMap_append]
      refine List.append_subset.2 ⟨List.subset_append_left .., fun seq hseq => ?_⟩
      rw [List.mem_singleton.1 hseq]
      exact List.mem_append_right _ List.mem_cons_self
    exact {
      heard := by
        intro i hi hheard
        simp only [hwindow] at hheard ⊢
        exact haccepted (Window.mem_of_heard htaken h.heard hi hheard)
      words := fun pkt hmem i hi hbit =>
        haccepted (List.mem_append_left _ (h.words pkt hmem i hi hbit))
      marks := hmarks
      discharged := by
        intro qp hqp
        simp only [List.mem_append, List.mem_cons, reduceCtorEq, false_or] at hqp
        rcases hqp with hold | hnew | hextra
        · exact h.discharged qp hold
        · exact hdischarged qp hnew
        · cases honly _ hextra }

end Told

/-- No packet is marked acknowledged unless the peer has taken the packet with the next number, and
no queued packet is dropped as acknowledged unless the peer has taken the packet after one of its
copies. One that is not acknowledged may be dropped all the same, when its time is over. -/
theorem told_of_run {s : Call} {ls : List Label} (hrun : Run (Call.Step hash) Call.start ls s)
    (side : Side) :
    (∀ opkt ∈ (s side).controller.recentOutgoingPackets, 0 < opkt.ackTime →
      opkt.seq + 1 ∈ (s side.other).accepted) ∧
    ∀ qp, Event.discharged qp ∈ (s side).log →
      ∃ seq ∈ qp.seqs, seq ≠ 0 ∧ seq + 1 ∈ (s side.other).accepted := by
  have htold : Told (s side) (s side.other) :=
    Call.invariant_of_run Told.start
      (fun _ _ _ _ h _ hperform => h.of_perform hperform)
      (fun _ _ _ _ h _ hperform => h.mono (Party.accepted_of_perform hperform ▸ List.Subset.refl _))
      (fun _ _ _ _ h hq hpkt _ _ => h.of_receive hq (List.mem_of_getElem? hpkt))
      (fun _ q pkt d h _ _ _ _ => h.mono (q.accepted_subset_receive pkt d))
      (Call.run_allowed hrun) side
  exact ⟨htold.marks, htold.discharged⟩

/-- The caller queues a packet, whose only copy is lost, and its next packet arrives. -/
def lostCopy : List Label :=
  [.act .caller (.sendPacketReliably 3 [1, 1] 500 20000), .act .caller (.updateQueuedPackets 1000),
    .act .caller (.send 0 .ready 1000), .act .caller (.generate 14 [] 1),
    .act .caller (.send 0 .ready 1001), .deliver .callee { i := 1, now := 1002 },
    .act .callee (.generate 14 [] 1), .act .callee (.send 0 .ready 1003),
    .deliver .caller { i := 0, now := 1004 }]

/-- That packet, with the time it was written. -/
def lostPacket : QueuedPacket where
  type := 3
  data := [1, 1]
  seqs := 1 :: List.replicate 15 0
  firstSentTime := 1000
  lastSentTime := 1000
  retryInterval := 500
  timeout := 20000

/-- The queued packet stops being sent, though the callee has taken no copy of it. -/
theorem told_of_run_lostCopy : ∃ s,
    Run (Call.Step fun _ => 1) Call.start lostCopy s ∧
      Event.discharged lostPacket ∈ (s .caller).log ∧ (s .callee).accepted = [2] ∧
        ∃ seq ∈ lostPacket.seqs, seq ≠ 0 ∧ seq + 1 ∈ (s .callee).accepted := by
  obtain ⟨s, hrun, hlog, haccepted⟩ := Call.exists_run (fun _ => 1) lostCopy (fun _ _ => True)
    (fun _ _ => True) (fun s => (s .caller).log = [.accepted 1 false, .discharged lostPacket] ∧
      (s .callee).accepted = [2]) (by decide +kernel)
  have hmem : Event.discharged lostPacket ∈ (s .caller).log := by simp [hlog]
  exact ⟨s, hrun.of_restrict, hmem, haccepted, (told_of_run hrun.of_restrict .caller).2 _ hmem⟩

end Voip

end TelegramProvider
