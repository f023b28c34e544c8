import TelegramProvider.ReliabilityRuns
import Mathlib.Data.List.Count

/-!
# How often, and how surely, a packet of a call is taken

As long as the next number of an end is at most 2³¹, its numbers do not wrap around.
`once_of_run` : then the peer takes each packet once at most, unless its number was more than 31
ahead of all the peer had : such a number leaves no trace in the window, so a second copy is taken
too.
-/

set_option autoImplicit false

namespace TelegramProvider

open Runs

namespace Voip

variable {hash : Buffer → BitVec 64}

/-! ## The numbers of an end -/

namespace Controller

variable {c c' : Controller} {action : Action} {pkts : List Packet}

theorem mem_updateFrom (now : ℕ) (pkt : PendingOutgoingPacket) :
    ∀ (qps : List QueuedPacket) (seq : ℕ),
      seq ≤ (updateFrom now qps seq).2.2 ∧
        (pkt ∈ (updateFrom now qps seq).2.1 →
          ∃ k, k < (updateFrom now qps seq).2.2 ∧ pkt.seq = BitVec.ofNat 32 k)
  | [], seq => by simp [updateFrom]
  | qp :: qps, seq => by
    rw [updateFrom]
    split
    · exact mem_updateFrom now pkt qps seq
    split
    · have hrest := mem_updateFrom now pkt qps (seq + 1)
      refine ⟨Nat.le_of_succ_le hrest.1, fun hmem => ?_⟩
      rcases List.mem_cons.1 hmem with rfl | hmem
      · exact ⟨seq, hrest.1, rfl⟩
      · exact hrest.2 hmem
    · exact mem_updateFrom now pkt qps seq

theorem Performed.seq_le (h : Performed c action c' pkts) : c.seq ≤ c'.seq := by
  cases h with
  | generate => exact Nat.le_succ _
  | update now =>
    exact (mem_updateFrom now ⟨0, 0, []⟩ c.queuedPackets c.seq).1
  | _ => exact Nat.le_refl _

/-- A packet gets its number when it is drawn. -/
theorem Performed.mem_pending (h : Performed c action c' pkts) {pkt : PendingOutgoingPacket}
    (hmem : pkt ∈ c'.pending) :
    pkt ∈ c.pending ∨ ∃ k, k < c'.seq ∧ pkt.seq = BitVec.ofNat 32 k := by
  unfold pending at hmem ⊢
  cases h with
  | generate type data copies =>
    simp only [Controller.generate, List.mem_append, List.mem_replicate] at hmem ⊢
    rcases hmem with hnew | hqueue
    · rcases hnew with hold | hnew
      · exact .inl (.inl hold)
      · exact .inr ⟨c.seq, Nat.lt_succ_self _, by rw [hnew.2]; rfl⟩
    · exact .inl (.inr hqueue)
  | update now =>
    simp only [updateQueuedPackets, List.mem_append] at hmem ⊢
    rcases hmem with hnew | hqueue
    · rcases hnew with hold | hnew
      · exact .inl (.inl hold)
      · exact .inr ((mem_updateFrom now pkt c.queuedPackets c.seq).2 hnew)
    · exact .inl (.inr hqueue)
  | keep _ inHand sendQueue hsub => exact .inl (hsub hmem)
  | write _ inHand sendQueue _ _ hsub => exact .inl (hsub hmem)
  | _ => exact .inl hmem

theorem Performed.mem_written (h : Performed c action c' pkts) {pkt : Packet}
    (hmem : pkt ∈ pkts) : ∃ sent ∈ c.pending, pkt = c.packet sent := by
  cases h with
  | write _ _ _ sent _ _ hsent => exact ⟨sent, hsent, List.mem_singleton.1 hmem⟩
  | _ => exact absurd hmem (by simp)

end Controller

/-- While its next number is at most 2³¹, an end has none of the upper half. -/
structure Numbered (p : Party) : Prop where
  pending : ∀ pkt ∈ p.controller.pending, pkt.seq.toNat < 0x80000000
  written : ∀ pkt ∈ p.written, pkt.pseq.toNat < 0x80000000

theorem Numbered.of_perform {p p' : Party} {action : Action} (h : Numbered p)
    (hperform : p.perform action = some p') (hseq : p'.controller.seq ≤ 0x80000000) :
    Numbered p' := by
  obtain ⟨done, hdone, rfl⟩ := Option.map_eq_some_iff.1 hperform
  have hmoved := Controller.performed_of_perform hdone
  refine ⟨fun pkt hmem => ?_, fun pkt hmem => ?_⟩
  · rcases hmoved.mem_pending hmem with hold | ⟨k, hk, hnumber⟩
    · exact h.pending pkt hold
    · have hlt : k < 0x80000000 := Nat.lt_of_lt_of_le hk hseq
      rw [hnumber, BitVec.toNat_ofNat]
      omega
  · rcases List.mem_append.1 hmem with hold | hnew
    · exact h.written pkt hold
    · obtain ⟨sent, hsent, rfl⟩ := hmoved.mem_written hnew
      exact h.pending sent hsent

namespace Party

variable {p p' : Party} {action : Action} {pkt : Packet} {now : ℕ}

theorem seq_le_of_perform (h : p.perform action = some p') :
    p.controller.seq ≤ p'.controller.seq := by
  obtain ⟨done, hdone, rfl⟩ := Option.map_eq_some_iff.1 h
  exact (Controller.performed_of_perform hdone).seq_le

end Party

/-! ## Each packet at most once -/

/-- The number of a packet that is taken far ahead of all before it. -/
def Event.jumpSeq : Event → Option Seq
  | .accepted pseq true => some pseq
  | _ => none

/-- The numbers that were more than 31 ahead, in order. -/
def Party.jumps (p : Party) : List Seq :=
  p.log.filterMap Event.jumpSeq

/-- The extras an end has processed, in order. -/
def Party.heardExtras (p : Party) : List Extra :=
  p.log.filterMap Event.extra

/-- How often each number has been taken : a number whose place in the window is empty has not been,
unless it was far ahead. -/
structure Once (w : Window) (taken jumps : List Seq) : Prop where
  last : w.lastRemoteSeq.toNat < 0x80000000
  le : ∀ seq ∈ taken, seq.toNat ≤ w.lastRemoteSeq.toNat
  sub : jumps ⊆ taken
  jump : ∀ seq, jumps.count seq ≤ 1
  count : ∀ seq, taken.count seq ≤ 1 + jumps.count seq
  blank : ∀ seq, seq.toNat ≤ w.lastRemoteSeq.toNat →
    w.lastRemoteSeq.toNat - seq.toNat < 32 →
    w.heard (w.lastRemoteSeq.toNat - seq.toNat) = 0 → taken.count seq ≤ jumps.count seq

namespace Once

variable {w w' : Window} {taken jumps : List Seq} {pseq : Seq} {now : ℕ}

theorem start : Once {} [] [] where
  last := by decide
  le := by simp
  sub := by simp
  jump := by simp
  count := by simp
  blank := by simp

/-- A number above all has not been taken. -/
theorem count_of_lt (h : Once w taken jumps) (seq : Seq)
    (hlt : w.lastRemoteSeq.toNat < seq.toNat) : taken.count seq = 0 ∧ jumps.count seq = 0 := by
  have hnew : seq ∉ taken := fun hmem => Nat.not_lt.2 (h.le seq hmem) hlt
  exact ⟨List.count_eq_zero.2 hnew, List.count_eq_zero.2 fun hmem => hnew (h.sub hmem)⟩

/-- A number above all is the highest. -/
theorem le_of_lt (h : Once w taken jumps) (hgt : w.lastRemoteSeq.toNat < pseq.toNat) :
    ∀ seq ∈ taken ++ [pseq], seq.toNat ≤ pseq.toNat := by
  intro seq hmem
  rcases List.mem_append.1 hmem with hold | hnew
  · exact Nat.le_of_lt (Nat.lt_of_le_of_lt (h.le seq hold) hgt)
  · exact Nat.le_of_eq (congrArg _ (List.mem_singleton.1 hnew))

theorem of_jump (h : Once w taken jumps) (hpseq : pseq.toNat < 0x80000000)
    (hgt : w.lastRemoteSeq.toNat < pseq.toNat)
    (hfar : 31 < pseq.toNat - w.lastRemoteSeq.toNat) (hlast : w'.lastRemoteSeq = pseq) :
    Once w' (taken ++ [pseq]) (jumps ++ [pseq]) := by
  obtain ⟨hnone, hnojump⟩ := h.count_of_lt pseq hgt
  refine ⟨by rwa [hlast], by rw [hlast]; exact h.le_of_lt hgt, ?_, fun seq => ?_, fun seq => ?_,
    fun seq hle hnear _ => ?_⟩
  · exact List.append_subset.2 ⟨List.Subset.trans h.sub (List.subset_append_left ..),
      List.subset_append_right ..⟩
  · rw [List.count_append]
    have hjump := h.jump seq
    rcases eq_or_ne pseq seq with rfl | hne
    · simp [hnojump]
    · simpa [List.count_singleton, hne] using hjump
  · rw [List.count_append, List.count_append]
    have hcount := h.count seq
    omega
  · rw [List.count_append, List.count_append]
    rw [hlast] at hle hnear
    rcases eq_or_ne pseq seq with rfl | hne
    · simp [hnone]
    · have hold := (h.count_of_lt seq (by omega)).1
      omega

theorem of_ahead (h : Once w taken jumps) (hpseq : pseq.toNat < 0x80000000) (hnow : 0 < now)
    (hgt : w.lastRemoteSeq.toNat < pseq.toNat) (hlast : w'.lastRemoteSeq = pseq)
    (hnear : pseq.toNat - w.lastRemoteSeq.toNat ≤ 31)
    (hheard : ∀ i < 32, w'.heard i = if i = 0 then now
      else if i < pseq.toNat - w.lastRemoteSeq.toNat then 0
      else w.heard (i - (pseq.toNat - w.lastRemoteSeq.toNat))) :
    Once w' (taken ++ [pseq]) jumps := by
  obtain ⟨hnone, -⟩ := h.count_of_lt pseq hgt
  refine ⟨by rwa [hlast], by rw [hlast]; exact h.le_of_lt hgt,
    List.Subset.trans h.sub (List.subset_append_left ..), h.jump, fun seq => ?_,
    fun seq hle hin hblank => ?_⟩
  · rw [List.count_append]
    rcases eq_or_ne pseq seq with rfl | hne
    · simp [hnone]
    · simpa [List.count_singleton, hne] using h.count seq
  · rw [hlast] at hle hin hblank
    rw [hheard _ hin] at hblank
    split_ifs at hblank with hzero hlt
    · omega
    · have hold := (h.count_of_lt seq (by omega)).1
      have hne : pseq ≠ seq := fun heq => hzero (by rw [heq, Nat.sub_self])
      simp [List.count_append, hold, hne]
    · have hne : pseq ≠ seq := fun heq => hzero (by rw [heq, Nat.sub_self])
      have hplace : pseq.toNat - seq.toNat - (pseq.toNat - w.lastRemoteSeq.toNat) =
          w.lastRemoteSeq.toNat - seq.toNat := by omega
      have hold := h.blank seq (by omega) (by omega) (hplace ▸ hblank)
      simpa [List.count_append, List.count_singleton, hne] using hold

theorem of_late (h : Once w taken jumps) (hnow : 0 < now)
    (hle : pseq.toNat ≤ w.lastRemoteSeq.toNat)
    (hin : w.lastRemoteSeq.toNat - pseq.toNat < 32)
    (hnew : w.heard (w.lastRemoteSeq.toNat - pseq.toNat) = 0)
    (hlast : w'.lastRemoteSeq = w.lastRemoteSeq)
    (hheard : ∀ j < 32, w'.heard j =
      if j = w.lastRemoteSeq.toNat - pseq.toNat then now else w.heard j) :
    Once w' (taken ++ [pseq]) jumps := by
  refine ⟨by rw [hlast]; exact h.last, ?_, ?_, h.jump, fun seq => ?_,
    fun seq hseq hnear hblank => ?_⟩
  · intro seq hmem
    rw [hlast]
    rcases List.mem_append.1 hmem with hold | hone
    · exact h.le seq hold
    · exact List.mem_singleton.1 hone ▸ hle
  · exact List.Subset.trans h.sub (List.subset_append_left ..)
  · rw [List.count_append]
    rcases eq_or_ne pseq seq with rfl | hne
    · have hold := h.blank pseq hle hin hnew
      simp only [List.count_singleton_self]
      omega
    · simpa [List.count_singleton, hne] using h.count seq
  · rw [hlast] at hseq hnear hblank
    rw [hheard _ hnear] at hblank
    split_ifs at hblank with hplace
    · omega
    · have hne : pseq ≠ seq := fun heq => hplace (by rw [heq])
      simpa [List.count_append, List.count_singleton, hne] using h.blank seq hseq hnear hblank

/-- What a packet that is taken does to the counts. -/
theorem of_taken (h : Once w taken jumps) (htaken : Window.Taken w pseq now w') (hnow : 0 < now)
    (hpseq : pseq.toNat < 0x80000000) {far : Bool}
    (hfar : far = true ↔ seqgt pseq w.lastRemoteSeq = true ∧
      31 < (pseq - w.lastRemoteSeq).toNat) :
    Once w' (taken ++ [pseq]) (jumps ++ if far then [pseq] else []) := by
  have hlt := seqgt_iff_of_lt hpseq h.last
  have hlastlt := h.last
  cases htaken with
  | jump hgt hdiff hlast _ =>
    rw [if_pos (hfar.2 ⟨hgt, hdiff⟩)]
    have hsub : (pseq - w.lastRemoteSeq).toNat = pseq.toNat - w.lastRemoteSeq.toNat := by
      have := hlt.1 hgt
      bv_omega
    exact h.of_jump hpseq (hlt.1 hgt) (hsub ▸ hdiff) hlast
  | ahead diff _ hnear hdiff hgt hlast hheard =>
    rw [if_neg fun htrue => Nat.not_lt.2 hnear (hdiff ▸ (hfar.1 htrue).2), List.append_nil]
    have hsub : diff = pseq.toNat - w.lastRemoteSeq.toNat := by
      have := hlt.1 hgt
      bv_omega
    exact h.of_ahead hpseq hnow (hlt.1 hgt) hlast (hsub ▸ hnear) (hsub ▸ hheard)
  | late i hi hdiff hle hnew hlast hheard =>
    rw [if_neg fun htrue => Bool.noConfusion (hle.symm.trans (hfar.1 htrue).1), List.append_nil]
    have hnot : pseq.toNat ≤ w.lastRemoteSeq.toNat := by
      rw [← Nat.not_lt, ← hlt, hle]
      exact Bool.false_ne_true
    have hsub : i = w.lastRemoteSeq.toNat - pseq.toNat := by bv_omega
    exact h.of_late hnow hnot (hsub ▸ hi) (hsub ▸ hnew) hlast (hsub ▸ hheard)

end Once

/-- Acknowledgements are neither packets nor extras. -/
theorem Controller.processAcks_events (c : Controller) (ackId : Seq) (acks : BitVec 32) (now : ℕ) :
    ∀ e ∈ (c.processAcks ackId acks now).2,
      e.acceptedSeq = none ∧ e.jumpSeq = none ∧ e.extra = none := by
  intro e he
  unfold Controller.processAcks at he
  split_ifs at he
  · rcases List.mem_append.1 he with he | he
    all_goals
      obtain ⟨_, -, rfl⟩ := List.mem_map.1 he
      exact ⟨rfl, rfl, rfl⟩
  · exact absurd he (by simp)

namespace Party

variable {p p' : Party} {action : Action}

/-- A packet is dropped, or it is taken and its extras are processed, if none of them fails. -/
theorem taken_of_receive (hash : Buffer → BitVec 64) (p : Party) (pkt : Packet) (d : Delivery) :
    (p.controller.window.receive pkt.pseq d.now = none ∧
      (p.receive hash pkt d).controller.window = p.controller.window ∧
      (p.receive hash pkt d).accepted = p.accepted ∧
      (p.receive hash pkt d).jumps = p.jumps ∧
      (p.receive hash pkt d).heardExtras = p.heardExtras) ∨
    ∃ far : Bool, Window.Taken p.controller.window pkt.pseq d.now
        (p.receive hash pkt d).controller.window ∧
      (far = true ↔ seqgt pkt.pseq p.controller.window.lastRemoteSeq = true ∧
        31 < (pkt.pseq - p.controller.window.lastRemoteSeq).toNat) ∧
      (p.receive hash pkt d).accepted = p.accepted ++ [pkt.pseq] ∧
      (p.receive hash pkt d).jumps = p.jumps ++ (if far then [pkt.pseq] else []) ∧
      ((∀ x ∈ pkt.extras, handles d.receiver x = true) →
        (p.receive hash pkt d).heardExtras = p.heardExtras ++ pkt.extras) := by
  obtain ⟨c, es, hprocessed, hreceive⟩ := processed_of_receive hash p pkt d
  rw [hreceive]
  cases hprocessed with
  | dropped hnone =>
    exact .inl ⟨hnone, rfl, by simp [accepted], by simp [jumps], by simp [heardExtras]⟩
  | taken window far last acked extras htaken hfar hextras honly hacked =>
    have hwindow : acked.1.window = window := hacked ▸ Controller.processAcks_window ..
    have hacks : ∀ e ∈ acked.2, e.acceptedSeq = none ∧ e.jumpSeq = none ∧ e.extra = none := by
      rw [hacked]
      exact Controller.processAcks_events _ _ _ _
    have hrest : ∀ e ∈ acked.2 ++ extras, e.acceptedSeq = none ∧ e.jumpSeq = none := by
      intro e he
      rcases List.mem_append.1 he with he | he
      · exact ⟨(hacks e he).1, (hacks e he).2.1⟩
      · cases honly e he <;> exact ⟨rfl, rfl⟩
    refine .inr ⟨far, hwindow ▸ htaken, hfar, ?_, ?_, fun hhandles => ?_⟩
    · have hnil := List.filterMap_eq_nil_iff.2 fun e he => (hrest e he).1
      simp only [accepted, List.filterMap_append, List.filterMap_cons, Event.acceptedSeq] at hnil ⊢
      rw [hnil]
    · have hnil := List.filterMap_eq_nil_iff.2 fun e he => (hrest e he).2
      cases far with
      | false =>
        simp only [jumps, List.filterMap_append, List.filterMap_cons, Event.jumpSeq] at hnil ⊢
        rw [hnil]
        rfl
      | true =>
        simp only [jumps, List.filterMap_append, List.filterMap_cons, Event.jumpSeq] at hnil ⊢
        rw [hnil]
        rfl
    · have hnil := List.filterMap_eq_nil_iff.2 fun e he => (hacks e he).2.2
      simp only [heardExtras, List.filterMap_append, List.filterMap_cons, Event.extra] at hnil ⊢
      rw [hnil, hextras hhandles, List.nil_append]

/-- Receiving a packet draws no number and writes nothing. -/
theorem kept_of_receive (hash : Buffer → BitVec 64) (p : Party) (pkt : Packet) (d : Delivery) :
    (p.receive hash pkt d).controller.seq = p.controller.seq ∧
      (p.receive hash pkt d).controller.pending = p.controller.pending ∧
      (p.receive hash pkt d).written = p.written := by
  obtain ⟨c, es, hprocessed, hreceive⟩ := processed_of_receive hash p pkt d
  rw [hreceive]
  cases hprocessed with
  | dropped => exact ⟨rfl, rfl, rfl⟩
  | taken window far last acked extras _ _ _ _ hacked =>
    rw [hacked, Controller.processAcks]
    split_ifs <;> exact ⟨rfl, rfl, rfl⟩

theorem window_of_perform (h : p.perform action = some p') :
    p'.controller.window = p.controller.window := by
  obtain ⟨done, hdone, rfl⟩ := Option.map_eq_some_iff.1 h
  exact (Controller.performed_of_perform hdone).window_eq

end Party

/-- What the numbers of an end and of its peer are good for, while they do not wrap around. -/
structure Unwrapped (p q : Party) : Prop where
  numbered : p.controller.seq ≤ 0x80000000 → Numbered p
  once : q.controller.seq ≤ 0x80000000 → Once p.controller.window p.accepted p.jumps

namespace Unwrapped

variable {p p' q q' : Party} {action : Action} {pkt : Packet} {d : Delivery}

theorem start : Unwrapped {} {} where
  numbered _ := ⟨by simp [Controller.pending], by simp⟩
  once _ := Once.start

theorem of_perform (h : Unwrapped p q) (hperform : p.perform action = some p') :
    Unwrapped p' q where
  numbered hle := (h.numbered (Nat.le_trans (Party.seq_le_of_perform hperform) hle)).of_perform
    hperform hle
  once hle := by
    unfold Party.accepted Party.jumps
    rw [Party.window_of_perform hperform, Party.log_of_perform hperform]
    exact h.once hle

theorem of_peer (h : Unwrapped p q) (hperform : q.perform action = some q') : Unwrapped p q' where
  numbered := h.numbered
  once hle := h.once (Nat.le_trans (Party.seq_le_of_perform hperform) hle)

theorem of_receive (h : Unwrapped p q) (hq : Unwrapped q p) (hpkt : pkt ∈ q.written)
    (hnow : 0 < d.now) : Unwrapped (p.receive hash pkt d) q where
  numbered hle := by
    obtain ⟨hseq, hpending, hwritten⟩ := Party.kept_of_receive hash p pkt d
    rw [hseq] at hle
    exact ⟨hpending ▸ (h.numbered hle).pending, hwritten ▸ (h.numbered hle).written⟩
  once hle := by
    rcases Party.taken_of_receive hash p pkt d with
      ⟨-, hwindow, htaken, hjumps, -⟩ | ⟨far, hwindow, hfar, htaken, hjumps, -⟩
    · rw [hwindow, htaken, hjumps]
      exact h.once hle
    · rw [htaken, hjumps]
      exact (h.once hle).of_taken hwindow hnow ((hq.numbered hle).written pkt hpkt) hfar

theorem of_heard (h : Unwrapped p q) : Unwrapped p (q.receive hash pkt d) where
  numbered := h.numbered
  once hle := h.once ((Party.kept_of_receive hash q pkt d).1 ▸ hle)

end Unwrapped

/-- A packet is taken once, or twice if its number was far ahead : while the next number of the peer
is at most 2³¹, no packet is taken three times, and one taken twice was once more than 31 ahead of
all before it. -/
theorem once_of_run {s : Call} {ls : List Label} (hrun : Run (Call.Step hash) Call.start ls s)
    (side : Side) (hseq : (s side.other).controller.seq ≤ 0x80000000) (seq : Seq) :
    (s side).accepted.count seq ≤ 1 + (s side).jumps.count seq ∧ (s side).jumps.count seq ≤ 1 := by
  have hkept : Unwrapped (s side) (s side.other) :=
    Call.invariant_of_run Unwrapped.start
      (fun _ _ _ _ h _ hperform => h.of_perform hperform)
      (fun _ _ _ _ h _ hperform => h.of_peer hperform)
      (fun _ _ _ _ h hq hpkt _ hnow => h.of_receive hq (List.mem_of_getElem? hpkt) hnow)
      (fun _ _ _ _ h _ _ _ _ => h.of_heard)
      (Call.run_allowed hrun) side
  exact ⟨(hkept.once hseq).count seq, (hkept.once hseq).jump seq⟩

/-- The first packet that arrives is the 40th, and it arrives three times. -/
def farAhead : List Label :=
  List.replicate 40 (.act .caller (.generate 2 [] 1)) ++
    [.act .caller (.send 39 .ready 1000), .deliver .callee { i := 0, now := 1001 },
      .deliver .callee { i := 0, now := 1002 }, .deliver .callee { i := 0, now := 1003 }]

theorem once_of_run_farAhead : ∃ s, Run (Call.Step fun _ => 1) Call.start farAhead s ∧
    (s .callee).accepted = [40, 40] ∧
      (s .callee).accepted.count 40 ≤ 1 + (s .callee).jumps.count 40 := by
  obtain ⟨s, hrun, htaken, hseq⟩ := Call.exists_run (fun _ => 1) farAhead (fun _ _ => True)
    (fun _ _ => True) (fun s => (s .callee).accepted = [40, 40] ∧
      (s .caller).controller.seq ≤ 0x80000000) (by decide +kernel)
  exact ⟨s, hrun.of_restrict, htaken, (once_of_run hrun.of_restrict .callee hseq 40).1⟩

end Voip

end TelegramProvider
