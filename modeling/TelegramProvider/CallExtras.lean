import TelegramProvider.Deliveries
import Mathlib.Data.List.Nodup

/-!
# What the peer knows of an end

An extra goes with every header until the peer acknowledges its first packet or a later one. If the
extras are sound, and each first goes out under a number above all that were written before it, the
peer has processed every extra that is acknowledged (`Handed`). If moreover the network loses
packets but neither repeats nor reorders them, then of each kind the peer has processed the latest
extra last, once the end has no extra of that kind to send (`Settled`).
-/

set_option autoImplicit false

namespace TelegramProvider

open Runs

namespace Voip

variable {hash : Buffer → BitVec 64}

/-! ## The conditions -/

/-- A header with a new extra has a number above all that were written before. -/
def InOrder (p : Party) (action : Action) : Prop :=
  ∀ sent, p.controller.writes action = some sent →
    (∃ x ∈ p.controller.currentExtras, x.firstContainingSeq = 0) →
      ∀ old ∈ p.written, old.pseq.toNat < sent.seq.toNat

/-- The end is told to send sound extras, and sends the new ones in order. -/
def Orderly (p : Party) (action : Action) : Prop :=
  InOrder p action ∧ ∀ x ∈ action.extra, x.Sound

/-- The packet was written after all that the end was given before. -/
def InTurn (p : Party) (d : Delivery) : Prop :=
  p.given ≤ d.i

instance (p : Party) (action : Action) : Decidable (InOrder p action) :=
  inferInstanceAs (Decidable (∀ sent ∈ p.controller.writes action,
    (∃ x ∈ p.controller.currentExtras, x.firstContainingSeq = 0) →
      ∀ old ∈ p.written, old.pseq.toNat < sent.seq.toNat))

instance (p : Party) (action : Action) : Decidable (Orderly p action) :=
  inferInstanceAs (Decidable (InOrder p action ∧ ∀ x ∈ action.extra, x.Sound))

instance (p : Party) (d : Delivery) : Decidable (InTurn p d) :=
  inferInstanceAs (Decidable (p.given ≤ d.i))

/-! ## What a step does to the extras -/

namespace Controller

section

variable {x y : UnacknowledgedExtraData} {xs : List UnacknowledgedExtraData} {c : Controller}

theorem mem_putExtra :
    ∀ {xs : List UnacknowledgedExtraData}, y ∈ putExtra x xs → y = x ∨ y ∈ xs
  | [], h => .inl (List.mem_singleton.1 h)
  | z :: xs, h => by
    unfold putExtra at h
    split_ifs at h
    · rcases List.mem_cons.1 h with rfl | h
      · exact .inl rfl
      · exact .inr (List.mem_cons_of_mem _ h)
    · rcases List.mem_cons.1 h with rfl | h
      · exact .inr List.mem_cons_self
      · exact (mem_putExtra h).imp_right (List.mem_cons_of_mem _)

theorem mem_putExtra_self (x : UnacknowledgedExtraData) :
    ∀ xs : List UnacknowledgedExtraData, x ∈ putExtra x xs
  | [] => List.mem_singleton_self x
  | y :: xs => by
    unfold putExtra
    split_ifs
    · exact List.mem_cons_self
    · exact List.mem_cons_of_mem _ (mem_putExtra_self x xs)

/-- The extras of other kinds stay. -/
theorem mem_putExtra_of_ne (hne : y.type ≠ x.type) :
    ∀ {xs : List UnacknowledgedExtraData}, y ∈ xs → y ∈ putExtra x xs
  | [], hmem => absurd hmem (by simp)
  | z :: xs, hmem => by
    unfold putExtra
    split_ifs with heq
    · rcases List.mem_cons.1 hmem with rfl | hold
      · exact absurd heq hne
      · exact List.mem_cons_of_mem _ hold
    · rcases List.mem_cons.1 hmem with rfl | hold
      · exact List.mem_cons_self
      · exact List.mem_cons_of_mem _ (mem_putExtra_of_ne hne hold)

/-- There is one extra of a kind. -/
theorem nodup_putExtra :
    ∀ {xs : List UnacknowledgedExtraData}, (xs.map UnacknowledgedExtraData.type).Nodup →
      ((putExtra x xs).map UnacknowledgedExtraData.type).Nodup
  | [], _ => by simp [putExtra]
  | y :: xs, h => by
    obtain ⟨hnew, hrest⟩ := List.nodup_cons.1 h
    unfold putExtra
    split_ifs with heq
    · exact List.nodup_cons.2 ⟨heq ▸ hnew, hrest⟩
    · refine List.nodup_cons.2 ⟨fun hmem => ?_, nodup_putExtra hrest⟩
      obtain ⟨z, hz, htype⟩ := List.mem_map.1 hmem
      rcases mem_putExtra hz with rfl | hold
      · exact heq htype.symm
      · exact hnew (List.mem_map.2 ⟨z, hold, htype⟩)

/-- An extra that stays beside a new one is of another kind. -/
theorem type_ne_of_mem_putExtra (hnodup : (xs.map UnacknowledgedExtraData.type).Nodup)
    (hmem : y ∈ putExtra x xs) (hne : y ≠ x) : y.type ≠ x.type := fun heq =>
  hne (List.inj_on_of_nodup_map (nodup_putExtra hnodup) hmem (mem_putExtra_self x xs) heq)

@[simp] theorem type_carry (pseq : Seq) (x : UnacknowledgedExtraData) :
    (carry pseq x).type = x.type := by
  unfold carry
  split_ifs <;> rfl

@[simp] theorem extra_carry (pseq : Seq) (x : UnacknowledgedExtraData) :
    (carry pseq x).extra = x.extra := by
  unfold carry
  split_ifs <;> rfl

theorem map_type_carry (pseq : Seq) (xs : List UnacknowledgedExtraData) :
    (xs.map (carry pseq)).map UnacknowledgedExtraData.type =
      xs.map UnacknowledgedExtraData.type := by
  simp

theorem map_type_extras (c : Controller) :
    c.extras.map Extra.type = c.currentExtras.map UnacknowledgedExtraData.type := by
  simp [extras, UnacknowledgedExtraData.extra]

/-- The peer reads the extras an end has to send. -/
theorem extras_packet (hsound : ∀ x ∈ c.currentExtras, x.extra.Sound)
    (hdistinct : (c.currentExtras.map UnacknowledgedExtraData.type).Nodup)
    (sent : PendingOutgoingPacket) : (c.packet sent).extras = c.extras := by
  refine readExtras_writeExtras (fun x hx => ?_) (c.map_type_extras ▸ hdistinct) sent.data
  obtain ⟨y, hy, rfl⟩ := List.mem_map.1 hx
  exact hsound y hy

end

end Controller

namespace Party

variable {p p' : Party} {action : Action} {pkt : Packet} {d : Delivery}

/-- An action writes nothing and keeps the extras, or adds one, or writes them all. -/
inductive Said (p : Party) (action : Action) (p' : Party) : Prop
  | nothing (hwritten : p'.written = p.written) (hsaid : p'.said = p.said)
      (hextras : p'.controller.currentExtras = p.controller.currentExtras)
  | extra (x : UnacknowledgedExtraData) (haction : action.extra = some x.extra)
      (hfirst : x.firstContainingSeq = 0) (hwritten : p'.written = p.written)
      (hsaid : p'.said = p.said ++ [x.extra])
      (hextras : p'.controller.currentExtras =
        Controller.putExtra x p.controller.currentExtras)
  | header (sent : PendingOutgoingPacket) (hwrites : p.controller.writes action = some sent)
      (hsent : sent ∈ p.controller.pending)
      (hwritten : p'.written = p.written ++ [p.controller.packet sent]) (hsaid : p'.said = p.said)
      (hextras : p'.controller.currentExtras =
        p.controller.currentExtras.map (Controller.carry sent.seq))

theorem said_of_perform (h : p.perform action = some p') : Said p action p' := by
  obtain ⟨done, hdone, rfl⟩ := Option.map_eq_some_iff.1 h
  have hmoved := Controller.performed_of_perform hdone
  obtain ⟨c, pkts⟩ := done
  cases hmoved with
  | extra data type =>
    exact .extra { type, data } rfl rfl (List.append_nil _) rfl rfl
  | keep _ _ _ _ hextra =>
    exact .nothing (List.append_nil _) (by simp [hextra]) rfl
  | write _ _ _ sent now _ hsent hwrites =>
    have hextra : action.extra = none := by
      cases action with
      | sendExtra => exact absurd hwrites (by simp [Controller.writes])
      | _ => rfl
    exact .header sent hwrites hsent rfl (by simp [hextra]) rfl
  | _ => exact .nothing (List.append_nil _) (List.append_nil _) rfl

theorem given_of_perform (h : p.perform action = some p') : p'.given = p.given := by
  obtain ⟨done, -, rfl⟩ := Option.map_eq_some_iff.1 h
  rfl

theorem heardExtras_of_perform (h : p.perform action = some p') :
    p'.heardExtras = p.heardExtras :=
  congrArg (List.filterMap Event.extra) (log_of_perform h)

/-- What a header answers : the extras it acknowledges are no longer sent. -/
structure Answered (p : Party) (ackId : Seq) (p' : Party) : Prop where
  sub : List.Sublist p'.controller.currentExtras p.controller.currentExtras
  gone : ∀ x ∈ p.controller.currentExtras, x ∉ p'.controller.currentExtras →
    Controller.isAcknowledged ackId x = true
  log : ∀ x, Event.acknowledged x ∈ p'.log → Event.acknowledged x ∈ p.log ∨
    x ∈ p.controller.currentExtras ∧ Controller.isAcknowledged ackId x = true
  said : p'.said = p.said

theorem answered_of_receive (hash : Buffer → BitVec 64) (p : Party) (pkt : Packet)
    (d : Delivery) : Answered p pkt.ackId (p.receive hash pkt d) := by
  obtain ⟨c, es, hprocessed, hreceive⟩ := processed_of_receive hash p pkt d
  rw [hreceive]
  cases hprocessed with
  | dropped =>
    exact ⟨List.Sublist.refl _, fun x hx hnot => absurd hx hnot,
      fun x hx => .inl (by simpa using hx), rfl⟩
  | taken window far last acked extras htaken hfar hextras honly hacked =>
    rw [hacked, Controller.processAcks]
    split_ifs
    · refine ⟨List.filter_sublist, fun x hx hnot => ?_, fun x hx => ?_, rfl⟩
      · by_contra hack
        exact hnot (List.mem_filter.2 ⟨hx, by simpa using hack⟩)
      · simp only [List.mem_append, List.mem_cons, reduceCtorEq, false_or, List.mem_map,
          List.mem_filter, and_false, exists_false, Event.acknowledged.injEq,
          exists_eq_right] at hx
        rcases hx with hold | hnew | hextra
        · exact .inl hold
        · exact .inr hnew
        · cases honly _ hextra
    · refine ⟨List.Sublist.refl _, fun x hx hnot => absurd hx hnot, fun x hx => ?_, rfl⟩
      simp only [List.mem_append, List.mem_cons, reduceCtorEq, false_or, List.not_mem_nil] at hx
      rcases hx with hold | hextra
      · exact .inl hold
      · cases honly _ hextra

end Party

/-! ## Every extra that is acknowledged has been processed -/

/-- From the first packet with the extra on, all have it. -/
def Carries (written : List Packet) (x : UnacknowledgedExtraData) : Prop :=
  ∃ old new, written = old ++ new ∧
    (∀ pkt ∈ old, pkt.pseq.toNat < x.firstContainingSeq.toNat) ∧ ∀ pkt ∈ new, x.extra ∈ pkt.extras

namespace Carries

variable {written : List Packet} {x : UnacknowledgedExtraData} {pkt : Packet} {n : ℕ}

theorem of_first (hold : ∀ old ∈ written, old.pseq.toNat < x.firstContainingSeq.toNat)
    (hnew : x.extra ∈ pkt.extras) : Carries (written ++ [pkt]) x :=
  ⟨written, [pkt], rfl, hold, by simpa using hnew⟩

theorem append (h : Carries written x) (hnew : x.extra ∈ pkt.extras) :
    Carries (written ++ [pkt]) x := by
  obtain ⟨old, new, rfl, hold, hall⟩ := h
  refine ⟨old, new ++ [pkt], List.append_assoc .., hold, fun other hother => ?_⟩
  rcases List.mem_append.1 hother with hother | hother
  · exact hall other hother
  · exact List.mem_singleton.1 hother ▸ hnew

theorem mem (h : Carries written x) (hpkt : pkt ∈ written)
    (hle : x.firstContainingSeq.toNat ≤ pkt.pseq.toNat) : x.extra ∈ pkt.extras := by
  obtain ⟨old, new, rfl, hold, hall⟩ := h
  rcases List.mem_append.1 hpkt with hpkt | hpkt
  · exact absurd hle (Nat.not_le.2 (hold pkt hpkt))
  · exact hall pkt hpkt

/-- Behind a packet that has the extra by its number all have it. -/
theorem mem_drop (h : Carries written x) {first : Packet} (hfirst : first ∈ written.take n)
    (hle : x.firstContainingSeq.toNat ≤ first.pseq.toNat) (hpkt : pkt ∈ written.drop n) :
    x.extra ∈ pkt.extras := by
  obtain ⟨old, new, rfl, hold, hall⟩ := h
  have hlen : old.length ≤ n := by
    by_contra hlt
    rw [List.take_append_of_le_length (by omega)] at hfirst
    exact absurd hle (Nat.not_le.2 (hold first (List.mem_of_mem_take hfirst)))
  rw [List.drop_append, List.drop_eq_nil_of_le hlen, List.nil_append] at hpkt
  exact hall pkt (List.mem_of_mem_drop hpkt)

end Carries

/-- What an end knows of the extras its peer has processed. -/
structure Handed (p q : Party) : Prop where
  numbered : Numbered p
  sound : ∀ x ∈ p.controller.currentExtras, x.extra.Sound
  distinct : (p.controller.currentExtras.map UnacknowledgedExtraData.type).Nodup
  headers : ∀ pkt ∈ p.written, (∀ x ∈ pkt.extras, x.Sound) ∧ (pkt.extras.map Extra.type).Nodup
  carried : ∀ x ∈ p.controller.currentExtras, x.firstContainingSeq ≠ 0 →
    x.firstContainingSeq.toNat < 0x80000000 ∧ Carries p.written x
  taken : ∀ seq ∈ q.accepted, ∃ pkt ∈ p.written, pkt.pseq = seq ∧ pkt.extras ⊆ q.heardExtras
  last : q.controller.window.lastRemoteSeq = 0 ∨
    q.controller.window.lastRemoteSeq ∈ q.accepted
  answers : ∀ pkt ∈ q.written, pkt.ackId = 0 ∨ pkt.ackId ∈ q.accepted
  handed : ∀ x, Event.acknowledged x ∈ p.log → x.extra ∈ q.heardExtras

namespace Handed

variable {p p' q q' : Party} {action : Action} {pkt : Packet} {d : Delivery}

theorem start : Handed {} {} where
  numbered := ⟨by simp [Controller.pending], by simp⟩
  sound := by simp
  distinct := List.nodup_nil
  headers := by simp
  carried := by simp
  taken := by simp [Party.accepted]
  last := .inl rfl
  answers := by simp
  handed := by simp

/-- The peer reads the extras of the header that an end writes. -/
theorem extras_packet (h : Handed p q) (sent : PendingOutgoingPacket) :
    (p.controller.packet sent).extras = p.controller.extras :=
  Controller.extras_packet h.sound h.distinct sent

/-- A header that acknowledges an extra says that a packet with it has come. -/
theorem of_isAcknowledged (h : Handed p q) {x : UnacknowledgedExtraData}
    (hx : x ∈ p.controller.currentExtras) (hpkt : pkt ∈ q.written)
    (hack : Controller.isAcknowledged pkt.ackId x = true) :
    x.firstContainingSeq ≠ 0 ∧ x.firstContainingSeq.toNat ≤ pkt.ackId.toNat ∧
      pkt.ackId ∈ q.accepted ∧ x.extra ∈ q.heardExtras := by
  simp only [Controller.isAcknowledged, Bool.and_eq_true, Bool.or_eq_true,
    decide_eq_true_eq] at hack
  obtain ⟨hne, hreached⟩ := hack
  obtain ⟨hfirst, hcarried⟩ := h.carried x hx hne
  have hzero : pkt.ackId ≠ 0 := by
    rintro hzero
    rw [hzero] at hreached
    rcases hreached with heq | hgt
    · exact hne heq.symm
    · exact Nat.not_lt_zero _ ((seqgt_iff_of_lt (by decide) hfirst).1 hgt)
  have hmem := (h.answers pkt hpkt).resolve_left hzero
  obtain ⟨sent, hsent, hseq, hheard⟩ := h.taken _ hmem
  have hle : x.firstContainingSeq.toNat ≤ pkt.ackId.toNat := by
    rcases hreached with heq | hgt
    · exact Nat.le_of_eq (congrArg _ heq.symm)
    · exact Nat.le_of_lt
        ((seqgt_iff_of_lt (hseq ▸ h.numbered.written sent hsent) hfirst).1 hgt)
  exact ⟨hne, hle, hmem, hheard (hcarried.mem hsent (hseq ▸ hle))⟩

theorem of_extra (h : Handed p q) (hnumbered : Numbered p') (hlog : p'.log = p.log)
    {x : UnacknowledgedExtraData} (hsound : x.extra.Sound) (hfirst : x.firstContainingSeq = 0)
    (hwritten : p'.written = p.written)
    (hextras : p'.controller.currentExtras = Controller.putExtra x p.controller.currentExtras) :
    Handed p' q where
  numbered := hnumbered
  sound y hy := by
    rw [hextras] at hy
    rcases Controller.mem_putExtra hy with rfl | hold
    · exact hsound
    · exact h.sound y hold
  distinct := hextras ▸ Controller.nodup_putExtra h.distinct
  headers := hwritten ▸ h.headers
  carried y hy hne := by
    rw [hextras] at hy
    rw [hwritten]
    rcases Controller.mem_putExtra hy with rfl | hold
    · exact absurd hfirst hne
    · exact h.carried y hold hne
  taken := hwritten ▸ h.taken
  last := h.last
  answers := h.answers
  handed := hlog ▸ h.handed

theorem of_header (h : Handed p q) (hnumbered : Numbered p') (hlog : p'.log = p.log)
    {sent : PendingOutgoingPacket} (hsent : sent ∈ p.controller.pending)
    (hok : (∃ x ∈ p.controller.currentExtras, x.firstContainingSeq = 0) →
      ∀ old ∈ p.written, old.pseq.toNat < sent.seq.toNat)
    (hwritten : p'.written = p.written ++ [p.controller.packet sent])
    (hextras : p'.controller.currentExtras =
      p.controller.currentExtras.map (Controller.carry sent.seq)) : Handed p' q where
  numbered := hnumbered
  sound y hy := by
    rw [hextras] at hy
    obtain ⟨x, hx, rfl⟩ := List.mem_map.1 hy
    rw [Controller.extra_carry]
    exact h.sound x hx
  distinct := by
    rw [hextras, Controller.map_type_carry]
    exact h.distinct
  headers pkt hmem := by
    rw [hwritten] at hmem
    rcases List.mem_append.1 hmem with hold | hone
    · exact h.headers pkt hold
    · rw [List.mem_singleton.1 hone, h.extras_packet sent, Controller.map_type_extras]
      refine ⟨fun x hx => ?_, h.distinct⟩
      obtain ⟨y, hy, rfl⟩ := List.mem_map.1 hx
      exact h.sound y hy
  carried y hy hne := by
    rw [hextras] at hy
    rw [hwritten]
    obtain ⟨x, hx, rfl⟩ := List.mem_map.1 hy
    have hin : (Controller.carry sent.seq x).extra ∈ (p.controller.packet sent).extras := by
      rw [Controller.extra_carry, h.extras_packet sent]
      exact List.mem_map_of_mem hx
    by_cases hnew : x.firstContainingSeq = 0
    · have hfirst : (Controller.carry sent.seq x).firstContainingSeq = sent.seq := by
        simp [Controller.carry, hnew]
      refine ⟨by rw [hfirst]; exact h.numbered.pending sent hsent, Carries.of_first ?_ hin⟩
      rw [hfirst]
      exact hok ⟨x, hx, hnew⟩
    · rw [Controller.carry, if_neg hnew] at hin ⊢
      obtain ⟨hfirst, hcarried⟩ := h.carried x hx hnew
      exact ⟨hfirst, hcarried.append hin⟩
  taken seq hmem := by
    obtain ⟨pkt, hpkt, hrest⟩ := h.taken seq hmem
    exact ⟨pkt, hwritten ▸ List.mem_append_left _ hpkt, hrest⟩
  last := h.last
  answers := h.answers
  handed := hlog ▸ h.handed

theorem of_perform (h : Handed p q) (hok : Orderly p action)
    (hperform : p.perform action = some p') (hseq : p'.controller.seq ≤ 0x80000000) :
    Handed p' q := by
  have hlog := Party.log_of_perform hperform
  have hnumbered := h.numbered.of_perform hperform hseq
  cases Party.said_of_perform hperform with
  | nothing hwritten _ hextras =>
    exact ⟨hnumbered, hextras ▸ h.sound, hextras ▸ h.distinct, hwritten ▸ h.headers,
      by rw [hwritten, hextras]; exact h.carried, hwritten ▸ h.taken, h.last, h.answers,
      hlog ▸ h.handed⟩
  | extra x haction hfirst hwritten _ hextras =>
    exact h.of_extra hnumbered hlog (hok.2 _ haction) hfirst hwritten hextras
  | header sent hwrites hsent hwritten _ hextras =>
    exact h.of_header hnumbered hlog hsent (hok.1 sent hwrites) hwritten hextras

theorem of_peer (h : Handed p q) (hperform : q.perform action = some q') : Handed p q' := by
  have hwindow := Party.window_of_perform hperform
  have haccepted := Party.accepted_of_perform hperform
  have hheard := Party.heardExtras_of_perform hperform
  refine ⟨h.numbered, h.sound, h.distinct, h.headers, h.carried, ?_, ?_, fun pkt hpkt => ?_, ?_⟩
  · rw [haccepted, hheard]
    exact h.taken
  · rw [haccepted, hwindow]
    exact h.last
  · rw [haccepted]
    cases Party.said_of_perform hperform with
    | nothing hwritten => exact h.answers pkt (hwritten ▸ hpkt)
    | extra _ _ _ hwritten => exact h.answers pkt (hwritten ▸ hpkt)
    | header sent _ _ hwritten =>
      rw [hwritten] at hpkt
      rcases List.mem_append.1 hpkt with hold | hone
      · exact h.answers pkt hold
      · exact List.mem_singleton.1 hone ▸ h.last
  · rw [hheard]
    exact h.handed

theorem of_receive (h : Handed p q) (hpkt : pkt ∈ q.written) :
    Handed (p.receive hash pkt d) q := by
  obtain ⟨-, hpending, hwritten⟩ := Party.kept_of_receive hash p pkt d
  have hanswered := Party.answered_of_receive hash p pkt d
  refine ⟨⟨by rw [hpending]; exact h.numbered.pending, by rw [hwritten]; exact h.numbered.written⟩,
    fun x hx => h.sound x (hanswered.sub.subset hx), h.distinct.sublist (hanswered.sub.map _),
    hwritten ▸ h.headers, ?_, by rw [hwritten]; exact h.taken, h.last, h.answers, fun x hx => ?_⟩
  · rw [hwritten]
    exact fun x hx => h.carried x (hanswered.sub.subset hx)
  · rcases hanswered.log x hx with hold | ⟨hcurrent, hack⟩
    · exact h.handed x hold
    · exact (h.of_isAcknowledged hcurrent hpkt hack).2.2.2

theorem of_heard (h : Handed p q) (hpkt : pkt ∈ p.written) :
    Handed p (q.receive hash pkt d) := by
  obtain ⟨-, -, hwritten⟩ := Party.kept_of_receive hash q pkt d
  rcases Party.taken_of_receive hash q pkt d with
    ⟨-, hwindow, haccepted, -, hheard⟩ | ⟨_, htaken, -, haccepted, -, hheard⟩
  · exact ⟨h.numbered, h.sound, h.distinct, h.headers, h.carried,
      by rw [haccepted, hheard]; exact h.taken, by rw [haccepted, hwindow]; exact h.last,
      by rw [haccepted, hwritten]; exact h.answers, by rw [hheard]; exact h.handed⟩
  · -- the extras are sound, so none of them fails
    have hheard := hheard fun x hx => ((h.headers pkt hpkt).1 x hx).handles d.receiver
    have hseqs : q.accepted ⊆ q.accepted ++ [pkt.pseq] := List.subset_append_left ..
    have hextras : q.heardExtras ⊆ q.heardExtras ++ pkt.extras := List.subset_append_left ..
    refine ⟨h.numbered, h.sound, h.distinct, h.headers, h.carried, fun seq hmem => ?_, ?_,
      fun other hmem => ?_, fun x hx => ?_⟩
    · rw [haccepted] at hmem
      rw [hheard]
      rcases List.mem_append.1 hmem with hold | hone
      · obtain ⟨sent, hsent, hseq, hsub⟩ := h.taken seq hold
        exact ⟨sent, hsent, hseq, List.Subset.trans hsub hextras⟩
      · exact ⟨pkt, hpkt, (List.mem_singleton.1 hone).symm, List.subset_append_right ..⟩
    · rw [haccepted]
      cases htaken with
      | jump _ _ hlast => exact .inr (hlast ▸ List.mem_append_right _ (List.mem_singleton_self _))
      | ahead _ _ _ _ _ hlast =>
        exact .inr (hlast ▸ List.mem_append_right _ (List.mem_singleton_self _))
      | late _ _ _ _ _ hlast => exact hlast ▸ h.last.imp_right fun hmem => hseqs hmem
    · rw [hwritten] at hmem
      rw [haccepted]
      exact (h.answers other hmem).imp_right fun hack => hseqs hack
    · rw [hheard]
      exact hextras (h.handed x hx)

/-- While the next number of an end is at most 2³¹, its numbers do not wrap around, and it knows of
its extras, over any network. -/
theorem of_run {s : Call} {ls : List Label}
    (hrun : Run (Restrict (Call.Step hash) (Call.Allowed Orderly fun _ _ => True)) Call.start ls s)
    (side : Side) (hseq : (s side).controller.seq ≤ 0x80000000) :
    Handed (s side) (s side.other) :=
  Call.invariant_of_run (I := fun p q => p.controller.seq ≤ 0x80000000 → Handed p q)
    (fun _ => Handed.start)
    (fun _ _ _ _ h hok hperform hle =>
      (h (Nat.le_trans (Party.seq_le_of_perform hperform) hle)).of_perform hok hperform hle)
    (fun _ _ _ _ h _ hperform hle => (h hle).of_peer hperform)
    (fun p _ pkt d h _ hpkt _ _ hle =>
      (h ((p.kept_of_receive hash pkt d).1 ▸ hle)).of_receive (List.mem_of_getElem? hpkt))
    (fun _ _ _ _ h _ hpkt _ _ hle => (h hle).of_heard (List.mem_of_getElem? hpkt))
    hrun side hseq

end Handed

/-! ## Of each kind, the latest -/

/-- The latest extra of a kind. -/
def latest (xs : List Extra) (type : UInt8) : Option Extra :=
  (xs.filter fun x => x.type = type).getLast?

theorem latest_append (xs ys : List Extra) (type : UInt8) :
    latest (xs ++ ys) type = (latest ys type).or (latest xs type) := by
  simp [latest, List.filter_append, List.getLast?_append]

theorem latest_eq_none {xs : List Extra} {type : UInt8} (h : ∀ x ∈ xs, x.type ≠ type) :
    latest xs type = none := by
  simpa [latest, List.filter_eq_nil_iff] using h

/-- Of extras of different kinds each is the latest of its kind. -/
theorem latest_of_nodup : ∀ {xs : List Extra} {x : Extra},
    (xs.map Extra.type).Nodup → x ∈ xs → latest xs x.type = some x
  | [], _, _, hmem => absurd hmem (by simp)
  | y :: xs, x, hnodup, hmem => by
    obtain ⟨hnew, hrest⟩ := List.nodup_cons.1 hnodup
    have hsplit : latest (y :: xs) x.type = (latest xs x.type).or (latest [y] x.type) :=
      latest_append [y] xs x.type
    rcases List.mem_cons.1 hmem with rfl | hold
    · have hnone : latest xs x.type = none :=
        latest_eq_none fun z hz heq => hnew (List.mem_map.2 ⟨z, hz, heq⟩)
      rw [hsplit, hnone]
      simp [latest]
    · rw [hsplit, latest_of_nodup hrest hold]
      rfl

/-- What the peer has processed of what an end was told to send, when its packets come in turn. -/
structure Settled (p q : Party) : Prop extends Handed p q where
  reached : ∀ seq ∈ q.accepted, ∃ pkt ∈ p.written.take q.given, pkt.pseq = seq
  current : ∀ x ∈ p.controller.currentExtras, latest p.said x.type = some x.extra
  heard : ∀ x ∈ p.controller.currentExtras, x.firstContainingSeq ≠ 0 → ∀ seq ∈ q.accepted,
    x.firstContainingSeq.toNat ≤ seq.toNat → latest q.heardExtras x.type = some x.extra
  settled : ∀ type x, latest p.said type = some x →
    (∀ y ∈ p.controller.currentExtras, y.type ≠ type) → latest q.heardExtras type = some x ∧
      ∀ pkt ∈ p.written.drop q.given, ∀ y ∈ pkt.extras, y.type = type → y = x

namespace Settled

variable {p p' q q' : Party} {action : Action} {pkt : Packet} {d : Delivery}

theorem start : Settled {} {} where
  toHanded := Handed.start
  reached := by simp [Party.accepted]
  current := by simp
  heard := by simp
  settled := by simp [latest]

theorem of_extra (h : Settled p q) (hhanded : Handed p' q) {x : UnacknowledgedExtraData}
    (hfirst : x.firstContainingSeq = 0) (hwritten : p'.written = p.written)
    (hsaid : p'.said = p.said ++ [x.extra])
    (hextras : p'.controller.currentExtras = Controller.putExtra x p.controller.currentExtras) :
    Settled p' q where
  toHanded := hhanded
  reached := hwritten ▸ h.reached
  current y hy := by
    rw [hextras] at hy
    rw [hsaid, latest_append]
    by_cases heq : y = x
    · subst heq
      simp [latest, UnacknowledgedExtraData.extra]
    · have htype := Controller.type_ne_of_mem_putExtra h.distinct hy heq
      have hnone : latest [x.extra] y.type = none :=
        latest_eq_none fun z hz => List.mem_singleton.1 hz ▸ htype.symm
      rw [hnone, Option.none_or]
      exact h.current y ((Controller.mem_putExtra hy).resolve_left heq)
  heard y hy hne := by
    rw [hextras] at hy
    rcases Controller.mem_putExtra hy with rfl | hold
    · exact absurd hfirst hne
    · exact h.heard y hold hne
  settled type z hlatest hnone := by
    rw [hextras] at hnone
    have htype : x.type ≠ type := hnone x (Controller.mem_putExtra_self ..)
    have hother : latest [x.extra] type = none :=
      latest_eq_none fun y hy => List.mem_singleton.1 hy ▸ htype
    rw [hsaid, latest_append, hother, Option.none_or] at hlatest
    rw [hwritten]
    refine h.settled type z hlatest fun y hy heq => ?_
    exact hnone y (Controller.mem_putExtra_of_ne (fun h => htype (h ▸ heq)) hy) heq

theorem of_header (h : Settled p q) (hhanded : Handed p' q) {sent : PendingOutgoingPacket}
    (hok : (∃ x ∈ p.controller.currentExtras, x.firstContainingSeq = 0) →
      ∀ old ∈ p.written, old.pseq.toNat < sent.seq.toNat)
    (hwritten : p'.written = p.written ++ [p.controller.packet sent]) (hsaid : p'.said = p.said)
    (hextras : p'.controller.currentExtras =
      p.controller.currentExtras.map (Controller.carry sent.seq)) : Settled p' q where
  toHanded := hhanded
  reached seq hmem := by
    obtain ⟨pkt, hpkt, heq⟩ := h.reached seq hmem
    rw [hwritten, List.take_append]
    exact ⟨pkt, List.mem_append_left _ hpkt, heq⟩
  current y hy := by
    rw [hextras] at hy
    obtain ⟨x, hx, rfl⟩ := List.mem_map.1 hy
    rw [hsaid, Controller.type_carry, Controller.extra_carry]
    exact h.current x hx
  heard y hy hne seq hmem hle := by
    rw [hextras] at hy
    obtain ⟨x, hx, rfl⟩ := List.mem_map.1 hy
    by_cases hnew : x.firstContainingSeq = 0
    · -- the peer has had nothing as late as that
      have hfirst : (Controller.carry sent.seq x).firstContainingSeq = sent.seq := by
        simp [Controller.carry, hnew]
      obtain ⟨old, hold, rfl⟩ := h.reached seq hmem
      have hlt := hok ⟨x, hx, hnew⟩ old (List.mem_of_mem_take hold)
      rw [hfirst] at hle
      omega
    · rw [Controller.carry, if_neg hnew] at hne hle ⊢
      exact h.heard x hx hne seq hmem hle
  settled type z hlatest hnone := by
    rw [hsaid] at hlatest
    have hnone' : ∀ y ∈ p.controller.currentExtras, y.type ≠ type := by
      intro y hy
      have hcarry := hnone _ (hextras ▸ List.mem_map_of_mem hy)
      rwa [Controller.type_carry] at hcarry
    obtain ⟨hheard, hlater⟩ := h.settled type z hlatest hnone'
    refine ⟨hheard, fun pkt hmem y hy htype => ?_⟩
    rw [hwritten, List.drop_append] at hmem
    rcases List.mem_append.1 hmem with hold | hone
    · exact hlater pkt hold y hy htype
    · rw [List.mem_singleton.1 (List.mem_of_mem_drop hone), h.extras_packet sent] at hy
      obtain ⟨x, hx, rfl⟩ := List.mem_map.1 hy
      exact absurd htype (hnone' x hx)

theorem of_perform (h : Settled p q) (hok : Orderly p action)
    (hperform : p.perform action = some p') (hseq : p'.controller.seq ≤ 0x80000000) :
    Settled p' q := by
  have hhanded := h.toHanded.of_perform hok hperform hseq
  cases Party.said_of_perform hperform with
  | nothing hwritten hsaid hextras =>
    exact ⟨hhanded, hwritten ▸ h.reached, by rw [hextras, hsaid]; exact h.current,
      by rw [hextras]; exact h.heard, by rw [hextras, hsaid, hwritten]; exact h.settled⟩
  | extra x _ hfirst hwritten hsaid hextras =>
    exact h.of_extra hhanded hfirst hwritten hsaid hextras
  | header sent hwrites _ hwritten hsaid hextras =>
    exact h.of_header hhanded (hok.1 sent hwrites) hwritten hsaid hextras

theorem of_peer (h : Settled p q) (hperform : q.perform action = some q') : Settled p q' := by
  have hgiven := Party.given_of_perform hperform
  have haccepted := Party.accepted_of_perform hperform
  have hheard := Party.heardExtras_of_perform hperform
  exact ⟨h.toHanded.of_peer hperform, by rw [haccepted, hgiven]; exact h.reached, h.current,
    by rw [haccepted, hheard]; exact h.heard, by rw [hheard, hgiven]; exact h.settled⟩

/-- An extra that is acknowledged is the latest of its kind that has been processed. -/
theorem of_receive (h : Settled p q) (hpkt : pkt ∈ q.written) :
    Settled (p.receive hash pkt d) q := by
  obtain ⟨-, -, hwritten⟩ := Party.kept_of_receive hash p pkt d
  have hanswered := Party.answered_of_receive hash p pkt d
  refine ⟨h.toHanded.of_receive hpkt, hwritten ▸ h.reached, fun x hx => ?_,
    fun x hx => h.heard x (hanswered.sub.subset hx), fun type z hlatest hnone => ?_⟩
  · rw [hanswered.said]
    exact h.current x (hanswered.sub.subset hx)
  rw [hanswered.said] at hlatest
  rw [hwritten]
  by_cases hold : ∀ y ∈ p.controller.currentExtras, y.type ≠ type
  · exact h.settled type z hlatest hold
  · push Not at hold
    obtain ⟨x, hx, rfl⟩ := hold
    have hack := hanswered.gone x hx fun hmem => hnone x hmem rfl
    obtain ⟨hne, hle, haccepted, -⟩ := h.of_isAcknowledged hx hpkt hack
    obtain rfl : x.extra = z := Option.some.inj ((h.current x hx).symm.trans hlatest)
    refine ⟨h.heard x hx hne _ haccepted hle, fun sent hsent y hy htype => ?_⟩
    -- all that is still on its way has the extra too
    obtain ⟨first, hfirst, heq⟩ := h.reached _ haccepted
    have hin := (h.carried x hx hne).2.mem_drop hfirst (heq ▸ hle) hsent
    exact List.inj_on_of_nodup_map (h.headers sent (List.mem_of_mem_drop hsent)).2 hy hin htype

theorem of_heard (h : Settled p q) (hpkt : p.written[d.i]? = some pkt) (hturn : InTurn q d) :
    Settled p (q.receive hash pkt d) := by
  have hmem := List.mem_of_getElem? hpkt
  have hgiven : (q.receive hash pkt d).given = d.i + 1 := rfl
  have hle : q.given ≤ d.i + 1 := Nat.le_succ_of_le hturn
  have htake : p.written.take q.given ⊆ p.written.take (d.i + 1) :=
    (List.take_prefix_take_left hle).subset
  have hdrop : p.written.drop (d.i + 1) ⊆ p.written.drop q.given :=
    (List.drop_suffix_drop_left _ hle).subset
  have hnext : pkt ∈ p.written.drop q.given := by
    refine List.mem_of_getElem? (i := d.i - q.given) ?_
    rw [List.getElem?_drop, Nat.add_sub_cancel' hturn, hpkt]
  rcases Party.taken_of_receive hash q pkt d with
    ⟨-, -, haccepted, -, hheard⟩ | ⟨_, -, -, haccepted, -, hheard⟩
  · refine ⟨h.toHanded.of_heard hmem, fun seq hseq => ?_, h.current,
      by rw [haccepted, hheard]; exact h.heard, fun type z hsaid hnone => ?_⟩
    · rw [haccepted] at hseq
      obtain ⟨sent, hsent, heq⟩ := h.reached seq hseq
      exact ⟨sent, hgiven ▸ htake hsent, heq⟩
    · obtain ⟨hold, hlater⟩ := h.settled type z hsaid hnone
      rw [hheard, hgiven]
      exact ⟨hold, fun sent hsent => hlater sent (hdrop hsent)⟩
  obtain ⟨hsound, hnodup⟩ := h.headers pkt hmem
  have hheard := hheard fun x hx => (hsound x hx).handles d.receiver
  -- what the packet carries of a kind is the latest that is processed
  have hlatest : ∀ x ∈ pkt.extras, latest (q.heardExtras ++ pkt.extras) x.type = some x := by
    intro x hx
    rw [latest_append, latest_of_nodup hnodup hx, Option.some_or]
  refine ⟨h.toHanded.of_heard hmem, fun seq hseq => ?_, h.current,
    fun x hx hne seq hseq hfirst => ?_, fun type z hsaid hnone => ?_⟩
  · rw [haccepted] at hseq
    rw [hgiven]
    rcases List.mem_append.1 hseq with hold | hone
    · obtain ⟨sent, hsent, heq⟩ := h.reached seq hold
      exact ⟨sent, htake hsent, heq⟩
    · refine ⟨pkt, List.mem_of_getElem? (i := d.i) ?_, (List.mem_singleton.1 hone).symm⟩
      rw [List.getElem?_take_of_lt (Nat.lt_succ_self _), hpkt]
  · rw [haccepted] at hseq
    rw [hheard]
    have hcarried := (h.carried x hx hne).2
    rcases List.mem_append.1 hseq with hold | hone
    · obtain ⟨sent, hsent, rfl⟩ := h.reached seq hold
      exact hlatest x.extra (hcarried.mem_drop hsent hfirst hnext)
    · rw [List.mem_singleton.1 hone] at hfirst
      exact hlatest x.extra (hcarried.mem hmem hfirst)
  · obtain ⟨hold, hlater⟩ := h.settled type z hsaid hnone
    rw [hheard, hgiven]
    refine ⟨?_, fun sent hsent => hlater sent (hdrop hsent)⟩
    by_cases hany : ∃ y ∈ pkt.extras, y.type = type
    · obtain ⟨y, hy, rfl⟩ := hany
      rw [hlatest y hy, hlater pkt hnext y hy rfl]
    · push Not at hany
      rw [latest_append, latest_eq_none hany, Option.none_or, hold]

/-- Over a network that neither repeats nor reorders packets, but may lose them. -/
theorem of_run {s : Call} {ls : List Label}
    (hrun : Run (Restrict (Call.Step hash) (Call.Allowed Orderly InTurn)) Call.start ls s)
    (side : Side) (hseq : (s side).controller.seq ≤ 0x80000000) :
    Settled (s side) (s side.other) :=
  Call.invariant_of_run (I := fun p q => p.controller.seq ≤ 0x80000000 → Settled p q)
    (fun _ => Settled.start)
    (fun _ _ _ _ h hok hperform hle =>
      (h (Nat.le_trans (Party.seq_le_of_perform hperform) hle)).of_perform hok hperform hle)
    (fun _ _ _ _ h _ hperform hle => (h hle).of_peer hperform)
    (fun p _ pkt d h _ hpkt _ _ hle =>
      (h ((p.kept_of_receive hash pkt d).1 ▸ hle)).of_receive (List.mem_of_getElem? hpkt))
    (fun _ _ _ _ h _ hpkt hturn _ hle => (h hle).of_heard hpkt hturn)
    hrun side hseq

end Settled

end Voip

end TelegramProvider
