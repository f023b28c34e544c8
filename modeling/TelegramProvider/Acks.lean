import Mathlib.Data.List.Basic

/-!
# Which packets of the peer have come

A packet of a call carries a 32-bit number. The receiver keeps the highest number that has come
and, for it and the 31 numbers before it, the time the packet came (`Window`). `Window.receive` is
what it does with the number of a packet : a packet that has come before, or is too late to tell, is
dropped. The header of a packet going the other way says what has come (`Window.acks`) : its highest
bit speaks of the highest number, each lower bit of the number before (`Window.getLsbD_acks`).
-/

set_option autoImplicit false

namespace TelegramProvider

namespace Voip

/-- The number of a packet. -/
abbrev Seq := BitVec 32

def seqMax : Seq := 0xFFFFFFFF

/-- The first number comes after the second : numbers wrap around. -/
def seqgt (s1 s2 : Seq) : Bool :=
  (decide (s2 < s1) && decide (s1 - s2 ≤ seqMax / 2)) ||
    (decide (s1 < s2) && decide (seqMax / 2 < s2 - s1))

theorem seqgt_iff {s1 s2 : Seq} :
    seqgt s1 s2 = true ↔
      s2 < s1 ∧ s1 - s2 ≤ 0x7FFFFFFF ∨ s1 < s2 ∧ (0x7FFFFFFF : Seq) < s2 - s1 := by
  have hhalf : seqMax / 2 = 0x7FFFFFFF := by decide
  simp only [seqgt, hhalf, Bool.or_eq_true, Bool.and_eq_true, decide_eq_true_eq]

/-- Numbers of the lower half are compared as they are. -/
theorem seqgt_iff_of_lt {s1 s2 : Seq} (h1 : s1.toNat < 0x80000000) (h2 : s2.toNat < 0x80000000) :
    seqgt s1 s2 = true ↔ s2.toNat < s1.toNat := by
  rw [seqgt_iff]
  constructor
  · rintro (⟨hlt, -⟩ | ⟨hlt, hfar⟩) <;> bv_omega
  · exact fun hlt => .inl (by constructor <;> bv_omega)

theorem ne_of_seqgt {s1 s2 : Seq} (h : seqgt s1 s2 = true) : s1 ≠ s2 := by
  rcases seqgt_iff.1 h with ⟨hlt, -⟩ | ⟨hlt, -⟩ <;> bv_omega

/-- What has come of the peer : the highest number, and for it and each of the 31 numbers before it
the time of its packet, 0 where none has come. -/
structure Window where
  lastRemoteSeq : Seq := 0
  recvPacketTimes : List ℕ := List.replicate 32 0
  size : recvPacketTimes.length = 32 := by rfl

namespace Window

variable {w w' : Window} {pseq : Seq} {now : ℕ}

/-- When the packet `i` before the highest number came. -/
def heard (w : Window) (i : ℕ) : ℕ :=
  w.recvPacketTimes[i]?.getD 0

@[simp] theorem heard_start (i : ℕ) : ({} : Window).heard i = 0 := by
  change (List.replicate 32 0)[i]?.getD 0 = 0
  rw [List.getElem?_replicate]
  split_ifs <;> rfl

/-- The times after the highest number went up by `diff` : `memmove`, `memset` and the new time. -/
def shift (times : List ℕ) (diff now : ℕ) : List ℕ :=
  let moved := times.take diff ++ times.take (32 - diff)
  let cleared := if 1 < diff then List.replicate diff 0 ++ moved.drop diff else moved
  cleared.set 0 now

theorem length_shift {times : List ℕ} (h : times.length = 32) {diff : ℕ} (hdiff : diff ≤ 31)
    (now : ℕ) : (shift times diff now).length = 32 := by
  unfold shift
  split_ifs <;> simp only [List.length_set, List.length_append, List.length_replicate,
    List.length_drop, List.length_take, h] <;> omega

theorem getElem?_shift {times : List ℕ} (h : times.length = 32) {diff : ℕ} (hpos : 0 < diff)
    (hdiff : diff ≤ 31) (now : ℕ) {i : ℕ} (hi : i < 32) :
    (shift times diff now)[i]?.getD 0 =
      if i = 0 then now else if i < diff then 0 else times[i - diff]?.getD 0 := by
  have htake : (times.take diff).length = diff := by
    simp only [List.length_take, h]
    omega
  unfold shift
  rcases Nat.eq_zero_or_pos i with rfl | hi0
  · rw [List.getElem?_set_self]
    · rfl
    · split_ifs <;> simp only [List.length_append, List.length_replicate, List.length_drop,
        List.length_take, h] <;> omega
  · rw [List.getElem?_set_ne (Nat.ne_of_lt hi0), if_neg (Nat.ne_of_gt hi0)]
    split_ifs with hone hlt hlt
    · rw [List.getElem?_append_left (by simpa using hlt), List.getElem?_replicate_of_lt hlt]
      rfl
    · rw [List.getElem?_append_right (by simpa using Nat.le_of_not_lt hlt),
        List.length_replicate, List.drop_left' htake, List.getElem?_take_of_lt (by omega)]
    · omega
    · rw [List.getElem?_append_right (by omega), htake, List.getElem?_take_of_lt (by omega)]

theorem length_moved (w : Window) (pseq : Seq) (now : ℕ) :
    (if 31 < (pseq - w.lastRemoteSeq).toNat then List.replicate 32 0
      else shift w.recvPacketTimes (pseq - w.lastRemoteSeq).toNat now).length = 32 := by
  split_ifs with hfar
  · exact List.length_replicate
  · exact length_shift w.size (Nat.le_of_not_lt hfar) now

theorem length_late (w : Window) (i now : ℕ) : (w.recvPacketTimes.set i now).length = 32 :=
  (List.length_set ..).trans w.size

/-- What a packet of number `pseq` does to the window, nothing if it is dropped. -/
def receive (w : Window) (pseq : Seq) (now : ℕ) : Option Window :=
  if seqgt pseq w.lastRemoteSeq then
    some {
      lastRemoteSeq := pseq
      recvPacketTimes :=
        if 31 < (pseq - w.lastRemoteSeq).toNat then List.replicate 32 0
        else shift w.recvPacketTimes (pseq - w.lastRemoteSeq).toNat now
      size := length_moved w pseq now }
  else if (w.lastRemoteSeq - pseq).toNat < 32 then
    -- a duplicate
    if w.heard (w.lastRemoteSeq - pseq).toNat ≠ 0 then none
    else some {
      w with
      recvPacketTimes := w.recvPacketTimes.set (w.lastRemoteSeq - pseq).toNat now
      size := length_late w _ now }
  else none

/-- The ways a packet is taken. A number more than 31 ahead leaves no time at all, not its own
either. -/
inductive Taken (w : Window) (pseq : Seq) (now : ℕ) (w' : Window) : Prop
  | jump (hgt : seqgt pseq w.lastRemoteSeq = true)
      (hfar : 31 < (pseq - w.lastRemoteSeq).toNat)
      (hlast : w'.lastRemoteSeq = pseq)
      (hheard : ∀ i < 32, w'.heard i = 0)
  | ahead (diff : ℕ) (hpos : 0 < diff) (hnear : diff ≤ 31)
      (hdiff : (pseq - w.lastRemoteSeq).toNat = diff)
      (hgt : seqgt pseq w.lastRemoteSeq = true)
      (hlast : w'.lastRemoteSeq = pseq)
      (hheard : ∀ i < 32, w'.heard i =
        if i = 0 then now else if i < diff then 0 else w.heard (i - diff))
  | late (i : ℕ) (hi : i < 32) (hdiff : (w.lastRemoteSeq - pseq).toNat = i)
      (hle : seqgt pseq w.lastRemoteSeq = false) (hnew : w.heard i = 0)
      (hlast : w'.lastRemoteSeq = w.lastRemoteSeq)
      (hheard : ∀ j < 32, w'.heard j = if j = i then now else w.heard j)

theorem taken_of_receive (h : w.receive pseq now = some w') : Taken w pseq now w' := by
  unfold receive at h
  split_ifs at h with hgt hfar hnear hold
  · obtain rfl := Option.some.inj h
    refine .jump hgt hfar rfl fun i hi => ?_
    simp only [heard, List.getElem?_replicate_of_lt hi, Option.getD_some]
  · obtain rfl := Option.some.inj h
    have hpos : 0 < (pseq - w.lastRemoteSeq).toNat := by
      have hne := ne_of_seqgt hgt
      bv_omega
    exact .ahead _ hpos (Nat.le_of_not_lt hfar) rfl hgt rfl fun i hi =>
      getElem?_shift w.size hpos (Nat.le_of_not_lt hfar) now hi
  · obtain rfl := Option.some.inj h
    refine .late _ hnear rfl (by simpa using hgt) (not_not.1 hold) rfl fun j hj => ?_
    have hsize := w.size
    by_cases hji : j = (w.lastRemoteSeq - pseq).toNat
    · subst hji
      simp only [heard, if_pos]
      rw [List.getElem?_set_self (by omega)]
      rfl
    · simp only [heard, if_neg hji]
      rw [List.getElem?_set_ne (Ne.symm hji)]

/-! ## The word of acknowledgements -/

/-- `WritePacketHeader` : the lowest bit is set if the time is not 0. -/
def mark (time : ℕ) (acks : BitVec 32) : BitVec 32 :=
  if 0 < time then acks ||| 1 else acks

/-- The loop over the times, from the `i`-th on. -/
def acksFrom : ℕ → List ℕ → BitVec 32 → BitVec 32
  | _, [], acks => acks
  | i, time :: times, acks =>
    acksFrom (i + 1) times (if i < 31 then mark time acks <<< 1 else mark time acks)

/-- The word a header carries. -/
def acks (w : Window) : BitVec 32 :=
  acksFrom 0 w.recvPacketTimes 0

theorem getLsbD_mark_high (time : ℕ) (word : BitVec 32) {j : ℕ} (hj : 0 < j) :
    (mark time word).getLsbD j = word.getLsbD j := by
  unfold mark
  split_ifs
  · rw [BitVec.getLsbD_or, BitVec.ofNat_eq_ofNat, BitVec.getLsbD_one]
    simp [Nat.ne_of_gt hj]
  · rfl

theorem getLsbD_mark_low (time : ℕ) {word : BitVec 32} (h : word.getLsbD 0 = false) :
    (mark time word).getLsbD 0 = decide (0 < time) := by
  unfold mark
  split_ifs with htime
  · simp [htime]
  · rw [h, decide_eq_false htime]

theorem getLsbD_shiftLeft_one (word : BitVec 32) {j : ℕ} (hj : j + 1 < 32) :
    (word <<< 1).getLsbD (j + 1) = word.getLsbD j := by
  simp only [BitVec.getLsbD_shiftLeft, hj, decide_true, Nat.add_sub_cancel]
  simp

/-- The bits that are in the word go up by one for each time but the last. -/
theorem getLsbD_acksFrom_high : ∀ (times : List ℕ) (i : ℕ) (word : BitVec 32) (j : ℕ),
    i + times.length = 32 → 0 < times.length → 0 < j → times.length + j ≤ 32 →
      (acksFrom i times word).getLsbD (times.length - 1 + j) = word.getLsbD j
  | [], _, _, _, _, hne, _, _ => absurd hne (Nat.lt_irrefl _)
  | [time], i, word, j, hlen, _, hj, hle => by
    obtain rfl : i = 31 := by simpa using hlen
    simpa [acksFrom] using getLsbD_mark_high time word hj
  | time :: t :: times, i, word, j, hlen, _, hj, hle => by
    simp only [List.length_cons] at hlen hle
    have hi : i < 31 := by omega
    have hhigh := getLsbD_acksFrom_high (t :: times) (i + 1) (mark time word <<< 1) (j + 1)
      (by simp only [List.length_cons]; omega) (by simp) (by omega)
      (by simp only [List.length_cons]; omega)
    have hpos : (time :: t :: times).length - 1 + j = (t :: times).length - 1 + (j + 1) := by
      simp only [List.length_cons]
      omega
    rw [hpos, acksFrom, if_pos hi, hhigh, getLsbD_shiftLeft_one _ (by omega),
      getLsbD_mark_high _ _ hj]

theorem getLsbD_acksFrom : ∀ (times : List ℕ) (i : ℕ) (word : BitVec 32) (k : ℕ),
    i + times.length = 32 → word.getLsbD 0 = false → k < times.length →
      (acksFrom i times word).getLsbD (times.length - 1 - k) = decide (0 < times[k]?.getD 0)
  | [], _, _, k, _, _, hk => absurd hk (Nat.not_lt_zero k)
  | [time], i, word, k, hlen, hword, hk => by
    obtain rfl : i = 31 := by simpa using hlen
    obtain rfl : k = 0 := by simpa using hk
    simpa [acksFrom] using getLsbD_mark_low time hword
  | time :: t :: times, i, word, 0, hlen, hword, _ => by
    simp only [List.length_cons] at hlen
    have hi : i < 31 := by omega
    have hhigh := getLsbD_acksFrom_high (t :: times) (i + 1) (mark time word <<< 1) 1
      (by simp only [List.length_cons]; omega) (by simp) (by omega)
      (by simp only [List.length_cons]; omega)
    have hpos : (time :: t :: times).length - 1 - 0 = (t :: times).length - 1 + 1 := by simp
    rw [hpos, acksFrom, if_pos hi, hhigh, getLsbD_shiftLeft_one _ (by omega),
      getLsbD_mark_low _ hword]
    rfl
  | time :: t :: times, i, word, k + 1, hlen, _, hk => by
    simp only [List.length_cons] at hlen hk
    have hi : i < 31 := by omega
    have hlow := getLsbD_acksFrom (t :: times) (i + 1) (mark time word <<< 1) k
      (by simp only [List.length_cons]; omega) (by simp) (by simp only [List.length_cons]; omega)
    have hpos : (time :: t :: times).length - 1 - (k + 1) = (t :: times).length - 1 - k := by
      simp only [List.length_cons]
      omega
    rw [hpos, acksFrom, if_pos hi, hlow, List.getElem?_cons_succ]

/-- Bit 31 of the word says whether the highest number has come, each lower bit whether the number
before it has. -/
theorem getLsbD_acks (w : Window) {i : ℕ} (hi : i < 32) :
    w.acks.getLsbD (31 - i) = decide (0 < w.heard i) := by
  have hword := getLsbD_acksFrom w.recvPacketTimes 0 0 i
    (by simp [w.size]) (by simp) (by simpa [w.size] using hi)
  rw [w.size] at hword
  exact hword

end Window

end Voip

end TelegramProvider
