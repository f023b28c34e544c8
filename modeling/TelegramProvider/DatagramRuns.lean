import Mathlib.Algebra.Group.End
import Mathlib.Data.List.Forall2
import Mathlib.Logic.Equiv.Basic
import TelegramProvider.CallExtras
import TelegramProvider.Datagram

/-!
# A call over datagrams

What goes over the network are the bytes of the packets, padded and encrypted. An end that is given
a datagram reads a packet from it, or drops it (`Wire.next`). Each datagram is the `Link.seal` of a
packet that was written, so what is read is what was written, and a run over datagrams is a run of
the packets, some of which never arrive (`Wire.call_of_run`).

`handed_of_run` : the peer has processed every extra that is acknowledged. `settled_of_run` : over a
network that neither repeats nor reorders datagrams, the peer has processed the latest extra of a
kind last, once the end has none of that kind to send.
-/

set_option autoImplicit false

namespace TelegramProvider

open Runs

namespace Voip

/-- What the two ends share : the functions of the crypto library, and the key of the call. -/
structure Link where
  crypto : Crypto
  encryptionKey : Buffer

def Side.isOutgoing : Side → Bool
  | .caller => true
  | .callee => false

@[simp] theorem Side.isOutgoing_other (side : Side) :
    side.other.isOutgoing = !side.isOutgoing := by
  cases side <;> rfl

/-- A packet as it is sent, padded with random bytes. -/
def Link.seal (k : Link) (side : Side) (random : ℕ → UInt8) (pkt : Packet) : Buffer :=
  sendPacket k.crypto k.encryptionKey side.isOutgoing (writePacket pkt)
    ((List.range (padLen (2 + (writePacket pkt).length))).map random)

/-- A packet arrives as it was sent, or is dropped. -/
theorem Link.receivePacket_seal {k : Link} (hk : k.crypto.Lawful) (side : Side)
    (random : ℕ → UInt8) (pkt : Packet) (relay : Bool) :
    receivePacket k.crypto k.encryptionKey side.isOutgoing relay (k.seal side.other random pkt) =
        some pkt ∨
      receivePacket k.crypto k.encryptionKey side.isOutgoing relay
        (k.seal side.other random pkt) = none := by
  have hside : side.isOutgoing = !side.other.isOutgoing := by simp
  unfold Link.seal
  rw [hside, receivePacket_sendPacket hk pkt (by simp)]
  split_ifs
  · exact .inl rfl
  · exact .inr rfl

/-- One end, with the datagrams it has sent. -/
structure Terminal where
  party : Party
  datagrams : List Buffer

abbrev Wire := Side → Terminal

namespace Wire

inductive Label
  /-- An end does something, and pads what it sends with random bytes. -/
  | act (side : Side) (action : Action) (random : ℕ → UInt8)
  /-- The network delivers a datagram of the other end, from a relay or not. -/
  | deliver (side : Side) (d : Delivery) (relay : Bool)

/-- The packets, without their bytes. -/
def call (s : Wire) : Call := fun side => (s side).party

def Label.call : Label → Voip.Label
  | .act side action _ => .act side action
  | .deliver side d _ => .deliver side d

variable (k : Link) (hash : Buffer → BitVec 64)

/-- A datagram may be delivered at any time after it was sent, more than once or never. -/
def next (s : Wire) : Label → Option Wire
  | .act side action random =>
    ((s side).party.perform action).map fun party =>
      let sent := party.written.drop (s side).party.written.length
      Function.update s side ⟨party, (s side).datagrams ++ sent.map (k.seal side random)⟩
  | .deliver side d relay =>
    if 0 < d.now then
      (s side.other).datagrams[d.i]?.map fun body =>
        match receivePacket k.crypto k.encryptionKey side.isOutgoing relay body with
        | none => s
        | some pkt =>
          Function.update s side { s side with party := (s side).party.receive hash pkt d }
    else none

def Step (s : Wire) (l : Label) (s' : Wire) : Prop :=
  s.next k hash l = some s'

/-- Nothing has been sent. -/
def start : Wire := fun side => ⟨Call.start side, []⟩

/-- What an end does, and what it is given, meets the conditions. -/
def Allowed (ok : Party → Action → Prop) (fit : Party → Delivery → Prop) (s : Wire) (l : Label) :
    Prop :=
  Call.Allowed ok fit s.call l.call

instance {ok : Party → Action → Prop} {fit : Party → Delivery → Prop}
    [∀ p action, Decidable (ok p action)] [∀ p d, Decidable (fit p d)] (s : Wire) (l : Label) :
    Decidable (Allowed ok fit s l) :=
  inferInstanceAs (Decidable (Call.Allowed ok fit s.call l.call))

/-- Each datagram is a packet that was written. -/
def Sealed (s : Wire) : Prop :=
  ∀ side, List.Forall₂ (fun body pkt => ∃ random, body = k.seal side random pkt)
    (s side).datagrams (s side).party.written

variable {k hash} {s s' : Wire} {l : Label} {ls : List Label}

theorem call_update (s : Wire) (side : Side) (t : Terminal) :
    call (Function.update s side t) = Function.update s.call side t.party := by
  funext other
  rcases eq_or_ne other side with rfl | hne
  · simp [call]
  · simp [call, hne]

theorem Sealed.update (h : Sealed k s) (side : Side) {t : Terminal}
    (ht : List.Forall₂ (fun body pkt => ∃ random, body = k.seal side random pkt) t.datagrams
      t.party.written) : Sealed k (Function.update s side t) := by
  intro other
  rcases eq_or_ne other side with rfl | hne
  · simpa using ht
  · simpa [hne] using h other

/-- The packet of a datagram. -/
theorem Sealed.exists_packet (h : Sealed k s) {side : Side} {i : ℕ} {body : Buffer}
    (hi : (s side).datagrams[i]? = some body) :
    ∃ pkt random, (s side).party.written[i]? = some pkt ∧ body = k.seal side random pkt := by
  obtain ⟨hlen, hall⟩ := List.forall₂_iff_get.1 (h side)
  obtain ⟨hlt, rfl⟩ := List.getElem?_eq_some_iff.1 hi
  obtain ⟨random, hseal⟩ := hall i hlt (hlen ▸ hlt)
  exact ⟨_, random, List.getElem?_eq_getElem (hlen ▸ hlt), hseal⟩

/-- What is done with datagrams is done with packets, or nothing is done. -/
theorem Sealed.step (h : Sealed k s) (hk : k.crypto.Lawful) (hstep : Step k hash s l s') :
    Sealed k s' ∧ (s'.call = s.call ∨ Call.Step hash s.call l.call s'.call) := by
  cases l with
  | act side action random =>
    obtain ⟨p, hp, rfl⟩ := Option.map_eq_some_iff.1 hstep
    refine ⟨h.update side ?_, .inr ?_⟩
    · obtain ⟨done, -, rfl⟩ := Option.map_eq_some_iff.1 hp
      simp only [List.drop_left']
      refine List.rel_append (h side) (List.forall₂_map_left_iff.2 (List.forall₂_same.2 ?_))
      exact fun pkt _ => ⟨random, rfl⟩
    · rw [call_update]
      exact Option.map_eq_some_iff.2 ⟨p, hp, rfl⟩
  | deliver side d relay =>
    simp only [Step, next] at hstep
    split_ifs at hstep with hnow
    obtain ⟨body, hbody, hread⟩ := Option.map_eq_some_iff.1 hstep
    obtain ⟨pkt, random, hpkt, rfl⟩ := h.exists_packet hbody
    rcases Link.receivePacket_seal hk side random pkt relay with hsome | hnone
    · rw [hsome] at hread
      obtain rfl := hread
      have hwritten := ((s side).party.kept_of_receive hash pkt d).2.2
      refine ⟨h.update side (hwritten ▸ h side), .inr ?_⟩
      rw [call_update]
      simp only [Call.Step, Call.next, Label.call, if_pos hnow]
      exact Option.map_eq_some_iff.2 ⟨pkt, hpkt, rfl⟩
    · rw [hnone] at hread
      obtain rfl := hread
      exact ⟨h, .inl rfl⟩

/-- A run over datagrams is a run of the packets, without those that are dropped. -/
theorem call_of_run {ok : Party → Action → Prop} {fit : Party → Delivery → Prop}
    (hk : k.crypto.Lawful) (hrun : Run (Restrict (Step k hash) (Allowed ok fit)) start ls s) :
    ∃ ls', Run (Restrict (Call.Step hash) (Call.Allowed ok fit)) Call.start ls' s.call := by
  have hinv := hrun.invariant (fun s => Sealed k s ∧
    ∃ ls', Run (Restrict (Call.Step hash) (Call.Allowed ok fit)) Call.start ls' s.call) ?_ ?_
  · exact hinv.2
  · rintro s l s' ⟨hsealed, ls', hcall⟩ ⟨hstep, hok⟩
    obtain ⟨hsealed', hsame | hmoved⟩ := hsealed.step hk hstep
    · exact ⟨hsealed', ls', hsame ▸ hcall⟩
    · exact ⟨hsealed', _, hcall.snoc ⟨hmoved, hok⟩⟩
  · exact ⟨fun _ => .nil, [], .nil⟩

/-- A computed run, with what can be read off its end. -/
theorem exists_run (k : Link) (hash : Buffer → BitVec 64) (ls : List Label)
    (ok : Party → Action → Prop) (fit : Party → Delivery → Prop)
    [∀ p action, Decidable (ok p action)] [∀ p d, Decidable (fit p d)]
    (P : Wire → Prop) [DecidablePred P]
    (h : ((exec (guarded (Allowed ok fit) (next k hash)) start ls).any fun s =>
      decide (P s)) = true) :
    ∃ s, Run (Restrict (Step k hash) (Allowed ok fit)) start ls s ∧ P s := by
  obtain ⟨s, hs, hP⟩ := (Option.any_eq_true ..).1 h
  exact ⟨s, Run.of_guarded (fun _ _ _ h => h) hs, of_decide_eq_true hP⟩

end Wire

/-! ## What is acknowledged has been processed -/

section

variable {k : Link} {hash : Buffer → BitVec 64} {s : Wire} {ls : List Wire.Label}

/-- Every extra that is acknowledged has been processed, whatever the network does, while the next
number of the end is at most 2³¹, its extras are sound, and a new extra goes out under a number
above all that were written before. -/
theorem handed_of_run (hk : k.crypto.Lawful)
    (hrun : Run (Restrict (Wire.Step k hash) (Wire.Allowed Orderly fun _ _ => True)) Wire.start ls
      s)
    (side : Side) (hseq : (s side).party.controller.seq ≤ 0x80000000) :
    ∀ x, Event.acknowledged x ∈ (s side).party.log →
      x.extra ∈ (s side.other).party.heardExtras := by
  obtain ⟨ls', hcall⟩ := Wire.call_of_run hk hrun
  exact (Handed.of_run hcall side hseq).handed

/-- The peer has the latest of each kind. If moreover the network neither repeats nor reorders
datagrams, but may lose them, then once an end has no extra of a kind to send, the last extra of
that kind the peer has processed is the last the end was told to send. -/
theorem settled_of_run (hk : k.crypto.Lawful)
    (hrun : Run (Restrict (Wire.Step k hash) (Wire.Allowed Orderly InTurn)) Wire.start ls s)
    (side : Side) (hseq : (s side).party.controller.seq ≤ 0x80000000) {type : UInt8}
    (hnone : ∀ x ∈ (s side).party.controller.currentExtras, x.type ≠ type) {x : Extra}
    (hsaid : latest (s side).party.said type = some x) :
    latest (s side.other).party.heardExtras type = some x := by
  obtain ⟨ls', hcall⟩ := Wire.call_of_run hk hrun
  exact ((Settled.of_run hcall side hseq).settled type x hsaid hnone).1

end

/-! ## An extra that is replaced -/

namespace Sample

def encryptionKey : Buffer :=
  (List.range 256).map UInt8.ofNat

/-- What is encrypted for a datagram, by the end with the offset `x`, with the hashes and the cipher
text. -/
structure Sealing where
  x : ℕ
  plain : Buffer
  msgKeyLarge : Buffer
  sA : Buffer
  sB : Buffer
  cipher : Buffer

def random (i : ℕ) : UInt8 :=
  UInt8.ofNat (100 + i)

def plainOf (pkt : Packet) (padLen : ℕ) : Buffer :=
  padded (writePacket pkt) ((List.range padLen).map random)

/-- The caller says that its network has changed. -/
def lost : Sealing where
  x := 0
  plain := plainOf ⟨14, 0, 1, 0, 1, [1, 5, 4, 1, 0, 0, 0]⟩ 25
  msgKeyLarge := [48, 89, 78, 130, 91, 180, 224, 136, 42, 44, 232, 180, 183, 23, 231, 216, 1, 66,
    78, 64, 233, 119, 160, 231, 114, 248, 101, 43, 172, 144, 202, 155]
  sA := [112, 34, 100, 166, 128, 67, 249, 1, 228, 84, 27, 16, 158, 119, 232, 131, 159, 205, 237,
    107, 57, 106, 132, 223, 98, 215, 190, 82, 12, 117, 40, 219]
  sB := [3, 240, 58, 50, 188, 5, 176, 130, 114, 196, 54, 165, 165, 123, 211, 245, 18, 158, 122, 187,
    248, 41, 195, 83, 66, 114, 148, 176, 95, 75, 85, 113]
  cipher := [163, 237, 199, 52, 217, 39, 45, 206, 236, 86, 223, 155, 22, 193, 128, 195, 214, 152,
    58, 242, 17, 27, 207, 223, 205, 66, 10, 143, 60, 161, 94, 39, 198, 35, 98, 248, 69, 245, 238,
    246, 69, 125, 46, 16, 247, 12, 156, 205]

/-- It says so again, with other flags. -/
def replaced : Sealing where
  x := 0
  plain := plainOf ⟨14, 0, 2, 0, 1, [1, 5, 4, 0, 0, 0, 0]⟩ 25
  msgKeyLarge := [30, 217, 193, 26, 179, 65, 50, 22, 80, 10, 56, 18, 116, 24, 0, 118, 150, 247, 22,
    229, 140, 69, 65, 220, 142, 127, 75, 230, 32, 202, 94, 126]
  sA := [138, 74, 57, 17, 221, 81, 221, 185, 255, 232, 123, 166, 222, 149, 48, 36, 101, 131, 88,
    191, 203, 252, 1, 221, 161, 178, 19, 21, 24, 236, 95, 111]
  sB := [176, 215, 142, 235, 62, 6, 187, 77, 97, 135, 111, 134, 194, 44, 165, 187, 84, 195, 81, 202,
    180, 66, 196, 254, 229, 57, 58, 55, 210, 48, 0, 254]
  cipher := [99, 192, 41, 148, 165, 54, 56, 69, 192, 4, 90, 217, 64, 193, 136, 19, 69, 165, 51, 186,
    233, 55, 61, 108, 136, 249, 62, 126, 83, 206, 4, 23, 161, 7, 42, 232, 215, 74, 170, 221, 207,
    45, 197, 198, 118, 28, 40, 128]

/-- The callee says that the second packet has come. -/
def answer : Sealing where
  x := 8
  plain := plainOf ⟨14, 2, 1, 0x80000000, 0, []⟩ 16
  msgKeyLarge := [85, 118, 121, 38, 41, 231, 221, 74, 161, 163, 73, 95, 98, 55, 159, 44, 106, 26, 1,
    77, 127, 104, 203, 55, 35, 231, 156, 172, 147, 95, 236, 65]
  sA := [167, 74, 77, 140, 69, 56, 72, 134, 98, 130, 232, 28, 226, 2, 143, 180, 232, 176, 159, 55,
    133, 7, 67, 127, 38, 212, 239, 165, 59, 80, 90, 150]
  sB := [230, 13, 237, 101, 108, 239, 44, 135, 14, 166, 47, 106, 206, 130, 24, 126, 47, 14, 153, 74,
    221, 46, 236, 147, 180, 81, 33, 227, 18, 7, 75, 132]
  cipher := [50, 65, 68, 70, 10, 150, 159, 43, 255, 1, 137, 50, 33, 61, 228, 250, 164, 180, 152,
    115, 11, 157, 212, 118, 1, 146, 51, 100, 23, 116, 137, 216]

/-- What is hashed for a datagram. -/
def Sealing.hashes (v : Sealing) : List (Buffer × Buffer) :=
  let msgKey := slice v.msgKeyLarge 8 16
  [(slice encryptionKey (88 + v.x) 32 ++ v.plain, v.msgKeyLarge),
    (msgKey ++ slice encryptionKey v.x 36, v.sA),
    (slice encryptionKey (40 + v.x) 36 ++ msgKey, v.sB)]

/-- SHA-256 and AES, where they are used. -/
def hashes : List (Buffer × Buffer) :=
  [lost, replaced, answer].flatMap Sealing.hashes

/-- The first eight bytes of SHA-1 of the extra that comes. -/
def hash (_ : Buffer) : BitVec 64 :=
  0x7c852fd27a09fa0c

def cipher : Equiv.Perm Buffer :=
  Equiv.swap lost.plain lost.cipher * Equiv.swap replaced.plain replaced.cipher *
    Equiv.swap answer.plain answer.cipher

def link : Link where
  crypto := {
    sha256 := fun bs => ((hashes.find? fun p => p.1 = bs).map Prod.snd).getD (List.replicate 32 0)
    aesIgeEncrypt := fun bs _ _ => cipher bs
    aesIgeDecrypt := fun bs _ _ => cipher.symm bs }
  encryptionKey := encryptionKey

theorem length_swap {a b : Buffer} (h : a.length = b.length) (bs : Buffer) :
    (Equiv.swap a b bs).length = bs.length := by
  rw [Equiv.swap_apply_def]
  split_ifs with ha hb
  · rw [ha, h]
  · rw [hb, h]
  · rfl

theorem link_lawful : link.crypto.Lawful where
  length_sha256 bs := by
    have hall : ∀ p ∈ hashes, p.2.length = 32 := by decide +kernel
    simp only [link]
    cases hfind : hashes.find? fun p => p.1 = bs with
    | none => rfl
    | some p => exact hall p (List.mem_of_find?_eq_some hfind)
  length_encrypt bs _ _ := by
    have hlost : lost.plain.length = lost.cipher.length := by decide +kernel
    have hreplaced : replaced.plain.length = replaced.cipher.length := by decide +kernel
    have hanswer : answer.plain.length = answer.cipher.length := by decide +kernel
    simp only [link, cipher, Equiv.Perm.mul_apply]
    rw [length_swap hlost, length_swap hreplaced, length_swap hanswer]
  decrypt_encrypt bs _ _ _ := cipher.symm_apply_apply bs

/-- The first packet with an extra is lost, another extra takes its place, and the callee answers
that one. -/
def replacedExtra : List Wire.Label :=
  [.act .caller (.sendExtra [1, 0, 0, 0] 4) random, .act .caller (.generate 14 [] 1) random,
    .act .caller (.send 0 .ready 1000) random, .act .caller (.sendExtra [0, 0, 0, 0] 4) random,
    .act .caller (.generate 14 [] 1) random, .act .caller (.send 0 .ready 1001) random,
    .deliver .callee { i := 1, now := 1002 } true, .act .callee (.generate 14 [] 1) random,
    .act .callee (.send 0 .ready 1003) random, .deliver .caller { i := 0, now := 1004 } true]

end Sample

theorem handed_of_run_replacedExtra : ∃ s,
    Run (Restrict (Wire.Step Sample.link Sample.hash) (Wire.Allowed Orderly fun _ _ => True))
      Wire.start Sample.replacedExtra s ∧ ⟨4, [0, 0, 0, 0]⟩ ∈ (s .callee).party.heardExtras := by
  obtain ⟨s, hrun, hlog, hseq⟩ := Wire.exists_run Sample.link Sample.hash Sample.replacedExtra
    Orderly (fun _ _ => True) (fun s =>
      (s .caller).party.log = [.accepted 1 false, .acknowledged ⟨4, [0, 0, 0, 0], 2⟩] ∧
        (s .caller).party.controller.seq ≤ 0x80000000) (by decide +kernel)
  exact ⟨s, hrun, handed_of_run Sample.link_lawful hrun .caller hseq ⟨4, [0, 0, 0, 0], 2⟩
    (by simp [hlog])⟩

theorem settled_of_run_replacedExtra : ∃ s,
    Run (Restrict (Wire.Step Sample.link Sample.hash) (Wire.Allowed Orderly InTurn)) Wire.start
      Sample.replacedExtra s ∧
      (s .caller).party.said = [⟨4, [1, 0, 0, 0]⟩, ⟨4, [0, 0, 0, 0]⟩] ∧
        latest (s .callee).party.heardExtras 4 = some ⟨4, [0, 0, 0, 0]⟩ := by
  obtain ⟨s, hrun, hsaid, hextras, hseq⟩ := Wire.exists_run Sample.link Sample.hash
    Sample.replacedExtra Orderly InTurn (fun s =>
      (s .caller).party.said = [⟨4, [1, 0, 0, 0]⟩, ⟨4, [0, 0, 0, 0]⟩] ∧
        (s .caller).party.controller.currentExtras = [] ∧
          (s .caller).party.controller.seq ≤ 0x80000000) (by decide +kernel)
  exact ⟨s, hrun, hsaid, settled_of_run Sample.link_lawful hrun .caller hseq (by simp [hextras])
    (by rw [hsaid]; decide)⟩

end Voip

end TelegramProvider
