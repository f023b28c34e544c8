import TelegramProvider.ByteStreams
import TelegramProvider.Reliability

/-!
# The packets of a call as bytes

`writePacket` is a packet as `WritePacketHeader` writes it in the short format, `readPacket` what
`ProcessIncomingPacket` reads. In between it is padded, encrypted and sent (`sendPacket`), and
decrypted and checked (`decryptPacket`). The hash and the cipher are parameters (`Crypto`) : of the
cipher it is used that it undoes itself.
-/

set_option autoImplicit false

namespace TelegramProvider

open ByteStreams

namespace Voip

/-! ## Header and data -/

def writeInt32 (i : BitVec 32) : Buffer :=
  writeInt 4 i.toNat

def readInt32 : Reader (BitVec 32) :=
  BitVec.ofNat 32 <$> readInt 4

theorem reads_int32 (i : BitVec 32) : Reads readInt32 (writeInt32 i) i := by
  have hlt : i.toNat < capacity 4 := i.isLt
  have hread := (Reads.int 4 i.toNat).map (BitVec.ofNat 32)
  rwa [Nat.mod_eq_of_lt hlt, BitVec.ofNat_toNat, BitVec.setWidth_eq] at hread

/-- `WritePacketHeader`, with what comes behind the flags. -/
def writePacket (pkt : Packet) : Buffer :=
  [pkt.type] ++ (writeInt32 pkt.ackId ++ (writeInt32 pkt.pseq ++ (writeInt32 pkt.acks ++
    ([pkt.pflags] ++ pkt.body))))

/-- `ProcessIncomingPacket` : the header, up to its flags, and the bytes behind it. -/
def readPacket : Reader Packet := do
  let type ← readByte
  let ackId ← readInt32
  let pseq ← readInt32
  let acks ← readInt32
  let pflags ← readByte
  let body ← readRest
  return { type, ackId, pseq, acks, pflags, body }

theorem length_writePacket (pkt : Packet) :
    (writePacket pkt).length = 14 + pkt.body.length := by
  simp only [writePacket, writeInt32, List.length_append, length_writeInt, List.length_cons,
    List.length_nil]
  omega

/-- The header is read as it was written. -/
theorem readPacket_writePacket (pkt : Packet) :
    readPacket.run (writePacket pkt) = some (pkt, []) := by
  unfold readPacket writePacket
  rw [(Reads.byte pkt.type).run_bind, (reads_int32 pkt.ackId).run_bind,
    (reads_int32 pkt.pseq).run_bind, (reads_int32 pkt.acks).run_bind,
    (Reads.byte pkt.pflags).run_bind]
  rfl

/-! ## Encryption -/

/-- The functions of the crypto library, `AES` with its key and its initialisation vector. -/
structure Crypto where
  sha256 : Buffer → Buffer
  aesIgeEncrypt : Buffer → Buffer → Buffer → Buffer
  aesIgeDecrypt : Buffer → Buffer → Buffer → Buffer

/-- What is used of them. -/
structure Crypto.Lawful (c : Crypto) : Prop where
  length_sha256 : ∀ bs, (c.sha256 bs).length = 32
  length_encrypt : ∀ bs key iv, (c.aesIgeEncrypt bs key iv).length = bs.length
  decrypt_encrypt : ∀ bs key iv, bs.length % 16 = 0 →
    c.aesIgeDecrypt (c.aesIgeEncrypt bs key iv) key iv = bs

def slice (bs : Buffer) (offset count : ℕ) : Buffer :=
  (bs.drop offset).take count

namespace Crypto

variable (c : Crypto) (encryptionKey : Buffer)

/-- `KDF2` : the key and the initialisation vector. -/
def kdf2 (msgKey : Buffer) (x : ℕ) : Buffer × Buffer :=
  let sA := c.sha256 (msgKey ++ slice encryptionKey x 36)
  let sB := c.sha256 (slice encryptionKey (40 + x) 36 ++ msgKey)
  (sA.take 8 ++ slice sB 8 16 ++ slice sA 24 8, sB.take 8 ++ slice sA 8 16 ++ slice sB 24 8)

/-- The middle of the hash of the shared key and the padded packet. -/
def msgKey (inner : Buffer) (x : ℕ) : Buffer :=
  slice (c.sha256 (slice encryptionKey (88 + x) 32 ++ inner)) 8 16

end Crypto

/-- At least 16 bytes, up to a multiple of 16. -/
def padLen (length : ℕ) : ℕ :=
  if 16 - length % 16 < 16 then 16 - length % 16 + 16 else 16 - length % 16

theorem padLen_spec (length : ℕ) :
    16 ≤ padLen length ∧ (length + padLen length) % 16 = 0 ∧
      (length + padLen length ≤ 1500 ↔ length ≤ 1472) := by
  unfold padLen
  split_ifs <;> omega

/-- What is encrypted : the length, the packet and the padding. -/
def padded (data padding : Buffer) : Buffer :=
  writeInt 2 data.length ++ data ++ padding

/-- `SendPacket`, after the tag of the relay : the two ends use different parts of the key. -/
def sendPacket (c : Crypto) (encryptionKey : Buffer) (isOutgoing : Bool) (data padding : Buffer) :
    Buffer :=
  let x := if isOutgoing then 0 else 8
  let msgKey := c.msgKey encryptionKey (padded data padding) x
  let key := c.kdf2 encryptionKey msgKey x
  msgKey ++ c.aesIgeEncrypt (padded data padding) key.1 key.2

/-- The `int16_t` of the first two bytes as an `uint32_t`. -/
def innerLen (decrypted : Buffer) : Option ℕ :=
  ((readInt 2).run decrypted).map fun read =>
    if read.1 < 0x8000 then read.1 else read.1 + 0xFFFF0000

/-- A message of the relay itself begins so. -/
def isRelayMessage (relay : Bool) (body : Buffer) : Bool :=
  relay && decide (body.take 12 = List.replicate 12 0xFF)

/-- `ProcessIncomingPacket`, from the tag of the relay to the decrypted packet. -/
def decryptPacket (c : Crypto) (encryptionKey : Buffer) (isOutgoing relay : Bool) (body : Buffer) :
    Option Buffer :=
  if isRelayMessage relay body ∨ body.length < 40 then none
  else
    let x := if isOutgoing then 8 else 0
    let msgKey := body.take 16
    let key := c.kdf2 encryptionKey msgKey x
    let encrypted := body.drop 16
    if 1500 < encrypted.length ∨ encrypted.length % 16 ≠ 0 then none
    else
      let decrypted := c.aesIgeDecrypt encrypted key.1 key.2
      if msgKey ≠ c.msgKey encryptionKey decrypted x then none
      else
        (innerLen decrypted).bind fun innerLen =>
          if encrypted.length < innerLen ∨ encrypted.length - innerLen < 16 then none
          else some (slice decrypted 2 innerLen)

/-- A packet as it is received. -/
def receivePacket (c : Crypto) (encryptionKey : Buffer) (isOutgoing relay : Bool) (body : Buffer) :
    Option Packet :=
  (decryptPacket c encryptionKey isOutgoing relay body).bind fun inner =>
    (readPacket.run inner).map Prod.fst

section

variable {c : Crypto} {encryptionKey data padding : Buffer} {isOutgoing relay : Bool}

theorem length_padded (hpadding : padding.length = padLen (2 + data.length)) :
    (padded data padding).length = 2 + data.length + padLen (2 + data.length) := by
  simp only [padded, List.length_append, length_writeInt, hpadding]

theorem innerLen_padded (h : data.length ≤ 1470) :
    innerLen (padded data padding) = some data.length := by
  have hlt : data.length < capacity 2 := Nat.lt_of_le_of_lt h (by decide)
  have hread := Reads.int 2 data.length (data ++ padding)
  rw [Nat.mod_eq_of_lt hlt] at hread
  unfold innerLen padded
  rw [List.append_assoc, hread, Option.map_some, if_pos (Nat.lt_of_le_of_lt h (by decide))]

theorem slice_padded : slice (padded data padding) 2 data.length = data := by
  unfold slice padded
  rw [List.append_assoc, List.drop_left' (length_writeInt ..), List.take_left' rfl]

/-- What is sent is what is received, if it is not longer than 1470 bytes : the peer decrypts the
packet whatever the padding, and a longer packet is dropped. -/
theorem decryptPacket_sendPacket (hc : c.Lawful) (hlen : 14 ≤ data.length)
    (hpadding : padding.length = padLen (2 + data.length))
    (hrelay : isRelayMessage relay (sendPacket c encryptionKey isOutgoing data padding) = false) :
    decryptPacket c encryptionKey (!isOutgoing) relay
      (sendPacket c encryptionKey isOutgoing data padding) =
        if data.length ≤ 1470 then some data else none := by
  obtain ⟨hmin, hmod, hmax⟩ := padLen_spec (2 + data.length)
  have hinner := length_padded hpadding
  have hx : (if (!isOutgoing) = true then 8 else 0) = if isOutgoing = true then 0 else 8 := by
    cases isOutgoing <;> rfl
  simp only [sendPacket] at hrelay ⊢
  generalize hxval : (if isOutgoing = true then 0 else 8) = x at hrelay hx ⊢
  generalize hkey : c.msgKey encryptionKey (padded data padding) x = msgKey at hrelay ⊢
  have hkeylen : msgKey.length = 16 := by
    rw [← hkey, Crypto.msgKey, slice, List.length_take, List.length_drop, hc.length_sha256]
    rfl
  generalize hkdf : c.kdf2 encryptionKey msgKey x = key at hrelay ⊢
  have henclen := hc.length_encrypt (padded data padding) key.1 key.2
  have hdec := hc.decrypt_encrypt (padded data padding) key.1 key.2 (by omega)
  unfold decryptPacket
  simp only [List.take_left' hkeylen, List.drop_left' hkeylen, hx, hkdf, hdec, hkey, henclen]
  have hlong : ¬(isRelayMessage relay
      (msgKey ++ c.aesIgeEncrypt (padded data padding) key.1 key.2) = true ∨
        (msgKey ++ c.aesIgeEncrypt (padded data padding) key.1 key.2).length < 40) := by
    simp only [hrelay, Bool.false_eq_true, false_or, List.length_append, hkeylen, henclen, hinner]
    omega
  rw [if_neg hlong]
  by_cases hshort : data.length ≤ 1470
  · rw [if_pos hshort, if_neg (by omega), if_neg (not_not.2 rfl), innerLen_padded hshort,
      Option.bind_some, if_neg (by omega), slice_padded]
  · rw [if_neg hshort, if_pos (by omega)]

/-- A packet arrives as it was written, or not at all : the peer reads what was written if that is
not longer than 1470 bytes and does not look like a message of the relay, and drops the packet
otherwise. -/
theorem receivePacket_sendPacket (hc : c.Lawful) (pkt : Packet)
    (hpadding : padding.length = padLen (2 + (writePacket pkt).length)) :
    receivePacket c encryptionKey (!isOutgoing) relay
      (sendPacket c encryptionKey isOutgoing (writePacket pkt) padding) =
        if (writePacket pkt).length ≤ 1470 ∧ isRelayMessage relay
            (sendPacket c encryptionKey isOutgoing (writePacket pkt) padding) = false
          then some pkt else none := by
  have hlen : 14 ≤ (writePacket pkt).length := by
    rw [length_writePacket]
    exact Nat.le_add_right ..
  unfold receivePacket
  cases hrelay : isRelayMessage relay
      (sendPacket c encryptionKey isOutgoing (writePacket pkt) padding) with
  | true => simp [decryptPacket, hrelay]
  | false =>
    rw [decryptPacket_sendPacket hc hlen hpadding hrelay]
    by_cases hshort : (writePacket pkt).length ≤ 1470
    · simp [hshort, readPacket_writePacket]
    · simp [hshort]

end

end Voip

end TelegramProvider
