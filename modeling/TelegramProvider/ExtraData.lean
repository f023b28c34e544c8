import Mathlib.Data.List.Perm.Subperm
import TelegramProvider.ByteStreams

/-!
# The extras of a header

An extra is a piece of state that an end tells its peer : a kind and some data. `WritePacketHeader`
writes all an end has to tell, each behind one byte for its length (`writeExtras`), and
`ProcessIncomingPacket` reads them one after the other, up to the first error (`readExtras`).
`ProcessExtraData` reads what an extra of the kind has (`readExtraData`), and less than that is an
error too.

`readExtras_writeExtras` : the extras are read as they were written, if each of them is `Sound`.
`Extra.Sent.sound` : those of the program are, if they have at most 254 bytes. The group call key
has 256.
-/

set_option autoImplicit false

namespace TelegramProvider

open ByteStreams

namespace Voip

abbrev Buffer := List UInt8

/-- A piece of state of the sender, with its kind. -/
structure Extra where
  type : UInt8
  data : Buffer
  deriving DecidableEq

/-! ## In a header -/

/-- `XPFLAG_HAS_EXTRA`. -/
def xpflagHasExtra : UInt8 := 1

def extraFlags (xs : List Extra) : UInt8 :=
  if xs.isEmpty then 0 else xpflagHasExtra

/-- The length of an extra counts its kind. It is cut to a byte, which an assertion forbids. -/
def writeExtra (x : Extra) : Buffer :=
  UInt8.ofNat (x.data.length + 1) :: x.type :: x.data

/-- `WritePacketHeader`, behind the flags. -/
def writeExtras (xs : List Extra) : Buffer :=
  if xs.isEmpty then [] else UInt8.ofNat xs.length :: xs.flatMap writeExtra

/-- `ProcessExtraData` : an extra without a kind is an error. -/
def extraOf : Buffer → Reader Extra
  | [] => failure
  | type :: data => return ⟨type, data⟩

def readExtra : Reader Extra := do
  let extraLen ← readByte
  let xbuffer ← readBytes extraLen.toNat
  extraOf xbuffer

/-- `ProcessIncomingPacket`, behind the flags : the extras before the first error. -/
def readExtras (pflags : UInt8) (body : Buffer) : List Extra :=
  if pflags &&& xpflagHasExtra ≠ 0 then
    match body with
    | [] => []
    | extraCount :: rest => readUpTo readExtra extraCount.toNat rest
  else []

/-! ## What is done with an extra -/

def extraTypeStreamFlags : UInt8 := 1
def extraTypeStreamCsd : UInt8 := 2
def extraTypeLanEndpoint : UInt8 := 3
def extraTypeNetworkChanged : UInt8 := 4
def extraTypeGroupCallKey : UInt8 := 5
def extraTypeRequestGroup : UInt8 := 6
def extraTypeIPv6Endpoint : UInt8 := 7

/-- What `ProcessExtraData` goes by, of the end it belongs to. -/
structure Receiver where
  allowP2p : Bool
  /-- There is an incoming stream of the number. -/
  hasStream : UInt8 → Bool
  /-- No key was sent or received before. -/
  awaitsGroupCallKey : Bool

/-- An end that reads all there is. -/
def Receiver.thorough : Receiver where
  allowP2p := true
  hasStream _ := true
  awaitsGroupCallKey := true

/-- The data of a codec. -/
def readCsd : Reader Buffer := do
  let len ← readByte
  readBytes len.toNat

/-- `ProcessExtraData`, what it reads behind the kind. -/
def readExtraData (r : Receiver) (type : UInt8) : Reader Unit := do
  if type = extraTypeStreamFlags then
    let _ ← readByte
    let _ ← readInt 4
  else if type = extraTypeStreamCsd then
    let streamID ← readByte
    if r.hasStream streamID then
      let _ ← readInt 2
      let _ ← readInt 2
      let count ← readByte
      let _ ← readMany readCsd count.toNat
  else if type = extraTypeLanEndpoint then
    if r.allowP2p then
      let _ ← readInt 4
      let _ ← readInt 4
  else if type = extraTypeNetworkChanged then
    let _ ← readInt 4
  else if type = extraTypeGroupCallKey then
    if r.awaitsGroupCallKey then
      let _ ← readBytes 256
  else if type = extraTypeIPv6Endpoint then
    if r.allowP2p then
      let _ ← readBytes 16
      let _ ← readInt 2

/-- `ProcessExtraData` comes to its end. -/
def handles (r : Receiver) (x : Extra) : Bool :=
  ((readExtraData r x.type).run x.data).isSome

/-- There is room for the extra in a header, and it has what its kind needs. -/
structure Extra.Sound (x : Extra) : Prop where
  kind : x.type ≤ extraTypeIPv6Endpoint
  length : x.data.length ≤ 254
  data : handles .thorough x = true

instance (x : Extra) : Decidable x.Sound :=
  decidable_of_iff (x.type ≤ extraTypeIPv6Endpoint ∧ x.data.length ≤ 254 ∧
      handles .thorough x = true)
    ⟨fun ⟨hkind, hlength, hdata⟩ => ⟨hkind, hlength, hdata⟩,
      fun ⟨hkind, hlength, hdata⟩ => ⟨hkind, hlength, hdata⟩⟩

def writeCsd (csd : Buffer) : Buffer :=
  UInt8.ofNat csd.length :: csd

/-- The extras for which the program calls `SendExtra`. -/
inductive Extra.Sent : Extra → Prop
  /-- `SendStreamFlags`. -/
  | streamFlags (id : UInt8) (flags : ℕ) : Sent ⟨extraTypeStreamFlags, [id] ++ writeInt 4 flags⟩
  /-- `SendStreamCSD`. -/
  | streamCsd (id : UInt8) (width height : ℕ) (csds : List Buffer)
      (hcsds : ∀ csd ∈ csds, csd.length < 255) :
      Sent ⟨extraTypeStreamCsd, [id] ++ (writeInt 2 width ++ (writeInt 2 height ++
        ([UInt8.ofNat csds.length] ++ csds.flatMap writeCsd)))⟩
  /-- `ProcessIncomingPacket`, when the relay says that both ends are in one network. -/
  | lanEndpoint (address port : ℕ) :
      Sent ⟨extraTypeLanEndpoint, writeInt 4 address ++ writeInt 4 port⟩
  /-- `SetNetworkType`, and the loop that finds the network changed. -/
  | networkChanged (flags : ℕ) : Sent ⟨extraTypeNetworkChanged, writeInt 4 flags⟩
  /-- `SendGroupCallKey`. -/
  | groupCallKey (key : Buffer) (hkey : key.length = 256) : Sent ⟨extraTypeGroupCallKey, key⟩
  /-- `RequestCallUpgrade`. -/
  | requestGroup : Sent ⟨extraTypeRequestGroup, []⟩
  /-- `ProcessIncomingPacket`, when the relay tells an end its address. -/
  | ipv6Endpoint (address : Buffer) (haddress : address.length = 16) (port : ℕ) :
      Sent ⟨extraTypeIPv6Endpoint, address ++ writeInt 2 port⟩

section

variable {x : Extra} {xs : List Extra}

/-- An end that reads less has no error either. -/
theorem Extra.Sound.handles (h : x.Sound) (r : Receiver) : handles r x = true := by
  obtain ⟨type, data⟩ := x
  have hdata := h.data
  unfold Voip.handles readExtraData at hdata ⊢
  simp only [Receiver.thorough, if_true] at hdata
  split_ifs at hdata ⊢ with hflags hcsd
  · exact hdata
  · cases data with
    | nil => exact absurd hdata (by decide)
    | cons streamID data =>
      have hread := (Reads.byte streamID).run_bind (β := Unit)
      simp only [List.singleton_append] at hread
      simp only [hread] at hdata ⊢
      split_ifs
      · exact hdata
      · rfl
  all_goals first | exact hdata | rfl

theorem handles_of_reads {type : UInt8} {data : Buffer}
    (h : Reads (readExtraData .thorough type) data ()) : handles .thorough ⟨type, data⟩ = true := by
  have hall := h []
  rw [List.append_nil] at hall
  simp only [handles, hall, Option.isSome_some]

theorem reads_csd {csd : Buffer} (h : csd.length < 255) : Reads readCsd (writeCsd csd) csd := by
  have hlen : (UInt8.ofNat csd.length).toNat = csd.length := by
    rw [UInt8.toNat_ofNat']
    omega
  have hbytes := Reads.bytes csd
  rw [← hlen] at hbytes
  exact (Reads.byte _).bind hbytes

theorem length_le_flatMap_writeCsd : ∀ csds : List Buffer,
    csds.length ≤ (csds.flatMap writeCsd).length
  | [] => Nat.le_refl 0
  | csd :: csds => by
    have hrest := length_le_flatMap_writeCsd csds
    simp only [List.flatMap_cons, List.length_append, List.length_cons, writeCsd]
    omega

/-- The program sends what the kind of an extra needs. -/
theorem Extra.Sent.handles (h : x.Sent) (hlen : x.data.length ≤ 254) :
    handles .thorough x = true := by
  cases h with
  | streamFlags id flags =>
    exact handles_of_reads ((Reads.byte id).bind ((Reads.int 4 flags).bind_pure _))
  | streamCsd id width height csds hcsds =>
    have hcount : (UInt8.ofNat csds.length).toNat = csds.length := by
      have hle := length_le_flatMap_writeCsd csds
      simp only [List.length_append] at hlen
      rw [UInt8.toNat_ofNat']
      omega
    have hmany : Reads (readMany readCsd csds.length) (csds.flatMap writeCsd) csds :=
      Reads.many fun csd hcsd => reads_csd (hcsds csd hcsd)
    rw [← hcount] at hmany
    exact handles_of_reads ((Reads.byte id).bind ((Reads.int 2 width).bind
      ((Reads.int 2 height).bind ((Reads.byte _).bind (hmany.bind_pure _)))))
  | lanEndpoint address port =>
    exact handles_of_reads ((Reads.int 4 address).bind ((Reads.int 4 port).bind_pure _))
  | networkChanged flags =>
    exact handles_of_reads ((Reads.int 4 flags).bind_pure _)
  | groupCallKey key hkey => exact absurd (hkey ▸ hlen) (by decide)
  | requestGroup => exact handles_of_reads (Reads.pure ())
  | ipv6Endpoint address haddress port =>
    have hbytes := Reads.bytes address
    rw [haddress] at hbytes
    exact handles_of_reads (hbytes.bind ((Reads.int 2 port).bind_pure _))

/-- An extra of the program is sound if it is not longer than 254 bytes. -/
theorem Extra.Sent.sound (h : x.Sent) (hlen : x.data.length ≤ 254) : x.Sound where
  kind := by
    cases h
    all_goals
      dsimp only
      decide
  length := hlen
  data := h.handles hlen

theorem reads_extra (h : x.data.length ≤ 254) : Reads readExtra (writeExtra x) x := by
  have hlen : (UInt8.ofNat (x.data.length + 1)).toNat = (x.type :: x.data).length := by
    rw [UInt8.toNat_ofNat', List.length_cons]
    omega
  have hbytes := Reads.bytes (x.type :: x.data)
  rw [← hlen] at hbytes
  have hrest := hbytes.bind (f := extraOf) (Reads.pure x)
  rw [List.append_nil] at hrest
  exact (Reads.byte _).bind hrest

/-- There are not more extras than kinds. -/
theorem length_le_of_sound (hxs : ∀ x ∈ xs, x.Sound) (hnodup : (xs.map Extra.type).Nodup) :
    xs.length ≤ 8 := by
  have hsub : xs.map Extra.type ⊆ (List.range 8).map UInt8.ofNat := by
    intro type htype
    obtain ⟨x, hx, rfl⟩ := List.mem_map.1 htype
    have hkind : x.type.toNat ≤ 7 := UInt8.le_iff_toNat_le.1 (hxs x hx).kind
    exact List.mem_map.2 ⟨x.type.toNat, List.mem_range.2 (by omega), UInt8.ofNat_toNat⟩
  have hle := (hnodup.subperm hsub).length_le
  simpa using hle

/-- The extras are read as they were written, whatever comes behind them. -/
theorem readExtras_writeExtras (hxs : ∀ x ∈ xs, x.Sound) (hnodup : (xs.map Extra.type).Nodup)
    (data : Buffer) : readExtras (extraFlags xs) (writeExtras xs ++ data) = xs := by
  cases xs with
  | nil => rfl
  | cons x xs =>
    have hcount : (UInt8.ofNat (x :: xs).length).toNat = (x :: xs).length := by
      have hle := length_le_of_sound hxs hnodup
      rw [UInt8.toNat_ofNat']
      omega
    have hread := readUpTo_flatMap data fun y hy => reads_extra (hxs y hy).length
    rw [← hcount] at hread
    have hflag : xpflagHasExtra &&& xpflagHasExtra ≠ 0 := by decide
    unfold readExtras
    exact (if_pos hflag).trans hread

end

end Voip

end TelegramProvider
