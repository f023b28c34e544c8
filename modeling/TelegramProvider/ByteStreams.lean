import Mathlib.Data.List.Basic

/-!
# Reading back what was written

A `Reader` takes a value off the front of a list of bytes, or fails. `Reads r bs a` : in front of
any other bytes, `r` reads `a` off `bs` and leaves those. A format is written by appending and read
by binding, so what reads each part reads the whole (`Reads.bind`). Integers are written with their
lowest byte first (`writeInt`, `Reads.int`).
-/

set_option autoImplicit false

namespace ByteStreams

variable {α β : Type}

/-- What is read, and the bytes that are left. -/
abbrev Reader (α : Type) := StateT (List UInt8) Option α

/-- The bytes are those of the value, whatever comes after them. -/
def Reads (r : Reader α) (bs : List UInt8) (a : α) : Prop :=
  ∀ rest, r.run (bs ++ rest) = some (a, rest)

namespace Reads

variable {r : Reader α} {f : α → Reader β} {bs bs' : List UInt8} {a : α} {b : β}

theorem pure (a : α) : Reads (Pure.pure a) [] a := fun _ => rfl

/-- What comes next reads on behind it. -/
theorem run_bind (h : Reads r bs a) (f : α → Reader β) (rest : List UInt8) :
    (r >>= f).run (bs ++ rest) = (f a).run rest := by
  rw [StateT.run_bind, h rest]
  rfl

/-- What reads each part reads the whole. -/
theorem bind (h : Reads r bs a) (h' : Reads (f a) bs' b) : Reads (r >>= f) (bs ++ bs') b := by
  intro rest
  rw [List.append_assoc, h.run_bind]
  exact h' rest

/-- What is made of what is read. -/
theorem bind_pure (h : Reads r bs a) (g : α → β) :
    Reads (r >>= fun a => Pure.pure (g a)) bs (g a) := by
  intro rest
  rw [h.run_bind]
  rfl

theorem map (h : Reads r bs a) (g : α → β) : Reads (g <$> r) bs (g a) := by
  intro rest
  rw [StateT.run_map, h rest]
  rfl

end Reads

/-! ## Bytes -/

def readByte : Reader UInt8 := fun
  | [] => none
  | b :: bs => some (b, bs)

def readBytes (count : ℕ) : Reader (List UInt8) := fun bs =>
  if count ≤ bs.length then some (bs.take count, bs.drop count) else none

/-- All that is left. -/
def readRest : Reader (List UInt8) := fun bs => some (bs, [])

/-- The same thing again and again. -/
def readMany (r : Reader α) : ℕ → Reader (List α)
  | 0 => Pure.pure []
  | n + 1 => do
    let a ← r
    let as ← readMany r n
    return a :: as

/-- What is read again and again before it fails, so many times at most. -/
def readUpTo (r : Reader α) : ℕ → List UInt8 → List α
  | 0, _ => []
  | n + 1, bs =>
    match r.run bs with
    | none => []
    | some (a, rest) => a :: readUpTo r n rest

theorem Reads.byte (b : UInt8) : Reads readByte [b] b := fun _ => rfl

theorem Reads.bytes (bs : List UInt8) : Reads (readBytes bs.length) bs bs := by
  intro rest
  simp [readBytes, StateT.run]

/-- A list is read by its length. -/
theorem Reads.many {r : Reader α} {write : α → List UInt8} :
    ∀ {as : List α}, (∀ a ∈ as, Reads r (write a) a) →
      Reads (readMany r as.length) (as.flatMap write) as
  | [], _ => Reads.pure []
  | a :: as, h => by
    have hrest := Reads.many fun b hb => h b (List.mem_cons_of_mem a hb)
    rw [List.flatMap_cons]
    exact (h a List.mem_cons_self).bind (hrest.bind_pure _)

/-- A list is read, whatever comes after it. -/
theorem readUpTo_flatMap {r : Reader α} {write : α → List UInt8} (rest : List UInt8) :
    ∀ {as : List α}, (∀ a ∈ as, Reads r (write a) a) →
      readUpTo r as.length (as.flatMap write ++ rest) = as
  | [], _ => rfl
  | a :: as, h => by
    have hfirst := h a List.mem_cons_self (as.flatMap write ++ rest)
    have hrest := readUpTo_flatMap rest fun b hb => h b (List.mem_cons_of_mem a hb)
    rw [List.flatMap_cons, List.append_assoc, List.length_cons, readUpTo, hfirst]
    exact congrArg (a :: ·) hrest

/-! ## Integers -/

/-- The numbers that fit into so many bytes. -/
def capacity : ℕ → ℕ
  | 0 => 1
  | count + 1 => 256 * capacity count

def writeInt : ℕ → ℕ → List UInt8
  | 0, _ => []
  | count + 1, v => UInt8.ofNat v :: writeInt count (v / 256)

def readInt : ℕ → Reader ℕ
  | 0 => Pure.pure 0
  | count + 1 => do
    let b ← readByte
    let v ← readInt count
    return b.toNat + 256 * v

@[simp] theorem length_writeInt : ∀ count v : ℕ, (writeInt count v).length = count
  | 0, _ => rfl
  | count + 1, v => by rw [writeInt, List.length_cons, length_writeInt]

/-- What is read is what of the number fits. -/
theorem Reads.int : ∀ count v : ℕ, Reads (readInt count) (writeInt count v) (v % capacity count)
  | 0, v => by
    rw [capacity, Nat.mod_one]
    exact Reads.pure 0
  | count + 1, v => by
    have hvalue : v % capacity (count + 1) =
        (UInt8.ofNat v).toNat + 256 * (v / 256 % capacity count) := by
      rw [capacity, Nat.mod_mul, UInt8.toNat_ofNat']
    rw [hvalue]
    exact (Reads.byte (UInt8.ofNat v)).bind ((Reads.int count (v / 256)).bind_pure _)

end ByteStreams
