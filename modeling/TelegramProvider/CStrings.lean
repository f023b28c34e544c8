import Mathlib.Data.List.DropRight
import TelegramProvider.Numerals

/-!
# Strings of C

Strings as the C library has them : bytes up to the first NUL, with white space of the C locale,
and `strtol` with base 0 on a 64 bit `long`. `C.bytesOf` gives the bytes of a text in UTF-8.

`strtol` does not depend on what follows a byte that is no digit (`strtol_append`), and reads a
decimal text without a leading zero as its number (`strtol_of_decimal`).
-/

set_option autoImplicit false

namespace C

/-- A string of bytes. -/
abbrev Bytes := List UInt8

/-- The byte of an ASCII character. -/
def byte (c : Char) : UInt8 := c.toNat.toUInt8

/-- A text in UTF-8. -/
def bytesOf (s : String) : Bytes :=
  s.toList.flatMap String.utf8EncodeChar

/-- The bytes up to the first NUL. -/
def cString (bs : Bytes) : Bytes :=
  bs.takeWhile (· ≠ 0)

/-- `isspace` in the C locale. -/
def isSpace (b : UInt8) : Bool :=
  b = 32 || (9 ≤ b && b ≤ 13)

/-- A string of white space. -/
def Blank (bs : Bytes) : Prop :=
  ∀ b ∈ cString bs, isSpace b = true

instance (bs : Bytes) : Decidable (Blank bs) :=
  List.decidableBAll _ _

/-- What begins a string of white space is one. -/
theorem Blank.of_start {bs bs' : Bytes} (h : Blank bs') (hstart : bs <+: bs') : Blank bs := by
  obtain ⟨rest, rfl⟩ := hstart
  intro b hb
  refine h b ?_
  rw [cString, List.takeWhile_append]
  split_ifs
  · exact List.mem_append_left _ ((List.takeWhile_prefix _).subset hb)
  · exact hb

/-- `tolower` in the C locale. -/
def toLower (b : UInt8) : UInt8 :=
  if 65 ≤ b && b ≤ 90 then b + 32 else b

/-! ## `strtol` -/

/-- The value of a digit, of which letters are some. -/
def digitValue (b : UInt8) : Option ℕ :=
  if 48 ≤ b && b ≤ 57 then some (b.toNat - 48)
  else if 97 ≤ toLower b && toLower b ≤ 122 then some ((toLower b).toNat - 87)
  else none

def isDigit (base : ℕ) (b : UInt8) : Bool :=
  (digitValue b).any (· < base)

/-- The digits a text starts with, as a number. -/
def readDigits (base : ℕ) (bs : Bytes) : ℕ :=
  (bs.takeWhile (isDigit base)).foldl (fun n b => base * n + (digitValue b).getD 0) 0

/-- `0x` and a digit. -/
def hasHexPrefix (bs : Bytes) : Bool :=
  bs.head? = some 48 && bs.tail.head?.any (toLower · = 120) && bs.tail.tail.head?.any (isDigit 16)

/-- The number a text without white space and sign starts with : hexadecimal behind `0x`, octal
behind `0`, or decimal. -/
def readMagnitude (bs : Bytes) : Option ℕ :=
  if hasHexPrefix bs then some (readDigits 16 (bs.drop 2))
  else if bs.head? = some 48 then some (readDigits 8 bs)
  else if bs.head?.any (isDigit 10) then some (readDigits 10 bs)
  else none

/-- `strtol` with base 0 : the number a text starts with, cut off at the least and the greatest
64 bit integer. -/
def strtol (bs : Bytes) : Option ℤ :=
  let bs := bs.dropWhile isSpace
  if bs.head? = some 45 then (readMagnitude bs.tail).map fun n => -(min n (2 ^ 63) : ℕ)
  else
    (readMagnitude (if bs.head? = some 43 then bs.tail else bs)).map fun n =>
      (min n (2 ^ 63 - 1) : ℕ)

/-- The cast of a `long` to `int`. -/
def toInt (n : ℤ) : ℤ :=
  n.bmod (2 ^ 32)

/-! ## What follows a number -/

section

variable {bs ds tail : Bytes} {c : UInt8} {base : ℕ}

theorem isDigit_of_none (h : digitValue c = none) : isDigit base c = false := by
  rw [isDigit, h]
  rfl

/-- Digits end at a byte that is none. -/
theorem readDigits_append (h : ∀ c ∈ tail.head?, digitValue c = none) :
    readDigits base (ds ++ tail) = readDigits base ds := by
  have hdigits : (ds ++ tail).takeWhile (isDigit base) = ds.takeWhile (isDigit base) := by
    induction ds with
    | nil =>
      cases tail with
      | nil => rfl
      | cons c tail => exact List.takeWhile_cons_of_neg (by simp [isDigit_of_none (h c rfl)])
    | cons d ds ih => rw [List.cons_append, List.takeWhile_cons, List.takeWhile_cons, ih]
  rw [readDigits, readDigits, hdigits]

/-- No byte of `0x` is one. -/
theorem ne_of_none (h : digitValue c = none) : c ≠ 48 ∧ toLower c ≠ 120 := by
  constructor
  · rintro rfl
    exact absurd h (by decide)
  · intro hx
    unfold digitValue at h
    rw [hx] at h
    split_ifs at h with _ hletter
    exact hletter (by decide)

theorem hasHexPrefix_append (h : ∀ c ∈ tail.head?, digitValue c = none) :
    hasHexPrefix (ds ++ tail) = hasHexPrefix ds := by
  cases tail with
  | nil => rw [List.append_nil]
  | cons c tail =>
    have hc : digitValue c = none := h c rfl
    obtain ⟨hzero, hx⟩ := ne_of_none hc
    rcases ds with _ | ⟨d₀, _ | ⟨d₁, _ | ⟨d₂, ds⟩⟩⟩
    · simp [hasHexPrefix, hzero]
    · simp [hasHexPrefix, hx]
    · simp [hasHexPrefix, isDigit_of_none hc]
    · rfl

/-- A number is read up to a byte that is no digit. -/
theorem readMagnitude_append (ds : Bytes) (h : ∀ c ∈ tail.head?, digitValue c = none) :
    readMagnitude (ds ++ tail) = readMagnitude ds := by
  cases ds with
  | nil =>
    cases tail with
    | nil => rfl
    | cons c tail =>
      have hc : digitValue c = none := h c rfl
      have hzero := (ne_of_none hc).1
      simp [readMagnitude, hasHexPrefix, hzero, isDigit_of_none hc]
  | cons d ds =>
    have hdrop : 2 ≤ (d :: ds).length ∨ hasHexPrefix (d :: ds) = false := by
      cases ds with
      | nil => exact Or.inr (by simp [hasHexPrefix])
      | cons d' ds => exact Or.inl (by simp)
    rw [readMagnitude, readMagnitude, hasHexPrefix_append h, readDigits_append h, readDigits_append h]
    rcases hdrop with hlen | hnone
    · rw [List.drop_append_of_le_length hlen, readDigits_append h]
      rfl
    · rw [hnone]
      rfl

/-- `strtol` reads up to a byte that is no digit, if there is no number behind white space. -/
theorem strtol_append (h : ∀ c ∈ tail.head?, digitValue c = none)
    (hnone : (∀ c ∈ bs, isSpace c = true) → strtol tail = none) :
    strtol (bs ++ tail) = strtol bs := by
  cases hskip : bs.dropWhile isSpace with
  | nil =>
    have hspaces : ∀ c ∈ bs, isSpace c = true := List.dropWhile_eq_nil_iff.1 hskip
    have hbs : strtol bs = none := by
      rw [strtol, hskip]
      rfl
    rw [hbs, ← hnone hspaces, strtol, strtol, List.dropWhile_append_of_pos hspaces]
  | cons c cs =>
    have happ : (bs ++ tail).dropWhile isSpace = c :: (cs ++ tail) := by
      rw [List.dropWhile_append, hskip]
      rfl
    have hrest : readMagnitude (c :: (cs ++ tail)) = readMagnitude (c :: cs) :=
      readMagnitude_append (c :: cs) h
    have hsigned : readMagnitude (cs ++ tail) = readMagnitude cs := readMagnitude_append cs h
    by_cases hminus : c = 45
    · simp [strtol, happ, hskip, hminus, hsigned]
    · by_cases hplus : c = 43
      · simp [strtol, happ, hskip, hplus, hsigned]
      · simp [strtol, happ, hskip, hminus, hplus, hrest]

/-- A byte no number has ends what `strtol` reads. -/
theorem strtol_append_cons (h : digitValue c = none) (hspace : isSpace c = false) (hminus : c ≠ 45)
    (hplus : c ≠ 43) : strtol (bs ++ c :: tail) = strtol bs := by
  have hstop : ∀ d ∈ (c :: tail).head?, digitValue d = none := by simpa using h
  have hread : readMagnitude (c :: tail) = none := readMagnitude_append [] hstop
  have hskip : (c :: tail).dropWhile isSpace = c :: tail :=
    List.dropWhile_cons_of_neg (by simp [hspace])
  exact strtol_append hstop fun _ => by simp [strtol, hskip, hminus, hplus, hread]

theorem strtol_dropWhile (bs : Bytes) : strtol (bs.dropWhile isSpace) = strtol bs := by
  rw [strtol, strtol, List.dropWhile_idempotent]

theorem digitValue_of_isSpace (h : isSpace c = true) : digitValue c = none := by
  simp only [isSpace, Bool.or_eq_true, Bool.and_eq_true, decide_eq_true_eq, UInt8.le_iff_toNat_le,
    ← UInt8.toNat_inj, UInt8.reduceToNat] at h
  have hlow : ∀ d : UInt8, 48 ≤ d.toNat → ¬d ≤ c := by
    intro d hd hle
    have hnat := UInt8.le_iff_toNat_le.1 hle
    omega
  have hlower : toLower c = c := by simp [toLower, hlow 65 (by decide)]
  simp [digitValue, hlow 48 (by decide), hlower, hlow 97 (by decide)]

theorem strtol_of_spaces (h : ∀ c ∈ bs, isSpace c = true) : strtol bs = none := by
  rw [strtol, List.dropWhile_eq_nil_iff.2 h]
  rfl

end

/-! ## Texts in UTF-8 -/

section

variable {c : Char} {cs : List Char} {s t : String}

@[simp] theorem bytesOf_append (s t : String) : bytesOf (s ++ t) = bytesOf s ++ bytesOf t := by
  rw [bytesOf, String.toList_append, List.flatMap_append]
  rfl

theorem toNat_byte (h : c.toNat < 128) : (byte c).toNat = c.toNat := by
  rw [byte, Nat.toUInt8, UInt8.toNat_ofNat']
  omega

/-- The byte of an ASCII character is in no other character. -/
theorem byte_mem_utf8EncodeChar_iff {x : Char} (hx : x.toNat < 128) :
    byte x ∈ String.utf8EncodeChar c ↔ x = c := by
  have hnat := toNat_byte hx
  constructor
  · intro h
    have hcode : x.toNat = c.val.toNat := by
      unfold String.utf8EncodeChar at h
      dsimp only at h
      split_ifs at h with hone htwo hthree <;>
        simp only [List.mem_cons, List.not_mem_nil, or_false, ← UInt8.toNat_inj, hnat,
          UInt8.toNat_ofNat'] at h
      · omega
      · omega
      · omega
      · omega
    exact Char.toNat_inj.1 hcode
  · rintro rfl
    have hlow : x.val.toNat ≤ 127 := Nat.le_of_lt_succ hx
    rw [String.utf8EncodeChar, if_pos hlow]
    exact List.mem_singleton_self _

theorem byte_mem_bytesOf_iff {x : Char} (hx : x.toNat < 128) : byte x ∈ bytesOf s ↔ x ∈ s.toList := by
  simp [bytesOf, byte_mem_utf8EncodeChar_iff hx]

/-- A text in ASCII has a byte for each character. -/
theorem bytesOf_of_ascii (h : ∀ c ∈ s.toList, c.toNat < 128) : bytesOf s = s.toList.map byte := by
  rw [bytesOf, List.map_eq_flatMap]
  refine List.flatMap_congr fun c hc => ?_
  have hlow : c.val.toNat ≤ 127 := Nat.le_of_lt_succ (h c hc)
  rw [String.utf8EncodeChar, if_pos hlow]
  rfl

theorem ascii_of_isDigit (h : c.isDigit = true) : c.toNat < 128 := by
  have hdigit := Char.isDigit_iff_toNat.1 h
  have hnine : '9'.toNat = 57 := rfl
  omega

theorem digitValue_byte (h : c.isDigit = true) : digitValue (byte c) = some (c.toNat - '0'.toNat) := by
  have hdigit := Char.isDigit_iff_toNat.1 h
  have hnat := toNat_byte (ascii_of_isDigit h)
  have hle : (48 : UInt8) ≤ byte c ∧ byte c ≤ 57 := by
    rw [UInt8.le_iff_toNat_le, UInt8.le_iff_toNat_le, hnat]
    exact hdigit
  simp [digitValue, hle, hnat]

theorem isDigit_byte (h : c.isDigit = true) : isDigit 10 (byte c) = true := by
  have hdigit := Char.isDigit_iff_toNat.1 h
  have hnine : '9'.toNat = 57 := rfl
  have hzero : '0'.toNat = 48 := rfl
  rw [isDigit, digitValue_byte h]
  simp only [Option.any_some, decide_eq_true_eq]
  omega

/-- The digits of a text, read as bytes. -/
theorem readDigits_map_byte (h : ∀ c ∈ cs, c.isDigit = true) :
    readDigits 10 (cs.map byte) = Nat.ofDigitChars 10 cs 0 := by
  have hall : (cs.map byte).takeWhile (isDigit 10) = cs.map byte :=
    List.takeWhile_eq_self_iff.2 (List.forall_mem_map.2 fun c hc => isDigit_byte (h c hc))
  rw [readDigits, hall, Nat.ofDigitChars_eq_foldl, List.foldl_map]
  refine List.foldl_ext _ _ _ fun n c hc => ?_
  rw [digitValue_byte (h c hc)]
  rfl

/-- A number in decimal. -/
theorem strtol_toString {n : ℕ} (h : n ≠ 0) :
    strtol (bytesOf (toString n)) = some ((min n (2 ^ 63 - 1) : ℕ) : ℤ) := by
  have hdigits : ∀ c ∈ Nat.toDigits 10 n, c.isDigit = true := fun c => Decimal.isDigit_of_mem_toDigits
  have hbytes : bytesOf (toString n) = (Nat.toDigits 10 n).map byte := by
    have hlist : (toString n).toList = Nat.toDigits 10 n := Nat.toList_repr
    rw [bytesOf_of_ascii fun c hc => ascii_of_isDigit (hdigits c (hlist ▸ hc)), hlist]
  have hvalue : readDigits 10 ((Nat.toDigits 10 n).map byte) = n := by
    rw [readDigits_map_byte hdigits, Nat.ofDigitChars_ten_toDigits]
  rw [hbytes]
  cases hds : Nat.toDigits 10 n with
  | nil => exact absurd hds Nat.toDigits_ne_nil
  | cons c cs =>
    have hc : c.isDigit = true := hdigits c (by simp [hds])
    have hlead : c.toNat ≠ 48 := by
      intro hzero
      have hchar : c = '0' := Char.toNat_inj.1 hzero
      exact h (Decimal.head?_toDigits (by rw [hds, hchar]; rfl))
    have hbounds := Char.isDigit_iff_toNat.1 hc
    have hnine : '9'.toNat = 57 := rfl
    have hzero : '0'.toNat = 48 := rfl
    have hnat := toNat_byte (ascii_of_isDigit hc)
    have hne : ∀ d : UInt8, d.toNat < 48 ∨ d.toNat = 48 → byte c ≠ d := by
      rintro d hd rfl
      omega
    have hspace : isSpace (byte c) = false := by
      have hgt : ¬byte c ≤ 13 := by
        rw [UInt8.le_iff_toNat_le, hnat]
        have hthirteen : (13 : UInt8).toNat = 13 := rfl
        omega
      simp [isSpace, hne 32 (Or.inl (by decide)), hgt]
    rw [hds] at hvalue
    have hskip : ((c :: cs).map byte).dropWhile isSpace = (c :: cs).map byte :=
      List.dropWhile_cons_of_neg (by simp [hspace])
    have hread : readMagnitude ((c :: cs).map byte) = some n := by
      rw [readMagnitude, hvalue]
      simp [hasHexPrefix, hne 48 (Or.inr rfl), isDigit_byte hc]
    rw [strtol, hskip]
    simp only [List.map_cons, List.head?_cons, Option.some.injEq, hne 45 (Or.inl (by decide)),
      hne 43 (Or.inl (by decide)), if_false]
    rw [← List.map_cons, hread]
    rfl

end

end C
