import Mathlib.Algebra.Group.Int.Defs
import Mathlib.Algebra.Group.Nat.Defs
import Mathlib.Data.Int.Notation
import Mathlib.Data.List.Basic
import Mathlib.Data.List.TakeWhile

/-!
# Texts that are numbers

Which texts Go and PHP take for numbers. `Go.parseFloat` says when `strconv.ParseFloat`
returns without an error : signs, decimal and hexadecimal literals with a point and an
exponent, underscores between digits, infinities and NaN, and a value that is not too large
for a `float64`. `Php.isNumeric` is `is_numeric` of PHP 7 : leading white space, a sign, a
decimal literal. `Php.intval` is the value `(int)` gives a string.

Both take a string of decimal digits (`Go.parseFloat_of_digits`, `Php.isNumeric_of_digits`)
and refuse one in which digits are followed by a character that no literal has there
(`Go.parseFloat_of_stop`, `Php.isNumeric_of_stop`).
-/

set_option autoImplicit false

/-- The text after an optional sign. -/
def dropSign : List Char → List Char
  | '+' :: cs => cs
  | '-' :: cs => cs
  | cs => cs

theorem dropSign_cons {c : Char} {cs : List Char} (hplus : c ≠ '+') (hminus : c ≠ '-') :
    dropSign (c :: cs) = c :: cs := by
  unfold dropSign
  split
  · exact absurd (List.cons.inj ‹_›).1 hplus
  · exact absurd (List.cons.inj ‹_›).1 hminus
  · rfl

theorem ofDigitChars_lt {ds : List Char} (h : ∀ c ∈ ds, c.isDigit = true) :
    Nat.ofDigitChars 10 ds 0 < 10 ^ ds.length := by
  induction ds with
  | nil => simp
  | cons c ds ih =>
    have hc : c.toNat - '0'.toNat ≤ 9 := by
      have hnine : '9'.toNat = 57 := rfl
      have hdigit := Char.isDigit_iff_toNat.1 (h c (by simp))
      have hzero : '0'.toNat = 48 := rfl
      omega
    have htail := ih fun c' hc' => h c' (List.mem_cons_of_mem _ hc')
    rw [Nat.ofDigitChars_cons, Nat.ofDigitChars_eq_ofDigitChars_zero, List.length_cons, Nat.pow_succ]
    have hhead : 10 ^ ds.length * (10 * 0 + (c.toNat - '0'.toNat)) ≤ 10 ^ ds.length * 9 :=
      Nat.mul_le_mul_left _ (by omega)
    omega

/-! ## Numbers as text -/

namespace Decimal

/-- A minus sign for a negative number, then digits. -/
theorem toList_toString (n : ℤ) :
    (toString n).toList = (if n < 0 then ['-'] else []) ++ Nat.toDigits 10 n.natAbs := by
  cases n with
  | ofNat k =>
    have hpos : ¬((k : ℤ) < 0) := by omega
    simp only [Int.ofNat_eq_natCast, if_neg hpos, List.nil_append, Int.natAbs_natCast]
    exact Nat.toList_repr
  | negSucc k =>
    have hneg : Int.negSucc k < 0 := Int.negSucc_lt_zero k
    simp only [if_pos hneg, Int.natAbs_negSucc]
    have happ : toString (Int.negSucc k) = "-" ++ (k + 1).repr := rfl
    rw [happ, String.toList_append, Nat.toList_repr]
    rfl

theorem isDigit_of_mem_toDigits {n : ℕ} {c : Char} (h : c ∈ Nat.toDigits 10 n) :
    c.isDigit = true :=
  Nat.isDigit_of_mem_toDigits (by omega) (by omega) h

/-- The text of a number has no zero before it. -/
theorem head?_toDigits {n : ℕ} (h : (Nat.toDigits 10 n).head? = some '0') : n = 0 := by
  induction n using Nat.strong_induction_on with
  | _ n ih =>
    rw [Nat.toDigits_eq_if (by omega)] at h
    split_ifs at h with hn
    · have hzero : ∀ k < 10, Nat.digitChar k = '0' → k = 0 := by decide
      exact hzero n hn (Option.some.inj h)
    · rw [List.head?_append_of_ne_nil _ Nat.toDigits_ne_nil] at h
      have := ih (n / 10) (by omega) h
      omega

/-- The text of a number is not empty, and all but its first character are digits. -/
theorem exists_cons_toString (n : ℤ) : ∃ c cs, (toString n).toList = c :: cs ∧
    (c = '-' ∨ c.isDigit = true) ∧ ∀ d ∈ cs, d.isDigit = true := by
  rw [toList_toString]
  split_ifs
  · exact ⟨'-', _, rfl, Or.inl rfl, fun d => isDigit_of_mem_toDigits⟩
  · rw [List.nil_append]
    cases hds : Nat.toDigits 10 n.natAbs with
    | nil => exact absurd hds Nat.toDigits_ne_nil
    | cons c cs =>
      have hall : ∀ d ∈ c :: cs, d.isDigit = true := by
        rw [← hds]
        exact fun d => isDigit_of_mem_toDigits
      exact ⟨c, cs, rfl, Or.inr (hall c (by simp)), fun d hd => hall d (List.mem_cons_of_mem c hd)⟩

/-- What follows the text of a number inside the text of another is digits. -/
theorem isDigit_of_append {a b : ℤ} {cs : List Char}
    (h : (toString b).toList = (toString a).toList ++ cs) : ∀ c ∈ cs, c.isDigit = true := by
  obtain ⟨x, xs, hx, -, -⟩ := exists_cons_toString a
  obtain ⟨y, ys, hy, -, hys⟩ := exists_cons_toString b
  rw [hx, hy, List.cons_append] at h
  intro c hc
  refine hys c ?_
  rw [(List.cons.inj h).2]
  exact List.mem_append_right xs hc

theorem toString_injective {a b : ℤ} (h : toString a = toString b) : a = b := by
  have hlist := congrArg String.toList h
  have hsign : ∀ {m n : ℕ}, '-' :: Nat.toDigits 10 m ≠ Nat.toDigits 10 n := by
    intro m n heq
    have hminus : '-'.isDigit = true := isDigit_of_mem_toDigits (n := n) (by simp [← heq])
    simp at hminus
  have habs : Nat.toDigits 10 a.natAbs = Nat.toDigits 10 b.natAbs → a.natAbs = b.natAbs := by
    intro hdigits
    have hvalue := congrArg (Nat.ofDigitChars 10 · 0) hdigits
    simpa [Nat.ofDigitChars_ten_toDigits] using hvalue
  rw [toList_toString, toList_toString] at hlist
  split_ifs at hlist with ha hb hb
  · have := habs (List.cons.inj hlist).2
    omega
  · exact absurd hlist hsign
  · exact absurd hlist.symm hsign
  · have := habs hlist
    omega

end Decimal

namespace Go

/-! ## `strconv.ParseFloat` -/

/-- The value of a digit. -/
def digitValue (hex : Bool) (c : Char) : Option ℕ :=
  if c.isDigit then some (c.toNat - '0'.toNat)
  else if hex && 'a' ≤ c.toLower && c.toLower ≤ 'f' then
    some (c.toLower.toNat - 'a'.toNat + 10)
  else none

/-- A mantissa as far as it was read. -/
structure Mantissa where
  value : ℕ := 0
  digits : ℕ := 0
  fraction : ℕ := 0
  point : Bool := false
  deriving DecidableEq, Repr

/-- One more digit. -/
def Mantissa.push (base d : ℕ) (m : Mantissa) : Mantissa where
  value := base * m.value + d
  digits := m.digits + 1
  fraction := if m.point then m.fraction + 1 else m.fraction
  point := m.point

/-- The digits, underscores and at most one point of a mantissa, and what follows. -/
def readMantissa (hex : Bool) (m : Mantissa) : List Char → Mantissa × List Char
  | [] => (m, [])
  | c :: cs =>
    if c = '_' then readMantissa hex m cs
    else if c = '.' then
      if m.point then (m, c :: cs) else readMantissa hex { m with point := true } cs
    else
      match digitValue hex c with
      | some d => readMantissa hex (m.push (if hex then 16 else 10) d) cs
      | none => (m, c :: cs)

/-- The value of an exponent. It is not read beyond five digits. -/
def exponentValue (cs : List Char) : ℕ :=
  cs.foldl (fun e c => if c.isDigit ∧ e < 10000 then 10 * e + (c.toNat - '0'.toNat) else e) 0

/-- An exponent that ends the text. -/
def readExponent (cs : List Char) : Option ℤ :=
  let ds := dropSign cs
  if (ds.head?.any Char.isDigit) && ds.all fun c => c.isDigit || c = '_' then
    some (if cs.head? = some '-' then -exponentValue ds else exponentValue ds)
  else none

/-- A number that was read : the digits without the point, the digits after it, and the
exponent. -/
structure Literal where
  hex : Bool
  value : ℕ
  fraction : ℕ
  exponent : ℤ
  deriving DecidableEq, Repr

/-- A number that ends the text, without sign and prefix. -/
def readNumber (hex : Bool) (cs : List Char) : Option Literal :=
  let (m, rest) := readMantissa hex {} cs
  if m.digits = 0 then none else
    match rest with
    | [] => if hex then none else some ⟨hex, m.value, m.fraction, 0⟩
    | c :: rest =>
      if c.toLower = (if hex then 'p' else 'e') then
        (readExponent rest).map fun e => ⟨hex, m.value, m.fraction, e⟩
      else none

/-- `readFloat`, on a text that is a number to its end. -/
def readFloat (cs : List Char) : Option Literal :=
  match dropSign cs with
  | '0' :: x :: c :: rest =>
    if x.toLower = 'x' then readNumber true (c :: rest) else readNumber false ('0' :: x :: c :: rest)
  | cs => readNumber false cs

/-- What `underscoreOK` saw last. -/
inductive Saw
  | start
  | digit
  | underscore
  | other
  deriving DecidableEq, Repr

/-- An underscore follows a digit and is followed by one. -/
def underscoreLoop (hex : Bool) : Saw → List Char → Bool
  | saw, [] => saw ≠ .underscore
  | saw, c :: cs =>
    if (digitValue hex c).isSome then underscoreLoop hex .digit cs
    else if c = '_' then saw = .digit && underscoreLoop hex .underscore cs
    else saw ≠ .underscore && underscoreLoop hex .other cs

/-- `underscoreOK`. The prefix of a base counts as a digit. -/
def underscoreOK (cs : List Char) : Bool :=
  match dropSign cs with
  | '0' :: x :: rest =>
    if x.toLower = 'b' ∨ x.toLower = 'o' ∨ x.toLower = 'x' then
      underscoreLoop (x.toLower = 'x') .digit rest
    else underscoreLoop false .start ('0' :: x :: rest)
  | cs => underscoreLoop false .start cs

/-- The least number that is rounded to an infinite `float64`. -/
def float64Limit : ℕ := 2 ^ 1024 - 2 ^ 970

/-- The number is not too large for a `float64`. -/
def Literal.inRange (x : Literal) : Bool :=
  let shift : ℤ := if x.hex then x.exponent - 4 * x.fraction else x.exponent - x.fraction
  let radix : ℕ := if x.hex then 2 else 10
  x.value * radix ^ shift.toNat < float64Limit * radix ^ (-shift).toNat

/-- `special` : an infinity or NaN. -/
def isSpecial (cs : List Char) : Bool :=
  let word := (dropSign cs).map Char.toLower
  word = "inf".toList || word = "infinity".toList || cs.map Char.toLower = "nan".toList

/-- `strconv.ParseFloat` returns no error. -/
def parseFloat (s : String) : Bool :=
  isSpecial s.toList ||
    (underscoreOK s.toList && (readFloat s.toList).any Literal.inRange)

variable {c : Char} {cs ds rest : List Char} {m : Mantissa} {s : String}

theorem digitValue_of_isDigit {hex : Bool} (h : c.isDigit = true) :
    digitValue hex c = some (c.toNat - '0'.toNat) := by
  simp [digitValue, h]

/-- Digits are read into the mantissa. -/
theorem readMantissa_digits (h : ∀ c ∈ ds, c.isDigit = true) :
    readMantissa false m (ds ++ rest) = readMantissa false
      { m with
        value := Nat.ofDigitChars 10 ds m.value
        digits := m.digits + ds.length
        fraction := if m.point then m.fraction + ds.length else m.fraction } rest := by
  induction ds generalizing m with
  | nil => simp
  | cons c ds ih =>
    have hc : c.isDigit = true := h c (by simp)
    have hunderscore : c ≠ '_' := by
      rintro rfl
      simp at hc
    have hpoint : c ≠ '.' := by
      rintro rfl
      simp at hc
    rw [List.cons_append, readMantissa, if_neg hunderscore, if_neg hpoint,
      digitValue_of_isDigit hc]
    dsimp only
    rw [ih fun c' hc' => h c' (List.mem_cons_of_mem _ hc')]
    congr 1
    simp only [Mantissa.push, Nat.ofDigitChars_cons, List.length_cons, Mantissa.mk.injEq, and_true]
    refine ⟨rfl, by omega, ?_⟩
    split_ifs
    · omega
    · rfl

theorem underscoreLoop_digits {saw : Saw} (h : ∀ c ∈ cs, c.isDigit = true)
    (hsaw : saw ≠ .underscore) : underscoreLoop false saw cs = true := by
  induction cs generalizing saw with
  | nil => simpa [underscoreLoop] using hsaw
  | cons c cs ih =>
    have hc : c.isDigit = true := h c (by simp)
    rw [underscoreLoop, digitValue_of_isDigit hc]
    exact ih (fun c' hc' => h c' (List.mem_cons_of_mem _ hc')) (by simp)

theorem toLower_of_isDigit (h : c.isDigit = true) : c.toLower = c := by
  have hnine : c.val ≤ '9'.val := by
    simp only [Char.isDigit, Bool.and_eq_true, decide_eq_true_eq] at h
    exact h.2
  unfold Char.toLower
  rw [dif_neg]
  rintro ⟨hle, -⟩
  have habs : 'A'.val ≤ '9'.val := UInt32.le_trans hle hnine
  revert habs
  decide

/-- The lower case of a digit is not a letter. -/
theorem toLower_ne (h : c.isDigit = true) {x : Char} (hx : x.isDigit = false) : c.toLower ≠ x := by
  rw [toLower_of_isDigit h]
  rintro rfl
  simp [h] at hx

/-- A text without sign and hexadecimal prefix is read as a decimal number. -/
theorem readFloat_of_decimal (hsign : dropSign cs = cs)
    (hhex : ∀ x rest, cs = '0' :: x :: rest → x.toLower ≠ 'x') :
    readFloat cs = readNumber false cs := by
  unfold readFloat
  rw [hsign]
  split
  · rw [if_neg (hhex _ _ rfl)]
  · rfl

/-- A string of decimal digits that is not too long is a number. -/
theorem parseFloat_of_digits (h : ∀ c ∈ s.toList, c.isDigit = true) (hne : s.toList ≠ [])
    (hlen : s.toList.length ≤ 256) : parseFloat s = true := by
  unfold parseFloat
  generalize s.toList = cs at h hne hlen
  have hsign : dropSign cs = cs := by
    cases cs with
    | nil => rfl
    | cons c cs =>
      have hc : c.isDigit = true := h c (by simp)
      refine dropSign_cons ?_ ?_ <;> rintro rfl <;> simp at hc
  have hsecond : ∀ x rest, cs = '0' :: x :: rest → ∀ y : Char, y.isDigit = false → x.toLower ≠ y := by
    rintro x rest rfl y hy
    exact toLower_ne (h x (by simp)) hy
  have hread : readFloat cs = some ⟨false, Nat.ofDigitChars 10 cs 0, 0, 0⟩ := by
    rw [readFloat_of_decimal hsign fun x rest hcs => hsecond x rest hcs 'x' rfl]
    have hmantissa : readMantissa false {} (cs ++ []) = _ := readMantissa_digits h
    rw [List.append_nil] at hmantissa
    simp [readNumber, hmantissa, readMantissa, hne]
  have hunderscore : underscoreOK cs = true := by
    unfold underscoreOK
    rw [hsign]
    split
    · rename_i x rest
      have hx := hsecond x rest rfl
      rw [if_neg (by simp [hx 'b' rfl, hx 'o' rfl, hx 'x' rfl])]
      exact underscoreLoop_digits h (by simp)
    · exact underscoreLoop_digits h (by simp)
  have hrange : (⟨false, Nat.ofDigitChars 10 cs 0, 0, 0⟩ : Literal).inRange = true := by
    have hlt := ofDigitChars_lt h
    have hpow : 10 ^ cs.length ≤ 10 ^ 256 := Nat.pow_le_pow_right (by omega) hlen
    have hlimit : 10 ^ 256 < float64Limit := by decide +kernel
    have hvalue : Nat.ofDigitChars 10 cs 0 < float64Limit := by omega
    simpa [Literal.inRange] using hvalue
  simp [hread, hunderscore, hrange]

/-- A character that no decimal number has after a digit or at its start. -/
def Stops (c : Char) : Prop :=
  c.isDigit = false ∧ c ∉ ['_', '.', '+', '-'] ∧ c.toLower ∉ ['e', 'x', 'i', 'n']

/-- Digits followed by such a character are no number. -/
theorem parseFloat_of_stop (h : ∀ c ∈ ds, c.isDigit = true) (hc : Stops c)
    (hs : s.toList = ds ++ c :: rest) : parseFloat s = false := by
  obtain ⟨hdigit, hmarks, hletters⟩ := hc
  simp only [List.mem_cons, List.not_mem_nil, or_false, not_or] at hmarks hletters
  obtain ⟨hunderscore, hpoint, hplus, hminus⟩ := hmarks
  obtain ⟨he, hx, hi, hn⟩ := hletters
  have hnil : readNumber false (ds ++ c :: rest) = none := by
    have hmantissa : readMantissa false {} (ds ++ c :: rest) = _ := readMantissa_digits h
    have hvalue : digitValue false c = none := by simp [digitValue, hdigit]
    rw [readMantissa, if_neg hunderscore, if_neg hpoint, hvalue] at hmantissa
    simp [readNumber, hmantissa, he]
  unfold parseFloat
  rw [hs]
  cases ds with
  | nil =>
    have hsign : dropSign (c :: rest) = c :: rest := dropSign_cons hplus hminus
    have hspecial : isSpecial (c :: rest) = false := by
      simp [isSpecial, hsign, hi, hn]
    have hread : readFloat (c :: rest) = none := by
      rw [readFloat_of_decimal hsign, ← List.nil_append (c :: rest), hnil]
      rintro x rest' hcs
      obtain ⟨rfl, -⟩ := List.cons.inj hcs
      simp at hdigit
    simp [hspecial, hread]
  | cons d ds =>
    have hd : d.isDigit = true := h d (by simp)
    have hsign : dropSign (d :: (ds ++ c :: rest)) = d :: (ds ++ c :: rest) := by
      refine dropSign_cons ?_ ?_ <;> rintro rfl <;> simp at hd
    have hspecial : isSpecial (d :: (ds ++ c :: rest)) = false := by
      have hi' : d.toLower ≠ 'i' := toLower_ne hd rfl
      have hn' : d.toLower ≠ 'n' := toLower_ne hd rfl
      simp [isSpecial, hsign, hi', hn']
    have hread : readFloat (d :: (ds ++ c :: rest)) = none := by
      rw [readFloat_of_decimal hsign, ← List.cons_append, hnil]
      rintro x rest' hcs
      cases ds with
      | nil =>
        obtain ⟨rfl, -⟩ := List.cons.inj (List.cons.inj hcs).2
        exact hx
      | cons d' ds =>
        obtain ⟨rfl, -⟩ := List.cons.inj (List.cons.inj hcs).2
        exact toLower_ne (h d' (by simp)) rfl
    simp [hspecial, hread]

end Go

namespace Php

/-! ## `is_numeric` -/

/-- White space that may lead a number. -/
def isSpace (c : Char) : Bool :=
  c ∈ [' ', '\t', '\n', '\r', '\x0b', '\x0c']

/-- The end of a number : nothing, or an exponent. -/
def isExponent : List Char → Bool
  | [] => true
  | c :: cs => (c = 'e' || c = 'E') && dropSign cs ≠ [] && (dropSign cs).all Char.isDigit

/-- `is_numeric`. -/
def isNumeric (s : String) : Bool :=
  let cs := dropSign (s.toList.dropWhile isSpace)
  let whole := cs.takeWhile Char.isDigit
  match cs.dropWhile Char.isDigit with
  | '.' :: rest =>
    (whole ≠ [] || rest.takeWhile Char.isDigit ≠ []) && isExponent (rest.dropWhile Char.isDigit)
  | rest => whole ≠ [] && isExponent rest

variable {c : Char} {ds rest : List Char} {s : String}

theorem isSpace_of_isDigit (h : c.isDigit = true) : isSpace c = false := by
  simp only [isSpace, decide_eq_false_iff_not, List.mem_cons, List.not_mem_nil, or_false]
  rintro (rfl | rfl | rfl | rfl | rfl | rfl) <;> simp at h

theorem dropSign_dropWhile_isSpace {cs : List Char} (hspace : isSpace c = false) (hplus : c ≠ '+')
    (hminus : c ≠ '-') : dropSign ((c :: cs).dropWhile isSpace) = c :: cs := by
  rw [List.dropWhile_cons_of_neg (by simpa using hspace), dropSign_cons hplus hminus]

/-- A string of digits is a number. -/
theorem isNumeric_of_digits (h : ∀ c ∈ s.toList, c.isDigit = true) (hne : s.toList ≠ []) :
    isNumeric s = true := by
  unfold isNumeric
  generalize s.toList = cs at h hne
  cases cs with
  | nil => exact absurd rfl hne
  | cons c cs =>
    have hc : c.isDigit = true := h c (by simp)
    have hdrop : dropSign ((c :: cs).dropWhile isSpace) = c :: cs := by
      refine dropSign_dropWhile_isSpace (isSpace_of_isDigit hc) ?_ ?_ <;> rintro rfl <;> simp at hc
    have hwhole : (c :: cs).takeWhile Char.isDigit = c :: cs := List.takeWhile_eq_self_iff.2 h
    have hrest : (c :: cs).dropWhile Char.isDigit = [] := List.dropWhile_eq_nil_iff.2 h
    dsimp only
    rw [hdrop, hwhole, hrest]
    rfl

/-- A character that no number has after a digit or at its start. -/
def Stops (c : Char) : Prop :=
  c.isDigit = false ∧ isSpace c = false ∧ c ∉ ['.', '+', '-', 'e', 'E']

/-- Digits followed by such a character are no number. -/
theorem isNumeric_of_stop (h : ∀ c ∈ ds, c.isDigit = true) (hc : Stops c)
    (hs : s.toList = ds ++ c :: rest) : isNumeric s = false := by
  obtain ⟨hdigit, hspace, hmarks⟩ := hc
  simp only [List.mem_cons, List.not_mem_nil, or_false, not_or] at hmarks
  obtain ⟨hpoint, hplus, hminus, he, hE⟩ := hmarks
  have hdrop : dropSign ((ds ++ c :: rest).dropWhile isSpace) = ds ++ c :: rest := by
    cases ds with
    | nil => exact dropSign_dropWhile_isSpace hspace hplus hminus
    | cons d ds =>
      have hd : d.isDigit = true := h d (by simp)
      refine dropSign_dropWhile_isSpace (isSpace_of_isDigit hd) ?_ ?_ <;> rintro rfl <;> simp at hd
  have hrest : (ds ++ c :: rest).dropWhile Char.isDigit = c :: rest := by
    rw [List.dropWhile_append_of_pos h, List.dropWhile_cons_of_neg (by simp [hdigit])]
  unfold isNumeric
  rw [hs]
  dsimp only
  rw [hdrop, hrest]
  split
  · exact absurd (List.cons.inj ‹_›).1 hpoint
  · simp [isExponent, he, hE]

/-! ## `(int)` on a string -/

/-- A fraction to the nearest whole number, to the even one if there are two. -/
def roundEven (n d : ℕ) : ℕ :=
  if 2 * (n % d) < d then n / d
  else if d < 2 * (n % d) then n / d + 1
  else n / d + n / d % 2

/-- The whole part of a fraction that was rounded to a `float64`. -/
def wholeOfDouble (n d : ℕ) : ℕ :=
  let k := (n / d).log2
  if n < d then roundEven (n * 2 ^ 53) d / 2 ^ 53
  else if k ≤ 52 then roundEven (n * 2 ^ (52 - k)) d / 2 ^ (52 - k)
  else roundEven n (d * 2 ^ (k - 52)) * 2 ^ (k - 52)

/-- The exponent a text starts with. -/
def exponentOf : List Char → Option ℤ
  | [] => none
  | c :: cs =>
    let ds := (dropSign cs).takeWhile Char.isDigit
    if (c = 'e' || c = 'E') && ds ≠ [] then
      let value : ℤ := Nat.ofDigitChars 10 ds 0
      some (if cs.head? = some '-' then -value else value)
    else none

/-- The size of the number a text starts with, which is rounded if it is no integer literal. -/
def sizeOf (cs : List Char) : ℕ :=
  let whole := cs.takeWhile Char.isDigit
  let behind := cs.dropWhile Char.isDigit
  let point := behind.head? = some '.'
  let fraction := if point then behind.tail.takeWhile Char.isDigit else []
  let rest := if point then behind.tail.dropWhile Char.isDigit else behind
  if whole = [] ∧ fraction = [] then 0
  else if point ∨ exponentOf rest ≠ none then
    let shift := (exponentOf rest).getD 0 - fraction.length
    wholeOfDouble (Nat.ofDigitChars 10 (whole ++ fraction) 0 * 10 ^ shift.toNat)
      (10 ^ (-shift).toNat)
  else Nat.ofDigitChars 10 whole 0

/-- `(int)` of PHP 7 on a string : the number it starts with, cut off at the least and the
greatest 64 bit integer. -/
def intval (s : String) : ℤ :=
  let cs := s.toList.dropWhile isSpace
  if cs.head? = some '-' then -(min (sizeOf (dropSign cs)) (2 ^ 63) : ℕ)
  else (min (sizeOf (dropSign cs)) (2 ^ 63 - 1) : ℕ)

/-- A number in decimal is read as it is, up to the greatest integer. -/
theorem intval_toString (n : ℕ) : intval (toString n) = (min n (2 ^ 63 - 1) : ℕ) := by
  have hlist : (toString n).toList = Nat.toDigits 10 n := Nat.toList_repr
  have hdigits : ∀ c ∈ Nat.toDigits 10 n, c.isDigit = true := fun c => Decimal.isDigit_of_mem_toDigits
  have hvalue := Nat.ofDigitChars_ten_toDigits (n := n)
  unfold intval
  rw [hlist]
  cases hds : Nat.toDigits 10 n with
  | nil => exact absurd hds Nat.toDigits_ne_nil
  | cons c cs =>
    rw [hds] at hdigits hvalue
    have hc : c.isDigit = true := hdigits c List.mem_cons_self
    have hminus : c ≠ '-' := by
      rintro rfl
      simp at hc
    have hplus : c ≠ '+' := by
      rintro rfl
      simp at hc
    have hskip : (c :: cs).dropWhile isSpace = c :: cs :=
      List.dropWhile_cons_of_neg (by simp [isSpace_of_isDigit hc])
    have hsize : sizeOf (c :: cs) = n := by
      have hwhole : (c :: cs).takeWhile Char.isDigit = c :: cs := List.takeWhile_eq_self_iff.2 hdigits
      have hbehind : (c :: cs).dropWhile Char.isDigit = [] := List.dropWhile_eq_nil_iff.2 hdigits
      simp [sizeOf, hwhole, hbehind, exponentOf, hvalue]
    dsimp only
    rw [hskip, dropSign_cons hplus hminus, hsize]
    simp [hminus]

end Php
