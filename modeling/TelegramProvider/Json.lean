import Mathlib.Data.List.DropRight
import TelegramProvider.Numerals

/-!
# Flat objects in JSON

Objects whose values are strings, integers or null, as PHP writes them : `Json.encode` is
`json_encode` with `JSON_PRETTY_PRINT`, `JSON_UNESCAPED_SLASHES` and `JSON_UNESCAPED_UNICODE`.
`Json.decode` reads such an object. It gives back what was written (`decode_encode`).
-/

set_option autoImplicit false

namespace Json

/-- A value of a member. -/
inductive Value
  | null
  | int (n : ℤ)
  | str (s : String)
  deriving DecidableEq, Repr

/-- The members of an object, in their order. -/
abbrev Fields := List (String × Value)

/-! ## Writing -/

/-- Escape a character. The line separators of Unicode are escaped too. -/
def escapeChar (c : Char) : List Char :=
  if c = '"' then ['\\', '"']
  else if c = '\\' then ['\\', '\\']
  else if c = '\x08' then ['\\', 'b']
  else if c = '\x0c' then ['\\', 'f']
  else if c = '\n' then ['\\', 'n']
  else if c = '\r' then ['\\', 'r']
  else if c = '\t' then ['\\', 't']
  else if c.toNat < 32 then
    ['\\', 'u', '0', '0', Nat.digitChar (c.toNat / 16), Nat.digitChar (c.toNat % 16)]
  else if c.toNat = 0x2028 then ['\\', 'u', '2', '0', '2', '8']
  else if c.toNat = 0x2029 then ['\\', 'u', '2', '0', '2', '9']
  else [c]

/-- A string in quotes. -/
def quote (s : String) : List Char :=
  '"' :: (s.toList.flatMap escapeChar ++ ['"'])

/-- A value as text. -/
def Value.text : Value → List Char
  | .null => ['n', 'u', 'l', 'l']
  | .int n => (toString n).toList
  | .str s => quote s

/-- A member on a line of its own. -/
def member (field : String × Value) : List Char :=
  '\n' :: ' ' :: ' ' :: ' ' :: ' ' :: (quote field.1 ++ ':' :: ' ' :: field.2.text)

/-- The members after the first. -/
def members (fields : Fields) : List Char :=
  fields.flatMap fun field => ',' :: member field

/-- `json_encode`. -/
def encode : Fields → String
  | [] => "{}"
  | field :: fields =>
    String.ofList ('{' :: (member field ++ (members fields ++ ['\n', '}'])))

/-! ## Reading -/

/-- White space between tokens. -/
def isSpace (c : Char) : Bool :=
  c = ' ' || c = '\n' || c = '\r' || c = '\t'

/-- The text without white space before it. -/
def skip (cs : List Char) : List Char :=
  cs.dropWhile isSpace

/-- The text behind a token. -/
def expect (c : Char) (cs : List Char) : Option (List Char) :=
  match skip cs with
  | [] => none
  | d :: cs => if d = c then some cs else none

/-- A hexadecimal digit. -/
def hexValue (c : Char) : Option ℕ :=
  if c.isDigit then some (c.toNat - '0'.toNat)
  else if 'a' ≤ c ∧ c ≤ 'f' then some (c.toNat - 'a'.toNat + 10)
  else if 'A' ≤ c ∧ c ≤ 'F' then some (c.toNat - 'A'.toNat + 10)
  else none

/-- The character with a number of four digits. Halves of pairs are not read. -/
def readHex (a b c d : Char) : Option Char := do
  let n := (((← hexValue a) * 16 + (← hexValue b)) * 16 + (← hexValue c)) * 16 + (← hexValue d)
  if 0xd800 ≤ n ∧ n ≤ 0xdfff then none else some (Char.ofNat n)

/-- The character a backslash and a letter stand for. -/
def unescape (c : Char) : Option Char :=
  if c = '"' ∨ c = '\\' ∨ c = '/' then some c
  else if c = 'b' then some '\x08'
  else if c = 'f' then some '\x0c'
  else if c = 'n' then some '\n'
  else if c = 'r' then some '\r'
  else if c = 't' then some '\t'
  else none

/-- A string behind its first quote, and what follows it. -/
def readString : List Char → Option (List Char × List Char)
  | [] => none
  | c :: cs =>
    if c = '"' then some ([], cs)
    else if c = '\\' then
      match cs with
      | [] => none
      | e :: cs =>
        if e = 'u' then
          match cs with
          | h₁ :: h₂ :: h₃ :: h₄ :: cs =>
            (readHex h₁ h₂ h₃ h₄).bind fun c => (readString cs).map fun p => (c :: p.1, p.2)
          | _ => none
        else (unescape e).bind fun c => (readString cs).map fun p => (c :: p.1, p.2)
    else if c.toNat < 32 then none
    else (readString cs).map fun p => (c :: p.1, p.2)

/-- An integer, and what follows it. -/
def readInt (cs : List Char) : Option (ℤ × List Char) :=
  let neg := cs.head? = some '-'
  let ds := (if neg then cs.tail else cs).takeWhile Char.isDigit
  let rest := (if neg then cs.tail else cs).dropWhile Char.isDigit
  if ds = [] ∨ (ds.head? = some '0' ∧ ds ≠ ['0']) then none else
    let value : ℤ := Nat.ofDigitChars 10 ds 0
    some (if neg then -value else value, rest)

/-- A value, and what follows it. -/
def readValue (cs : List Char) : Option (Value × List Char) :=
  match cs with
  | '"' :: cs => (readString cs).map fun (text, rest) => (.str (String.ofList text), rest)
  | 'n' :: 'u' :: 'l' :: 'l' :: rest => some (.null, rest)
  | cs => (readInt cs).map fun (n, rest) => (.int n, rest)

/-- A member, and what follows it. -/
def readMember (cs : List Char) : Option ((String × Value) × List Char) := do
  let cs ← expect '"' cs
  let (key, cs) ← readString cs
  let cs ← expect ':' cs
  let (value, cs) ← readValue (skip cs)
  some ((String.ofList key, value), cs)

/-- The members after the first, to the end of the object. -/
def readMembers : ℕ → List Char → Option Fields
  | 0, _ => none
  | fuel + 1, cs =>
    match skip cs with
    | ',' :: cs => do
      let (field, cs) ← readMember cs
      let fields ← readMembers fuel cs
      some (field :: fields)
    | '}' :: cs => if skip cs = [] then some [] else none
    | _ => none

/-- The members of the object a text is. -/
def decode (s : String) : Option Fields := do
  let cs ← expect '{' s.toList
  match skip cs with
  | '}' :: cs => if skip cs = [] then some [] else none
  | cs => do
    let (field, cs) ← readMember cs
    let fields ← readMembers (cs.length + 1) cs
    some (field :: fields)

/-! ## The round trip -/

variable {c : Char} {cs rest : List Char} {fields : Fields} {fuel : ℕ}

theorem hexValue_digitChar : ∀ n < 16, hexValue (Nat.digitChar n) = some n := by
  decide

theorem readString_quote (cs : List Char) : readString ('"' :: cs) = some ([], cs) := by
  rw [readString.eq_def]
  simp

theorem readString_escape {e : Char} (he : unescape e = some c) (hu : e ≠ 'u') :
    readString ('\\' :: e :: cs) = (readString cs).map fun p => (c :: p.1, p.2) := by
  rw [readString.eq_def]
  simp [he, hu]

theorem readString_hex {h₁ h₂ h₃ h₄ : Char} (hc : readHex h₁ h₂ h₃ h₄ = some c) :
    readString ('\\' :: 'u' :: h₁ :: h₂ :: h₃ :: h₄ :: cs) =
      (readString cs).map fun p => (c :: p.1, p.2) := by
  rw [readString.eq_def]
  simp [hc]

theorem readString_plain (hquote : c ≠ '"') (hback : c ≠ '\\') (hcontrol : ¬c.toNat < 32) :
    readString (c :: cs) = (readString cs).map fun p => (c :: p.1, p.2) := by
  rw [readString.eq_def]
  dsimp only
  rw [if_neg hquote, if_neg hback, if_neg hcontrol]

/-- The escape of a character is read as the character. -/
theorem readString_escapeChar (c : Char) (rest : List Char) :
    readString (escapeChar c ++ rest) = (readString rest).map fun p => (c :: p.1, p.2) := by
  unfold escapeChar
  by_cases hquote : c = '"'
  · subst hquote
    exact readString_escape rfl (by decide)
  rw [if_neg hquote]
  by_cases hback : c = '\\'
  · subst hback
    exact readString_escape rfl (by decide)
  rw [if_neg hback]
  by_cases hb : c = '\x08'
  · subst hb
    exact readString_escape rfl (by decide)
  rw [if_neg hb]
  by_cases hf : c = '\x0c'
  · subst hf
    exact readString_escape rfl (by decide)
  rw [if_neg hf]
  by_cases hn : c = '\n'
  · subst hn
    exact readString_escape rfl (by decide)
  rw [if_neg hn]
  by_cases hr : c = '\r'
  · subst hr
    exact readString_escape rfl (by decide)
  rw [if_neg hr]
  by_cases ht : c = '\t'
  · subst ht
    exact readString_escape rfl (by decide)
  rw [if_neg ht]
  by_cases hcontrol : c.toNat < 32
  · rw [if_pos hcontrol]
    have hhigh := hexValue_digitChar (c.toNat / 16) (by omega)
    have hlow := hexValue_digitChar (c.toNat % 16) (by omega)
    have hzero : hexValue '0' = some 0 := rfl
    have hvalue : c.toNat / 16 * 16 + c.toNat % 16 = c.toNat := by omega
    have hpair : ¬(0xd800 ≤ c.toNat ∧ c.toNat ≤ 0xdfff) := by omega
    exact readString_hex (by simp [readHex, hzero, hhigh, hlow, hvalue, hpair])
  rw [if_neg hcontrol]
  by_cases h8 : c.toNat = 0x2028
  · rw [if_pos h8]
    refine readString_hex ?_
    rw [← Char.ofNat_toNat c, h8]
    rfl
  rw [if_neg h8]
  by_cases h9 : c.toNat = 0x2029
  · rw [if_pos h9]
    refine readString_hex ?_
    rw [← Char.ofNat_toNat c, h9]
    rfl
  rw [if_neg h9]
  exact readString_plain hquote hback hcontrol

theorem readString_escaped (cs rest : List Char) :
    readString (cs.flatMap escapeChar ++ '"' :: rest) = some (cs, rest) := by
  induction cs with
  | nil => exact readString_quote rest
  | cons c cs ih =>
    rw [List.flatMap_cons, List.append_assoc, readString_escapeChar, ih]
    rfl

/-- An integer is read up to a character that is no digit. -/
theorem readInt_toString (n : ℤ) (h : ∀ c ∈ rest.head?, c.isDigit = false) :
    readInt ((toString n).toList ++ rest) = some (n, rest) := by
  have hdigits : ∀ c ∈ Nat.toDigits 10 n.natAbs, c.isDigit = true := fun c =>
    Decimal.isDigit_of_mem_toDigits
  have htake : (Nat.toDigits 10 n.natAbs ++ rest).takeWhile Char.isDigit =
      Nat.toDigits 10 n.natAbs := by
    rw [List.takeWhile_append_of_pos hdigits]
    cases rest with
    | nil => simp
    | cons c rest => simp [h c rfl]
  have hdrop : (Nat.toDigits 10 n.natAbs ++ rest).dropWhile Char.isDigit = rest := by
    rw [List.dropWhile_append_of_pos hdigits]
    cases rest with
    | nil => simp
    | cons c rest => simp [h c rfl]
  have hlead : ¬(Nat.toDigits 10 n.natAbs = [] ∨ ((Nat.toDigits 10 n.natAbs).head? = some '0' ∧
      Nat.toDigits 10 n.natAbs ≠ ['0'])) := by
    rintro (hnil | ⟨hzero, hne⟩)
    · exact Nat.toDigits_ne_nil hnil
    · exact hne (by simp [Decimal.head?_toDigits hzero])
  have hvalue := Nat.ofDigitChars_ten_toDigits (n := n.natAbs)
  rw [Decimal.toList_toString]
  unfold readInt
  by_cases hneg : n < 0
  · rw [if_pos hneg]
    simp only [List.cons_append, List.nil_append, List.head?_cons, List.tail_cons, if_true, htake,
      hdrop, if_neg hlead, hvalue]
    have habs : -(n.natAbs : ℤ) = n := by omega
    rw [habs]
  · have hhead : (Nat.toDigits 10 n.natAbs ++ rest).head? ≠ some '-' := by
      rw [List.head?_append_of_ne_nil _ Nat.toDigits_ne_nil]
      intro hminus
      have hmem := hdigits '-' (List.mem_of_head? hminus)
      simp at hmem
    rw [if_neg hneg]
    simp only [List.nil_append, hhead, if_false, htake, hdrop, if_neg hlead, hvalue]
    have habs : (n.natAbs : ℤ) = n := by omega
    rw [habs]

/-- A value is read up to the character behind it. -/
theorem readValue_text (value : Value) (h : ∀ c ∈ rest.head?, c.isDigit = false) :
    readValue (value.text ++ rest) = some (value, rest) := by
  cases value with
  | null => rfl
  | int n =>
    obtain ⟨c, cs, hcs, hc, -⟩ := Decimal.exists_cons_toString n
    have hread := readInt_toString n h
    rw [Value.text]
    rw [hcs, List.cons_append] at hread ⊢
    unfold readValue
    split
    · simp_all
    · simp_all
    · rw [hread]
      rfl
  | str s =>
    have htext : (Value.str s).text ++ rest = '"' :: (s.toList.flatMap escapeChar ++ '"' :: rest) := by
      simp [Value.text, quote]
    rw [htext, readValue, readString_escaped]
    simp

/-- A value does not start with white space. -/
theorem exists_cons_text (value : Value) : ∃ c cs, value.text = c :: cs ∧ isSpace c = false := by
  cases value with
  | null => exact ⟨'n', _, rfl, rfl⟩
  | int n =>
    obtain ⟨c, cs, hcs, hc, -⟩ := Decimal.exists_cons_toString n
    refine ⟨c, cs, hcs, ?_⟩
    simp only [isSpace, Bool.or_eq_false_iff, decide_eq_false_iff_not]
    refine ⟨⟨⟨?_, ?_⟩, ?_⟩, ?_⟩ <;> rintro rfl <;> simp at hc
  | str s => exact ⟨'"', _, rfl, rfl⟩

/-- A member is read up to the character behind it. -/
theorem readMember_member (field : String × Value) (h : ∀ c ∈ rest.head?, c.isDigit = false) :
    readMember (member field ++ rest) = some (field, rest) := by
  have hkey : expect '"' (member field ++ rest) =
      some (field.1.toList.flatMap escapeChar ++ '"' :: (':' :: ' ' :: (field.2.text ++ rest))) := by
    simp [member, expect, skip, isSpace, quote]
  have hvalue : skip (' ' :: (field.2.text ++ rest)) = field.2.text ++ rest := by
    obtain ⟨c, cs, hcs, hc⟩ := exists_cons_text field.2
    simp only [skip, hcs, List.cons_append]
    rw [List.dropWhile_cons_of_pos rfl, List.dropWhile_cons_of_neg (by simp [hc])]
  have hcolon : expect ':' (':' :: ' ' :: (field.2.text ++ rest)) =
      some (' ' :: (field.2.text ++ rest)) := rfl
  unfold readMember
  simp only [hkey, readString_escaped, hcolon, hvalue, readValue_text _ h, Option.bind_eq_bind,
    Option.bind_some, String.ofList_toList]

/-- The members are read to the end of the object. -/
theorem readMembers_members (hfuel : fields.length < fuel) :
    readMembers fuel (members fields ++ ['\n', '}']) = some fields := by
  induction fields generalizing fuel with
  | nil =>
    cases fuel with
    | zero => omega
    | succ fuel => rfl
  | cons field fields ih =>
    cases fuel with
    | zero => omega
    | succ fuel =>
      have hnext : ∀ c ∈ (members fields ++ ['\n', '}']).head?, c.isDigit = false := by
        cases fields <;> simp [members]
      have hskip : skip (members (field :: fields) ++ ['\n', '}']) =
          ',' :: (member field ++ (members fields ++ ['\n', '}'])) := by
        simp [members, skip, isSpace]
      rw [readMembers, hskip]
      simp only [readMember_member field hnext, Option.bind_eq_bind, Option.bind_some,
        ih (by simpa using hfuel)]

theorem readMember_skip (cs : List Char) : readMember (skip cs) = readMember cs := by
  have hskip : skip (skip cs) = skip cs := List.dropWhile_idempotent _ _
  unfold readMember expect
  rw [hskip]

theorem length_le_members (fields : Fields) : fields.length ≤ (members fields).length := by
  induction fields with
  | nil => simp
  | cons field fields ih =>
    simp only [members, List.flatMap_cons, List.length_append, List.length_cons] at ih ⊢
    omega

/-- What is written can be read. -/
theorem decode_encode (fields : Fields) : decode (encode fields) = some fields := by
  cases fields with
  | nil => rfl
  | cons field fields =>
    have hopen : expect '{' (encode (field :: fields)).toList =
        some (member field ++ (members fields ++ ['\n', '}'])) := by
      simp [encode, expect, skip, isSpace]
    have hnext : ∀ c ∈ (members fields ++ ['\n', '}']).head?, c.isDigit = false := by
      cases fields <;> simp [members]
    have hread := readMember_member field hnext
    have hfuel : fields.length < (members fields ++ ['\n', '}']).length + 1 := by
      have := length_le_members fields
      rw [List.length_append]
      omega
    have hskip : skip (member field ++ (members fields ++ ['\n', '}'])) =
        '"' :: (field.1.toList.flatMap escapeChar ++ '"' :: (':' :: ' ' :: (field.2.text ++
          (members fields ++ ['\n', '}'])))) := by
      simp [member, skip, isSpace, quote]
    rw [← readMember_skip, hskip] at hread
    unfold decode
    simp only [hopen, hskip, Option.bind_eq_bind, Option.bind_some]
    split
    · exact absurd (List.cons.inj ‹_›).1 (by decide)
    · rw [hread, Option.bind_some]
      dsimp only
      rw [readMembers_members hfuel, Option.bind_some]

end Json
