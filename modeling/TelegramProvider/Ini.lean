import Mathlib.Data.List.Chain
import TelegramProvider.CStrings

/-!
# INI files

Files of sections with `name=value` lines, as the parser inih reads them, and its `INIReader`. The
file is read in lines of at most 199 bytes. White space around a value is not part of it, nor is
what follows a semicolon behind white space. A line that starts with white space goes on with the
value of the line before, and a name that comes again gets its values on lines of their own.

`readLine_value` is what a `name=value` line does, and `valueOf_eq_self_iff` says which values are
read as they are written.
-/

set_option autoImplicit false

namespace Ini

open C

/-! ## The parser -/

/-- `rstrip`. -/
def rstrip (bs : Bytes) : Bytes := bs.rdropWhile isSpace

/-- `lskip`. -/
def lskip (bs : Bytes) : Bytes := bs.dropWhile isSpace

/-- `find_chars_or_comment` : the text before the first of some bytes or of a comment, and the text
from there. A comment is a semicolon behind white space. -/
def findCharsOrComment (chars : Bytes) (wasSpace : Bool) : Bytes → Bytes × Bytes
  | [] => ([], [])
  | b :: bs =>
    if b ∈ chars ∨ (wasSpace = true ∧ b = byte ';') then ([], b :: bs)
    else
      let (before, rest) := findCharsOrComment chars (isSpace b) bs
      (b :: before, rest)

/-- What `ini_parse_stream` and the `INIReader` remember : the section, the last name, the number of
the line and of the first that is wrong, and the values. -/
structure State where
  sectionName : Bytes := []
  prevName : Bytes := []
  lineno : ℕ := 0
  error : ℕ := 0
  values : Bytes → Option Bytes := fun _ => none

/-- `MakeKey`. -/
def makeKey (sectionName name : Bytes) : Bytes :=
  (sectionName ++ byte '=' :: name).map toLower

/-- `ValueHandler`. -/
def valueHandler (name value : Bytes) (s : State) : State :=
  let key := makeKey s.sectionName name
  let old := (s.values key).getD []
  let new := if old = [] then value else old ++ byte '\n' :: value
  { s with values := Function.update s.values key (some new) }

/-- The line is wrong. -/
def State.fail (s : State) : State :=
  if s.error = 0 then { s with error := s.lineno } else s

/-- The text before an inline comment, without white space at its end. -/
def cut (bs : Bytes) : Bytes :=
  rstrip (findCharsOrComment [] false bs).1

/-- One round of the loop in `ini_parse_stream`. -/
def readLine (s : State) (line : Bytes) : State :=
  let s := { s with lineno := s.lineno + 1 }
  let line := cString line
  let bom := s.lineno = 1 && [0xEF, 0xBB, 0xBF].isPrefixOf line
  let stripped := rstrip (if bom then line.drop 3 else line)
  let start := lskip stripped
  if start.head? = some (byte ';') ∨ start.head? = some (byte '#') then s
  -- the start of the line has moved : it goes on with the last value
  else if s.prevName ≠ [] ∧ start ≠ [] ∧ (bom || stripped.head?.any isSpace) then
    valueHandler s.prevName (cut start) s
  else if start.head? = some (byte '[') then
    let (name, rest) := findCharsOrComment [byte ']'] false start.tail
    if rest.head? = some (byte ']') then { s with sectionName := name.take 49, prevName := [] }
    else s.fail
  else if start ≠ [] then
    let (name, rest) := findCharsOrComment [byte '=', byte ':'] false start
    if rest.head? = some (byte '=') ∨ rest.head? = some (byte ':') then
      valueHandler (rstrip name) (cut (lskip rest.tail)) { s with prevName := (rstrip name).take 49 }
    else s.fail
  else s

/-- The lines `fgets` gives, with room for some bytes each. `line` is what it has read of one. -/
def fgets (room : ℕ) (line : Bytes) : Bytes → List Bytes
  | [] => if line = [] then [] else [line]
  | b :: bs =>
    if b = byte '\n' ∨ line.length + 1 = room then (line ++ [b]) :: fgets room [] bs
    else fgets room (line ++ [b]) bs

/-- `ini_parse_stream`, with lines of `INI_MAX_LINE - 1` bytes. -/
def feed (s : State) (file : Bytes) : State :=
  (fgets 199 [] file).foldl readLine s

/-- `ini_parse`. -/
def parse (file : Bytes) : State :=
  feed {} file

/-- `INIReader::Get`. -/
def State.get (sectionName name defaultValue : Bytes) (s : State) : Bytes :=
  (s.values (makeKey sectionName name)).getD defaultValue

/-- `INIReader::GetInteger`. -/
def State.getInteger (sectionName name : Bytes) (defaultValue : ℤ) (s : State) : ℤ :=
  (strtol (s.get sectionName name [])).getD defaultValue

/-- The words for true and for false. -/
def trueWords : List Bytes := ["true", "yes", "on", "1"].map bytesOf

def falseWords : List Bytes := ["false", "no", "off", "0"].map bytesOf

/-- What a word says, in lower case. -/
def wordValue (defaultValue : Bool) (word : Bytes) : Bool :=
  if word ∈ trueWords then true else if word ∈ falseWords then false else defaultValue

/-- `INIReader::GetBoolean`. -/
def State.getBoolean (sectionName name : Bytes) (defaultValue : Bool) (s : State) : Bool :=
  wordValue defaultValue ((s.get sectionName name []).map toLower)

/-! ## Lines -/

section

variable {room : ℕ} {line bs rest : Bytes}

theorem fgets_append (bs rest : Bytes) : fgets room line (bs ++ byte '\n' :: rest) =
    fgets room line (bs ++ [byte '\n']) ++ fgets room [] rest := by
  induction bs generalizing line with
  | nil => simp [fgets]
  | cons b bs ih =>
    rw [List.cons_append, List.cons_append, fgets, fgets]
    split_ifs
    · rw [ih, List.cons_append]
    · exact ih

/-- A line that fits. -/
theorem fgets_line (h : byte '\n' ∉ bs) (hroom : line.length + bs.length < room) :
    fgets room line (bs ++ byte '\n' :: rest) = (line ++ bs ++ [byte '\n']) :: fgets room [] rest := by
  induction bs generalizing line with
  | nil => simp [fgets]
  | cons b bs ih =>
    have hb : byte '\n' ≠ b := List.ne_of_not_mem_cons h
    have hbs : byte '\n' ∉ bs := List.not_mem_of_not_mem_cons h
    rw [List.length_cons] at hroom
    have hnext : ¬(b = byte '\n' ∨ line.length + 1 = room) := by
      rintro (heq | hfull)
      · exact hb heq.symm
      · omega
    rw [List.cons_append, fgets, if_neg hnext, ih hbs (by simp; omega)]
    simp

/-- A line that fills the room is given without its line feed. -/
theorem fgets_full (h : byte '\n' ∉ bs) (hne : bs ≠ []) (hroom : line.length + bs.length = room) :
    fgets room line (bs ++ rest) = (line ++ bs) :: fgets room [] rest := by
  induction bs generalizing line with
  | nil => exact absurd rfl hne
  | cons b bs ih =>
    have hb : byte '\n' ≠ b := List.ne_of_not_mem_cons h
    have hbs : byte '\n' ∉ bs := List.not_mem_of_not_mem_cons h
    rw [List.length_cons] at hroom
    rw [List.cons_append, fgets]
    cases bs with
    | nil =>
      rw [if_pos (Or.inr (by simpa using hroom))]
      rfl
    | cons b' bs =>
      rw [List.length_cons] at hroom
      have hnext : ¬(b = byte '\n' ∨ line.length + 1 = room) := by
        rintro (heq | hfull)
        · exact hb heq.symm
        · omega
      rw [if_neg hnext, ih hbs (by simp) (by simp; omega)]
      simp

/-- The lines are made of the bytes of the file. -/
theorem mem_of_mem_fgets {l : Bytes} {b : UInt8} (hl : l ∈ fgets room line bs) (hb : b ∈ l) :
    b ∈ line ∨ b ∈ bs := by
  induction bs generalizing line with
  | nil =>
    rw [fgets] at hl
    split_ifs at hl
    · exact absurd hl List.not_mem_nil
    · rw [List.mem_singleton.1 hl] at hb
      exact Or.inl hb
  | cons c bs ih =>
    have hpart : b ∈ line ++ [c] → b ∈ line ∨ b ∈ c :: bs := by
      intro hmem
      rcases List.mem_append.1 hmem with hmem | hmem
      · exact Or.inl hmem
      · exact Or.inr (List.mem_singleton.1 hmem ▸ List.mem_cons_self)
    rw [fgets] at hl
    split_ifs at hl
    · rcases List.mem_cons.1 hl with rfl | hl
      · exact hpart hb
      · rcases ih hl with hnil | hbs
        · exact absurd hnil List.not_mem_nil
        · exact Or.inr (List.mem_cons_of_mem _ hbs)
    · rcases ih hl with hline | hbs
      · exact hpart hline
      · exact Or.inr (List.mem_cons_of_mem _ hbs)

theorem fgets_flatten (room : ℕ) (line bs : Bytes) : (fgets room line bs).flatten = line ++ bs := by
  induction bs generalizing line with
  | nil =>
    rw [fgets]
    split_ifs with hnil
    · simp [hnil]
    · simp
  | cons b bs ih =>
    rw [fgets]
    split_ifs
    · simp [ih]
    · simp [ih]

/-- A line has at most one line feed, at its end. -/
theorem exists_of_mem_fgets {l : Bytes} (hline : byte '\n' ∉ line) (hl : l ∈ fgets room line bs) :
    ∃ text, byte '\n' ∉ text ∧ (l = text ∨ l = text ++ [byte '\n']) := by
  induction bs generalizing line with
  | nil =>
    rw [fgets] at hl
    split_ifs at hl
    · exact absurd hl List.not_mem_nil
    · exact ⟨line, hline, Or.inl (List.mem_singleton.1 hl)⟩
  | cons b bs ih =>
    rw [fgets] at hl
    have hnil : byte '\n' ∉ ([] : Bytes) := List.not_mem_nil
    by_cases hb : b = byte '\n'
    · rw [if_pos (Or.inl hb)] at hl
      rcases List.mem_cons.1 hl with hfirst | hl
      · exact ⟨line, hline, Or.inr (hb ▸ hfirst)⟩
      · exact ih hnil hl
    · have hlonger : byte '\n' ∉ line ++ [b] := by
        simp [hline, Ne.symm hb]
      split_ifs at hl
      · rcases List.mem_cons.1 hl with hfirst | hl
        · exact ⟨line ++ [b], hlonger, Or.inl hfirst⟩
        · exact ih hnil hl
      · exact ih hlonger hl

end

/-! ## Values -/

/-- The value that is read of the text behind a name. -/
def valueOf (bs : Bytes) : Bytes :=
  cut (lskip (rstrip (cString bs)))

/-- A text that is read as a value as it is : no NUL, no white space around it, and no semicolon
behind white space. -/
structure Plain (bs : Bytes) : Prop where
  nul : 0 ∉ bs
  first : ∀ b ∈ bs.head?, isSpace b = false
  last : ∀ b ∈ bs.getLast?, isSpace b = false
  comment : bs.IsChain fun b c => isSpace b = true → c ≠ byte ';'

/-- Letters and underscores, of which names are made. -/
def isWord (b : UInt8) : Bool :=
  (97 ≤ b && b ≤ 122) || b = 95

def IsName (name : Bytes) : Prop :=
  ∀ b ∈ name, isWord b = true

instance (name : Bytes) : Decidable (IsName name) :=
  List.decidableBAll _ _

section

variable {s : State} {name rest bs : Bytes} {chars : Bytes} {b c : UInt8}

theorem ne_of_isWord (h : isWord b = true) (hc : isWord c = false) : b ≠ c := by
  rintro rfl
  exact Bool.false_ne_true (hc.symm.trans h)

theorem isSpace_of_isWord (h : isWord b = true) : isSpace b = false := by
  simp only [isSpace, isWord, Bool.or_eq_true, Bool.and_eq_true, decide_eq_true_eq,
    Bool.or_eq_false_iff, Bool.and_eq_false_iff, decide_eq_false_iff_not, UInt8.le_iff_toNat_le,
    ← UInt8.toNat_inj, UInt8.reduceToNat] at h ⊢
  omega

/-- White space at the end is behind a byte that is none. -/
theorem rstrip_append_cons (name rest : Bytes) (hb : isSpace b = false) :
    rstrip (name ++ b :: rest) = name ++ b :: rstrip rest := by
  induction rest using List.reverseRecOn with
  | nil =>
    rw [rstrip, List.rdropWhile_concat_neg]
    · rfl
    · simp [hb]
  | append_singleton rest c ih =>
    have hassoc : name ++ b :: (rest ++ [c]) = (name ++ b :: rest) ++ [c] := by simp
    unfold rstrip at ih ⊢
    rw [hassoc, List.rdropWhile_concat, List.rdropWhile_concat]
    split_ifs
    · exact ih
    · exact hassoc.symm

/-- The text before a byte that is looked for. -/
theorem findCharsOrComment_of_mem (h : ∀ b ∈ name, b ∉ chars ∧ isSpace b = false) (hc : c ∈ chars) :
    findCharsOrComment chars false (name ++ c :: rest) = (name, c :: rest) := by
  induction name with
  | nil => rw [List.nil_append, findCharsOrComment, if_pos (Or.inl hc)]
  | cons b name ih =>
    obtain ⟨⟨hb, hspace⟩, hname⟩ := List.forall_mem_cons.1 h
    rw [List.cons_append, findCharsOrComment, if_neg (by simp [hb]), hspace, ih hname]

theorem cString_append_cons (name rest : Bytes) (h : ∀ b ∈ name, b ≠ 0) (hc : c ≠ 0) :
    cString (name ++ c :: rest) = name ++ c :: cString rest := by
  unfold cString
  rw [List.takeWhile_append_of_pos (by simpa using h), List.takeWhile_cons_of_pos (by simpa using hc)]

/-- A line that starts with a character that is no white space, up to its end. -/
theorem readLine_of_start (s : State) {line start : Bytes} (hline : rstrip (cString line) = start)
    (hbom : [0xEF, 0xBB, 0xBF].isPrefixOf (cString line) = false)
    (hb : start.head? = some b) (hspace : isSpace b = false) (hcomment : b ≠ byte ';' ∧ b ≠ byte '#') :
    readLine s line =
      let s := { s with lineno := s.lineno + 1 }
      if b = byte '[' then
        let (name, rest) := findCharsOrComment [byte ']'] false start.tail
        if rest.head? = some (byte ']') then { s with sectionName := name.take 49, prevName := [] }
        else s.fail
      else
        let (name, rest) := findCharsOrComment [byte '=', byte ':'] false start
        if rest.head? = some (byte '=') ∨ rest.head? = some (byte ':') then
          valueHandler (rstrip name) (cut (lskip rest.tail)) { s with prevName := (rstrip name).take 49 }
        else s.fail := by
  have hskip : lskip start = start := by
    cases start with
    | nil => rfl
    | cons c start =>
      obtain rfl : c = b := Option.some.inj hb
      exact List.dropWhile_cons_of_neg (by simp [hspace])
  have hne : start ≠ [] := by
    rintro rfl
    exact absurd hb (by simp)
  simp only [readLine, hbom, Bool.and_false, Bool.false_eq_true, if_false, hline, hskip, hb,
    Option.some.injEq, hcomment.1, hcomment.2, or_self, Option.any_some, hspace, Bool.or_false,
    and_false, hne, ne_eq, not_false_eq_true, if_true]

/-- A line with a name and a value. -/
theorem readLine_value (s : State) (hne : name ≠ []) (h : IsName name) :
    readLine s (name ++ byte '=' :: bs) = valueHandler name (valueOf bs)
      { s with lineno := s.lineno + 1, prevName := name.take 49 } := by
  have hfirst : isWord (name.head hne) = true := h _ (List.head_mem hne)
  have hcstring : cString (name ++ byte '=' :: bs) = name ++ byte '=' :: cString bs :=
    cString_append_cons name bs (fun b hb => ne_of_isWord (h b hb) rfl) (by decide)
  have hline : rstrip (cString (name ++ byte '=' :: bs)) =
      name ++ byte '=' :: rstrip (cString bs) := by
    rw [hcstring, rstrip_append_cons _ _ rfl]
  have hhead : (name ++ byte '=' :: rstrip (cString bs)).head? = some (name.head hne) := by
    rw [List.head?_append_of_ne_nil _ hne, List.head?_eq_some_head hne]
  have hbom : [0xEF, 0xBB, 0xBF].isPrefixOf (cString (name ++ byte '=' :: bs)) = false := by
    rw [hcstring]
    cases name with
    | nil => exact absurd rfl hne
    | cons n name =>
      have hn : 0xEF ≠ n := (ne_of_isWord hfirst rfl).symm
      rw [List.cons_append, List.isPrefixOf, beq_false_of_ne hn]
      rfl
  have hfind : findCharsOrComment [byte '=', byte ':'] false (name ++ byte '=' :: rstrip (cString bs)) =
      (name, byte '=' :: rstrip (cString bs)) := by
    refine findCharsOrComment_of_mem (fun b hb => ⟨?_, isSpace_of_isWord (h b hb)⟩) (by simp)
    have hequal := ne_of_isWord (h b hb) (c := byte '=') rfl
    have hcolon := ne_of_isWord (h b hb) (c := byte ':') rfl
    simp [hequal, hcolon]
  have hname : rstrip name = name := by
    refine List.rdropWhile_eq_self_iff.2 fun hne => ?_
    simp [isSpace_of_isWord (h _ (List.getLast_mem hne))]
  rw [readLine_of_start s hline hbom hhead (isSpace_of_isWord hfirst)
    ⟨ne_of_isWord hfirst rfl, ne_of_isWord hfirst rfl⟩]
  dsimp only
  rw [if_neg (ne_of_isWord hfirst rfl), hfind]
  simp [hname, valueOf]

/-- A line with a section. -/
theorem readLine_section (s : State) (h : IsName name) :
    readLine s (byte '[' :: (name ++ [byte ']', byte '\n'])) =
      { s with lineno := s.lineno + 1, sectionName := name.take 49, prevName := [] } := by
  have hcstring : cString (byte '[' :: (name ++ [byte ']', byte '\n'])) =
      byte '[' :: (name ++ [byte ']', byte '\n']) := by
    refine cString_append_cons (byte '[' :: name) [byte '\n'] (fun b hb => ?_) (by decide)
    rcases List.mem_cons.1 hb with rfl | hb
    · decide
    · exact ne_of_isWord (h b hb) rfl
  have hline : rstrip (cString (byte '[' :: (name ++ [byte ']', byte '\n']))) =
      byte '[' :: (name ++ [byte ']']) := by
    rw [hcstring]
    exact rstrip_append_cons (byte '[' :: name) [byte '\n'] rfl
  have hfind : findCharsOrComment [byte ']'] false (name ++ [byte ']']) = (name, [byte ']']) := by
    refine findCharsOrComment_of_mem (fun b hb => ⟨?_, isSpace_of_isWord (h b hb)⟩) (by simp)
    simpa using ne_of_isWord (h b hb) (c := byte ']') rfl
  rw [readLine_of_start s hline (by rw [hcstring]; rfl) rfl rfl ⟨by decide, by decide⟩]
  dsimp only
  rw [if_pos rfl, List.tail_cons, hfind]
  simp

theorem readLine_blank (s : State) : readLine s [byte '\n'] = { s with lineno := s.lineno + 1 } := by
  have hstripped : rstrip (cString [byte '\n']) = [] := by decide
  have hbom : [0xEF, 0xBB, 0xBF].isPrefixOf (cString [byte '\n']) = false := by decide
  simp [readLine, hbom, hstripped, lskip]

/-- A handler writes a value of its section. -/
theorem valueHandler_other (name value : Bytes) (s : State) :
    (valueHandler name value s).sectionName = s.sectionName ∧
      ∀ key, (∀ name, key ≠ makeKey s.sectionName name) → (valueHandler name value s).values key =
        s.values key :=
  ⟨rfl, fun _ hkey => Function.update_of_ne (hkey name) _ _⟩

/-- The first value of a name. -/
theorem values_valueHandler {s : State} {name value : Bytes} (h : s.values (makeKey s.sectionName name) = none) :
    (valueHandler name value s).values =
      Function.update s.values (makeKey s.sectionName name) (some value) := by
  simp [valueHandler, h]

theorem fail_keeps (s : State) : s.fail.sectionName = s.sectionName ∧ s.fail.values = s.values ∧
    s.fail.lineno = s.lineno := by
  unfold State.fail
  split_ifs
  · exact ⟨rfl, rfl, rfl⟩
  · exact ⟨rfl, rfl, rfl⟩

/-- A line without a bracket begins no section, and writes no values of others. -/
theorem readLine_other (s : State) {line : Bytes} (h : byte '[' ∉ line) :
    (readLine s line).sectionName = s.sectionName ∧
      ∀ key, (∀ name, key ≠ makeKey s.sectionName name) → (readLine s line).values key = s.values key := by
  unfold readLine
  extract_lets s' line' bom stripped start
  split_ifs with hcomment hmoved hbracket hnonempty
  · exact ⟨rfl, fun _ _ => rfl⟩
  · exact valueHandler_other _ _ s'
  · have hstart : byte '[' ∈ stripped := (List.dropWhile_suffix _).subset (List.mem_of_head? hbracket)
    have hline : byte '[' ∈ (if bom then line'.drop 3 else line') :=
      (List.rdropWhile_prefix _ _).subset hstart
    refine absurd ((List.takeWhile_prefix _).subset (?_ : byte '[' ∈ line')) h
    split_ifs at hline
    · exact List.mem_of_mem_drop hline
    · exact hline
  · obtain ⟨⟨name, rest⟩, hfind⟩ : ∃ p, findCharsOrComment [byte '=', byte ':'] false start = p :=
      ⟨_, rfl⟩
    rw [hfind]
    dsimp only
    split_ifs
    · exact valueHandler_other _ _ { s' with prevName := _ }
    · exact ⟨(fail_keeps s').1, fun key _ => congrFun (fail_keeps s').2.1 key⟩
  · exact ⟨rfl, fun _ _ => rfl⟩

/-! ### What is read of a value -/

theorem findCharsOrComment_append (chars : Bytes) (wasSpace : Bool) (bs : Bytes) :
    (findCharsOrComment chars wasSpace bs).1 ++ (findCharsOrComment chars wasSpace bs).2 = bs := by
  induction bs generalizing wasSpace with
  | nil => rfl
  | cons b bs ih =>
    rw [findCharsOrComment]
    split_ifs
    · rfl
    · rw [List.cons_append, ih]

/-- A comment begins with a semicolon. -/
theorem head?_findCharsOrComment (wasSpace : Bool) (bs : Bytes) :
    ∀ b ∈ (findCharsOrComment [] wasSpace bs).2.head?, b = byte ';' := by
  induction bs generalizing wasSpace with
  | nil => simp [findCharsOrComment]
  | cons b bs ih =>
    rw [findCharsOrComment]
    split_ifs with h
    · have hb := (h.resolve_left List.not_mem_nil).2
      simp [hb]
    · exact ih _

/-- There is no comment if no semicolon is behind white space. -/
theorem findCharsOrComment_eq_self_iff (wasSpace : Bool) (bs : Bytes) :
    (findCharsOrComment [] wasSpace bs).1 = bs ↔
      (wasSpace = true → bs.head? ≠ some (byte ';')) ∧
        bs.IsChain fun b c => isSpace b = true → c ≠ byte ';' := by
  induction bs generalizing wasSpace with
  | nil => simp [findCharsOrComment]
  | cons b bs ih =>
    rw [findCharsOrComment]
    split_ifs with h
    · have hb := h.resolve_left List.not_mem_nil
      simp [hb]
    · have hb : wasSpace = true → b ≠ byte ';' := fun hw hsemi => h (Or.inr ⟨hw, hsemi⟩)
      have hfirst : wasSpace = true → (b :: bs).head? ≠ some (byte ';') := by simpa using hb
      rw [List.cons_inj_right, ih, and_iff_right hfirst]
      cases bs with
      | nil => simp
      | cons c bs => simp [List.isChain_cons_cons]

theorem cString_isPrefix (bs : Bytes) : cString bs <+: bs := List.takeWhile_prefix _

theorem rstrip_isPrefix (bs : Bytes) : rstrip bs <+: bs := List.rdropWhile_prefix _ _

theorem lskip_suffix (bs : Bytes) : lskip bs <:+ bs := List.dropWhile_suffix _

theorem findCharsOrComment_isPrefix (chars : Bytes) (wasSpace : Bool) (bs : Bytes) :
    (findCharsOrComment chars wasSpace bs).1 <+: bs :=
  ⟨_, findCharsOrComment_append chars wasSpace bs⟩

theorem cut_isPrefix (bs : Bytes) : cut bs <+: bs :=
  (rstrip_isPrefix _).trans (findCharsOrComment_isPrefix [] false bs)

/-- A value is no longer than its text. -/
theorem length_valueOf_le (bs : Bytes) : (valueOf bs).length ≤ bs.length := by
  have hcut := (cut_isPrefix (lskip (rstrip (cString bs)))).length_le
  have hskip := (lskip_suffix (rstrip (cString bs))).length_le
  have hstrip := (rstrip_isPrefix (cString bs)).length_le
  have hcstring := (cString_isPrefix bs).length_le
  unfold valueOf
  omega

/-- Exactly the plain texts are read as they are. -/
theorem valueOf_eq_self_iff : valueOf bs = bs ↔ Plain bs := by
  constructor
  · intro h
    have hcut := (cut_isPrefix (lskip (rstrip (cString bs)))).length_le
    have hskip := (lskip_suffix (rstrip (cString bs))).length_le
    have hstrip := (rstrip_isPrefix (cString bs)).length_le
    have hcstring := (cString_isPrefix bs).length_le
    have hlen : (cut (lskip (rstrip (cString bs)))).length = bs.length := congrArg List.length h
    -- nothing is left out at any step
    have hcstring' : cString bs = bs := (cString_isPrefix bs).eq_of_length (by omega)
    rw [hcstring'] at hcut hskip hstrip hlen
    have hstrip' : rstrip bs = bs := (rstrip_isPrefix bs).eq_of_length (by omega)
    rw [hstrip'] at hcut hskip hlen
    have hskip' : lskip bs = bs := (lskip_suffix bs).eq_of_length (by omega)
    rw [hskip'] at hcut hlen
    have hbefore := (rstrip_isPrefix (findCharsOrComment [] false bs).1).length_le
    have hle := (findCharsOrComment_isPrefix [] false bs).length_le
    have hcomment : (findCharsOrComment [] false bs).1 = bs := by
      refine (findCharsOrComment_isPrefix [] false bs).eq_of_length ?_
      unfold cut at hlen
      omega
    refine ⟨fun hnul => ?_, fun b hb => ?_, fun b hb => ?_,
      ((findCharsOrComment_eq_self_iff false bs).1 hcomment).2⟩
    · have hne := List.takeWhile_eq_self_iff.1 hcstring' 0 hnul
      exact absurd hne (by decide)
    · cases bs with
      | nil => exact absurd hb (by simp)
      | cons c bs =>
        obtain rfl : c = b := Option.some.inj hb
        exact eq_false_of_ne_true (List.dropWhile_eq_self_iff.1 hskip' (Nat.succ_pos _))
    · obtain ⟨hne, rfl⟩ := List.mem_getLast?_eq_getLast hb
      simpa using List.rdropWhile_eq_self_iff.1 hstrip' hne
  · intro h
    have hcstring : cString bs = bs := by
      refine List.takeWhile_eq_self_iff.2 fun b hb => ?_
      have hb : b ≠ 0 := fun heq => h.nul (heq ▸ hb)
      simpa using hb
    have hstrip : rstrip bs = bs := by
      refine List.rdropWhile_eq_self_iff.2 fun hne => ?_
      simp [h.last _ (List.getLast?_eq_some_getLast hne)]
    have hskip : lskip bs = bs := by
      cases bs with
      | nil => rfl
      | cons b bs => exact List.dropWhile_cons_of_neg (by simp [h.first b rfl])
    have hcut : (findCharsOrComment [] false bs).1 = bs :=
      (findCharsOrComment_eq_self_iff false bs).2 ⟨by simp, h.comment⟩
    rw [valueOf, hcstring, hstrip, hskip, cut, hcut, hstrip]

instance (bs : Bytes) : Decidable (Plain bs) :=
  decidable_of_iff _ valueOf_eq_self_iff

/-- A line feed at the end of a text is not read. -/
theorem rstrip_cString_append_newline (bs : Bytes) :
    rstrip (cString (bs ++ [byte '\n'])) = rstrip (cString bs) := by
  have hnewline : [byte '\n'].takeWhile (· ≠ 0) = [byte '\n'] := by decide
  unfold cString
  rw [List.takeWhile_append, hnewline]
  split_ifs with hlen
  · rw [(List.takeWhile_prefix (l := bs) (· ≠ 0)).eq_of_length hlen]
    exact List.rdropWhile_concat_pos _ _ _ rfl
  · rfl

theorem valueOf_append_newline (bs : Bytes) : valueOf (bs ++ [byte '\n']) = valueOf bs := by
  rw [valueOf, valueOf, rstrip_cString_append_newline]

/-- A value begins with a byte that is no white space. -/
theorem head?_valueOf (bs : Bytes) : ∀ b ∈ (valueOf bs).head?, isSpace b = false := by
  intro b hb
  have hnot := List.head?_dropWhile_not isSpace (rstrip (cString bs))
  obtain ⟨rest, hrest⟩ := cut_isPrefix (lskip (rstrip (cString bs)))
  have hhead : (lskip (rstrip (cString bs))).head? = some b := by
    have hvalue : (cut (lskip (rstrip (cString bs)))).head? = some b := hb
    rw [← hrest, List.head?_append, hvalue]
    rfl
  unfold lskip at hhead
  rw [hhead] at hnot
  exact hnot

/-- Exactly white space is read as nothing. -/
theorem valueOf_eq_nil_iff : valueOf bs = [] ↔ Blank bs := by
  rw [Blank, ← List.rdropWhile_eq_nil_iff (p := isSpace)]
  constructor
  · intro h
    by_contra hne
    -- the text begins with a byte that is no white space
    have hlast : ∃ b ∈ rstrip (cString bs), isSpace b = false := by
      refine ⟨_, List.getLast_mem hne, ?_⟩
      simpa using List.rdropWhile_last_not isSpace (cString bs) hne
    cases hskip : lskip (rstrip (cString bs)) with
    | nil =>
      obtain ⟨b, hb, hspace⟩ := hlast
      exact Bool.false_ne_true (hspace.symm.trans (List.dropWhile_eq_nil_iff.1 hskip b hb))
    | cons b rest =>
      have hspace : isSpace b = false := by
        have hnot := List.head?_dropWhile_not isSpace (rstrip (cString bs))
        unfold lskip at hskip
        simpa [hskip] using hnot
      rw [valueOf, hskip, cut, findCharsOrComment, if_neg (by simp)] at h
      have hmem := List.rdropWhile_eq_nil_iff.1 h b List.mem_cons_self
      exact Bool.false_ne_true (hspace.symm.trans hmem)
  · intro h
    have hstrip : rstrip (cString bs) = [] := h
    rw [valueOf, hstrip]
    rfl

theorem strtol_rstrip (bs : Bytes) : strtol (rstrip bs) = strtol bs := by
  have happ : rstrip bs ++ bs.rtakeWhile isSpace = bs := List.rdropWhile_append_rtakeWhile
  have hspaces : ∀ c ∈ bs.rtakeWhile isSpace, isSpace c = true := fun c hc => List.mem_rtakeWhile_imp hc
  have hread : strtol (rstrip bs ++ bs.rtakeWhile isSpace) = strtol (rstrip bs) :=
    strtol_append (fun c hc => digitValue_of_isSpace (hspaces c (List.mem_of_head? hc)))
      fun _ => strtol_of_spaces hspaces
  rw [← hread, happ]

/-- The number at the start of a value is the number at the start of its text. -/
theorem strtol_valueOf (bs : Bytes) : strtol (valueOf bs) = strtol bs := by
  have hcstring : strtol (cString bs) = strtol bs := by
    have happ : cString bs ++ bs.dropWhile (· ≠ 0) = bs := List.takeWhile_append_dropWhile
    have hnul := List.head?_dropWhile_not (· ≠ (0 : UInt8)) bs
    cases hrest : bs.dropWhile (· ≠ 0) with
    | nil =>
      rw [hrest, List.append_nil] at happ
      rw [happ]
    | cons c rest =>
      rw [hrest] at hnul happ
      obtain rfl : c = 0 := by simpa using hnul
      conv_rhs => rw [← happ]
      exact (strtol_append_cons rfl rfl (by decide) (by decide)).symm
  have hcut : ∀ bs, strtol (findCharsOrComment [] false bs).1 = strtol bs := by
    intro bs
    have happ := findCharsOrComment_append [] false bs
    have hsemi := head?_findCharsOrComment false bs
    cases hrest : (findCharsOrComment [] false bs).2 with
    | nil =>
      rw [hrest, List.append_nil] at happ
      rw [happ]
    | cons c rest =>
      rw [hrest] at hsemi happ
      obtain rfl : c = byte ';' := hsemi c rfl
      conv_rhs => rw [← happ]
      exact (strtol_append_cons rfl rfl (by decide) (by decide)).symm
  rw [valueOf, cut, strtol_rstrip, hcut, lskip, strtol_dropWhile, strtol_rstrip, hcstring]

/-- A number at the start of a value is read up to the next line. -/
theorem strtol_valueOf_append {more : Bytes} (hne : valueOf bs ≠ [])
    (hmore : ∀ b ∈ more.head?, b = byte '\n') : strtol (valueOf bs ++ more) = strtol bs := by
  have hstop : ∀ b ∈ more.head?, digitValue b = none := fun b hb => by
    rw [hmore b hb]
    rfl
  rw [strtol_append hstop, strtol_valueOf]
  intro hspaces
  cases hvalue : valueOf bs with
  | nil => exact absurd hvalue hne
  | cons b rest =>
    have hfirst := head?_valueOf bs b (by rw [hvalue]; rfl)
    have hspace := hspaces b (by rw [hvalue]; exact List.mem_cons_self)
    exact absurd (hfirst.symm.trans hspace) Bool.false_ne_true

end

/-! ## What is added to a value -/

/-- What is added to the values : lines of their own, of at most some bytes with their line feeds. -/
def Adds (n : ℕ) (s s' : State) : Prop :=
  ∀ key old, s.values key = some old →
    ∃ more, s'.values key = some (old ++ more) ∧ more.length ≤ n ∧
      (old ≠ [] → ∀ b ∈ more.head?, b = byte '\n')

section

variable {s s' s'' : State} {n n' : ℕ} {name value line text : Bytes}

theorem Adds.of_values (h : s'.values = s.values) : Adds n s s' := by
  intro key old hold
  refine ⟨[], ?_, Nat.zero_le n, fun _ b hb => absurd hb (by simp)⟩
  rw [h, hold, List.append_nil]

theorem Adds.trans (h : Adds n s s') (h' : Adds n' s' s'') : Adds (n + n') s s'' := by
  intro key old hold
  obtain ⟨more, hmore, hlen, hhead⟩ := h key old hold
  obtain ⟨more', hmore', hlen', hhead'⟩ := h' key _ hmore
  refine ⟨more ++ more', ?_, ?_, fun hne b hb => ?_⟩
  · rw [hmore', List.append_assoc]
  · rw [List.length_append]
    omega
  · cases more with
    | nil =>
      rw [List.append_nil] at hhead'
      exact hhead' hne b hb
    | cons c more => exact hhead hne b hb

theorem adds_valueHandler (h : value.length + 1 ≤ n) : Adds n s (valueHandler name value s) := by
  intro key old hold
  by_cases hkey : key = makeKey s.sectionName name
  · subst hkey
    by_cases hnil : old = []
    · refine ⟨value, ?_, by omega, fun hne => absurd hnil hne⟩
      simp [valueHandler, hold, hnil]
    · refine ⟨byte '\n' :: value, ?_, by simpa using h, fun _ b hb => ?_⟩
      · simp [valueHandler, hold, hnil]
      · exact (Option.some.inj hb).symm
  · refine ⟨[], ?_, Nat.zero_le n, fun _ b hb => absurd hb (by simp)⟩
    have hother : (valueHandler name value s).values key = s.values key :=
      Function.update_of_ne hkey _ _
    rw [hother, hold, List.append_nil]

theorem length_lskip_lt (h : text.head?.any isSpace = true) : (lskip text).length < text.length := by
  cases text with
  | nil => exact absurd h Bool.false_ne_true
  | cons b text =>
    have hskip : lskip (b :: text) = lskip text := List.dropWhile_cons_of_pos h
    have hle := (lskip_suffix text).length_le
    rw [hskip, List.length_cons]
    omega

/-- The value behind a mark is shorter than the line. -/
theorem length_cut_lt {marks name rest start : Bytes} {prev : Bool}
    (h : findCharsOrComment marks prev start = (name, rest)) (hne : rest ≠ []) :
    (cut (lskip rest.tail)).length + 1 ≤ start.length := by
  have hlength := congrArg List.length (findCharsOrComment_append marks prev start)
  rw [h, List.length_append] at hlength
  have hrest : rest.tail.length + 1 = rest.length := by
    cases rest with
    | nil => exact absurd rfl hne
    | cons c rest => rfl
  have hskip := (lskip_suffix rest.tail).length_le
  have hcut := (cut_isPrefix (lskip rest.tail)).length_le
  dsimp only at hlength
  omega

/-- A line adds a value that is shorter than the line. -/
theorem readLine_adds (hline : line = text ∨ line = text ++ [byte '\n']) (hlineno : s.lineno ≠ 0) :
    Adds text.length s (readLine s line) ∧ (readLine s line).lineno ≠ 0 := by
  have hshort : (rstrip (cString line)).length ≤ text.length := by
    have htext : rstrip (cString line) = rstrip (cString text) := by
      rcases hline with rfl | rfl
      · rfl
      · exact rstrip_cString_append_newline text
    rw [htext]
    exact ((rstrip_isPrefix _).trans (cString_isPrefix _)).length_le
  have hkeep : ∀ s' : State, s'.values = s.values → s'.lineno = s.lineno + 1 →
      Adds text.length s s' ∧ s'.lineno ≠ 0 := fun s' hvalues hnext =>
    ⟨Adds.of_values hvalues, by omega⟩
  unfold readLine
  extract_lets s' line' bom stripped start
  have hbom : bom = false := by
    have hfirst : ¬s'.lineno = 1 := fun hone => hlineno (Nat.succ.inj hone)
    simp [bom, hfirst]
  have hstripped : stripped = rstrip (cString line) := by
    simp only [stripped, hbom, Bool.false_eq_true, if_false]
    rfl
  have hstart : start.length ≤ stripped.length := (lskip_suffix stripped).length_le
  have hstrippedLength := congrArg List.length hstripped
  split_ifs with hcomment hmoved hbracket hnonempty
  · exact hkeep _ rfl rfl
  · -- white space before the value
    have hspace : stripped.head?.any isSpace = true := by simpa [hbom] using hmoved.2.2
    have hskip : start.length < stripped.length := length_lskip_lt hspace
    have hcut := (cut_isPrefix start).length_le
    have hvalue : (cut start).length + 1 ≤ text.length := by
      omega
    exact ⟨adds_valueHandler (s := s') hvalue, Nat.succ_ne_zero _⟩
  · obtain ⟨⟨name, rest⟩, hfind⟩ : ∃ p, findCharsOrComment [byte ']'] false start.tail = p := ⟨_, rfl⟩
    rw [hfind]
    dsimp only
    split_ifs
    · exact hkeep _ rfl rfl
    · exact hkeep _ (fail_keeps s').2.1 (fail_keeps s').2.2
  · obtain ⟨⟨name, rest⟩, hfind⟩ : ∃ p, findCharsOrComment [byte '=', byte ':'] false start = p :=
      ⟨_, rfl⟩
    rw [hfind]
    dsimp only
    split_ifs with hfound
    · -- the mark before the value
      have hne : rest ≠ [] := by
        rintro rfl
        simp at hfound
      have hcut := length_cut_lt hfind hne
      have hvalue : (cut (lskip rest.tail)).length + 1 ≤ text.length := by omega
      exact ⟨adds_valueHandler (s := { s' with prevName := _ }) hvalue, Nat.succ_ne_zero _⟩
    · exact hkeep _ (fail_keeps s').2.1 (fail_keeps s').2.2
  · exact hkeep _ rfl rfl

end

/-! ## Files -/

/-- A file of some lines. -/
def fileOf (lines : List Bytes) : Bytes :=
  lines.flatMap (· ++ [byte '\n'])

section

variable {s : State} {name bs rest key : Bytes} {lines : List Bytes}

theorem fileOf_append (lines lines' : List Bytes) :
    fileOf (lines ++ lines') = fileOf lines ++ fileOf lines' :=
  List.flatMap_append

theorem feed_append_newline (s : State) (bs rest : Bytes) :
    feed s (bs ++ byte '\n' :: rest) = feed (feed s (bs ++ [byte '\n'])) rest := by
  rw [feed, feed, feed, fgets_append, List.foldl_append]

/-- A file is read line by line. -/
theorem feed_fileOf_append (s : State) (lines : List Bytes) (rest : Bytes) :
    feed s (fileOf lines ++ rest) = feed (feed s (fileOf lines)) rest := by
  have hgets : fgets 199 [] (fileOf lines ++ rest) =
      fgets 199 [] (fileOf lines) ++ fgets 199 [] rest := by
    induction lines with
    | nil => rfl
    | cons line lines ih =>
      have hfirst : fileOf (line :: lines) = line ++ byte '\n' :: fileOf lines := by
        simp [fileOf]
      rw [hfirst, List.append_assoc, List.cons_append, fgets_append, ih,
        fgets_append line (fileOf lines),
        List.append_assoc]
  rw [feed, feed, feed, hgets, List.foldl_append]

/-- Lines without brackets begin no section, and write no values of others. -/
theorem feed_other (s : State) (h : byte '[' ∉ bs) :
    (feed s bs).sectionName = s.sectionName ∧
      ∀ key, (∀ name, key ≠ makeKey s.sectionName name) → (feed s bs).values key = s.values key := by
  have hlines : ∀ line ∈ fgets 199 [] bs, byte '[' ∉ line := fun line hline hmem =>
    h ((mem_of_mem_fgets hline hmem).resolve_left List.not_mem_nil)
  unfold feed
  generalize fgets 199 [] bs = lines at hlines
  induction lines generalizing s with
  | nil => exact ⟨rfl, fun _ _ => rfl⟩
  | cons line lines ih =>
    obtain ⟨hline, hrest⟩ := List.forall_mem_cons.1 hlines
    obtain ⟨hname, hvalues⟩ := readLine_other s hline
    obtain ⟨hname', hvalues'⟩ := ih (readLine s line) hrest
    rw [hname] at hname' hvalues'
    exact ⟨hname', fun key hkey => (hvalues' key hkey).trans (hvalues key hkey)⟩

/-- A line with a section. -/
theorem feed_section (s : State) (h : IsName name) (hlen : name.length ≤ 49) :
    feed s (byte '[' :: (name ++ byte ']' :: byte '\n' :: rest)) =
      feed { s with lineno := s.lineno + 1, sectionName := name, prevName := [] } rest := by
  have hnewline : byte '\n' ∉ byte '[' :: (name ++ [byte ']']) := by
    have hname : byte '\n' ∉ name := fun hmem => ne_of_isWord (h _ hmem) rfl rfl
    have hopen : byte '\n' ≠ byte '[' := by decide
    have hclose : byte '\n' ≠ byte ']' := by decide
    simp [hname, hopen, hclose]
  have hgets : fgets 199 [] (byte '[' :: (name ++ byte ']' :: byte '\n' :: rest)) =
      (byte '[' :: (name ++ [byte ']', byte '\n'])) :: fgets 199 [] rest := by
    have hline : fgets 199 [] ((byte '[' :: (name ++ [byte ']'])) ++ byte '\n' :: rest) = _ :=
      fgets_line hnewline (by simp; omega)
    simpa using hline
  rw [feed, hgets, List.foldl_cons, readLine_section s h, List.take_of_length_le hlen]
  rfl

/-- A section whose lines have no brackets writes no values of others. -/
theorem feed_sectionOf (s : State) (name : Bytes) (h : IsName name) (hlen : name.length ≤ 49)
    (hlines : ∀ line ∈ lines, byte '[' ∉ line) (rest : Bytes) :
    ∃ s', feed s (fileOf ((byte '[' :: (name ++ [byte ']'])) :: lines) ++ rest) = feed s' rest ∧
      ∀ key, (∀ n, key ≠ makeKey name n) → s'.values key = s.values key := by
  have hfirst : fileOf ((byte '[' :: (name ++ [byte ']'])) :: lines) ++ rest =
      byte '[' :: (name ++ byte ']' :: byte '\n' :: (fileOf lines ++ rest)) := by
    simp [fileOf]
  have hbody : byte '[' ∉ fileOf lines := by
    intro hmem
    obtain ⟨line, hline, hmem⟩ := List.mem_flatMap.1 hmem
    rcases List.mem_append.1 hmem with hmem | hmem
    · exact hlines line hline hmem
    · exact absurd (List.mem_singleton.1 hmem) (by decide)
  rw [hfirst, feed_section s h hlen, feed_fileOf_append]
  exact ⟨_, rfl, (feed_other { s with lineno := s.lineno + 1, sectionName := name, prevName := [] }
    hbody).2⟩

theorem ne_newline_of_isName (h : IsName name) (hbs : byte '\n' ∉ bs) :
    byte '\n' ∉ name ++ byte '=' :: bs := by
  have hname : byte '\n' ∉ name := fun hmem => ne_of_isWord (h _ hmem) rfl rfl
  have hequal : byte '\n' ≠ byte '=' := by decide
  simp [hname, hequal, hbs]

/-- A line with a name that fits, without its line feed. -/
theorem feed_line (s : State) (hne : name ≠ []) (h : IsName name) (hnewline : byte '\n' ∉ bs)
    (hlen : name.length + 1 + bs.length < 199) (rest : Bytes) :
    feed s (name ++ byte '=' :: (bs ++ byte '\n' :: rest)) =
      feed (readLine s (name ++ byte '=' :: bs)) rest := by
  have hsplit : name ++ byte '=' :: (bs ++ byte '\n' :: rest) =
      (name ++ byte '=' :: bs) ++ byte '\n' :: rest := by simp
  have hgets : fgets 199 [] ((name ++ byte '=' :: bs) ++ byte '\n' :: rest) =
      (name ++ byte '=' :: (bs ++ [byte '\n'])) :: fgets 199 [] rest := by
    rw [fgets_line (ne_newline_of_isName h hnewline) (by simp; omega)]
    simp
  rw [hsplit, feed, hgets, List.foldl_cons, readLine_value s hne h, readLine_value s hne h,
    valueOf_append_newline]
  rfl

/-- A line with a name that is full. -/
theorem feed_full (s : State) (h : IsName name) (hnewline : byte '\n' ∉ bs)
    (hlen : name.length + 1 + bs.length = 199) (rest : Bytes) :
    feed s (name ++ byte '=' :: (bs ++ rest)) = feed (readLine s (name ++ byte '=' :: bs)) rest := by
  have hsplit : name ++ byte '=' :: (bs ++ rest) = (name ++ byte '=' :: bs) ++ rest := by simp
  have hgets : fgets 199 [] ((name ++ byte '=' :: bs) ++ rest) =
      (name ++ byte '=' :: bs) :: fgets 199 [] rest :=
    fgets_full (ne_newline_of_isName h hnewline) (by simp) (by simp; omega)
  rw [hsplit, feed, hgets, List.foldl_cons]
  rfl

/-- A line with the first value of a name. -/
theorem readLine_new (s : State) (hne : name ≠ []) (h : IsName name)
    (hnone : s.values (makeKey s.sectionName name) = none) (bs : Bytes) :
    (readLine s (name ++ byte '=' :: bs)).lineno ≠ 0 ∧
      (readLine s (name ++ byte '=' :: bs)).sectionName = s.sectionName ∧
      (readLine s (name ++ byte '=' :: bs)).values =
        Function.update s.values (makeKey s.sectionName name) (some (valueOf bs)) := by
  rw [readLine_value s hne h]
  exact ⟨Nat.succ_ne_zero _, rfl, values_valueHandler hnone⟩

/-- A line with the first value of a name, which fits. -/
theorem feed_value (s : State) (name : Bytes) (hne : name ≠ []) (h : IsName name)
    (hnewline : byte '\n' ∉ bs) (hlen : name.length + 1 + bs.length ≤ 199)
    (hnone : s.values (makeKey s.sectionName name) = none) (rest : Bytes) :
    ∃ s', feed s (name ++ byte '=' :: (bs ++ byte '\n' :: rest)) = feed s' rest ∧
      s'.sectionName = s.sectionName ∧
      s'.values = Function.update s.values (makeKey s.sectionName name) (some (valueOf bs)) := by
  obtain ⟨-, hsection, hvalues⟩ := readLine_new s hne h hnone bs
  obtain hfits | hfull : name.length + 1 + bs.length < 199 ∨ name.length + 1 + bs.length = 199 :=
    lt_or_eq_of_le hlen
  · exact ⟨_, feed_line s hne h hnewline hfits rest, hsection, hvalues⟩
  · -- the line feed is a line of its own
    have hblank : fgets 199 [] (byte '\n' :: rest) = [byte '\n'] :: fgets 199 [] rest := rfl
    rw [feed_full s h hnewline hfull, feed, hblank, List.foldl_cons, readLine_blank]
    exact ⟨_, rfl, hsection, hvalues⟩

theorem countP_newline (h : byte '\n' ∉ bs) : bs.countP (· ≠ byte '\n') = bs.length := by
  refine List.countP_eq_length.2 fun b hb => ?_
  have hne : b ≠ byte '\n' := fun heq => h (heq ▸ hb)
  simpa using hne

/-- What further lines add has at most as many bytes as the lines without line feeds. -/
theorem foldl_adds {lines : List Bytes} (hlines : ∀ line ∈ lines, ∃ text, byte '\n' ∉ text ∧
      (line = text ∨ line = text ++ [byte '\n'])) (hlineno : s.lineno ≠ 0) :
    Adds (lines.flatten.countP (· ≠ byte '\n')) s (lines.foldl readLine s) := by
  induction lines generalizing s with
  | nil => exact Adds.of_values rfl
  | cons line lines ih =>
    obtain ⟨⟨text, hnewline, hline⟩, hrest⟩ := List.forall_mem_cons.1 hlines
    obtain ⟨hadds, hnext⟩ := readLine_adds hline hlineno
    have hcount : line.countP (· ≠ byte '\n') = text.length := by
      rcases hline with rfl | rfl
      · exact countP_newline hnewline
      · rw [List.countP_append, countP_newline hnewline]
        rfl
    rw [List.flatten_cons, List.countP_append, hcount]
    exact hadds.trans (ih hrest hnext)

theorem feed_adds (bs : Bytes) (hlineno : s.lineno ≠ 0) :
    Adds (bs.countP (· ≠ byte '\n')) s (feed s bs) := by
  have hlines : ∀ line ∈ fgets 199 [] bs, ∃ text, byte '\n' ∉ text ∧
      (line = text ∨ line = text ++ [byte '\n']) := fun line => exists_of_mem_fgets List.not_mem_nil
  have hadds := foldl_adds hlines hlineno
  rw [fgets_flatten] at hadds
  exact hadds

/-- The first line of a text, with room for some bytes. -/
def firstLine (room : ℕ) (bs : Bytes) : Bytes :=
  (bs.takeWhile (· ≠ byte '\n')).take room

theorem length_firstLine_le (room : ℕ) (bs : Bytes) : (firstLine room bs).length ≤ room :=
  List.length_take_le _ _

theorem firstLine_isPrefix (room : ℕ) (bs : Bytes) : firstLine room bs <+: bs :=
  (List.take_prefix _ _).trans (List.takeWhile_prefix _)

theorem firstLine_of_line {room : ℕ} (h : byte '\n' ∉ bs) (hlen : bs.length ≤ room) :
    firstLine room bs = bs := by
  have hall : bs.takeWhile (· ≠ byte '\n') = bs := by
    refine List.takeWhile_eq_self_iff.2 fun b hb => ?_
    have hne : b ≠ byte '\n' := fun heq => h (heq ▸ hb)
    simpa using hne
  rw [firstLine, hall, List.take_of_length_le hlen]

/-- A text is its first line and what is left of it : nothing, what was cut off, or further lines. -/
theorem exists_firstLine (room : ℕ) (bs : Bytes) : ∃ r, bs = firstLine room bs ++ r ∧
    byte '\n' ∉ firstLine room bs ∧
      ((firstLine room bs).length = room ∨ r = [] ∨ ∃ r', r = byte '\n' :: r') := by
  have hnewline : byte '\n' ∉ firstLine room bs := by
    intro hmem
    have hpos := List.mem_takeWhile_imp (List.mem_of_mem_take hmem)
    simp at hpos
  have hsplit : bs.takeWhile (· ≠ byte '\n') ++ bs.dropWhile (· ≠ byte '\n') = bs :=
    List.takeWhile_append_dropWhile
  by_cases hfull : room ≤ (bs.takeWhile (· ≠ byte '\n')).length
  · -- the line is cut
    refine ⟨(bs.takeWhile (· ≠ byte '\n')).drop room ++ bs.dropWhile (· ≠ byte '\n'), ?_, hnewline,
      Or.inl (List.length_take_of_le hfull)⟩
    rw [firstLine, ← List.append_assoc, List.take_append_drop, hsplit]
  · have hwhole : firstLine room bs = bs.takeWhile (· ≠ byte '\n') :=
      List.take_of_length_le (Nat.le_of_not_le hfull)
    refine ⟨bs.dropWhile (· ≠ byte '\n'), by rw [hwhole, hsplit], hnewline, Or.inr ?_⟩
    have hnot := List.head?_dropWhile_not (· ≠ byte '\n') bs
    cases hd : bs.dropWhile (· ≠ byte '\n') with
    | nil => exact Or.inl rfl
    | cons b d =>
      rw [hd] at hnot
      have hb : b = byte '\n' := by simpa using hnot
      exact Or.inr ⟨d, by rw [hb]⟩

/-- The first value of a name, of which only the first line is read. What follows is read as further
lines. -/
theorem feed_firstLine (s : State) (name : Bytes) (hne : name ≠ []) (h : IsName name)
    (hlen : name.length ≤ 197) (hnone : s.values (makeKey s.sectionName name) = none) (bs rest : Bytes) :
    ∃ s' text, feed s (name ++ byte '=' :: (bs ++ byte '\n' :: rest)) = feed (feed s' text) rest ∧
      s'.lineno ≠ 0 ∧
      s'.values = Function.update s.values (makeKey s.sectionName name)
        (some (valueOf (firstLine (198 - name.length) bs))) ∧
      text.countP (· ≠ byte '\n') + (firstLine (198 - name.length) bs).length =
        bs.countP (· ≠ byte '\n') := by
  obtain ⟨r, hbs, hnewline, hrest⟩ := exists_firstLine (198 - name.length) bs
  have hle := length_firstLine_le (198 - name.length) bs
  generalize firstLine (198 - name.length) bs = first at hbs hnewline hrest hle ⊢
  obtain ⟨hlineno, -, hvalues⟩ := readLine_new s hne h hnone first
  have hcount : bs.countP (· ≠ byte '\n') = first.length + r.countP (· ≠ byte '\n') := by
    rw [hbs, List.countP_append, countP_newline hnewline]
  have hone : [byte '\n'].countP (· ≠ byte '\n') = 0 := rfl
  subst hbs
  rcases lt_or_eq_of_le hle with hshort | hfull
  · have hline := feed_line s hne h hnewline (by omega : name.length + 1 + first.length < 199)
    rcases hrest.resolve_left (Nat.ne_of_lt hshort) with rfl | ⟨r', rfl⟩
    · -- the text is a line
      refine ⟨_, [], ?_, hlineno, hvalues, (Nat.add_comm _ _).trans hcount.symm⟩
      rw [List.append_nil, hline]
      rfl
    · have hskip : (byte '\n' :: r').countP (· ≠ byte '\n') = r'.countP (· ≠ byte '\n') :=
        List.countP_cons_of_neg (by simp)
      refine ⟨_, r' ++ [byte '\n'], ?_, hlineno, hvalues, ?_⟩
      · rw [List.append_assoc, List.cons_append, hline, feed_append_newline]
      · rw [hcount, hskip, List.countP_append]
        omega
  · refine ⟨_, r ++ [byte '\n'], ?_, hlineno, hvalues, ?_⟩
    · rw [List.append_assoc, feed_full s h hnewline (by omega), feed_append_newline]
    · rw [hcount, List.countP_append]
      omega

end

end Ini
