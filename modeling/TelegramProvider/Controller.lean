import TelegramProvider.Records
import TelegramProvider.Runs

/-!
# The settings page

The table `ModuleTelegramProvider` has a row for each Telegram line, and the settings all
lines share are stored in every row. Four actions of the controller change it : the form is
saved (`saveAction`), the editor of the table saves a line (`saveTableDataAction`) or
deletes one (`deleteAction`), and `indexAction` shows the first row.

`saveAction` copies the shared settings to all rows. `saveTableDataAction` copies two of
them, so a line that is added has the defaults for the others (`agree_step_iff`).
-/

set_option autoImplicit false

namespace TelegramProvider

open Runs Records

/-! ## Rows -/

/-- The columns of `ModuleTelegramProvider` but its id. -/
inductive Column
  | apiId
  | apiHash
  | phoneNumber
  | businessCardText
  | keyboardText
  | autoAnswerText
  | callbackQueue
  | priority
  | disable
  | botId
  deriving DecidableEq, Repr

/-- The values of a row, `none` for `NULL`. -/
abbrev Attributes := Column → Option String

/-- A row. -/
abbrev Line := Row Attributes

/-- The values of a `new ModuleTelegramProvider()`. -/
def Attributes.default : Attributes
  | .priority => some "0"
  | .disable => some "0"
  | _ => some ""

/-- `empty` on a string. -/
def phpEmpty (s : String) : Bool :=
  s = "" || s = "0"

/-! ## The actions -/

namespace Controller

/-- The loop over the attributes of a record, which takes those that were posted. -/
def fill (data : Column → Option String) (attr : Attributes) : Attributes := fun column =>
  match data column with
  | some value => some value
  | none => attr column

/-- The settings `saveAction` copies. -/
def shared : List Column :=
  [.apiId, .apiHash, .businessCardText, .botId, .keyboardText, .autoAnswerText, .callbackQueue]

/-- They are copied to all rows. -/
def share (record : Attributes) (t : Table Attributes) : Table Attributes :=
  t.modify fun attr column => if column ∈ shared then record column else attr column

/-- `saveAction`, where all records can be saved. -/
def saveAction (data : Column → Option String) (skipped : ℕ) (t : Table Attributes) :
    Table Attributes :=
  match t.rows.head? with
  | none => share (fill data .default) (t.insert skipped (fill data .default))
  | some record => share (fill data record.attr) (t.save record.id (fill data record.attr))

/-- The row has an API id. -/
def hasApiId (line : Line) : Bool :=
  line.attr .apiId ≠ none && line.attr .apiId ≠ some ""

/-- The credentials of the first row that has them. Without one, a property of nothing is
read, which is `NULL`. -/
def withCredentials (t : Table Attributes) (attr : Attributes) : Attributes :=
  let rowOldData := t.rows.find? hasApiId
  fun
  | .apiId => rowOldData.bind (·.attr .apiId)
  | .apiHash => rowOldData.bind (·.attr .apiHash)
  | column => attr column

/-- The row has the id, as text. -/
def hasId (id : String) (line : Line) : Bool :=
  toString line.id = id

/-- `saveTableDataAction` for this table, where the record can be saved, or `none` when it
answers that it failed. -/
def saveTableDataAction (rowId : String) (data : Column → Option String) (skipped : ℕ)
    (t : Table Attributes) : Option (Table Attributes) :=
  if phpEmpty rowId then none else
    match t.rows.find? (hasId rowId) with
    | some line => some (t.save line.id (withCredentials t (fill data line.attr)))
    | none => some (t.insert skipped (withCredentials t (fill data .default)))

/-- `deleteAction` for this table, or `none` when there is no such record. -/
def deleteAction (id : String) (t : Table Attributes) : Option (Table Attributes) :=
  match t.rows.find? (hasId id) with
  | none => none
  | some record =>
    if t.rows.length = 1 then
      some (t.save record.id (Function.update record.attr .phoneNumber (some "")))
    else
      some (t.delete record.id)

/-- What the editor of the table posts of the columns. -/
def postedPhone (phoneNumber : String) : Column → Option String
  | .phoneNumber => some phoneNumber
  | _ => none

/-- An action with what is posted to it. A new row may skip ids of rows that are gone. -/
inductive Action
  | save (data : Column → Option String) (skipped : ℕ)
  | saveTableData (rowId : String) (phoneNumber : String) (skipped : ℕ)
  | delete (id : String)

/-- The table after an action that succeeds. -/
def next (t : Table Attributes) : Action → Option (Table Attributes)
  | .save data skipped => some (saveAction data skipped t)
  | .saveTableData rowId phoneNumber skipped =>
    saveTableDataAction rowId (postedPhone phoneNumber) skipped t
  | .delete id => deleteAction id t

/-- An action succeeds. -/
def Step (t : Table Attributes) (a : Action) (t' : Table Attributes) : Prop :=
  next t a = some t'

/-! ## Agreement -/

/-- All rows have the same shared settings. -/
def Agree (t : Table Attributes) : Prop :=
  ∀ r ∈ t.rows, ∀ s ∈ t.rows, ∀ column ∈ shared, r.attr column = s.attr column

/-- The settings a line that is added does not take from the others. -/
def defaulted : List Column :=
  [.businessCardText, .botId, .keyboardText, .autoAnswerText, .callbackQueue]

/-- What `saveTableDataAction` writes is what the rows have : a row that is added finds the
defaults in the others, and a row has an API id, or all credentials are `NULL`, or no other
row is there. -/
def Keeps (t : Table Attributes) : Action → Prop
  | .saveTableData rowId _ _ =>
    ((∃ r ∈ t.rows, hasId rowId r = true) ∨
      ∀ r ∈ t.rows, ∀ column ∈ defaulted, r.attr column = some "") ∧
    (((∃ r ∈ t.rows, hasId rowId r = true) ∧ t.rows.length = 1) ∨
      (∃ r ∈ t.rows, hasApiId r = true) ∨
      ∀ r ∈ t.rows, r.attr .apiId = none ∧ r.attr .apiHash = none)
  | _ => True

/-! ## One action -/

section actions

variable {t t' : Table Attributes} {a : Attributes} {r : Line} {skipped : ℕ}
  {data : Column → Option String} {rowId id phoneNumber : String} {column : Column}

theorem agree_share (record : Attributes) (t : Table Attributes) : Agree (share record t) := by
  intro r hr s hs column hcolumn
  obtain ⟨r', -, rfl⟩ := Table.mem_modify.1 hr
  obtain ⟨s', -, rfl⟩ := Table.mem_modify.1 hs
  simp [hcolumn]

/-- Saving the form makes all rows agree, whatever they were. -/
theorem agree_saveAction (data : Column → Option String) (skipped : ℕ) (t : Table Attributes) :
    Agree (saveAction data skipped t) := by
  unfold saveAction
  split <;> exact agree_share _ _

theorem Agree.delete (h : Agree t) (k : ℕ) : Agree (t.delete k) := by
  intro r hr s hs
  exact h r (Table.mem_delete.1 hr).1 s (Table.mem_delete.1 hs).1

theorem agree_insert_iff (h : Agree t) : Agree (t.insert skipped a) ↔
    ∀ r ∈ t.rows, ∀ column ∈ shared, r.attr column = a column := by
  constructor
  · intro h' r hr
    exact h' r (Table.mem_insert.2 (Or.inl hr)) _ (Table.mem_insert.2 (Or.inr rfl))
  · intro hsame r hr s hs column hcolumn
    rcases Table.mem_insert.1 hr with hr | rfl <;> rcases Table.mem_insert.1 hs with hs | rfl
    · exact h r hr s hs column hcolumn
    · exact hsame r hr column hcolumn
    · exact (hsame s hs column hcolumn).symm
    · rfl

theorem agree_save_iff (h : Agree t) (hr : r ∈ t.rows) : Agree (t.save r.id a) ↔
    ∀ s ∈ t.rows, s.id ≠ r.id → ∀ column ∈ shared, s.attr column = a column := by
  constructor
  · intro h' s hs hne
    exact h' s (Table.mem_save.2 (Or.inl ⟨hs, hne⟩)) _ (Table.mem_save.2 (Or.inr ⟨rfl, r, hr, rfl⟩))
  · intro hsame s hs s' hs' column hcolumn
    rcases Table.mem_save.1 hs with ⟨hs, hne⟩ | ⟨rfl, -⟩ <;>
      rcases Table.mem_save.1 hs' with ⟨hs', hne'⟩ | ⟨rfl, -⟩
    · exact h s hs s' hs' column hcolumn
    · exact hsame s hs hne column hcolumn
    · exact (hsame s' hs' hne' column hcolumn).symm
    · rfl

/-- The credentials that are written are those of some rows : where rows agree, there is an API
id to copy, or the rows have `NULL`. -/
theorem credentials_iff (h : Agree t) {rows : List Line} (hsub : rows ⊆ t.rows) :
    (∀ r ∈ rows, r.attr .apiId = withCredentials t a .apiId ∧
        r.attr .apiHash = withCredentials t a .apiHash) ↔
      (∃ r ∈ t.rows, hasApiId r = true) ∨
        ∀ r ∈ rows, r.attr .apiId = none ∧ r.attr .apiHash = none := by
  unfold withCredentials
  cases hfind : t.rows.find? hasApiId with
  | none =>
    have hnone : ¬∃ r ∈ t.rows, hasApiId r = true := by
      rintro ⟨r, hr, hid⟩
      exact List.find?_eq_none.1 hfind r hr hid
    simp [hnone]
  | some old =>
    have hmem := List.mem_of_find?_eq_some hfind
    refine iff_of_true (fun r hr => ?_) (Or.inl ⟨old, hmem, List.find?_some hfind⟩)
    exact ⟨h r (hsub hr) old hmem .apiId (by simp [shared]),
      h r (hsub hr) old hmem .apiHash (by simp [shared])⟩

/-- The row that is written agrees with another if its credentials do, and its other settings. -/
theorem forall_shared_iff {x y : Attributes} : (∀ column ∈ shared, x column = y column) ↔
    (∀ column ∈ defaulted, x column = y column) ∧ x .apiId = y .apiId ∧ x .apiHash = y .apiHash := by
  simp only [shared, defaulted, List.forall_mem_cons, List.not_mem_nil, false_implies,
    implies_true, and_true]
  tauto

theorem withCredentials_of_mem (hcolumn : column ∈ defaulted) :
    withCredentials t a column = a column := by
  simp only [defaulted, List.mem_cons, List.not_mem_nil, or_false] at hcolumn
  rcases hcolumn with rfl | rfl | rfl | rfl | rfl <;> rfl

theorem fill_postedPhone_of_mem (hcolumn : column ∈ defaulted) :
    fill (postedPhone phoneNumber) a column = a column := by
  simp only [defaulted, List.mem_cons, List.not_mem_nil, or_false] at hcolumn
  rcases hcolumn with rfl | rfl | rfl | rfl | rfl <;> rfl

/-- A line is added. -/
theorem agree_insert_line_iff (h : Agree t) :
    Agree (t.insert skipped (withCredentials t (fill (postedPhone phoneNumber) .default))) ↔
      (∀ r ∈ t.rows, ∀ column ∈ defaulted, r.attr column = some "") ∧
        ((∃ r ∈ t.rows, hasApiId r = true) ∨
          ∀ r ∈ t.rows, r.attr .apiId = none ∧ r.attr .apiHash = none) := by
  have hdefault : ∀ column ∈ defaulted, withCredentials t
      (fill (postedPhone phoneNumber) .default) column = some "" := by
    intro column hcolumn
    rw [withCredentials_of_mem hcolumn, fill_postedPhone_of_mem hcolumn]
    simp only [defaulted, List.mem_cons, List.not_mem_nil, or_false] at hcolumn
    rcases hcolumn with rfl | rfl | rfl | rfl | rfl <;> rfl
  rw [agree_insert_iff h, ← credentials_iff h (List.Subset.refl _)]
  simp only [forall_shared_iff]
  constructor
  · intro hsame
    refine ⟨fun r hr column hcolumn => ?_, fun r hr => (hsame r hr).2⟩
    exact ((hsame r hr).1 column hcolumn).trans (hdefault column hcolumn)
  · rintro ⟨hdefaulted, hcredentials⟩ r hr
    refine ⟨fun column hcolumn => ?_, hcredentials r hr⟩
    exact (hdefaulted r hr column hcolumn).trans (hdefault column hcolumn).symm

/-- The other rows than one. -/
theorem length_eq_one_iff (hr : r ∈ t.rows) :
    t.rows.length = 1 ↔ ∀ s ∈ t.rows, s.id = r.id := by
  constructor
  · intro hlen s hs
    obtain ⟨x, hx⟩ := List.length_eq_one_iff.1 hlen
    rw [hx, List.mem_singleton] at hr hs
    rw [hr, hs]
  · intro hall
    have hids : t.rows.map (·.id) = List.replicate t.rows.length r.id := by
      refine List.eq_replicate_iff.2 ⟨by simp, fun k hk => ?_⟩
      obtain ⟨s, hs, rfl⟩ := List.mem_map.1 hk
      exact hall s hs
    have hle : t.rows.length ≤ 1 := List.nodup_replicate.1 (hids ▸ t.nodup_ids)
    have hpos : 0 < t.rows.length := List.length_pos_of_mem hr
    omega

/-- A line is edited. -/
theorem agree_save_line_iff (h : Agree t) (hr : r ∈ t.rows) :
    Agree (t.save r.id (withCredentials t (fill (postedPhone phoneNumber) r.attr))) ↔
      t.rows.length = 1 ∨ (∃ s ∈ t.rows, hasApiId s = true) ∨
        ∀ s ∈ t.rows, s.attr .apiId = none ∧ s.attr .apiHash = none := by
  have hothers : (t.rows.filter fun s => decide (s.id ≠ r.id)) ⊆ t.rows :=
    fun s hs => List.mem_of_mem_filter hs
  have hnull : (∀ s ∈ t.rows, s.id ≠ r.id → s.attr .apiId = none ∧ s.attr .apiHash = none) ↔
      t.rows.length = 1 ∨ ∀ s ∈ t.rows, s.attr .apiId = none ∧ s.attr .apiHash = none := by
    rw [length_eq_one_iff hr]
    constructor
    · intro hnull
      by_cases hone : ∀ s ∈ t.rows, s.id = r.id
      · exact Or.inl hone
      · push Not at hone
        obtain ⟨s, hs, hne⟩ := hone
        refine Or.inr fun s' hs' => ?_
        rw [h s' hs' s hs .apiId (by simp [shared]), h s' hs' s hs .apiHash (by simp [shared])]
        exact hnull s hs hne
    · rintro (hone | hnull) s hs hne
      · exact absurd (hone s hs) hne
      · exact hnull s hs
  have hkept : ∀ s ∈ t.rows, ∀ column ∈ defaulted, s.attr column =
      withCredentials t (fill (postedPhone phoneNumber) r.attr) column := by
    intro s hs column hcolumn
    rw [withCredentials_of_mem hcolumn, fill_postedPhone_of_mem hcolumn]
    refine h s hs r hr column ?_
    simp only [defaulted, List.mem_cons, List.not_mem_nil, or_false] at hcolumn
    rcases hcolumn with rfl | rfl | rfl | rfl | rfl <;> simp [shared]
  have hcredentials := credentials_iff (a := fill (postedPhone phoneNumber) r.attr) h hothers
  simp only [List.mem_filter, decide_eq_true_eq, and_imp] at hcredentials
  rw [agree_save_iff h hr, or_left_comm, ← hnull, ← hcredentials]
  simp only [forall_shared_iff]
  constructor
  · exact fun hsame s hs hne => (hsame s hs hne).2
  · exact fun hsame s hs hne => ⟨hkept s hs, hsame s hs hne⟩

theorem agree_deleteAction (h : Agree t) (hdelete : deleteAction id t = some t') : Agree t' := by
  unfold deleteAction at hdelete
  cases hfind : t.rows.find? (hasId id) with
  | none => simp [hfind] at hdelete
  | some record =>
    have hmem := List.mem_of_find?_eq_some hfind
    simp only [hfind] at hdelete
    split_ifs at hdelete
    · obtain rfl := Option.some.inj hdelete
      refine (agree_save_iff h hmem).2 fun s hs _ column hcolumn => ?_
      have hphone : column ≠ .phoneNumber := by
        rintro rfl
        simp [shared] at hcolumn
      rw [Function.update_of_ne hphone]
      exact h s hs record hmem column hcolumn
    · obtain rfl := Option.some.inj hdelete
      exact h.delete record.id

/-- Rows that agree still agree after an action exactly when what it writes is what they
have. -/
theorem agree_step_iff {act : Action} (h : Agree t) (hstep : Step t act t') :
    Agree t' ↔ Keeps t act := by
  cases act with
  | save data skipped =>
    obtain rfl := Option.some.inj hstep
    exact iff_of_true (agree_saveAction data skipped t) trivial
  | delete id => exact iff_of_true (agree_deleteAction h hstep) trivial
  | saveTableData rowId phoneNumber skipped =>
    simp only [Step, next, saveTableDataAction] at hstep
    split_ifs at hstep
    cases hfind : t.rows.find? (hasId rowId) with
    | none =>
      have hnew : ¬∃ r ∈ t.rows, hasId rowId r = true := by
        rintro ⟨r, hr, hid⟩
        exact List.find?_eq_none.1 hfind r hr hid
      rw [hfind] at hstep
      obtain rfl := Option.some.inj hstep
      rw [agree_insert_line_iff h, Keeps]
      simp only [hnew, false_or, false_and]
    | some line =>
      have hmem := List.mem_of_find?_eq_some hfind
      have hold : ∃ r ∈ t.rows, hasId rowId r = true :=
        ⟨line, hmem, List.find?_some hfind⟩
      rw [hfind] at hstep
      obtain rfl := Option.some.inj hstep
      rw [agree_save_line_iff h hmem, Keeps]
      simp only [hold, true_or, true_and]

/-- The last row is not deleted. -/
theorem ne_nil_of_step {act : Action} (h : t.rows ≠ []) (hstep : Step t act t') :
    t'.rows ≠ [] := by
  cases act with
  | save data skipped =>
    obtain rfl := Option.some.inj hstep
    unfold saveAction
    split <;> simp [share, Table.modify, Table.insert, Table.save, h]
  | saveTableData rowId phoneNumber skipped =>
    simp only [Step, next, saveTableDataAction] at hstep
    split_ifs at hstep
    split at hstep <;> obtain rfl := Option.some.inj hstep
    · simp [Table.save, h]
    · simp [Table.insert]
  | delete id =>
    simp only [Step, next, deleteAction] at hstep
    split at hstep
    · simp at hstep
    · rename_i record hfind
      have hmem := List.mem_of_find?_eq_some hfind
      split_ifs at hstep with hlen <;> obtain rfl := Option.some.inj hstep
      · simp [Table.save, h]
      · intro hnil
        refine hlen ((length_eq_one_iff hmem).2 fun s hs => ?_)
        by_contra hne
        exact List.not_mem_nil (hnil ▸ Table.mem_delete.2 ⟨hs, hne⟩)

end actions

/-! ## Every run -/

theorem agree_of_length_eq_one {t : Table Attributes} (h : t.rows.length = 1) : Agree t := by
  obtain ⟨x, hx⟩ := List.length_eq_one_iff.1 h
  intro r hr s hs column _
  rw [hx, List.mem_singleton] at hr hs
  rw [hr, hs]

/-- In every run from a table with one row, all of whose actions write what the rows have, the
table is not empty and its rows have the same shared settings. -/
theorem agree_of_run {t₀ t : Table Attributes} {acts : List Action} (hstart : t₀.rows.length = 1)
    (hrun : Run (Restrict Step Keeps) t₀ acts t) : t.rows ≠ [] ∧ Agree t := by
  have hne : t₀.rows ≠ [] := by
    intro hnil
    simp [hnil] at hstart
  refine hrun.invariant (fun t => t.rows ≠ [] ∧ Agree t) ?_ ⟨hne, agree_of_length_eq_one hstart⟩
  rintro t act t' ⟨hne, h⟩ ⟨hstep, hkeeps⟩
  exact ⟨ne_nil_of_step hne hstep, (agree_step_iff h hstep).2 hkeeps⟩

instance (t : Table Attributes) : DecidablePred (Keeps t)
  | .save _ _ => inferInstanceAs (Decidable True)
  | .delete _ => inferInstanceAs (Decidable True)
  | .saveTableData rowId _ _ => inferInstanceAs (Decidable (
      ((∃ r ∈ t.rows, hasId rowId r = true) ∨
        ∀ r ∈ t.rows, ∀ column ∈ defaulted, r.attr column = some "") ∧
      (((∃ r ∈ t.rows, hasId rowId r = true) ∧ t.rows.length = 1) ∨
        (∃ r ∈ t.rows, hasApiId r = true) ∨
        ∀ r ∈ t.rows, r.attr .apiId = none ∧ r.attr .apiHash = none)))

/-- A table with one line, whose keyboard text is set. -/
def oneLine (keyboardText : String) : Table Attributes where
  rows := [⟨1, fun
    | .apiId => some "94575"
    | .apiHash => some "a3406de8d171"
    | .phoneNumber => some "79000000001"
    | .keyboardText => some keyboardText
    | column => Attributes.default column⟩]
  sorted := List.pairwise_singleton _ _

/-- A second line is added, the settings are saved, and the first line is deleted. -/
def editedRun : List Action := [
  .saveTableData "new" "79000000002" 0,
  .save (fun
    | .keyboardText => some "1 : sales"
    | _ => none) 0,
  .delete "1"]

theorem agree_of_run_edited :
    (exec (guarded Keeps next) (oneLine "") editedRun).map (·.rows.map (·.id)) = some [2] ∧
    ∀ t, exec (guarded Keeps next) (oneLine "") editedRun = some t → t.rows ≠ [] ∧ Agree t :=
  ⟨by decide, fun _ h => agree_of_run rfl (Run.of_guarded (fun _ _ _ hnext => hnext) h)⟩

/-- A line that is added where the keyboard text is set does not get the text. -/
theorem disagree_of_added :
    ∃ t, Run Step (oneLine "1 : sales") [.saveTableData "new" "79000000002" 0] t ∧ ¬Agree t := by
  refine ⟨_, Run.one rfl, fun h => ?_⟩
  have hone : Agree (oneLine "1 : sales") := agree_of_length_eq_one rfl
  have hsame := (agree_insert_iff hone).1 h _ (List.mem_singleton.2 rfl) .keyboardText (by decide)
  exact absurd hsame (by decide)

end Controller

end TelegramProvider
