import TelegramProvider.Controller

/-!
# Saving the form

`saveAction` begins a transaction, saves the record of the form, and answers with an error and a
rollback if that fails. Then it copies the shared settings to all rows, and saves each of them.
What these saves return is not looked at, and the transaction is committed.

`atomic_saveAction_iff` : the rows have the new settings, or are what they were, just when the
record can not be saved, or no row that can not be saved needs to be. Where all rows can be saved
the action is the one of the settings page (`saveAction_of_saved`).
-/

set_option autoImplicit false

namespace TelegramProvider

open Records

namespace Controller

/-! ## The action -/

/-- The database : what is committed, and what a transaction has written. -/
structure Db where
  committed : Table Attributes
  pending : Option (Table Attributes)

namespace Db

/-- The table as the connection sees it. -/
def table (db : Db) : Table Attributes :=
  db.pending.getD db.committed

/-- `begin`. -/
def begin (db : Db) : Db :=
  { db with pending := some db.table }

/-- Write the table. -/
def write (t : Table Attributes) (db : Db) : Db :=
  match db.pending with
  | some _ => { db with pending := some t }
  | none => { db with committed := t }

/-- `commit`. -/
def commit (db : Db) : Db :=
  ⟨db.table, none⟩

/-- `rollback`. -/
def rollback (db : Db) : Db :=
  ⟨db.committed, none⟩

end Db

/-- How the saves end : that of the record, with messages if it fails, and those of the rows, by
their positions. -/
structure Saves where
  record : Except (List String) Unit
  rows : ℕ → Bool

/-- What the page is told, and what it shows. -/
structure Answer where
  success : Bool
  flash : String
  deriving DecidableEq, Repr

/-- The values of a row with the shared settings of a record. -/
def copyShared (record attr : Attributes) : Attributes := fun column =>
  if column ∈ shared then record column else attr column

/-- The loop over the rows, from a position on. -/
def saveRows (saved : ℕ → Bool) (record : Attributes) (t : Table Attributes) :
    ℕ → List Line → Table Attributes
  | _, [] => t
  | n, line :: lines =>
    let t' := if saved n then t.save line.id (copyShared record line.attr) else t
    saveRows saved record t' (n + 1) lines

/-- The record the form is for : the first row, or a new one. -/
def recordOf (t : Table Attributes) : Attributes :=
  (t.rows.head?.map (·.attr)).getD .default

/-- `$record->save()`, where it succeeds. -/
def saveRecord (record : Attributes) (skipped : ℕ) (t : Table Attributes) : Table Attributes :=
  match t.rows.head? with
  | some line => t.save line.id record
  | none => t.insert skipped record

/-- `saveAction`, where saves may fail. -/
def saveActionWith (saves : Saves) (data : Column → Option String) (skipped : ℕ) (db : Db) :
    Answer × Db :=
  let record := fill data (recordOf db.table)
  let db := db.begin
  match saves.record with
  | .error messages => (⟨false, "<br>".intercalate messages⟩, db.rollback)
  | .ok () =>
    let t := saveRecord record skipped db.table
    let db := db.write (saveRows saves.rows record t 0 t.rows)
    (⟨true, "ms_SuccessfulSaved"⟩, db.commit)

/-- All or nothing : where it succeeds all rows have the new settings, where it fails the table is
what it was, and the transaction is closed. -/
structure Atomic (data : Column → Option String) (t : Table Attributes) (answer : Answer)
    (db : Db) : Prop where
  succeeds : answer.success = true → ∀ line ∈ db.committed.rows, ∀ column ∈ shared,
    line.attr column = fill data (recordOf t) column
  fails : answer.success = false → db.committed = t
  closed : db.pending = none

/-! ## The rows behind the loop -/

section rows

variable {saved : ℕ → Bool} {record : Attributes} {t : Table Attributes} {n : ℕ}
  {pre lines : List Line} {column : Column}

/-- The row at a position behind the loop. -/
def savedRow (saved : ℕ → Bool) (record : Attributes) (n : ℕ) (line : Line) : Line :=
  if saved n then ⟨line.id, copyShared record line.attr⟩ else line

/-- The loop saves the rows in place. -/
theorem rows_saveRows (h : t.rows = pre ++ lines) : (saveRows saved record t n lines).rows =
    pre ++ lines.mapIdx fun i line => savedRow saved record (n + i) line := by
  induction lines generalizing t n pre with
  | nil => simpa [saveRows] using h
  | cons line lines ih =>
    have hrows : (if saved n then t.save line.id (copyShared record line.attr) else t).rows =
        (pre ++ [savedRow saved record n line]) ++ lines := by
      unfold savedRow
      split_ifs
      · rw [Table.save_split h, List.append_assoc]
        rfl
      · rw [h, List.append_assoc]
        rfl
    have hrest := ih (n := n + 1) hrows
    have hnext : ∀ i, n + 1 + i = n + (i + 1) := fun i => by omega
    simp only [hnext] at hrest
    rw [saveRows, hrest, List.mapIdx_cons, List.append_assoc]
    rfl

theorem copyShared_of_mem (h : column ∈ shared) (attr : Attributes) :
    copyShared record attr column = record column :=
  if_pos h

/-- The record is the first row, or the only one. -/
theorem exists_rows_saveRecord (record : Attributes) (skipped : ℕ) (t : Table Attributes) :
    ∃ id, (saveRecord record skipped t).rows = ⟨id, record⟩ :: t.rows.tail := by
  unfold saveRecord
  cases hrows : t.rows with
  | nil => exact ⟨t.nextId + skipped, by simp [Table.insert, hrows]⟩
  | cons line lines =>
    have hsplit : t.rows = [] ++ line :: lines := hrows
    exact ⟨line.id, Table.save_split hsplit record⟩

/-- Behind the loop all rows have the settings of the record just when those that were not saved had
them. -/
theorem forall_saveRows_iff {id : ℕ} {lines : List Line} (h : t.rows = ⟨id, record⟩ :: lines) :
    (∀ line ∈ (saveRows saved record t 0 t.rows).rows, ∀ column ∈ shared,
      line.attr column = record column) ↔
      ∀ n line, lines[n]? = some line → saved (n + 1) = false → ∀ column ∈ shared,
        line.attr column = record column := by
  have hfirst :
      ∀ column ∈ shared, (savedRow saved record 0 ⟨id, record⟩).attr column = record column := by
    intro column hcolumn
    unfold savedRow
    split_ifs
    · exact copyShared_of_mem hcolumn _
    · rfl
  have hsaved : ∀ n line, saved (n + 1) = true → ∀ column ∈ shared,
      (savedRow saved record (n + 1) line).attr column = record column := by
    intro n line hok column hcolumn
    rw [savedRow, if_pos hok]
    exact copyShared_of_mem hcolumn _
  have hnil : t.rows = [] ++ t.rows := (List.nil_append t.rows).symm
  rw [rows_saveRows hnil, h, List.nil_append, List.mapIdx_cons, List.forall_mem_cons]
  simp only [Nat.zero_add]
  constructor
  · rintro ⟨-, hrest⟩ n line hline hfail
    have hmem : savedRow saved record (n + 1) line ∈
        lines.mapIdx fun i line => savedRow saved record (i + 1) line :=
      List.mem_iff_getElem?.2 ⟨n, by rw [List.getElem?_mapIdx, hline]; rfl⟩
    have hrow : savedRow saved record (n + 1) line = line := by simp [savedRow, hfail]
    exact hrow ▸ hrest _ hmem
  · refine fun hsame => ⟨hfirst, fun row hrow => ?_⟩
    obtain ⟨n, hn⟩ := List.mem_iff_getElem?.1 hrow
    rw [List.getElem?_mapIdx] at hn
    obtain ⟨line, hline, rfl⟩ := Option.map_eq_some_iff.1 hn
    cases hok : saved (n + 1) with
    | true => exact hsaved n line hok
    | false =>
      have hkeep : savedRow saved record (n + 1) line = line := by simp [savedRow, hok]
      rw [hkeep]
      exact hsame n line hline hok

end rows

/-! ## The action as a whole -/

section action

variable {saves : Saves} {data : Column → Option String} {skipped : ℕ} {t : Table Attributes}

/-- Saving the form is all or nothing just when the record can not be saved, or every other row that
can not be has the new settings already. -/
theorem atomic_saveAction_iff (saves : Saves) (data : Column → Option String) (skipped : ℕ)
    (t : Table Attributes) :
    Atomic data t (saveActionWith saves data skipped ⟨t, none⟩).1
        (saveActionWith saves data skipped ⟨t, none⟩).2 ↔
      (∃ messages, saves.record = .error messages) ∨
        ∀ n line, t.rows[n + 1]? = some line → saves.rows (n + 1) = false →
          ∀ column ∈ shared, line.attr column = fill data (recordOf t) column := by
  cases hrecord : saves.record with
  | error messages =>
    refine iff_of_true ?_ (Or.inl ⟨messages, rfl⟩)
    simp only [saveActionWith, hrecord]
    exact ⟨fun h => absurd h (by simp), fun _ => rfl, rfl⟩
  | ok u =>
    obtain ⟨id, hrows⟩ := exists_rows_saveRecord (fill data (recordOf t)) skipped t
    have hiff : (∀ line ∈ (saveRows saves.rows _ _ 0 _).rows, _) ↔ _ := forall_saveRows_iff hrows
    have hdb : (saveActionWith saves data skipped ⟨t, none⟩).2 = ⟨saveRows saves.rows
        (fill data (recordOf t)) (saveRecord (fill data (recordOf t)) skipped t) 0
        (saveRecord (fill data (recordOf t)) skipped t).rows, none⟩ := by
      simp only [saveActionWith, hrecord]
      rfl
    have hanswer : (saveActionWith saves data skipped ⟨t, none⟩).1.success = true := by
      simp only [saveActionWith, hrecord]
    simp only [List.getElem?_tail] at hiff
    simp only [reduceCtorEq, exists_false, false_or]
    rw [← hiff, hdb]
    constructor
    · exact fun h => h.succeeds hanswer
    · exact fun h => ⟨fun _ => h, fun hfail => by simp [hanswer] at hfail, rfl⟩

/-- Where all saves succeed, this is the action of the settings page. -/
theorem saveAction_of_saved (hrecord : saves.record = .ok ()) (hrows : ∀ n, saves.rows n = true)
    (data : Column → Option String) (skipped : ℕ) (t : Table Attributes) :
    (saveActionWith saves data skipped ⟨t, none⟩).2.committed = saveAction data skipped t := by
  have hall : ∀ (record : Attributes) (t : Table Attributes),
      saveRows saves.rows record t 0 t.rows = share record t := by
    intro record t
    have hloop : (saveRows saves.rows record t 0 t.rows).rows = (share record t).rows := by
      have hnil : t.rows = [] ++ t.rows := (List.nil_append t.rows).symm
      rw [rows_saveRows hnil, List.nil_append]
      refine List.ext_getElem? fun n => ?_
      simp only [savedRow, hrows, if_true, List.getElem?_mapIdx]
      exact List.getElem?_map.symm
    exact Table.ext hloop
  have hcommitted : (saveActionWith saves data skipped ⟨t, none⟩).2.committed =
      share (fill data (recordOf t)) (saveRecord (fill data (recordOf t)) skipped t) := by
    rw [← hall]
    simp only [saveActionWith, hrecord]
    rfl
  rw [hcommitted]
  unfold saveAction saveRecord recordOf
  cases t.rows.head? <;> rfl

end action

/-- Two lines with different credentials. -/
def otherLines : Table Attributes where
  rows := [⟨1, Function.update Attributes.default .apiId (some "1")⟩,
    ⟨2, Function.update Attributes.default .apiId (some "2")⟩]
  sorted := by decide

/-- The second row can not be saved, the first one can. -/
def lostSave : Saves where
  record := .ok ()
  rows n := n = 0

/-- The page says that the settings are saved, and a row has the old ones. -/
theorem not_atomic_lostSave :
    ¬Atomic (fun _ => none) otherLines
      (saveActionWith lostSave (fun _ => none) 0 ⟨otherLines, none⟩).1
      (saveActionWith lostSave (fun _ => none) 0 ⟨otherLines, none⟩).2 := by
  intro h
  have hmem : ⟨2, Function.update Attributes.default .apiId (some "2")⟩ ∈
      (saveActionWith lostSave (fun _ => none) 0 ⟨otherLines, none⟩).2.committed.rows :=
    List.mem_of_getElem? (i := 1) rfl
  exact absurd (h.succeeds rfl _ hmem .apiId (by decide)) (by decide)

end Controller

end TelegramProvider
