import Mathlib.Data.List.Basic
import Mathlib.Data.List.Nodup
import Mathlib.Logic.Function.Basic

/-!
# Tables with ids

A table of a database whose rows have an integer primary key : the rows in the order of
their ids, which is the order a query without one returns them in. A new row gets an id
above all that are there, so it comes last (`Table.insert`); the ids of the rows that are
there never change.

Files are a map from names to values; a list of writes leaves in a file what was written to
it last (`puts`).
-/

set_option autoImplicit false

namespace Records

variable {α β : Type*}

/-- A row : its primary key and its other columns. -/
structure Row (α : Type*) where
  id : ℕ
  attr : α

/-- The rows of a table. -/
structure Table (α : Type*) where
  rows : List (Row α)
  sorted : rows.Pairwise fun r s => r.id < s.id

namespace Table

variable {t : Table α} {r s : Row α} {id skipped : ℕ} {a : α} {f : α → α}

/-- The id after the last one. -/
def nextId (t : Table α) : ℕ :=
  (t.rows.map (·.id)).max?.getD 0 + 1

theorem lt_nextId (hr : r ∈ t.rows) : r.id < t.nextId :=
  Nat.lt_succ_of_le (List.le_max?_getD_of_mem (List.mem_map_of_mem hr))

/-- Insert a row. Ids that were given to rows which are gone may be skipped. -/
def insert (skipped : ℕ) (a : α) (t : Table α) : Table α where
  rows := t.rows ++ [⟨t.nextId + skipped, a⟩]
  sorted := by
    refine List.pairwise_append.2 ⟨t.sorted, List.pairwise_singleton _ _, fun r hr s hs => ?_⟩
    rw [List.mem_singleton.1 hs]
    exact Nat.lt_add_right skipped (lt_nextId hr)

/-- Update the row with an id. -/
def save (id : ℕ) (a : α) (t : Table α) : Table α where
  rows := t.rows.map fun r => if r.id = id then ⟨id, a⟩ else r
  sorted := by
    refine List.pairwise_map.2 (t.sorted.imp fun {r s} hrs => ?_)
    split_ifs with hr hs hs <;> simp_all

/-- Update all rows. -/
def modify (f : α → α) (t : Table α) : Table α where
  rows := t.rows.map fun r => ⟨r.id, f r.attr⟩
  sorted := List.pairwise_map.2 (t.sorted.imp fun hrs => hrs)

/-- Delete the row with an id. -/
def delete (id : ℕ) (t : Table α) : Table α where
  rows := t.rows.filter fun r => decide (r.id ≠ id)
  sorted := t.sorted.filter _

theorem nodup_ids (t : Table α) : (t.rows.map (·.id)).Nodup :=
  List.pairwise_map.2 (t.sorted.imp Nat.ne_of_lt)

theorem ext {t' : Table α} (h : t.rows = t'.rows) : t = t' := by
  cases t
  cases t'
  cases h
  rfl

/-- The id is a key. -/
theorem eq_of_id_eq (hr : r ∈ t.rows) (hs : s ∈ t.rows) (h : r.id = s.id) : r = s :=
  List.inj_on_of_nodup_map t.nodup_ids hr hs h

theorem mem_insert : r ∈ (t.insert skipped a).rows ↔ r ∈ t.rows ∨ r = ⟨t.nextId + skipped, a⟩ := by
  simp [insert]

theorem mem_save : r ∈ (t.save id a).rows ↔
    (r ∈ t.rows ∧ r.id ≠ id) ∨ (r = ⟨id, a⟩ ∧ ∃ s ∈ t.rows, s.id = id) := by
  unfold save
  rw [List.mem_map]
  constructor
  · rintro ⟨s, hs, rfl⟩
    by_cases hid : s.id = id
    · exact Or.inr ⟨if_pos hid, s, hs, hid⟩
    · rw [if_neg hid]
      exact Or.inl ⟨hs, hid⟩
  · rintro (⟨hr, hid⟩ | ⟨rfl, s, hs, hid⟩)
    · exact ⟨r, hr, if_neg hid⟩
    · exact ⟨s, hs, if_pos hid⟩

/-- Other rows have other ids. -/
theorem save_split {pre post : List (Row α)} (h : t.rows = pre ++ r :: post) (a : α) :
    (t.save r.id a).rows = pre ++ ⟨r.id, a⟩ :: post := by
  have hsorted := t.sorted
  rw [h] at hsorted
  obtain ⟨-, hrest, hpre⟩ := List.pairwise_append.1 hsorted
  have hkeep : ∀ l : List (Row α), (∀ s ∈ l, s.id ≠ r.id) →
      (l.map fun s => if s.id = r.id then ⟨r.id, a⟩ else s) = l := by
    intro l hl
    calc (l.map fun s => if s.id = r.id then ⟨r.id, a⟩ else s) = l.map id :=
          List.map_congr_left fun s hs => if_neg (hl s hs)
      _ = l := List.map_id l
  calc (t.save r.id a).rows = (pre ++ r :: post).map fun s => if s.id = r.id then ⟨r.id, a⟩ else s :=
        congrArg _ h
    _ = pre ++ ⟨r.id, a⟩ :: post := by
        rw [List.map_append, List.map_cons, if_pos rfl,
          hkeep pre fun s hs => Nat.ne_of_lt (hpre s hs r List.mem_cons_self),
          hkeep post fun s hs => Nat.ne_of_gt ((List.pairwise_cons.1 hrest).1 s hs)]

theorem mem_modify : r ∈ (t.modify f).rows ↔ ∃ s ∈ t.rows, r = ⟨s.id, f s.attr⟩ := by
  simp [modify, eq_comm]

theorem mem_delete : r ∈ (t.delete id).rows ↔ r ∈ t.rows ∧ r.id ≠ id := by
  simp [delete]

end Table

/-! ## Writes -/

section puts

variable {κ : Type*} [DecidableEq κ] {ps : List (κ × α)} {files : κ → Option α} {k : κ} {a : α}

/-- Write values under names, one after the other. -/
def puts (ps : List (κ × α)) (files : κ → Option α) : κ → Option α :=
  ps.foldl (fun (files : κ → Option α) p => Function.update files p.1 (some p.2)) files

theorem puts_of_notMem (h : k ∉ ps.map Prod.fst) : puts ps files k = files k := by
  induction ps generalizing files with
  | nil => rfl
  | cons p ps ih =>
    rw [List.map_cons, List.mem_cons, not_or] at h
    exact (ih h.2).trans (Function.update_of_ne h.1 _ _)

theorem puts_of_mem (hnodup : (ps.map Prod.fst).Nodup) (hmem : (k, a) ∈ ps) :
    puts ps files k = some a := by
  induction ps generalizing files with
  | nil => simp at hmem
  | cons p ps ih =>
    obtain ⟨hnot, hnodup⟩ := List.nodup_cons.1 hnodup
    rcases List.mem_cons.1 hmem with rfl | hmem
    · exact (puts_of_notMem hnot).trans (Function.update_self _ _ _)
    · exact ih hnodup hmem

end puts

end Records
