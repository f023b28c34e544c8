import Mathlib.Data.List.Basic
import Mathlib.Data.List.Nodup
import Mathlib.Data.List.Perm.Subperm
import Mathlib.Logic.Function.Basic

/-!
# Pools of buffers

A pool has a fixed number of buffers and lends the first that is not in use. A buffer is given back
by its handle, and it is a fault to give back what is not a buffer of the pool.

`Pool.Holds` says that the buffers in use are those of a list, each once. While it does, a buffer is
lent whenever the list is shorter than the pool (`Holds.exists_get`), giving back a buffer of the list
is no fault (`Holds.exists_reuse`), and what is written to one buffer is not read from another.
-/

set_option autoImplicit false

namespace Pools

variable {α : Type*}

/-- The buffers below `count`, which are in use, and what was written to them. -/
structure Pool (α : Type*) where
  count : ℕ
  used : ℕ → Bool
  memory : ℕ → List α

namespace Pool

/-- The first buffer that is not in use. -/
def get (p : Pool α) : Option (ℕ × Pool α) :=
  ((List.range p.count).find? fun i => !p.used i).map fun i =>
    (i, { p with used := Function.update p.used i true })

/-- Give a buffer back, or `none` for what is no buffer of the pool. -/
def reuse (p : Pool α) : Option ℕ → Option (Pool α)
  | none => none
  | some i => if i < p.count then some { p with used := Function.update p.used i false } else none

/-- Write to the beginning of a buffer. -/
def write (i : ℕ) (data : List α) (p : Pool α) : Pool α :=
  { p with memory := Function.update p.memory i (data ++ (p.memory i).drop data.length) }

/-- Read from the beginning of a buffer. -/
def read (i n : ℕ) (p : Pool α) : List α :=
  (p.memory i).take n

/-- The buffers in use are those of the list, each once. -/
def Holds (p : Pool α) (held : List ℕ) : Prop :=
  held.Nodup ∧ ∀ i, i ∈ held ↔ i < p.count ∧ p.used i = true

variable {p p' : Pool α} {held held' pre post : List ℕ} {i j n : ℕ} {data : List α}

@[simp] theorem write_count : (p.write i data).count = p.count := rfl
@[simp] theorem write_used : (p.write i data).used = p.used := rfl

@[simp] theorem read_write_self : (p.write i data).read i data.length = data := by
  simp [read, write]

theorem read_write_of_length (h : data.length = n) : (p.write i data).read i n = data := by
  rw [← h, read_write_self]

theorem read_write_of_ne (h : j ≠ i) : (p.write i data).read j n = p.read j n := by
  simp [read, write, h]

/-- What is given back stays as it was written until it is lent again. -/
theorem read_of_reuse (h : p.reuse (some i) = some p') : p'.read j n = p.read j n := by
  simp only [reuse] at h
  split_ifs at h
  obtain rfl := Option.some.inj h
  rfl

theorem Holds.perm (h : p.Holds held) (hperm : held.Perm held') : p.Holds held' :=
  ⟨hperm.nodup_iff.1 h.1, fun i => hperm.mem_iff.symm.trans (h.2 i)⟩

theorem Holds.write (h : p.Holds held) (i : ℕ) (data : List α) : (p.write i data).Holds held :=
  h

/-- A buffer that is lent was not in use. -/
theorem Holds.of_get (h : p.Holds held) (hget : p.get = some (i, p')) :
    i ∉ held ∧ p' = { p with used := Function.update p.used i true } ∧ p'.Holds (i :: held) := by
  obtain ⟨j, hfind, heq⟩ := Option.map_eq_some_iff.1 hget
  obtain ⟨rfl, rfl⟩ := Prod.mk.inj heq
  have hj : j < p.count := List.mem_range.1 (List.mem_of_find?_eq_some hfind)
  have hunused : p.used j = false := by simpa using List.find?_some hfind
  have hnew : j ∉ held := fun hmem => by
    rw [((h.2 j).1 hmem).2] at hunused
    exact Bool.noConfusion hunused
  refine ⟨hnew, rfl, List.nodup_cons.2 ⟨hnew, h.1⟩, fun k => ?_⟩
  by_cases hk : k = j
  · subst hk
    simp [hj]
  · simp [hk, h.2 k]

/-- What is in a buffer that is in use stays there while another is lent and written. -/
theorem Holds.read_write_of_get (h : p.Holds held) (hget : p.get = some (i, p')) (hj : j ∈ held) :
    (p'.write i data).read j n = p.read j n := by
  obtain ⟨hnew, rfl, -⟩ := h.of_get hget
  have hne : j ≠ i := fun heq => hnew (heq ▸ hj)
  rw [read_write_of_ne hne]
  rfl

/-- There are not more buffers in use than there are. -/
theorem Holds.length_le (h : p.Holds held) : held.length ≤ p.count := by
  have hsub : held ⊆ List.range p.count := fun i hi => List.mem_range.2 ((h.2 i).1 hi).1
  simpa using (List.Nodup.subperm h.1 hsub).length_le

/-- If no buffer can be lent, all are in use. -/
theorem Holds.le_length (h : p.Holds held) (hget : p.get = none) : p.count ≤ held.length := by
  have hnone := List.find?_eq_none.1 (Option.map_eq_none_iff.1 hget)
  have hsub : List.range p.count ⊆ held := fun i hi =>
    (h.2 i).2 ⟨List.mem_range.1 hi, by simpa using hnone i hi⟩
  simpa using (List.Nodup.subperm List.nodup_range hsub).length_le

/-- There is a buffer to lend while fewer are in use than there are. -/
theorem Holds.exists_get (h : p.Holds held) (hlen : held.length < p.count) :
    ∃ i, i ∉ held ∧ p.get = some (i, { p with used := Function.update p.used i true }) ∧
      Holds { p with used := Function.update p.used i true } (i :: held) := by
  cases hget : p.get with
  | none =>
    have := h.le_length hget
    omega
  | some lent =>
    obtain ⟨i, p'⟩ := lent
    obtain ⟨hnew, rfl, hholds⟩ := h.of_get hget
    exact ⟨i, hnew, rfl, hholds⟩

/-- A buffer that is in use can be given back. -/
theorem Holds.exists_reuse (h : p.Holds (pre ++ i :: post)) :
    p.reuse (some i) = some { p with used := Function.update p.used i false } ∧
      Holds { p with used := Function.update p.used i false } (pre ++ post) := by
  have hi := ((h.2 i).1 (by simp)).1
  obtain ⟨hnew, hnodup⟩ := List.nodup_middle.1 h.1 |> List.nodup_cons.1
  refine ⟨by simp [reuse, hi], hnodup, fun j => ?_⟩
  have hmem := h.2 j
  by_cases hj : j = i
  · subst hj
    simpa using hnew
  · simpa [hj] using hmem

theorem Holds.exists_reuse_head (h : p.Holds (i :: post)) :
    p.reuse (some i) = some { p with used := Function.update p.used i false } ∧
      Holds { p with used := Function.update p.used i false } post :=
  exists_reuse (show p.Holds ([] ++ i :: post) from h)

end Pool

end Pools
