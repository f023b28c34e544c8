import Mathlib.Data.List.Basic
import Mathlib.Data.List.Induction
import Mathlib.Data.List.Pairwise

/-!
# Histories

A history is a list to which entries are appended. An order of events is stated over it as
a rule `ok pre o` : the entry `o` may follow the entries `pre`. `Justified ok h` says that
every entry of `h` may follow those before it; `After ok pre obs` says the same of the new
entries `obs` alone, where a system that appends several at once has to show it
(`justified_append`).

A split of a history with one more entry is at that entry or in the history before it
(`split_snoc`).
-/

set_option autoImplicit false

namespace Histories

variable {α : Type*} {ok : List α → α → Prop} {h pre post obs obs' : List α} {o o' : α}

/-- Each of the new entries may follow `pre` and the new entries before it. -/
def After (ok : List α → α → Prop) : List α → List α → Prop
  | _, [] => True
  | pre, o :: obs => ok pre o ∧ After ok (pre ++ [o]) obs

/-- Each entry may follow those before it. -/
def Justified (ok : List α → α → Prop) (h : List α) : Prop :=
  ∀ pre o post, h = pre ++ o :: post → ok pre o

theorem split_snoc (hsplit : h ++ [o] = pre ++ o' :: post) :
    (h = pre ∧ o = o' ∧ post = []) ∨ ∃ post', post = post' ++ [o] ∧ h = pre ++ o' :: post' := by
  rcases List.append_eq_append_iff.1 hsplit with ⟨between, rfl, hlast⟩ | ⟨between, rfl, hlast⟩
  · cases between with
    | nil =>
      obtain ⟨rfl, rfl⟩ := List.cons.inj hlast
      exact Or.inl ⟨(List.append_nil h).symm, rfl, rfl⟩
    | cons x xs => simp at hlast
  · cases between with
    | nil =>
      obtain ⟨rfl, rfl⟩ := List.cons.inj hlast
      exact Or.inl ⟨List.append_nil pre, rfl, rfl⟩
    | cons x xs =>
      obtain ⟨rfl, rfl⟩ := List.cons.inj hlast
      exact Or.inr ⟨xs, rfl, rfl⟩

theorem justified_nil : Justified ok [] := by
  intro pre o post h
  simp at h

theorem justified_snoc : Justified ok (h ++ [o]) ↔ Justified ok h ∧ ok h o := by
  constructor
  · intro hj
    refine ⟨fun pre o' post hsplit => ?_, hj h o [] rfl⟩
    exact hj pre o' (post ++ [o]) (by simp [hsplit])
  · rintro ⟨hj, ho⟩ pre o' post hsplit
    rcases split_snoc hsplit with ⟨rfl, rfl, -⟩ | ⟨post', -, hsplit'⟩
    · exact ho
    · exact hj pre o' post' hsplit'

/-- What every entry has to all those before it holds of every pair. -/
theorem Justified.pairwise {R : α → α → Prop} (hj : Justified (fun pre o => ∀ o' ∈ pre, R o' o) h) :
    h.Pairwise R := by
  induction h using List.reverseRecOn with
  | nil => exact List.Pairwise.nil
  | append_singleton h o ih =>
    obtain ⟨hh, ho⟩ := justified_snoc.1 hj
    exact List.pairwise_append.2 ⟨ih hh, List.pairwise_singleton _ _, by simpa using ho⟩

/-- Entries may be appended to a history if they may follow it. -/
theorem justified_append : Justified ok (h ++ obs) ↔ Justified ok h ∧ After ok h obs := by
  induction obs generalizing h with
  | nil => simp [After]
  | cons o obs ih =>
    have hsnoc : h ++ o :: obs = (h ++ [o]) ++ obs := by simp
    rw [hsnoc, ih, justified_snoc, After, and_assoc]

/-- Entries that may follow anything may be appended. -/
theorem after_of_free (hfree : ∀ o ∈ obs, ∀ pre, ok pre o) : After ok pre obs := by
  induction obs generalizing pre with
  | nil => trivial
  | cons o obs ih =>
    exact ⟨hfree o (by simp) pre, ih fun o' ho' => hfree o' (by simp [ho'])⟩

theorem after_append : After ok pre (obs ++ obs') ↔
    After ok pre obs ∧ After ok (pre ++ obs) obs' := by
  induction obs generalizing pre with
  | nil => simp [After]
  | cons o obs ih => simp [After, ih, and_assoc]

end Histories
