import Mathlib.Data.List.Basic
import Mathlib.Data.List.Pairwise
import Mathlib.Logic.Function.Basic

/-!
# Tables searched by key

A table kept as a list is searched by a key, and its entries are replaced or removed in
place. A position splits the list into what is before it, the entry, and what is after it
(`exists_split_of_findIdx?`), and removing there leaves the other two (`eraseIdx_split`).

`UniqueKeys key null l` says that no two entries have the same key, except for `null`,
which stands for no key at all. It is kept by removing an entry, by clearing a key, and by
giving an entry a key that no other entry has (`UniqueKeys.replace`).

A map is a partial function. `emplace` inserts without overwriting, as `std::map::emplace`
does, and `erase` removes an entry.
-/

set_option autoImplicit false

namespace Keyed

variable {α κ : Type*} {l pre post : List α} {a a' : α}

/-! ## Positions -/

theorem exists_split_of_findIdx? {p : α → Bool} {i : ℕ} (h : l.findIdx? p = some i) :
    ∃ pre a post, l = pre ++ a :: post ∧ pre.length = i ∧ p a = true ∧ ∀ x ∈ pre, p x = false := by
  induction l generalizing i with
  | nil => simp at h
  | cons x l ih =>
    rw [List.findIdx?_cons] at h
    split_ifs at h with hx
    · obtain rfl := Option.some.inj h
      exact ⟨[], x, l, rfl, rfl, hx, by simp⟩
    · obtain ⟨j, hj, rfl⟩ := Option.map_eq_some_iff.1 h
      obtain ⟨pre, a, post, rfl, rfl, ha, hpre⟩ := ih hj
      refine ⟨x :: pre, a, post, rfl, rfl, ha, ?_⟩
      intro y hy
      rcases List.mem_cons.1 hy with rfl | hy
      · simpa using hx
      · exact hpre y hy

theorem findIdx?_split {p : α → Bool} (ha : p a = true) (hpre : ∀ x ∈ pre, p x = false) :
    (pre ++ a :: post).findIdx? p = some pre.length := by
  induction pre with
  | nil => simp [List.findIdx?_cons, ha]
  | cons x pre ih =>
    have hx := hpre x (by simp)
    rw [List.cons_append, List.findIdx?_cons, hx, ih fun y hy => hpre y (by simp [hy])]
    simp

@[simp] theorem getElem?_split : (pre ++ a :: post)[pre.length]? = some a := by
  simp

@[simp] theorem eraseIdx_split : (pre ++ a :: post).eraseIdx pre.length = pre ++ post := by
  simp [List.eraseIdx_append_of_length_le (k := pre.length) Nat.le.refl]

/-! ## Unique keys -/

/-- No two entries have the same key, unless the key is `null`. -/
def UniqueKeys (key : α → κ) (null : κ) (l : List α) : Prop :=
  l.Pairwise fun a b => key a = key b → key a = null

variable {key : α → κ} {null : κ}

theorem uniqueKeys_nil : UniqueKeys key null [] :=
  List.Pairwise.nil

/-- The entry at a position shares its key with no other entry. -/
theorem uniqueKeys_split : UniqueKeys key null (pre ++ a :: post) ↔
    UniqueKeys key null (pre ++ post) ∧ ∀ b ∈ pre ++ post, key b = key a → key a = null := by
  have hsymm : ∀ x y : α, (key x = key y → key x = null) → key y = key x → key y = null :=
    fun x y h hyx => hyx.trans (h hyx.symm)
  unfold UniqueKeys
  rw [List.pairwise_middle (fun {x y} => hsymm x y), List.pairwise_cons]
  constructor
  · rintro ⟨ha, hrest⟩
    exact ⟨hrest, fun b hb hba => ha b hb hba.symm⟩
  · rintro ⟨hrest, ha⟩
    exact ⟨fun b hb hba => ha b hb hba.symm, hrest⟩

theorem UniqueKeys.remove (h : UniqueKeys key null (pre ++ a :: post)) :
    UniqueKeys key null (pre ++ post) :=
  (uniqueKeys_split.1 h).1

/-- An entry may be replaced by one with the same key, no key, or a key no other entry has. -/
theorem UniqueKeys.replace (h : UniqueKeys key null (pre ++ a :: post))
    (ha : key a' = key a ∨ key a' = null ∨ ∀ b ∈ pre ++ post, key b ≠ key a') :
    UniqueKeys key null (pre ++ a' :: post) := by
  obtain ⟨hrest, hold⟩ := uniqueKeys_split.1 h
  refine uniqueKeys_split.2 ⟨hrest, fun b hb hba => ?_⟩
  rcases ha with heq | hnull | hfresh
  · rw [heq] at hba ⊢
    exact hold b hb hba
  · exact hnull
  · exact absurd hba (hfresh b hb)

/-- An entry with no key, or with a key no entry has, may be appended. -/
theorem UniqueKeys.append (h : UniqueKeys key null l)
    (ha : key a = null ∨ ∀ b ∈ l, key b ≠ key a) : UniqueKeys key null (l ++ [a]) := by
  refine uniqueKeys_split.2 ⟨by simpa using h, fun b hb hba => ?_⟩
  rcases ha with hnull | hfresh
  · exact hnull
  · exact absurd hba (hfresh b (by simpa using hb))

/-- Every other entry has a key different from the one at the position. -/
theorem UniqueKeys.ne_of_mem (h : UniqueKeys key null (pre ++ a :: post)) (hnull : key a ≠ null) :
    ∀ b ∈ pre ++ post, key b ≠ key a :=
  fun b hb hba => hnull ((uniqueKeys_split.1 h).2 b hb hba)

/-! ## Maps -/

section maps

variable [DecidableEq κ] {m : κ → Option α} {k k' : κ}

/-- Insert `a` at `k` unless there is an entry already. -/
def emplace (m : κ → Option α) (k : κ) (a : α) : κ → Option α :=
  if (m k).isSome then m else Function.update m k (some a)

/-- Remove the entry at `k`. -/
def erase (m : κ → Option α) (k : κ) : κ → Option α :=
  Function.update m k none

@[simp] theorem erase_self : erase m k k = none := by
  simp [erase]

theorem erase_of_none (h : m k = none) : erase m k = m :=
  Function.update_eq_self_iff.2 h.symm

theorem erase_of_ne (h : k' ≠ k) : erase m k k' = m k' := by
  simp [erase, h]

/-- An entry that survives an erasure was there before, at another key. -/
theorem erase_eq_some_iff : erase m k k' = some a ↔ k' ≠ k ∧ m k' = some a := by
  by_cases h : k' = k
  · subst h
    simp
  · simp [erase_of_ne h, h]

theorem emplace_of_none (h : m k = none) : emplace m k a = Function.update m k (some a) := by
  simp [emplace, h]

@[simp] theorem emplace_self_of_none (h : m k = none) : emplace m k a k = some a := by
  simp [emplace_of_none h]

theorem emplace_of_ne (h : k' ≠ k) : emplace m k a k' = m k' := by
  unfold emplace
  split_ifs <;> simp [h]

/-- An entry that is there comes before the one that is inserted. -/
theorem emplace_apply (m : κ → Option α) (k : κ) (a : α) (k' : κ) :
    emplace m k a k' = (m k').or (if k = k' then some a else none) := by
  by_cases hk : k = k'
  · subst hk
    cases hm : m k with
    | none => simp [hm]
    | some b => simp [emplace, hm]
  · rw [emplace_of_ne (Ne.symm hk), if_neg hk, Option.or_none]

end maps

end Keyed
