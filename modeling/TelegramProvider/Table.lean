import Mathlib.Data.List.Basic

/-!
# Transition tables

A state machine written as a table : each row has a source state, a guard on the event, the
actions to run and the state it leads to. The first row whose source and guard match fires
(`fire`). A machine nested in a state of another is asked first, and its parent's rows are
tried only when none of its own fires (`within`).

The actions of a row run in order on a frame and the first failure ends them (`perform`).
-/

set_option autoImplicit false

namespace Table

/-- One row : in `src`, on an event that passes `guard`, run `actions` and go to `dst`. -/
structure Row (σ ε α : Type*) where
  src : σ
  guard : ε → Bool
  actions : List α
  dst : σ

variable {σ τ ε α φ χ : Type*}

/-- The state the first matching row leads to and the actions it runs. -/
def fire [DecidableEq σ] : List (Row σ ε α) → σ → ε → Option (σ × List α)
  | [], _, _ => none
  | r :: rows, s, e =>
    if r.src = s ∧ r.guard e = true then some (r.dst, r.actions) else fire rows s e

section fire

variable [DecidableEq σ] {rows : List (Row σ ε α)} {s s' : σ} {e : ε} {as : List α}

@[simp] theorem fire_nil : fire ([] : List (Row σ ε α)) s e = none :=
  rfl

theorem fire_cons (r : Row σ ε α) : fire (r :: rows) s e =
    if r.src = s ∧ r.guard e = true then some (r.dst, r.actions) else fire rows s e :=
  rfl

/-- What fires is a row of the table that starts in the state and accepts the event. -/
theorem exists_row_of_fire (h : fire rows s e = some (s', as)) :
    ∃ r ∈ rows, r.src = s ∧ r.guard e = true ∧ r.dst = s' ∧ r.actions = as := by
  induction rows with
  | nil => simp at h
  | cons r rows ih =>
    rw [fire_cons] at h
    split_ifs at h with hr
    · obtain ⟨rfl, rfl⟩ := Prod.mk.inj (Option.some.inj h)
      exact ⟨r, List.mem_cons_self, hr.1, hr.2, rfl, rfl⟩
    · obtain ⟨r', hmem, hrest⟩ := ih h
      exact ⟨r', List.mem_cons_of_mem _ hmem, hrest⟩

end fire

/-- A nested machine's step, embedded in the outer states, or else the parent's step. -/
def within (embed : σ → τ) (sub : Option (σ × List α)) (parent : Option (τ × List α)) :
    Option (τ × List α) :=
  match sub with
  | some (s, as) => some (embed s, as)
  | none => parent

theorem within_eq_some_iff {embed : σ → τ} {sub : Option (σ × List α)}
    {parent : Option (τ × List α)} {t : τ} {as : List α} :
    within embed sub parent = some (t, as) ↔
      (∃ s, sub = some (s, as) ∧ embed s = t) ∨ (sub = none ∧ parent = some (t, as)) := by
  rcases sub with _ | ⟨s, as'⟩
  · simp [within]
  · simp only [within, Option.some.injEq, Prod.mk.injEq, reduceCtorEq, false_and, or_false]
    constructor
    · rintro ⟨rfl, rfl⟩
      exact ⟨s, ⟨rfl, rfl⟩, rfl⟩
    · rintro ⟨s', ⟨rfl, rfl⟩, rfl⟩
      exact ⟨rfl, rfl⟩

/-- Run the actions in order; the first failure is the result. -/
def perform (act : α → φ → Except χ φ) : List α → φ → Except χ φ
  | [], f => .ok f
  | a :: as, f =>
    match act a f with
    | .ok f' => perform act as f'
    | .error x => .error x

section perform

variable {act : α → φ → Except χ φ} {as : List α} {a : α} {f f' : φ} {x : χ}

@[simp] theorem perform_nil : perform act [] f = .ok f :=
  rfl

theorem perform_cons_of_ok (h : act a f = .ok f') : perform act (a :: as) f = perform act as f' := by
  rw [perform, h]

theorem perform_cons_eq_ok_iff :
    perform act (a :: as) f = .ok f' ↔ ∃ g, act a f = .ok g ∧ perform act as g = .ok f' := by
  rw [perform]
  cases act a f <;> simp

@[simp] theorem perform_singleton : perform act [a] f = act a f := by
  rw [perform]
  cases act a f <;> rfl

end perform

end Table
