import Mathlib.Data.List.Basic
import TelegramProvider.Runs

/-!
# What passes through a system

A run of a system, with what was put into it and what was got out of it on the way (`Passing`).
If a step only adds what it puts to the end of a content and only takes what it gets from the front,
nothing is lost, made twice or passed by something else (`Passing.conserved`).

If the system takes turns, and in its turn gets something unless there is nothing, then what is
in the content waits for as many rounds as there are elements before it (`Passing.taken`).
-/

set_option autoImplicit false

namespace Runs

variable {σ ℓ α : Type*}

/-- A run, with all that was put in and all that was got out, in order. -/
inductive Passing (step : σ → ℓ → σ → Prop) (put : σ → ℓ → σ → List α) (got : σ → ℓ → List α)
    (s₀ : σ) : List ℓ → List α → List α → σ → Prop
  | nil : Passing step put got s₀ [] [] [] s₀
  | snoc {ls : List ℓ} {ins outs : List α} {s s' : σ} {l : ℓ} :
      Passing step put got s₀ ls ins outs s → step s l s' →
      Passing step put got s₀ (ls ++ [l]) (ins ++ put s l s') (outs ++ got s l) s'

variable {step : σ → ℓ → σ → Prop} {put : σ → ℓ → σ → List α} {got : σ → ℓ → List α}
  {s₀ s : σ} {ls : List ℓ} {ins outs : List α}

theorem Run.passing (put : σ → ℓ → σ → List α) (got : σ → ℓ → List α) (h : Run step s₀ ls s) :
    ∃ ins outs, Passing step put got s₀ ls ins outs s := by
  induction h with
  | nil => exact ⟨[], [], .nil⟩
  | snoc _ hs ih =>
    obtain ⟨ins, outs, hpass⟩ := ih
    exact ⟨_, _, hpass.snoc hs⟩

namespace Passing

theorem run (h : Passing step put got s₀ ls ins outs s) : Run step s₀ ls s := by
  induction h with
  | nil => exact .nil
  | snoc _ hs ih => exact ih.snoc hs

/-- What holds at the start and is kept by every step, of all that was put in and got out so far. -/
theorem invariant (I : List α → List α → σ → Prop)
    (hstep : ∀ ins outs s l s', I ins outs s → step s l s' →
      I (ins ++ put s l s') (outs ++ got s l) s')
    (h : Passing step put got s₀ ls ins outs s) (h0 : I [] [] s₀) : I ins outs s := by
  induction h with
  | nil => exact h0
  | snoc _ hs ih => exact hstep _ _ _ _ _ ih hs

/-- What was there and what was put in is what was got out and what is there. -/
theorem conserved (content : σ → List α)
    (hstep : ∀ s l s', step s l s' → content s ++ put s l s' = got s l ++ content s')
    (h : Passing step put got s₀ ls ins outs s) : content s₀ ++ ins = outs ++ content s := by
  induction h with
  | nil => simp
  | snoc _ hs ih =>
    rw [← List.append_assoc, ih, List.append_assoc, hstep _ _ _ hs, List.append_assoc]

/-- What a log grows by at each step is what was put in. -/
theorem recorded (record : σ → List α)
    (hstep : ∀ s l s', step s l s' → record s' = record s ++ put s l s')
    (h : Passing step put got s₀ ls ins outs s) : record s = record s₀ ++ ins := by
  induction h with
  | nil => simp
  | snoc _ hs ih => rw [hstep _ _ _ hs, ih, List.append_assoc]

/-- A step that is counted makes the turn come nearer, or is the turn. -/
inductive Turns (counted : ℓ → Bool) (due : σ → ℕ) (period : ℕ) (content : σ → List α)
    (got : σ → ℓ → List α) (s : σ) (l : ℓ) (s' : σ) : Prop
  | free (hl : counted l = false) (hdue : due s' = due s)
  | waits (hl : counted l = true) (hdue : due s' + 1 = due s)
  | turn (hl : counted l = true) (hdue : due s = 0) (hdue' : due s' + 1 = period)
      (hgot : got s l = [] → content s = [])

variable {counted : ℓ → Bool} {due : σ → ℕ} {period : ℕ} {content : σ → List α}

/-- How many turns there were, and that each of them got something while there was something. -/
theorem exists_turns
    (hcontent : ∀ s l s', step s l s' → content s ++ put s l s' = got s l ++ content s')
    (hturns : ∀ s l s', step s l s' → Turns counted due period content got s l s')
    (h : Passing step put got s₀ ls ins outs s) : ∃ turns,
      ls.countP counted + due s = period * turns + due s₀ ∧
        min turns (content s₀).length ≤ outs.length := by
  induction h with
  | nil => exact ⟨0, by simp, by simp⟩
  | @snoc ls ins outs s s' l hpass hs ih =>
    obtain ⟨turns, hcount, hmin⟩ := ih
    have hlen : outs.length ≤ (outs ++ got s l).length := by simp
    rw [List.countP_append, List.countP_singleton]
    rcases hturns _ _ _ hs with ⟨hl, hdue⟩ | ⟨hl, hdue⟩ | ⟨hl, hdue, hdue', hgot⟩
    · exact ⟨turns, by simp [hl]; omega, by omega⟩
    · exact ⟨turns, by simp [hl]; omega, by omega⟩
    · refine ⟨turns + 1, by simp [hl, Nat.mul_add]; omega, ?_⟩
      cases hout : got s l with
      | cons a as =>
        simp only [List.length_append, List.length_cons]
        omega
      | nil =>
        -- nothing is left, so all that was there at the start is out
        have hall := congrArg List.length (hpass.conserved content hcontent)
        simp only [hgot hout, List.append_nil, List.length_append] at hall ⊢
        omega

/-- What has `k` others before it is out after `k` rounds and the rest of the round it was in. -/
theorem taken (hcontent : ∀ s l s', step s l s' → content s ++ put s l s' = got s l ++ content s')
    (hturns : ∀ s l s', step s l s' → Turns counted due period content got s l s')
    (h : Passing step put got s₀ ls ins outs s) {k : ℕ} {a : α} (hk : (content s₀)[k]? = some a)
    (hcount : period * k + due s₀ < ls.countP counted) : outs[k]? = some a := by
  obtain ⟨turns, hturns, hmin⟩ := h.exists_turns hcontent hturns
  have hlt : k < (content s₀).length := (List.getElem?_eq_some_iff.1 hk).1
  have hmore : k < turns := by
    refine Nat.lt_of_mul_lt_mul_left (a := period) ?_
    omega
  have hout : k < outs.length := by omega
  have hsame := congrArg (·[k]?) (h.conserved content hcontent)
  simpa [List.getElem?_append_left hlt, List.getElem?_append_left hout, hk, eq_comm] using hsame

end Passing

end Runs
