import Mathlib.Data.List.Basic
import Mathlib.Data.List.Induction

/-!
# Machines with outputs

A machine `next s i` gives the state an input leads to and the outputs it makes on the way. `run`
feeds it a list of inputs. What every step keeps of the state and of the outputs made so far holds
after every run (`run_invariant`).

A system that works for several parties at once and keeps one record of it is compared with the
machine party by party : `Follows` says that what the record has for a party, the inputs and the
outputs, is a run of the machine.
-/

set_option autoImplicit false

namespace Mealy

variable {σ ι ω : Type*}

/-- The state after some inputs, and all outputs. -/
def run (next : σ → ι → σ × List ω) : σ → List ι → σ × List ω
  | s, [] => (s, [])
  | s, i :: is =>
    let rest := run next (next s i).1 is
    (rest.1, (next s i).2 ++ rest.2)

variable {next : σ → ι → σ × List ω} {s s₀ : σ} {is is' : List ι} {i : ι} {os os' : List ω}

@[simp] theorem run_nil : run next s [] = (s, []) :=
  rfl

theorem run_append : run next s (is ++ is') =
    ((run next (run next s is).1 is').1, (run next s is).2 ++ (run next (run next s is).1 is').2) := by
  induction is generalizing s with
  | nil => rfl
  | cons i is ih => simp only [List.cons_append, run, ih, List.append_assoc]

/-- What holds of the state and the outputs at the start, and is kept by every step, holds after
every run. -/
theorem run_invariant (I : σ → List ω → Prop)
    (hstep : ∀ s os i, I s os → I (next s i).1 (os ++ (next s i).2)) (h : I s₀ []) (is : List ι) :
    I (run next s₀ is).1 (run next s₀ is).2 := by
  induction is using List.reverseRecOn with
  | nil => exact h
  | append_singleton is i ih =>
    rw [run_append]
    simpa [run] using hstep _ _ i ih

/-- The inputs and the outputs are those of a run from `s₀` to `s`. -/
structure Follows (next : σ → ι → σ × List ω) (s₀ : σ) (is : List ι) (os : List ω) (s : σ) :
    Prop where
  state : (run next s₀ is).1 = s
  outputs : (run next s₀ is).2 = os

theorem Follows.refl : Follows next s₀ [] [] s₀ :=
  ⟨rfl, rfl⟩

/-- One more input, with what the machine makes of it. -/
theorem Follows.snoc (h : Follows next s₀ is os s) (i : ι) :
    Follows next s₀ (is ++ [i]) (os ++ (next s i).2) (next s i).1 := by
  obtain ⟨rfl, rfl⟩ := h
  constructor <;> simp [run_append, run]

end Mealy
