import Mathlib.Data.List.Basic

/-!
# Labelled runs

A system is a step relation `step s l s'` : from `s` the label `l` leads to `s'`. A
`Run` from `s₀` is a list of labels with the state they end in, last step last, so an
invariant is carried along a run by one step lemma (`Run.invariant`).

`Restrict step ok` keeps the steps that satisfy `ok` in the state before them. A run of
the restricted system is a run all of whose steps meet the condition, which is how a
property that needs an assumption on the environment is stated (`Run.of_restrict`). A run
of one system maps to a run of another that takes some steps for each of its steps
(`Run.simulate`).
-/

set_option autoImplicit false

namespace Runs

variable {σ τ ℓ κ : Type*}

/-- The labels of a run from `s₀`, in order, and the state it ends in. -/
inductive Run (step : σ → ℓ → σ → Prop) (s₀ : σ) : List ℓ → σ → Prop
  | nil : Run step s₀ [] s₀
  | snoc {ls : List ℓ} {s : σ} {l : ℓ} {s' : σ} :
      Run step s₀ ls s → step s l s' → Run step s₀ (ls ++ [l]) s'

/-- The steps that satisfy `ok` in the state before them. -/
def Restrict (step : σ → ℓ → σ → Prop) (ok : σ → ℓ → Prop) (s : σ) (l : ℓ) (s' : σ) : Prop :=
  step s l s' ∧ ok s l

/-- Run the labels of a list through a partial step function. -/
def exec (next : σ → ℓ → Option σ) : σ → List ℓ → Option σ
  | s, [] => some s
  | s, l :: ls => (next s l).bind fun s' => exec next s' ls

/-- The steps of a partial step function that satisfy `ok`. -/
def guarded (ok : σ → ℓ → Prop) [∀ s l, Decidable (ok s l)] (next : σ → ℓ → Option σ)
    (s : σ) (l : ℓ) : Option σ :=
  if ok s l then next s l else none

variable {step : σ → ℓ → σ → Prop} {s₀ s s' t : σ} {ls ls' : List ℓ} {l : ℓ}

namespace Run

theorem one (h : step s l s') : Run step s [l] s' :=
  List.nil_append [l] ▸ Run.nil.snoc h

theorem trans (h : Run step s ls s') (h' : Run step s' ls' t) : Run step s (ls ++ ls') t := by
  induction h' with
  | nil => simpa using h
  | snoc _ hs ih => simpa [← List.append_assoc] using ih.snoc hs

theorem cons (h : step s l s') (h' : Run step s' ls t) : Run step s (l :: ls) t :=
  (Run.one h).trans h'

/-- What holds at the start and is kept by every step holds at the end. -/
theorem invariant (I : σ → Prop) (hstep : ∀ s l s', I s → step s l s' → I s')
    (h : Run step s₀ ls s) (h0 : I s₀) : I s := by
  induction h with
  | nil => exact h0
  | snoc _ hs ih => exact hstep _ _ _ ih hs

theorem mono {step' : σ → ℓ → σ → Prop} (hsub : ∀ s l s', step s l s' → step' s l s')
    (h : Run step s₀ ls s) : Run step' s₀ ls s := by
  induction h with
  | nil => exact Run.nil
  | snoc _ hs ih => exact ih.snoc (hsub _ _ _ hs)

theorem of_restrict {ok : σ → ℓ → Prop} (h : Run (Restrict step ok) s₀ ls s) :
    Run step s₀ ls s :=
  h.mono fun _ _ _ hs => hs.1

/-- Each step of the first system is some steps of the second between the images. -/
theorem simulate {step' : τ → κ → τ → Prop} (f : σ → τ)
    (hstep : ∀ s l s', step s l s' → ∃ ks, Run step' (f s) ks (f s'))
    (h : Run step s₀ ls s) : ∃ ks, Run step' (f s₀) ks (f s) := by
  induction h with
  | nil => exact ⟨[], Run.nil⟩
  | snoc _ hs ih =>
    obtain ⟨ks, hks⟩ := ih
    obtain ⟨ks', hks'⟩ := hstep _ _ _ hs
    exact ⟨ks ++ ks', hks.trans hks'⟩

/-- A computed run is a run of the steps the function takes. -/
theorem of_exec {next : σ → ℓ → Option σ} (hnext : ∀ s l s', next s l = some s' → step s l s') :
    ∀ {ls : List ℓ} {s s' : σ}, exec next s ls = some s' → Run step s ls s'
  | [], s, s', h => by
    obtain rfl : s = s' := by simpa [exec] using h
    exact Run.nil
  | l :: ls, s, s', h => by
    obtain ⟨t, ht, hr⟩ := Option.bind_eq_some_iff.1 h
    exact Run.cons (hnext _ _ _ ht) (of_exec hnext hr)

theorem of_guarded {ok : σ → ℓ → Prop} [∀ s l, Decidable (ok s l)] {next : σ → ℓ → Option σ}
    (hnext : ∀ s l s', next s l = some s' → step s l s')
    (h : exec (guarded ok next) s ls = some s') : Run (Restrict step ok) s ls s' := by
  refine of_exec (fun t l t' ht => ?_) h
  unfold guarded at ht
  split_ifs at ht with hok
  exact ⟨hnext _ _ _ ht, hok⟩

end Run

end Runs
