import Mathlib.Data.Nat.Find
import Mathlib.Order.Monotone.Basic
import TelegramProvider.Prompts

/-!
# The deadlines of a dialogue

The loops of `start` and `startKeyboard` read the clock at the beginning of each iteration and go on
while this reading is within a bound. The bound is `absTimeout`, and when a loop sees that the
program has ended it is lowered to five seconds behind that. Each method has its own copy of the
loop : `startKeyboard` tests the bound, `start` lowers it under another name and tests `absTimeout`.

The bound may also be lowered to more than `absTimeout`, or twice, if it is lowered to `absTimeout`
itself. `endsSoon_iff` says for which readings both loops end soon after the program, in the same
iteration.
-/

set_option autoImplicit false

namespace TelegramProvider

/-! ## The loops -/

/-- An iteration : the seconds since the start at its beginning, whether its output ends the
dialogue, whether the program was still running, and the seconds since the start when this was
looked at. -/
structure Iteration where
  deltaTime : ℤ
  ends : Bool
  running : Bool
  seen : ℤ

namespace Iteration

/-- The bound behind an iteration. -/
def lower (maxDelta : ℤ) (t : Iteration) : ℤ :=
  if maxDelta = Session.absTimeout ∧ t.running = false then t.seen + 5 else maxDelta

/-- The bound the test of an iteration finds. -/
def bound (maxDelta : ℤ) (ts : ℕ → Iteration) : ℕ → ℤ
  | 0 => lower maxDelta (ts 0)
  | i + 1 => lower (bound maxDelta ts i) (ts (i + 1))

/-- A loop starts an iteration if it goes on behind the one before. `tested` is what the reading is
compared with, for a bound. -/
def starts (tested : ℤ → ℤ) (maxDelta : ℤ) (ts : ℕ → Iteration) : ℕ → Bool
  | 0 => true
  | i + 1 => starts tested maxDelta ts i && !(ts i).ends &&
      decide ((ts i).deltaTime ≤ tested (bound maxDelta ts i))

/-- The loop of `start`, which lowers `$macDelta` and tests `$this->absTimeout`. -/
def startLoop : (ℕ → Iteration) → ℕ → Bool :=
  starts (fun _macDelta => Session.absTimeout) Session.absTimeout

/-- The loop of `startKeyboard`. -/
def keyboardLoop : (ℕ → Iteration) → ℕ → Bool :=
  starts (fun maxDelta => maxDelta) Session.absTimeout

/-! ## The property -/

/-- The first iteration in which the program is not running. -/
def FirstGone (ts : ℕ → Iteration) (k : ℕ) : Prop :=
  (ts k).running = false ∧ ∀ j < k, (ts j).running = true

/-- The reading of an iteration is past `absTimeout`, or more than five seconds past the iteration
in which the program was first seen not to run. -/
def Overdue (ts : ℕ → Iteration) (i : ℕ) : Prop :=
  Session.absTimeout < (ts i).deltaTime ∨
    ∃ k ≤ i, FirstGone ts k ∧ (ts k).seen + 5 < (ts i).deltaTime

/-- No loop starts a further iteration behind one that is overdue, and both loops stop at the same
iteration. -/
structure EndsSoon (ts : ℕ → Iteration) : Prop where
  start : ∀ i, Overdue ts i → startLoop ts (i + 1) = false
  keyboard : ∀ i, Overdue ts i → keyboardLoop ts (i + 1) = false
  same : ∀ i, startLoop ts i = keyboardLoop ts i

/-- The iteration that lowers the bound for good : the first in which the program is not running,
but for those that lower it to `absTimeout` itself. -/
def Lowers (ts : ℕ → Iteration) (k : ℕ) : Prop :=
  ((ts k).running = false ∧ (ts k).seen + 5 ≠ Session.absTimeout) ∧
    ∀ j < k, ¬((ts j).running = false ∧ (ts j).seen + 5 ≠ Session.absTimeout)

/-- The output of no iteration up to this one ends the dialogue. -/
def Unended (ts : ℕ → Iteration) (i : ℕ) : Prop :=
  ∀ j ≤ i, (ts j).ends = false

/-! ## The bound -/

section bound

variable {tested : ℤ → ℤ} {maxDelta : ℤ} {ts : ℕ → Iteration} {i k : ℕ}

/-- An iteration is started if all before it go on. -/
theorem starts_iff : starts tested maxDelta ts i = true ↔
    ∀ j < i, (ts j).ends = false ∧ (ts j).deltaTime ≤ tested (bound maxDelta ts j) := by
  induction i with
  | zero => simp [starts]
  | succ i ih =>
    rw [starts, Bool.and_eq_true, Bool.and_eq_true, ih, Bool.not_eq_true', decide_eq_true_eq,
      Nat.forall_lt_succ_right, and_assoc]

/-- A bound that was lowered stays. -/
theorem bound_of_ne (hle : k ≤ i) (hne : bound maxDelta ts k ≠ Session.absTimeout) :
    bound maxDelta ts i = bound maxDelta ts k := by
  induction i, hle using Nat.le_induction with
  | base => rfl
  | succ i _ ih =>
    rw [bound, lower, ih, if_neg fun h => hne h.1]

/-- As long as no iteration lowers it for good the bound is `absTimeout`. -/
theorem bound_of_not_lowers
    (h : ∀ j ≤ i, ¬((ts j).running = false ∧ (ts j).seen + 5 ≠ Session.absTimeout)) :
    bound Session.absTimeout ts i = Session.absTimeout := by
  have hlower : ∀ j ≤ i, lower Session.absTimeout (ts j) = Session.absTimeout := by
    intro j hj
    unfold lower
    split_ifs with hgone
    · by_contra hne
      exact h j hj ⟨hgone.2, hne⟩
    · rfl
  induction i with
  | zero => exact hlower 0 (Nat.le_refl 0)
  | succ i ih =>
    rw [bound, ih (fun j hj => h j (by omega)) (fun j hj => hlower j (by omega))]
    exact hlower (i + 1) (Nat.le_refl _)

theorem bound_of_lowers (h : Lowers ts k) (hle : k ≤ i) :
    bound Session.absTimeout ts i = (ts k).seen + 5 := by
  obtain ⟨⟨hgone, hne⟩, hbefore⟩ := h
  have hk : bound Session.absTimeout ts k = (ts k).seen + 5 := by
    cases k with
    | zero => exact if_pos ⟨rfl, hgone⟩
    | succ k =>
      rw [bound, bound_of_not_lowers fun j hj => hbefore j (by omega)]
      exact if_pos ⟨rfl, hgone⟩
  rw [bound_of_ne hle (by rwa [hk]), hk]

/-- The bound of an iteration, by whether it was lowered for good. -/
theorem bound_cases (ts : ℕ → Iteration) (i : ℕ) :
    (∃ k ≤ i, Lowers ts k ∧ bound Session.absTimeout ts i = (ts k).seen + 5) ∨
      ((∀ k ≤ i, ¬Lowers ts k) ∧ bound Session.absTimeout ts i = Session.absTimeout) := by
  by_cases h : ∃ j, j ≤ i ∧ (ts j).running = false ∧ (ts j).seen + 5 ≠ Session.absTimeout
  · -- the least such iteration
    classical
    obtain ⟨hle, hlowers⟩ := Nat.find_spec h
    have hfirst : Lowers ts (Nat.find h) :=
      ⟨hlowers, fun j hj hgone => Nat.find_min h hj ⟨by omega, hgone⟩⟩
    exact Or.inl ⟨_, hle, hfirst, bound_of_lowers hfirst hle⟩
  · have hnone : ∀ j ≤ i, ¬((ts j).running = false ∧ (ts j).seen + 5 ≠ Session.absTimeout) :=
      fun j hj hgone => h ⟨j, hj, hgone⟩
    exact Or.inr ⟨fun k hk hlowers => hnone k hk hlowers.1, bound_of_not_lowers hnone⟩

end bound

/-! ## When both loops end soon -/

section endsSoon

variable {tested : ℤ → ℤ} {ts : ℕ → Iteration} {i j : ℕ}

theorem starts_succ_iff : starts tested Session.absTimeout ts (i + 1) = true ↔
    Unended ts i ∧ ∀ j ≤ i, (ts j).deltaTime ≤ tested (bound Session.absTimeout ts j) := by
  rw [starts_iff]
  constructor
  · exact fun h => ⟨fun j hj => (h j (Nat.lt_succ_of_le hj)).1,
      fun j hj => (h j (Nat.lt_succ_of_le hj)).2⟩
  · exact fun h j hj => ⟨h.1 j (Nat.le_of_lt_succ hj), h.2 j (Nat.le_of_lt_succ hj)⟩

theorem le_of_not_overdue (h : ¬Overdue ts i) : (ts i).deltaTime ≤ Session.absTimeout :=
  Int.not_lt.1 fun hlt => h (Or.inl hlt)

/-- Behind an iteration that is overdue there is a first one that is. -/
theorem exists_first_overdue (h : Overdue ts i) :
    ∃ o ≤ i, Overdue ts o ∧ ∀ j < o, ¬Overdue ts j := by
  classical
  have hex : ∃ o, Overdue ts o := ⟨i, h⟩
  exact ⟨Nat.find hex, Nat.find_min' hex h, Nat.find_spec hex, fun j hj => Nat.find_min hex hj⟩

/-- The first overdue iteration that is not ended by then begins late enough for both loops. -/
def StopsBoth (ts : ℕ → Iteration) : Prop :=
  ∀ o, Overdue ts o → (∀ j < o, ¬Overdue ts j) → Unended ts o →
    Session.absTimeout < (ts o).deltaTime ∧
      ∀ k ≤ o, Lowers ts k → (ts k).seen + 5 < (ts o).deltaTime

/-- As long as no iteration is overdue, none begins more than five seconds past the iteration that
lowers the bound for good. This fails only for a clock that is set back (`stopsNone_of_clock`). -/
def StopsNone (ts : ℕ → Iteration) : Prop :=
  ∀ i, (∀ j ≤ i, ¬Overdue ts j) → Unended ts i →
    ∀ k ≤ i, Lowers ts k → (ts i).deltaTime ≤ (ts k).seen + 5

/-- While the clock only goes forward, the bound is not lowered to an earlier one. -/
theorem stopsNone_of_clock (hturn : ∀ i, (ts i).deltaTime ≤ (ts i).seen)
    (hnext : ∀ i, (ts i).seen ≤ (ts (i + 1)).deltaTime) : StopsNone ts := by
  have hmono : Monotone fun i => (ts i).seen :=
    monotone_nat_of_le_succ fun i => Int.le_trans (hnext i) (hturn (i + 1))
  intro i hnot hun k hk hlowers
  classical
  have hex : ∃ g, (ts g).running = false := ⟨k, hlowers.1.1⟩
  have hle : Nat.find hex ≤ k := Nat.find_min' hex hlowers.1.1
  have hfirst : FirstGone ts (Nat.find hex) :=
    ⟨Nat.find_spec hex, fun j hj => eq_true_of_ne_false (Nat.find_min hex hj)⟩
  have hsoon : (ts i).deltaTime ≤ (ts (Nat.find hex)).seen + 5 := Int.not_lt.1 fun hlt =>
    hnot i (Nat.le_refl i) (Or.inr ⟨_, Nat.le_trans hle hk, hfirst, hlt⟩)
  have hseen : (ts (Nat.find hex)).seen ≤ (ts k).seen := hmono hle
  omega

/-- No loop goes on behind an overdue iteration. -/
theorem StopsBoth.not_starts (h : StopsBoth ts) (hover : Overdue ts i) :
    startLoop ts (i + 1) = false ∧ keyboardLoop ts (i + 1) = false := by
  obtain ⟨o, hle, hfirst, hbefore⟩ := exists_first_overdue hover
  have hlate : Unended ts i → Session.absTimeout < (ts o).deltaTime ∧
      bound Session.absTimeout ts o < (ts o).deltaTime := by
    intro hun
    obtain ⟨habs, hlowered⟩ := h o hfirst hbefore fun j hj => hun j (Nat.le_trans hj hle)
    rcases bound_cases ts o with ⟨k, hk, hlowers, hbound⟩ | ⟨-, hbound⟩
    · exact ⟨habs, by rw [hbound]; exact hlowered k hk hlowers⟩
    · exact ⟨habs, by rw [hbound]; exact habs⟩
  constructor
  · rw [Bool.eq_false_iff]
    intro hstarts
    obtain ⟨hun, htest⟩ := starts_succ_iff.1 hstarts
    exact absurd (htest o hle) (Int.not_le.2 (hlate hun).1)
  · rw [Bool.eq_false_iff]
    intro hstarts
    obtain ⟨hun, htest⟩ := starts_succ_iff.1 hstarts
    exact absurd (htest o hle) (Int.not_le.2 (hlate hun).2)

/-- Before an iteration is overdue both loops go on. -/
theorem StopsNone.le_bound (h : StopsNone ts) (hnot : ∀ j ≤ i, ¬Overdue ts j) (hun : Unended ts i) :
    (ts i).deltaTime ≤ bound Session.absTimeout ts i := by
  rcases bound_cases ts i with ⟨k, hk, hlowers, hbound⟩ | ⟨-, hbound⟩
  · rw [hbound]
    exact h i hnot hun k hk hlowers
  · rw [hbound]
    exact le_of_not_overdue (hnot i (Nat.le_refl i))

theorem starts_of_le {maxDelta : ℤ} (hle : j ≤ i) (h : starts tested maxDelta ts i = true) :
    starts tested maxDelta ts j = true :=
  starts_iff.2 fun j' hj' => starts_iff.1 h j' (Nat.lt_of_lt_of_le hj' hle)

/-- A loop that does not go on behind an overdue iteration has none behind it. -/
theorem not_overdue_of_starts
    (hstop : ∀ j, Overdue ts j → starts tested Session.absTimeout ts (j + 1) = false)
    (h : starts tested Session.absTimeout ts (i + 1) = true) : ∀ j ≤ i, ¬Overdue ts j := by
  intro j hj hover
  have hreach := starts_of_le (Nat.succ_le_succ hj) h
  simp [hstop j hover] at hreach

/-- `start` goes on just as long as nothing ends it and no iteration is overdue. -/
theorem StopsBoth.startLoop_iff (h : StopsBoth ts) :
    startLoop ts (i + 1) = true ↔ Unended ts i ∧ ∀ j ≤ i, ¬Overdue ts j := by
  constructor
  · intro hstarts
    exact ⟨(starts_succ_iff.1 hstarts).1,
      not_overdue_of_starts (fun j hover => (h.not_starts hover).1) hstarts⟩
  · rintro ⟨hun, hnot⟩
    exact starts_succ_iff.2 ⟨hun, fun j hj => le_of_not_overdue (hnot j hj)⟩

/-- So does `startKeyboard`. -/
theorem StopsBoth.keyboardLoop_iff (h : StopsBoth ts) (hnone : StopsNone ts) :
    keyboardLoop ts (i + 1) = true ↔ Unended ts i ∧ ∀ j ≤ i, ¬Overdue ts j := by
  constructor
  · intro hstarts
    exact ⟨(starts_succ_iff.1 hstarts).1,
      not_overdue_of_starts (fun j hover => (h.not_starts hover).2) hstarts⟩
  · rintro ⟨hun, hnot⟩
    refine starts_succ_iff.2 ⟨hun, fun j hj => hnone.le_bound ?_ ?_⟩
    · exact fun j' hj' => hnot j' (Nat.le_trans hj' hj)
    · exact fun j' hj' => hun j' (Nat.le_trans hj' hj)

/-- Both loops start the first overdue iteration, and stop behind it. -/
theorem EndsSoon.stopsBoth (h : EndsSoon ts) : StopsBoth ts := by
  intro o hover hbefore hun
  have hreach : startLoop ts o = true := starts_iff.2 fun j hj =>
    ⟨hun j (Nat.le_of_lt hj), le_of_not_overdue (hbefore j hj)⟩
  have hkeyboard : keyboardLoop ts o = true := (h.same o).symm.trans hreach
  have hstop := h.start o hover
  have hstop' := h.keyboard o hover
  unfold startLoop at hreach hstop
  unfold keyboardLoop at hkeyboard hstop'
  rw [starts, hreach, hun o (Nat.le_refl o)] at hstop
  rw [starts, hkeyboard, hun o (Nat.le_refl o)] at hstop'
  refine ⟨by simpa using hstop, fun k hk hlowers => ?_⟩
  rw [bound_of_lowers hlowers hk] at hstop'
  simpa using hstop'

/-- Where `start` goes on, so does `startKeyboard`. -/
theorem EndsSoon.stopsNone (h : EndsSoon ts) : StopsNone ts := by
  intro i hnot hun k hk hlowers
  have hreach : startLoop ts (i + 1) = true :=
    starts_succ_iff.2 ⟨hun, fun j hj => le_of_not_overdue (hnot j hj)⟩
  have hkeyboard : keyboardLoop ts (i + 1) = true := (h.same (i + 1)).symm.trans hreach
  have htest := (starts_succ_iff.1 hkeyboard).2 i (Nat.le_refl i)
  rwa [bound_of_lowers hlowers hk] at htest

/-- Both loops end soon, in the same iteration, just when the first overdue iteration is late enough
for both, and no iteration before it is late for one. -/
theorem endsSoon_iff (ts : ℕ → Iteration) : EndsSoon ts ↔ StopsBoth ts ∧ StopsNone ts := by
  constructor
  · exact fun h => ⟨h.stopsBoth, h.stopsNone⟩
  · rintro ⟨hboth, hnone⟩
    refine ⟨fun i hover => (hboth.not_starts hover).1, fun i hover => (hboth.not_starts hover).2,
      fun i => ?_⟩
    cases i with
    | zero => rfl
    | succ i => rw [Bool.eq_iff_iff, hboth.startLoop_iff, hboth.keyboardLoop_iff hnone]

end endsSoon

/-! ## The loop of the model -/

section shift

variable {tested : ℤ → ℤ} {maxDelta : ℤ} {ts : ℕ → Iteration} {i : ℕ}

theorem bound_shift (maxDelta : ℤ) (ts : ℕ → Iteration) (i : ℕ) :
    bound maxDelta ts (i + 1) = bound (lower maxDelta (ts 0)) (fun j => ts (j + 1)) i := by
  induction i with
  | zero => rfl
  | succ i ih => rw [bound, ih, bound]

/-- Behind its first iteration a loop is one with the bound of this iteration. -/
theorem starts_shift : starts tested maxDelta ts (i + 1) = true ↔
    ((ts 0).ends = false ∧ (ts 0).deltaTime ≤ tested (lower maxDelta (ts 0))) ∧
      starts tested (lower maxDelta (ts 0)) (fun j => ts (j + 1)) i = true := by
  rw [starts_iff, starts_iff, Nat.forall_lt_succ_left]
  simp only [bound_shift]
  rfl

end shift

end Iteration

/-- The output of a round ends the dialogue : it is done, or it fails. -/
def Round.ends (r : Round) : Bool :=
  (Session.turn r {}).1 ≠ some true

/-- A round as an iteration of the loop. -/
def Round.iteration (r : Round) : Iteration where
  deltaTime := r.delta
  ends := r.ends
  running := r.running
  seen := r.after

/-- The iterations of some rounds. -/
def iterations (rounds : List Round) (i : ℕ) : Iteration :=
  (rounds.map Round.iteration).getD i ⟨0, true, true, 0⟩

namespace Session

open Iteration

/-- The outputs on record. -/
def outputsIn (obs : List AuthEvent) : List String :=
  obs.filterMap fun
    | .printed _ text => some text
    | _ => none

section dialogue

variable {s s' : Session} {r : Round} {res : Option Bool}

theorem outputsIn_log (e : AuthEvent) (s : Session) :
    outputsIn (s.log e).trace = outputsIn s.trace ++ outputsIn [e] :=
  List.filterMap_append

theorem outputsIn_updateStatus (status : Status) (data : String) (s : Session) :
    outputsIn (s.updateStatus status data).trace = outputsIn s.trace :=
  (outputsIn_log _ s).trans (List.append_nil _)

theorem outputsIn_answer (action entered : String) (s : Session) :
    outputsIn (s.answer action entered).trace = outputsIn s.trace := by
  have hcommand : ∀ (text : String) (s : Session),
      outputsIn (s.writeCommand text).trace = outputsIn s.trace := by
    intro text s
    unfold writeCommand
    split_ifs
    · rfl
    · exact (outputsIn_log _ s).trans (List.append_nil _)
  unfold answer
  split_ifs
  · exact hcommand _ s
  · rw [hcommand, getInputData, outputsIn_updateStatus, outputsIn_updateStatus]

/-- A turn reads nothing else. -/
theorem outputsIn_turn (r : Round) (s : Session) :
    outputsIn (s.turn r).2.trace = outputsIn s.trace := by
  have hcheck : outputsIn (s.checkOutput r.output).2.trace = outputsIn s.trace := by
    unfold checkOutput
    split
    · rfl
    · exact outputsIn_updateStatus _ _ s
    · exact outputsIn_updateStatus _ _ s
  have hinvoke : ∀ s : Session, outputsIn (s.invokeAction r).2.trace = outputsIn s.trace := by
    intro s
    have herror : ∀ error action,
        outputsIn ({ s with error }.answer action r.entered).trace = outputsIn s.trace :=
      fun error action => outputsIn_answer action r.entered { s with error }
    unfold invokeAction
    dsimp only
    split_ifs
    · rfl
    · exact herror _ _
    · exact outputsIn_answer _ _ s
    · exact herror _ _
    · exact outputsIn_answer _ _ s
    · exact (outputsIn_updateStatus _ _ _).trans (herror _ _)
    · exact (outputsIn_updateStatus _ _ _).trans (outputsIn_answer _ _ s)
  rw [← hcheck]
  unfold turn
  dsimp only
  split_ifs
  · rfl
  · exact hinvoke _

/-- How a turn ends is up to what is read. -/
theorem turn_fst (r : Round) (s s' : Session) : (s.turn r).1 = (s'.turn r).1 := by
  have hcheck : (s.checkOutput r.output).1 = (s'.checkOutput r.output).1 := by
    unfold checkOutput
    split <;> rfl
  have hinvoke : ∀ s s' : Session, (s.invokeAction r).1 = (s'.invokeAction r).1 := by
    intro s s'
    unfold invokeAction
    dsimp only
    split_ifs <;> rfl
  unfold turn
  dsimp only
  rw [hcheck]
  split_ifs
  · rfl
  · exact congrArg some (hinvoke _ _)

theorem ends_eq_false_iff (s : Session) : r.ends = false ↔ (s.turn r).1 = some true := by
  rw [turn_fst r s {}, Round.ends]
  simp

/-- The bound of the dialogue behind a round is that of the loop. -/
theorem lower_eq_limit {shortens : Bool} {limit limit' : ℕ} {maxDelta : ℤ}
    (hlimit : if shortens then maxDelta = limit else limit = absTimeout)
    (hlimit' : limit' =
      if shortens && limit = absTimeout && !r.running then r.after + 5 else limit) :
    if shortens then lower maxDelta r.iteration = limit' else limit' = absTimeout := by
  rw [hlimit', lower]
  cases shortens with
  | true =>
    obtain rfl : maxDelta = limit := hlimit
    have hcast : (limit : ℤ) = absTimeout ↔ limit = absTimeout := Int.ofNat_inj
    by_cases habs : limit = absTimeout <;> cases hrunning : r.running <;>
      simp [hcast, habs, hrunning, Round.iteration]
  | false => simpa using hlimit

/-- So both make the same test. -/
theorem le_tested_iff {shortens : Bool} {limit delta : ℕ} {maxDelta : ℤ}
    (hlimit : if shortens then maxDelta = limit else limit = absTimeout) :
    ((delta : ℤ) ≤ if shortens then maxDelta else absTimeout) ↔ delta ≤ limit := by
  cases shortens with
  | true =>
    rw [if_pos rfl] at hlimit ⊢
    rw [hlimit, Int.ofNat_le]
  | false =>
    rw [if_neg Bool.false_ne_true] at hlimit ⊢
    rw [hlimit, Int.ofNat_le]

/-- The loop of a dialogue reads the outputs of the iterations that are started, of `startKeyboard`
if it shortens its bound, or else of `start`. -/
theorem outputsIn_dialogue (shortens : Bool) (rounds : List Round) (limit : ℕ) (maxDelta : ℤ)
    (hlimit : if shortens then maxDelta = limit else limit = absTimeout) (s : Session) :
    ∃ n, outputsIn (s.dialogue shortens limit rounds).trace =
      outputsIn s.trace ++ (rounds.take n).map (·.output) ∧
      ∀ i < rounds.length, i < n ↔
        starts (fun m => if shortens then m else absTimeout) maxDelta (iterations rounds) i =
          true := by
  induction rounds generalizing limit maxDelta s with
  | nil => exact ⟨0, (List.append_nil _).symm, by simp⟩
  | cons r rounds ih =>
    have hread : outputsIn ((s.read r.output).turn r).2.trace = outputsIn s.trace ++ [r.output] :=
      (outputsIn_turn r _).trans (outputsIn_log _ s)
    have hends : r.ends = false ↔ ((s.read r.output).turn r).1 = some true := ends_eq_false_iff _
    -- the loop is left behind this iteration
    have hleft : ¬(r.ends = false ∧ (r.delta : ℤ) ≤
        if shortens then lower maxDelta r.iteration else absTimeout) →
        ∃ n, outputsIn ((s.read r.output).turn r).2.trace =
          outputsIn s.trace ++ ((r :: rounds).take n).map (·.output) ∧
          ∀ i < (r :: rounds).length, i < n ↔ starts (fun m => if shortens then m else absTimeout)
            maxDelta (iterations (r :: rounds)) i = true := by
      refine fun hnot => ⟨1, hread, fun i _ => ?_⟩
      cases i with
      | zero => exact iff_of_true Nat.one_pos rfl
      | succ i =>
        refine iff_of_false (by omega) fun hstarts => hnot ?_
        exact (starts_shift.1 hstarts).1
    rw [dialogue_cons]
    rcases hturn : (s.read r.output).turn r with ⟨_ | res, s'⟩
    · rw [hturn] at hends hleft
      exact hleft fun hgoes => absurd (hends.1 hgoes.1) (by simp)
    · rw [hturn] at hread hends hleft
      dsimp only at hread hends hleft ⊢
      obtain ⟨limit', hlimit'⟩ : ∃ limit', limit' =
        if shortens && limit = absTimeout && !r.running then r.after + 5 else limit := ⟨_, rfl⟩
      have hnext := lower_eq_limit hlimit hlimit'
      have htest : (r.ends = false ∧ (r.delta : ℤ) ≤
          if shortens then lower maxDelta r.iteration else absTimeout) ↔
            (decide (r.delta ≤ limit') && res) = true := by
        rw [hends, le_tested_iff hnext, Bool.and_eq_true, decide_eq_true_eq, and_comm,
          Option.some_inj]
      rw [← hlimit']
      by_cases hgoes : (decide (r.delta ≤ limit') && res) = true
      · obtain ⟨n, hout, hn⟩ := ih limit' _ hnext s'
        rw [if_pos hgoes]
        refine ⟨n + 1, ?_, fun i hi => ?_⟩
        · rw [hout, hread, List.append_assoc]
          rfl
        · cases i with
          | zero => exact iff_of_true (Nat.succ_pos n) rfl
          | succ i =>
            rw [starts_shift, Nat.succ_lt_succ_iff, hn i (Nat.lt_of_succ_lt_succ hi)]
            exact (and_iff_right (htest.2 hgoes)).symm
      · rw [if_neg hgoes]
        exact hleft fun h => hgoes (htest.1 h)

end dialogue

end Session

/-- The program ends in the first iteration and prints nothing, and each iteration takes three
seconds. -/
def goneSilently (i : ℕ) : Iteration where
  deltaTime := 3 * i
  ends := false
  running := false
  seen := 3 * i + 3

/-- `start` goes on when the program has been gone for more than five seconds. -/
theorem not_endsSoon_goneSilently : ¬Iteration.EndsSoon goneSilently := by
  intro h
  have hfirst : Iteration.FirstGone goneSilently 0 :=
    ⟨rfl, fun j hj => absurd hj (Nat.not_lt_zero j)⟩
  have hover : Iteration.Overdue goneSilently 3 := Or.inr ⟨0, by decide, hfirst, by decide⟩
  have hstarts : Iteration.startLoop goneSilently 4 = true := by decide
  exact absurd ((h.start 3 hover).symm.trans hstarts) (by decide)

end TelegramProvider
