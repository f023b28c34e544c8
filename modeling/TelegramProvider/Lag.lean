import Mathlib.Logic.Function.Basic

/-!
# A map read through a queue

A writer keeps a map and tells a reader about it through a FIFO queue : that a key was
written, or a remark about the value a key has now. The reader applies the writes in order,
so its map lags behind by the queue (`Behind`), and a remark that comes out of the queue
agrees with the reader's map then, however often the key was written since. A write that
does not go through the queue is harmless while the queue is silent about its key
(`Behind.update`).
-/

set_option autoImplicit false

namespace Lag

variable {κ α : Type*} [DecidableEq κ]

/-- What the writer tells : the key `k` was given `a`, or has it. -/
inductive Msg (κ α : Type*)
  | write (k : κ) (a : α)
  | remark (k : κ) (a : α)

/-- The key of a message. -/
def Msg.key : Msg κ α → κ
  | .write k _ => k
  | .remark k _ => k

/-- The reader's map `m` becomes the writer's map `live` once the queue is read, and every
remark agrees with the reader's map when it is read. -/
def Behind (m : κ → Option α) : List (Msg κ α) → (κ → Option α) → Prop
  | [], live => m = live
  | .write k a :: q, live => Behind (Function.update m k (some a)) q live
  | .remark k a :: q, live => m k = some a ∧ Behind m q live

variable {m live : κ → Option α} {q : List (Msg κ α)} {k : κ} {a : α}

theorem Behind.write (h : Behind m q live) :
    Behind m (q ++ [.write k a]) (Function.update live k (some a)) := by
  induction q generalizing m with
  | nil =>
    obtain rfl : m = live := h
    rfl
  | cons x q ih =>
    cases x with
    | write k' a' => exact ih h
    | remark k' a' => exact ⟨h.1, ih h.2⟩

theorem Behind.remark (h : Behind m q live) (hk : live k = some a) :
    Behind m (q ++ [.remark k a]) live := by
  induction q generalizing m with
  | nil =>
    obtain rfl : m = live := h
    exact ⟨hk, rfl⟩
  | cons x q ih =>
    cases x with
    | write k' a' => exact ih h
    | remark k' a' => exact ⟨h.1, ih h.2⟩

/-- Both maps may be written at a key the queue is silent about. -/
theorem Behind.update {v : Option α} (h : Behind m q live) (hq : ∀ x ∈ q, x.key ≠ k) :
    Behind (Function.update m k v) q (Function.update live k v) := by
  induction q generalizing m with
  | nil =>
    obtain rfl : m = live := h
    rfl
  | cons x q ih =>
    have hrest : ∀ y ∈ q, y.key ≠ k := fun y hy => hq y (by simp [hy])
    cases x with
    | write k' a' =>
      have hk : k' ≠ k := hq (.write k' a') (by simp)
      have hstep : Behind (Function.update (Function.update m k' (some a')) k v) q
          (Function.update live k v) := ih h hrest
      rwa [Function.update_comm hk] at hstep
    | remark k' a' =>
      have hk : k' ≠ k := hq (.remark k' a') (by simp)
      have hval : Function.update m k v k' = some a' := by
        rw [Function.update_of_ne hk]
        exact h.1
      exact ⟨hval, ih h.2 hrest⟩

end Lag
