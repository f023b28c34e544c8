import Mathlib.Tactic.SplitIfs
import TelegramProvider.Keyed

/-!
# Requests and their handlers

A client numbers the requests it sends from one on, keeps a handler for those whose reply matters,
and closes a request behind its reply. An `Exchange` has what the code has, the last number and the
map of handlers, and with it the requests that were sent and the numbers that were closed. It
carries the invariant of the map : a handler is there just for a request that was sent with it and
was not closed.
-/

set_option autoImplicit false

namespace Requests

variable {α φ η : Type*}

/-! ## Numbers -/

/-- The entry with a number, counted from one. -/
def Numbered (l : List α) (id : ℕ) (a : α) : Prop :=
  0 < id ∧ l[id - 1]? = some a

section numbered

variable {l : List α} {id : ℕ} {a b : α}

theorem not_numbered_nil : ¬Numbered ([] : List α) id a := by
  simp [Numbered]

theorem Numbered.le (h : Numbered l id a) : id ≤ l.length := by
  have hlt : id - 1 < l.length := (List.getElem?_eq_some_iff.1 h.2).1
  omega

theorem Numbered.inj (h : Numbered l id a) (h' : Numbered l id b) : a = b :=
  Option.some.inj (h.2.symm.trans h'.2)

theorem numbered_concat : Numbered (l ++ [b]) id a ↔
    Numbered l id a ∨ (id = l.length + 1 ∧ a = b) := by
  unfold Numbered
  rw [List.getElem?_append]
  split_ifs with hlt
  · constructor
    · exact Or.inl
    · rintro (h | ⟨rfl, -⟩)
      · exact h
      · simp at hlt
  · have hnone : l[id - 1]? = none := List.getElem?_eq_none (Nat.le_of_not_lt hlt)
    rw [hnone]
    constructor
    · rintro ⟨hpos, hlast⟩
      have hzero : id - 1 - l.length = 0 := by
        have hlt' := (List.getElem?_eq_some_iff.1 hlast).1
        simp only [List.length_singleton] at hlt'
        omega
      rw [hzero] at hlast
      exact Or.inr ⟨by omega, (Option.some.inj hlast).symm⟩
    · rintro (⟨-, h⟩ | ⟨rfl, rfl⟩)
      · simp at h
      · simp

end numbered

/-! ## Exchanges -/

/-- The last number, the handlers, and what was sent with them and closed. -/
structure Exchange (φ η : Type*) where
  currentId : ℕ
  handlers : ℕ → Option η
  requests : List (φ × Option η)
  closed : List ℕ
  counted : requests.length = currentId
  closed_le : ∀ id ∈ closed, id ≤ currentId
  matched : ∀ id h, handlers id = some h ↔ id ∉ closed ∧ ∃ f, Numbered requests id (f, some h)

namespace Exchange

/-- Nothing sent. -/
def empty : Exchange φ η where
  currentId := 0
  handlers _ := none
  requests := []
  closed := []
  counted := rfl
  closed_le := by simp
  matched := by simp [not_numbered_nil]

variable {x : Exchange φ η} {id : ℕ} {f g : φ} {h h' : η} {handler : Option η}

theorem handlers_eq_none_of_lt (x : Exchange φ η) (hlt : x.currentId < id) :
    x.handlers id = none := by
  refine Option.eq_none_iff_forall_ne_some.2 fun h hsome => ?_
  obtain ⟨-, f, hf⟩ := (x.matched id h).1 hsome
  have hle := hf.le
  rw [x.counted] at hle
  omega

/-- Send a request, with a handler or without one. -/
def send (f : φ) (handler : Option η) (x : Exchange φ η) : Exchange φ η where
  currentId := x.currentId + 1
  handlers :=
    match handler with
    | some h => Keyed.emplace x.handlers (x.currentId + 1) h
    | none => x.handlers
  requests := x.requests ++ [(f, handler)]
  closed := x.closed
  counted := by rw [List.length_append, x.counted]; rfl
  closed_le id hid := Nat.le_succ_of_le (x.closed_le id hid)
  matched id h := by
    have hnew : x.currentId + 1 ∉ x.closed := fun hmem => by
      have hle := x.closed_le _ hmem
      omega
    simp only [numbered_concat, x.counted, Prod.mk.injEq, exists_or, exists_and_left]
    by_cases hid : id = x.currentId + 1
    · subst hid
      have hnone : x.handlers (x.currentId + 1) = none :=
        x.handlers_eq_none_of_lt (Nat.lt_succ_self _)
      have hold : ¬∃ f, Numbered x.requests (x.currentId + 1) (f, some h) := by
        rintro ⟨f, hf⟩
        have hle := hf.le
        rw [x.counted] at hle
        omega
      cases handler with
      | none => simp [hnone, hold]
      | some h' => simp [hnone, hold, hnew, eq_comm]
    · have hold : (match handler with
          | some h => Keyed.emplace x.handlers (x.currentId + 1) h
          | none => x.handlers) id = x.handlers id := by
        cases handler with
        | none => rfl
        | some h' => exact Keyed.emplace_of_ne hid
      rw [hold, x.matched id h]
      simp [hid]

/-- Close a request that was sent : its handler is removed. -/
def close (id : ℕ) (x : Exchange φ η) : Exchange φ η :=
  if hid : id ≤ x.currentId then
    { x with
      handlers := Keyed.erase x.handlers id
      closed := x.closed ++ [id]
      closed_le := by
        intro id' hmem
        rcases List.mem_append.1 hmem with hmem | hmem
        · exact x.closed_le id' hmem
        · exact List.mem_singleton.1 hmem ▸ hid
      matched := by
        intro id' h
        rw [Keyed.erase_eq_some_iff, x.matched id' h, List.mem_append, List.mem_singleton, not_or]
        tauto }
  else x

@[simp] theorem close_requests : (x.close id).requests = x.requests := by
  unfold close
  split_ifs <;> rfl

theorem close_closed (hid : id ≤ x.currentId) : (x.close id).closed = x.closed ++ [id] := by
  rw [close, dif_pos hid]

/-- The request with a handler was sent with it. -/
theorem exists_request (hhandler : x.handlers id = some h) :
    ∃ f, Numbered x.requests id (f, some h) :=
  ((x.matched id h).1 hhandler).2

end Exchange

end Requests
