import Mathlib.Data.List.Infix
import TelegramProvider.Actions

/-!
# Dialing Telegram

The action `DialTg`. A SIP call names its callee by username, by phone number or by user
id; the first two are looked up in the cache, then asked for, and the id found is called.
A TDLib error is queued as an internal error and its text is searched for a flood notice
(`parseError`), which blocks all calls until some later time.

`dialTg` returns a frame in two ways (`Dialed`) : with the id of a call created, or with
one error queued and the context unchanged.
-/

set_option autoImplicit false

namespace TelegramProvider

namespace Frame

/-- `*block_until_ = t`. -/
def block (t : ℤ) (f : Frame) : Frame :=
  { f with deps := { f.deps with blockUntil := t } }

/-- Change the contacts cache. -/
def modifyCache (g : Cache → Cache) (f : Frame) : Frame :=
  { f with deps := { f.deps with cache := g f.deps.cache } }

variable (f : Frame) (t : ℤ) (g : Cache → Cache)

@[simp] theorem block_ctx : (f.block t).ctx = f.ctx := rfl
@[simp] theorem block_trace : (f.block t).deps.trace = f.deps.trace := rfl
@[simp] theorem block_sip : (f.block t).deps.sip = f.deps.sip := rfl
@[simp] theorem block_errors : (f.block t).deps.internalEvents = f.deps.internalEvents := rfl
@[simp] theorem modifyCache_ctx : (f.modifyCache g).ctx = f.ctx := rfl
@[simp] theorem modifyCache_trace : (f.modifyCache g).deps.trace = f.deps.trace := rfl
@[simp] theorem modifyCache_sip : (f.modifyCache g).deps.sip = f.deps.sip := rfl
@[simp] theorem modifyCache_errors :
    (f.modifyCache g).deps.internalEvents = f.deps.internalEvents := rfl

end Frame

namespace Actions

/-! ## Flood notices -/

/-- `std::regex_search` for `pat` followed by digits, leftmost and greedy : the digits. -/
def searchDigitsAfter (pat : List Char) : List Char → Option (List Char)
  | [] => none
  | c :: cs =>
    match (c :: cs).dropPrefix? pat with
    | some rest =>
      match rest.takeWhile Char.isDigit with
      | [] => searchDigitsAfter pat cs
      | digits => some digits
    | none => searchDigitsAfter pat cs

/-- `delay_regex`, up to the digits. -/
def delayText : String := "Too Many Requests: retry after "

/-- `flood_regex`. -/
def floodText : String := "PEER_FLOOD"

/-- The digits `delay_regex` captures in a message. -/
def retryAfter (message : String) : Option (List Char) :=
  searchDigitsAfter delayText.toList message.toList

/-- `std::stoi` on a string of digits; `none` is `std::out_of_range`. -/
def stoi (digits : List Char) : Option ℕ :=
  if 2 ^ 31 ≤ Nat.ofDigitChars 10 digits 0 then none else some (Nat.ofDigitChars 10 digits 0)

/-- Nanoseconds in a number of seconds. -/
def nanoseconds (seconds : ℕ) : ℤ :=
  seconds * 10 ^ 9

/-- The seconds a retry notice blocks for, an `unsigned int`. -/
def delaySeconds (settings : Settings) (seconds : ℕ) : ℕ :=
  (seconds + settings.extraWaitTime.toNat) % 2 ^ 32

/-- `parse_error`. The clock is read again here. -/
def parseError (settings : Settings) (r : Replies) (error : Td.Error) (f : Frame) :
    Except Crash Frame :=
  match retryAfter error.message with
  | some digits =>
    match stoi digits with
    | some seconds => .ok (f.block (r.later + nanoseconds (delaySeconds settings seconds)))
    | none => .error (.escaped (.outOfRange "stoi"))
  | none =>
    if floodText.toList <:+: error.message.toList then
      .ok (f.block (r.later + nanoseconds settings.peerFloodTime.toNat))
    else .ok f

/-- What the dialing functions do with a TDLib error. -/
def dialFailed (settings : Settings) (r : Replies) (error : Td.Error) (f : Frame) :
    Except Crash Frame :=
  parseError settings r error (f.emplaceError
    { internalServerError (tgReason error) with useDefaultCallSetting := true })

/-! ## The three ways to dial -/

/-- `dial_by_id`. -/
def dialById (settings : Settings) (r : Replies) (id : ℤ) (f : Frame) : Except Crash Frame :=
  let asked := f.send (.createCall id (callProtocol settings) false)
  match r.createCall with
  | .error error => dialFailed settings r error asked
  | .ok callId =>
    .ok ((asked.log (.tgAssociated f.ctx.id callId)).modifyCtx ({ · with tgCallId := callId }))

/-- `dial_by_phone`. -/
def dialByPhone (settings : Settings) (r : Replies) (f : Frame) : Except Crash Frame :=
  match f.deps.cache.phoneCache f.ctx.extPhone with
  | some id => dialById settings r id f
  | none =>
    let asked := f.send (.importContacts [f.ctx.extPhone])
    match r.importContacts with
    | .error error => dialFailed settings r error asked
    | .ok contacts =>
      let userId := contacts.userIds.get ⟨0, contacts.pos⟩
      if userId = 0 then
        .ok (asked.emplaceError {
          useDefaultCallSetting := true
          statusCode := Sip.scNotFound
          reason := "not registered in telegram" })
      else
        dialById settings r userId (asked.modifyCache fun cache =>
          { cache with phoneCache := Keyed.emplace cache.phoneCache f.ctx.extPhone userId })

/-- `dial_by_username`. -/
def dialByUsername (settings : Settings) (r : Replies) (f : Frame) : Except Crash Frame :=
  match f.deps.cache.usernameCache f.ctx.extUsername with
  | some id => dialById settings r id f
  | none =>
    let asked := f.send (.searchPublicChat f.ctx.extUsername)
    match r.searchPublicChat with
    | .error error => dialFailed settings r error asked
    | .ok chat =>
      if chat.isPrivate then
        dialById settings r chat.id (asked.modifyCache fun cache =>
          { cache with
            usernameCache := Keyed.emplace cache.usernameCache f.ctx.extUsername chat.id })
      else
        .ok (asked.emplaceError {
          internalServerError "not a user" with useDefaultCallSetting := true })

/-- The seconds of the block that are left, as `duration_cast` rounds them. -/
def secondsLeft (r : Replies) (f : Frame) : ℤ :=
  (f.deps.blockUntil - r.later).tdiv (10 ^ 9)

/-- `DialTg`. -/
def dialTg (settings : Settings) (r : Replies) (f : Frame) : Except Crash Frame :=
  if r.now < f.deps.blockUntil then
    .ok (f.emplaceError (internalServerError ("FLOOD_WAIT " ++ toString (secondsLeft r f))))
  else if f.ctx.extUsername ≠ "" then
    dialByUsername settings r f
  else if f.ctx.extPhone ≠ "" then
    dialByPhone settings r f
  else
    dialById settings r f.ctx.userId f

/-! ## What dialing does -/

/-- The query asks who a username or a phone number belongs to. -/
def IsLookup : Td.Query → Prop
  | .importContacts _ => True
  | .searchPublicChat _ => True
  | _ => False

/-- How dialing ends when it returns. Only `lookups` are asked before the call is created,
and a failure queues one error. -/
inductive Dialed (settings : Settings) (r : Replies) (f f' : Frame) : Prop
  | created (callId userId : ℤ) (lookups : List Td.Query)
      (reply : r.createCall = .ok callId)
      (asked : ∀ q ∈ lookups, IsLookup q)
      (granted : ∀ q ∈ lookups, ¬r.Refuses q)
      (ctx : f'.ctx = { f.ctx with tgCallId := callId })
      (sip : f'.deps.sip = f.deps.sip)
      (errors : f'.deps.internalEvents = f.deps.internalEvents)
      (trace : f'.deps.trace = f.deps.trace ++ lookups.map (.query f.ctx.id) ++
        [.query f.ctx.id (.createCall userId (callProtocol settings) false),
          .tgAssociated f.ctx.id callId])
  | failed (prm : Sip.CallOpParam) (lookups creates : List Td.Query)
      (asked : ∀ q ∈ lookups, IsLookup q)
      (asked' : creates = [] ∨
        ∃ userId, creates = [.createCall userId (callProtocol settings) false])
      (ctx : f'.ctx = f.ctx)
      (sip : f'.deps.sip = f.deps.sip)
      (errors : f'.deps.internalEvents = f.deps.internalEvents ++ [⟨f.ctx.id, prm⟩])
      (trace : f'.deps.trace = f.deps.trace ++ lookups.map (.query f.ctx.id) ++
        creates.map (.query f.ctx.id) ++ [.failed f.ctx.id prm])

variable {settings : Settings} {r : Replies} {f f' : Frame}

/-- `parseError` touches nothing but the block. -/
theorem exists_block_of_parseError {error : Td.Error}
    (h : parseError settings r error f = .ok f') : f' = f ∨ ∃ t, f' = f.block t := by
  unfold parseError at h
  split at h
  · split at h
    · exact Or.inr ⟨_, (Except.ok.inj h).symm⟩
    · simp at h
  · split_ifs at h
    · exact Or.inr ⟨_, (Except.ok.inj h).symm⟩
    · exact Or.inl (Except.ok.inj h).symm

/-- `f₀` is `f` after some lookups. -/
structure LookedUp (f : Frame) (lookups : List Td.Query) (f₀ : Frame) : Prop where
  ctx : f₀.ctx = f.ctx
  sip : f₀.deps.sip = f.deps.sip
  errors : f₀.deps.internalEvents = f.deps.internalEvents
  trace : f₀.deps.trace = f.deps.trace ++ lookups.map (.query f.ctx.id)
  asked : ∀ q ∈ lookups, IsLookup q

theorem LookedUp.refl (f : Frame) : LookedUp f [] f :=
  ⟨rfl, rfl, rfl, by simp, by simp⟩

theorem LookedUp.send {q : Td.Query} (hq : IsLookup q) (f : Frame) :
    LookedUp f [q] (f.send q) :=
  ⟨rfl, rfl, rfl, by simp, by simpa using hq⟩

theorem LookedUp.modifyCache {lookups : List Td.Query} {f₀ : Frame} (h : LookedUp f lookups f₀)
    (g : Cache → Cache) : LookedUp f lookups (f₀.modifyCache g) :=
  ⟨h.ctx, h.sip, h.errors, h.trace, h.asked⟩

/-- One error queued after the lookups, and perhaps a refused `createCall`, is a failure. -/
theorem LookedUp.failed {lookups : List Td.Query} {f₀ f₁ : Frame} {prm : Sip.CallOpParam}
    (creates : List Td.Query) (h : LookedUp f lookups f₀)
    (hcreates : creates = [] ∨ ∃ userId, creates = [.createCall userId (callProtocol settings) false])
    (hctx : f₁.ctx = f₀.ctx) (hsip : f₁.deps.sip = f₀.deps.sip)
    (herrors : f₁.deps.internalEvents = f₀.deps.internalEvents ++ [⟨f₀.ctx.id, prm⟩])
    (htrace : f₁.deps.trace =
      f₀.deps.trace ++ creates.map (.query f₀.ctx.id) ++ [.failed f₀.ctx.id prm]) :
    Dialed settings r f f₁ := by
  refine .failed prm lookups creates h.asked hcreates (hctx.trans h.ctx) (hsip.trans h.sip) ?_ ?_
  · rw [herrors, h.errors, h.ctx]
  · rw [htrace, h.trace, h.ctx]

theorem LookedUp.dialFailed {lookups : List Td.Query} {f₀ : Frame} {error : Td.Error}
    (creates : List Td.Query) (h : LookedUp f lookups f₀)
    (hcreates : creates = [] ∨ ∃ userId, creates = [.createCall userId (callProtocol settings) false])
    {f₁ : Frame} (hf₁ : f₁ = creates.foldl (fun f q => f.send q) f₀)
    (hok : dialFailed settings r error f₁ = .ok f') : Dialed settings r f f' := by
  obtain rfl | ⟨userId, rfl⟩ := hcreates <;> subst hf₁ <;>
    obtain rfl | ⟨t, rfl⟩ := exists_block_of_parseError hok
  · exact h.failed [] (Or.inl rfl) rfl rfl rfl (by simp)
  · exact h.failed [] (Or.inl rfl) rfl rfl rfl (by simp)
  · exact h.failed [_] (Or.inr ⟨userId, rfl⟩) rfl rfl rfl (by simp)
  · exact h.failed [_] (Or.inr ⟨userId, rfl⟩) rfl rfl rfl (by simp)

theorem LookedUp.dialById {lookups : List Td.Query} {f₀ : Frame} {id : ℤ}
    (h : LookedUp f lookups f₀) (hgranted : ∀ q ∈ lookups, ¬r.Refuses q)
    (hok : dialById settings r id f₀ = .ok f') :
    Dialed settings r f f' := by
  unfold Actions.dialById at hok
  cases hreply : r.createCall with
  | error error =>
    rw [hreply] at hok
    exact h.dialFailed [_] (Or.inr ⟨id, rfl⟩) rfl hok
  | ok callId =>
    rw [hreply] at hok
    obtain rfl := Except.ok.inj hok
    refine .created callId id lookups hreply h.asked hgranted ?_ h.sip h.errors ?_
    · simp [h.ctx]
    · simp [h.trace, h.ctx]

theorem dialed_of_dialByPhone (h : dialByPhone settings r f = .ok f') :
    Dialed settings r f f' := by
  unfold dialByPhone at h
  split at h
  · exact (LookedUp.refl f).dialById (by simp) h
  · have hsend := LookedUp.send (q := .importContacts [f.ctx.extPhone]) trivial f
    split at h
    · exact hsend.dialFailed [] (Or.inl rfl) rfl h
    · dsimp only at h
      split_ifs at h
      · obtain rfl := Except.ok.inj h
        exact hsend.failed [] (Or.inl rfl) rfl rfl rfl (by simp)
      · exact (hsend.modifyCache _).dialById (by simp [Replies.Refuses, *]) h

theorem dialed_of_dialByUsername (h : dialByUsername settings r f = .ok f') :
    Dialed settings r f f' := by
  unfold dialByUsername at h
  split at h
  · exact (LookedUp.refl f).dialById (by simp) h
  · have hsend := LookedUp.send (q := .searchPublicChat f.ctx.extUsername) trivial f
    split at h
    · exact hsend.dialFailed [] (Or.inl rfl) rfl h
    · split_ifs at h
      · exact (hsend.modifyCache _).dialById (by simp [Replies.Refuses, *]) h
      · obtain rfl := Except.ok.inj h
        exact hsend.failed [] (Or.inl rfl) rfl rfl rfl (by simp)

/-- Dialing creates one call or queues one error. -/
theorem dialed_of_dialTg (h : dialTg settings r f = .ok f') : Dialed settings r f f' := by
  unfold dialTg at h
  split_ifs at h
  · obtain rfl := Except.ok.inj h
    exact (LookedUp.refl f).failed [] (Or.inl rfl) rfl rfl rfl (by simp)
  · exact dialed_of_dialByUsername h
  · exact dialed_of_dialByPhone h
  · exact (LookedUp.refl f).dialById (by simp) h

end Actions

end TelegramProvider
