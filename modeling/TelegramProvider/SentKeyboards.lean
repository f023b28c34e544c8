import TelegramProvider.Agent
import TelegramProvider.Histories

/-!
# The keyboards of calls

When a call is hung up, `deleteKeyboard` searches what Telegram answered for the id of the keyboard,
and then deletes the message of the first update instead of the one it found.

The ledger of the calls says what is recorded for each : the last answer since it was hung up. A
hang-up settles a call (`Settles`) when it deletes the message that the ledger has for it, and
strikes the record. `settles_iff` : in a run all of them do just when each hung-up call has no
answer on record, or one whose first update is the one with the id.
-/

set_option autoImplicit false

namespace TelegramProvider

open Histories

namespace Agent

/-! ## The ledger -/

/-- What an update means for the keyboards : one was sent for a call, or a call was hung up. -/
inductive Event
  | recorded (callId : ℤ) (response : Response)
  | hungUp (callId : ℤ)
  deriving DecidableEq, Repr

/-- A keyboard is sent for an incoming call if the bot and the user are known, and is recorded if
Telegram answers with an array. A call is hung up by the other side. -/
def event (settings : Settings) (x : Update × Replies) : Option Event :=
  match x.1 with
  | .phoneCall call =>
    if settings.botId ≠ 0 ∧ call.incoming = true ∧ x.2.users (some call.otherId) ≠ [] ∧
        x.2.results ≠ 0 then
      x.2.response.map (.recorded call.callId)
    else none
  | .newMessage m =>
    match m.content with
    | .call .hangup callId =>
      if settings.myId ≠ m.fromId.getD 0 then some (.hungUp callId) else none
    | _ => none

/-- What is recorded for each call. -/
abbrev Ledger := ℤ → Option Response

/-- An event is entered. -/
def enter (ledger : Ledger) : Option Event → Ledger
  | some (.recorded callId response) => Function.update ledger callId (some response)
  | some (.hungUp callId) => Function.update ledger callId none
  | none => ledger

/-- The ledger behind some updates. -/
def enterAll (settings : Settings) (ledger : Ledger) (xs : List (Update × Replies)) : Ledger :=
  xs.foldl (fun ledger x => enter ledger (event settings x)) ledger

theorem enterAll_concat (settings : Settings) (ledger : Ledger) (xs : List (Update × Replies))
    (x : Update × Replies) :
    enterAll settings ledger (xs ++ [x]) =
      enter (enterAll settings ledger xs) (event settings x) :=
  List.foldl_append

/-- The id of the keyboard of a call, if there is one. -/
def keyboardOf (record : Option Response) : Option ℤ :=
  record.bind fun response => response.updates.bind findMessageID

/-- The deletions in a record. -/
def deletedIn (trace : List Obs) : List (List (Option ℤ)) :=
  trace.filterMap fun
    | .deleted ids => some ids
    | _ => none

/-- Between `a` and `a'` the call is settled : exactly its keyboard was deleted, its record is gone,
and those of other calls are as they were. -/
structure Settles (record : Option Response) (callId : ℤ) (a a' : Agent) : Prop where
  deleted : deletedIn a'.trace =
    deletedIn a.trace ++ (keyboardOf record).toList.map fun id => [some id]
  removed : a'.activeCalls callId = none
  others : ∀ callId', callId' ≠ callId → a'.activeCalls callId' = a.activeCalls callId'

/-- What is recorded has a list of updates, and the first of them has the id of the keyboard, if
there is a keyboard. -/
def IdFirst (record : Option Response) : Prop :=
  ∀ response, record = some response → ∃ updates, response.updates = some updates ∧
    ∀ id, findMessageID updates = some id → id ≠ 0 ∧ updates.head?.bind UpdateData.id = some id

/-! ## One hang-up -/

section hangup

variable {settings : Settings} {a a' : Agent} {x : Update × Replies} {r : Replies} {m : Message}
  {callId : ℤ} {userId : ℤ} {response : Response} {record : Option Response} {ledger : Ledger}

@[simp] theorem deletedIn_append (trace trace' : List Obs) :
    deletedIn (trace ++ trace') = deletedIn trace ++ deletedIn trace' :=
  List.filterMap_append

theorem deletedIn_autoAnswer : deletedIn (a.autoAnswer settings userId r).trace =
    deletedIn a.trace := by
  unfold autoAnswer answer
  split_ifs
  · rfl
  · dsimp only [forget, setLastMsg_trace]
    split_ifs
    · simp [deletedIn]
    · rfl

theorem deleteKeyboard_of_none (h : a.activeCalls callId = none) : a.deleteKeyboard callId = a := by
  unfold deleteKeyboard
  rw [h]

/-- Nothing is done with an answer that has no updates. -/
theorem deleteKeyboard_of_noUpdates (h : a.activeCalls callId = some response)
    (hnone : response.updates = none) : a.deleteKeyboard callId = a := by
  unfold deleteKeyboard
  rw [h]
  dsimp only
  rw [hnone]

/-- With updates, the record goes, and the first update says what is deleted. -/
theorem deleteKeyboard_of_updates {updates : List UpdateData}
    (h : a.activeCalls callId = some response) (hupdates : response.updates = some updates) :
    (a.deleteKeyboard callId).activeCalls = Function.update a.activeCalls callId none ∧
      deletedIn (a.deleteKeyboard callId).trace = deletedIn a.trace ++
        if (findMessageID updates).getD 0 ≠ 0 then [[updates.head?.bind UpdateData.id]]
        else [] := by
  unfold deleteKeyboard
  rw [h]
  dsimp only
  rw [hupdates]
  dsimp only
  split_ifs with hid
  · exact ⟨rfl, by simp [deletedIn]⟩
  · exact ⟨rfl, by simp⟩

/-- With updates, what is left to settle is the deletion. -/
theorem settles_of_updates_iff {updates : List UpdateData}
    (h : a.activeCalls callId = some response) (hupdates : response.updates = some updates) :
    Settles (some response) callId a (a.deleteKeyboard callId) ↔
      (if (findMessageID updates).getD 0 ≠ 0 then [[updates.head?.bind UpdateData.id]] else []) =
        (findMessageID updates).toList.map fun id => [some id] := by
  obtain ⟨hcalls, hdeleted⟩ := deleteKeyboard_of_updates h hupdates
  have hkeyboard : keyboardOf (some response) = findMessageID updates := by
    simp [keyboardOf, hupdates]
  constructor
  · rintro ⟨hsame, -, -⟩
    rwa [hdeleted, hkeyboard, List.append_cancel_left_eq] at hsame
  · intro hsame
    refine ⟨?_, ?_, fun callId' hne => ?_⟩
    · rw [hdeleted, hkeyboard, hsame]
    · rw [hcalls, Function.update_self]
    · rw [hcalls, Function.update_of_ne hne]

/-- `deleteKeyboard` settles a call just when the first update has the id. -/
theorem settles_deleteKeyboard_iff :
    Settles (a.activeCalls callId) callId a (a.deleteKeyboard callId) ↔
      IdFirst (a.activeCalls callId) := by
  cases hrecord : a.activeCalls callId with
  | none =>
    rw [deleteKeyboard_of_none hrecord]
    exact iff_of_true ⟨by simp [keyboardOf], hrecord, fun _ _ => rfl⟩ (by simp [IdFirst])
  | some response =>
    cases hupdates : response.updates with
    | none =>
      rw [deleteKeyboard_of_noUpdates hrecord hupdates]
      refine iff_of_false (fun h => ?_) (fun h => ?_)
      · have hremoved := h.removed
        simp [hrecord] at hremoved
      · obtain ⟨updates, hsome, -⟩ := h response rfl
        simp [hupdates] at hsome
    | some updates =>
      have hfirst : IdFirst (some response) ↔ ∀ id, findMessageID updates = some id →
          id ≠ 0 ∧ updates.head?.bind UpdateData.id = some id := by
        simp [IdFirst, hupdates]
      rw [settles_of_updates_iff hrecord hupdates, hfirst]
      cases findMessageID updates with
      | none => simp
      | some id => by_cases hid : id = 0 <;> simp [hid]

/-- An update that hangs a call up is the message of the call, of the other side. -/
theorem event_eq_hungUp_iff : event settings x = some (.hungUp callId) ↔
    ∃ m, x.1 = .newMessage m ∧ m.content = .call .hangup callId ∧
      settings.myId ≠ m.fromId.getD 0 := by
  obtain ⟨u, r⟩ := x
  cases u with
  | phoneCall call =>
    unfold event
    dsimp only
    split_ifs <;> simp
  | newMessage m =>
    obtain ⟨kind, id, out, user, fromId, peerId, content⟩ := m
    unfold event
    rcases content with text | ⟨_ | _ | _, callId'⟩ | _
    case call.hangup =>
      dsimp only
      split_ifs with hmine <;> simp [hmine]
    all_goals simp

/-- Behind the message of a call, nothing is deleted. -/
theorem deletedIn_newMessage_of_call {reason : Reason} (h : m.content = .call reason callId) :
    deletedIn (a.newMessage settings m r).trace = deletedIn a.trace := by
  unfold newMessage
  split_ifs
  · split
    · rfl
    · rw [h]
      exact deletedIn_autoAnswer
  · rfl

/-- A hang-up is handled by `deleteKeyboard`, behind which nothing is deleted. -/
theorem handle_of_hungUp (h : event settings x = some (.hungUp callId)) :
    (a.handle settings x).activeCalls = (a.deleteKeyboard callId).activeCalls ∧
      deletedIn (a.handle settings x).trace = deletedIn (a.deleteKeyboard callId).trace := by
  obtain ⟨u, r⟩ := x
  obtain ⟨m, rfl, hcontent, hmine⟩ := event_eq_hungUp_iff.1 h
  have hany : a.onAny settings m r = a.deleteKeyboard callId := by
    unfold onAny
    rw [hcontent]
    exact if_pos hmine
  have hhandle : a.handle settings (.newMessage m, r) =
      (a.deleteKeyboard callId).newMessage settings m r := by
    rw [← hany]
    rfl
  rw [hhandle]
  exact ⟨newMessage_activeCalls, deletedIn_newMessage_of_call hcontent⟩

/-- What is recorded for a call is entered in the ledger. -/
theorem onUpdatePhoneCall_activeCalls {call : PhoneCall} :
    (a.onUpdatePhoneCall settings call r).activeCalls =
      enter a.activeCalls (event settings (.phoneCall call, r)) := by
  unfold onUpdatePhoneCall event
  dsimp only
  by_cases hbot : settings.botId = 0
  · simp [hbot, enter]
  · by_cases hincoming : call.incoming = true
    · rw [if_neg hbot, if_pos hincoming]
      have huser : userOf none (some call) = some call.otherId := rfl
      unfold sendKeyboard
      rw [huser]
      cases hu : r.users (some call.otherId) with
      | nil => simp [enter]
      | cons user users =>
        dsimp only
        by_cases hresults : r.results = 0
        · simp [hresults, enter]
        · cases hresponse : r.response with
          | none => simp [hresults, enter]
          | some response => simp [hbot, hincoming, hresults, enter]
    · simp [hbot, hincoming, enter]

/-- A message that is no hang-up records nothing. -/
theorem onAny_activeCalls
    (h : ∀ callId, m.content = .call .hangup callId → settings.myId = m.fromId.getD 0) :
    (a.onAny settings m r).activeCalls = a.activeCalls := by
  unfold onAny
  split
  · rename_i callId hcontent
    rw [if_neg (not_not.2 (h callId hcontent))]
  · split_ifs
    · exact sendKeyboard_none_activeCalls
    · rfl
  · rfl

/-- What an update records is entered in the ledger, and nothing else is. -/
theorem handle_activeCalls (h : ∀ callId, event settings x ≠ some (.hungUp callId)) :
    (a.handle settings x).activeCalls = enter a.activeCalls (event settings x) := by
  obtain ⟨u, r⟩ := x
  cases u with
  | phoneCall call => exact onUpdatePhoneCall_activeCalls
  | newMessage m =>
    have hmine : ∀ callId, m.content = .call .hangup callId →
        settings.myId = m.fromId.getD 0 := by
      intro callId hcontent
      by_contra hne
      exact h callId (event_eq_hungUp_iff.2 ⟨m, rfl, hcontent, hne⟩)
    have hevent : event settings (.newMessage m, r) = none := by
      unfold event
      dsimp only
      split
      · rename_i callId hcontent
        exact if_neg (not_not.2 (hmine callId hcontent))
      · rfl
    rw [hevent]
    exact newMessage_activeCalls.trans (onAny_activeCalls hmine)

end hangup

/-! ## Runs -/

/-- In the run, every hang-up settles the call, by what the ledger has for it. -/
def SettlesAll (settings : Settings) (a : Agent) (xs : List (Update × Replies)) : Prop :=
  ∀ pre x post callId, xs = pre ++ x :: post → event settings x = some (.hungUp callId) →
    Settles (enterAll settings a.activeCalls pre callId) callId (a.handleAll settings pre)
      (a.handleAll settings (pre ++ [x]))

/-- In the run, every call that is hung up has the id of its keyboard first. -/
def IdsFirst (settings : Settings) (a : Agent) (xs : List (Update × Replies)) : Prop :=
  ∀ pre x post callId, xs = pre ++ x :: post → event settings x = some (.hungUp callId) →
    IdFirst (enterAll settings a.activeCalls pre callId)

section run

variable {settings : Settings} {a : Agent} {xs pre : List (Update × Replies)}
  {x : Update × Replies} {callId : ℤ}

theorem settlesAll_iff : SettlesAll settings a xs ↔ Justified (fun pre x => ∀ callId,
    event settings x = some (.hungUp callId) →
      Settles (enterAll settings a.activeCalls pre callId) callId (a.handleAll settings pre)
        (a.handleAll settings (pre ++ [x]))) xs :=
  ⟨fun h pre x post hsplit callId hevent => h pre x post callId hsplit hevent,
    fun h pre x post callId hsplit hevent => h pre x post hsplit callId hevent⟩

theorem idsFirst_iff : IdsFirst settings a xs ↔ Justified (fun pre x => ∀ callId,
    event settings x = some (.hungUp callId) →
      IdFirst (enterAll settings a.activeCalls pre callId)) xs :=
  ⟨fun h pre x post hsplit callId hevent => h pre x post callId hsplit hevent,
    fun h pre x post callId hsplit hevent => h pre x post hsplit callId hevent⟩

/-- Where the records are those of the ledger, a hang-up settles its call just when the id is
first. -/
theorem settles_handle_iff (hledger : (a.handleAll settings pre).activeCalls =
      enterAll settings a.activeCalls pre)
    (hevent : event settings x = some (.hungUp callId)) :
    Settles (enterAll settings a.activeCalls pre callId) callId (a.handleAll settings pre)
        (a.handleAll settings (pre ++ [x])) ↔
      IdFirst (enterAll settings a.activeCalls pre callId) := by
  obtain ⟨hcalls, hdeleted⟩ := handle_of_hungUp (a := a.handleAll settings pre) hevent
  rw [← hledger, ← settles_deleteKeyboard_iff, handleAll_concat]
  constructor
  · rintro ⟨h₁, h₂, h₃⟩
    exact ⟨hdeleted ▸ h₁, hcalls ▸ h₂, hcalls ▸ h₃⟩
  · rintro ⟨h₁, h₂, h₃⟩
    exact ⟨hdeleted.symm ▸ h₁, hcalls.symm ▸ h₂, hcalls.symm ▸ h₃⟩

/-- A settled call is struck from the ledger as well. -/
theorem activeCalls_of_settles (hledger : (a.handleAll settings pre).activeCalls =
      enterAll settings a.activeCalls pre)
    (h : ∀ callId, event settings x = some (.hungUp callId) →
      Settles (enterAll settings a.activeCalls pre callId) callId (a.handleAll settings pre)
        (a.handleAll settings (pre ++ [x]))) :
    (a.handleAll settings (pre ++ [x])).activeCalls =
      enterAll settings a.activeCalls (pre ++ [x]) := by
  by_cases hhung : ∃ callId, event settings x = some (.hungUp callId)
  · obtain ⟨callId, hevent⟩ := hhung
    have hsettles := h callId hevent
    funext callId'
    rw [enterAll_concat, hevent]
    by_cases hsame : callId' = callId
    · subst hsame
      simpa [enter] using hsettles.removed
    · rw [hsettles.others callId' hsame, hledger]
      simp [enter, hsame]
  · rw [handleAll_concat, enterAll_concat, ← hledger]
    exact handle_activeCalls fun callId hevent => hhung ⟨callId, hevent⟩

/-- While every hang-up settles its call, the records are those of the ledger. -/
theorem SettlesAll.activeCalls_eq (h : SettlesAll settings a xs) :
    (a.handleAll settings xs).activeCalls = enterAll settings a.activeCalls xs := by
  induction xs using List.reverseRecOn with
  | nil => rfl
  | append_singleton xs x ih =>
    obtain ⟨hxs, hx⟩ := justified_snoc.1 (settlesAll_iff.1 h)
    exact activeCalls_of_settles (ih (settlesAll_iff.2 hxs)) hx

end run

/-- Every hang-up of a run settles its call just when what is recorded for the call is nothing, or
has the id of the keyboard in its first update if it has one. -/
theorem settles_iff (settings : Settings) (a : Agent) (xs : List (Update × Replies)) :
    SettlesAll settings a xs ↔ IdsFirst settings a xs := by
  induction xs using List.reverseRecOn with
  | nil => exact iff_of_true (settlesAll_iff.2 justified_nil) (idsFirst_iff.2 justified_nil)
  | append_singleton xs x ih =>
    rw [settlesAll_iff, idsFirst_iff, justified_snoc, justified_snoc, ← settlesAll_iff,
      ← idsFirst_iff, ← ih]
    refine and_congr_right fun hxs => forall_congr' fun callId => forall_congr' fun hevent => ?_
    exact settles_handle_iff hxs.activeCalls_eq hevent

/-- User 5 is known, and Telegram answers with a new message before the id of the keyboard, 77. -/
def idSecond : Replies where
  users _ := [⟨5, none, none⟩]
  peer := 5
  results := 1
  response := some ⟨some [.other none, .messageID 77]⟩
  channel _ := none
  clock _ := 100

/-- User 5 calls, and hangs up. -/
def callAndHangUp : List (Update × Replies) := [
  (.phoneCall ⟨true, 5, 1⟩, idSecond),
  (.newMessage ⟨"message", 78, false, none, some 5, some 5, .call .hangup 1⟩, idSecond)]

theorem not_settlesAll_callAndHangUp :
    ¬SettlesAll ⟨"79000000000", 3, 9, "busy"⟩ {} callAndHangUp := by
  intro h
  have hdeleted := (h _ _ [] 1 (show callAndHangUp = [_] ++ [_] by rfl) rfl).deleted
  exact absurd hdeleted (by decide)

end Agent

end TelegramProvider
