import TelegramProvider.Requests
import TelegramProvider.Runs
import TelegramProvider.Td

/-!
# The authorization program

`gen_db` reads what TDLib sends until the authorization is over. An update of the authorization
state prompts the user, or answers for the settings, and sends a query. If its reply is an error,
the same is done once more. A query counts as long as no other update or reply has set the program
on : the handler of its reply remembers `authentication_query_id`, which every run of
`on_authorization_state_update` increments.

`stale_of_run` : in every run, whatever the order of updates and replies, a reply does nothing
unless it is an error and answers the query that was sent in the latest run.
-/

set_option autoImplicit false

namespace TelegramProvider

open Runs Requests Td

/-! ## The program -/

namespace GenDb

/-- The queries `gen_db` sends. -/
inductive Function
  | checkAuthenticationCode (code : String)
  | registerUser (firstName lastName : String)
  | checkAuthenticationPassword (password : String)
  | setAuthenticationPhoneNumber (phoneNumber : String)
  | checkDatabaseEncryptionKey (encryptionKey : String)
  | proxy (f : ProxyFunction)
  | setTdlibParameters (parameters : TdlibParameters)
  deriving DecidableEq, Repr

/-- The handler of `create_authentication_query_handler`, with the id it captured, or the empty
one. -/
inductive Handler
  | authentication (id : ℕ)
  | ignore
  deriving DecidableEq, Repr

/-- What TDLib sends : an update of the authorization state, an error, or anything else. -/
inductive Object
  | updateAuthorizationState (state : AuthorizationState)
  | error (e : Error)
  | other
  deriving DecidableEq, Repr

/-- What is on record : a run of `on_authorization_state_update`, a text or an error that is
printed, and a query that is sent under an id. -/
inductive Obs
  | ran (state : AuthorizationState)
  | printed (text : String)
  | failed (e : Error)
  | sent (id : ℕ) (f : Function) (handler : Handler)
  deriving DecidableEq, Repr

/-- What the user types at the prompts of one run. -/
structure Typed where
  first : String
  second : String

end GenDb

/-- `TDClient`. -/
structure GenDb where
  exchange : Exchange GenDb.Function GenDb.Handler := .empty
  authenticationQueryId : ℕ := 0
  authorizationState : Option AuthorizationState := none
  sequenceDone : Bool := false
  log : List GenDb.Obs := []

namespace GenDb

/-- Record `o`. -/
def record (o : Obs) (s : GenDb) : GenDb :=
  { s with log := s.log ++ [o] }

/-- `send_query`, always with a handler. -/
def sendQuery (f : Function) (handler : Handler) (s : GenDb) : GenDb :=
  record (.sent (s.exchange.currentId + 1) f handler)
    { s with exchange := s.exchange.send f (some handler) }

/-- A query with the handler of `create_authentication_query_handler`. -/
def sendAuthentication (f : Function) (s : GenDb) : GenDb :=
  s.sendQuery f (.authentication s.authenticationQueryId)

/-- The sequence is over. -/
def finish (s : GenDb) : GenDb :=
  { s with sequenceDone := true }

/-- What is done in a state. -/
def handleState (settings : Td.Settings) (typed : Typed) (s : GenDb) : AuthorizationState → GenDb
  | .ready => s.finish.record (.printed "Authorization OK")
  | .loggingOut => s.finish.record (.printed "Logging out")
  | .closing => s.record (.printed "Closing")
  | .closed => s.finish.record (.printed "Terminated")
  | .waitCode =>
    (s.record (.printed "Enter authentication code: ")).sendAuthentication
      (.checkAuthenticationCode typed.first)
  | .waitRegistration =>
    ((s.record (.printed "Enter your first name: ")).record
      (.printed "Enter your last name: ")).sendAuthentication
        (.registerUser typed.first typed.second)
  | .waitPassword =>
    (s.record (.printed "Enter authentication password: ")).sendAuthentication
      (.checkAuthenticationPassword typed.first)
  | .waitOtherDeviceConfirmation link =>
    s.record (.printed ("Confirm this login link on another device: " ++ link))
  | .waitPhoneNumber =>
    (s.record (.printed "Enter phone number: ")).sendAuthentication
      (.setAuthenticationPhoneNumber typed.first)
  | .waitEncryptionKey =>
    (s.sendAuthentication (.checkDatabaseEncryptionKey "")).sendQuery (.proxy settings.proxy)
      .ignore
  | .waitTdlibParameters => s.sendAuthentication (.setTdlibParameters settings.libParameters)

/-- `on_authorization_state_update`. There is a state when it is called. -/
def onAuthorizationStateUpdate (settings : Td.Settings) (typed : Typed) (s : GenDb) : GenDb :=
  match s.authorizationState with
  | none => s
  | some state =>
    ({ s with
        authenticationQueryId := s.authenticationQueryId + 1 }.record (.ran state)).handleState
      settings typed state

/-- `check_authentication_error`. -/
def checkAuthenticationError (settings : Td.Settings) (typed : Typed) (object : Object)
    (s : GenDb) : GenDb :=
  match object with
  | .error e => (s.record (.failed e)).onAuthorizationStateUpdate settings typed
  | _ => s

/-- A handler is called. -/
def call (settings : Td.Settings) (typed : Typed) (object : Object) (s : GenDb) : Handler → GenDb
  | .authentication id =>
    if id = s.authenticationQueryId then s.checkAuthenticationError settings typed object else s
  | .ignore => s

/-- `process_update`. -/
def processUpdate (settings : Td.Settings) (typed : Typed) (object : Object) (s : GenDb) : GenDb :=
  match object with
  | .updateAuthorizationState state =>
    { s with authorizationState := some state }.onAuthorizationStateUpdate settings typed
  | _ => s

/-- The handler of a request is removed. -/
def erase (id : ℕ) (s : GenDb) : GenDb :=
  { s with exchange := s.exchange.close id }

/-- `process_response`. Nothing may have come before the time is over. -/
def processResponse (settings : Td.Settings) (typed : Typed) (id : ℕ) (object : Option Object)
    (s : GenDb) : GenDb :=
  match object with
  | none => s
  | some object =>
    if id = 0 then s.processUpdate settings typed object else
      match s.exchange.handlers id with
      | none => s
      | some handler => (s.call settings typed object handler).erase id

/-- What comes, and what the user types then. -/
structure Response where
  id : ℕ
  object : Option Object
  typed : Typed

/-- One turn of the loop of `auth`. -/
def Step (settings : Td.Settings) (s : GenDb) (r : Response) (s' : GenDb) : Prop :=
  s.sequenceDone = false ∧ s' = s.processResponse settings r.typed r.id r.object

/-! ## The property -/

/-- The entries since the last run. -/
def SinceRan (log post : List Obs) : Prop :=
  ∃ pre state, log = pre ++ .ran state :: post ∧ ∀ state', .ran state' ∉ post

/-- The query was sent in the latest run, with the handler for authentication queries. -/
def Latest (log : List Obs) (id : ℕ) : Prop :=
  ∃ post, SinceRan log post ∧ ∃ f captured, .sent id f (.authentication captured) ∈ post

/-- The handlers of authentication queries captured no later id than the present one, and one of
them at most captured this one. -/
structure Disciplined (s : GenDb) : Prop where
  captured_le : ∀ id captured, s.exchange.handlers id = some (.authentication captured) →
    captured ≤ s.authenticationQueryId
  unique : ∀ id id', s.exchange.handlers id = some (.authentication s.authenticationQueryId) →
    s.exchange.handlers id' = some (.authentication s.authenticationQueryId) → id = id'

/-- A reply that does something is an error, and answers the authentication query that was sent in
the latest run. What it does is to print the error and to do once more what the state asks for. -/
def IgnoresStale (settings : Td.Settings) (s : GenDb) : Prop :=
  ∀ r s', r.id ≠ 0 → Step settings s r s' → s'.log ≠ s.log →
    Latest s.log r.id ∧ ∃ e, r.object = some (.error e) ∧
      s'.log = ((s.record (.failed e)).onAuthorizationStateUpdate settings r.typed).log

/-! ## What every run keeps -/

/-- What holds of all requests, closed or not : those of earlier runs captured an earlier id, and
the one with the present id was sent in the latest run. -/
structure Inv (s : GenDb) : Prop where
  captured_le : ∀ id f captured,
    Numbered s.exchange.requests id (f, some (.authentication captured)) →
    captured ≤ s.authenticationQueryId
  unique : ∀ id id' f f',
    Numbered s.exchange.requests id (f, some (.authentication s.authenticationQueryId)) →
    Numbered s.exchange.requests id' (f', some (.authentication s.authenticationQueryId)) → id = id'
  latest : ∀ id f,
    Numbered s.exchange.requests id (f, some (.authentication s.authenticationQueryId)) →
    Latest s.log id

/-- A run has begun, and has sent no authentication query yet. -/
structure Begun (s : GenDb) : Prop where
  captured_lt : ∀ id f captured,
    Numbered s.exchange.requests id (f, some (.authentication captured)) →
    captured < s.authenticationQueryId
  since : ∃ post, SinceRan s.log post

section runs

variable {settings : Td.Settings} {typed : Typed} {s s' : GenDb} {o : Obs} {f : Function} {id : ℕ}
  {log post : List Obs} {text : String} {state : AuthorizationState} {object : Object}

theorem SinceRan.record (h : SinceRan log post) (ho : ∀ state, o ≠ .ran state) :
    SinceRan (log ++ [o]) (post ++ [o]) := by
  obtain ⟨pre, state, rfl, hnot⟩ := h
  refine ⟨pre, state, by simp, fun state' hmem => ?_⟩
  rcases List.mem_append.1 hmem with hmem | hmem
  · exact hnot state' hmem
  · exact ho state' (List.mem_singleton.1 hmem).symm

theorem Latest.record (h : Latest log id) (ho : ∀ state, o ≠ .ran state) :
    Latest (log ++ [o]) id := by
  obtain ⟨post, hsince, f, captured, hmem⟩ := h
  exact ⟨post ++ [o], hsince.record ho, f, captured, List.mem_append_left _ hmem⟩

theorem Inv.record (h : Inv s) (ho : ∀ state, o ≠ .ran state) : Inv (s.record o) :=
  ⟨h.captured_le, h.unique, fun id f hid => (h.latest id f hid).record ho⟩

theorem Begun.record (h : Begun s) (ho : ∀ state, o ≠ .ran state) : Begun (s.record o) := by
  obtain ⟨post, hsince⟩ := h.since
  exact ⟨h.captured_lt, post ++ [o], hsince.record ho⟩

theorem Begun.printed (h : Begun s) (text : String) : Begun (s.record (.printed text)) :=
  h.record (by simp)

/-- A run may end without a query. -/
theorem Begun.inv (h : Begun s) : Inv s := by
  refine ⟨fun id f captured hid => Nat.le_of_lt (h.captured_lt id f captured hid), ?_, ?_⟩
  · exact fun id id' f f' hid _ => absurd (h.captured_lt id f _ hid) (Nat.lt_irrefl _)
  · exact fun id f hid => absurd (h.captured_lt id f _ hid) (Nat.lt_irrefl _)

/-- A query that ignores its reply changes nothing. -/
theorem Inv.sendIgnore (h : Inv s) (f : Function) : Inv (s.sendQuery f .ignore) := by
  have hold : ∀ id g captured, Numbered (s.exchange.requests ++ [(f, some Handler.ignore)]) id
      (g, some (.authentication captured)) →
        Numbered s.exchange.requests id (g, some (.authentication captured)) := by
    intro id g captured hid
    rcases numbered_concat.1 hid with hid | ⟨-, heq⟩
    · exact hid
    · simp at heq
  refine Inv.record (s := { s with exchange := s.exchange.send f (some .ignore) }) ⟨?_, ?_, ?_⟩
    (by simp)
  · exact fun id g captured hid => h.captured_le id g captured (hold id g captured hid)
  · exact fun id id' g g' hid hid' => h.unique id id' g g' (hold id g _ hid) (hold id' g' _ hid')
  · exact fun id g hid => h.latest id g (hold id g _ hid)

/-- The authentication query of a run is the only one with its id. -/
theorem Begun.sendAuthentication (h : Begun s) (f : Function) : Inv (s.sendAuthentication f) := by
  have hnew : ∀ id g captured, Numbered (s.exchange.requests ++
      [(f, some (Handler.authentication s.authenticationQueryId))]) id
        (g, some (.authentication captured)) →
      captured < s.authenticationQueryId ∨
        (id = s.exchange.requests.length + 1 ∧ captured = s.authenticationQueryId) := by
    intro id g captured hid
    rcases numbered_concat.1 hid with hid | ⟨hid, heq⟩
    · exact Or.inl (h.captured_lt id g captured hid)
    · simp only [Prod.mk.injEq, Option.some.injEq, Handler.authentication.injEq] at heq
      exact Or.inr ⟨hid, heq.2⟩
  refine ⟨fun id g captured hid => ?_, fun id id' g g' hid hid' => ?_, fun id g hid => ?_⟩
  · rcases hnew id g captured hid with hlt | ⟨-, heq⟩
    · exact Nat.le_of_lt hlt
    · exact Nat.le_of_eq heq
  · rcases hnew id g _ hid with hlt | ⟨hid, -⟩
    · exact absurd hlt (Nat.lt_irrefl _)
    · rcases hnew id' g' _ hid' with hlt | ⟨hid', -⟩
      · exact absurd hlt (Nat.lt_irrefl _)
      · exact hid.trans hid'.symm
  · rcases hnew id g _ hid with hlt | ⟨hid, -⟩
    · exact absurd hlt (Nat.lt_irrefl _)
    · obtain ⟨post, hsince⟩ := h.since
      rw [hid, s.exchange.counted]
      exact ⟨_, hsince.record (by simp), f, _, List.mem_append_right _ (List.mem_singleton.2 rfl)⟩

theorem Inv.finish (h : Inv s) : Inv s.finish :=
  ⟨h.captured_le, h.unique, h.latest⟩

/-- Every state sends one authentication query at most. -/
theorem Begun.handleState (h : Begun s) (state : AuthorizationState) :
    Inv (s.handleState settings typed state) := by
  cases state with
  | ready | loggingOut | closed => exact h.inv.finish.record (by simp)
  | closing | waitOtherDeviceConfirmation => exact (h.printed _).inv
  | waitCode | waitPassword | waitPhoneNumber => exact (h.printed _).sendAuthentication _
  | waitRegistration => exact ((h.printed _).printed _).sendAuthentication _
  | waitEncryptionKey => exact (h.sendAuthentication _).sendIgnore _
  | waitTdlibParameters => exact h.sendAuthentication _

/-- A run begins with an id that nothing captured. -/
theorem Inv.onAuthorizationStateUpdate (h : Inv s) :
    Inv (s.onAuthorizationStateUpdate settings typed) := by
  unfold GenDb.onAuthorizationStateUpdate
  cases s.authorizationState with
  | none => exact h
  | some state =>
    refine Begun.handleState ⟨?_, [], s.log, state, rfl, by simp⟩ state
    exact fun id f captured hid => Nat.lt_succ_of_le (h.captured_le id f captured hid)

theorem Inv.call (h : Inv s) (handler : Handler) : Inv (s.call settings typed object handler) := by
  unfold GenDb.call
  cases handler with
  | authentication id =>
    dsimp only
    split_ifs
    · cases object with
      | error e => exact (h.record (by simp)).onAuthorizationStateUpdate
      | updateAuthorizationState | other => exact h
    · exact h
  | ignore => exact h

theorem Inv.erase (h : Inv s) (id : ℕ) : Inv (s.erase id) := by
  have hrequests : (s.erase id).exchange.requests = s.exchange.requests := Exchange.close_requests
  refine ⟨?_, ?_, ?_⟩
  · rw [hrequests]
    exact h.captured_le
  · rw [hrequests]
    exact h.unique
  · rw [hrequests]
    exact h.latest

/-- One turn. -/
theorem Inv.step {r : Response} (h : Inv s) (hstep : Step settings s r s') : Inv s' := by
  obtain ⟨-, rfl⟩ := hstep
  unfold processResponse
  split
  · exact h
  · rename_i object hobject
    split_ifs
    · cases object with
      | updateAuthorizationState state =>
        exact Inv.onAuthorizationStateUpdate (s := { s with authorizationState := some state })
          ⟨h.captured_le, h.unique, h.latest⟩
      | error | other => exact h
    · split
      · exact h
      · exact (h.call _).erase _

theorem Inv.disciplined (h : Inv s) : Disciplined s := by
  refine ⟨fun id captured hid => ?_, fun id id' hid hid' => ?_⟩
  · obtain ⟨f, hf⟩ := Exchange.exists_request hid
    exact h.captured_le id f captured hf
  · obtain ⟨f, hf⟩ := Exchange.exists_request hid
    obtain ⟨f', hf'⟩ := Exchange.exists_request hid'
    exact h.unique id id' f f' hf hf'

/-- Only the handler that captured the present id looks at the reply. -/
theorem Inv.ignoresStale (h : Inv s) : IgnoresStale settings s := by
  rintro ⟨id, object, typed⟩ s' hid ⟨-, rfl⟩ hlog
  unfold processResponse at hlog ⊢
  cases object with
  | none => exact absurd rfl hlog
  | some object =>
    dsimp only at hid hlog ⊢
    rw [if_neg hid] at hlog ⊢
    cases hhandler : s.exchange.handlers id with
    | none =>
      rw [hhandler] at hlog
      exact absurd rfl hlog
    | some handler =>
      simp only [hhandler] at hlog
      cases handler with
      | ignore => exact absurd rfl hlog
      | authentication captured =>
        by_cases hcaptured : captured = s.authenticationQueryId
        · subst hcaptured
          obtain ⟨f, hf⟩ := Exchange.exists_request hhandler
          have hlatest := h.latest id f hf
          cases object with
          | error e =>
            exact ⟨hlatest, e, rfl, by simp [GenDb.call, checkAuthenticationError, GenDb.erase]⟩
          | updateAuthorizationState | other =>
            simp [GenDb.call, checkAuthenticationError, GenDb.erase] at hlog
        · simp [GenDb.call, hcaptured, GenDb.erase] at hlog

/-- In every state `gen_db` reaches, its handlers captured no later id than the present one, and
replies to queries of earlier runs are ignored. -/
theorem stale_of_run {rs : List Response} (h : Run (Step settings) {} rs s) :
    Disciplined s ∧ IgnoresStale settings s := by
  have hinv : Inv s := h.invariant Inv (fun _ _ _ hs hstep => hs.step hstep)
    ⟨fun _ _ _ hid => absurd hid not_numbered_nil, fun _ _ _ _ hid _ => absurd hid not_numbered_nil,
      fun _ _ hid => absurd hid not_numbered_nil⟩
  exact ⟨hinv.disciplined, hinv.ignoresStale⟩

end runs

/-- The phone number is asked for, and the code, before the reply to the first query comes. -/
def lateReply : List Response := [
  ⟨0, some (.updateAuthorizationState .waitPhoneNumber), ⟨"79000000001", ""⟩⟩,
  ⟨0, some (.updateAuthorizationState .waitCode), ⟨"12345", ""⟩⟩,
  ⟨1, some (.error ⟨400, "PHONE_NUMBER_INVALID"⟩), ⟨"", ""⟩⟩]

/-- The late error is ignored, and the handler of the second query is the one that counts. -/
theorem stale_of_run_lateReply : ∃ s, Run (Step .direct) {} lateReply s ∧
    s.exchange.handlers 2 = some (.authentication 2) ∧ Disciplined s ∧
      IgnoresStale .direct s := by
  have hrun : ∃ s, Run (Step .direct) {} lateReply s ∧
      s.exchange.handlers 2 = some (.authentication 2) :=
    ⟨_, ((Run.one ⟨rfl, rfl⟩).snoc ⟨rfl, rfl⟩).snoc ⟨rfl, rfl⟩, rfl⟩
  obtain ⟨s, hrun, hhandler⟩ := hrun
  exact ⟨s, hrun, hhandler, stale_of_run hrun⟩

end GenDb

end TelegramProvider
