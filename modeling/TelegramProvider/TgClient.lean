import TelegramProvider.Histories
import TelegramProvider.Requests
import TelegramProvider.Runs
import TelegramProvider.Td

/-!
# The Telegram client of the gateway

`tg::Client` sends queries for the thread of the gateway and for handlers, and a thread of its own
receives what TDLib sends : replies, which it hands to the handler of their query, and updates,
which it handles or queues for the gateway. A handler stays in the map while it runs, and may send
queries.

`matched_of_run` : in every interleaving replies and handlers match one to one. `unbroken_iff` : an
update of the authorization state uses up what it needs, a promise and two queries, so it depends on
the states TDLib sends whether each is used once. `authorized_of_run` : the authentication queries
of a run are those of the states alone.
-/

set_option autoImplicit false

namespace TelegramProvider

open Runs Histories Requests Td

namespace TgClient

variable {φ ω : Type}

/-! ## Authorization -/

/-- The queries of the client itself, with what was moved into them, or one it is given. What was
moved away before is `none`. -/
inductive Function (φ : Type)
  | checkDatabaseEncryptionKey
  | proxy (f : Option ProxyFunction)
  | setTdlibParameters (parameters : Option TdlibParameters)
  | other (f : φ)

/-- What is used up : the value of the promise `is_ready_`, and the two objects that are moved. -/
structure Resources where
  isReady : Option Bool
  setProxy : Option ProxyFunction
  libParameters : Option TdlibParameters

/-- What the constructor makes. -/
def Resources.start (settings : Td.Settings) : Resources where
  isReady := none
  setProxy := some settings.proxy
  libParameters := some settings.libParameters

/-- `is_ready_.set_value`, which throws if there is a value. -/
def Resources.setReady (value : Bool) (r : Resources) : Option Resources :=
  match r.isReady with
  | none => some { r with isReady := some value }
  | some _ => none

/-- `on_authorization_state_update` : the queries it sends, or `none` if it throws. -/
def onAuthorizationStateUpdate (state : AuthorizationState) (r : Resources) :
    Option (Resources × List (Function φ)) :=
  match state with
  | .ready => (r.setReady true).map fun r => (r, [])
  | .waitEncryptionKey =>
    some ({ r with setProxy := none }, [.checkDatabaseEncryptionKey, .proxy r.setProxy])
  | .waitTdlibParameters =>
    some ({ r with libParameters := none }, [.setTdlibParameters r.libParameters])
  | _ => (r.setReady false).map fun r => (r, [])

/-- The updates of some states, one after the other : the queries that are sent, and what is left,
or `none` when an exception has ended the process. -/
def authorize (r : Resources) : List AuthorizationState → List (Function φ) × Option Resources
  | [] => ([], some r)
  | state :: states =>
    match onAuthorizationStateUpdate state r with
    | none => ([], none)
    | some (r, fs) =>
      let (gs, r) := authorize r states
      (fs ++ gs, r)

/-- Nothing was moved away from the query before. -/
def Function.Whole : Function φ → Prop
  | .proxy f => f ≠ none
  | .setTdlibParameters parameters => parameters ≠ none
  | _ => True

/-- The promise is set once at most, and every query is whole. -/
def Unbroken (φ : Type) (r : Resources) (states : List AuthorizationState) : Prop :=
  (authorize (φ := φ) r states).2.isSome = true ∧ ∀ f ∈ (authorize (φ := φ) r states).1, f.Whole

/-- The update sets the promise. -/
def setsReady : AuthorizationState → Bool
  | .waitEncryptionKey => false
  | .waitTdlibParameters => false
  | _ => true

/-- How often something that is there can be used. -/
def uses {α : Type} (o : Option α) : ℕ :=
  if o.isSome then 1 else 0

section authorize

variable {r : Resources} {states : List AuthorizationState} {state : AuthorizationState}

theorem onAuthorizationStateUpdate_of_setsReady (h : setsReady state = true) (r : Resources) :
    onAuthorizationStateUpdate (φ := φ) state r =
      (r.setReady (state = .ready)).map fun r => (r, []) := by
  cases state <;> first
    | rfl
    | simp [setsReady] at h

/-- To be used once more, it must be there, and not be used then. -/
theorem succ_le_uses_iff {α : Type} {n : ℕ} {o : Option α} :
    n + 1 ≤ uses o ↔ o ≠ none ∧ n ≤ uses (none : Option α) := by
  cases o <;> simp [uses]

theorem unbroken_cons : Unbroken φ r (state :: states) ↔ ∃ r' fs,
    onAuthorizationStateUpdate (φ := φ) state r = some (r', fs) ∧ (∀ f ∈ fs, f.Whole) ∧
      Unbroken φ r' states := by
  unfold Unbroken
  rw [authorize]
  cases hupdate : onAuthorizationStateUpdate (φ := φ) state r with
  | none => simp
  | some p =>
    obtain ⟨r', fs⟩ := p
    simp only [List.mem_append, or_imp, forall_and]
    constructor
    · rintro ⟨hsome, hfs, hgs⟩
      exact ⟨r', fs, rfl, hfs, hsome, hgs⟩
    · rintro ⟨r'', gs, heq, hfs, hsome, hgs⟩
      obtain ⟨rfl, rfl⟩ := Prod.mk.inj (Option.some.inj heq)
      exact ⟨hsome, hfs, hgs⟩

/-- The promise can be set while it has no value, and each object is moved while it is there. -/
theorem unbroken_iff_uses (r : Resources) (states : List AuthorizationState) : Unbroken φ r states ↔
    states.countP setsReady ≤ 1 - uses r.isReady ∧
      states.count .waitEncryptionKey ≤ uses r.setProxy ∧
      states.count .waitTdlibParameters ≤ uses r.libParameters := by
  induction states generalizing r with
  | nil => simp [Unbroken, authorize]
  | cons state states ih =>
    rw [unbroken_cons]
    by_cases hready : setsReady state = true
    · have hkey : state ≠ .waitEncryptionKey := by rintro rfl; simp [setsReady] at hready
      have hparameters : state ≠ .waitTdlibParameters := by rintro rfl; simp [setsReady] at hready
      rw [onAuthorizationStateUpdate_of_setsReady hready, List.countP_cons_of_pos hready,
        List.count_cons_of_ne hkey, List.count_cons_of_ne hparameters]
      cases hvalue : r.isReady with
      | none =>
        simp [Resources.setReady, hvalue, ih, uses]
      | some value =>
        simp [Resources.setReady, hvalue, uses]
    · rw [List.countP_cons_of_neg hready]
      cases state with
      | waitEncryptionKey =>
        rw [List.count_cons_self, List.count_cons_of_ne (by simp), succ_le_uses_iff]
        simp [onAuthorizationStateUpdate, ih, Function.Whole]
        tauto
      | waitTdlibParameters =>
        rw [List.count_cons_self, List.count_cons_of_ne (by simp), succ_le_uses_iff]
        simp [onAuthorizationStateUpdate, ih, Function.Whole]
        tauto
      | _ => simp [setsReady] at hready

theorem authorize_concat {r' r'' : Resources} {fs gs : List (Function φ)}
    (h : authorize r states = (fs, some r'))
    (hupdate : onAuthorizationStateUpdate state r' = some (r'', gs)) :
    authorize r (states ++ [state]) = (fs ++ gs, some r'') := by
  induction states generalizing r fs with
  | nil =>
    obtain ⟨rfl, heq⟩ := Prod.mk.inj h
    obtain rfl := Option.some.inj heq
    simp [authorize, hupdate]
  | cons state' states ih =>
    rw [List.cons_append]
    rw [authorize] at h ⊢
    cases hfirst : onAuthorizationStateUpdate (φ := φ) state' r with
    | none => simp [hfirst] at h
    | some p =>
      obtain ⟨r₁, fs₁⟩ := p
      obtain ⟨rfl, heq⟩ := Prod.mk.inj (hfirst ▸ h)
      simp [ih (Prod.ext rfl heq)]

/-- The updates of a fresh client break nothing just when at most one of them sets the promise, and
each of the two that move an object comes at most once. -/
theorem unbroken_iff (φ : Type) (settings : Td.Settings) (states : List AuthorizationState) :
    Unbroken φ (.start settings) states ↔ states.countP setsReady ≤ 1 ∧
      states.count .waitEncryptionKey ≤ 1 ∧ states.count .waitTdlibParameters ≤ 1 :=
  unbroken_iff_uses _ states

end authorize

/-- The session of an account that was ready is revoked. -/
theorem not_unbroken_loggingOut : ¬Unbroken String (.start .direct) [.ready, .loggingOut] := by
  rintro ⟨hsome, -⟩
  exact absurd hsome (by decide)

/-! ## The client and its threads -/

/-- A handler : of an authentication query, the one of `send_query_async` that sets its promise, or
one that is given to `send_query`. -/
inductive Handler
  | authentication
  | promise
  | given
  deriving DecidableEq, Repr

/-- What TDLib sends. -/
inductive Object (ω : Type)
  | updateAuthorizationState (state : AuthorizationState)
  | updateConnectionState (ready : Bool)
  | update (u : Update)
  | error (e : Error)
  | other (o : ω)

/-- What is on record : a query that is sent, a reply or an update that is received, a handler that
is called with a reply, and a promise that is set. -/
inductive Obs (φ ω : Type)
  | sent (id : ℕ) (f : Function φ) (handler : Option Handler)
  | answered (id : ℕ) (object : Object ω)
  | updated (object : Object ω)
  | invoked (id : ℕ) (handler : Handler) (object : Object ω)
  | set (id : ℕ) (object : Object ω)

/-- Where the thread of the client is : in `receive`, in a handler, or in an update with queries to
send. -/
inductive Thread (φ : Type)
  | idle
  | handling (id : ℕ) (handler : Handler)
  | updating (todo : List (Function φ))

end TgClient

/-- `tg::Client`, with the events it queues for the gateway. An exception that is not caught ends
the process. -/
structure TgClient (φ ω : Type) where
  exchange : Exchange (TgClient.Function φ) TgClient.Handler := .empty
  resources : TgClient.Resources
  thread : TgClient.Thread φ := .idle
  events : List Update := []
  terminated : Bool := false
  log : List (TgClient.Obs φ ω) := []

namespace TgClient

variable {φ ω : Type}

/-- The client when it is made. -/
def start (settings : Td.Settings) : TgClient φ ω where
  resources := .start settings

/-- Record `o`. -/
def record (o : Obs φ ω) (s : TgClient φ ω) : TgClient φ ω :=
  { s with log := s.log ++ [o] }

/-- `send_query`. The map has the handler before TDLib has the query. -/
def sendQuery (f : Function φ) (handler : Option Handler) (s : TgClient φ ω) : TgClient φ ω :=
  record (.sent (s.exchange.currentId + 1) f handler)
    { s with exchange := s.exchange.send f handler }

/-- `process_update`. -/
def processUpdate (object : Object ω) (s : TgClient φ ω) : TgClient φ ω :=
  match object with
  | .updateAuthorizationState state =>
    match onAuthorizationStateUpdate state s.resources with
    | none => { s with terminated := true }
    | some (resources, todo) => { s with resources, thread := .updating todo }
  | .update u => { s with events := s.events ++ [u] }
  | _ => s

/-- A handler is called. That of `send_query_async` sets its promise. -/
def call (id : ℕ) (handler : Handler) (object : Object ω) (s : TgClient φ ω) : TgClient φ ω :=
  let s := record (.invoked id handler object) { s with thread := .handling id handler }
  match handler with
  | .promise => s.record (.set id object)
  | _ => s

/-- `process_response`, up to the call of the handler. -/
def processResponse (id : ℕ) (object : Object ω) (s : TgClient φ ω) : TgClient φ ω :=
  if id = 0 then
    (s.record (.updated object)).processUpdate object
  else
    match s.exchange.handlers id with
    | none => s.record (.answered id object)
    | some handler => (s.record (.answered id object)).call id handler object

/-- The handler has returned, and is erased. -/
def finish (id : ℕ) (s : TgClient φ ω) : TgClient φ ω :=
  { s with exchange := s.exchange.close id, thread := .idle }

/-- There is a reply. -/
def Answered (log : List (Obs φ ω)) (id : ℕ) : Prop :=
  ∃ object, .answered id object ∈ log

/-- TDLib may answer a query that was sent and has no answer. -/
def Answerable (id : ℕ) (s : TgClient φ ω) : Prop :=
  (∃ f handler, .sent id f handler ∈ s.log) ∧ ¬Answered s.log id

/-- The thread is in a handler that was given to it, which may send queries. -/
def InHandler (s : TgClient φ ω) : Prop :=
  ∃ id, s.thread = .handling id .given

/-- The steps : `send_query` or `send_query_async` from the thread of the gateway or from a handler,
`receive`, the next query of an update, and the return from a handler or an update. -/
inductive Label (φ ω : Type)
  | send (inHandler : Bool) (f : φ) (withHandler : Bool)
  | sendAsync (inHandler : Bool) (f : φ)
  | timeout
  | receive (id : ℕ) (object : Object ω)
  | sendNext
  | finish

/-- One step, while the process runs. -/
inductive Step : TgClient φ ω → Label φ ω → TgClient φ ω → Prop
  | send (s : TgClient φ ω) (inHandler : Bool) (f : φ) (withHandler : Bool)
      (halive : s.terminated = false) (hthread : inHandler = true → s.InHandler) :
      Step s (.send inHandler f withHandler)
        (s.sendQuery (.other f) (if withHandler then some .given else none))
  | sendAsync (s : TgClient φ ω) (f : φ) (halive : s.terminated = false) :
      Step s (.sendAsync false f) (s.sendQuery (.other f) (some .promise))
  -- `throw` without an exception, instead of a wait for a reply that can not come
  | sendAsyncInHandler (s : TgClient φ ω) (f : φ) (halive : s.terminated = false)
      (hthread : s.InHandler) : Step s (.sendAsync true f) { s with terminated := true }
  | timeout (s : TgClient φ ω) (halive : s.terminated = false) (hidle : s.thread = .idle) :
      Step s .timeout s
  | receive (s : TgClient φ ω) (id : ℕ) (object : Object ω) (halive : s.terminated = false)
      (hidle : s.thread = .idle) (hid : id = 0 ∨ s.Answerable id) :
      Step s (.receive id object) (s.processResponse id object)
  | sendNext (s : TgClient φ ω) (f : Function φ) (todo : List (Function φ))
      (halive : s.terminated = false) (hthread : s.thread = .updating (f :: todo)) :
      Step s .sendNext (sendQuery f (some .authentication) { s with thread := .updating todo })
  | updated (s : TgClient φ ω) (halive : s.terminated = false) (hthread : s.thread = .updating []) :
      Step s .finish { s with thread := .idle }
  | finish (s : TgClient φ ω) (id : ℕ) (handler : Handler) (halive : s.terminated = false)
      (hthread : s.thread = .handling id handler) : Step s .finish (s.finish id)

/-! ## One to one -/

/-- A handler is called with the reply to its query that has just come, once, and so is the promise
of a query set. -/
def OneToOne (pre : List (Obs φ ω)) : Obs φ ω → Prop
  | .invoked id handler object => (∃ f, .sent id f (some handler) ∈ pre) ∧
      (∃ before, pre = before ++ [.answered id object]) ∧
      ∀ handler' object', .invoked id handler' object' ∉ pre
  | .set id object => (∃ f, .sent id f (some .promise) ∈ pre) ∧
      (∃ before, pre = before ++ [.invoked id .promise object]) ∧ ∀ object', .set id object' ∉ pre
  | _ => True

/-- No reply was processed : there is none, or its handler has not returned. -/
def Unprocessed (s : TgClient φ ω) (id : ℕ) : Prop :=
  ¬Answered s.log id ∨ ∃ handler, s.thread = .handling id handler

/-- The handlers are those of the queries that were sent with one, and whose reply was not
processed. -/
def Exact (s : TgClient φ ω) : Prop :=
  ∀ id handler, s.exchange.handlers id = some handler ↔
    (∃ f, .sent id f (some handler) ∈ s.log) ∧ s.Unprocessed id

/-- What every run keeps : the requests are those on record, and the numbers closed are those whose
reply was processed. -/
structure Inv (s : TgClient φ ω) : Prop where
  justified : Justified OneToOne s.log
  sent_iff : ∀ id f handler,
    .sent id f handler ∈ s.log ↔ Numbered s.exchange.requests id (f, handler)
  sent_of_answered : ∀ id, Answered s.log id → ∃ f handler, .sent id f handler ∈ s.log
  answered_of_closed : ∀ id ∈ s.exchange.closed, Answered s.log id
  closed_of_answered : ∀ id f handler, Answered s.log id → .sent id f (some handler) ∈ s.log →
    id ∈ s.exchange.closed ∨ s.thread = .handling id handler
  handling : ∀ id handler, s.thread = .handling id handler →
    Answered s.log id ∧ s.exchange.handlers id = some handler

section runs

variable {settings : Td.Settings} {s s' : TgClient φ ω} {o : Obs φ ω} {f : Function φ}
  {handler : Handler} {object : Object ω} {id : ℕ} {log : List (Obs φ ω)}

theorem answered_concat :
    Answered (log ++ [o]) id ↔ Answered log id ∨ ∃ object, .answered id object = o := by
  simp [Answered, exists_or]

theorem Inv.start : Inv (start settings : TgClient φ ω) where
  justified := justified_nil
  sent_iff id f handler := ⟨fun h => absurd h List.not_mem_nil, fun h => absurd h not_numbered_nil⟩
  sent_of_answered id h := by simp [Answered, TgClient.start] at h
  answered_of_closed id h := absurd h List.not_mem_nil
  closed_of_answered id f handler h := by simp [Answered, TgClient.start] at h
  handling id handler h := by simp [TgClient.start] at h

/-- Of the record it counts which queries were sent and which have a reply, and of the thread which
handler it runs. -/
theorem Inv.of_log (h : Inv s) (hexchange : s'.exchange = s.exchange)
    (hthread : ∀ id handler, s'.thread = .handling id handler ↔ s.thread = .handling id handler)
    (hjustified : Justified OneToOne s'.log)
    (hsent : ∀ id f handler, .sent id f handler ∈ s'.log ↔ .sent id f handler ∈ s.log)
    (hanswered : ∀ id, Answered s'.log id ↔ Answered s.log id) : Inv s' := by
  refine ⟨hjustified, ?_, ?_, ?_, ?_, ?_⟩ <;> simp only [hexchange, hthread, hsent, hanswered]
  · exact h.sent_iff
  · exact h.sent_of_answered
  · exact h.answered_of_closed
  · exact h.closed_of_answered
  · exact h.handling

theorem Inv.congr (h : Inv s) (hexchange : s'.exchange = s.exchange) (hlog : s'.log = s.log)
    (hthread : ∀ id handler, s'.thread = .handling id handler ↔ s.thread = .handling id handler) :
    Inv s' :=
  h.of_log hexchange hthread (hlog ▸ h.justified) (fun _ _ _ => by rw [hlog])
    fun _ => by rw [hlog]

/-- A handler is there for a query on record, and was not closed. -/
theorem Inv.handlers_iff (h : Inv s) : s.exchange.handlers id = some handler ↔
    id ∉ s.exchange.closed ∧ ∃ f, .sent id f (some handler) ∈ s.log := by
  rw [s.exchange.matched id handler]
  simp only [h.sent_iff]

theorem Inv.le_of_sent (h : Inv s) {handler : Option Handler} (hsent : .sent id f handler ∈ s.log) :
    id ≤ s.exchange.currentId :=
  s.exchange.counted ▸ ((h.sent_iff id f handler).1 hsent).le

/-- A new query has a new number. -/
theorem Inv.sendQuery (h : Inv s) (f : Function φ) (handler : Option Handler) :
    Inv (s.sendQuery f handler) := by
  have hanswered : ∀ {id}, Answered (s.sendQuery f handler).log id → Answered s.log id := by
    intro id hid
    rcases answered_concat.1 hid with hid | ⟨object, heq⟩
    · exact hid
    · simp at heq
  have hnew : ∀ {id}, Answered s.log id → id ≠ s.exchange.currentId + 1 := by
    intro id hid
    obtain ⟨g, handler', hsent⟩ := h.sent_of_answered id hid
    exact Nat.ne_of_lt (Nat.lt_succ_of_le (h.le_of_sent hsent))
  have hsent : ∀ {id g handler'}, .sent id g handler' ∈ (s.sendQuery f handler).log ↔
      .sent id g handler' ∈ s.log ∨
        id = s.exchange.currentId + 1 ∧ (g, handler') = (f, handler) := by
    simp [TgClient.sendQuery, record]
  refine ⟨?_, ?_, ?_, ?_, ?_, ?_⟩
  · exact justified_snoc.2 ⟨h.justified, trivial⟩
  · intro id g handler'
    rw [hsent, h.sent_iff, ← s.exchange.counted]
    exact numbered_concat.symm
  · intro id hid
    obtain ⟨g, handler', hg⟩ := h.sent_of_answered id (hanswered hid)
    exact ⟨g, handler', hsent.2 (Or.inl hg)⟩
  · exact fun id hid => answered_concat.2 (Or.inl (h.answered_of_closed id hid))
  · intro id g handler' hid hg
    rcases hsent.1 hg with hg | ⟨heq, -⟩
    · exact h.closed_of_answered id g handler' (hanswered hid) hg
    · exact absurd heq (hnew (hanswered hid))
  · intro id handler' hthread
    obtain ⟨hid, hhandler⟩ := h.handling id handler' hthread
    refine ⟨answered_concat.2 (Or.inl hid), ((s.sendQuery f handler).exchange.matched _ _).2 ?_⟩
    obtain ⟨hopen, g, hg⟩ := (s.exchange.matched id handler').1 hhandler
    exact ⟨hopen, g, numbered_concat.2 (Or.inl hg)⟩

/-- An entry that is neither a query nor a reply may be recorded if it may follow. -/
theorem Inv.record (h : Inv s) (ho : OneToOne s.log o)
    (hsent : ∀ id f handler, .sent id f handler ≠ o)
    (hanswered : ∀ id object, .answered id object ≠ o) : Inv (s.record o) := by
  refine h.of_log rfl (fun _ _ => Iff.rfl) (justified_snoc.2 ⟨h.justified, ho⟩) ?_ ?_
  · simp [TgClient.record, hsent]
  · simp [TgClient.record, answered_concat, hanswered]

/-- A reply that may come comes to a thread that waits for one. Its handler, if any, runs. -/
theorem Inv.answer {thread : Thread φ} (h : Inv s) (hidle : s.thread = .idle)
    (hid : s.Answerable id) (object : Object ω)
    (hthread : ∀ id' handler, thread = .handling id' handler ↔
      id' = id ∧ s.exchange.handlers id = some handler) :
    Inv { s.record (.answered id object) with thread } := by
  have hlog : ∀ {id' f handler}, .sent id' f handler ∈ (s.record (.answered id object)).log ↔
      .sent id' f handler ∈ s.log := by
    simp [TgClient.record]
  have hlog' : ∀ {id'}, Answered (s.record (.answered id object)).log id' ↔
      Answered s.log id' ∨ id' = id := by
    simp [TgClient.record, answered_concat]
  refine ⟨justified_snoc.2 ⟨h.justified, trivial⟩, ?_, ?_, ?_, ?_, ?_⟩ <;> simp only [hlog, hlog']
  · exact h.sent_iff
  · rintro id' (hid' | rfl)
    · exact h.sent_of_answered id' hid'
    · exact hid.1
  · exact fun id' hclosed => Or.inl (h.answered_of_closed id' hclosed)
  · rintro id' f handler (hid' | rfl) hsent
    · rcases h.closed_of_answered id' f handler hid' hsent with hclosed | hhandling
      · exact Or.inl hclosed
      · simp [hidle] at hhandling
    · have hopen : id' ∉ s.exchange.closed :=
        fun hclosed => hid.2 (h.answered_of_closed id' hclosed)
      exact Or.inr ((hthread id' handler).2 ⟨rfl, h.handlers_iff.2 ⟨hopen, f, hsent⟩⟩)
  · intro id' handler heq
    obtain ⟨rfl, hhandler⟩ := (hthread id' handler).1 heq
    exact ⟨Or.inr rfl, hhandler⟩

/-- A call has its reply. -/
theorem answered_of_invoked (h : Justified OneToOne log) (hmem : .invoked id handler object ∈ log) :
    Answered log id := by
  obtain ⟨pre, post, rfl⟩ := List.append_of_mem hmem
  obtain ⟨-, ⟨before, rfl⟩, -⟩ := h _ _ _ rfl
  exact ⟨object, by simp⟩

/-- A promise is set in a call. -/
theorem answered_of_set (h : Justified OneToOne log) (hmem : .set id object ∈ log) :
    Answered log id := by
  obtain ⟨pre, post, rfl⟩ := List.append_of_mem hmem
  obtain ⟨-, ⟨before, rfl⟩, -⟩ := h _ _ _ rfl
  have hmem : .invoked id .promise object ∈ before ++ [.invoked id .promise object] ++
      .set id object :: post := by simp
  exact answered_of_invoked h hmem

/-- The handler is called for the first time, and a promise is set for the first time. -/
theorem Inv.call (h : Inv s) (hidle : s.thread = .idle) (hid : s.Answerable id)
    (hhandler : s.exchange.handlers id = some handler) (object : Object ω) :
    Inv ((s.record (.answered id object)).call id handler object) := by
  obtain ⟨-, f, hsent⟩ := h.handlers_iff.1 hhandler
  have hthread : ∀ id' handler', (.handling id handler : Thread φ) = .handling id' handler' ↔
      id' = id ∧ s.exchange.handlers id = some handler' := by
    intro id' handler'
    simp only [Thread.handling.injEq, hhandler, Option.some.injEq]
    tauto
  have hinvoked := (h.answer hidle hid object hthread).record (o := .invoked id handler object)
    ⟨⟨f, List.mem_append_left _ hsent⟩, ⟨s.log, rfl⟩, fun handler' object' hmem =>
      hid.2 (answered_of_invoked h.justified (by simpa [TgClient.record] using hmem))⟩
    (by simp) (by simp)
  unfold TgClient.call
  cases handler with
  | promise =>
    refine hinvoked.record ⟨⟨f, ?_⟩, ⟨_, rfl⟩, fun object' hmem => ?_⟩ (by simp) (by simp)
    · exact List.mem_append_left _ (List.mem_append_left _ hsent)
    · exact hid.2 (answered_of_set h.justified (by simpa [TgClient.record] using hmem))
  | authentication | given => exact hinvoked

/-- An update is no reply. -/
theorem Inv.processUpdate (h : Inv s) (hidle : s.thread = .idle) (object : Object ω) :
    Inv (s.processUpdate object) := by
  unfold TgClient.processUpdate
  cases object with
  | updateAuthorizationState state =>
    dsimp only
    split
    · exact h.congr rfl rfl fun _ _ => Iff.rfl
    · exact h.congr rfl rfl fun _ _ => by simp [hidle]
  | update u => exact h.congr rfl rfl fun _ _ => Iff.rfl
  | updateConnectionState | error | other => exact h

theorem Inv.processResponse (h : Inv s) (hidle : s.thread = .idle) (hid : id = 0 ∨ s.Answerable id)
    (object : Object ω) : Inv (s.processResponse id object) := by
  unfold TgClient.processResponse
  split_ifs with hzero
  · exact (h.record (o := .updated object) trivial (by simp) (by simp)).processUpdate hidle object
  · have hid' := hid.resolve_left hzero
    split
    · rename_i hhandler
      exact h.answer hidle hid' object fun _ _ => by simp [hidle, hhandler]
    · rename_i handler hhandler
      exact h.call hidle hid' hhandler object

/-- The handler that ran is erased, and its number is closed. -/
theorem Inv.finish (h : Inv s) (hthread : s.thread = .handling id handler) : Inv (s.finish id) := by
  obtain ⟨hanswered, hhandler⟩ := h.handling id handler hthread
  obtain ⟨-, f, hsent⟩ := h.handlers_iff.1 hhandler
  have hclosed : (s.exchange.close id).closed = s.exchange.closed ++ [id] :=
    Exchange.close_closed (h.le_of_sent hsent)
  refine ⟨h.justified, ?_, h.sent_of_answered, ?_, ?_, ?_⟩
  · intro id' g handler'
    rw [TgClient.finish, Exchange.close_requests]
    exact h.sent_iff id' g handler'
  · intro id' hid'
    rcases List.mem_append.1 (hclosed ▸ hid') with hid' | hid'
    · exact h.answered_of_closed id' hid'
    · exact List.mem_singleton.1 hid' ▸ hanswered
  · intro id' g handler' hid' hg
    refine Or.inl (hclosed ▸ List.mem_append.2 ?_)
    rcases h.closed_of_answered id' g handler' hid' hg with hid' | hid'
    · exact Or.inl hid'
    · obtain ⟨rfl, -⟩ := Thread.handling.inj (hthread.symm.trans hid')
      exact Or.inr (List.mem_singleton.2 rfl)
  · intro id' handler' hidle
    simp [TgClient.finish] at hidle

/-- One step. -/
theorem Inv.step {l : Label φ ω} (h : Inv s) (hstep : Step s l s') : Inv s' := by
  cases hstep with
  | send | sendAsync => exact h.sendQuery _ _
  | sendAsyncInHandler => exact h.congr rfl rfl fun _ _ => Iff.rfl
  | timeout => exact h
  | receive id object halive hidle hid => exact h.processResponse hidle hid object
  | sendNext f todo halive hthread =>
    have hnext : Inv { s with thread := .updating todo } :=
      h.congr rfl rfl fun _ _ => by simp [hthread]
    exact hnext.sendQuery f _
  | updated halive hthread => exact h.congr rfl rfl fun _ _ => by simp [hthread]
  | finish id handler halive hthread => exact h.finish hthread

theorem Inv.exact (h : Inv s) : Exact s := by
  intro id handler
  rw [h.handlers_iff, and_comm]
  refine and_congr_right fun hsent => ?_
  obtain ⟨f, hsent⟩ := hsent
  constructor
  · intro hopen
    by_cases hid : Answered s.log id
    · exact Or.inr ⟨handler, (h.closed_of_answered id f handler hid hsent).resolve_left hopen⟩
    · exact Or.inl hid
  · rintro (hid | ⟨handler', hthread⟩) hclosed
    · exact hid (h.answered_of_closed id hclosed)
    · exact (h.handlers_iff.1 (h.handling id handler' hthread).2).1 hclosed

/-- In every run, whatever order replies come in, and whichever handlers send queries, a handler is
called once at most, with the reply to its own query, and so is the promise of a query set, and the
handlers are those of the queries whose reply was not processed. -/
theorem matched_of_run {ls : List (Label φ ω)} (h : Run Step (start settings) ls s) :
    Justified OneToOne s.log ∧ Exact s := by
  have hinv : Inv s := h.invariant Inv (fun _ _ _ hs hstep => hs.step hstep) Inv.start
  exact ⟨hinv.justified, hinv.exact⟩

end runs

/-- The reply to the second query comes first, and its handler sends a third. -/
def outOfOrder : List (Label String String) := [
  .sendAsync false "searchContacts", .send false "createCall" true,
  .receive 2 (.other "callId"), .send true "sendCallSignalingData" true, .finish,
  .receive 1 (.other "users")]

/-- The promise of the first query is set with the reply to it, and the handler of the third is
left. -/
theorem matched_of_run_outOfOrder : ∃ s, Run Step (start .direct) outOfOrder s ∧
    s.log.getLast? = some (.set 1 (.other "users")) ∧ s.exchange.handlers 3 = some .given ∧
      Justified OneToOne s.log ∧ Exact s := by
  have hsent : Run Step (start .direct : TgClient String String) _ _ :=
    (Run.one (.sendAsync _ "searchContacts" rfl)).snoc (.send _ false "createCall" true rfl nofun)
  have hcalled := hsent.snoc (.receive _ 2 (.other "callId") rfl rfl (Or.inr
    ⟨⟨.other "createCall", some .given, .tail _ (.head _)⟩,
      by simp [Answered, sendQuery, record, start]⟩))
  have hfinished :=
    (hcalled.snoc (.send _ true "sendCallSignalingData" true rfl fun _ => ⟨2, rfl⟩)).snoc
    (.finish _ 2 .given rfl rfl)
  have hrun := hfinished.snoc (.receive _ 1 (.other "users") rfl rfl (Or.inr
    ⟨⟨.other "searchContacts", some .promise, .head _⟩, by
      rintro ⟨object, hmem⟩
      have hmem' : Obs.answered 1 object ∈ [Obs.sent 1 (.other "searchContacts") (some .promise),
        .sent 2 (.other "createCall") (some .given), .answered 2 (.other "callId"),
        .invoked 2 .given (.other "callId"),
        .sent 3 (.other "sendCallSignalingData") (some .given)] := hmem
      simp at hmem'⟩))
  exact ⟨_, hrun, rfl, rfl, matched_of_run hrun⟩

/-! ## Authorization in a run -/

/-- The authorization states that were delivered. -/
def delivered (log : List (Obs φ ω)) : List AuthorizationState :=
  log.filterMap fun
    | .updated (.updateAuthorizationState state) => some state
    | _ => none

/-- The authentication queries that were sent. -/
def authenticationQueries (log : List (Obs φ ω)) : List (Function φ) :=
  log.filterMap fun
    | .sent _ f (some .authentication) => some f
    | _ => none

/-- The queries the present update has still to send. -/
def Thread.todo : Thread φ → List (Function φ)
  | .updating todo => todo
  | _ => []

/-- The client has done what `authorize` does with the states that were delivered. -/
def Authorized (settings : Td.Settings) (s : TgClient φ ω) : Prop :=
  s.terminated = false → authorize (.start settings) (delivered s.log) =
    (authenticationQueries s.log ++ s.thread.todo, some s.resources)

section authorized

variable {settings : Td.Settings} {s s' : TgClient φ ω} {o : Obs φ ω} {id : ℕ} {object : Object ω}

theorem Authorized.congr (h : Authorized settings s) (hlog : delivered s'.log = delivered s.log)
    (hqueries : authenticationQueries s'.log ++ s'.thread.todo =
      authenticationQueries s.log ++ s.thread.todo)
    (hresources : s'.resources = s.resources) (halive : s.terminated = false) :
    Authorized settings s' := by
  intro _
  rw [hlog, hqueries, hresources]
  exact h halive

/-- An update sends the queries of its state, if it does not throw. -/
theorem Authorized.processUpdate (h : Authorized settings s) (halive : s.terminated = false)
    (hidle : s.thread = .idle) (object : Object ω) :
    Authorized settings ((s.record (.updated object)).processUpdate object) := by
  unfold TgClient.processUpdate
  cases object with
  | updateAuthorizationState state =>
    dsimp only
    split
    · exact fun halive' => by simp at halive'
    · rename_i resources todo hupdate
      intro _
      have hauthorize := h halive
      rw [hidle] at hauthorize
      have hconcat := authorize_concat hauthorize hupdate
      simpa [delivered, authenticationQueries, TgClient.record, Thread.todo] using hconcat
  | updateConnectionState | update | error | other =>
    exact h.congr (by simp [delivered, TgClient.record])
      (by simp [authenticationQueries, TgClient.record]) rfl halive

theorem Authorized.call (h : Authorized settings s) (halive : s.terminated = false)
    (hidle : s.thread = .idle) (handler : Handler) :
    Authorized settings ((s.record (.answered id object)).call id handler object) := by
  cases handler <;>
    exact h.congr (by simp [delivered, TgClient.call, TgClient.record])
      (by simp [authenticationQueries, TgClient.call, TgClient.record, Thread.todo, hidle])
      rfl halive

theorem Authorized.processResponse (h : Authorized settings s) (halive : s.terminated = false)
    (hidle : s.thread = .idle) (id : ℕ) (object : Object ω) :
    Authorized settings (s.processResponse id object) := by
  unfold TgClient.processResponse
  split_ifs
  · exact h.processUpdate halive hidle object
  · split
    · exact h.congr (by simp [delivered, TgClient.record])
        (by simp [authenticationQueries, TgClient.record]) rfl halive
    · exact h.call halive hidle _

theorem Authorized.step {l : Label φ ω} (h : Authorized settings s) (hstep : Step s l s') :
    Authorized settings s' := by
  cases hstep with
  | send inHandler f withHandler halive hthread =>
    cases withHandler <;>
      exact h.congr (by simp [delivered, sendQuery, TgClient.record])
        (by simp [authenticationQueries, sendQuery, TgClient.record]) rfl halive
  | sendAsync f halive =>
    exact h.congr (by simp [delivered, sendQuery, TgClient.record])
      (by simp [authenticationQueries, sendQuery, TgClient.record]) rfl halive
  | sendAsyncInHandler => exact fun halive' => by simp at halive'
  | timeout => exact h
  | receive id object halive hidle hid => exact h.processResponse halive hidle id object
  | sendNext f todo halive hthread =>
    exact h.congr (by simp [delivered, sendQuery, TgClient.record])
      (by simp [authenticationQueries, sendQuery, TgClient.record, Thread.todo, hthread]) rfl halive
  | updated halive hthread =>
    exact h.congr rfl (by simp [Thread.todo, hthread]) rfl halive
  | finish id handler halive hthread =>
    exact h.congr rfl (by simp [TgClient.finish, Thread.todo, hthread]) rfl halive

/-- Whatever else is sent and received, the authentication queries of a run are those of the states
that were delivered. -/
theorem authorized_of_run {ls : List (Label φ ω)} (h : Run Step (start settings) ls s) :
    Authorized settings s :=
  h.invariant (Authorized settings) (fun _ _ _ hs hstep => hs.step hstep) fun _ => rfl

end authorized

end TgClient

end TelegramProvider
