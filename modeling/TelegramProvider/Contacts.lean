import TelegramProvider.Gateway

/-!
# The contact cache

Before its first tick the gateway fills the cache that `DialTg` looks callees up in : TDLib is
asked for all contacts, then for the user of each, and the replies are read in order
(`Gateway::load_cache`). The first contact with a username or a phone number is the one that is
kept.

The loop ends at a contact the account may not see, where it skips a contact TDLib has no user
for. `complete_loadCache_iff` : the cache is that of all contacts that can be seen just when no
contact behind one that can not has a name of its own.
-/

set_option autoImplicit false

namespace TelegramProvider

/-! ## The loop -/

/-- `td_api::user`, with the fields that are read of a contact. -/
structure Contact extends Td.User where
  id : ℤ
  haveAccess : Bool
  deriving DecidableEq, Repr

/-- What TDLib answers a `getUser`. -/
abbrev UserReply := Except Td.Error Contact

/-- The answers of TDLib : the ids of the contacts, and the reply to the `getUser` at a position,
for an id. -/
structure ContactReplies where
  searchContacts : Except Td.Error (List ℤ)
  getUser : ℕ → ℤ → UserReply

/-- The queries `load_cache` sends. -/
inductive ContactQuery
  | searchContacts (query : String) (limit : ℤ)
  | getUser (userId : ℤ)
  deriving DecidableEq, Repr

/-- Keep an id under a name, if it is not empty and not known. -/
def emplaceName (cache : String → Option ℤ) (name : String) (id : ℤ) : String → Option ℤ :=
  if name = "" then cache else Keyed.emplace cache name id

/-- Keep what a contact is known by. -/
def Cache.store (cache : Cache) (user : Contact) : Cache where
  usernameCache := emplaceName cache.usernameCache user.username user.id
  phoneCache := emplaceName cache.phoneCache user.phoneNumber user.id

/-- The loop over the replies. -/
def Cache.fill (cache : Cache) : List UserReply → Cache
  | [] => cache
  | .error _ :: replies => cache.fill replies
  | .ok user :: replies =>
    -- not `continue` but `return`
    if user.haveAccess = false then cache else (cache.store user).fill replies

/-- The replies to the `getUser` queries, in order. -/
def ContactReplies.users (r : ContactReplies) (ids : List ℤ) : List UserReply :=
  ids.mapIdx r.getUser

/-- `Gateway::load_cache` : the queries that are sent, and the cache. -/
def loadCache (r : ContactReplies) (cache : Cache) : List ContactQuery × Cache :=
  let search := .searchContacts "" (2 ^ 31 - 1)
  match r.searchContacts with
  | .error _ => ([search], cache)
  | .ok ids => (search :: ids.map .getUser, cache.fill (r.users ids))

/-! ## The contacts that can be seen -/

/-- The users among the replies that the account has access to. -/
def accessible (replies : List UserReply) : List Contact :=
  replies.filterMap fun
    | .ok user => if user.haveAccess then some user else none
    | .error _ => none

/-- The id of the first user with a name. The empty name is none. -/
def firstId (key : Contact → String) (name : String) (users : List Contact) : Option ℤ :=
  if name = "" then none else (users.find? (key · = name)).map (·.id)

/-- The cache has the contacts that can be seen, each name for the first that has it, and nothing
else : no other reply matters. -/
structure Cache.Complete (cache : Cache) (replies : List UserReply) : Prop where
  usernames : ∀ name, cache.usernameCache name = firstId (·.username) name (accessible replies)
  phones : ∀ name, cache.phoneCache name = firstId (·.phoneNumber) name (accessible replies)

/-- Behind a user that can not be seen, the users that can be have no name but those before it. -/
def NothingNew (key : Contact → String) (replies : List UserReply) : Prop :=
  ∀ pre user post, replies = pre ++ .ok user :: post → user.haveAccess = false →
    ∀ u ∈ accessible post, key u ≠ "" → ∃ v ∈ accessible pre, key v = key u

section firstId

variable {key : Contact → String} {name : String} {users others : List Contact} {u : Contact}

theorem accessible_append (replies replies' : List UserReply) :
    accessible (replies ++ replies') = accessible replies ++ accessible replies' :=
  List.filterMap_append

theorem firstId_append : firstId key name (users ++ others) =
    (firstId key name users).or (firstId key name others) := by
  unfold firstId
  split_ifs with hname
  · rfl
  · rw [List.find?_append]
    cases users.find? (key · = name) <;> rfl

/-- A name is known of some users if one of them has it. -/
theorem firstId_eq_none_iff : firstId key name users = none ↔
    name = "" ∨ ∀ v ∈ users, key v ≠ name := by
  unfold firstId
  split_ifs with hname
  · exact iff_of_true rfl (Or.inl hname)
  · simp [hname]

theorem emplaceName_apply (names : String → Option ℤ) :
    emplaceName names (key u) u.id name = (names name).or (firstId key name [u]) := by
  unfold emplaceName firstId
  by_cases hempty : key u = ""
  · rw [if_pos hempty]
    split_ifs with hname
    · simp
    · have hne : key u ≠ name := fun h => hname (h.symm.trans hempty)
      simp [hne]
  · rw [if_neg hempty, Keyed.emplace_apply]
    by_cases hkey : key u = name
    · have hname : name ≠ "" := hkey ▸ hempty
      simp [hkey, hname]
    · simp [hkey]

end firstId

/-! ## What the loop keeps -/

section fill

variable {names : Cache → String → Option ℤ} {key : Contact → String} {name : String}
  {cache : Cache} {replies pre post : List UserReply} {user : Contact}

theorem fill_accessible (h : user.haveAccess = true) :
    cache.fill (.ok user :: replies) = (cache.store user).fill replies := by
  simp [Cache.fill, h]

theorem fill_inaccessible (h : user.haveAccess = false) :
    cache.fill (.ok user :: replies) = cache := by
  simp [Cache.fill, h]

/-- No reply is a user that can not be seen. -/
def AllOpen (replies : List UserReply) : Prop :=
  ∀ user, .ok user ∈ replies → user.haveAccess = true

theorem allOpen_cons {reply : UserReply}
    (hreply : ∀ user, reply = .ok user → user.haveAccess = true) (h : AllOpen replies) :
    AllOpen (reply :: replies) := by
  intro user hmem
  rcases List.mem_cons.1 hmem with heq | hmem
  · exact hreply user heq.symm
  · exact h user hmem

theorem accessible_split (hno : user.haveAccess = false) :
    accessible (pre ++ .ok user :: post) = accessible pre ++ accessible post := by
  simp [accessible, hno]

/-- The loop reads all replies, or ends at the first user that can not be seen : it knows what the
cache had and then what the users it read have. -/
theorem names_fill
    (hstore : ∀ cache u, names (cache.store u) = emplaceName (names cache) (key u) u.id)
    (cache : Cache) (replies : List UserReply) :
    (AllOpen replies ∧ ∀ name, names (cache.fill replies) name =
      (names cache name).or (firstId key name (accessible replies))) ∨
    ∃ pre user post, replies = pre ++ .ok user :: post ∧ AllOpen pre ∧ user.haveAccess = false ∧
      ∀ name, names (cache.fill replies) name =
        (names cache name).or (firstId key name (accessible pre)) := by
  induction replies generalizing cache with
  | nil => exact Or.inl ⟨by simp [AllOpen], fun name => by simp [Cache.fill, accessible, firstId]⟩
  | cons reply replies ih =>
    cases reply with
    | error error =>
      rcases ih cache with ⟨hopen, hall⟩ | ⟨pre, user, post, rfl, hopen, hno, hpre⟩
      · exact Or.inl ⟨allOpen_cons (by simp) hopen, hall⟩
      · exact Or.inr ⟨.error error :: pre, user, post, rfl, allOpen_cons (by simp) hopen, hno, hpre⟩
    | ok u =>
      cases haccess : u.haveAccess with
      | false =>
        refine Or.inr ⟨[], u, replies, rfl, by simp [AllOpen], haccess, fun name => ?_⟩
        simp [fill_inaccessible haccess, accessible, firstId]
      | true =>
        have hu : ∀ user, Except.ok (ε := Td.Error) u = .ok user → user.haveAccess = true := by
          rintro user heq
          rwa [← Except.ok.inj heq]
        -- the user is stored, and comes before those of the other replies
        have hfirst : ∀ rest name,
            (names (cache.store u) name).or (firstId key name (accessible rest)) =
              (names cache name).or (firstId key name (accessible (.ok u :: rest))) := by
          intro rest name
          have hcons : accessible (.ok u :: rest) = [u] ++ accessible rest := by
            simp [accessible, haccess]
          rw [hstore, emplaceName_apply, Option.or_assoc, hcons, firstId_append]
        rw [fill_accessible haccess]
        rcases ih (cache.store u) with ⟨hopen, hall⟩ | ⟨pre, user, post, rfl, hopen, hno, hpre⟩
        · exact Or.inl ⟨allOpen_cons hu hopen, fun name => (hall name).trans (hfirst replies name)⟩
        · exact Or.inr ⟨.ok u :: pre, user, post, rfl, allOpen_cons hu hopen, hno, fun name =>
            (hpre name).trans (hfirst pre name)⟩

/-- A list is split at no user that can not be seen before the first one. -/
theorem exists_append_of_allOpen {pre' post' : List UserReply} {user' : Contact}
    (hopen : AllOpen pre) (hno : user'.haveAccess = false)
    (h : pre ++ .ok user :: post = pre' ++ .ok user' :: post') : ∃ mid, pre' = pre ++ mid := by
  rcases List.append_eq_append_iff.1 h with ⟨mid, hpre, -⟩ | ⟨mid, hpre, hpost⟩
  · exact ⟨mid, hpre⟩
  · cases mid with
    | nil => exact ⟨[], by rw [hpre, List.append_nil, List.append_nil]⟩
    | cons reply mid =>
      obtain ⟨rfl, -⟩ := List.cons.inj hpost
      have haccess := hopen user' (by rw [hpre]; simp)
      simp [haccess] at hno

/-- What is read behind the first user that can not be seen is known before just when it is nothing
new. -/
theorem firstId_iff_nothingNew (hopen : AllOpen pre) (hno : user.haveAccess = false) :
    (∀ name, firstId key name (accessible pre) =
      firstId key name (accessible (pre ++ .ok user :: post))) ↔
        NothingNew key (pre ++ .ok user :: post) := by
  constructor
  · -- a name of all users is one of those that were read, and these are before any other split
    intro hall pre' user' post' hsplit hno' u hu hne
    obtain ⟨mid, rfl⟩ := exists_append_of_allOpen hopen hno' hsplit
    have hmem : u ∈ accessible (pre ++ .ok user :: post) := by
      rw [hsplit, accessible_split hno']
      exact List.mem_append_right _ hu
    by_contra hnone
    have hfirst : firstId key (key u) (accessible pre) = none := by
      refine firstId_eq_none_iff.2 (Or.inr fun v hv hkey => hnone ⟨v, ?_, hkey⟩)
      rw [accessible_append]
      exact List.mem_append_left _ hv
    rw [hall, firstId_eq_none_iff] at hfirst
    rcases hfirst with hempty | hother
    · exact hne hempty
    · exact hother u hmem rfl
  · intro hnew name
    rw [accessible_split hno, firstId_append]
    cases hfirst : firstId key name (accessible pre) with
    | some id => rfl
    | none =>
      rw [Option.none_or, eq_comm, firstId_eq_none_iff]
      rcases firstId_eq_none_iff.1 hfirst with hname | hother
      · exact Or.inl hname
      · by_cases hname : name = ""
        · exact Or.inl hname
        refine Or.inr fun u hu hkey => ?_
        obtain ⟨v, hv, hvu⟩ := hnew pre user post rfl hno u hu (hkey ▸ hname)
        exact hother v hv (hvu.trans hkey)

/-- From the empty cache, all that can be seen is known just when nothing new is behind a user that
can not. -/
theorem names_fill_iff
    (hstore : ∀ cache u, names (cache.store u) = emplaceName (names cache) (key u) u.id)
    (hempty : ∀ name, names .empty name = none) (replies : List UserReply) :
    (∀ name, names (Cache.empty.fill replies) name = firstId key name (accessible replies)) ↔
      NothingNew key replies := by
  rcases names_fill hstore .empty replies with
    ⟨hopen, hall⟩ | ⟨pre, user, post, rfl, hopen, hno, hpre⟩
  · refine iff_of_true (fun name => by rw [hall, hempty, Option.none_or]) ?_
    rintro pre user post rfl hno
    have haccess := hopen user (by simp)
    simp [haccess] at hno
  · have hread : ∀ name, names (Cache.empty.fill (pre ++ .ok user :: post)) name =
        firstId key name (accessible pre) := fun name => by rw [hpre, hempty, Option.none_or]
    simp only [hread]
    exact firstId_iff_nothingNew hopen hno

end fill

/-- The cache is complete when it is loaded just when, behind a contact that can not be seen, those
that can be have no username and no phone number but those before it. -/
theorem complete_loadCache_iff {r : ContactReplies} {ids : List ℤ}
    (h : r.searchContacts = .ok ids) :
    (loadCache r .empty).2.Complete (r.users ids) ↔
      NothingNew (·.username) (r.users ids) ∧ NothingNew (·.phoneNumber) (r.users ids) := by
  have hload : (loadCache r .empty).2 = Cache.empty.fill (r.users ids) := by simp [loadCache, h]
  have husernames : (∀ name, (Cache.empty.fill (r.users ids)).usernameCache name = _) ↔ _ :=
    names_fill_iff (fun _ _ => rfl) (fun _ => rfl) (r.users ids)
  have hphones : (∀ name, (Cache.empty.fill (r.users ids)).phoneCache name = _) ↔ _ :=
    names_fill_iff (fun _ _ => rfl) (fun _ => rfl) (r.users ids)
  rw [hload, ← husernames, ← hphones]
  exact ⟨fun h => ⟨h.usernames, h.phones⟩, fun h => ⟨h.1, h.2⟩⟩

/-- A contact that can be seen, with a username and no phone number. -/
def named (username : String) (id : ℤ) : Contact where
  firstName := ""
  lastName := ""
  username
  phoneNumber := ""
  id
  haveAccess := true

/-- The answers for three contacts : a user, one TDLib has no user for, and one that can not be
seen. -/
def hiddenLast : ContactReplies where
  searchContacts := .ok [7, 8, 9]
  getUser
    | 0, id => .ok (named "durov" id)
    | 1, _ => .error ⟨404, "Not Found"⟩
    | _, id => .ok { named "" id with haveAccess := false }

/-- The cache is complete when the contact that can not be seen is the last. -/
theorem complete_hiddenLast :
    (loadCache hiddenLast .empty).2.Complete (hiddenLast.users [7, 8, 9]) := by
  have hopen : AllOpen [.ok (named "durov" 7), .error ⟨404, "Not Found"⟩] := by
    simp [AllOpen, named]
  have hnew : ∀ key, NothingNew key (hiddenLast.users [7, 8, 9]) := by
    intro key pre user post hsplit hno u hu
    obtain ⟨mid, rfl⟩ := exists_append_of_allOpen hopen hno hsplit
    have hlen := congrArg List.length hsplit
    have hpost : post = [] := by
      simp [ContactReplies.users] at hlen
      exact List.eq_nil_of_length_eq_zero (by omega)
    simp [hpost, accessible] at hu
  exact (complete_loadCache_iff rfl).2 ⟨hnew _, hnew _⟩

/-- The answers for two contacts : the first can not be seen, the second has a username. -/
def hiddenFirst : ContactReplies where
  searchContacts := .ok [8, 7]
  getUser
    | 0, id => .ok { named "" id with haveAccess := false }
    | _, id => .ok (named "durov" id)

/-- Behind a contact that can not be seen, a username is left out. -/
theorem not_complete_hiddenFirst :
    ¬(loadCache hiddenFirst .empty).2.Complete (hiddenFirst.users [8, 7]) := by
  intro h
  have hread : (none : Option ℤ) = some 7 := h.usernames "durov"
  simp at hread

end TelegramProvider
