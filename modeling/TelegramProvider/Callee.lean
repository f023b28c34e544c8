import TelegramProvider.Crashes
import TelegramProvider.Flood
import TelegramProvider.Histories

/-!
# Whom a SIP call is for

A SIP call names its callee in the extension : a username, a phone number or the id of a user.
`AcceptIncomingSip` reads the extension, rings the caller if it is one of these and keeps what
it found in one field of the context, and `DialTg` goes by that field.

`rings_iff` : the extensions that are accepted are those of the grammar (`Names`), and each takes
its own way to dial. `dialTg_allOrNothing` : `DialTg` creates one call, of the user that is named
(`Target`), or queues one error, and the cache grows by no more than what was looked up.
-/

set_option autoImplicit false

namespace TelegramProvider

open Actions

/-! ## The grammar of extensions -/

/-- The extensions : `tg#` and a name, `+` and a phone number, or an id that fits a `long`. The
characters are the bytes of the extension. -/
inductive Names : String → Extension → Prop
  | username (name : String) (hne : name ≠ "") : Names ("tg#" ++ name) (.username name)
  | phone (digits : String) (hne : digits ≠ "") (hdigits : ∀ c ∈ digits.toList, c.isDigit = true) :
      Names ("+" ++ digits) (.phone digits)
  | userId (digits : String) (hne : digits ≠ "") (hdigits : ∀ c ∈ digits.toList, c.isDigit = true)
      (hfits : Nat.ofDigitChars 10 digits.toList 0 < 2 ^ 63) :
      Names digits (.userId (Nat.ofDigitChars 10 digits.toList 0))

section grammar

variable {ext : String} {x y : Extension} {cs : List Char}

theorem isDigits_iff : isDigits cs = true ↔ ∀ c ∈ cs, c.isDigit = true :=
  List.all_eq_true

/-- A text with some first characters is these characters and a rest. -/
theorem eq_append_of_take {pre : String} (h : ext.toList.take pre.toList.length = pre.toList) :
    ext = pre ++ String.ofList (ext.toList.drop pre.toList.length) := by
  apply String.toList_injective
  rw [String.toList_append, String.toList_ofList]
  conv_lhs => rw [← List.take_append_drop pre.toList.length ext.toList, h]

theorem names_of_parse (h : Extension.parse ext = some x) : Names ext x := by
  unfold Extension.parse at h
  dsimp only at h
  split_ifs at h with hname hphone hid
  · -- a username
    obtain ⟨hlen, htake⟩ := hname
    obtain rfl := Option.some.inj h
    have hext : ext = "tg#" ++ String.ofList (ext.toList.drop 3) := eq_append_of_take htake
    have hne : String.ofList (ext.toList.drop 3) ≠ "" := by
      intro hnil
      have hdrop : ext.toList.drop 3 = [] := by simpa using hnil
      have hle := List.drop_eq_nil_iff.1 hdrop
      omega
    have hnames := Names.username _ hne
    rwa [← hext] at hnames
  · -- a phone number
    obtain ⟨hlen, hplus, hdigits⟩ := hphone
    obtain rfl := Option.some.inj h
    have htake : ext.toList.take 1 = ['+'] := by
      cases hcs : ext.toList with
      | nil => simp [hcs] at hplus
      | cons c cs =>
        rw [hcs, List.head?_cons] at hplus
        rw [Option.some.inj hplus]
        rfl
    have hext : ext = "+" ++ String.ofList (ext.toList.drop 1) := eq_append_of_take htake
    have hne : String.ofList (ext.toList.drop 1) ≠ "" := by
      intro hnil
      have hdrop : ext.toList.drop 1 = [] := by simpa using hnil
      have hle := List.drop_eq_nil_iff.1 hdrop
      omega
    have hnames := Names.phone _ hne (by simpa using isDigits_iff.1 hdigits)
    rwa [← hext] at hnames
  · -- an id
    unfold stol at h
    split_ifs at h with hbad
    · simp at h
    · obtain ⟨hne, hfits⟩ := not_or.1 hbad
      have hx : x = .userId (Nat.ofDigitChars 10 ext.toList 0) := by simpa using h.symm
      rw [hx]
      exact .userId ext (by simpa using hne) (isDigits_iff.1 hid) (Nat.lt_of_not_le hfits)

theorem parse_of_names (h : Names ext x) : Extension.parse ext = some x := by
  cases h with
  | username name hne =>
    have hpos : 0 < name.toList.length := List.length_pos_iff.2 (by simpa using hne)
    have hlist : ("tg#" ++ name).toList = 't' :: 'g' :: '#' :: name.toList := String.toList_append
    unfold Extension.parse
    rw [hlist]
    have hcond : 3 < ('t' :: 'g' :: '#' :: name.toList).length ∧
        ('t' :: 'g' :: '#' :: name.toList).take 3 = "tg#".toList := ⟨by simpa using hpos, rfl⟩
    dsimp only
    rw [if_pos hcond]
    simp
  | phone digits hne hdigits =>
    have hpos : 0 < digits.toList.length := List.length_pos_iff.2 (by simpa using hne)
    have hlist : ("+" ++ digits).toList = '+' :: digits.toList := String.toList_append
    unfold Extension.parse
    rw [hlist]
    have hname : ¬(3 < ('+' :: digits.toList).length ∧
        ('+' :: digits.toList).take 3 = "tg#".toList) := by
      rintro ⟨-, htake⟩
      have hhead : '+' = 't' := (List.cons.inj htake).1
      exact absurd hhead (by decide)
    have hphone : 1 < ('+' :: digits.toList).length ∧ ('+' :: digits.toList).head? = some '+' ∧
        isDigits (('+' :: digits.toList).drop 1) = true :=
      ⟨by simpa using hpos, rfl, isDigits_iff.2 hdigits⟩
    dsimp only
    rw [if_neg hname, if_pos hphone]
    simp
  | userId _ hne hdigits hfits =>
    have hnil : ext.toList ≠ [] := by simpa using hne
    have hfirst : ∀ c, ext.toList.head? = some c → c.isDigit = true :=
      fun c hc => hdigits c (List.mem_of_head? hc)
    unfold Extension.parse
    have hname : ¬(3 < ext.toList.length ∧ ext.toList.take 3 = "tg#".toList) := by
      rintro ⟨-, htake⟩
      have hhead : ext.toList.head? = some 't' := by
        have hcons := congrArg List.head? htake
        rwa [List.head?_take, if_neg (by decide)] at hcons
      exact absurd (hfirst 't' hhead) (by decide)
    have hphone : ¬(1 < ext.toList.length ∧ ext.toList.head? = some '+' ∧
        isDigits (ext.toList.drop 1) = true) := by
      rintro ⟨-, hhead, -⟩
      exact absurd (hfirst '+' hhead) (by decide)
    dsimp only
    rw [if_neg hname, if_neg hphone, if_pos (isDigits_iff.2 hdigits), stol,
      if_neg (not_or.2 ⟨hnil, Nat.not_le_of_lt hfits⟩)]
    rfl

/-- The parser accepts the grammar, and nothing else. -/
theorem parse_eq_some_iff : Extension.parse ext = some x ↔ Names ext x :=
  ⟨names_of_parse, parse_of_names⟩

end grammar

/-! ## What is kept of an extension -/

namespace Context

/-- No extension has been read. -/
def Fresh (ctx : Context) : Prop :=
  ctx.extUsername = "" ∧ ctx.extPhone = "" ∧ ctx.userId = 0

/-- The extension is all that has been read. -/
def HasRead (x : Extension) (ctx : Context) : Prop :=
  match x with
  | .username name => ctx.extUsername = name ∧ ctx.extPhone = "" ∧ ctx.userId = 0
  | .phone digits => ctx.extUsername = "" ∧ ctx.extPhone = digits ∧ ctx.userId = 0
  | .userId id => ctx.extUsername = "" ∧ ctx.extPhone = "" ∧ ctx.userId = id

end Context

/-- The way `DialTg` takes for an extension. -/
def Actions.Extension.dial (settings : Settings) (r : Replies) :
    Extension → Frame → Except Crash Frame
  | .username _ => dialByUsername settings r
  | .phone _ => dialByPhone settings r
  | .userId id => dialById settings r id

/-- From one frame to another, the caller is rung : the call that is found under the id of the
context is answered so. -/
def Rings (f f' : Frame) : Prop :=
  ∃ obs, f'.deps.trace = f.deps.trace ++ obs ∧ ∃ prm, prm.statusCode = Sip.scRinging ∧
    .sip f.ctx.id (.answer f.ctx.sipCallId prm) (f.deps.sip.calls f.ctx.sipCallId) ∈ obs

section accept

variable {settings : Settings} {r : Replies} {f f' : Frame} {event : Sip.IncomingCall}
  {x : Extension}

theorem hasRead_store (h : f.ctx.Fresh) (x : Extension) : (x.store f.ctx).HasRead x := by
  obtain ⟨hname, hphone, hid⟩ := h
  cases x with
  | username name => exact ⟨rfl, hphone, hid⟩
  | phone digits => exact ⟨hname, rfl, hid⟩
  | userId id => exact ⟨hname, hphone, rfl⟩

/-- `DialTg` goes by the extension that was read. -/
theorem dialTg_of_hasRead {ext : String} (hx : Names ext x) (hread : f.ctx.HasRead x)
    (hfree : ¬r.now < f.deps.blockUntil) : dialTg settings r f = x.dial settings r f := by
  unfold dialTg
  rw [if_neg hfree]
  cases hx with
  | username name hne =>
    obtain ⟨hname, -, -⟩ := hread
    rw [if_pos (hname ▸ hne)]
    rfl
  | phone digits hne =>
    obtain ⟨hname, hphone, -⟩ := hread
    rw [if_neg (not_not.2 hname), if_pos (hphone ▸ hne)]
    rfl
  | userId hne =>
    obtain ⟨hname, hphone, hid⟩ := hread
    rw [if_neg (not_not.2 hname), if_neg (not_not.2 hphone), hid]
    rfl

/-- `Client::Answer` is called once, and changes no field of the context. -/
theorem exists_answerWith (r : Replies) (prm : Sip.CallOpParam) (f : Frame) :
    ∃ f' obs, answerWith r prm f = .ok f' ∧ f'.ctx = f.ctx ∧ f'.deps.trace = f.deps.trace ++
      .sip f.ctx.id (.answer f.ctx.sipCallId prm) (f.deps.sip.calls f.ctx.sipCallId) :: obs := by
  cases h : answerWith r prm f with
  | error e => exact absurd h answerWith_ne_error
  | ok f' =>
    unfold answerWith at h
    generalize f.deps.sip.answer r.pj f.ctx.sipCallId = res at h
    rcases res with (reason | what | what) | u
    · obtain rfl := Except.ok.inj h
      exact ⟨_, [.failed f.ctx.id _], rfl, rfl, List.append_assoc _ _ _⟩
    · obtain rfl := Except.ok.inj h
      exact ⟨_, [.failed f.ctx.id _], rfl, rfl, List.append_assoc _ _ _⟩
    · simp [Frame.recover] at h
    · obtain rfl := Except.ok.inj h
      exact ⟨_, [], rfl, rfl, by simp⟩

/-- The caller is rung just for an extension of the grammar, which is then all that was read and
which `DialTg` goes by. For any other nothing is read and the error is queued. -/
theorem rings_iff (r : Replies) (event : Sip.IncomingCall) (f : Frame) (hfresh : f.ctx.Fresh) :
    ∃ f', acceptIncomingSip r event f = .ok f' ∧
      (Rings f f' ↔ ∃ x, Names event.extension x) ∧
      (∀ x, Names event.extension x → f'.ctx = x.store f.ctx ∧ f'.ctx.HasRead x ∧
        ∀ settings r' g, g.ctx.HasRead x → ¬r'.now < g.deps.blockUntil →
          dialTg settings r' g = x.dial settings r' g) ∧
      ((¬∃ x, Names event.extension x) → f'.ctx = f.ctx ∧ f'.deps.internalEvents =
        f.deps.internalEvents ++ [⟨f.ctx.id, { statusCode := Sip.scBadExtension }⟩]) := by
  cases hparse : Extension.parse event.extension with
  | some x =>
    have hx : Names event.extension x := parse_eq_some_iff.1 hparse
    obtain ⟨f', obs, hok, hctx, htrace⟩ := exists_answerWith r
      { useDefaultCallSetting := true, statusCode := Sip.scRinging } (f.modifyCtx x.store)
    have haccept : acceptIncomingSip r event f = .ok f' := by
      simp only [acceptIncomingSip, hparse]
      exact hok
    have hids : (x.store f.ctx).id = f.ctx.id ∧ (x.store f.ctx).sipCallId = f.ctx.sipCallId := by
      cases x <;> exact ⟨rfl, rfl⟩
    rw [Frame.modifyCtx_ctx, hids.1, hids.2] at htrace
    refine ⟨f', haccept, ?_, ?_, fun hnone => absurd ⟨x, hx⟩ hnone⟩
    · exact iff_of_true ⟨_, htrace, _, rfl, List.mem_cons_self⟩ ⟨x, hx⟩
    · intro y hy
      obtain rfl : x = y := Option.some.inj (hparse.symm.trans (parse_eq_some_iff.2 hy))
      refine ⟨hctx, ?_, fun settings r' g hread hfree => dialTg_of_hasRead hx hread hfree⟩
      rw [hctx]
      exact hasRead_store hfresh x
  | none =>
    have hnone : ¬∃ x, Names event.extension x := by
      rintro ⟨x, hx⟩
      simp [parse_eq_some_iff.2 hx] at hparse
    have haccept : acceptIncomingSip r event f =
        .ok (f.emplaceError { statusCode := Sip.scBadExtension }) := by
      simp only [acceptIncomingSip, hparse]
    refine ⟨_, haccept, ?_, ?_, fun _ => ⟨rfl, rfl⟩⟩
    · refine iff_of_false ?_ hnone
      rintro ⟨obs, htrace, prm, -, hmem⟩
      rw [Frame.emplaceError_trace] at htrace
      rw [← List.append_cancel_left htrace] at hmem
      simp at hmem
    · intro x hx
      exact absurd ⟨x, hx⟩ hnone

/-- The frame of a call that has just come in and is in the call table. -/
def incomingFrame : Frame :=
  ⟨{ id := 1, sipCallId := 5 }, { (Gateway.initial 1 .empty 0).deps with
    sip := (Sip.Client.empty.onIncomingCall 5 "tg#durov").1 }⟩

/-- A call for a username that just came in is rung. -/
theorem rings_incoming_username :
    incomingFrame.deps.sip.calls 5 = some ⟨0, "tg#durov"⟩ ∧
      ∃ f', acceptIncomingSip (.granting 5 9) ⟨5, "tg#durov", 0⟩ incomingFrame = .ok f' ∧
        Rings incomingFrame f' ∧ f'.ctx.extUsername = "durov" := by
  obtain ⟨f', hok, hrings, hread, -⟩ :=
    rings_iff (.granting 5 9) ⟨5, "tg#durov", 0⟩ incomingFrame ⟨rfl, rfl, rfl⟩
  have hnames : Names "tg#durov" (.username "durov") := .username "durov" (by decide)
  exact ⟨rfl, f', hok, hrings.2 ⟨_, hnames⟩, (hread _ hnames).2.1.1⟩

end accept

/-! ## What `DialTg` does -/

/-- The id of the private chat TDLib finds for a username. -/
def Replies.chatId (r : Replies) : Option ℤ :=
  match r.searchPublicChat with
  | .ok chat => if chat.isPrivate then some chat.id else none
  | .error _ => none

/-- The id TDLib has for an imported contact, if it is not zero. -/
def Replies.contactId (r : Replies) : Option ℤ :=
  match r.importContacts with
  | .ok contacts => contacts.userIds.head?.filter (· ≠ 0)
  | .error _ => none

/-- TDLib gives no private chat the id zero. -/
def Replies.NamesChats (r : Replies) : Prop :=
  ∀ id, r.chatId = some id → id ≠ 0

/-- The reply gives no id to go on with. -/
def Replies.Fails (r : Replies) : Td.Query → Prop
  | .searchPublicChat _ => r.chatId = none
  | .importContacts _ => r.contactId = none
  | q => r.Refuses q

/-- The user a context names : the one the cache has for the username or the phone number, or else
the one TDLib resolves, which is not zero; or the id that was called. -/
inductive Target (r : Replies) (f : Frame) : ℤ → Prop
  | knownName {id : ℤ} (hname : f.ctx.extUsername ≠ "")
      (hknown : f.deps.cache.usernameCache f.ctx.extUsername = some id) : Target r f id
  | foundName {id : ℤ} (hname : f.ctx.extUsername ≠ "")
      (hunknown : f.deps.cache.usernameCache f.ctx.extUsername = none)
      (hfound : r.chatId = some id) (hne : id ≠ 0) : Target r f id
  | knownPhone {id : ℤ} (hname : f.ctx.extUsername = "") (hphone : f.ctx.extPhone ≠ "")
      (hknown : f.deps.cache.phoneCache f.ctx.extPhone = some id) : Target r f id
  | foundPhone {id : ℤ} (hname : f.ctx.extUsername = "") (hphone : f.ctx.extPhone ≠ "")
      (hunknown : f.deps.cache.phoneCache f.ctx.extPhone = none)
      (hfound : r.contactId = some id) (hne : id ≠ 0) : Target r f id
  | userId (hname : f.ctx.extUsername = "") (hphone : f.ctx.extPhone = "") : Target r f f.ctx.userId

/-- The users of the calls among some queries. -/
def calleesOf (qs : List Td.Query) : List ℤ :=
  qs.filterMap fun
    | .createCall userId _ _ => some userId
    | _ => none

/-- The cache is as it was, or has one more entry, for what TDLib resolved. -/
inductive Learns (r : Replies) (f : Frame) (cache' : Cache) : Prop
  | nothing (hcache : cache' = f.deps.cache)
  | name {id : ℤ} (hfound : r.chatId = some id)
      (hunknown : f.deps.cache.usernameCache f.ctx.extUsername = none)
      (hcache : cache' = { f.deps.cache with
        usernameCache := Function.update f.deps.cache.usernameCache f.ctx.extUsername (some id) })
  | phone {id : ℤ} (hfound : r.contactId = some id)
      (hunknown : f.deps.cache.phoneCache f.ctx.extPhone = none)
      (hcache : cache' = { f.deps.cache with
        phoneCache := Function.update f.deps.cache.phoneCache f.ctx.extPhone (some id) })

/-- All or nothing : the call has the id TDLib gave it, or the context is as it was and one error is
queued. Nothing is asked after a reply that fails, one call is made at most, of the user that is
named, and the cache grows by no more than the answer. -/
structure AllOrNothing (r : Replies) (f f' : Frame) (qs : List Td.Query) : Prop where
  asked : ∃ obs, f'.deps.trace = f.deps.trace ++ obs ∧ queriesOf obs = qs
  outcome :
    ((∃ callId, r.createCall = .ok callId ∧ calleesOf qs ≠ [] ∧
      f'.ctx = { f.ctx with tgCallId := callId }) ∧
      f'.deps.internalEvents = f.deps.internalEvents) ∨
    (f'.ctx = f.ctx ∧ ∃ prm, f'.deps.internalEvents = f.deps.internalEvents ++ [⟨f.ctx.id, prm⟩])
  stops : ∀ pre q post, qs = pre ++ q :: post → r.Fails q → post = []
  once : (calleesOf qs).length ≤ 1
  target : ∀ userId ∈ calleesOf qs, Target r f userId
  cache : Learns r f f'.deps.cache

section dial

variable {settings : Settings} {r : Replies} {f f' f₀ f₁ : Frame} {id : ℤ} {q : Td.Query}
  {lookups qs : List Td.Query}

theorem queriesOf_append (trace trace' : List Obs) :
    queriesOf (trace ++ trace') = queriesOf trace ++ queriesOf trace' :=
  List.filterMap_append

theorem queriesOf_map (c : CtxId) (qs : List Td.Query) : queriesOf (qs.map (.query c)) = qs := by
  simp [queriesOf, List.filterMap_map]

theorem calleesOf_lookups (h : ∀ q ∈ lookups, IsLookup q) : calleesOf lookups = [] := by
  refine List.filterMap_eq_nil_iff.2 fun q hq => ?_
  have hlookup := h q hq
  cases q with
  | importContacts | searchPublicChat => rfl
  | getUser | acceptCall | createCall | discardCall => exact absurd hlookup not_false

/-- One user is called behind lookups. -/
theorem calleesOf_concat (h : ∀ q ∈ lookups, IsLookup q) (id : ℤ) (protocol : Td.CallProtocol)
    (isVideo : Bool) : calleesOf (lookups ++ [.createCall id protocol isVideo]) = [id] := by
  rw [calleesOf, List.filterMap_append]
  exact congrArg (· ++ [id]) (calleesOf_lookups h)

/-- Only the last of some queries may fail, if it comes behind queries that do not. -/
theorem stops_concat (h : ∀ q ∈ lookups, ¬r.Fails q) (last : Td.Query) :
    ∀ pre q post, lookups ++ [last] = pre ++ q :: post → r.Fails q → post = [] := by
  intro pre q post hsplit hfails
  rcases Histories.split_snoc hsplit with ⟨-, -, rfl⟩ | ⟨post', -, rfl⟩
  · rfl
  · exact absurd hfails (h q (by simp))

/-- One error is queued. Nothing else changes but the block. -/
def FailsOnce (f f' : Frame) : Prop :=
  ∃ prm, f'.ctx = f.ctx ∧ f'.deps.internalEvents = f.deps.internalEvents ++ [⟨f.ctx.id, prm⟩] ∧
    f'.deps.trace = f.deps.trace ++ [.failed f.ctx.id prm] ∧ f'.deps.cache = f.deps.cache

theorem failsOnce_emplaceError (prm : Sip.CallOpParam) (f : Frame) :
    FailsOnce f (f.emplaceError prm) :=
  ⟨prm, rfl, rfl, rfl, rfl⟩

theorem failsOnce_of_dialFailed {error : Td.Error} (h : dialFailed settings r error f = .ok f') :
    FailsOnce f f' := by
  obtain rfl | ⟨t, rfl⟩ := exists_block_of_parseError h
  · exact ⟨_, rfl, rfl, rfl, rfl⟩
  · exact ⟨_, rfl, rfl, rfl, rfl⟩

/-- Some queries and then one error are nothing. -/
theorem FailsOnce.allOrNothing (h : FailsOnce f₁ f') (hctx : f₁.ctx = f.ctx)
    (herrors : f₁.deps.internalEvents = f.deps.internalEvents)
    (htrace : f₁.deps.trace = f.deps.trace ++ qs.map (.query f.ctx.id))
    (hstops : ∀ pre q post, qs = pre ++ q :: post → r.Fails q → post = [])
    (honce : (calleesOf qs).length ≤ 1) (htarget : ∀ userId ∈ calleesOf qs, Target r f userId)
    (hcache : Learns r f f₁.deps.cache) : AllOrNothing r f f' qs := by
  obtain ⟨prm, hctx', herrors', htrace', hcache'⟩ := h
  refine ⟨⟨qs.map (.query f.ctx.id) ++ [.failed f.ctx.id prm], ?_, ?_⟩,
    Or.inr ⟨hctx'.trans hctx, prm, ?_⟩, hstops, honce, htarget, hcache' ▸ hcache⟩
  · rw [htrace', htrace, hctx, List.append_assoc]
  · rw [queriesOf_append, queriesOf_map]
    exact List.append_nil qs
  · rw [herrors', herrors, hctx]

/-- A lookup and then one error are nothing. -/
theorem FailsOnce.allOrNothing_send (hlookup : IsLookup q) (h : FailsOnce (f.send q) f') :
    AllOrNothing r f f' [q] := by
  have hcallees : calleesOf [q] = [] := calleesOf_lookups (by simpa using hlookup)
  have hnone : ∀ q ∈ ([] : List Td.Query), ¬r.Fails q := by simp
  refine h.allOrNothing rfl rfl rfl (stops_concat hnone q) ?_ ?_ (.nothing rfl)
  · rw [hcallees]
    exact Nat.zero_le 1
  · simp [hcallees]

/-- Behind lookups that were answered, the call is all or nothing. -/
theorem Actions.LookedUp.allOrNothing (h : LookedUp f lookups f₀)
    (hgranted : ∀ q ∈ lookups, ¬r.Fails q) (hcache : Learns r f f₀.deps.cache)
    (htarget : Target r f id)
    (hok : Actions.dialById settings r id f₀ = .ok f') :
    AllOrNothing r f f' (lookups ++ [Td.Query.createCall id (callProtocol settings) false]) := by
  have hcallees := calleesOf_concat h.asked id (callProtocol settings) false
  have honce := Nat.le_of_eq (congrArg List.length hcallees)
  have htargets : ∀ userId ∈ calleesOf _, Target r f userId := fun userId hmem =>
    List.mem_singleton.1 (hcallees ▸ hmem) ▸ htarget
  have hstops := stops_concat hgranted (Td.Query.createCall id (callProtocol settings) false)
  have htrace : (f₀.send (.createCall id (callProtocol settings) false)).deps.trace =
      f.deps.trace ++ (lookups ++ [Td.Query.createCall id (callProtocol settings) false]).map
        (.query f.ctx.id) := by
    simp [h.trace, h.ctx]
  unfold Actions.dialById at hok
  cases hreply : r.createCall with
  | error error =>
    simp only [hreply] at hok
    exact (failsOnce_of_dialFailed hok).allOrNothing h.ctx h.errors htrace hstops honce htargets
      hcache
  | ok callId =>
    simp only [hreply] at hok
    obtain rfl := Except.ok.inj hok
    refine ⟨⟨(lookups ++ [Td.Query.createCall id (callProtocol settings) false]).map
      (.query f.ctx.id) ++ [.tgAssociated f.ctx.id callId], ?_, ?_⟩,
      Or.inl ⟨⟨callId, hreply, ?_, ?_⟩, h.errors⟩, hstops, honce, htargets, hcache⟩
    · rw [Frame.modifyCtx_deps, Frame.log_trace, htrace, h.ctx, List.append_assoc]
    · rw [queriesOf_append, queriesOf_map]
      exact List.append_nil _
    · rw [hcallees]
      exact List.cons_ne_nil _ _
    · rw [Frame.modifyCtx_ctx, Frame.log_ctx, Frame.send_ctx, h.ctx]

theorem allOrNothing_dialByPhone (hname : f.ctx.extUsername = "") (hphone : f.ctx.extPhone ≠ "")
    (h : dialByPhone settings r f = .ok f') : ∃ qs, AllOrNothing r f f' qs := by
  unfold dialByPhone at h
  cases hknown : f.deps.cache.phoneCache f.ctx.extPhone with
  | some id =>
    simp only [hknown] at h
    exact ⟨_, (LookedUp.refl f).allOrNothing (by simp) (.nothing rfl)
      (.knownPhone hname hphone hknown) h⟩
  | none =>
    simp only [hknown] at h
    cases hreply : r.importContacts with
    | error error =>
      simp only [hreply] at h
      exact ⟨[.importContacts [f.ctx.extPhone]],
        (failsOnce_of_dialFailed h).allOrNothing_send trivial⟩
    | ok contacts =>
      obtain ⟨userIds, hlen⟩ := contacts
      obtain ⟨userId, rfl⟩ := List.length_eq_one_iff.1 hlen
      simp only [hreply, List.get_eq_getElem, List.getElem_cons_zero] at h
      split_ifs at h with hzero
      · obtain rfl := Except.ok.inj h
        exact ⟨[.importContacts [f.ctx.extPhone]],
          (failsOnce_emplaceError _ _).allOrNothing_send trivial⟩
      · have hfound : r.contactId = some userId := by simp [Replies.contactId, hreply, hzero]
        have hgranted : ¬r.Fails (.importContacts [f.ctx.extPhone]) := by
          simp [Replies.Fails, hfound]
        have hcache := Keyed.emplace_of_none (a := userId) hknown
        have hlooked := LookedUp.send (q := .importContacts [f.ctx.extPhone]) trivial f
        refine ⟨_, (hlooked.modifyCache _).allOrNothing (by simpa using hgranted)
          (.phone hfound hknown ?_) (.foundPhone hname hphone hknown hfound hzero) h⟩
        rw [← hcache]
        rfl

theorem allOrNothing_dialByUsername (hname : f.ctx.extUsername ≠ "")
    (hchats : r.NamesChats) (h : dialByUsername settings r f = .ok f') :
    ∃ qs, AllOrNothing r f f' qs := by
  unfold dialByUsername at h
  cases hknown : f.deps.cache.usernameCache f.ctx.extUsername with
  | some id =>
    simp only [hknown] at h
    exact ⟨_, (LookedUp.refl f).allOrNothing (by simp) (.nothing rfl) (.knownName hname hknown) h⟩
  | none =>
    simp only [hknown] at h
    cases hreply : r.searchPublicChat with
    | error error =>
      simp only [hreply] at h
      exact ⟨[.searchPublicChat f.ctx.extUsername],
        (failsOnce_of_dialFailed h).allOrNothing_send trivial⟩
    | ok chat =>
      simp only [hreply] at h
      split_ifs at h with hprivate
      · have hfound : r.chatId = some chat.id := by simp [Replies.chatId, hreply, hprivate]
        have hgranted : ¬r.Fails (.searchPublicChat f.ctx.extUsername) := by
          simp [Replies.Fails, hfound]
        have hcache := Keyed.emplace_of_none (a := chat.id) hknown
        have hlooked := LookedUp.send (q := .searchPublicChat f.ctx.extUsername) trivial f
        refine ⟨_, (hlooked.modifyCache _).allOrNothing (by simpa using hgranted)
          (.name hfound hknown ?_) (.foundName hname hknown hfound (hchats _ hfound)) h⟩
        rw [← hcache]
        rfl
      · obtain rfl := Except.ok.inj h
        exact ⟨[.searchPublicChat f.ctx.extUsername],
          (failsOnce_emplaceError _ _).allOrNothing_send trivial⟩

/-- `DialTg`, when calls are not blocked, is all or nothing. -/
theorem dialTg_allOrNothing (hfree : ¬r.now < f.deps.blockUntil)
    (hchats : r.NamesChats) (h : dialTg settings r f = .ok f') :
    ∃ qs, AllOrNothing r f f' qs := by
  unfold dialTg at h
  rw [if_neg hfree] at h
  split_ifs at h with hname hphone
  · exact allOrNothing_dialByUsername hname hchats h
  · exact allOrNothing_dialByPhone (not_not.1 hname) hphone h
  · exact ⟨_, (LookedUp.refl f).allOrNothing (by simp) (.nothing rfl)
      (.userId (not_not.1 hname) (not_not.1 hphone)) h⟩

/-- The frame of a call for a phone number, which was accepted. -/
def acceptedFrame : Frame :=
  ⟨{ id := 1, sipCallId := 5, extPhone := "4912345" }, (Gateway.initial 1 .empty 0).deps⟩

/-- A phone number is looked up and its user is called. -/
theorem allOrNothing_dial_phone :
    ∃ f', dialTg { callbackUri := "sip:pbx" } (.granting 5 9) acceptedFrame = .ok f' ∧
      ∃ qs, AllOrNothing (.granting 5 9) acceptedFrame f' qs := by
  have hchats : (Replies.granting 5 9).NamesChats := by
    intro id hid
    obtain rfl : 1 = id := Option.some.inj hid
    decide
  exact ⟨_, rfl, dialTg_allOrNothing (Int.lt_irrefl 0) hchats rfl⟩

end dial

end TelegramProvider
