import TelegramProvider.Bot
import TelegramProvider.Histories
import TelegramProvider.Runs

/-!
# Buttons pressed at the same time

telebot runs every handler in a goroutine, so between the `Get` of a handler, the callback and the
`Set` there may be steps of others. A number is marked only behind the callback : two presses of it
may both find it unmarked, and a mark lasts from the `Set` on, whether the callback was sent or not.

`ordered_of_run` says when a callback is ordered once : a number is not pressed while another
handler of it is between its `Get` and its `Set`, nor while its mark outlasts the window of the
callback, and AMI is connected for every callback.
-/

set_option autoImplicit false

namespace TelegramProvider

open Histories Runs

namespace Bot

/-! ## Steps -/

/-- A handler that found its number unmarked, before its callback or behind it. -/
structure Handler where
  phone : String
  called : Bool
  deriving DecidableEq, Repr

/-- The bot with its running handlers, and the last reading of the clock. -/
structure Live where
  bot : Bot := {}
  running : List Handler := []
  now : ℤ

/-- A step : a button is pressed and the mark of its number is looked up, or a running handler
starts its callback, or sets its mark. -/
inductive Label
  | press (r : Replies) (data : String)
  | call (phone : String) (connected : Bool) (time : ℤ)
  | mark (phone : String) (time : ℤ)

/-- One step of one handler. The clock does not go back. -/
inductive Step (settings : Settings) : Live → Label → Live → Prop
  | ignored {s : Live} {r : Replies} {data : String} (later : s.now ≤ r.clock 0)
      (request : requestOf data = .none) :
      Step settings s (.press r data) { s with now := r.clock 0 }
  | dtmf {s : Live} {r : Replies} {data digit : String} (later : s.now ≤ r.clock 0)
      (request : requestOf data = .dtmf digit) :
      Step settings s (.press r data) { s with bot := s.bot.press r digit, now := r.clock 0 }
  | flood {s : Live} {r : Replies} {data phone : String} (later : s.now ≤ r.clock 0)
      (request : requestOf data = .dial phone) (marked : s.bot.isMarked phone (r.clock 0) = true) :
      Step settings s (.press r data)
        { s with bot := s.bot.log (.flood phone (r.clock 0)), now := r.clock 0 }
  | begin {s : Live} {r : Replies} {data phone : String} (later : s.now ≤ r.clock 0)
      (request : requestOf data = .dial phone)
      (unmarked : s.bot.isMarked phone (r.clock 0) = false) :
      Step settings s (.press r data)
        { s with running := s.running ++ [⟨phone, false⟩], now := r.clock 0 }
  | call {s : Live} {pre post : List Handler} {phone : String} {connected : Bool} {time : ℤ}
      (later : s.now ≤ time) (running : s.running = pre ++ ⟨phone, false⟩ :: post) :
      Step settings s (.call phone connected time)
        { bot := s.bot.startCallback settings connected phone time
          running := pre ++ ⟨phone, true⟩ :: post
          now := time }
  | mark {s : Live} {pre post : List Handler} {phone : String} {time : ℤ} (later : s.now ≤ time)
      (running : s.running = pre ++ ⟨phone, true⟩ :: post) :
      Step settings s (.mark phone time)
        { bot := s.bot.mark phone time, running := pre ++ post, now := time }

/-- A handler that is not disturbed does what `onCallback` does. -/
theorem run_dial {settings : Settings} {s : Live} {r : Replies} {data phone : String}
    (hrequest : requestOf data = .dial phone) (hunmarked : s.bot.isMarked phone (r.clock 0) = false)
    (hnow : s.now ≤ r.clock 0) (hcall : r.clock 0 ≤ r.clock 1) (hmark : r.clock 1 ≤ r.clock 2) :
    Run (Step settings) s
      [.press r data, .call phone r.connected (r.clock 1), .mark phone (r.clock 2)]
      { bot := s.bot.onCallback settings r data, running := s.running, now := r.clock 2 } := by
  have hdial : s.bot.onCallback settings r data =
      (s.bot.startCallback settings r.connected phone (r.clock 1)).mark phone (r.clock 2) := by
    unfold onCallback
    rw [hrequest]
    dsimp only
    unfold dial
    rw [hunmarked, if_neg Bool.false_ne_true]
  rw [hdial]
  have hbegin : Step settings s (.press r data)
      { s with running := s.running ++ [⟨phone, false⟩], now := r.clock 0 } :=
    Step.begin hnow hrequest hunmarked
  simpa using ((Run.one hbegin).snoc (Step.call hcall rfl)).snoc (Step.mark hmark rfl)

/-! ## What is ordered -/

/-- The entry is about the number. -/
def Obs.about (phone : String) : Obs → Bool
  | .played _ => false
  | .called phone' _ _ => phone' = phone
  | .flood phone' _ => phone' = phone

/-- What is on record about a number. -/
def recordOf (phone : String) (trace : List Obs) : List Obs :=
  trace.filter (Obs.about phone)

/-- When callbacks were sent. -/
def callsOf (trace : List Obs) : List ℤ :=
  trace.filterMap fun
    | .called _ (some _) time => some time
    | _ => none

/-- On a record, callbacks come more than a window one after the other, and a press is taken for a
flood only within the window of a callback. -/
structure Once (record : List Obs) : Prop where
  apart : (callsOf record).Pairwise fun t t' => t + window < t'
  fair : ∀ pre phone t post, record = pre ++ .flood phone t :: post →
    ∃ t' ∈ callsOf pre, t' ≤ t ∧ t ≤ t' + window

/-- A callback is ordered once, for every number. -/
def Ordered (b : Bot) : Prop :=
  ∀ phone, Once (recordOf phone b.trace)

/-- The running handlers of a number. -/
def handlersOf (phone : String) (s : Live) : List Handler :=
  s.running.filter fun h => h.phone = phone

/-- The mark of a number lasts, though the window of its last callback is over. -/
def Outlasts (phone : String) (t : ℤ) (s : Live) : Prop :=
  match (callsOf (recordOf phone s.bot.trace)).getLast?, s.bot.cache.items (dialKey phone) with
  | some t', some item => t' + window < t ∧ t ≤ item.expiration
  | _, _ => False

/-- A number is not pressed while another handler of it runs, nor while its mark outlasts the window
of its callback. AMI is connected for a callback. -/
def Allowed (s : Live) : Label → Prop
  | .press r data =>
    match requestOf data with
    | .dial phone => handlersOf phone s = [] ∧ ¬Outlasts phone (r.clock 0) s
    | _ => True
  | .call _ connected _ => connected = true
  | .mark _ _ => True

/-! ## What holds of a number -/

section number

variable {settings : Settings} {s s' : Live} {l : Label} {phone phone' : String} {t time : ℤ}
  {record record' trace : List Obs} {o : Obs} {connected : Bool} {b : Bot} {r : Replies}
  {digit : String}

theorem dialKey_injective (h : dialKey phone = dialKey phone') : phone = phone' := by
  have hlist := congrArg String.toList h
  simp only [dialKey, String.toList_append] at hlist
  exact String.toList_inj.1 (List.append_cancel_left hlist)

theorem recordOf_append (trace trace' : List Obs) :
    recordOf phone (trace ++ trace') = recordOf phone trace ++ recordOf phone trace' :=
  List.filter_append _ _

theorem callsOf_append (record record' : List Obs) :
    callsOf (record ++ record') = callsOf record ++ callsOf record' :=
  List.filterMap_append

/-- What is on record about a number is unchanged by an entry that is not about it. -/
theorem recordOf_log (h : o.about phone = false) :
    recordOf phone (b.log o).trace = recordOf phone b.trace := by
  have hnone : recordOf phone [o] = [] := by simp [recordOf, h]
  rw [log, recordOf_append, hnone, List.append_nil]

theorem recordOf_log_about (h : o.about phone = true) :
    recordOf phone (b.log o).trace = recordOf phone b.trace ++ [o] := by
  have hone : recordOf phone [o] = [o] := by simp [recordOf, h]
  rw [log, recordOf_append, hone]

theorem once_nil : Once [] :=
  ⟨List.Pairwise.nil, fun pre phone t post h => by simp at h⟩

/-- A callback behind all windows. -/
theorem Once.called {action : Option Action} (h : Once record)
    (hlate : ∀ t' ∈ callsOf record, t' + window < t) :
    Once (record ++ [.called phone action t]) := by
  refine ⟨?_, ?_⟩
  · rw [callsOf_append, List.pairwise_append]
    refine ⟨h.apart, ?_, fun t' ht' x hx => ?_⟩
    · cases action <;> simp [callsOf]
    · cases action with
      | none => simp [callsOf] at hx
      | some action =>
        obtain rfl : x = t := by simpa [callsOf] using hx
        exact hlate t' ht'
  · intro pre phone' t' post hsplit
    rcases split_snoc hsplit with ⟨-, hentry, -⟩ | ⟨post', -, hsplit'⟩
    · simp at hentry
    · exact h.fair pre phone' t' post' hsplit'

/-- A flood within the window of a callback. -/
theorem Once.flood (h : Once record) (hwithin : ∃ t' ∈ callsOf record, t' ≤ t ∧ t ≤ t' + window) :
    Once (record ++ [.flood phone t]) := by
  refine ⟨?_, ?_⟩
  · have hcalls : callsOf (record ++ [.flood phone t]) = callsOf record := by
      rw [callsOf_append]
      exact List.append_nil _
    rw [hcalls]
    exact h.apart
  · intro pre phone' t' post hsplit
    rcases split_snoc hsplit with ⟨rfl, hentry, -⟩ | ⟨post', -, hsplit'⟩
    · obtain ⟨-, rfl⟩ := Obs.flood.inj hentry
      exact hwithin
    · exact h.fair pre phone' t' post' hsplit'

/-- What the mark and the handlers of a number say of its callbacks : without a handler, none has a
window that outlasts the mark; with one before its callback, all windows are over. -/
inductive Phase (phone : String) (s : Live) (calls : List ℤ) : Prop
  | idle (none : handlersOf phone s = [])
      (marked : ∀ t ∈ calls, ∃ item, s.bot.cache.items (dialKey phone) = some item ∧
        t + window ≤ item.expiration)
  | begun (one : handlersOf phone s = [⟨phone, false⟩]) (past : ∀ t ∈ calls, t + window < s.now)
  | called (one : handlersOf phone s = [⟨phone, true⟩]) (some : calls ≠ [])

/-- The invariant of a number. -/
structure Kept (phone : String) (s : Live) : Prop where
  once : Once (recordOf phone s.bot.trace)
  past : ∀ t ∈ callsOf (recordOf phone s.bot.trace), t ≤ s.now
  backed : ∀ item, s.bot.cache.items (dialKey phone) = some item →
    callsOf (recordOf phone s.bot.trace) ≠ []
  phase : Phase phone s (callsOf (recordOf phone s.bot.trace))

theorem kept_initial : Kept phone { now := t } := by
  refine ⟨once_nil, fun t ht => ?_, fun item hitem => ?_, .idle rfl fun t ht => ?_⟩
  · simp [callsOf, recordOf] at ht
  · simp [Expiring.Cache.empty] at hitem
  · simp [callsOf, recordOf] at ht

/-- A step about another number keeps it. -/
theorem Kept.frame (h : Kept phone s)
    (hrecord : recordOf phone s'.bot.trace = recordOf phone s.bot.trace)
    (hitems : s'.bot.cache.items (dialKey phone) = s.bot.cache.items (dialKey phone))
    (hhandlers : handlersOf phone s' = handlersOf phone s) (hnow : s.now ≤ s'.now) :
    Kept phone s' := by
  obtain ⟨honce, hpast, hbacked, hphase⟩ := h
  refine ⟨hrecord ▸ honce, fun t ht => ?_, fun item hitem => ?_, ?_⟩
  · rw [hrecord] at ht
    exact Int.le_trans (hpast t ht) hnow
  · rw [hrecord]
    exact hbacked item (hitems ▸ hitem)
  · rw [hrecord]
    cases hphase with
    | idle none marked =>
      refine .idle (hhandlers.trans none) fun t ht => ?_
      rw [hitems]
      exact marked t ht
    | begun one past =>
      exact .begun (hhandlers.trans one) fun t ht => Int.lt_of_lt_of_le (past t ht) hnow
    | called one some => exact .called (hhandlers.trans one) some

theorem mark_items_ne (h : phone ≠ phone') :
    (b.mark phone time).cache.items (dialKey phone') = b.cache.items (dialKey phone') := by
  have hkey : dialKey phone' ≠ dialKey phone := fun heq => h (dialKey_injective heq).symm
  simp [mark, Expiring.Cache.set, hkey]

theorem isMarked_eq_true_iff : b.isMarked phone t = true ↔
    ∃ item, b.cache.items (dialKey phone) = some item ∧ t ≤ item.expiration := by
  unfold isMarked Expiring.Cache.get
  cases b.cache.items (dialKey phone) with
  | none => simp
  | some item =>
    dsimp only
    split_ifs with hle <;> simp [hle]

/-- A press that is taken for a flood is within the window of the last callback. -/
theorem Kept.exists_within (h : Kept phone s) (hmarked : s.bot.isMarked phone t = true)
    (hnow : s.now ≤ t) (hgap : ¬Outlasts phone t s) :
    ∃ t' ∈ callsOf (recordOf phone s.bot.trace), t' ≤ t ∧ t ≤ t' + window := by
  obtain ⟨item, hitem, hle⟩ := isMarked_eq_true_iff.1 hmarked
  have hne := h.backed item hitem
  obtain ⟨t', ht'⟩ := Option.isSome_iff_exists.1 (List.getLast?_isSome.2 hne)
  have hmem := List.mem_of_getLast? ht'
  refine ⟨t', hmem, Int.le_trans (h.past t' hmem) hnow, ?_⟩
  unfold Outlasts at hgap
  rw [ht', hitem] at hgap
  by_contra hover
  exact hgap ⟨by omega, hle⟩

/-! ## Every step -/

/-- The one handler of a number is where it was found. -/
theorem filter_eq_nil_of_split {pre post : List Handler} {h h' : Handler} (hphone : h.phone = phone)
    (hsplit : s.running = pre ++ h :: post) (hone : handlersOf phone s = [h']) :
    h = h' ∧ (pre.filter fun g => g.phone = phone) = [] ∧
      (post.filter fun g => g.phone = phone) = [] := by
  have hfilter : (pre.filter fun g => g.phone = phone) ++ h ::
      (post.filter fun g => g.phone = phone) = [h'] := by
    rw [← hone, handlersOf, hsplit, List.filter_append,
      List.filter_cons_of_pos (by simpa using hphone)]
  cases hpre : pre.filter fun g => g.phone = phone with
  | nil =>
    rw [hpre, List.nil_append] at hfilter
    obtain ⟨hhead, hpost⟩ := List.cons.inj hfilter
    exact ⟨hhead, rfl, hpost⟩
  | cons g gs =>
    rw [hpre] at hfilter
    simp at hfilter

/-- Without a handler, the phase of a number is idle. -/
theorem Phase.marked_of_nil {calls : List ℤ} (h : Phase phone s calls)
    (hnone : handlersOf phone s = []) : ∀ t ∈ calls,
    ∃ item, s.bot.cache.items (dialKey phone) = some item ∧ t + window ≤ item.expiration := by
  cases h with
  | idle none marked => exact marked
  | begun one past => simp [hnone] at one
  | called one some => simp [hnone] at one

theorem Kept.flood (h : Kept phone s) (hnone : handlersOf phone s = []) (hnow : s.now ≤ t)
    (hmarked : s.bot.isMarked phone t = true) (hgap : ¬Outlasts phone t s) :
    Kept phone { s with bot := s.bot.log (.flood phone t), now := t } := by
  have hrecord : recordOf phone (s.bot.log (.flood phone t)).trace =
      recordOf phone s.bot.trace ++ [.flood phone t] :=
    recordOf_log_about (by simp [Obs.about])
  have hcalls : callsOf (recordOf phone (s.bot.log (.flood phone t)).trace) =
      callsOf (recordOf phone s.bot.trace) := by
    rw [hrecord, callsOf_append]
    exact List.append_nil _
  refine ⟨?_, fun t' ht' => ?_, fun item hitem => ?_, ?_⟩
  · rw [hrecord]
    exact h.once.flood (h.exists_within hmarked hnow hgap)
  · rw [hcalls] at ht'
    exact Int.le_trans (h.past t' ht') hnow
  · rw [hcalls]
    exact h.backed item hitem
  · rw [hcalls]
    exact .idle hnone (h.phase.marked_of_nil hnone)

theorem Kept.begin (h : Kept phone s) (hnone : handlersOf phone s = []) (hnow : s.now ≤ t)
    (hunmarked : s.bot.isMarked phone t = false) :
    Kept phone { s with running := s.running ++ [⟨phone, false⟩], now := t } := by
  refine ⟨h.once, fun t' ht' => Int.le_trans (h.past t' ht') hnow, h.backed, .begun ?_ ?_⟩
  · have happ : handlersOf phone { s with running := s.running ++ [⟨phone, false⟩], now := t } =
        handlersOf phone s ++ [⟨phone, false⟩] := by
      simp [handlersOf]
    rw [happ, hnone, List.nil_append]
  · -- the mark was found expired, and it lasts as long as every window
    intro t' ht'
    obtain ⟨item, hitem, hle⟩ := h.phase.marked_of_nil hnone t' ht'
    have hover : ¬t ≤ item.expiration := by
      intro hle'
      rw [isMarked_eq_true_iff.2 ⟨item, hitem, hle'⟩] at hunmarked
      simp at hunmarked
    dsimp only
    omega

theorem Kept.call {pre post : List Handler} (h : Kept phone s)
    (hrunning : s.running = pre ++ ⟨phone, false⟩ :: post) (hnow : s.now ≤ time) :
    Kept phone {
      bot := s.bot.startCallback settings true phone time
      running := pre ++ ⟨phone, true⟩ :: post
      now := time } := by
  have hrecord : recordOf phone (s.bot.startCallback settings true phone time).trace =
      recordOf phone s.bot.trace ++
        [.called phone (some (originate settings phone settings.queueNum settings.queueId)) time] :=
    recordOf_log_about (by simp [Obs.about])
  have hcalls : callsOf (recordOf phone (s.bot.startCallback settings true phone time).trace) =
      callsOf (recordOf phone s.bot.trace) ++ [time] := by
    rw [hrecord, callsOf_append]
    rfl
  have hmem : (⟨phone, false⟩ : Handler) ∈ handlersOf phone s := by
    simp [handlersOf, hrunning]
  cases h.phase with
  | idle none marked => simp [none] at hmem
  | called one some => simp [one] at hmem
  | begun one past =>
    obtain ⟨-, hpre, hpost⟩ := filter_eq_nil_of_split rfl hrunning one
    refine ⟨?_, fun t' ht' => ?_, fun item hitem => ?_, .called ?_ ?_⟩
    · rw [hrecord]
      exact h.once.called fun t' ht' => Int.lt_of_lt_of_le (past t' ht') hnow
    · rw [hcalls] at ht'
      rcases List.mem_append.1 ht' with ht' | ht'
      · exact Int.le_trans (h.past t' ht') hnow
      · exact Int.le_of_eq (List.mem_singleton.1 ht')
    · rw [hcalls]
      simp
    · simp [handlersOf, hpre, hpost]
    · rw [hcalls]
      simp

theorem Kept.mark {pre post : List Handler} (h : Kept phone s)
    (hrunning : s.running = pre ++ ⟨phone, true⟩ :: post) (hnow : s.now ≤ time) :
    Kept phone { bot := s.bot.mark phone time, running := pre ++ post, now := time } := by
  have hmem : (⟨phone, true⟩ : Handler) ∈ handlersOf phone s := by
    simp [handlersOf, hrunning]
  cases h.phase with
  | idle none marked => simp [none] at hmem
  | begun one past => simp [one] at hmem
  | called one some =>
    obtain ⟨-, hpre, hpost⟩ := filter_eq_nil_of_split rfl hrunning one
    refine ⟨h.once, fun t' ht' => Int.le_trans (h.past t' ht') hnow, fun _ _ => some, .idle ?_ ?_⟩
    · simp [handlersOf, hpre, hpost]
    · intro t' ht'
      refine ⟨⟨"1", time + window⟩, by simp [Bot.mark, Expiring.Cache.set], ?_⟩
      have hpast := h.past t' ht'
      dsimp only
      omega

theorem recordOf_press : recordOf phone (b.press r digit).trace = recordOf phone b.trace := by
  unfold press playDtmf
  dsimp only
  split_ifs
  · rfl
  · exact recordOf_log rfl
  · rfl

theorem press_cache : (b.press r digit).cache = b.cache := by
  unfold press playDtmf
  dsimp only
  split_ifs <;> rfl

/-- Every step keeps what holds of every number. -/
theorem Kept.step (h : ∀ phone, Kept phone s) (hstep : Step settings s l s')
    (hallowed : Allowed s l) :
    ∀ phone, Kept phone s' := by
  intro n
  cases hstep with
  | ignored later request => exact (h n).frame rfl rfl rfl later
  | dtmf later request =>
    exact (h n).frame recordOf_press (by rw [press_cache]) rfl later
  | @flood r data phone later request marked =>
    unfold Allowed at hallowed
    dsimp only at hallowed
    rw [request] at hallowed
    by_cases hn : phone = n
    · subst hn
      exact (h phone).flood hallowed.1 later marked hallowed.2
    · exact (h n).frame (recordOf_log (by simp [Obs.about, hn])) rfl rfl later
  | @begin r data phone later request unmarked =>
    unfold Allowed at hallowed
    dsimp only at hallowed
    rw [request] at hallowed
    by_cases hn : phone = n
    · subst hn
      exact (h phone).begin hallowed.1 later unmarked
    · exact (h n).frame rfl rfl (by simp [handlersOf, hn]) later
  | @call pre post phone connected time later running =>
    obtain rfl : connected = true := hallowed
    by_cases hn : phone = n
    · subst hn
      exact (h phone).call running later
    · exact (h n).frame (recordOf_log (by simp [Obs.about, hn])) rfl
        (by simp [handlersOf, running, hn]) later
  | @mark pre post phone time later running =>
    by_cases hn : phone = n
    · subst hn
      exact (h phone).mark running later
    · exact (h n).frame rfl (mark_items_ne hn) (by simp [handlersOf, running, hn]) later

end number

/-- A callback is ordered once in every run in which a number is not pressed while another handler
of it runs, nor while its mark outlasts the window of its callback, and AMI is connected for
callbacks. -/
theorem ordered_of_run {settings : Settings} {t : ℤ} {ls : List Label} {s : Live}
    (h : Run (Restrict (Step settings) Allowed) { now := t } ls s) : Ordered s.bot := by
  have hkept : ∀ phone, Kept phone s := by
    refine h.invariant (fun s => ∀ phone, Kept phone s) ?_ fun phone => kept_initial
    rintro s l s' hs ⟨hstep, hallowed⟩
    exact Kept.step hs hstep hallowed
  exact fun phone => (hkept phone).once

/-! ## Runs -/

instance (phone : String) (t : ℤ) (s : Live) : Decidable (Outlasts phone t s) :=
  match hcall : (callsOf (recordOf phone s.bot.trace)).getLast?,
    hitem : s.bot.cache.items (dialKey phone) with
  | some t', some item =>
    decidable_of_iff (t' + window < t ∧ t ≤ item.expiration) (by simp [Outlasts, hcall, hitem])
  | none, _ => isFalse (by simp [Outlasts, hcall])
  | some _, none => isFalse (by simp [Outlasts, hitem])

instance (s : Live) : DecidablePred (Allowed s)
  | .press r data =>
    match h : requestOf data with
    | .dial phone =>
      decidable_of_iff (handlersOf phone s = [] ∧ ¬Outlasts phone (r.clock 0) s)
        (by simp only [Allowed, h])
    | .dtmf _ => isTrue (by simp only [Allowed, h])
    | .none => isTrue (by simp only [Allowed, h])
  | .call _ connected _ => inferInstanceAs (Decidable (connected = true))
  | .mark _ _ => isTrue trivial

/-- The handlers before the first that is `h`, and those behind it. -/
def splitAt (h : Handler) : List Handler → Option (List Handler × List Handler)
  | [] => none
  | g :: gs => if g = h then some ([], gs) else (splitAt h gs).map fun p => (g :: p.1, p.2)

theorem eq_of_splitAt {h : Handler} {hs pre post : List Handler}
    (hsplit : splitAt h hs = some (pre, post)) : hs = pre ++ h :: post := by
  induction hs generalizing pre post with
  | nil => simp [splitAt] at hsplit
  | cons g gs ih =>
    unfold splitAt at hsplit
    split_ifs at hsplit with heq
    · obtain ⟨rfl, rfl⟩ := Prod.mk.inj (Option.some.inj hsplit)
      simp [heq]
    · obtain ⟨⟨pre', post'⟩, hrest, hp⟩ := Option.map_eq_some_iff.1 hsplit
      obtain ⟨rfl, rfl⟩ := Prod.mk.inj hp
      simp [ih hrest]

/-- The step, computed. -/
def next (settings : Settings) (s : Live) : Label → Option Live
  | .press r data =>
    if s.now ≤ r.clock 0 then
      match requestOf data with
      | .none => some { s with now := r.clock 0 }
      | .dtmf digit => some { s with bot := s.bot.press r digit, now := r.clock 0 }
      | .dial phone =>
        if s.bot.isMarked phone (r.clock 0) then
          some { s with bot := s.bot.log (.flood phone (r.clock 0)), now := r.clock 0 }
        else some { s with running := s.running ++ [⟨phone, false⟩], now := r.clock 0 }
    else none
  | .call phone connected time =>
    if s.now ≤ time then
      (splitAt ⟨phone, false⟩ s.running).map fun p =>
        { bot := s.bot.startCallback settings connected phone time
          running := p.1 ++ ⟨phone, true⟩ :: p.2
          now := time }
    else none
  | .mark phone time =>
    if s.now ≤ time then
      (splitAt ⟨phone, true⟩ s.running).map fun p =>
        { bot := s.bot.mark phone time, running := p.1 ++ p.2, now := time }
    else none

theorem step_of_next {settings : Settings} {s s' : Live} {l : Label}
    (h : next settings s l = some s') : Step settings s l s' := by
  cases l with
  | press r data =>
    unfold next at h
    dsimp only at h
    split_ifs at h with hnow
    split at h
    · obtain rfl := Option.some.inj h
      exact .ignored hnow ‹_›
    · obtain rfl := Option.some.inj h
      exact .dtmf hnow ‹_›
    · split_ifs at h with hmarked
      · obtain rfl := Option.some.inj h
        exact .flood hnow ‹_› hmarked
      · obtain rfl := Option.some.inj h
        exact .begin hnow ‹_› (by simpa using hmarked)
  | call phone connected time =>
    unfold next at h
    dsimp only at h
    split_ifs at h with hnow
    obtain ⟨⟨pre, post⟩, hsplit, rfl⟩ := Option.map_eq_some_iff.1 h
    exact .call hnow (eq_of_splitAt hsplit)
  | mark phone time =>
    unfold next at h
    dsimp only at h
    split_ifs at h with hnow
    obtain ⟨⟨pre, post⟩, hsplit, rfl⟩ := Option.map_eq_some_iff.1 h
    exact .mark hnow (eq_of_splitAt hsplit)

/-- User 5 presses at some second. -/
def pressAt (seconds : ℤ) : Replies where
  senderId := 5
  channel _ := ""
  connected := true
  clock _ := seconds * second

/-- Two numbers at the same time, and the first again, too early and later. -/
def twoNumbers : List Label := [
  .press (pressAt 0) "dial:101", .press (pressAt 0) "dial:102",
  .call "102" true 0, .call "101" true second, .mark "101" (2 * second), .mark "102" (2 * second),
  .press (pressAt 5) "dial:101", .press (pressAt 13) "dial:101", .call "101" true (13 * second)]

theorem ordered_of_run_twoNumbers :
    (exec (guarded Allowed (next queueSettings)) { now := 0 } twoNumbers).isSome = true ∧
      ∀ s, exec (guarded Allowed (next queueSettings)) { now := 0 } twoNumbers = some s →
        Ordered s.bot :=
  ⟨by decide, fun _ h => ordered_of_run (Run.of_guarded (fun _ _ _ => step_of_next) h)⟩

/-- Two presses of one number, the second before the first is marked. -/
def pressedTwice : List Label := [
  .press (pressAt 0) "dial:101", .press (pressAt 1) "dial:101",
  .call "101" true second, .call "101" true (2 * second)]

theorem not_ordered_pressedTwice :
    ∃ s, Run (Step queueSettings) { now := 0 } pressedTwice s ∧ ¬Ordered s.bot := by
  refine ⟨_, Run.of_exec (fun _ _ _ => step_of_next) rfl, fun h => ?_⟩
  exact absurd (h "101").apart (by decide)

end Bot

end TelegramProvider
