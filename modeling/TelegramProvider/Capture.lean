import TelegramProvider.Playback

/-!
# What is recorded

The other way, the thread of PJSIP puts packets of 20 ms into the queue of `OpusEncoder`, each in
one of ten buffers, and a packet for which there is no buffer is dropped. The thread of the encoder
collects as many packets as a frame has and encodes them. `Stop` puts a `NULL` into the queue, so
that the thread does not wait for ever.

The queue has room for the ten packets and one `NULL`, and `Put` aborts the process if there is
more. The controller starts the encoder once. `captured_of_run` : then the process is not aborted,
every packet that is not dropped is encoded, in order and in frames of the right length, and a
packet is dropped only while ten others wait.
-/

set_option autoImplicit false

namespace TelegramProvider

open Pools Runs

open Playback (packetSize)

namespace Capture

/-- Where `RunThread` of the encoder is. -/
inductive Encoder
  | off
  | top
  | waiting
  | got (i : ℕ)
  | done (i : ℕ)

/-- What is recorded of a run. -/
inductive Event
  | accepted (pkt : List UInt8)
  | dropped (pkt : List UInt8)
  | consumed (pkt samples : List UInt8)
  | encoded (frame : List (List UInt8))
  | sent (frame : List (List UInt8))

/-- A frame of PJSIP : 960 samples. -/
abbrev Samples : Type :=
  { data : List UInt8 // data.length = packetSize }

end Capture

open Capture in
/-- `SoftwareAudioInput` and the `OpusEncoder` that is its callback. The packets of a frame that is
not complete are in `frame`. -/
structure Capture where
  isActive : Bool := false
  running : Bool := false
  complexity : ℕ := 10
  packetsPerFrame : ℕ
  queue : List (Option ℕ) := []
  bufferPool : Pool UInt8 := ⟨10, fun _ => false, fun _ => List.replicate packetSize 0⟩
  encoder : Encoder := .off
  frame : List (List UInt8) := []
  aborted : Bool := false
  log : List Event := []

namespace Capture

/-- `Put` of the queue, which has room for 11. -/
def put (packet : Option ℕ) (s : Capture) : Capture :=
  if 11 < (s.queue ++ [packet]).length then { s with aborted := true }
  else { s with queue := s.queue ++ [packet] }

/-- `Callback` of the encoder. -/
def callback (data : Samples) (s : Capture) : Capture :=
  match s.bufferPool.get with
  | none => { s with
      complexity := if 1 < s.complexity then s.complexity - 1 else s.complexity
      log := s.log ++ [.dropped data] }
  | some (i, pool) => put (some i) { s with
      bufferPool := pool.write i data
      log := s.log ++ [.accepted data] }

/-- `PutFrameCallback` of the input, where a frame without audio is skipped. -/
def putFrameCallback (frame : Option Samples) (s : Capture) : Capture :=
  match frame with
  | none => s
  | some data => if !s.isActive then s else s.callback data

/-- `Encode`, where `r` is what `opus_encode` returns. -/
def encode (frame : List (List UInt8)) (r : ℤ) (s : Capture) : Capture :=
  if r ≤ 0 then { s with log := s.log ++ [.encoded frame] }
  else if r = 1 then { s with log := s.log ++ [.encoded frame] }
  else if s.running then { s with log := s.log ++ [.encoded frame, .sent frame] }
  else { s with log := s.log ++ [.encoded frame] }

/-- A packet of `RunThread`, as the echo canceller and the effects leave it. -/
def collect (samples : List UInt8) (r : ℤ) (s : Capture) : Capture :=
  if s.packetsPerFrame = 1 then s.encode [samples] r
  else if (s.frame ++ [samples]).length = s.packetsPerFrame then
    { s.encode (s.frame ++ [samples]) r with frame := [] }
  else { s with frame := s.frame ++ [samples] }

/-- A step of `RunThread`. -/
def runThread (samples : List UInt8) (r : ℤ) (s : Capture) : Option Capture :=
  match s.encoder with
  | .off => none
  | .top =>
    if s.running then some { s with encoder := .waiting } else some { s with encoder := .off }
  | .waiting =>
    match s.queue with
    | [] => none
    | none :: queue => some { s with queue, encoder := .top }
    | some i :: queue => some { s with queue, encoder := .got i }
  | .got i => some (collect samples r { s with
      encoder := .done i
      log := s.log ++ [.consumed (s.bufferPool.read i packetSize) samples] })
  | .done i =>
    match s.bufferPool.reuse (some i) with
    | none => some { s with aborted := true }
    | some bufferPool => some { s with bufferPool, encoder := .top }

/-- `Start`. It does not come before the thread of the last one has ended. -/
def start (s : Capture) : Option Capture :=
  if s.running then some s
  else match s.encoder with
    | .off => some { s with running := true, encoder := .top, frame := [] }
    | _ => none

/-- `Stop`, up to where it waits for the thread. -/
def stop (s : Capture) : Capture :=
  if !s.running then s else put none { s with running := false }

/-- What happens to the input and the encoder. -/
inductive Label
  | activate (isActive : Bool)
  | putFrame (frame : Option Samples)
  | runThread (samples : List UInt8) (r : ℤ)
  | start
  | stop

/-- What happens next, if it can. -/
def next (s : Capture) (l : Label) : Option Capture :=
  if s.aborted then none
  else match l with
    | .activate isActive => some { s with isActive }
    | .putFrame frame => some (s.putFrameCallback frame)
    | .runThread samples r => s.runThread samples r
    | .start => s.start
    | .stop => some s.stop

/-- A step of a thread or of the controller. -/
def Step (s : Capture) (l : Label) (s' : Capture) : Prop :=
  s.next l = some s'

/-! ## What is on record -/

/-- The packets that got a buffer. -/
def accepted (s : Capture) : List (List UInt8) :=
  s.log.filterMap fun
    | .accepted pkt => some pkt
    | _ => none

/-- The packets that did not. -/
def dropped (s : Capture) : List (List UInt8) :=
  s.log.filterMap fun
    | .dropped pkt => some pkt
    | _ => none

/-- The packets the encoder has taken from the queue, and what the effects left of them. -/
def consumed (s : Capture) : List (List UInt8 × List UInt8) :=
  s.log.filterMap fun
    | .consumed pkt samples => some (pkt, samples)
    | _ => none

/-- The frames that were encoded. -/
def encoded (s : Capture) : List (List (List UInt8)) :=
  s.log.filterMap fun
    | .encoded frame => some frame
    | _ => none

/-- The frames that went to the network. -/
def sent (s : Capture) : List (List (List UInt8)) :=
  s.log.filterMap fun
    | .sent frame => some frame
    | _ => none

/-- The buffer the encoder has. -/
def Encoder.holds : Encoder → List ℕ
  | .got i | .done i => [i]
  | _ => []

/-- The buffer of the packet the encoder has yet to read. -/
def Encoder.unread : Encoder → List ℕ
  | .got i => [i]
  | _ => []

/-- The buffers in use. -/
def held (s : Capture) : List ℕ :=
  s.encoder.holds ++ s.queue.filterMap id

/-- The packets that wait for the encoder. -/
def waiting (s : Capture) : List (List UInt8) :=
  (s.encoder.unread ++ s.queue.filterMap id).map fun i => s.bufferPool.read i packetSize

/-- The `NULL`s in the queue. -/
def nulls (s : Capture) : ℕ :=
  s.queue.countP Option.isNone

/-! ## Steps -/

/-- What a step does while nothing aborts. -/
inductive Moved (s : Capture) : Label → Capture → Prop
  | activate (isActive : Bool) : Moved s (.activate isActive) { s with isActive }
  | skip (frame : Option Samples) : Moved s (.putFrame frame) s
  | drop (data : Samples) : s.bufferPool.get = none →
      Moved s (.putFrame (some data)) { s with
        complexity := if 1 < s.complexity then s.complexity - 1 else s.complexity
        log := s.log ++ [.dropped data] }
  | accept (data : Samples) (i : ℕ) (pool : Pool UInt8) : s.bufferPool.get = some (i, pool) →
      Moved s (.putFrame (some data)) { s with
        bufferPool := pool.write i data
        log := s.log ++ [.accepted data]
        queue := s.queue ++ [some i] }
  | top (samples : List UInt8) (r : ℤ) : s.encoder = .top → s.running = true →
      Moved s (.runThread samples r) { s with encoder := .waiting }
  | leave (samples : List UInt8) (r : ℤ) : s.encoder = .top → s.running = false →
      Moved s (.runThread samples r) { s with encoder := .off }
  | null (samples : List UInt8) (r : ℤ) (queue : List (Option ℕ)) : s.encoder = .waiting →
      s.queue = none :: queue → Moved s (.runThread samples r) { s with queue, encoder := .top }
  | get (samples : List UInt8) (r : ℤ) (i : ℕ) (queue : List (Option ℕ)) : s.encoder = .waiting →
      s.queue = some i :: queue →
      Moved s (.runThread samples r) { s with queue, encoder := .got i }
  | collect (samples : List UInt8) (r : ℤ) (i : ℕ) : s.encoder = .got i →
      Moved s (.runThread samples r) (collect samples r { s with
        encoder := .done i
        log := s.log ++ [.consumed (s.bufferPool.read i packetSize) samples] })
  | reuse (samples : List UInt8) (r : ℤ) (i : ℕ) (bufferPool : Pool UInt8) : s.encoder = .done i →
      s.bufferPool.reuse (some i) = some bufferPool →
      Moved s (.runThread samples r) { s with bufferPool, encoder := .top }
  | start : s.running = false → s.encoder = .off →
      Moved s .start { s with running := true, encoder := .top, frame := [] }
  | started : s.running = true → Moved s .start s
  | stop : s.running = true →
      Moved s .stop { s with running := false, queue := s.queue ++ [none] }
  | stopped : s.running = false → Moved s .stop s

variable {s s' : Capture} {l : Label} {ls : List Label} {n : ℕ}

/-- Buffers and `NULL`s are where they should be, after `n` calls of `Start`. -/
structure Sane (n : ℕ) (s : Capture) : Prop where
  going : s.aborted = false
  count : s.bufferPool.count = 10
  holds : s.bufferPool.Holds s.held
  few : s.nulls + s.running.toNat ≤ n
  fresh : n = 0 → s.encoder = .off ∧ s.frame = []

theorem sane_init (packetsPerFrame : ℕ) : Sane 0 { packetsPerFrame } where
  going := rfl
  count := rfl
  holds := ⟨List.nodup_nil, by simp [held, Encoder.holds]⟩
  few := Nat.le_refl _
  fresh _ := ⟨rfl, rfl⟩

theorem length_queue (s : Capture) :
    s.queue.length = (s.queue.filterMap id).length + s.nulls := by
  unfold nulls
  induction s.queue with
  | nil => rfl
  | cons packet queue ih => cases packet <;> simp [ih] <;> omega

/-- What a step does, if the encoder was started once. -/
theorem Sane.moved (h : Sane n s) (hn : n ≤ 1) (hstep : Step s l s') : Moved s l s' := by
  have hgoing : ¬ s.aborted = true := by simp [h.going]
  have hholds := h.holds
  have hlen := hholds.length_le
  simp only [h.count, held, List.length_append] at hlen
  have hqueue := s.length_queue
  have hfew := h.few
  unfold Step next at hstep
  rw [if_neg hgoing] at hstep
  cases l with
  | activate isActive =>
    obtain rfl := Option.some.inj hstep
    exact .activate isActive
  | putFrame frame =>
    obtain rfl := Option.some.inj hstep
    cases frame with
    | none => exact .skip none
    | some data =>
      simp only [putFrameCallback]
      split_ifs
      · exact .skip _
      simp only [callback]
      split
      · rename_i hget
        exact .drop data hget
      · rename_i i pool hget
        -- the new packet is in a buffer of its own
        obtain ⟨-, rfl, hholds'⟩ := hholds.of_get hget
        have hmore := hholds'.length_le
        simp only [h.count, held, List.length_cons, List.length_append] at hmore
        have hroom : ¬ 11 < (s.queue ++ [some i]).length := by
          simp only [List.length_append, List.length_cons, List.length_nil]
          omega
        simp only [put, if_neg hroom]
        exact .accept data i _ hget
  | runThread samples r =>
    simp only [runThread] at hstep
    split at hstep
    · cases hstep
    · rename_i htop
      split_ifs at hstep with hrunning <;> obtain rfl := Option.some.inj hstep
      · exact .top samples r htop hrunning
      · exact .leave samples r htop (by simpa using hrunning)
    · rename_i hwaiting
      split at hstep
      · cases hstep
      · rename_i queue hnull
        obtain rfl := Option.some.inj hstep
        exact .null samples r queue hwaiting hnull
      · rename_i i queue hsome
        obtain rfl := Option.some.inj hstep
        exact .get samples r i queue hwaiting hsome
    · rename_i i hgot
      obtain rfl := Option.some.inj hstep
      exact .collect samples r i hgot
    · rename_i i hdone
      simp only [held, hdone, Encoder.holds] at hholds
      obtain ⟨hreuse, -⟩ := hholds.exists_reuse_head
      rw [hreuse] at hstep
      obtain rfl := Option.some.inj hstep
      exact .reuse samples r i _ hdone hreuse
  | start =>
    simp only [start] at hstep
    split_ifs at hstep with hrunning
    · obtain rfl := Option.some.inj hstep
      exact .started hrunning
    · split at hstep
      · rename_i hoff
        obtain rfl := Option.some.inj hstep
        exact .start (by simpa using hrunning) hoff
      · cases hstep
  | stop =>
    obtain rfl := Option.some.inj hstep
    unfold stop
    split_ifs with hrunning
    · exact .stopped (by simpa using hrunning)
    · have hon : s.running = true := by simpa using hrunning
      rw [hon, Bool.toNat_true] at hfew
      have hroom : ¬ 11 < (s.queue ++ [none]).length := by
        simp only [List.length_append, List.length_cons, List.length_nil]
        omega
      simp only [put, if_neg hroom]
      exact .stop hon

/-- A call of `Start`. -/
def Label.isStart : Label → Bool
  | .start => true
  | _ => false

/-- What `collect` does not touch. -/
theorem collect_frame (samples : List UInt8) (r : ℤ) : ∃ frame log,
    s.collect samples r = { s with frame, log } := by
  unfold collect encode
  split_ifs <;> exact ⟨_, _, rfl⟩

/-- What a step does to buffers and `NULL`s. -/
theorem Sane.step (h : Sane n s) (hmoved : Moved s l s') :
    Sane (n + if l.isStart then 1 else 0) s' := by
  obtain ⟨hgoing, hcount, hholds, hfew, hfresh⟩ := h
  have hpos (encoder : Encoder) (hencoder : s.encoder = encoder) (hne : encoder ≠ .off) : n ≠ 0 :=
    fun hzero => hne (hencoder.symm.trans (hfresh hzero).1)
  cases hmoved with
  | activate => exact ⟨hgoing, hcount, hholds, hfew, hfresh⟩
  | skip => exact ⟨hgoing, hcount, hholds, hfew, hfresh⟩
  | drop => exact ⟨hgoing, hcount, hholds, hfew, hfresh⟩
  | accept data i pool hget =>
    obtain ⟨-, rfl, hholds'⟩ := hholds.of_get hget
    refine ⟨hgoing, hcount, (hholds'.perm ?_).write i data, ?_, hfresh⟩
    · simpa [held, ← List.append_assoc] using (List.perm_append_singleton _ _).symm
    · simpa [nulls, Label.isStart] using hfew
  | top samples r htop hrunning =>
    refine ⟨hgoing, hcount, ?_, hfew, fun hzero => absurd hzero (hpos _ htop (by simp))⟩
    simpa [held, htop, Encoder.holds] using hholds
  | leave samples r htop hrunning =>
    refine ⟨hgoing, hcount, ?_, hfew, fun hzero => absurd hzero (hpos _ htop (by simp))⟩
    simpa [held, htop, Encoder.holds] using hholds
  | null samples r queue hwaiting hnull =>
    refine ⟨hgoing, hcount, ?_, ?_, fun hzero => absurd hzero (hpos _ hwaiting (by simp))⟩
    · simpa [held, hwaiting, hnull, Encoder.holds] using hholds
    · simp only [nulls, hnull, List.countP_cons] at hfew
      exact Nat.le_trans (Nat.add_le_add_right (Nat.le_add_right _ _) _) hfew
  | get samples r i queue hwaiting hsome =>
    refine ⟨hgoing, hcount, ?_, ?_, fun hzero => absurd hzero (hpos _ hwaiting (by simp))⟩
    · simpa [held, hwaiting, hsome, Encoder.holds] using hholds
    · simpa [nulls, hsome, Label.isStart] using hfew
  | collect samples r i hgot =>
    obtain ⟨frame, log, heq⟩ := collect_frame samples r
    rw [heq]
    refine ⟨hgoing, hcount, ?_, hfew, fun hzero => absurd hzero (hpos _ hgot (by simp))⟩
    simpa [held, hgot, Encoder.holds] using hholds
  | reuse samples r i bufferPool hdone hreuse =>
    simp only [held, hdone, Encoder.holds] at hholds
    obtain ⟨hreuse', hholds'⟩ := hholds.exists_reuse_head
    obtain rfl := Option.some.inj (hreuse.symm.trans hreuse')
    exact ⟨hgoing, hcount, by simpa [held, Encoder.holds] using hholds', hfew,
      fun hzero => absurd hzero (hpos _ hdone (by simp))⟩
  | start hrunning hoff =>
    refine ⟨hgoing, hcount, ?_, ?_, fun hzero => absurd hzero (Nat.succ_ne_zero n)⟩
    · simpa [held, hoff, Encoder.holds] using hholds
    · simpa [nulls, hrunning, Label.isStart] using hfew
  | started =>
    exact ⟨hgoing, hcount, hholds, Nat.le_trans hfew (Nat.le_add_right _ _),
      fun hzero => absurd hzero (Nat.succ_ne_zero n)⟩
  | stop hrunning =>
    refine ⟨hgoing, hcount, ?_, ?_, hfresh⟩
    · simpa [held] using hholds
    · simpa [nulls, hrunning, Label.isStart] using hfew
  | stopped => exact ⟨hgoing, hcount, hholds, hfew, hfresh⟩

/-- The packets are where they should be. -/
structure Orderly (s : Capture) : Prop where
  order : s.accepted = s.consumed.map Prod.fst ++ s.waiting
  frames : s.encoded.flatten ++ s.frame = s.consumed.map Prod.snd
  whole : ∀ frame ∈ s.encoded, frame.length = s.packetsPerFrame
  short : s.frame.length < s.packetsPerFrame
  sub : s.sent.Sublist s.encoded
  worse : s.complexity = max 1 (10 - s.dropped.length)

theorem orderly_init {packetsPerFrame : ℕ} (hpos : 0 < packetsPerFrame) :
    Orderly { packetsPerFrame } :=
  ⟨rfl, rfl, by simp [encoded], hpos, List.Sublist.refl _, rfl⟩

theorem encode_cases (frame : List (List UInt8)) (r : ℤ) :
    s.encode frame r = { s with log := s.log ++ [.encoded frame] } ∨
      s.encode frame r = { s with log := s.log ++ [.encoded frame, .sent frame] } := by
  unfold encode
  split_ifs <;> simp

/-- What `collect` does : the packet completes a frame, or it does not. -/
theorem collect_cases (s : Capture) (samples : List UInt8) (r : ℤ)
    (hshort : s.frame.length < s.packetsPerFrame) :
    (s.frame.length + 1 = s.packetsPerFrame ∧
      (s.collect samples r = { s with
          frame := []
          log := s.log ++ [.encoded (s.frame ++ [samples])] } ∨
        s.collect samples r = { s with
          frame := []
          log := s.log ++ [.encoded (s.frame ++ [samples]), .sent (s.frame ++ [samples])] })) ∨
    (s.frame.length + 1 < s.packetsPerFrame ∧
      s.collect samples r = { s with frame := s.frame ++ [samples] }) := by
  unfold collect
  split_ifs with hone hfull
  · have hnil : s.frame = [] := List.length_eq_zero_iff.1 (by omega)
    refine .inl ⟨by simp [hnil, hone], ?_⟩
    rcases encode_cases [samples] r with heq | heq <;> rw [heq] <;> simp [hnil]
  · refine .inl ⟨by simpa using hfull, ?_⟩
    rcases encode_cases (s.frame ++ [samples]) r with heq | heq <;> rw [heq] <;> simp
  · refine .inr ⟨?_, rfl⟩
    simp only [List.length_append, List.length_cons, List.length_nil] at hfull
    omega

/-- A packet waits as it was written to its buffer, and the others stay as they are. -/
theorem Sane.waiting_of_accept (h : Sane n s) (data : Samples) {i : ℕ} {pool : Pool UInt8}
    (hget : s.bufferPool.get = some (i, pool)) :
    ((s.encoder.unread ++ (s.queue ++ [some i]).filterMap id).map fun j =>
      (pool.write i data).read j packetSize) = s.waiting ++ [data.1] := by
  have hself : (pool.write i data).read i packetSize = data := Pool.read_write_of_length data.2
  have hold : ∀ j ∈ s.encoder.unread ++ s.queue.filterMap id,
      (pool.write i data).read j packetSize = s.bufferPool.read j packetSize := fun j hj => by
    refine h.holds.read_write_of_get hget ?_
    rcases List.mem_append.1 hj with hread | hqueue
    · refine List.mem_append_left _ ?_
      cases hencoder : s.encoder <;> simp_all [Encoder.unread, Encoder.holds]
    · exact List.mem_append_right _ hqueue
  rw [List.filterMap_append, ← List.append_assoc, List.map_append, List.map_congr_left hold]
  simp [waiting, hself]

/-- What a step does to the packets, if the encoder was started once. -/
theorem Orderly.step (h : Orderly s) (hsane : Sane n s) (hmoved : Moved s l s')
    (hn : (n + if l.isStart then 1 else 0) ≤ 1) : Orderly s' := by
  obtain ⟨horder, hframes, hwhole, hshort, hsub, hworse⟩ := h
  cases hmoved with
  | activate => exact ⟨horder, hframes, hwhole, hshort, hsub, hworse⟩
  | skip => exact ⟨horder, hframes, hwhole, hshort, hsub, hworse⟩
  | drop =>
    refine ⟨by simpa [accepted, consumed, waiting] using horder,
      by simpa [encoded, consumed] using hframes,
      by simpa [encoded] using hwhole, hshort, by simpa [sent, encoded] using hsub, ?_⟩
    simp only [dropped, List.filterMap_append, List.length_append] at hworse ⊢
    simp
    split_ifs <;> omega
  | accept data i pool hget =>
    refine ⟨?_, by simpa [encoded, consumed] using hframes, by simpa [encoded] using hwhole, hshort,
      by simpa [sent, encoded] using hsub, by simpa [dropped] using hworse⟩
    have hwaiting := hsane.waiting_of_accept data hget
    simp only [accepted, consumed, waiting] at horder hwaiting ⊢
    rw [hwaiting]
    simp [horder]
  | top samples r htop hrunning =>
    refine ⟨?_, hframes, hwhole, hshort, hsub, hworse⟩
    simpa [accepted, consumed, waiting, htop, Encoder.unread] using horder
  | leave samples r htop hrunning =>
    refine ⟨?_, hframes, hwhole, hshort, hsub, hworse⟩
    simpa [accepted, consumed, waiting, htop, Encoder.unread] using horder
  | null samples r queue hwaiting hnull =>
    refine ⟨?_, hframes, hwhole, hshort, hsub, hworse⟩
    simpa [accepted, consumed, waiting, hwaiting, hnull, Encoder.unread] using horder
  | get samples r i queue hwaiting hsome =>
    refine ⟨?_, hframes, hwhole, hshort, hsub, hworse⟩
    simpa [accepted, consumed, waiting, hwaiting, hsome, Encoder.unread] using horder
  | collect samples r i hgot =>
    simp only [accepted, consumed, waiting, encoded, sent, dropped, hgot, Encoder.unread]
      at horder hframes hwhole hsub hworse
    have hless : ([] : List (List UInt8)).length < s.packetsPerFrame :=
      Nat.lt_of_le_of_lt (Nat.zero_le _) hshort
    rcases collect_cases { s with
      encoder := .done i
      log := s.log ++ [.consumed (s.bufferPool.read i packetSize) samples] } samples r hshort
      with ⟨hfull, heq | heq⟩ | ⟨hmore, heq⟩ <;> rw [heq]
    · refine ⟨?_, ?_, ?_, hless, ?_, by simpa [dropped] using hworse⟩
      · simpa [accepted, consumed, waiting, Encoder.unread] using horder
      · simp [encoded, consumed, ← hframes]
      · simpa [encoded, or_imp, forall_and, hfull] using hwhole
      · simpa [sent, encoded] using hsub.trans (List.sublist_append_left _ [s.frame ++ [samples]])
    · refine ⟨?_, ?_, ?_, hless, ?_, by simpa [dropped] using hworse⟩
      · simpa [accepted, consumed, waiting, Encoder.unread] using horder
      · simp [encoded, consumed, ← hframes]
      · simpa [encoded, or_imp, forall_and, hfull] using hwhole
      · simpa [sent, encoded] using hsub.append_right [s.frame ++ [samples]]
    · refine ⟨?_, ?_, by simpa [encoded] using hwhole, by simpa using hmore,
        by simpa [sent, encoded] using hsub, by simpa [dropped] using hworse⟩
      · simpa [accepted, consumed, waiting, Encoder.unread] using horder
      · simp [encoded, consumed, ← hframes]
  | reuse samples r i bufferPool hdone hreuse =>
    refine ⟨?_, hframes, hwhole, hshort, hsub, hworse⟩
    simpa [accepted, consumed, waiting, hdone, Encoder.unread, Pool.read_of_reuse hreuse]
      using horder
  | start hrunning hoff =>
    -- this is the first time, so no frame has begun
    have hnil := (hsane.fresh (Nat.le_zero.1 (Nat.le_of_succ_le_succ hn))).2
    refine ⟨?_, by simpa [encoded, consumed, hnil] using hframes, hwhole,
      Nat.lt_of_le_of_lt (Nat.zero_le _) hshort, hsub, hworse⟩
    simpa [accepted, consumed, waiting, hoff, Encoder.unread] using horder
  | started => exact ⟨horder, hframes, hwhole, hshort, hsub, hworse⟩
  | stop hrunning =>
    refine ⟨?_, hframes, hwhole, hshort, hsub, hworse⟩
    simpa [accepted, consumed, waiting] using horder
  | stopped => exact ⟨horder, hframes, hwhole, hshort, hsub, hworse⟩

theorem packetsPerFrame_of_moved (hmoved : Moved s l s') :
    s'.packetsPerFrame = s.packetsPerFrame := by
  cases hmoved with
  | collect samples r i hgot =>
    obtain ⟨frame, log, heq⟩ := collect_frame samples r
    rw [heq]
  | _ => rfl

theorem orderly_of_run {packetsPerFrame : ℕ} (hpos : 0 < packetsPerFrame)
    (hrun : Run Step { packetsPerFrame } ls s) (hstarts : ls.countP Label.isStart ≤ 1) :
    Sane (ls.countP Label.isStart) s ∧ Orderly s ∧ s.packetsPerFrame = packetsPerFrame := by
  induction hrun with
  | nil => exact ⟨sane_init packetsPerFrame, orderly_init hpos, rfl⟩
  | snoc _ hs ih =>
    rw [List.countP_append, List.countP_singleton] at hstarts ⊢
    have hbefore := Nat.le_trans (Nat.le_add_right _ _) hstarts
    obtain ⟨hsane, horderly, hsame⟩ := ih hbefore
    have hmoved := hsane.moved hbefore hs
    exact ⟨hsane.step hmoved, horderly.step hsane hmoved hstarts,
      (packetsPerFrame_of_moved hmoved).trans hsame⟩

/-- A packet is dropped only while all ten buffers are in use. -/
theorem Sane.full_of_drop (h : Sane n s) (hmoved : Moved s l s') (hdrop : s'.dropped ≠ s.dropped) :
    s.held.length = 10 := by
  cases hmoved with
  | drop data hget =>
    have hle := h.holds.length_le
    have hge := h.holds.le_length hget
    rw [h.count] at hle hge
    exact Nat.le_antisymm hle hge
  | accept => simp [dropped] at hdrop
  | collect samples r i hgot =>
    refine absurd ?_ hdrop
    unfold collect encode
    split_ifs <;> simp [dropped]
  | _ => exact absurd rfl hdrop

/-- In every run in which the encoder is started once, the process is not aborted. Each packet that
got a buffer waits or was taken from the queue in its turn, and what was taken is what was encoded,
in frames of `packetsPerFrame` packets, and the frame that has begun. A packet gets no buffer only
while ten others wait, and makes the encoder work less. -/
theorem captured_of_run {packetsPerFrame : ℕ} (hpos : 0 < packetsPerFrame)
    (hrun : Run Step { packetsPerFrame } ls s) (hstarts : ls.countP Label.isStart ≤ 1) :
    s.aborted = false ∧ s.accepted = s.consumed.map Prod.fst ++ s.waiting ∧
      s.encoded.flatten ++ s.frame = s.consumed.map Prod.snd ∧
      (∀ frame ∈ s.encoded, frame.length = packetsPerFrame) ∧ s.frame.length < packetsPerFrame ∧
      s.sent.Sublist s.encoded ∧ s.complexity = max 1 (10 - s.dropped.length) ∧
      ∀ l s', Step s l s' → s'.dropped ≠ s.dropped → s.held.length = 10 := by
  obtain ⟨hsane, hord, rfl⟩ := orderly_of_run hpos hrun hstarts
  exact ⟨hsane.going, hord.order, hord.frames, hord.whole, hord.short, hord.sub, hord.worse,
    fun _ _ hs => hsane.full_of_drop (hsane.moved hstarts hs)⟩

theorem run_of_exec (s₀ : Capture) (ls : List Label) (h : exec next s₀ ls = some s) :
    Run Step s₀ ls s :=
  Run.of_exec (fun _ _ _ hs => hs) h

/-- A packet of one tone. -/
def tone (byte : UInt8) : Samples :=
  ⟨List.replicate packetSize byte, List.length_replicate⟩

/-- The first two packets of a call make a frame of 40 ms, and the third waits. -/
def firstFrame : List Label :=
  [.start, .activate true, .putFrame (some (tone 1)), .putFrame none, .putFrame (some (tone 2))] ++
    List.replicate 8 (.runThread [] 40) ++ [.putFrame (some (tone 3))]

theorem captured_of_run_firstFrame : ∃ s, Run Step { packetsPerFrame := 2 } firstFrame s ∧
    s.aborted = false ∧ s.sent ≠ [] ∧ s.accepted = s.consumed.map Prod.fst ++ s.waiting := by
  have hrun := run_of_exec { packetsPerFrame := 2 } firstFrame rfl
  obtain ⟨hgoing, horder, -⟩ := captured_of_run (by decide) hrun (by decide)
  exact ⟨_, hrun, hgoing, List.cons_ne_nil _ _, horder⟩

/-- With a second `Start` a second `Stop` may abort the process : ten packets wait behind the `NULL`
of the first. -/
example : ((exec next { packetsPerFrame := 1 } ([.start, .activate true, .stop,
    .runThread [] 0, .start, .runThread [] 0] ++ List.replicate 10 (.putFrame (some (tone 1))) ++
    [.stop])).map aborted) = some true := by
  rfl

end Capture

end TelegramProvider
