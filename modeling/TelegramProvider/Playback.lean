import TelegramProvider.JitterBuffer
import TelegramProvider.Runs

/-!
# What is played

Two threads meet in `OpusDecoder`. Its own thread asks the jitter buffer for a frame, cuts it into
packets of 20 ms and puts them into a queue, one for each permit of a semaphore. The thread of PJSIP
asks `SoftwareAudioOutput` for 10 ms at a time : every other time it takes a packet from the queue,
waiting until there is one, and gives the permit back. The first request makes two permits.

Each packet in the queue is in a buffer of a pool. `Sane` says where the permits and the buffers
are, and `Sane.moved` what a step does then : no buffer is given back that is not the pool's, and
the queue has room for every packet.
-/

set_option autoImplicit false

namespace TelegramProvider

open Pools Runs

/-- What `HandleOutput` asks to play is 40, 60 or 80 ms. -/
theorem JitterBuffer.duration_of_handleOutput {c : Config} {len d : ℕ} {offset : ℤ} {adv : Bool}
    {b b' : JitterBuffer} {got : Got} (h : b.handleOutput c len offset adv = some (got, d, b')) :
    d = 40 ∨ d = 60 ∨ d = 80 := by
  obtain ⟨b₁, -, h⟩ := Option.bind_eq_some_iff.1 h
  obtain ⟨⟨got', b₂⟩, -, h⟩ := Option.map_eq_some_iff.1 h
  dsimp only at h
  split_ifs at h <;> simp only [Prod.mk.injEq] at h <;> omega

namespace Playback

/-- `PACKET_SIZE` : the bytes of 20 ms. -/
def packetSize : ℕ := 960 * 2

/-- The bytes of 20 ms of silence. -/
def zeros : List UInt8 :=
  List.replicate packetSize 0

theorem length_zeros : zeros.length = packetSize := by simp [zeros]

/-- What `DecodeNextFrame` leaves : the duration the jitter buffer asks for, `processedBuffer` after
the effects, and whether `remainingDataLen` is above zero. -/
structure Frame where
  playbackDuration : ℕ
  processedBuffer : List UInt8
  hasData : Bool
  hduration : playbackDuration = 40 ∨ playbackDuration = 60 ∨ playbackDuration = 80
  hbuffer : processedBuffer.length = 8192

/-- The packets of a frame. -/
def Frame.packets (frame : Frame) : List (List UInt8) :=
  (List.range (frame.playbackDuration / 20)).map fun i =>
    if frame.hasData then (frame.processedBuffer.drop (packetSize * i)).take packetSize
    else zeros

/-- Where `RunThread` of the decoder is. -/
inductive Decoder
  | off
  | top
  | packets (todo : List (List UInt8))
  | permitted (pkt : List UInt8) (todo : List (List UInt8))
  | copied (i : ℕ) (todo : List (List UInt8))

/-- Where the request of PJSIP is : there is none, it waits in `GetBlocking`, or it has the packet
of a buffer. -/
inductive Player
  | idle
  | waiting
  | copied (i : ℕ)

/-- What is recorded of a run. -/
inductive Sound
  | decoded (pkt : List UInt8)
  | lost (pkt : List UInt8)
  | queued (pkt : List UInt8)
  | taken (pkt : List UInt8)
  | silence
  | heard (bytes : List UInt8)

end Playback

open Playback in
/-- `SoftwareAudioOutput` and the `OpusDecoder` that is its callback. -/
structure Playback where
  isActive : Bool := false
  readBuffer : Bool := true
  buffer : List UInt8
  running : Bool := false
  outputBufferSize : ℕ := 0
  bufferPool : Pool UInt8 := ⟨32, fun _ => false, fun _ => List.replicate packetSize 0⟩
  decodedQueue : List ℕ := []
  semaphore : ℕ := 0
  decoder : Decoder := .off
  player : Player := .idle
  aborted : Bool := false
  log : List Sound := []

namespace Playback

/-- The bytes of a half of the buffer go to PJSIP. -/
def playHalf (s : Playback) : Playback := { s with
  readBuffer := !s.readBuffer
  log := s.log ++ [.heard (if s.readBuffer then s.buffer.take 960
    else (s.buffer.drop 960).take 960)] }

/-- `packetsNeeded` of the first call. -/
def packetsNeeded (len : ℕ) : ℕ :=
  (if packetSize < len then len / packetSize else 1) * 2

/-- `GetFrameCallback` of the output, up to `GetBlocking` if it needs a packet. -/
def getFrameCallback (s : Playback) : Option Playback :=
  match s.player with
  | .idle =>
    if !s.isActive then some s
    else if !s.readBuffer then some s.playHalf
    else if !s.running then some (playHalf { s with
      buffer := zeros
      log := s.log ++ [.silence] })
    else if s.outputBufferSize = 0 then some { s with
      outputBufferSize := packetSize
      semaphore := s.semaphore + packetsNeeded packetSize
      player := .waiting }
    else some { s with player := .waiting }
  | _ => none

/-- `GetBlocking` returns a packet, which is copied. -/
def take (s : Playback) : Option Playback :=
  match s.player, s.decodedQueue with
  | .waiting, i :: queue => some { s with
      buffer := s.bufferPool.read i packetSize
      decodedQueue := queue
      player := .copied i
      log := s.log ++ [.taken (s.bufferPool.read i packetSize)] }
  | _, _ => none

/-- The buffer and the permit are given back, and `GetFrameCallback` returns. -/
def giveBack (s : Playback) : Option Playback :=
  match s.player with
  | .copied i =>
    match s.bufferPool.reuse (some i) with
    | none => some { s with aborted := true }
    | some pool => some (playHalf { s with
        bufferPool := pool
        semaphore := s.semaphore + 1
        player := .idle })
  | _ => none

/-- A step of `RunThread`, where the frame is what `DecodeNextFrame` would return. `Put` aborts the
process if more than 33 packets are in the queue. -/
def decode (frame : Frame) (s : Playback) : Option Playback :=
  match s.decoder with
  | .off => none
  | .top =>
    if s.running then some { s with
      decoder := .packets frame.packets
      log := s.log ++ frame.packets.map .decoded }
    else some { s with decoder := .off }
  | .packets [] => some { s with decoder := .top }
  | .packets (pkt :: todo) =>
    if s.semaphore = 0 then none
    else some { s with semaphore := s.semaphore - 1, decoder := .permitted pkt todo }
  | .permitted pkt todo =>
    if !s.running then some { s with decoder := .off }
    else match s.bufferPool.get with
      | none => some { s with decoder := .packets todo, log := s.log ++ [.lost pkt] }
      | some (i, pool) => some { s with
          bufferPool := pool.write i pkt
          decoder := .copied i todo }
  | .copied i todo =>
    if 33 < (s.decodedQueue ++ [i]).length then some { s with aborted := true }
    else some { s with
      decodedQueue := s.decodedQueue ++ [i]
      decoder := .packets todo
      log := s.log ++ [.queued (s.bufferPool.read i packetSize)] }

/-- `Start` of the decoder, which the controller calls when there is no thread. -/
def start (s : Playback) : Option Playback :=
  match s.running, s.decoder with
  | false, .off => some { s with running := true, decoder := .top }
  | _, _ => none

/-- `Stop` of the decoder. What the controller does next waits for the end of the thread. -/
def stop (s : Playback) : Playback :=
  if s.running then { s with running := false, semaphore := s.semaphore + 1 } else s

/-- What happens to the output and the decoder. -/
inductive Label
  | activate (isActive : Bool)
  | getFrame
  | take
  | giveBack
  | decode (frame : Frame)
  | start
  | stop

/-- What happens next, if it can. -/
def next (s : Playback) (l : Label) : Option Playback :=
  if s.aborted then none
  else match l with
    | .activate isActive => some { s with isActive }
    | .getFrame => s.getFrameCallback
    | .take => s.take
    | .giveBack => s.giveBack
    | .decode frame => s.decode frame
    | .start => s.start
    | .stop => some s.stop

/-- A step of a thread or of the controller. -/
def Step (s : Playback) (l : Label) (s' : Playback) : Prop :=
  s.next l = some s'

/-! ## What is on record -/

/-- The packets that were decoded. -/
def decoded (s : Playback) : List (List UInt8) :=
  s.log.filterMap fun
    | .decoded pkt => some pkt
    | _ => none

/-- The packets for which there was no buffer. -/
def lost (s : Playback) : List (List UInt8) :=
  s.log.filterMap fun
    | .lost pkt => some pkt
    | _ => none

/-- The packets that were put into the queue. -/
def queued (s : Playback) : List (List UInt8) :=
  s.log.filterMap fun
    | .queued pkt => some pkt
    | _ => none

/-- The packets PJSIP has taken from the queue. -/
def taken (s : Playback) : List (List UInt8) :=
  s.log.filterMap fun
    | .taken pkt => some pkt
    | _ => none

/-- What the buffer of the output was filled with : a packet, or silence while nothing is decoded.
-/
def filled (s : Playback) : List (List UInt8) :=
  s.log.filterMap fun
    | .taken pkt => some pkt
    | .silence => some zeros
    | _ => none

/-- The bytes PJSIP was given. -/
def heard (s : Playback) : List UInt8 :=
  (s.log.filterMap fun
    | .heard bytes => some bytes
    | _ => none).flatten

/-- The packets in the queue. -/
def waiting (s : Playback) : List (List UInt8) :=
  s.decodedQueue.map fun i => s.bufferPool.read i packetSize

/-- What the decoder has yet to put into the queue, where `read` is the packet in a buffer. -/
def Decoder.todo (read : ℕ → List UInt8) : Decoder → List (List UInt8)
  | .off | .top => []
  | .packets todo => todo
  | .permitted pkt todo => pkt :: todo
  | .copied i todo => read i :: todo

/-- What is decoded and not yet in the queue. -/
def todo (s : Playback) : List (List UInt8) :=
  s.decoder.todo fun i => s.bufferPool.read i packetSize

/-- What is in the buffer of the output and not yet heard. -/
def pending (s : Playback) : List UInt8 :=
  match s.player with
  | .copied _ => s.buffer
  | _ => if s.readBuffer then [] else s.buffer.drop 960

/-! ## Permits and buffers -/

/-- The buffer PJSIP has. -/
def Player.holds : Player → List ℕ
  | .copied i => [i]
  | _ => []

/-- The buffer the decoder has. -/
def Decoder.holds : Decoder → List ℕ
  | .copied i _ => [i]
  | _ => []

/-- The permit the decoder has. -/
def Decoder.permits : Decoder → ℕ
  | .permitted .. | .copied .. => 1
  | _ => 0

/-- The thread of the decoder runs. -/
def Decoder.alive : Decoder → Bool
  | .off => false
  | _ => true

/-- The buffers in use. -/
def held (s : Playback) : List ℕ :=
  s.player.holds ++ (s.decodedQueue ++ s.decoder.holds)

/-- The permits : free, with the decoder, or of packets that were not given back. -/
def permits (s : Playback) : ℕ :=
  s.semaphore + s.decoder.permits + s.decodedQueue.length + s.player.holds.length

/-- The permits that were made for the output. -/
def made (s : Playback) : ℕ :=
  2 * (s.outputBufferSize != 0).toNat

/-- The permit for the end of the thread. -/
def farewell (s : Playback) : ℕ :=
  (!s.running && s.decoder.alive).toNat

/-! ## Steps -/

/-- What a step does while nothing aborts. -/
inductive Moved (s : Playback) : Label → Playback → Prop
  | activate (isActive : Bool) : Moved s (.activate isActive) { s with isActive }
  | inactive : s.player = .idle → Moved s .getFrame s
  | second : s.player = .idle → s.readBuffer = false → Moved s .getFrame s.playHalf
  | silence : s.player = .idle → s.readBuffer = true → s.running = false →
      Moved s .getFrame (playHalf { s with
        buffer := zeros
        log := s.log ++ [.silence] })
  | first : s.player = .idle → s.readBuffer = true → s.running = true → s.outputBufferSize = 0 →
      Moved s .getFrame { s with
        outputBufferSize := packetSize
        semaphore := s.semaphore + 2
        player := .waiting }
  | request : s.player = .idle → s.readBuffer = true → s.running = true → s.outputBufferSize ≠ 0 →
      Moved s .getFrame { s with player := .waiting }
  | take (i : ℕ) (queue : List ℕ) : s.player = .waiting → s.decodedQueue = i :: queue →
      Moved s .take { s with
        buffer := s.bufferPool.read i packetSize
        decodedQueue := queue
        player := .copied i
        log := s.log ++ [.taken (s.bufferPool.read i packetSize)] }
  | giveBack (i : ℕ) (pool : Pool UInt8) : s.player = .copied i →
      s.bufferPool.reuse (some i) = some pool →
      Moved s .giveBack (playHalf { s with
        bufferPool := pool
        semaphore := s.semaphore + 1
        player := .idle })
  | frame (frame : Frame) : s.decoder = .top → s.running = true →
      Moved s (.decode frame) { s with
        decoder := .packets frame.packets
        log := s.log ++ frame.packets.map .decoded }
  | leave (frame : Frame) : s.decoder = .top → s.running = false →
      Moved s (.decode frame) { s with decoder := .off }
  | done (frame : Frame) : s.decoder = .packets [] →
      Moved s (.decode frame) { s with decoder := .top }
  | acquire (frame : Frame) (pkt : List UInt8) (todo : List (List UInt8)) :
      s.decoder = .packets (pkt :: todo) → s.semaphore ≠ 0 →
      Moved s (.decode frame) { s with
        semaphore := s.semaphore - 1
        decoder := .permitted pkt todo }
  | exit (frame : Frame) (pkt : List UInt8) (todo : List (List UInt8)) :
      s.decoder = .permitted pkt todo → s.running = false →
      Moved s (.decode frame) { s with decoder := .off }
  | lose (frame : Frame) (pkt : List UInt8) (todo : List (List UInt8)) :
      s.decoder = .permitted pkt todo → s.running = true → s.bufferPool.get = none →
      Moved s (.decode frame) { s with
        decoder := .packets todo
        log := s.log ++ [.lost pkt] }
  | copy (frame : Frame) (pkt : List UInt8) (todo : List (List UInt8)) (i : ℕ) (pool : Pool UInt8) :
      s.decoder = .permitted pkt todo → s.running = true → s.bufferPool.get = some (i, pool) →
      Moved s (.decode frame) { s with
        bufferPool := pool.write i pkt
        decoder := .copied i todo }
  | queue (frame : Frame) (i : ℕ) (todo : List (List UInt8)) : s.decoder = .copied i todo →
      Moved s (.decode frame) { s with
        decodedQueue := s.decodedQueue ++ [i]
        decoder := .packets todo
        log := s.log ++ [.queued (s.bufferPool.read i packetSize)] }
  | start : s.running = false → s.decoder = .off →
      Moved s .start { s with running := true, decoder := .top }
  | stop : s.running = true →
      Moved s .stop { s with running := false, semaphore := s.semaphore + 1 }
  | stopped : s.running = false → Moved s .stop s

variable {s s' : Playback} {l : Label} {ls : List Label} {n : ℕ}

/-- Permits and buffers are where they should be, after at most `n` calls of `Stop`. -/
structure Sane (n : ℕ) (s : Playback) : Prop where
  going : s.aborted = false
  count : s.bufferPool.count = 32
  holds : s.bufferPool.Holds s.held
  enough : s.made + s.farewell ≤ s.permits
  few : s.permits ≤ s.made + n
  alive : s.running = true → s.decoder.alive = true
  sized : s.player ≠ .idle → s.outputBufferSize ≠ 0

theorem sane_init (buffer : List UInt8) : Sane 0 { buffer } where
  going := rfl
  count := rfl
  holds := ⟨List.nodup_nil, by simp [held, Player.holds, Decoder.holds]⟩
  enough := Nat.le_refl _
  few := Nat.le_refl _
  alive := Bool.noConfusion
  sized h := absurd rfl h

/-- What a step does. No buffer is given back that is not the pool's, and the queue has room. -/
theorem Sane.moved (h : Sane n s) (hstep : Step s l s') : Moved s l s' := by
  have hholds := h.holds
  have hgoing : ¬ s.aborted = true := by simp [h.going]
  unfold Step next at hstep
  rw [if_neg hgoing] at hstep
  cases l with
  | activate isActive =>
    obtain rfl := Option.some.inj hstep
    exact .activate isActive
  | getFrame =>
    simp only [getFrameCallback] at hstep
    split at hstep
    · rename_i hidle
      split_ifs at hstep with hactive hread hrunning hsize <;> obtain rfl := Option.some.inj hstep
      · exact .inactive hidle
      · exact .second hidle (by simpa using hread)
      · exact .silence hidle (by simpa using hread) (by simpa using hrunning)
      · exact .first hidle (by simpa using hread) (by simpa using hrunning) hsize
      · exact .request hidle (by simpa using hread) (by simpa using hrunning) hsize
    · cases hstep
  | take =>
    simp only [take] at hstep
    split at hstep
    · rename_i i queue hplayer hqueue
      obtain rfl := Option.some.inj hstep
      exact .take i queue hplayer hqueue
    · cases hstep
  | giveBack =>
    simp only [giveBack] at hstep
    split at hstep
    · rename_i i hplayer
      simp only [held, hplayer, Player.holds] at hholds
      obtain ⟨hreuse, -⟩ := hholds.exists_reuse_head
      rw [hreuse] at hstep
      obtain rfl := Option.some.inj hstep
      exact .giveBack i _ hplayer hreuse
    · cases hstep
  | decode frame =>
    simp only [decode] at hstep
    split at hstep
    · cases hstep
    · rename_i hdecoder
      split_ifs at hstep with hrunning <;> obtain rfl := Option.some.inj hstep
      · exact .frame frame hdecoder hrunning
      · exact .leave frame hdecoder (by simpa using hrunning)
    · rename_i hdecoder
      obtain rfl := Option.some.inj hstep
      exact .done frame hdecoder
    · rename_i pkt todo hdecoder
      split_ifs at hstep with hpermit
      obtain rfl := Option.some.inj hstep
      exact .acquire frame pkt todo hdecoder hpermit
    · rename_i pkt todo hdecoder
      split_ifs at hstep with hrunning
      · obtain rfl := Option.some.inj hstep
        exact .exit frame pkt todo hdecoder (by simpa using hrunning)
      · have hrun : s.running = true := by simpa using hrunning
        split at hstep <;> rename_i hget <;> obtain rfl := Option.some.inj hstep
        · exact .lose frame pkt todo hdecoder hrun hget
        · exact .copy frame pkt todo _ _ hdecoder hrun hget
    · rename_i i todo hdecoder
      -- the packets in the queue are in buffers of their own, so there are 32 at most
      have hlen := hholds.length_le
      have hroom : ¬ 33 < (s.decodedQueue ++ [i]).length := by
        simp only [held, hdecoder, Decoder.holds, List.length_append, h.count] at hlen ⊢
        omega
      rw [if_neg hroom] at hstep
      obtain rfl := Option.some.inj hstep
      exact .queue frame i todo hdecoder
  | start =>
    simp only [start] at hstep
    split at hstep
    · rename_i hrunning hdecoder
      obtain rfl := Option.some.inj hstep
      exact .start hrunning hdecoder
    · cases hstep
  | stop =>
    obtain rfl := Option.some.inj hstep
    unfold stop
    split_ifs with hrunning
    · exact .stop hrunning
    · exact .stopped (by simpa using hrunning)

/-- Whether a step is a call of `Stop`. -/
def Label.isStop : Label → Bool
  | .stop => true
  | _ => false

@[simp] theorem playHalf_player : s.playHalf.player = s.player := rfl
@[simp] theorem playHalf_decoder : s.playHalf.decoder = s.decoder := rfl
@[simp] theorem playHalf_running : s.playHalf.running = s.running := rfl
@[simp] theorem playHalf_aborted : s.playHalf.aborted = s.aborted := rfl
@[simp] theorem playHalf_bufferPool : s.playHalf.bufferPool = s.bufferPool := rfl
@[simp] theorem playHalf_decodedQueue : s.playHalf.decodedQueue = s.decodedQueue := rfl
@[simp] theorem playHalf_semaphore : s.playHalf.semaphore = s.semaphore := rfl
@[simp] theorem playHalf_outputBufferSize :
    s.playHalf.outputBufferSize = s.outputBufferSize := rfl

/-- The buffers in use after a step. -/
theorem Sane.holds_of_moved (h : Sane n s) (hmoved : Moved s l s') :
    s'.bufferPool.count = 32 ∧ s'.bufferPool.Holds s'.held := by
  have hcount := h.count
  have hholds := h.holds
  cases hmoved with
  | take i queue hplayer hqueue =>
    refine ⟨hcount, ?_⟩
    simpa [held, hplayer, hqueue, Player.holds] using hholds
  | giveBack i pool hplayer hreuse =>
    simp only [held, hplayer, Player.holds] at hholds
    obtain ⟨hreuse', hholds'⟩ := hholds.exists_reuse_head
    obtain rfl := Option.some.inj (hreuse.symm.trans hreuse')
    exact ⟨hcount, by simpa [held, Player.holds] using hholds'⟩
  | copy frame pkt todo i pool hdecoder hrunning hget =>
    obtain ⟨-, rfl, hholds'⟩ := hholds.of_get hget
    refine ⟨hcount, (hholds'.perm ?_).write i pkt⟩
    simp only [held, hdecoder, Decoder.holds, List.append_nil, ← List.append_assoc]
    exact (List.perm_append_singleton _ _).symm
  | queue frame i todo hdecoder =>
    refine ⟨hcount, ?_⟩
    simpa [held, hdecoder, Decoder.holds] using hholds
  | _ => simp_all [held, Player.holds, Decoder.holds]

/-- The permits after a step. -/
theorem Sane.permits_of_moved (h : Sane n s) (hmoved : Moved s l s') :
    s'.made + s'.farewell ≤ s'.permits ∧
      s'.permits ≤ s'.made + (n + if l.isStop then 1 else 0) := by
  have henough := h.enough
  have hfew := h.few
  simp only [made, farewell, permits] at henough hfew ⊢
  cases hmoved with
  | activate | inactive | second | silence => exact ⟨henough, hfew⟩
  | first hidle hread hrunning hsize =>
    simp [hsize, hidle, Player.holds, Label.isStop, packetSize] at henough hfew ⊢
    omega
  | request hidle =>
    rw [hidle] at henough hfew
    exact ⟨henough, hfew⟩
  | take i queue hplayer hqueue =>
    simp only [hplayer, hqueue, Player.holds, List.length_cons, List.length_nil] at henough hfew
    simp only [Player.holds, Label.isStop, List.length_cons, List.length_nil]
    omega
  | giveBack i pool hplayer hreuse =>
    simp only [hplayer, Player.holds, List.length_cons, List.length_nil] at henough hfew
    simp [Player.holds, Label.isStop]
    omega
  | frame frame hdecoder hrunning =>
    simp [hdecoder, hrunning, Decoder.permits, Label.isStop] at henough hfew ⊢
    omega
  | leave frame hdecoder hrunning =>
    simp [hdecoder, hrunning, Decoder.permits, Decoder.alive, Label.isStop] at henough hfew ⊢
    omega
  | done frame hdecoder =>
    rw [hdecoder] at henough hfew
    exact ⟨henough, hfew⟩
  | acquire frame pkt todo hdecoder hpermit =>
    simp only [hdecoder, Decoder.permits, Decoder.alive, Label.isStop] at henough hfew ⊢
    omega
  | exit frame pkt todo hdecoder hrunning =>
    simp [hdecoder, hrunning, Decoder.permits, Decoder.alive, Label.isStop] at henough hfew ⊢
    omega
  | lose frame pkt todo hdecoder hrunning hget =>
    -- all buffers are in the queue or with PJSIP, so the permit that is lost is one too many
    have hfull := h.holds.le_length hget
    have hmade := Bool.toNat_le (s.outputBufferSize != 0)
    simp only [held, hdecoder, Decoder.holds, List.append_nil, List.length_append, h.count] at hfull
    simp [hdecoder, hrunning, Decoder.permits, Label.isStop] at henough hfew ⊢
    omega
  | copy frame pkt todo i pool hdecoder =>
    rw [hdecoder] at henough hfew
    exact ⟨henough, hfew⟩
  | queue frame i todo hdecoder =>
    simp only [hdecoder, Decoder.permits, Decoder.alive, Label.isStop, List.length_append,
      List.length_cons, List.length_nil] at henough hfew ⊢
    omega
  | start hrunning hdecoder =>
    simp [hdecoder, Decoder.permits, Decoder.alive, Label.isStop] at henough hfew ⊢
    omega
  | stop hrunning =>
    simp [hrunning, h.alive hrunning, Label.isStop] at henough hfew ⊢
    omega
  | stopped =>
    exact ⟨henough, Nat.le_trans hfew (by simp)⟩

/-- What a step does to permits and buffers. -/
theorem Sane.step (h : Sane n s) (hmoved : Moved s l s') :
    Sane (n + if l.isStop then 1 else 0) s' := by
  obtain ⟨hcount, hholds⟩ := h.holds_of_moved hmoved
  obtain ⟨henough, hfew⟩ := h.permits_of_moved hmoved
  refine ⟨?_, hcount, hholds, henough, hfew, ?_, ?_⟩
  · cases hmoved <;> exact h.going
  · intro hrunning
    cases hmoved with
    | frame | done | acquire | lose | copy | queue | start => rfl
    | leave _ _ hstopped => exact Bool.noConfusion (hstopped.symm.trans hrunning)
    | exit _ _ _ _ hstopped => exact Bool.noConfusion (hstopped.symm.trans hrunning)
    | stop => exact Bool.noConfusion hrunning
    | _ => exact h.alive hrunning
  · intro hplayer
    cases hmoved with
    | first => exact Nat.succ_ne_zero _
    | request _ _ _ hsize => exact hsize
    | take _ _ hwaiting => exact h.sized (by simp [hwaiting])
    | giveBack => exact absurd rfl hplayer
    | _ => exact h.sized hplayer

theorem sane_of_run {buffer : List UInt8} (hrun : Run Step { buffer } ls s) :
    Sane (ls.countP Label.isStop) s := by
  induction hrun with
  | nil => exact sane_init buffer
  | snoc _ hs ih =>
    rw [List.countP_append, List.countP_singleton]
    exact ih.step (ih.moved hs)

end Playback

end TelegramProvider
