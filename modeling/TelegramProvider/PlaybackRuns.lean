import TelegramProvider.Playback

/-!
# What PJSIP hears

`sound_of_run` : whatever the order of the threads, PJSIP hears the packets whole, each once and in
the order they were decoded. `supplied_of_run` : while the decoder runs, a waiting PJSIP has its
packet after five steps of the decoder. `stranded_of_run` : a `Stop` while PJSIP waits for a packet
leaves it waiting.
-/

set_option autoImplicit false

namespace TelegramProvider

open Pools Runs

namespace Playback

variable {s s' : Playback} {l : Label} {ls : List Label} {n : ℕ}

/-! ## What is heard -/

theorem length_of_mem_packets {frame : Frame} {pkt : List UInt8} (h : pkt ∈ frame.packets) :
    pkt.length = packetSize := by
  obtain ⟨i, hi, rfl⟩ := List.mem_map.1 h
  have hfour : i < 4 := by
    have hlt := List.mem_range.1 hi
    rcases frame.hduration with hd | hd | hd <;> rw [hd] at hlt <;> omega
  split_ifs
  · simp only [List.length_take, List.length_drop, frame.hbuffer, packetSize]
    omega
  · exact length_zeros

/-- The packets are where they should be. -/
structure Orderly (s : Playback) : Prop where
  order : s.queued = s.taken ++ s.waiting
  bytes : s.heard ++ s.pending = s.filled.flatten
  sub : List.Sublist (s.queued ++ s.todo) s.decoded
  size : ∀ pkt ∈ s.waiting ++ s.todo, pkt.length = packetSize
  read : s.player ≠ .idle → s.readBuffer = true
  buffered : s.pending = [] ∨ s.buffer.length = packetSize

theorem orderly_init (buffer : List UInt8) : Orderly { buffer } where
  order := rfl
  bytes := rfl
  sub := List.Sublist.refl _
  size := by simp [waiting, todo, Decoder.todo]
  read h := absurd rfl h
  buffered := .inl rfl

/-- The packets in the queue stay as they are while another is copied. -/
theorem Sane.waiting_of_copy (h : Sane n s) {i : ℕ} {pool : Pool UInt8} (pkt : List UInt8)
    (hget : s.bufferPool.get = some (i, pool)) :
    (s.decodedQueue.map fun j => (pool.write i pkt).read j packetSize) = s.waiting :=
  List.map_congr_left fun _ hj => h.holds.read_write_of_get hget (by simp [held, hj])

/-- To give a buffer back changes no packet. -/
theorem reads_of_giveBack {i : ℕ} {pool : Pool UInt8}
    (h : s.bufferPool.reuse (some i) = some pool) :
    (fun j => pool.read j packetSize) = fun j => s.bufferPool.read j packetSize :=
  funext fun _ => Pool.read_of_reuse h

theorem Orderly.order_of_moved (h : Orderly s) (hsane : Sane n s) (hmoved : Moved s l s') :
    s'.queued = s'.taken ++ s'.waiting := by
  have horder := h.order
  cases hmoved with
  | take i queue hplayer hqueue =>
    simpa [queued, taken, waiting, hqueue] using horder
  | giveBack i pool hplayer hreuse =>
    simpa [queued, taken, waiting, playHalf, reads_of_giveBack hreuse] using horder
  | copy frame pkt todo i pool hdecoder hrunning hget =>
    exact horder.trans (congrArg (s.taken ++ ·) (hsane.waiting_of_copy pkt hget).symm)
  | queue frame i todo hdecoder =>
    simp only [queued, taken, waiting] at horder ⊢
    simp [horder]
  | _ => first | exact horder | simpa [queued, taken, waiting, playHalf] using horder

/-- What a step adds to what was decoded is what the decoder has to put into the queue, unless it
drops something at its end or without a buffer. -/
theorem Orderly.flow_of_moved (h : Orderly s) (hmoved : Moved s l s') :
    (∃ pkts, s'.queued ++ s'.todo = s.queued ++ s.todo ++ pkts ∧ s'.decoded = s.decoded ++ pkts) ∨
      (s.running = false ∧ s.decoder.alive = true ∨ s.bufferPool.get = none) ∧
        List.Sublist (s'.queued ++ s'.todo) (s.queued ++ s.todo) ∧ s'.decoded = s.decoded := by
  cases hmoved with
  | giveBack i pool hplayer hreuse =>
    exact .inl ⟨[], by simp [queued, todo, playHalf, reads_of_giveBack hreuse],
      by simp [decoded, playHalf]⟩
  | frame frame hdecoder hrunning =>
    refine .inl ⟨frame.packets, ?_, ?_⟩
    · simp [queued, todo, Decoder.todo, hdecoder, List.filterMap_map]
    · simp [decoded, List.filterMap_map]
  | leave _ hdecoder =>
    exact .inl ⟨[], by simp [queued, todo, Decoder.todo, hdecoder], by simp [decoded]⟩
  | done _ hdecoder =>
    exact .inl ⟨[], by simp [queued, todo, Decoder.todo, hdecoder], by simp [decoded]⟩
  | acquire _ pkt todo hdecoder =>
    exact .inl ⟨[], by simp [queued, Playback.todo, Decoder.todo, hdecoder], by simp [decoded]⟩
  | exit _ pkt todo hdecoder hrunning =>
    refine .inr ⟨.inl ⟨hrunning, by simp [hdecoder, Decoder.alive]⟩, ?_, rfl⟩
    exact (List.nil_sublist _).append_left _
  | lose _ pkt todo hdecoder hrunning hget =>
    refine .inr ⟨.inr hget, ?_, by simp [decoded]⟩
    simp [queued, Playback.todo, Decoder.todo, hdecoder]
  | copy frame pkt todo i pool hdecoder hrunning hget =>
    have hread := Pool.read_write_of_length (p := pool) (i := i) (h.size pkt (by
      simp [Playback.todo, Decoder.todo, hdecoder]))
    exact .inl ⟨[], by simp [queued, Playback.todo, Decoder.todo, hdecoder, hread],
      by simp [decoded]⟩
  | queue frame i todo hdecoder =>
    exact .inl ⟨[], by simp [queued, Playback.todo, Decoder.todo, hdecoder], by simp [decoded]⟩
  | start _ hdecoder =>
    exact .inl ⟨[], by simp [queued, todo, Decoder.todo, hdecoder], by simp [decoded]⟩
  | _ => exact .inl ⟨[], by simp [queued, todo, playHalf], by simp [decoded, playHalf]⟩

theorem Orderly.sub_of_moved (h : Orderly s) (hmoved : Moved s l s') :
    List.Sublist (s'.queued ++ s'.todo) s'.decoded := by
  rcases h.flow_of_moved hmoved with ⟨pkts, hqueued, hdecoded⟩ | ⟨-, hless, hdecoded⟩
  · rw [hqueued, hdecoded]
    exact h.sub.append_right pkts
  · rw [hdecoded]
    exact hless.trans h.sub

theorem Orderly.bytes_of_moved (h : Orderly s) (hmoved : Moved s l s') :
    s'.heard ++ s'.pending = s'.filled.flatten := by
  have hbytes := h.bytes
  cases hmoved with
  | second hidle hread =>
    have hpending : s.pending = s.buffer.drop 960 := by simp [pending, hidle, hread]
    have hlen : (s.buffer.drop 960).length ≤ 960 := by
      rcases h.buffered with hnone | hsize
      · simp [← hpending, hnone]
      · simp [hsize, packetSize]
    rw [hpending] at hbytes
    simp only [heard, filled] at hbytes
    simp [heard, filled, pending, playHalf, hidle, hread, List.take_of_length_le hlen, hbytes]
  | silence hidle hread hrunning =>
    have hnone : s.pending = [] := by simp [pending, hidle, hread]
    rw [hnone, List.append_nil] at hbytes
    simp only [heard, filled] at hbytes
    simp [heard, filled, pending, playHalf, hidle, hread, hbytes]
  | first hidle hread => simpa [heard, pending, filled, hidle, hread] using hbytes
  | request hidle hread => simpa [heard, pending, filled, hidle, hread] using hbytes
  | take i queue hplayer hqueue =>
    have hread := h.read (by simp [hplayer])
    have hnone : s.pending = [] := by simp [pending, hplayer, hread]
    rw [hnone, List.append_nil] at hbytes
    simp only [heard, filled] at hbytes
    simp [heard, filled, pending, hbytes]
  | giveBack i pool hplayer hreuse =>
    have hread := h.read (by simp [hplayer])
    simp only [heard, filled, pending, hplayer] at hbytes
    simp [heard, filled, pending, playHalf, hread, ← hbytes]
  | _ =>
    first
    | exact hbytes
    | simpa [heard, pending, filled, playHalf, List.filterMap_map, Function.comp_def] using hbytes

theorem Orderly.size_of_moved (h : Orderly s) (hsane : Sane n s) (hmoved : Moved s l s') :
    ∀ pkt ∈ s'.waiting ++ s'.todo, pkt.length = packetSize := by
  have hsize := h.size
  cases hmoved with
  | take i queue hplayer hqueue =>
    intro pkt hpkt
    exact hsize pkt (by
      simp only [waiting, hqueue, List.map_cons, List.cons_append]
      exact List.mem_cons_of_mem _ hpkt)
  | giveBack i pool hplayer hreuse =>
    simpa only [waiting, todo, playHalf, reads_of_giveBack hreuse] using hsize
  | frame frame hdecoder hrunning =>
    intro pkt hpkt
    rcases List.mem_append.1 hpkt with hold | hnew
    · exact hsize pkt (List.mem_append_left _ hold)
    · exact length_of_mem_packets hnew
  | leave _ hdecoder => simpa [waiting, todo, Decoder.todo, hdecoder] using hsize
  | done _ hdecoder => simpa [waiting, todo, Decoder.todo, hdecoder] using hsize
  | acquire _ pkt todo hdecoder =>
    simpa [waiting, Playback.todo, Decoder.todo, hdecoder] using hsize
  | exit _ pkt todo hdecoder =>
    intro p hp
    exact hsize p (List.mem_append_left _
      (by simpa [waiting, Playback.todo, Decoder.todo] using hp))
  | lose _ pkt todo hdecoder =>
    simp only [waiting, Playback.todo, Decoder.todo, hdecoder, List.mem_append,
      List.mem_cons] at hsize ⊢
    exact fun p hp => hsize p (hp.imp_right .inr)
  | copy frame pkt todo i pool hdecoder hrunning hget =>
    have hread := Pool.read_write_of_length (p := pool) (i := i) (h.size pkt (by
      simp [Playback.todo, Decoder.todo, hdecoder]))
    simp only [waiting, Playback.todo, Decoder.todo, hsane.waiting_of_copy pkt hget, hread]
    simpa only [waiting, Playback.todo, Decoder.todo, hdecoder] using hsize
  | queue frame i todo hdecoder =>
    simpa [waiting, Playback.todo, Decoder.todo, hdecoder] using hsize
  | start _ hdecoder => simpa [waiting, todo, Decoder.todo, hdecoder] using hsize
  | _ => exact hsize

theorem Orderly.step (h : Orderly s) (hsane : Sane n s) (hmoved : Moved s l s') : Orderly s' where
  order := h.order_of_moved hsane hmoved
  bytes := h.bytes_of_moved hmoved
  sub := h.sub_of_moved hmoved
  size := h.size_of_moved hsane hmoved
  read := by
    have hread := h.read
    cases hmoved with
    | second hidle => exact fun hplayer => absurd hidle hplayer
    | silence hidle => exact fun hplayer => absurd hidle hplayer
    | first _ hread => exact fun _ => hread
    | request _ hread => exact fun _ => hread
    | take _ _ hplayer => exact fun _ => hread (by simp [hplayer])
    | giveBack => exact fun hplayer => absurd rfl hplayer
    | _ => exact hread
  buffered := by
    have hbuffered := h.buffered
    cases hmoved with
    | second hidle hread => exact .inl (by simp [pending, playHalf, hidle, hread])
    | silence => exact .inr length_zeros
    | first _ hread => exact .inl (by simp [pending, hread])
    | request _ hread => exact .inl (by simp [pending, hread])
    | take i queue hplayer hqueue => exact .inr (h.size _ (by simp [waiting, hqueue]))
    | giveBack i pool hplayer hreuse =>
      rcases hbuffered with hnone | hsize
      · exact .inl (by simp only [pending, hplayer] at hnone; simp [pending, playHalf, hnone])
      · exact .inr hsize
    | _ => exact hbuffered

theorem orderly_of_run {buffer : List UInt8} (hrun : Run Step { buffer } ls s) : Orderly s := by
  induction hrun with
  | nil => exact orderly_init buffer
  | snoc hrun' hs ih =>
    have hsane := sane_of_run hrun'
    exact ih.step hsane (hsane.moved hs)

/-- At most two packets are between the decoder and PJSIP, and one for each `Stop`. -/
theorem Sane.length_held_le (h : Sane n s) : s.held.length ≤ 2 + n := by
  have hfew := h.few
  have hmade := Bool.toNat_le (s.outputBufferSize != 0)
  have hdecoder : s.decoder.holds.length ≤ s.decoder.permits := by
    cases s.decoder <;> simp [Decoder.holds, Decoder.permits]
  simp only [held, permits, made, List.length_append] at hfew ⊢
  omega

/-- So there is a buffer for each packet. -/
theorem Sane.not_full (h : Sane n s) (hn : n ≤ 29) : s.bufferPool.get ≠ none := by
  intro hget
  have hfull := h.holds.le_length hget
  have hlen := h.length_held_le
  rw [h.count] at hfull
  omega

/-- What holds of a run without a `Stop` : no packet is left out, and silence comes first. -/
structure Whole (s : Playback) : Prop where
  all : s.queued ++ s.todo = s.decoded
  silence : ∃ k, s.filled = List.replicate k zeros ++ s.taken
  fresh : s.running = false → s.decoder = .off ∧ s.player = .idle ∧ s.taken = []

theorem Whole.step (h : Whole s) (hsane : Sane 0 s) (horderly : Orderly s) (hmoved : Moved s l s')
    (hl : l.isStop = false) : Whole s' where
  all := by
    rcases horderly.flow_of_moved hmoved with ⟨pkts, hqueued, hdecoded⟩ | ⟨hdrop, -⟩
    · rw [hqueued, hdecoded, h.all]
    · rcases hdrop with ⟨hrunning, halive⟩ | hget
      · rw [(h.fresh hrunning).1] at halive
        exact Bool.noConfusion halive
      · exact absurd hget (hsane.not_full (Nat.zero_le _))
  silence := by
    obtain ⟨k, hk⟩ := h.silence
    have hfilled := hk
    simp only [filled, taken] at hk
    cases hmoved with
    | silence hidle hread hrunning =>
      have hnone := (h.fresh hrunning).2.2
      rw [hnone, List.append_nil] at hfilled
      simp only [filled, taken] at hfilled hnone
      refine ⟨k + 1, ?_⟩
      simp [filled, taken, playHalf, hfilled, hnone, List.replicate_succ']
    | _ => exact ⟨k, by simp [filled, taken, playHalf, hk, List.filterMap_map]⟩
  fresh := by
    intro hrunning
    cases hmoved with
    | stop => exact Bool.noConfusion hl
    | start => exact Bool.noConfusion hrunning
    | second | silence =>
      obtain ⟨hoff, hidle, hnone⟩ := h.fresh hrunning
      exact ⟨hoff, hidle, by simpa [taken, playHalf] using hnone⟩
    | first _ _ hon => exact Bool.noConfusion (hrunning.symm.trans hon)
    | request _ _ hon => exact Bool.noConfusion (hrunning.symm.trans hon)
    | take _ _ hplayer => exact Player.noConfusion ((h.fresh hrunning).2.1.symm.trans hplayer)
    | giveBack _ _ hplayer => exact Player.noConfusion ((h.fresh hrunning).2.1.symm.trans hplayer)
    | frame _ hdecoder => exact Decoder.noConfusion ((h.fresh hrunning).1.symm.trans hdecoder)
    | leave _ hdecoder => exact Decoder.noConfusion ((h.fresh hrunning).1.symm.trans hdecoder)
    | done _ hdecoder => exact Decoder.noConfusion ((h.fresh hrunning).1.symm.trans hdecoder)
    | acquire _ _ _ hdecoder =>
      exact Decoder.noConfusion ((h.fresh hrunning).1.symm.trans hdecoder)
    | exit _ _ _ hdecoder => exact Decoder.noConfusion ((h.fresh hrunning).1.symm.trans hdecoder)
    | lose _ _ _ hdecoder => exact Decoder.noConfusion ((h.fresh hrunning).1.symm.trans hdecoder)
    | copy _ _ _ _ _ hdecoder =>
      exact Decoder.noConfusion ((h.fresh hrunning).1.symm.trans hdecoder)
    | queue _ _ _ hdecoder => exact Decoder.noConfusion ((h.fresh hrunning).1.symm.trans hdecoder)
    | _ => exact h.fresh hrunning

theorem whole_of_run {buffer : List UInt8} (hrun : Run Step { buffer } ls s)
    (hstops : ls.countP Label.isStop = 0) : Whole s := by
  induction hrun with
  | nil => exact ⟨rfl, ⟨0, rfl⟩, fun _ => ⟨rfl, rfl, rfl⟩⟩
  | snoc hrun' hs ih =>
    rw [List.countP_append, List.countP_singleton, Nat.add_eq_zero_iff] at hstops
    obtain ⟨hbefore, hl⟩ := hstops
    have hsane := sane_of_run hrun'
    have horderly := orderly_of_run hrun'
    have hmoved := hsane.moved hs
    rw [hbefore] at hsane
    exact (ih hbefore).step hsane horderly hmoved (by simpa using hl)

theorem lost_of_run {buffer : List UInt8} (hrun : Run Step { buffer } ls s)
    (hstops : ls.countP Label.isStop ≤ 29) : s.lost = [] := by
  induction hrun with
  | nil => rfl
  | snoc hrun' hs ih =>
    rw [List.countP_append, List.countP_singleton] at hstops
    have hsane := sane_of_run hrun'
    have hlost := ih (Nat.le_trans (Nat.le_add_right _ _) hstops)
    have hget := hsane.not_full (Nat.le_trans (Nat.le_add_right _ _) hstops)
    cases hsane.moved hs with
    | lose _ _ _ _ _ hnone => exact absurd hnone hget
    | _ => simpa [lost, playHalf, List.filterMap_map] using hlost

/-- Whatever the threads do, PJSIP hears the packets whole, each once and in the order in which they
were decoded, and silence while nothing is decoded. The process is not aborted, and at most two
packets are on the way for a call of `Stop` that has not been. -/
theorem sound_of_run {buffer : List UInt8} (hrun : Run Step { buffer } ls s) :
    s.aborted = false ∧ s.held.length ≤ 2 + ls.countP Label.isStop ∧
      s.queued = s.taken ++ s.waiting ∧ List.Sublist (s.queued ++ s.todo) s.decoded ∧
      s.heard ++ s.pending = s.filled.flatten ∧
      (ls.countP Label.isStop ≤ 29 → s.lost = []) ∧
      (ls.countP Label.isStop = 0 → s.decoded = s.taken ++ s.waiting ++ s.todo ∧
        ∃ k, s.filled = List.replicate k zeros ++ s.taken) := by
  have hsane := sane_of_run hrun
  have horderly := orderly_of_run hrun
  refine ⟨hsane.going, hsane.length_held_le, horderly.order, horderly.sub, horderly.bytes,
    lost_of_run hrun, fun hstops => ?_⟩
  obtain ⟨hall, hsilence, -⟩ := whole_of_run hrun hstops
  exact ⟨by rw [← hall, horderly.order], hsilence⟩

/-- A frame of 40 ms. -/
def tone : Frame where
  playbackDuration := 40
  processedBuffer := List.replicate 8192 1
  hasData := true
  hduration := .inl rfl
  hbuffer := List.length_replicate

/-- PJSIP hears silence until the decoder starts, then waits for the first packet. -/
def opening : List Label :=
  [.activate true, .getFrame, .getFrame, .start, .decode tone, .getFrame]

/-- The packet is queued and played. -/
def firstPacket : List Label :=
  [.decode tone, .decode tone, .decode tone, .take, .giveBack, .getFrame]

theorem run_of_exec (s₀ : Playback) (ls : List Label) (h : exec next s₀ ls = some s) :
    Run Step s₀ ls s :=
  Run.of_exec (fun _ _ _ hs => hs) h

theorem sound_of_run_firstPacket : ∃ s, Run Step { buffer := zeros } (opening ++ firstPacket) s ∧
    s.taken ≠ [] ∧ s.decoded = s.taken ++ s.waiting ++ s.todo ∧ s.heard ++ s.pending =
      s.filled.flatten := by
  have hrun := run_of_exec { buffer := zeros } (opening ++ firstPacket) rfl
  obtain ⟨-, -, -, -, hheard, -, hwhole⟩ := sound_of_run hrun
  exact ⟨_, hrun, List.cons_ne_nil _ _, (hwhole rfl).1, hheard⟩

/-! ## A waiting request -/

/-- How many steps the decoder is from putting a packet into the queue. -/
def Decoder.rank : Decoder → ℕ
  | .off => 0
  | .top => 4
  | .packets [] => 5
  | .packets (_ :: _) => 3
  | .permitted .. => 2
  | .copied .. => 1

/-- A step of the decoder's thread. -/
def Label.isDecode : Label → Bool
  | .decode _ => true
  | _ => false

/-- PJSIP gets its packet. -/
def Label.isTake : Label → Bool
  | .take => true
  | _ => false

/-- A waiting request, where `k` steps of the decoder are enough. -/
structure Served (k : ℕ) (s : Playback) : Prop where
  running : s.running = true
  player : s.player = .waiting
  soon : s.decodedQueue ≠ [] ∨ s.decoder.rank ≤ k

theorem rank_packets_pos {frame : Frame} : (Decoder.packets frame.packets).rank = 3 := by
  have htwo : frame.playbackDuration / 20 ≠ 0 := by
    rcases frame.hduration with hd | hd | hd <;> simp [hd]
  obtain ⟨m, hm⟩ := Nat.exists_eq_succ_of_ne_zero htwo
  simp [Frame.packets, hm, List.range_succ_eq_map, Decoder.rank]

/-- Each step of the decoder brings the packet nearer. -/
theorem Served.step {k : ℕ} (h : Served k s) (hsane : Sane n s) (hmoved : Moved s l s')
    (hstop : l.isStop = false) (htake : l.isTake = false) :
    Served (k - if l.isDecode then 1 else 0) s' := by
  obtain ⟨hrunning, hplayer, hsoon⟩ := h
  have hne : s.player ≠ .idle := by simp [hplayer]
  cases hmoved with
  | activate => exact ⟨hrunning, hplayer, hsoon⟩
  | inactive hidle => exact absurd hidle hne
  | second hidle => exact absurd hidle hne
  | silence hidle => exact absurd hidle hne
  | first hidle => exact absurd hidle hne
  | request hidle => exact absurd hidle hne
  | take => exact Bool.noConfusion htake
  | giveBack _ _ hcopied => exact Player.noConfusion (hplayer.symm.trans hcopied)
  | frame frame hdecoder =>
    refine ⟨hrunning, hplayer, hsoon.imp_right fun hrank => ?_⟩
    rw [hdecoder] at hrank
    rw [rank_packets_pos]
    exact Nat.le_sub_one_of_lt hrank
  | leave _ _ hoff => exact Bool.noConfusion (hrunning.symm.trans hoff)
  | done _ hdecoder =>
    refine ⟨hrunning, hplayer, hsoon.imp_right fun hrank => ?_⟩
    rw [hdecoder] at hrank
    exact Nat.le_sub_one_of_lt hrank
  | acquire _ _ _ hdecoder =>
    refine ⟨hrunning, hplayer, hsoon.imp_right fun hrank => ?_⟩
    rw [hdecoder] at hrank
    exact Nat.le_sub_one_of_lt hrank
  | exit _ _ _ _ hoff => exact Bool.noConfusion (hrunning.symm.trans hoff)
  | lose _ pkt todo hdecoder _ hget =>
    refine ⟨hrunning, hplayer, .inl fun (hnone : s.decodedQueue = []) => ?_⟩
    -- PJSIP holds no buffer while it waits, and the queue is empty
    have hfull := hsane.holds.le_length hget
    simp [hsane.count, held, hplayer, hdecoder, hnone, Player.holds, Decoder.holds] at hfull
  | copy _ _ _ _ _ hdecoder =>
    refine ⟨hrunning, hplayer, hsoon.imp_right fun hrank => ?_⟩
    rw [hdecoder] at hrank
    exact Nat.le_sub_one_of_lt hrank
  | queue => exact ⟨hrunning, hplayer, .inl (by simp)⟩
  | start hoff => exact Bool.noConfusion (hrunning.symm.trans hoff)
  | stop => exact Bool.noConfusion hstop
  | stopped => exact Bool.noConfusion hstop

/-- While a request waits for a packet, nothing keeps the decoder from its next step. -/
theorem Sane.exists_decode (h : Sane n s) (hrunning : s.running = true)
    (hplayer : s.player = .waiting) (hqueue : s.decodedQueue = []) (frame : Frame) :
    ∃ s', Step s (.decode frame) s' := by
  have hgoing : ¬ s.aborted = true := by simp [h.going]
  have halive := h.alive hrunning
  suffices hsome : ∃ s', s.decode frame = some s' by
    obtain ⟨s', hs'⟩ := hsome
    exact ⟨s', by simp only [Step, next, if_neg hgoing, hs']⟩
  unfold decode
  split
  · rename_i hdecoder
    simp [hdecoder, Decoder.alive] at halive
  · simp [hrunning]
  · simp
  · rename_i pkt todo hdecoder
    -- both permits are there
    have henough := h.enough
    have hsized : (s.outputBufferSize != 0) = true := by simpa using h.sized (by simp [hplayer])
    simp [made, permits, hsized, hdecoder, hplayer, hqueue, Decoder.permits, Player.holds]
      at henough
    rw [if_neg (by omega)]
    exact ⟨_, rfl⟩
  · rw [if_neg (by simp [hrunning])]
    split <;> exact ⟨_, rfl⟩
  · simp [hqueue]

theorem Decoder.rank_le (decoder : Decoder) : decoder.rank ≤ 5 := by
  rcases decoder with - | - | (_ | _) | - | - <;> simp [rank]

theorem Decoder.rank_pos {decoder : Decoder} (h : decoder.alive = true) : 0 < decoder.rank := by
  rcases decoder with - | - | (_ | _) | - | - <;> simp_all [rank, alive]

theorem served_after {buffer : List UInt8} {s₀ : Playback} {ls₀ : List Label} {k : ℕ}
    (hrun₀ : Run Step { buffer } ls₀ s₀) (hserved : Served k s₀) (hrun : Run Step s₀ ls s)
    (hstop : ls.countP Label.isStop = 0) (htake : ls.countP Label.isTake = 0) :
    Served (k - ls.countP Label.isDecode) s := by
  induction hrun with
  | nil => exact hserved
  | snoc hrun' hs ih =>
    rw [List.countP_append, List.countP_singleton, Nat.add_eq_zero_iff] at hstop htake
    have hsane := sane_of_run (hrun₀.trans hrun')
    have hnext := (ih hstop.1 htake.1).step hsane (hsane.moved hs) (by simpa using hstop.2)
      (by simpa using htake.2)
    rwa [List.countP_append, List.countP_singleton, ← Nat.sub_sub]

/-- While the decoder runs, PJSIP never waits for it in vain : the decoder can take its next step,
and after five of them there is a packet, whatever else happens. -/
theorem supplied_of_run {buffer : List UInt8} {s₀ : Playback} {ls₀ : List Label}
    (hrun₀ : Run Step { buffer } ls₀ s₀) (hrunning : s₀.running = true)
    (hplayer : s₀.player = .waiting) :
    (s₀.decodedQueue = [] → ∀ frame, ∃ s, Step s₀ (.decode frame) s) ∧
      ∀ ls s, Run Step s₀ ls s → ls.countP Label.isStop = 0 → ls.countP Label.isTake = 0 →
        s.player = .waiting ∧ (5 ≤ ls.countP Label.isDecode → s.decodedQueue ≠ []) := by
  refine ⟨fun hqueue => (sane_of_run hrun₀).exists_decode hrunning hplayer hqueue,
    fun ls s hrun hstop htake => ?_⟩
  have hserved := served_after hrun₀ ⟨hrunning, hplayer, .inr s₀.decoder.rank_le⟩ hrun hstop
    htake
  refine ⟨hserved.player, fun hfive hqueue => ?_⟩
  rcases hserved.soon with hsome | hrank
  · exact hsome hqueue
  · have halive := (sane_of_run (hrun₀.trans hrun)).alive hserved.running
    have hpos := Decoder.rank_pos halive
    omega

theorem supplied_of_run_opening : ∃ s₀ s, Run Step { buffer := zeros } opening s₀ ∧
    s₀.decodedQueue = [] ∧ Run Step s₀ (List.replicate 5 (.decode tone)) s ∧
      s.decodedQueue ≠ [] := by
  have hrun₀ := run_of_exec { buffer := zeros } opening rfl
  have hserved := (supplied_of_run hrun₀ rfl rfl).2 (List.replicate 5 (.decode tone)) _
    (run_of_exec _ _ rfl) rfl rfl
  exact ⟨_, _, hrun₀, rfl, run_of_exec _ _ rfl, hserved.2 (by decide)⟩

/-! ## A request that waits for ever -/

/-- The decoder is started. -/
def Label.isStart : Label → Bool
  | .start => true
  | _ => false

/-- A request that waits while nothing is on the way to it. -/
structure Stranded (s₀ s : Playback) : Prop where
  off : s.running = false
  player : s.player = .waiting
  empty : s.decodedQueue = []
  none : s.decoder.holds = []
  taken : s.taken = s₀.taken
  heard : s.heard = s₀.heard

theorem Stranded.step {s₀ : Playback} (h : Stranded s₀ s) (hmoved : Moved s l s')
    (hstart : l.isStart = false) : Stranded s₀ s' := by
  obtain ⟨hoff, hplayer, hempty, hnone, htaken, hheard⟩ := h
  have hne : s.player ≠ .idle := by simp [hplayer]
  cases hmoved with
  | activate | stopped => exact ⟨hoff, hplayer, hempty, hnone, htaken, hheard⟩
  | inactive hidle => exact absurd hidle hne
  | second hidle => exact absurd hidle hne
  | silence hidle => exact absurd hidle hne
  | first hidle => exact absurd hidle hne
  | request hidle => exact absurd hidle hne
  | take _ _ _ hqueue => exact absurd (hempty.symm.trans hqueue) (List.cons_ne_nil _ _).symm
  | giveBack _ _ hcopied => exact Player.noConfusion (hplayer.symm.trans hcopied)
  | frame _ _ hon => exact Bool.noConfusion (hoff.symm.trans hon)
  | leave => exact ⟨hoff, hplayer, hempty, rfl, htaken, hheard⟩
  | done => exact ⟨hoff, hplayer, hempty, rfl, htaken, hheard⟩
  | acquire => exact ⟨hoff, hplayer, hempty, rfl, htaken, hheard⟩
  | exit => exact ⟨hoff, hplayer, hempty, rfl, htaken, hheard⟩
  | lose _ _ _ _ hon => exact Bool.noConfusion (hoff.symm.trans hon)
  | copy _ _ _ _ _ _ hon => exact Bool.noConfusion (hoff.symm.trans hon)
  | queue _ _ _ hdecoder => simp [hdecoder, Decoder.holds] at hnone
  | start => exact Bool.noConfusion hstart
  | stop hon => exact Bool.noConfusion (hoff.symm.trans hon)

/-- If the decoder is stopped while PJSIP waits and no packet is in the queue or on its way into it,
the request never returns : PJSIP's thread waits until somebody starts the decoder again, or
destroys it. -/
theorem stranded_of_run {buffer : List UInt8} {s₀ : Playback} {ls₀ : List Label}
    (hrun₀ : Run Step { buffer } ls₀ s₀) (hplayer : s₀.player = .waiting)
    (hempty : s₀.decodedQueue = []) (hnone : s₀.decoder.holds = [])
    (hrun : Run Step s₀.stop ls s) (hstart : ls.countP Label.isStart = 0) :
    s.player = .waiting ∧ s.taken = s₀.taken ∧ s.heard = s₀.heard := by
  have hsane₀ := sane_of_run hrun₀
  have hgoing : ¬ s₀.aborted = true := by simp [hsane₀.going]
  have hstop : Step s₀ .stop s₀.stop := by simp only [Step, next, if_neg hgoing]
  have hstranded : Stranded s₀ s₀.stop := by
    unfold stop
    split_ifs with hrunning
    · exact ⟨rfl, hplayer, hempty, hnone, rfl, rfl⟩
    · exact ⟨by simpa using hrunning, hplayer, hempty, hnone, rfl, rfl⟩
  suffices hlast : Stranded s₀ s from ⟨hlast.player, hlast.taken, hlast.heard⟩
  induction hrun with
  | nil => exact hstranded
  | snoc hrun' hs ih =>
    rw [List.countP_append, List.countP_singleton, Nat.add_eq_zero_iff] at hstart
    have hsane := sane_of_run ((hrun₀.snoc hstop).trans hrun')
    exact (ih hstart.1).step (hsane.moved hs) (by simpa using hstart.2)

theorem stranded_of_run_opening : ∃ s₀ s, Run Step { buffer := zeros } opening s₀ ∧
    Run Step s₀.stop [.decode tone, .decode tone, .activate false] s ∧ s.decoder = .off ∧
      s.player = .waiting := by
  have hrun₀ := run_of_exec { buffer := zeros } opening rfl
  have hstranded := stranded_of_run hrun₀ rfl rfl rfl
    (run_of_exec _ [.decode tone, .decode tone, .activate false] rfl) rfl
  exact ⟨_, _, hrun₀, run_of_exec _ _ rfl, rfl, hstranded.1⟩

end Playback

end TelegramProvider
