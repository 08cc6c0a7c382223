import AMLDigitalFPV.DvrRecorder.Writer

open floating_point amldigitalfpv.frame_ring_buffer

namespace amldigitalfpv.dvr_recorder

variable {ω : Type} (H : Host ω)

/-- A rotation inside the drain loop, whose only reaction to failure is a
line in the log. -/
def DvrRecorder.try_rotate (w : World ω) : World ω :=
  let rotated := DvrRecorder.rotate_recording_file H w
  if rotated.1 then rotated.2 else rotated.2.log .failed_to_rotate

/-- The drain loop's body after a frame has been written with an accepted
status. The flag says whether the loop goes on. -/
def DvrRecorder.after_write (w : World ω) : Bool × World ω :=
  let w :=
    if w.self.rotate_requested_ then
      DvrRecorder.try_rotate H (w.update fun self => { self with rotate_requested_ := false })
    else
      w
  if w.self.stop_requested_ then
    let w := w.update fun self => { self with stop_requested_ := false }
    let w := DvrRecorder.close_writer H true (w.log .stopping_after_write_failures)
    (false, w.update fun self => self.clear_ring_buffer.reset_warmup_state)
  else if w.self.current_file_bytes_ ≥ kMaxFat32Size then
    (true, DvrRecorder.try_rotate H w)
  else
    (true, w)

/-- One iteration of the drain loop. The flag says whether the loop goes on. -/
def DvrRecorder.drain_body (w : World ω) : Bool × World ω :=
  let popped := w.self.ring_buffer_.pop
  let w := w.update fun self => { self with ring_buffer_ := popped.2 }
  match popped.1 with
  | none => (false, w)
  | some frame =>
    let duration :=
      if w.self.frame_duration_ = 0 then kDefaultFrameDuration else w.self.frame_duration_
    let written := mp4_h26x_write_nal H frame duration w
    if ¬ (written.1 = MP4E_STATUS_OK ∨ written.1 = MP4E_STATUS_BAD_ARGUMENTS) then
      (false, (written.2.log (.write_nal_returned written.1)).update fun self =>
        { self with stop_requested_ := true })
    else
      DvrRecorder.after_write H written.2

def DvrRecorder.drain_condition (self : DvrRecorder) : Bool :=
  self.ready_to_write && self.warmup_done_ && !self.ring_buffer_.empty

/-- The drain loop. Every iteration pops one element of the ring, so the
ring's size bounds the number of iterations. -/
def DvrRecorder.drain : Nat → World ω → World ω
  | 0, w => w
  | fuel + 1, w =>
    if w.self.drain_condition then
      let body := DvrRecorder.drain_body H w
      if body.1 then DvrRecorder.drain fuel body.2 else body.2
    else
      w

/-- A difference of two `uint64_t` values. -/
def u64_sub (a b : Nat) : Nat := (a + 2 ^ 64 - b % 2 ^ 64) % 2 ^ 64

/-- The part of the warm-up that counts the frame. -/
def DvrRecorder.count_frame (w : World ω) : World ω :=
  if w.self.warmup_start_ms_ = 0 then
    (monotonic_ms H w).2.update fun self =>
      { self with warmup_start_ms_ := (monotonic_ms H w).1, warmup_frame_count_ := 1 }
  else
    -- `warmup_frame_count_` is a 32-bit `size_t`
    w.update fun self =>
      { self with warmup_frame_count_ := (self.warmup_frame_count_ + 1) % 2 ^ 32 }

/-- The frame rate of a warm-up that has taken some time. -/
def DvrRecorder.warm_up_fps (elapsed : Nat) (self : DvrRecorder) : ℚ :=
  max 1 (⌈binary64.round (self.warmup_frame_count_ * 1000 / binary64.round elapsed)⌉ : ℤ)

/-- The part of the warm-up that opens the writer once the second is over. -/
def DvrRecorder.finish_warm_up (elapsed : Nat) (w : World ω) : World ω :=
  let fps := w.self.warm_up_fps elapsed
  let opened := DvrRecorder.open_writer H false w
  if opened.1 then
    let w := opened.2.update fun self =>
      { self.update_frame_rate fps with
        warmup_done_ := true
        warmup_start_ms_ := 0
        warmup_frame_count_ := 0 }
    w.log (.warm_up_completed fps)
  else
    (opened.2.log .open_after_warm_up_failed).update fun self =>
      ({ self with recording_ := false } : DvrRecorder).reset_warmup_state.clear_ring_buffer

/-- A frame that arrives before the warm-up is over. It is counted and
dropped. -/
def DvrRecorder.warm_up (w : World ω) : World ω :=
  let w := DvrRecorder.count_frame H w
  let reading := monotonic_ms H w
  let elapsed := u64_sub reading.1 w.self.warmup_start_ms_
  if elapsed ≥ 1000 ∧ w.self.warmup_frame_count_ > 0 then
    DvrRecorder.finish_warm_up H elapsed reading.2
  else
    reading.2

/-- The `switch` of the worker's loop. -/
def DvrRecorder.handle_command (cmd : Command) (w : World ω) : World ω :=
  match cmd.type with
  | .Start =>
    if ¬ w.self.recording_ then
      let w := w.update fun self =>
        { self.clear_ring_buffer.reset_warmup_state with recording_ := true }
      w.log .warm_up_started
    else
      w
  | .Stop =>
    (DvrRecorder.close_writer H true w).update fun self =>
      self.clear_ring_buffer.reset_warmup_state
  | .Frame =>
    match cmd.frame with
    | none => w
    | some frame =>
      if ¬ w.self.recording_ then
        w
      else if ¬ w.self.warmup_done_ then
        DvrRecorder.warm_up H w
      else
        let w := w.update fun self =>
          { self with ring_buffer_ := self.ring_buffer_.push (some frame) }
        DvrRecorder.drain H w.self.ring_buffer_.size_ w
  | .Shutdown =>
    let w := w.update fun self => { self with running_ := false }
    (DvrRecorder.close_writer H true w).update fun self =>
      self.clear_ring_buffer.reset_warmup_state

/-- The worker's reaction to a dequeued command. Leaving the loop closes the
writer once more. -/
def DvrRecorder.process_command (cmd : Command) (w : World ω) : World ω :=
  let w := DvrRecorder.handle_command H cmd w
  if cmd.type = .Shutdown then DvrRecorder.close_writer H true w else w

/-- One round of the worker's loop. After a `Shutdown` no further command is
dequeued. -/
def DvrRecorder.worker_step (w : Worker ω) (cmd : Command) : Worker ω :=
  if w.exited then
    w
  else
    { toWorld := DvrRecorder.process_command H cmd w.toWorld
      exited := cmd.type = .Shutdown }

/-- The worker after it has dequeued the commands in order. -/
def DvrRecorder.worker_loop (w : Worker ω) (cmds : List Command) : Worker ω :=
  cmds.foldl (DvrRecorder.worker_step H) w

end amldigitalfpv.dvr_recorder
