import AMLDigitalFPV.DvrRecorder.State
import AMLDigitalFPV.Library.FloatingPoint

open floating_point amldigitalfpv.frame_ring_buffer

namespace amldigitalfpv.dvr_recorder

def clamp_positive (value : Int) : Int := if value < 0 then 0 else value

/-- The write callback, with `token` being the recorder. The counters are the
only members it touches. -/
def DvrRecorder.file_write_callback (call : WriteCall) (self : DvrRecorder) : Int × DvrRecorder :=
  if self.file_ = none then
    (-1, self)
  else if ¬ call.fseek_ok then
    (-1, self)
  else if call.fwrite_count ≠ call.size then
    (-1, self)
  else
    let new_end := (clamp_positive call.offset).toNat + call.fwrite_count
    let self :=
      if new_end > self.current_file_bytes_ then
        { self with current_file_bytes_ := new_end }
      else
        self
    let self :=
      if new_end ≥ kMaxFat32Size then
        { self with rotate_requested_ := true }
      else
        self
    (0, self)

/-- The recorder after the callback calls of one muxer call. -/
def DvrRecorder.run_callbacks (calls : List WriteCall) (self : DvrRecorder) : DvrRecorder :=
  calls.foldl (fun self call => (self.file_write_callback call).2) self

/-- A double is the rational number that it stands for, and a quotient of doubles
is rounded. -/
def DvrRecorder.update_frame_rate (fps : ℚ) (self : DvrRecorder) : DvrRecorder :=
  if fps ≤ 1 then
    self
  else
    let raw := binary64.round (90000 / fps)
    let duration := ⌊raw⌋.toNat
    let duration := if duration = 0 then kDefaultFrameDuration else duration
    { self with frame_duration_ := max 375 (min duration 90000) } -- clamp to 240fps..1fps

def DvrRecorder.set_video_params (width height fps_hint : Nat) (codec : VideoCodec)
    (self : DvrRecorder) : DvrRecorder :=
  { self with
    video_width_ := width
    video_height_ := height
    video_fps_hint_ := fps_hint
    codec_ := codec
    frame_duration_ := kDefaultFrameDuration }

def DvrRecorder.set_override_path (path : Path) (self : DvrRecorder) : DvrRecorder :=
  { self with override_path_ := path }

def DvrRecorder.reset_warmup_state (self : DvrRecorder) : DvrRecorder :=
  { self with warmup_done_ := false, warmup_start_ms_ := 0, warmup_frame_count_ := 0 }

def DvrRecorder.clear_ring_buffer (self : DvrRecorder) : DvrRecorder :=
  { self with ring_buffer_ := self.ring_buffer_.clear }

def DvrRecorder.ready_to_write (self : DvrRecorder) : Bool :=
  self.recording_ && self.writer_ready_

section Calls

variable {ω : Type} (H : Host ω)

def monotonic_ms (w : World ω) : Nat × World ω :=
  ((H.monotonic_ms w.host).1, { w with host := (H.monotonic_ms w.host).2 })

def resolve_target_file (w : World ω) : Path × World ω :=
  ((H.resolve_target_file w.self.override_path_ w.host).1,
    { w with host := (H.resolve_target_file w.self.override_path_ w.host).2 })

def fopen (path : Path) (w : World ω) : Option Handle × World ω :=
  if (H.fopen path w.host).1 then
    (some w.handles,
      { w with
        host := (H.fopen path w.host).2
        handles := w.handles + 1
        trace := w.trace ++ [.fopen w.handles path] })
  else
    (none, { w with host := (H.fopen path w.host).2 })

def fclose (file : Handle) (w : World ω) : World ω :=
  { w with host := H.fclose w.host, trace := w.trace ++ [.fclose file] }

def MP4E_open (w : World ω) : Option Handle × World ω :=
  let reply := H.MP4E_open w.self w.host
  let w := { w with self := w.self.run_callbacks reply.1.2, host := reply.2 }
  if reply.1.1 then
    (some w.handles,
      { w with handles := w.handles + 1, trace := w.trace ++ [.mp4e_open w.handles] })
  else
    (none, w)

def MP4E_close (mux : Handle) (w : World ω) : World ω :=
  let reply := H.MP4E_close w.self w.host
  { w with
    self := w.self.run_callbacks reply.1
    host := reply.2
    trace := w.trace ++ [.mp4e_close mux] }

def mp4_h26x_write_init (w : World ω) : Int × World ω :=
  ((H.mp4_h26x_write_init w.self w.host).1,
    { w with host := (H.mp4_h26x_write_init w.self w.host).2 })

def mp4_h26x_write_nal (frame : Frame) (duration : Nat) (w : World ω) : Int × World ω :=
  let reply := H.mp4_h26x_write_nal w.self frame duration w.host
  (reply.1.1,
    { w with
      self := w.self.run_callbacks reply.1.2
      host := reply.2
      trace := w.trace ++ [.write_nal frame duration reply.1.1 reply.1.2] })

def mp4_h26x_write_close (w : World ω) : World ω :=
  { w with host := H.mp4_h26x_write_close w.host }

/-- The part of `close_writer` that finishes the MP4 file. -/
def DvrRecorder.close_mux (w : World ω) : World ω :=
  match w.self.mux_ with
  | some mux => (MP4E_close H mux w).update fun self => { self with mux_ := none }
  | none => w

/-- The part of `close_writer` that resets the NAL writer. -/
def DvrRecorder.close_nal_writer (w : World ω) : World ω :=
  if w.self.writer_ then mp4_h26x_write_close H w else w

/-- The part of `close_writer` that closes the stream. -/
def DvrRecorder.close_file (w : World ω) : World ω :=
  match w.self.file_ with
  | some file => (fclose H file w).update fun self => { self with file_ := none }
  | none => w

def DvrRecorder.close_writer (clear_recording : Bool) (w : World ω) : World ω :=
  if ¬ w.self.writer_ready_ then
    if clear_recording then
      w.update fun self => { self with recording_ := false }
    else
      w
  else
    let w := w.update fun self => { self with writer_ready_ := false }
    let w :=
      DvrRecorder.close_file H (DvrRecorder.close_nal_writer H (DvrRecorder.close_mux H w))
    let w := w.update fun self =>
      let self := { self with current_file_bytes_ := 0, rotate_requested_ := false }
      if clear_recording then { self with recording_ := false } else self
    w.log .dvr_stopped

/-- The part of `open_writer` that sees to it that there is a writer. -/
def DvrRecorder.allocate_writer (w : World ω) : World ω :=
  if w.self.writer_ then
    w
  else
    { w with
      self := { w.self with writer_ := (H.malloc w.host).1 }
      host := (H.malloc w.host).2 }

/-- The end of `open_writer`, reached with the muxer opened and the writer
initialised. -/
def DvrRecorder.start_writer (mark_recording : Bool) (path : Path) (mux : Handle)
    (w : World ω) : World ω :=
  let w := w.update fun self =>
    let self :=
      { self with
        mux_ := some mux
        writer_ready_ := true
        current_file_bytes_ := 0
        rotate_requested_ := false }
    let self := if mark_recording then { self with recording_ := true } else self
    if self.video_fps_hint_ > 0 then
      { self with frame_duration_ := max 1 (90000 / self.video_fps_hint_) }
    else
      self
  w.log (.recording_to path)

/-- The part of `open_writer` after a muxer has been opened on `file`. -/
def DvrRecorder.init_writer (mark_recording : Bool) (path : Path) (file mux : Handle)
    (w : World ω) : Bool × World ω :=
  let w := DvrRecorder.allocate_writer H w
  if ¬ w.self.writer_ then
    -- this exit leaves `file_` pointing to the closed file
    (false, fclose H file (MP4E_close H mux (w.log .failed_to_allocate_writer)))
  else
    let init := mp4_h26x_write_init H w
    if init.1 ≠ MP4E_STATUS_OK then
      let w := MP4E_close H mux (init.2.log .write_init_failed)
      (false, fclose H file (w.update fun self => { self with file_ := none }))
    else
      (true, DvrRecorder.start_writer mark_recording path mux init.2)

/-- The part of `open_writer` after `file` has been opened. -/
def DvrRecorder.open_mux (mark_recording : Bool) (path : Path) (file : Handle)
    (w : World ω) : Bool × World ω :=
  match MP4E_open H (w.update fun self => { self with file_ := some file }) with
  | (none, w) =>
    let w := (w.log .mp4e_open_failed).update fun self => { self with file_ := none }
    (false, fclose H file w)
  | (some mux, w) => DvrRecorder.init_writer H mark_recording path file mux w

def DvrRecorder.open_writer (mark_recording : Bool) (w : World ω) : Bool × World ω :=
  if w.self.writer_ready_ then
    (true, w)
  else if w.self.video_width_ = 0 ∨ w.self.video_height_ = 0 then
    (false, w.log (.invalid_video_params w.self.video_width_ w.self.video_height_))
  else
    let resolved := resolve_target_file H w
    if resolved.1 = [] then
      (false, resolved.2.log .no_record_directory)
    else
      match fopen H resolved.1 resolved.2 with
      | (none, w) => (false, w.log (.failed_to_open_file resolved.1))
      | (some file, w) => DvrRecorder.open_mux H mark_recording resolved.1 file w

def DvrRecorder.rotate_recording_file (w : World ω) : Bool × World ω :=
  if ¬ w.self.recording_ then
    (false, w)
  else
    DvrRecorder.open_writer H false (DvrRecorder.close_writer H false w)

end Calls

end amldigitalfpv.dvr_recorder
