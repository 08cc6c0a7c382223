import AMLDigitalFPV.FrameRingBuffer
import Mathlib.Data.Rat.Floor

open amldigitalfpv.frame_ring_buffer

namespace amldigitalfpv.dvr_recorder

/-- An access unit as the receiver hands it over. -/
abbrev Frame := List UInt8

/-- The characters of a `std::filesystem::path`; the empty path is `[]`. -/
abbrev Path := List Char

/-- Handles stand for the pointers returned by `fopen` and `MP4E_open`. No
handle is given out twice. -/
abbrev Handle := Nat

inductive VideoCodec where
  | UNKNOWN
  | H264
  | H265
deriving DecidableEq, Repr

inductive CommandType where
  | Start
  | Stop
  | Frame
  | Shutdown
deriving DecidableEq, Repr

structure Command where
  type : CommandType
  frame : Option Frame
deriving DecidableEq, Repr

def kDefaultFrameDuration : Nat := 1500 -- ~60fps fallback

def kMaxFat32Size : Nat := 4 * 1024 * 1024 * 1024 - 64 * 1024

def MP4E_STATUS_OK : Int := 0

def MP4E_STATUS_BAD_ARGUMENTS : Int := -1

/-- The members of the class, less the command queue and the worker's thread.
`writer_` says whether the pointer is non-null; what it points to is on the
muxer's side of the `Host`. -/
structure DvrRecorder where
  ring_buffer_ : FrameRingBuffer Frame := FrameRingBuffer.new 120
  warmup_done_ : Bool := false
  warmup_start_ms_ : Nat := 0
  warmup_frame_count_ : Nat := 0
  running_ : Bool := true
  video_width_ : Nat := 0
  video_height_ : Nat := 0
  video_fps_hint_ : Nat := 0
  frame_duration_ : Nat := 1500
  codec_ : VideoCodec := .H265
  override_path_ : Path := []
  recording_ : Bool := false
  writer_ready_ : Bool := false
  file_ : Option Handle := none
  mux_ : Option Handle := none
  writer_ : Bool := true
  current_file_bytes_ : Nat := 0
  rotate_requested_ : Bool := false
  stop_requested_ : Bool := false
deriving DecidableEq, Repr

/-- One call of `file_write_callback` by the muxer, with what the C library
answers in it: whether `fseek` returned zero and how many bytes `fwrite`
reported. -/
structure WriteCall where
  offset : Int
  size : Nat
  fseek_ok : Bool
  fwrite_count : Nat
deriving DecidableEq, Repr

/-- The lines the worker logs, one for each `spdlog` call. -/
inductive LogLine where
  | warm_up_started
  | warm_up_completed (fps : ℚ)
  | open_after_warm_up_failed
  | write_nal_returned (res : Int)
  | failed_to_rotate
  | stopping_after_write_failures
  | invalid_video_params (width height : Nat)
  | no_record_directory
  | failed_to_open_file (path : Path)
  | mp4e_open_failed
  | failed_to_allocate_writer
  | write_init_failed
  | recording_to (path : Path)
  | dvr_stopped
deriving DecidableEq

/-- What the worker does to the world outside its own members. -/
inductive Action where
  | fopen (file : Handle) (path : Path)
  | fclose (file : Handle)
  | mp4e_open (mux : Handle)
  | mp4e_close (mux : Handle)
  | write_nal (frame : Frame) (duration : Nat) (res : Int) (calls : List WriteCall)
  | log (line : LogLine)
deriving DecidableEq

/-- Everything the worker consults, as one state of type `ω` and the answers
it gives: the clock, the file system, the allocator and the muxer. A call into
the muxer answers with its return value and with the calls of the write
callback it made, in order. -/
structure Host (ω : Type) where
  monotonic_ms : ω → Nat × ω
  resolve_target_file : Path → ω → Path × ω
  fopen : Path → ω → Bool × ω
  fclose : ω → ω
  malloc : ω → Bool × ω
  MP4E_open : DvrRecorder → ω → (Bool × List WriteCall) × ω
  MP4E_close : DvrRecorder → ω → List WriteCall × ω
  mp4_h26x_write_init : DvrRecorder → ω → Int × ω
  mp4_h26x_write_nal : DvrRecorder → Frame → Nat → ω → (Int × List WriteCall) × ω
  mp4_h26x_write_close : ω → ω

/-- The recorder and its surroundings. `trace` lists the actions taken so far,
oldest first, and `handles` counts the handles given out. -/
structure World (ω : Type) where
  self : DvrRecorder
  host : ω
  handles : Nat := 0
  trace : List Action := []
deriving DecidableEq

/-- A world with the worker in it. `exited` says that `worker_loop` has left
its loop. -/
structure Worker (ω : Type) extends World ω where
  exited : Bool := false
deriving DecidableEq

namespace World

variable {ω : Type}

def update (f : DvrRecorder → DvrRecorder) (w : World ω) : World ω :=
  { w with self := f w.self }

def perform (action : Action) (w : World ω) : World ω :=
  { w with trace := w.trace ++ [action] }

def log (line : LogLine) (w : World ω) : World ω := w.perform (.log line)

end World

end amldigitalfpv.dvr_recorder
