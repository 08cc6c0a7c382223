import AMLDigitalFPV.Library.Transition
import Mathlib.Data.Rat.Defs

namespace amldigitalfpv.gst_rtp_receiver

/-- Handles stand for pointers, threads and file descriptors. No handle is
given out twice. -/
abbrev Handle := Nat

inductive GstState where
  | PAUSED
  | PLAYING
deriving DecidableEq, Repr

/-- A seek event: its rate, and where playback is to start unless it goes on
from the current position. -/
structure Seek where
  rate : ℚ
  start : Option Int := none
deriving DecidableEq

/-- A pipeline, with the target of the last state change and the seek events
that it has accepted, oldest first. -/
structure Pipeline where
  handle : Handle
  state : Option GstState := none
  seeks : List Seek := []
deriving DecidableEq

/-- The rate of the last seek event. -/
def Pipeline.rate (pipeline : Pipeline) : ℚ := pipeline.seeks.getLast?.elim 1 Seek.rate

/-- What the receiver acquires. A reference of `gst_parse_launch` to something
that is no pipeline and not kept counts as an element. -/
inductive Resource where
  | pull_samples_thread
  | read_socket_thread
  | pipeline
  | element
  | buffer_pool
  | udp_socket
  | unix_socket
deriving DecidableEq, Repr

inductive Action where
  | acquire (resource : Resource) (handle : Handle)
  | release (resource : Resource) (handle : Handle)
deriving DecidableEq, Repr

/-- The members of the class, less the callbacks and what only the text of the
pipeline depends on. `unix_socket` says whether the pointer is non-null, and
`sock` is `none` for -1. -/
structure GstRtpReceiver where
  m_gst_pipeline : Option Pipeline := none
  m_app_sink_element : Option Handle := none
  m_pull_samples_run : Bool := false
  m_pull_samples_thread : Option Handle := none
  unix_socket : Bool := false
  sock : Option Handle := none
  m_udp_appsrc : Bool := false
  m_read_socket_run : Bool := false
  m_read_socket_thread : Option Handle := none
  m_playback_rate : ℚ := 1
  m_is_paused : Bool := false
  m_pre_pause_rate : ℚ := 1
deriving DecidableEq

/-- The receiver, with the acquisitions and releases so far, oldest first, and
the number of handles given out. `aborted` says that an assertion has failed. -/
structure World where
  self : GstRtpReceiver := {}
  handles : Nat := 0
  trace : List Action := []
  aborted : Bool := false
deriving DecidableEq

/-- What `gst_parse_launch` returns. -/
inductive Object where
  | null
  | element
  | pipeline
deriving DecidableEq, Repr

/-- What GStreamer and the socket calls answer while a pipeline is launched. -/
structure Launch where
  object : Object := .pipeline
  error : Bool := false
  udp_socket : Bool := true
  appsrc : Bool := true
  pool_active : Bool := true
  appsink : Bool := true
  playing : Bool := true
deriving DecidableEq, Repr

namespace World

def update (f : GstRtpReceiver → GstRtpReceiver) (w : World) : World :=
  { w with self := f w.self }

/-- A new handle for something acquired. -/
def acquire (resource : Resource) (w : World) : Handle × World :=
  (w.handles,
    { w with
      handles := w.handles + 1
      trace := w.trace ++ [.acquire resource w.handles] })

def release (resource : Resource) (handle : Handle) (w : World) : World :=
  { w with trace := w.trace ++ [.release resource handle] }

def release_all (resource : Resource) (handles : Option Handle) (w : World) : World :=
  handles.elim w fun handle => w.release resource handle

end World

namespace GstRtpReceiver

/-- The part of `stop_receiving` that joins the threads. -/
def join_threads (w : World) : World :=
  let w := w.update fun self =>
    { self with m_pull_samples_run := false, m_read_socket_run := false }
  let w := (w.release_all .pull_samples_thread w.self.m_pull_samples_thread).update fun self =>
    { self with m_pull_samples_thread := none }
  (w.release_all .read_socket_thread w.self.m_read_socket_thread).update fun self =>
    { self with m_read_socket_thread := none }

/-- The part of `stop_receiving` that drops the pipeline. -/
def drop_pipeline (w : World) : World :=
  (w.release_all .pipeline (w.self.m_gst_pipeline.map Pipeline.handle)).update fun self =>
    { self with m_gst_pipeline := none }

/-- The part of `stop_receiving` that closes the socket, which is the one of
the constructor if the receiver has a Unix socket. -/
def close_socket (w : World) : World :=
  if w.self.m_udp_appsrc then
    let resource := if w.self.unix_socket then .unix_socket else .udp_socket
    (w.release_all resource w.self.sock).update fun self => { self with sock := none }
  else
    w

def stop_receiving (w : World) : World := close_socket (drop_pipeline (join_threads w))

/-- The beginning of both `switch_to_stream` and `switch_to_file_playback`,
after the stop. The flag says whether the function goes on. -/
def construct_pipeline (launch : Launch) (w : World) : Bool × World :=
  match launch.object, launch.error with
  | .null, _ => (false, w)
  | .element, false => (false, (w.acquire .element).2)
  | .pipeline, false | .element, true | .pipeline, true =>
    -- an error leaves the pipeline behind, without its launch
    let pipeline := w.acquire .pipeline
    (!launch.error,
      pipeline.2.update fun self => { self with m_gst_pipeline := some { handle := pipeline.1 } })

/-- The part of `switch_to_stream` that creates the UDP socket. -/
def create_udp_socket (launch : Launch) (w : World) : Bool × World :=
  if w.self.m_udp_appsrc ∧ ¬ w.self.unix_socket ∧ w.self.sock = none then
    if launch.udp_socket then
      let sock := w.acquire .udp_socket
      (true, sock.2.update fun self => { self with sock := some sock.1 })
    else
      (false, w)
  else
    (true, w)

/-- The pool is attached to the element without a function that would release
it. -/
def setup_appsrc_buffer_pool (launch : Launch) (w : World) : World :=
  let pool := w.acquire .buffer_pool
  if launch.pool_active then pool.2 else pool.2.release .buffer_pool pool.1

/-- The part of `switch_to_stream` that sets up the appsrc, which does the same
for both kinds of socket. -/
def start_read_socket (launch : Launch) (w : World) : Bool × World :=
  if w.self.unix_socket ∨ w.self.m_udp_appsrc then
    if launch.appsrc then
      let w := setup_appsrc_buffer_pool launch (w.acquire .element).2
      let thread := w.acquire .read_socket_thread
      (true, thread.2.update fun self =>
        { self with m_read_socket_run := true, m_read_socket_thread := some thread.1 })
    else
      (false, w)
  else
    (true, w)

/-- The end of both `switch_to_stream` and `switch_to_file_playback`. -/
def start_playing (launch : Launch) (w : World) : World :=
  if launch.appsink then
    let appsink := w.acquire .element
    let thread := appsink.2.acquire .pull_samples_thread
    thread.2.update fun self =>
      { self with
        m_app_sink_element := some appsink.1
        m_gst_pipeline := self.m_gst_pipeline.map fun pipeline =>
          if launch.playing then { pipeline with state := some .PLAYING } else pipeline
        m_pull_samples_run := true
        m_pull_samples_thread := some thread.1 }
  else
    { w.update (fun self => { self with m_app_sink_element := none }) with aborted := true }

def switch_to_file_playback (launch : Launch) (w : World) : World :=
  let constructed := construct_pipeline launch (stop_receiving w)
  if constructed.1 then start_playing launch constructed.2 else constructed.2

def switch_to_stream (launch : Launch) (w : World) : World :=
  let constructed := construct_pipeline launch (stop_receiving w)
  if constructed.1 then
    let created := create_udp_socket launch constructed.2
    if created.1 then
      let started := start_read_socket launch created.2
      if started.1 then start_playing launch started.2 else started.2
    else
      created.2
  else
    constructed.2

def start_receiving (launch : Launch) (w : World) : World :=
  if w.self.m_gst_pipeline = none then switch_to_stream launch w
  else { w with aborted := true }

def set_udp_appsrc (enable : Bool) (self : GstRtpReceiver) : GstRtpReceiver :=
  { self with m_udp_appsrc := enable }

/-- The pipeline after it has accepted a seek event. -/
def seek (seek : Seek) (self : GstRtpReceiver) : GstRtpReceiver :=
  { self with
    m_gst_pipeline := self.m_gst_pipeline.map fun pipeline =>
      { pipeline with seeks := pipeline.seeks ++ [seek] } }

/-- The pipeline after it has accepted a state change. -/
def change_state (state : GstState) (self : GstRtpReceiver) : GstRtpReceiver :=
  { self with
    m_gst_pipeline := self.m_gst_pipeline.map fun pipeline =>
      { pipeline with state := some state } }

def set_playback_rate (rate : ℚ) (accepted : Bool) (self : GstRtpReceiver) : GstRtpReceiver :=
  if self.m_gst_pipeline = none then self
  else if accepted then { self.seek { rate := rate } with m_playback_rate := rate }
  else self

def fast_forward (rate : ℚ) (accepted : Bool) (self : GstRtpReceiver) : GstRtpReceiver :=
  self.set_playback_rate (if rate ≤ 1 then 2 else rate) accepted

def fast_rewind (rate : ℚ) (accepted : Bool) (self : GstRtpReceiver) : GstRtpReceiver :=
  self.set_playback_rate (-(if rate ≤ 1 then 2 else rate)) accepted

def normal_playback (accepted : Bool) (self : GstRtpReceiver) : GstRtpReceiver :=
  self.set_playback_rate 1 accepted

/-- `set_state` and `get_state` say whether the two calls avoid
`GST_STATE_CHANGE_FAILURE`. -/
def pause (set_state get_state : Bool) (self : GstRtpReceiver) : GstRtpReceiver :=
  if self.m_gst_pipeline = none then self
  else if self.m_is_paused then self
  else
    let self := { self with m_pre_pause_rate := self.m_playback_rate }
    if ¬ set_state then self
    else if ¬ get_state then self.change_state .PAUSED
    else { self.change_state .PAUSED with m_is_paused := true }

def resume (set_state accepted : Bool) (self : GstRtpReceiver) : GstRtpReceiver :=
  if self.m_gst_pipeline = none then self
  else if ¬ self.m_is_paused then self
  else if ¬ set_state then self
  else
    let self := self.change_state .PLAYING
    let self :=
      if self.m_pre_pause_rate ≠ 1 then self.set_playback_rate self.m_pre_pause_rate accepted
      else self
    { self with m_is_paused := false }

def GST_MSECOND : Int := 1000000

/-- `position` is the answer to the query for the current position. -/
def skip_duration (skip_ms : Int) (position : Option Int) (accepted : Bool)
    (self : GstRtpReceiver) : GstRtpReceiver :=
  if self.m_gst_pipeline = none then self
  else if skip_ms = 0 then self
  else
    match position with
    | none => self
    | some current_pos =>
      let new_pos := current_pos + skip_ms * GST_MSECOND
      let new_pos := if new_pos < 0 then 0 else new_pos
      if accepted then self.seek { rate := 1, start := some new_pos } else self

end GstRtpReceiver

/-- A call of a member function, with what the calls it makes answer. -/
inductive Call where
  | start_receiving (launch : Launch)
  | stop_receiving
  | switch_to_file_playback (launch : Launch)
  | switch_to_stream (launch : Launch)
  | set_udp_appsrc (enable : Bool)
  | fast_forward (rate : ℚ) (accepted : Bool)
  | fast_rewind (rate : ℚ) (accepted : Bool)
  | normal_playback (accepted : Bool)
  | pause (set_state get_state : Bool)
  | resume (set_state accepted : Bool)
  | skip_duration (skip_ms : Int) (position : Option Int) (accepted : Bool)
deriving DecidableEq

def call (w : World) : Call → World
  | .start_receiving launch => GstRtpReceiver.start_receiving launch w
  | .stop_receiving => GstRtpReceiver.stop_receiving w
  | .switch_to_file_playback launch => GstRtpReceiver.switch_to_file_playback launch w
  | .switch_to_stream launch => GstRtpReceiver.switch_to_stream launch w
  | .set_udp_appsrc enable => w.update (GstRtpReceiver.set_udp_appsrc enable)
  | .fast_forward rate accepted => w.update (GstRtpReceiver.fast_forward rate accepted)
  | .fast_rewind rate accepted => w.update (GstRtpReceiver.fast_rewind rate accepted)
  | .normal_playback accepted => w.update (GstRtpReceiver.normal_playback accepted)
  | .pause set_state get_state => w.update (GstRtpReceiver.pause set_state get_state)
  | .resume set_state accepted => w.update (GstRtpReceiver.resume set_state accepted)
  | .skip_duration skip_ms position accepted =>
    w.update (GstRtpReceiver.skip_duration skip_ms position accepted)

/-- The calls of a run, one after the other, up to a failed assertion. -/
def step (w : World) (next : Call) : Option World := if w.aborted then none else some (call w next)

/-- The receiver as one of its constructors leaves it. -/
def constructed (unix_socket : Option Handle) : World :=
  { self := { unix_socket := unix_socket.isSome, sock := unix_socket } }

end amldigitalfpv.gst_rtp_receiver
