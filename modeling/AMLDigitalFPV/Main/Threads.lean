import Mathlib.Data.List.TakeWhile
import AMLDigitalFPV.Library.Transition

namespace amldigitalfpv.process

/-- The steps of `main` and of the control thread. The mutex `g_receiver_mutex`
is left out: only the control thread takes it. -/
inductive Step where
  -- the receiver
  | set_udp_appsrc (enable : Bool)
  | set_audio_payload_callback (present : Bool)
  | clear_run_flags
  | join_pull_samples
  | join_read_socket
  | drop_pipeline
  | construct_pipeline
  | start_read_socket
  | play_pipeline
  | start_pull_samples
  -- `g_audio`
  | create_audio
  | stop_audio
  | reset_audio
  -- the rest of `main`
  | set_decoding_active (active : Bool)
  | start_decode
  | start_command
  | wait_for_signal
  | leave_try
  | enqueue_sentinel
  | join_decode
  | clear_command_running
  | join_command
  | shutdown_dvr
deriving DecidableEq, Repr

def stop_receiving : List Step :=
  [.clear_run_flags, .join_pull_samples, .join_read_socket, .drop_pipeline]

def switch_to_stream : List Step :=
  stop_receiving ++ [.construct_pipeline, .start_read_socket, .play_pipeline, .start_pull_samples]

def start_receiving : List Step := switch_to_stream

/-- What an early return of `switch_to_stream` leaves out. -/
def Step.launches : Step → Bool
  | .construct_pipeline | .start_read_socket | .play_pipeline | .start_pull_samples => true
  | _ => false

/-- The commands the control thread tells apart by their payload. -/
inductive UdpCommand where
  | record (start : Bool)
  | sound (enable : Bool)
  | ping
  | unknown
deriving DecidableEq, Repr

/-- What the control thread does to the receivers for a command. -/
def UdpCommand.steps : UdpCommand → List Step
  | .sound true =>
    [.create_audio] ++ stop_receiving ++
      [.set_udp_appsrc true, .set_audio_payload_callback true] ++ start_receiving
  | .sound false =>
    [.stop_audio, .reset_audio] ++ stop_receiving ++
      [.set_udp_appsrc false, .set_audio_payload_callback false] ++ start_receiving
  | .record _ | .ping | .unknown => []

/-- `main` from the construction of the receiver to its return. -/
def main_steps (enable_audio : Bool) : List Step :=
  [Step.set_udp_appsrc enable_audio] ++ (if enable_audio then [Step.create_audio] else []) ++
    [Step.set_decoding_active true, .start_decode] ++
    (if enable_audio then [Step.set_audio_payload_callback true] else []) ++ start_receiving ++
    [Step.start_command, .wait_for_signal] ++ stop_receiving ++
    [Step.leave_try, .set_decoding_active false, .enqueue_sentinel, .join_decode,
      .clear_command_running, .join_command, .shutdown_dvr, .stop_audio, .reset_audio]

inductive Pipeline where
  | absent
  | constructed
  | playing
deriving DecidableEq, Repr

/-- The thread of `loop_pull_samples`, at its loop test or with a sample for the
callback. -/
inductive Puller where
  | testing
  | pulled
deriving DecidableEq, Repr

/-- The thread of `loop_read_socket`: at its loop test, with an audio packet for
the callback, or in the callback after its test of `g_audio` found the receiver
of that number. -/
inductive Reader where
  | testing
  | received
  | tested (audio : Nat)
deriving DecidableEq, Repr

/-- The decode thread, whose loop test reads the flag and then the size. -/
inductive Decoder where
  | testing
  | sizing
  | waiting
  | dequeued (frame : Option Nat)
deriving DecidableEq, Repr

/-- What a packet is to `loop_read_socket`. -/
inductive Packet where
  | none
  | video (pushed : Bool)
  | audio
deriving DecidableEq, Repr

/-- The threads and what they share. `main` and `control` are the steps left to
do. A thread other than `main` is `none` when it does not run. Audio receivers
and frames are told apart by numbers, and the sentinel in the queue is `none`. -/
structure Process where
  main : List Step
  control : Option (List Step) := none
  puller : Option Puller := none
  reader : Option Reader := none
  decoder : Option Decoder := none
  pull_samples_run : Bool := false
  read_socket_run : Bool := false
  pipeline : Pipeline := .absent
  udp_appsrc : Bool := false
  audio_callback : Bool := false
  audio : Option Nat := none
  audios : Nat := 0
  decoding_active : Bool := false
  decode_queue : List (Option Nat) := []
  frames : Nat := 0
  submitted : List Nat := []
  command_running : Bool := false
deriving DecidableEq, Repr

/-- One step of `main` or of the control thread, with `ok` the outcome of the
launch. A join waits until its thread has finished. -/
def Process.perform (ok : Bool) (self : Process) : Step → Option Process
  | .set_udp_appsrc enable => some { self with udp_appsrc := enable }
  | .set_audio_payload_callback present => some { self with audio_callback := present }
  | .clear_run_flags => some { self with pull_samples_run := false, read_socket_run := false }
  | .join_pull_samples => if self.puller = none then some self else none
  | .join_read_socket => if self.reader = none then some self else none
  | .drop_pipeline => some { self with pipeline := .absent }
  | .construct_pipeline => some (if ok then { self with pipeline := .constructed } else self)
  | .start_read_socket =>
    if self.udp_appsrc ∧ ok then
      some { self with read_socket_run := true, reader := some .testing }
    else
      some self
  | .play_pipeline =>
    -- the assertion on the appsink of the pipeline
    if self.pipeline = .absent then none else some { self with pipeline := .playing }
  | .start_pull_samples => some { self with pull_samples_run := true, puller := some .testing }
  | .create_audio =>
    -- `AudioReceiver::start` always succeeds
    if self.audio = none then
      some { self with audio := some self.audios, audios := self.audios + 1 }
    else
      some self
  | .reset_audio => some { self with audio := none }
  | .set_decoding_active active => some { self with decoding_active := active }
  | .start_decode => some { self with decoder := some .testing }
  | .start_command => some { self with control := some [], command_running := true }
  | .enqueue_sentinel => some { self with decode_queue := self.decode_queue ++ [none] }
  | .join_decode => if self.decoder = none then some self else none
  | .clear_command_running => some { self with command_running := false }
  | .join_command => if self.control = none then some self else none
  | .stop_audio | .wait_for_signal | .leave_try | .shutdown_dvr => some self

/-- Whether `switch_to_stream` returns at a step that fails. -/
def Process.returns_early (ok : Bool) (self : Process) : Step → Bool
  | .construct_pipeline => !ok
  | .start_read_socket => self.udp_appsrc && !ok
  | _ => false

/-- The first of the steps left, with the steps left after it. -/
def Process.advance (ok : Bool) (self : Process) : List Step → Option (Process × List Step)
  | [] => none
  | next :: rest =>
    (self.perform ok next).map fun after =>
      (after, if self.returns_early ok next then rest.dropWhile Step.launches else rest)

/-- What can happen next. -/
inductive Event where
  | main (ok : Bool)
  | control (ok : Bool)
  | receive_command (command : UdpCommand)
  | finish_control
  | puller_loop (sample : Bool)
  | video_cb
  | reader_loop (packet : Packet)
  | test_audio
  | enqueue_payload
  | decoder_loop
  | decoder_dequeue (frame : Option Nat)
  | decoder_submit
deriving DecidableEq, Repr

def step (s : Process) : Event → Option Process
  | .main ok => (s.advance ok s.main).map fun (after, rest) => { after with main := rest }
  | .control ok =>
    (s.control.bind (s.advance ok)).map fun (after, rest) => { after with control := some rest }
  | .receive_command command =>
    if s.control = some [] ∧ s.command_running then
      some { s with control := some command.steps }
    else
      none
  | .finish_control =>
    -- the flag is clear, or a call on the socket has failed
    if s.control = some [] then some { s with control := none, command_running := false }
    else none
  | .puller_loop sample =>
    if s.puller = some .testing then
      if s.pull_samples_run then
        some { s with puller := some (if sample then .pulled else .testing) }
      else
        some { s with puller := none }
    else
      none
  | .video_cb =>
    if s.puller = some .pulled then
      some
        { s with
          puller := some .testing
          decode_queue := s.decode_queue ++ [some s.frames]
          frames := s.frames + 1 }
    else
      none
  | .reader_loop packet =>
    if s.reader = some .testing then
      if s.read_socket_run then
        match packet with
        | .none | .video true => some s
        | .video false => some { s with reader := none }
        | .audio =>
          some { s with reader := some (if s.audio_callback then .received else .testing) }
      else
        some { s with reader := none }
    else
      none
  | .test_audio =>
    if s.reader = some .received then
      some { s with reader := some (s.audio.elim .testing .tested) }
    else
      none
  | .enqueue_payload =>
    match s.reader with
    | some (.tested _) => some { s with reader := some .testing }
    | _ => none
  | .decoder_loop =>
    match s.decoder with
    | some .testing =>
      some { s with decoder := some (if s.decoding_active then .waiting else .sizing) }
    | some .sizing =>
      some { s with decoder := if s.decode_queue ≠ [] then some .waiting else none }
    | _ => none
  | .decoder_dequeue frame =>
    -- a dequeue may take any of the queued pointers
    if s.decoder = some .waiting ∧ frame ∈ s.decode_queue then
      some
        { s with
          decoder := some (.dequeued frame)
          decode_queue := s.decode_queue.erase frame }
    else
      none
  | .decoder_submit =>
    match s.decoder with
    | some (.dequeued frame) =>
      some { s with decoder := some .testing, submitted := s.submitted ++ frame.toList }
    | _ => none

/-- The process before the `try` block constructs anything. -/
def initial (enable_audio : Bool) : Process := { main := main_steps enable_audio }

/-- Whether the socket reader can still hand a packet to the callback. -/
def Process.reads (self : Process) : Bool :=
  match self.reader with
  | none => false
  | some .testing => self.read_socket_run
  | some _ => true

/-- What a step of `main` or of the control thread can do to the pipeline, the
threads of the receiver and `g_audio`, with `ok` the outcome of the launch. -/
structure Performed (ok : Bool) (next : Step) (before after : Process) : Prop where
  main : after.main = before.main
  control : after.control = before.control ∨ next = .start_command ∧ after.control = some []
  puller : after.puller = before.puller ∨ next = .start_pull_samples
  joined : next = .join_pull_samples → before.puller = none
  pipeline : after.pipeline = .playing →
    before.pipeline = .playing ∧ next ≠ .drop_pipeline ∨ next = .play_pipeline
  reader : ∀ audio, after.reader = some (.tested audio) → before.reader = some (.tested audio)
  absent : before.reader = none → after.reader = none ∨
    next = .start_read_socket ∧ ok = true ∧ before.udp_appsrc = true
  reads : before.reads = false → after.reads = false ∨ next = .start_read_socket
  joined_reader : next = .join_read_socket → before.reader = none
  audio : ∀ audio, before.audio = some audio → after.audio = some audio ∨ next = .reset_audio
  silent : before.audio = none → after.audio = none ∨ next = .create_audio

/-- The pipeline, the threads of the receiver and `g_audio` are left alone. -/
structure Untouched (before after : Process) : Prop where
  main : after.main = before.main
  control : after.control = before.control
  puller : after.puller = before.puller
  pipeline : after.pipeline = before.pipeline
  reader : after.reader = before.reader
  reads : after.reads = before.reads
  audio : after.audio = before.audio

theorem Untouched.performed {ok : Bool} {next : Step} {before after : Process}
    (h : Untouched before after) (hdropped : next ≠ .drop_pipeline)
    (hpuller : next = .join_pull_samples → before.puller = none)
    (hreader : next = .join_read_socket → before.reader = none) :
    Performed ok next before after where
  main := h.main
  control := .inl h.control
  puller := .inl h.puller
  joined := hpuller
  pipeline hplaying := .inl ⟨h.pipeline ▸ hplaying, hdropped⟩
  reader _ htested := h.reader ▸ htested
  absent hnone := .inl (h.reader.trans hnone)
  reads hreads := .inl (h.reads.trans hreads)
  joined_reader := hreader
  audio _ haudio := .inl (h.audio.trans haudio)
  silent hnone := .inl (h.audio.trans hnone)

theorem Process.perform_spec {ok : Bool} {self after : Process} {next : Step}
    (h : self.perform ok next = some after) : Performed ok next self after := by
  have hsame : Untouched self self := ⟨rfl, rfl, rfl, rfl, rfl, rfl, rfl⟩
  cases next with
  | join_pull_samples =>
    obtain ⟨hjoined, heq⟩ := Option.ite_none_right_eq_some.mp h
    cases heq
    exact hsame.performed (by simp) (fun _ => hjoined) (by simp)
  | join_read_socket =>
    obtain ⟨hjoined, heq⟩ := Option.ite_none_right_eq_some.mp h
    cases heq
    exact hsame.performed (by simp) (by simp) fun _ => hjoined
  | join_decode | join_command =>
    obtain ⟨-, heq⟩ := Option.ite_none_right_eq_some.mp h
    cases heq
    exact hsame.performed (by simp) (by simp) (by simp)
  | start_command =>
    cases h
    exact ⟨rfl, .inr ⟨rfl, rfl⟩, .inl rfl, by simp, by simp, fun _ => id, .inl, .inl, by simp,
      fun _ => .inl, .inl⟩
  | clear_run_flags =>
    cases h
    refine ⟨rfl, .inl rfl, .inl rfl, by simp, by simp, fun _ => id, .inl, fun hreads => .inl ?_,
      by simp, fun _ => .inl, .inl⟩
    unfold reads at hreads ⊢
    cases hreader : self.reader with
    | none => rfl
    | some stage =>
      rw [hreader] at hreads
      cases stage with
      | testing => rfl
      | received | tested => exact hreads
  | drop_pipeline =>
    cases h
    exact ⟨rfl, .inl rfl, .inl rfl, by simp, by simp, fun _ => id, .inl, .inl, by simp,
      fun _ => .inl, .inl⟩
  | play_pipeline =>
    obtain ⟨-, heq⟩ := Option.ite_none_left_eq_some.mp h
    cases heq
    exact ⟨rfl, .inl rfl, .inl rfl, by simp, fun _ => .inr rfl, fun _ => id, .inl, .inl, by simp,
      fun _ => .inl, .inl⟩
  | construct_pipeline =>
    cases h
    cases ok with
    | false => exact hsame.performed (by simp) (by simp) (by simp)
    | true =>
      exact ⟨rfl, .inl rfl, .inl rfl, by simp, by simp, fun _ => id, .inl, .inl, by simp,
        fun _ => .inl, .inl⟩
  | start_read_socket =>
    rw [perform] at h
    split at h <;> cases h
    · next hstarts =>
      exact ⟨rfl, .inl rfl, .inl rfl, by simp, by simp, by simp,
        fun _ => .inr ⟨rfl, hstarts.2, hstarts.1⟩, fun _ => .inr rfl, by simp, fun _ => .inl,
        .inl⟩
    · exact hsame.performed (by simp) (by simp) (by simp)
  | start_pull_samples =>
    cases h
    exact ⟨rfl, .inl rfl, .inr rfl, by simp, by simp, fun _ => id, .inl, .inl, by simp,
      fun _ => .inl, .inl⟩
  | create_audio =>
    rw [perform] at h
    split at h <;> cases h
    · next hnone =>
      have habsent (audio : Nat) (haudio : self.audio = some audio) : False := by
        rw [hnone] at haudio
        cases haudio
      exact ⟨rfl, .inl rfl, .inl rfl, by simp, by simp, fun _ => id, .inl, .inl, by simp,
        fun audio haudio => (habsent audio haudio).elim, fun _ => .inr rfl⟩
    · exact hsame.performed (by simp) (by simp) (by simp)
  | reset_audio =>
    cases h
    exact ⟨rfl, .inl rfl, .inl rfl, by simp, by simp, fun _ => id, .inl, .inl, by simp,
      fun _ _ => .inr rfl, fun _ => .inl rfl⟩
  | set_udp_appsrc | set_audio_payload_callback | stop_audio | set_decoding_active |
    start_decode | wait_for_signal | leave_try | enqueue_sentinel | clear_command_running |
    shutdown_dvr =>
    cases h
    exact Untouched.performed ⟨rfl, rfl, rfl, rfl, rfl, rfl, rfl⟩ (by simp) (by simp) (by simp)

/-- A step comes off the list, with later steps of the same launch when
`switch_to_stream` returns early. -/
theorem Process.advance_spec {ok : Bool} {self after : Process} {steps left : List Step}
    (h : self.advance ok steps = some (after, left)) :
    ∃ next rest, steps = next :: rest ∧ Performed ok next self after ∧ left <:+ rest ∧
      ∀ other ∈ rest, other.launches = false → other ∈ left := by
  cases steps with
  | nil => cases h
  | cons next rest =>
    obtain ⟨moved, hmoved, heq⟩ := Option.map_eq_some_iff.mp h
    cases heq
    refine ⟨next, rest, rfl, perform_spec hmoved, ?_⟩
    split
    · refine ⟨List.dropWhile_suffix _, fun other hmem hother => ?_⟩
      rw [← List.takeWhile_append_dropWhile (p := Step.launches) (l := rest),
        List.mem_append] at hmem
      apply hmem.resolve_left
      intro htake
      rw [List.mem_takeWhile_imp htake] at hother
      cases hother
    · exact ⟨List.suffix_rfl, fun other hmem _ => hmem⟩

/-- What the other threads can do to them, and what the control thread does
between two commands. -/
structure Sideways (event : Event) (before after : Process) : Prop where
  main : after.main = before.main
  control : after.control = before.control ∨ after.control = none ∨
    ∃ command, event = .receive_command command ∧ before.control = some [] ∧
      after.control = some command.steps
  puller : before.puller = none → after.puller = none
  pipeline : after.pipeline = before.pipeline
  reader : ∀ audio, after.reader = some (.tested audio) →
    before.reader = some (.tested audio) ∨ before.audio = some audio
  absent : before.reader = none → after.reader = none
  reads : before.reads = false → after.reads = false
  audio : after.audio = before.audio

/-- The step of an event, which is one of `main`, of the control thread or of
another thread. -/
theorem step_spec {s after : Process} {event : Event} (h : step s event = some after) :
    (∃ ok next rest left moved, event = .main ok ∧ s.main = next :: rest ∧
      Performed ok next s moved ∧ left <:+ rest ∧
      (∀ other ∈ rest, other.launches = false → other ∈ left) ∧
      after = { moved with main := left }) ∨
    (∃ ok next rest left moved, event = .control ok ∧ s.control = some (next :: rest) ∧
      Performed ok next s moved ∧ left <:+ rest ∧ after = { moved with control := some left }) ∨
    Sideways event s after := by
  cases event with
  | main ok =>
    obtain ⟨⟨moved, left⟩, hadvance, rfl⟩ := Option.map_eq_some_iff.mp h
    obtain ⟨next, rest, hsteps, hperformed, hleft, hkept⟩ := Process.advance_spec hadvance
    exact .inl ⟨ok, next, rest, left, moved, rfl, hsteps, hperformed, hleft, hkept, rfl⟩
  | control ok =>
    obtain ⟨⟨moved, left⟩, hbind, rfl⟩ := Option.map_eq_some_iff.mp h
    obtain ⟨steps, hcontrol, hadvance⟩ := Option.bind_eq_some_iff.mp hbind
    obtain ⟨next, rest, rfl, hperformed, hleft, -⟩ := Process.advance_spec hadvance
    exact .inr (.inl ⟨ok, next, rest, left, moved, rfl, hcontrol, hperformed, hleft, rfl⟩)
  | receive_command command =>
    obtain ⟨hidle, heq⟩ := Option.ite_none_right_eq_some.mp h
    cases heq
    exact .inr (.inr ⟨rfl, .inr (.inr ⟨command, rfl, hidle.1, rfl⟩), id, rfl, fun _ => .inl, id,
      id, rfl⟩)
  | finish_control =>
    obtain ⟨-, heq⟩ := Option.ite_none_right_eq_some.mp h
    cases heq
    exact .inr (.inr ⟨rfl, .inr (.inl rfl), id, rfl, fun _ => .inl, id, id, rfl⟩)
  | decoder_dequeue frame =>
    obtain ⟨-, heq⟩ := Option.ite_none_right_eq_some.mp h
    cases heq
    exact .inr (.inr ⟨rfl, .inl rfl, id, rfl, fun _ => .inl, id, id, rfl⟩)
  | puller_loop sample =>
    obtain ⟨htesting, heq⟩ := Option.ite_none_right_eq_some.mp h
    have hnone : s.puller ≠ none := by rw [htesting]; simp
    split at heq <;> cases heq
    · exact .inr (.inr ⟨rfl, .inl rfl, fun hpuller => absurd hpuller hnone, rfl, fun _ => .inl,
        id, id, rfl⟩)
    · exact .inr (.inr ⟨rfl, .inl rfl, fun _ => rfl, rfl, fun _ => .inl, id, id, rfl⟩)
  | video_cb =>
    obtain ⟨hpulled, heq⟩ := Option.ite_none_right_eq_some.mp h
    cases heq
    refine .inr (.inr ⟨rfl, .inl rfl, fun hpuller => ?_, rfl, fun _ => .inl, id, id, rfl⟩)
    rw [hpulled] at hpuller
    cases hpuller
  | reader_loop packet =>
    obtain ⟨htesting, heq⟩ := Option.ite_none_right_eq_some.mp h
    have hsome : s.reader ≠ none := by rw [htesting]; simp
    have hreads : s.reads = s.read_socket_run := by
      unfold Process.reads
      rw [htesting]
    split at heq
    · next hruns =>
      have hreading : s.reads ≠ false := by simp [hreads, hruns]
      split at heq <;> cases heq
      · exact .inr (.inr ⟨rfl, .inl rfl, id, rfl, fun _ => .inl, id, id, rfl⟩)
      · exact .inr (.inr ⟨rfl, .inl rfl, id, rfl, fun _ => .inl, id, id, rfl⟩)
      · exact .inr (.inr ⟨rfl, .inl rfl, id, rfl, by simp, fun _ => rfl, fun _ => rfl, rfl⟩)
      · refine .inr (.inr ⟨rfl, .inl rfl, id, rfl, fun audio haudio => ?_,
          fun habsent => absurd habsent hsome, fun hsilent => absurd hsilent hreading, rfl⟩)
        cases hcallback : s.audio_callback <;> simp [hcallback] at haudio
    · cases heq
      exact .inr (.inr ⟨rfl, .inl rfl, id, rfl, by simp, fun _ => rfl, fun _ => rfl, rfl⟩)
  | test_audio =>
    obtain ⟨hreceived, heq⟩ := Option.ite_none_right_eq_some.mp h
    cases heq
    have hsome : s.reader ≠ none := by rw [hreceived]; simp
    have hreading : s.reads ≠ false := by simp [Process.reads, hreceived]
    refine .inr (.inr ⟨rfl, .inl rfl, id, rfl, fun audio haudio => .inr ?_,
      fun habsent => absurd habsent hsome, fun hsilent => absurd hsilent hreading, rfl⟩)
    cases hpresent : s.audio with
    | none => simp [hpresent] at haudio
    | some present =>
      simp only [hpresent, Option.elim_some, Option.some.injEq, Reader.tested.injEq] at haudio
      rw [haudio]
  | enqueue_payload =>
    rw [step] at h
    split at h <;> cases h
    next htested =>
      have hsome : s.reader ≠ none := by rw [htested]; simp
      have hreading : s.reads ≠ false := by simp [Process.reads, htested]
      exact .inr (.inr ⟨rfl, .inl rfl, id, rfl, by simp, fun habsent => absurd habsent hsome,
        fun hsilent => absurd hsilent hreading, rfl⟩)
  | decoder_loop | decoder_submit =>
    rw [step] at h
    split at h <;> cases h
    all_goals exact .inr (.inr ⟨rfl, .inl rfl, id, rfl, fun _ => .inl, id, id, rfl⟩)

end amldigitalfpv.process
