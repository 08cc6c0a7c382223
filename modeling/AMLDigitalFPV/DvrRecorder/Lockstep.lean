import AMLDigitalFPV.DvrRecorder.Script
import AMLDigitalFPV.DvrRecorder.WorkerSpec

open Runs amldigitalfpv.frame_ring_buffer

namespace amldigitalfpv.dvr_recorder

/-- What of an action can be seen from outside: neither the numbers of the
handles nor the durations. -/
inductive Observation where
  | opened (path : Path)
  | muxer_opened
  | wrote (frame : Frame)
  | muxer_closed
  | closed
deriving DecidableEq

def Action.observe : Action → Option Observation
  | .fopen _ path => some (.opened path)
  | .fclose _ => some .closed
  | .mp4e_open _ => some .muxer_opened
  | .mp4e_close _ => some .muxer_closed
  | .write_nal frame _ _ _ => some (.wrote frame)
  | .log _ => none

def observations (taken : List Action) : List Observation := taken.filterMap Action.observe

/-- The test with which `open_writer` begins. -/
def DvrRecorder.valid_params (self : DvrRecorder) : Prop :=
  ¬ (self.video_width_ = 0 ∨ self.video_height_ = 0)

instance (self : DvrRecorder) : Decidable self.valid_params := inferInstanceAs (Decidable (¬ _))

/-- Two recorders that differ at most in what no later session depends on. -/
structure Same (first second : DvrRecorder) : Prop where
  contents : first.ring_buffer_.contents = second.ring_buffer_.contents
  capacity : first.ring_buffer_.capacity_ = second.ring_buffer_.capacity_
  first_ring : first.ring_buffer_.WellFormed
  second_ring : second.ring_buffer_.WellFormed
  warmup_done : first.warmup_done_ = second.warmup_done_
  warmup_start : first.warmup_start_ms_ = second.warmup_start_ms_
  warmup_count : first.warmup_frame_count_ = second.warmup_frame_count_
  recording : first.recording_ = second.recording_
  ready : first.writer_ready_ = second.writer_ready_
  valid : first.valid_params ↔ second.valid_params
  valid_of_ready : first.writer_ready_ = true → first.valid_params
  carried : first.valid_params →
    first.stop_requested_ = second.stop_requested_ ∧ first.writer_ = second.writer_

/-- Agreement on the members that describe the current file. -/
structure SameFile (first second : DvrRecorder) : Prop where
  file : first.file_.isSome = second.file_.isSome
  mux : first.mux_.isSome = second.mux_.isSome
  bytes : first.current_file_bytes_ = second.current_file_bytes_
  rotate : first.rotate_requested_ = second.rotate_requested_

/-- The members that describe the current file. -/
def DvrRecorder.file_members (self : DvrRecorder) :
    Option Handle × Option Handle × Nat × Bool :=
  (self.file_, self.mux_, self.current_file_bytes_, self.rotate_requested_)

/-- Agreement on the current file survives any change of the other members. -/
theorem SameFile.frame {first second first' second' : DvrRecorder} (h : SameFile first second)
    (hfirst : first'.file_members = first.file_members)
    (hsecond : second'.file_members = second.file_members) : SameFile first' second' := by
  simp only [DvrRecorder.file_members, Prod.mk.injEq] at hfirst hsecond
  obtain ⟨hfile, hmux, hbytes, hrotate⟩ := hfirst
  obtain ⟨hfile', hmux', hbytes', hrotate'⟩ := hsecond
  constructor
  · rw [hfile, hfile', h.file]
  · rw [hmux, hmux', h.mux]
  · rw [hbytes, hbytes', h.bytes]
  · rw [hrotate, hrotate', h.rotate]

theorem both_none_or_some {first second : Option Handle} (h : first.isSome = second.isSome) :
    (first = none ∧ second = none) ∨
      ∃ handle handle', first = some handle ∧ second = some handle' := by
  cases first with
  | none =>
    cases second with
    | none => exact Or.inl ⟨rfl, rfl⟩
    | some _ => cases h
  | some handle =>
    cases second with
    | none => cases h
    | some handle' => exact Or.inr ⟨handle, handle', rfl, rfl⟩

/-- Two worlds that have looked the same from outside so far and whose
surroundings will go on to give the same answers. -/
structure Lockstep (first second : World Script) : Prop extends Same first.self second.self where
  host : first.host = second.host
  observed : observations first.trace = observations second.trace

/-- Lockstep in which the members of an open file agree as well, and those of
a closed file if they have been `held` in agreement. -/
structure Paired (held : Prop) (first second : World Script) : Prop
    extends Lockstep first second where
  same_file : held ∨ first.self.writer_ready_ = true → SameFile first.self second.self

theorem Paired.frame {held : Prop} {first second first' second' : World Script}
    (h : Paired held first second) (hlockstep : Lockstep first' second')
    (hready : first'.self.writer_ready_ = first.self.writer_ready_)
    (hfirst : first'.self.file_members = first.self.file_members)
    (hsecond : second'.self.file_members = second.self.file_members) :
    Paired held first' second' := by
  refine ⟨hlockstep, fun hopen => (h.same_file ?_).frame hfirst hsecond⟩
  rw [← hready]
  exact hopen

/-- The members of the current file can be set at will without losing the
agreement on the others. -/
theorem Same.set_file {first second : DvrRecorder} (h : Same first second)
    (file file' mux mux' : Option Handle) (bytes bytes' : Nat) (rotate rotate' : Bool)
    (duration duration' : Nat) :
    Same
      { first with
        file_ := file
        mux_ := mux
        current_file_bytes_ := bytes
        rotate_requested_ := rotate
        frame_duration_ := duration }
      { second with
        file_ := file'
        mux_ := mux'
        current_file_bytes_ := bytes'
        rotate_requested_ := rotate'
        frame_duration_ := duration' } :=
  ⟨h.contents, h.capacity, h.first_ring, h.second_ring, h.warmup_done, h.warmup_start,
    h.warmup_count, h.recording, h.ready, h.valid, h.valid_of_ready, h.carried⟩

theorem Same.set_recording {first second : DvrRecorder} (h : Same first second)
    (recording : Bool) :
    Same { first with recording_ := recording } { second with recording_ := recording } :=
  ⟨h.contents, h.capacity, h.first_ring, h.second_ring, h.warmup_done, h.warmup_start,
    h.warmup_count, rfl, h.ready, h.valid, h.valid_of_ready, h.carried⟩

theorem Same.set_ready {first second : DvrRecorder} (h : Same first second) (ready : Bool)
    (hvalid : ready = true → first.valid_params) :
    Same { first with writer_ready_ := ready } { second with writer_ready_ := ready } :=
  ⟨h.contents, h.capacity, h.first_ring, h.second_ring, h.warmup_done, h.warmup_start,
    h.warmup_count, h.recording, rfl, h.valid, hvalid, h.carried⟩

theorem Same.set_warmup {first second : DvrRecorder} (h : Same first second) (done : Bool)
    (start count : Nat) :
    Same
      { first with
        warmup_done_ := done, warmup_start_ms_ := start, warmup_frame_count_ := count }
      { second with
        warmup_done_ := done, warmup_start_ms_ := start, warmup_frame_count_ := count } :=
  ⟨h.contents, h.capacity, h.first_ring, h.second_ring, rfl, rfl, rfl, h.recording, h.ready,
    h.valid, h.valid_of_ready, h.carried⟩

theorem Same.set_clock {first second : DvrRecorder} (h : Same first second) (start count : Nat) :
    Same { first with warmup_start_ms_ := start, warmup_frame_count_ := count }
      { second with warmup_start_ms_ := start, warmup_frame_count_ := count } :=
  ⟨h.contents, h.capacity, h.first_ring, h.second_ring, h.warmup_done, rfl, rfl, h.recording,
    h.ready, h.valid, h.valid_of_ready, h.carried⟩

/-- Both rings are cleared, pushed into or popped from. -/
theorem Same.set_ring {first second : DvrRecorder} (h : Same first second)
    {ring ring' : FrameRingBuffer Frame} (hcontents : ring.contents = ring'.contents)
    (hcapacity : ring.capacity_ = ring'.capacity_) (hring : ring.WellFormed)
    (hring' : ring'.WellFormed) :
    Same { first with ring_buffer_ := ring } { second with ring_buffer_ := ring' } :=
  ⟨hcontents, hcapacity, hring, hring', h.warmup_done, h.warmup_start, h.warmup_count,
    h.recording, h.ready, h.valid, h.valid_of_ready, h.carried⟩

theorem Same.clear {first second : DvrRecorder} (h : Same first second) :
    Same first.clear_ring_buffer second.clear_ring_buffer :=
  h.set_ring rfl h.capacity h.first_ring.clear h.second_ring.clear

theorem Same.set_stop {first second : DvrRecorder} (h : Same first second) (stop : Bool) :
    Same { first with stop_requested_ := stop } { second with stop_requested_ := stop } :=
  ⟨h.contents, h.capacity, h.first_ring, h.second_ring, h.warmup_done, h.warmup_start,
    h.warmup_count, h.recording, h.ready, h.valid, h.valid_of_ready,
    fun hvalid => ⟨rfl, (h.carried hvalid).2⟩⟩

theorem Same.run_callbacks {first second : DvrRecorder} (h : Same first second)
    (calls calls' : List WriteCall) :
    Same (first.run_callbacks calls) (second.run_callbacks calls') := by
  obtain ⟨bytes, rotate, hfirst⟩ := first.run_callbacks_frame calls
  obtain ⟨bytes', rotate', hsecond⟩ := second.run_callbacks_frame calls'
  rw [hfirst, hsecond]
  exact h.set_file _ _ _ _ bytes bytes' rotate rotate' _ _

theorem SameFile.file_write_callback {first second : DvrRecorder} (h : SameFile first second)
    (call : WriteCall) :
    SameFile (first.file_write_callback call).2 (second.file_write_callback call).2 := by
  have hnone : first.file_ = none ↔ second.file_ = none := by
    rw [← Option.isNone_iff_eq_none, ← Option.isNone_iff_eq_none, ← Option.not_isSome,
      ← Option.not_isSome, h.file]
  unfold DvrRecorder.file_write_callback
  by_cases hfile : first.file_ = none
  · rw [if_pos hfile, if_pos (hnone.mp hfile)]
    exact h
  · rw [if_neg hfile, if_neg (fun hfile' => hfile (hnone.mpr hfile'))]
    split
    · exact h
    · split
      · exact h
      · dsimp only
        rw [h.bytes]
        split <;> split <;> exact ⟨h.file, h.mux, by first | rfl | exact h.bytes,
          by first | rfl | exact h.rotate⟩

theorem SameFile.run_callbacks {first second : DvrRecorder} (h : SameFile first second)
    (calls : List WriteCall) :
    SameFile (first.run_callbacks calls) (second.run_callbacks calls) := by
  induction calls generalizing first second with
  | nil => exact h
  | cons call calls ih => exact ih (h.file_write_callback call)

theorem observations_concat (taken : List Action) (action : Action) :
    observations (taken ++ [action]) = observations taken ++ action.observe.toList := by
  rw [observations, List.filterMap_append, ← observations]
  cases action <;> rfl

theorem Lockstep.perform {first second : World Script} (h : Lockstep first second)
    (action action' : Action) (hobserve : action.observe = action'.observe) :
    Lockstep (first.perform action) (second.perform action') := by
  refine ⟨h.toSame, h.host, ?_⟩
  simp only [World.perform, observations_concat, h.observed, hobserve]

theorem Lockstep.mp4e_close {first second : World Script} (h : Lockstep first second)
    (mux mux' : Handle) :
    Lockstep (MP4E_close scripted mux first) (MP4E_close scripted mux' second) := by
  refine ⟨h.toSame.run_callbacks _ _, ?_, ?_⟩
  · simp only [MP4E_close, scripted, h.host]
  · simp only [MP4E_close, observations_concat, h.observed]
    rfl

theorem SameFile.mp4e_close {first second : World Script} (h : SameFile first.self second.self)
    (hhost : first.host = second.host) (mux mux' : Handle) :
    SameFile (MP4E_close scripted mux first).self (MP4E_close scripted mux' second).self := by
  have hcalls := h.run_callbacks (second.host.closes.headD [])
  simpa only [MP4E_close, scripted, hhost] using hcalls

theorem Lockstep.stream_close {first second : World Script} (h : Lockstep first second)
    (file file' : Handle) :
    Lockstep (fclose scripted file first) (fclose scripted file' second) :=
  ⟨h.toSame, h.host, (h.perform (.fclose file) (.fclose file') rfl).observed⟩

theorem Lockstep.assign_file {first second : World Script} (h : Lockstep first second)
    (file file' : Option Handle) :
    Lockstep (first.update fun self => { self with file_ := file })
      (second.update fun self => { self with file_ := file' }) :=
  ⟨h.toSame.set_file file file' _ _ _ _ _ _ _ _, h.host, h.observed⟩

theorem SameFile.clear {first second : DvrRecorder} (h : SameFile first second) :
    SameFile { first with file_ := none } { second with file_ := none } :=
  ⟨rfl, h.mux, h.bytes, h.rotate⟩

theorem Lockstep.close_mux {first second : World Script} (h : Lockstep first second)
    (hfile : SameFile first.self second.self) :
    Lockstep (DvrRecorder.close_mux scripted first) (DvrRecorder.close_mux scripted second) ∧
      SameFile (DvrRecorder.close_mux scripted first).self
        (DvrRecorder.close_mux scripted second).self := by
  unfold DvrRecorder.close_mux
  obtain ⟨hmux, hmux'⟩ | ⟨mux, mux', hmux, hmux'⟩ := both_none_or_some hfile.mux
  · rw [hmux, hmux']
    exact ⟨h, hfile⟩
  · rw [hmux, hmux']
    have hclosed := h.mp4e_close mux mux'
    have hclosed' := hfile.mp4e_close h.host mux mux'
    exact ⟨⟨hclosed.set_file _ _ none none _ _ _ _ _ _, hclosed.host, hclosed.observed⟩,
      hclosed'.file, rfl, hclosed'.bytes, hclosed'.rotate⟩

theorem Lockstep.close_nal_writer {first second : World Script} (h : Lockstep first second)
    (hfile : SameFile first.self second.self) :
    Lockstep (DvrRecorder.close_nal_writer scripted first)
        (DvrRecorder.close_nal_writer scripted second) ∧
      SameFile (DvrRecorder.close_nal_writer scripted first).self
        (DvrRecorder.close_nal_writer scripted second).self := by
  have hid : ∀ w : World Script, DvrRecorder.close_nal_writer scripted w = w := by
    intro w
    unfold DvrRecorder.close_nal_writer
    split <;> rfl
  rw [hid, hid]
  exact ⟨h, hfile⟩

theorem Lockstep.close_file {first second : World Script} (h : Lockstep first second)
    (hfile : SameFile first.self second.self) :
    Lockstep (DvrRecorder.close_file scripted first) (DvrRecorder.close_file scripted second) := by
  unfold DvrRecorder.close_file
  obtain ⟨hfirst, hsecond⟩ | ⟨file, file', hfirst, hsecond⟩ := both_none_or_some hfile.file
  · rw [hfirst, hsecond]
    exact h
  · rw [hfirst, hsecond]
    exact (h.stream_close file file').assign_file none none

theorem Paired.of_closed {held : Prop} {first second : World Script} (h : Lockstep first second)
    (hready : first.self.writer_ready_ = false)
    (hheld : held → SameFile first.self second.self) : Paired held first second := by
  refine ⟨h, fun hopen => ?_⟩
  obtain hopen | hopen := hopen
  · exact hheld hopen
  · rw [hready] at hopen
    cases hopen

theorem Paired.close_writer {held : Prop} {first second : World Script}
    (h : Paired held first second) (clear_recording : Bool) :
    Paired held (DvrRecorder.close_writer scripted clear_recording first)
      (DvrRecorder.close_writer scripted clear_recording second) := by
  cases hready : first.self.writer_ready_ with
  | false =>
    rw [close_writer_of_not_ready scripted hready,
      close_writer_of_not_ready scripted (h.ready.symm.trans hready)]
    refine Paired.of_closed ⟨?_, h.host, h.observed⟩ hready fun hheld => ?_
    · simp only [World.update, h.recording]
      exact h.toSame.set_recording _
    · exact (h.same_file (Or.inl hheld)).frame rfl rfl
  | true =>
    have hready' : second.self.writer_ready_ = true := h.ready.symm.trans hready
    have hfile := h.same_file (Or.inr hready)
    refine ⟨?_, fun _ => ?_⟩
    · unfold DvrRecorder.close_writer
      rw [if_neg (not_not.mpr hready), if_neg (not_not.mpr hready')]
      dsimp only
      have hnotReady : Lockstep (first.update fun self => { self with writer_ready_ := false })
          (second.update fun self => { self with writer_ready_ := false }) :=
        ⟨h.toSame.set_ready false Bool.noConfusion, h.host, h.observed⟩
      obtain ⟨hmux, hmuxFile⟩ :=
        hnotReady.close_mux (hfile.frame rfl rfl)
      obtain ⟨hnal, hnalFile⟩ := hmux.close_nal_writer hmuxFile
      have hclosed := hnal.close_file hnalFile
      refine ⟨?_, hclosed.host,
        (hclosed.perform (.log .dvr_stopped) (.log .dvr_stopped) rfl).observed⟩
      cases clear_recording with
      | false => exact hclosed.set_file _ _ _ _ 0 0 false false _ _
      | true => exact (hclosed.set_recording false).set_file _ _ _ _ 0 0 false false _ _
    · rw [close_writer_self_of_ready scripted hready, close_writer_self_of_ready scripted hready']
      exact ⟨rfl, rfl, rfl, rfl⟩

/-- The answers of a pair of calls agree, and the worlds stay in step. -/
structure Agree (held : Prop) (first second : Bool × World Script) : Prop where
  answer : first.1 = second.1
  paired : Paired held first.2 second.2

theorem Lockstep.allocate_writer {first second : World Script} (h : Lockstep first second)
    (hvalid : first.self.valid_params) :
    Lockstep (DvrRecorder.allocate_writer scripted first)
      (DvrRecorder.allocate_writer scripted second) := by
  obtain ⟨hstop, hwriter⟩ := h.carried hvalid
  unfold DvrRecorder.allocate_writer
  rw [← hwriter]
  split
  · exact h
  · refine ⟨⟨h.contents, h.capacity, h.first_ring, h.second_ring, h.warmup_done, h.warmup_start,
      h.warmup_count, h.recording, h.ready, h.valid, h.valid_of_ready, fun _ => ⟨hstop, ?_⟩⟩, ?_,
      h.observed⟩
    · simp only [scripted, h.host]
    · simp only [scripted, h.host]

theorem Same.opened {first second : DvrRecorder} (h : Same first second)
    (hvalid : first.valid_params) (mark_recording : Bool) (file file' mux mux' : Handle) :
    Same (first.opened mark_recording file mux) (second.opened mark_recording file' mux') :=
  ⟨h.contents, h.capacity, h.first_ring, h.second_ring, h.warmup_done, h.warmup_start,
    h.warmup_count, congrArg (· || mark_recording) h.recording, rfl, h.valid, fun _ => hvalid,
    fun _ => ⟨(h.carried hvalid).1, rfl⟩⟩

theorem Lockstep.start_writer {held : Prop} {first second : World Script}
    (h : Lockstep first second) (hvalid : first.self.valid_params) (file file' : Handle)
    (hfile : first.self.file_ = some file) (hfile' : second.self.file_ = some file')
    (hwriter : first.self.writer_ = true) (mark_recording : Bool) (path : Path)
    (mux mux' : Handle) :
    Paired held (DvrRecorder.start_writer mark_recording path mux first)
      (DvrRecorder.start_writer mark_recording path mux' second) := by
  have hwriter' : second.self.writer_ = true := (h.carried hvalid).2.symm.trans hwriter
  have hfirst := start_writer_self mark_recording path mux hfile hwriter
  have hsecond := start_writer_self mark_recording path mux' hfile' hwriter'
  refine ⟨⟨?_, h.host, (h.perform (.log (.recording_to path))
    (.log (.recording_to path)) rfl).observed⟩, fun _ => ?_⟩
  · rw [hfirst, hsecond]
    exact h.toSame.opened hvalid mark_recording file file' mux mux'
  · rw [hfirst, hsecond]
    exact ⟨rfl, rfl, rfl, rfl⟩

theorem Lockstep.init_writer {held : Prop} {first second : World Script}
    (h : Lockstep first second) (hvalid : first.self.valid_params)
    (hready : first.self.writer_ready_ = false) (hheld : held → SameFile first.self second.self)
    (file file' : Handle) (hfile : first.self.file_ = some file)
    (hfile' : second.self.file_ = some file') (mark_recording : Bool) (path : Path)
    (mux mux' : Handle) :
    Agree held (DvrRecorder.init_writer scripted mark_recording path file mux first)
      (DvrRecorder.init_writer scripted mark_recording path file' mux' second) := by
  have hallocated := h.allocate_writer hvalid
  obtain ⟨writer, hself⟩ := allocate_writer_self scripted first
  obtain ⟨writer', hself'⟩ := allocate_writer_self scripted second
  unfold DvrRecorder.init_writer
  generalize DvrRecorder.allocate_writer scripted first = first₁ at hallocated hself
  generalize DvrRecorder.allocate_writer scripted second = second₁ at hallocated hself'
  have hvalid₁ : first₁.self.valid_params := by
    rw [hself]
    exact hvalid
  have hready₁ : first₁.self.writer_ready_ = false := by
    rw [hself]
    exact hready
  have hheld₁ : held → SameFile first₁.self second₁.self := by
    intro hholds
    rw [hself, hself']
    exact (hheld hholds).frame rfl rfl
  have hwriter := (hallocated.carried hvalid₁).2
  dsimp only
  rw [← hwriter]
  split
  · have hlogged : Lockstep (first₁.log .failed_to_allocate_writer)
        (second₁.log .failed_to_allocate_writer) := hallocated.perform _ _ rfl
    refine ⟨rfl, Paired.of_closed ((hlogged.mp4e_close mux mux').stream_close file file') ?_ ?_⟩
    · exact (DvrRecorder.run_callbacks_writer_ready _ _).trans hready₁
    · intro hholds
      have hfile : SameFile (first₁.log .failed_to_allocate_writer).self
          (second₁.log .failed_to_allocate_writer).self := hheld₁ hholds
      exact hfile.mp4e_close hallocated.host mux mux'
  · next hwriter₁ =>
    have hinit : Lockstep (mp4_h26x_write_init scripted first₁).2
        (mp4_h26x_write_init scripted second₁).2 := by
      refine ⟨hallocated.toSame, ?_, hallocated.observed⟩
      simp only [mp4_h26x_write_init, scripted, hallocated.host]
    have hanswer : (mp4_h26x_write_init scripted first₁).1 =
        (mp4_h26x_write_init scripted second₁).1 := by
      simp only [mp4_h26x_write_init, scripted, hallocated.host]
    rw [← hanswer]
    split
    · have hlogged : Lockstep ((mp4_h26x_write_init scripted first₁).2.log .write_init_failed)
          ((mp4_h26x_write_init scripted second₁).2.log .write_init_failed) := hinit.perform _ _ rfl
      have hcleared := (hlogged.mp4e_close mux mux').assign_file none none
      refine ⟨rfl, Paired.of_closed (hcleared.stream_close file file') ?_ fun hholds => ?_⟩
      · exact (DvrRecorder.run_callbacks_writer_ready _ _).trans hready₁
      · have hinitFile : SameFile
            ((mp4_h26x_write_init scripted first₁).2.log .write_init_failed).self
            ((mp4_h26x_write_init scripted second₁).2.log .write_init_failed).self := hheld₁ hholds
        exact (hinitFile.mp4e_close hinit.host mux mux').clear
    · refine ⟨rfl, hinit.start_writer hvalid₁ file file' ?_ ?_ ?_ _ _ _ _⟩
      · rw [show (mp4_h26x_write_init scripted first₁).2.self = first₁.self from rfl, hself]
        exact hfile
      · rw [show (mp4_h26x_write_init scripted second₁).2.self = second₁.self from rfl, hself']
        exact hfile'
      · simpa [mp4_h26x_write_init] using hwriter₁

theorem Lockstep.muxer_open {first second : World Script} (h : Lockstep first second) :
    (MP4E_open scripted first).1.isSome = (MP4E_open scripted second).1.isSome ∧
      Lockstep (MP4E_open scripted first).2 (MP4E_open scripted second).2 := by
  have hreply : scripted.MP4E_open first.self first.host =
      scripted.MP4E_open second.self second.host := by
    simp only [scripted, h.host]
  have hsame := h.toSame.run_callbacks (scripted.MP4E_open second.self second.host).1.2
    (scripted.MP4E_open second.self second.host).1.2
  unfold MP4E_open
  dsimp only
  rw [hreply]
  split
  · refine ⟨rfl, hsame, rfl, ?_⟩
    exact (h.perform (.mp4e_open first.handles) (.mp4e_open second.handles) rfl).observed
  · exact ⟨rfl, hsame, rfl, h.observed⟩

theorem Lockstep.file_open {first second : World Script} (h : Lockstep first second)
    (path : Path) :
    (fopen scripted path first).1.isSome = (fopen scripted path second).1.isSome ∧
      Lockstep (fopen scripted path first).2 (fopen scripted path second).2 := by
  unfold fopen
  rw [h.host]
  split
  · refine ⟨rfl, h.toSame, rfl, ?_⟩
    exact (h.perform (.fopen first.handles path) (.fopen second.handles path) rfl).observed
  · exact ⟨rfl, h.toSame, rfl, h.observed⟩

@[simp]
theorem fopen_self (path : Path) (w : World Script) : (fopen scripted path w).2.self = w.self := by
  unfold fopen
  split <;> rfl

theorem Lockstep.open_mux {held : Prop} {first second : World Script} (h : Lockstep first second)
    (hvalid : first.self.valid_params) (hready : first.self.writer_ready_ = false)
    (hheld : held → SameFile first.self second.self) (mark_recording : Bool) (path : Path)
    (file file' : Handle) :
    Agree held (DvrRecorder.open_mux scripted mark_recording path file first)
      (DvrRecorder.open_mux scripted mark_recording path file' second) := by
  have hset := h.assign_file (some file) (some file')
  obtain ⟨hsome, hopened⟩ := hset.muxer_open
  have answered (w : World Script) :
      (MP4E_open scripted w).2.self = w.self.run_callbacks (w.host.opens.headD (true, [])).2 :=
    MP4E_open_self scripted w
  have hself := answered (first.update fun self => { self with file_ := some file })
  have hself' := answered (second.update fun self => { self with file_ := some file' })
  rw [hset.host] at hself
  unfold DvrRecorder.open_mux
  generalize MP4E_open scripted (first.update fun self => { self with file_ := some file }) = reply
    at hsome hopened hself
  generalize MP4E_open scripted (second.update fun self => { self with file_ := some file' }) =
    reply' at hsome hopened hself'
  obtain ⟨mux, first₁⟩ := reply
  obtain ⟨mux', second₁⟩ := reply'
  dsimp only at hsome hopened hself hself'
  have hready₁ : first₁.self.writer_ready_ = false := by
    rw [hself]
    exact (DvrRecorder.run_callbacks_writer_ready _ _).trans hready
  have hheld₁ : held → SameFile first₁.self second₁.self := by
    intro hholds
    have hfile : SameFile { first.self with file_ := some file }
        { second.self with file_ := some file' } :=
      ⟨rfl, (hheld hholds).mux, (hheld hholds).bytes, (hheld hholds).rotate⟩
    rw [hself, hself']
    exact hfile.run_callbacks _
  obtain ⟨rfl, rfl⟩ | ⟨mux, mux', rfl, rfl⟩ := both_none_or_some hsome
  · have hlogged : Lockstep (first₁.log .mp4e_open_failed) (second₁.log .mp4e_open_failed) :=
      hopened.perform _ _ rfl
    refine ⟨rfl, Paired.of_closed ((hlogged.assign_file none none).stream_close file file') hready₁
      fun hholds => ?_⟩
    exact (hheld₁ hholds).clear
  · refine hopened.init_writer ?_ hready₁ hheld₁ file file' ?_ ?_ _ _ _ _
    · obtain ⟨bytes, rotate, hcalls⟩ := DvrRecorder.run_callbacks_frame
        (second.host.opens.headD (true, [])).2 { first.self with file_ := some file }
      rw [hself]
      simp only [World.update, hcalls]
      exact hvalid
    · rw [hself, DvrRecorder.run_callbacks_file]
      rfl
    · rw [hself', DvrRecorder.run_callbacks_file]
      rfl

theorem Paired.open_writer {held : Prop} {first second : World Script}
    (h : Paired held first second) (mark_recording : Bool) :
    Agree held (DvrRecorder.open_writer scripted mark_recording first)
      (DvrRecorder.open_writer scripted mark_recording second) := by
  cases hready : first.self.writer_ready_ with
  | true =>
    rw [open_writer_of_ready scripted hready,
      open_writer_of_ready scripted (h.ready.symm.trans hready)]
    exact ⟨rfl, h⟩
  | false =>
    have hready' : second.self.writer_ready_ = false := h.ready.symm.trans hready
    have hheld : held → SameFile first.self second.self := fun hholds => h.same_file (Or.inl hholds)
    unfold DvrRecorder.open_writer
    rw [hready, hready', if_neg Bool.false_ne_true, if_neg Bool.false_ne_true]
    by_cases hvalid : first.self.valid_params
    · rw [if_neg hvalid, if_neg (h.valid.mp hvalid)]
      have hresolved : Lockstep (resolve_target_file scripted first).2
          (resolve_target_file scripted second).2 := by
        refine ⟨h.toSame, ?_, h.observed⟩
        simp only [resolve_target_file, scripted, h.host]
      have hpath : (resolve_target_file scripted first).1 =
          (resolve_target_file scripted second).1 := by
        simp only [resolve_target_file, scripted, h.host]
      dsimp only
      rw [← hpath]
      split
      · exact ⟨rfl, Paired.of_closed (hresolved.perform _ _ rfl) hready hheld⟩
      · generalize (resolve_target_file scripted first).1 = path
        obtain ⟨hsome, hopened⟩ := hresolved.file_open path
        have hself := fopen_self path (resolve_target_file scripted first).2
        have hself' := fopen_self path (resolve_target_file scripted second).2
        generalize fopen scripted path (resolve_target_file scripted first).2 = reply
          at hsome hopened hself
        generalize fopen scripted path (resolve_target_file scripted second).2 = reply'
          at hsome hopened hself'
        obtain ⟨file, first₁⟩ := reply
        obtain ⟨file', second₁⟩ := reply'
        dsimp only at hsome hopened hself hself'
        have hready₁ : first₁.self.writer_ready_ = false := by
          rw [hself]
          exact hready
        have hheld₁ : held → SameFile first₁.self second₁.self := by
          rw [hself, hself']
          exact hheld
        obtain ⟨rfl, rfl⟩ | ⟨file, file', rfl, rfl⟩ := both_none_or_some hsome
        · exact ⟨rfl, Paired.of_closed (hopened.perform _ _ rfl) hready₁ hheld₁⟩
        · refine hopened.open_mux ?_ hready₁ hheld₁ mark_recording path file file'
          rw [hself]
          exact hvalid
    · rw [if_pos (not_not.mp hvalid),
        if_pos (not_not.mp fun hvalid' => hvalid (h.valid.mpr hvalid'))]
      exact ⟨rfl, Paired.of_closed (h.perform _ _ rfl) hready hheld⟩

theorem Paired.log {held : Prop} {first second : World Script} (h : Paired held first second)
    (line line' : LogLine) : Paired held (first.log line) (second.log line') :=
  ⟨h.perform _ _ rfl, h.same_file⟩

theorem Paired.rotate_recording_file {held : Prop} {first second : World Script}
    (h : Paired held first second) :
    Agree held (DvrRecorder.rotate_recording_file scripted first)
      (DvrRecorder.rotate_recording_file scripted second) := by
  unfold DvrRecorder.rotate_recording_file
  rw [h.recording]
  split
  · exact ⟨rfl, h⟩
  · exact (h.close_writer false).open_writer false

theorem Paired.try_rotate {held : Prop} {first second : World Script}
    (h : Paired held first second) :
    Paired held (DvrRecorder.try_rotate scripted first)
      (DvrRecorder.try_rotate scripted second) := by
  have hrotated := h.rotate_recording_file
  unfold DvrRecorder.try_rotate
  dsimp only
  rw [hrotated.answer]
  split
  · exact hrotated.paired
  · exact hrotated.paired.log _ _

theorem Paired.reset_warmup_state {held : Prop} {first second : World Script}
    (h : Paired held first second) :
    Paired held (first.update fun self => self.clear_ring_buffer.reset_warmup_state)
      (second.update fun self => self.clear_ring_buffer.reset_warmup_state) :=
  h.frame ⟨h.toSame.clear.set_warmup false 0 0, h.host, h.observed⟩ rfl rfl rfl

/-- The end of an iteration of the drain loop, reached with the counters of
the two worlds in agreement. -/
theorem Paired.after_write {first second : World Script} (h : Paired True first second)
    (hready : first.self.writer_ready_ = true) :
    Agree True (DvrRecorder.after_write scripted first)
      (DvrRecorder.after_write scripted second) := by
  have hfile := h.same_file (Or.inl trivial)
  have hstop := (h.carried (h.valid_of_ready hready)).1
  have rotated : ∀ w : World Script, (if w.self.rotate_requested_ then
      DvrRecorder.try_rotate scripted
        (w.update fun self => { self with rotate_requested_ := false })
      else w).self.stop_requested_ = w.self.stop_requested_ := by
    intro w
    split
    · exact (try_rotate_spec scripted _).stop_requested
    · rfl
  have hrotated : Paired True
      (if first.self.rotate_requested_ then
        DvrRecorder.try_rotate scripted
          (first.update fun self => { self with rotate_requested_ := false })
      else first)
      (if second.self.rotate_requested_ then
        DvrRecorder.try_rotate scripted
          (second.update fun self => { self with rotate_requested_ := false })
      else second) := by
    rw [hfile.rotate]
    split
    · refine Paired.try_rotate ⟨⟨h.set_file _ _ _ _ _ _ false false _ _, h.host, h.observed⟩, ?_⟩
      exact fun _ => ⟨hfile.file, hfile.mux, hfile.bytes, rfl⟩
    · exact h
  have hstop₁ := rotated first
  have hstop₂ := rotated second
  unfold DvrRecorder.after_write
  generalize (if first.self.rotate_requested_ then DvrRecorder.try_rotate scripted
    (first.update fun self => { self with rotate_requested_ := false }) else first) = first₁
    at hrotated hstop₁
  generalize (if second.self.rotate_requested_ then DvrRecorder.try_rotate scripted
    (second.update fun self => { self with rotate_requested_ := false }) else second) = second₁
    at hrotated hstop₂
  dsimp only
  have hfile₁ := hrotated.same_file (Or.inl trivial)
  rw [hstop₁, hstop₂, hstop, hfile₁.bytes]
  split
  · have hcleared : Paired True
        (first₁.update fun self => { self with stop_requested_ := false })
        (second₁.update fun self => { self with stop_requested_ := false }) :=
      hrotated.frame ⟨hrotated.set_stop false, hrotated.host, hrotated.observed⟩ rfl rfl rfl
    have hlogged := hcleared.log .stopping_after_write_failures .stopping_after_write_failures
    exact ⟨rfl, (hlogged.close_writer true).reset_warmup_state⟩
  · split
    · exact ⟨rfl, hrotated.try_rotate⟩
    · exact ⟨rfl, hrotated⟩

theorem Same.pop {first second : DvrRecorder} (h : Same first second)
    (hsize : first.ring_buffer_.size_ ≠ 0) :
    first.ring_buffer_.pop.1 = second.ring_buffer_.pop.1 ∧
      Same { first with ring_buffer_ := first.ring_buffer_.pop.2 }
        { second with ring_buffer_ := second.ring_buffer_.pop.2 } := by
  have hsize' : second.ring_buffer_.size_ ≠ 0 := by
    rw [← FrameRingBuffer.length_contents, ← h.contents, FrameRingBuffer.length_contents]
    exact hsize
  have hcontents := h.contents
  rw [h.first_ring.pop_contents hsize, h.second_ring.pop_contents hsize'] at hcontents
  obtain ⟨hhead, htail⟩ := List.cons.inj hcontents
  exact ⟨hhead, h.set_ring htail h.capacity h.first_ring.pop h.second_ring.pop⟩

theorem Paired.drain_body {first second : World Script} (h : Paired True first second)
    (hcond : first.self.drain_condition = true) :
    Agree True (DvrRecorder.drain_body scripted first)
      (DvrRecorder.drain_body scripted second) := by
  obtain ⟨-, hready, -, hsize⟩ := (drain_condition_iff _).mp hcond
  obtain ⟨hhead, hsame⟩ := h.toSame.pop hsize
  have hpopped : Paired True (popped first) (popped second) :=
    h.frame ⟨hsame, h.host, h.observed⟩ rfl rfl rfl
  cases hframe : first.self.ring_buffer_.pop.1 with
  | none =>
    rw [drain_body_of_null scripted hframe, drain_body_of_null scripted (hhead.symm.trans hframe)]
    exact ⟨rfl, hpopped⟩
  | some frame =>
    have hframe' : second.self.ring_buffer_.pop.1 = some frame := hhead.symm.trans hframe
    have hreply :
        (write_popped scripted frame first).1 = (write_popped scripted frame second).1 := by
      simp only [write_popped, mp4_h26x_write_nal, scripted, popped, World.update, h.host]
    have hwritten : Paired True (write_popped scripted frame first).2
        (write_popped scripted frame second).2 := by
      have hcalls := (hpopped.same_file (Or.inl trivial)).run_callbacks
        (second.host.writes.headD (MP4E_STATUS_OK, [])).2
      refine ⟨⟨hpopped.toSame.run_callbacks _ _, ?_, ?_⟩, fun _ => ?_⟩
      · simp only [write_popped, mp4_h26x_write_nal, scripted, popped, World.update, h.host]
      · simp only [write_popped, mp4_h26x_write_nal, observations_concat]
        exact congrArg (· ++ [Observation.wrote frame]) h.observed
      · simpa only [write_popped, mp4_h26x_write_nal, scripted, popped, World.update, h.host]
          using hcalls
    by_cases hres : rejected (write_popped scripted frame first).1
    · rw [drain_body_of_rejected scripted hframe hres,
        drain_body_of_rejected scripted hframe' (hreply ▸ hres)]
      have hlogged := hwritten.log (.write_nal_returned (write_popped scripted frame first).1)
        (.write_nal_returned (write_popped scripted frame second).1)
      exact ⟨rfl, hlogged.frame ⟨hlogged.set_stop true, hlogged.host, hlogged.observed⟩ rfl rfl
        rfl⟩
    · rw [drain_body_of_accepted scripted hframe hres,
        drain_body_of_accepted scripted hframe' (hreply ▸ hres)]
      exact hwritten.after_write ((write_popped_spec scripted frame first).ready.trans hready)

theorem Same.drain_condition {first second : DvrRecorder} (h : Same first second) :
    first.drain_condition = second.drain_condition := by
  have hsize : first.ring_buffer_.size_ = second.ring_buffer_.size_ := by
    rw [← FrameRingBuffer.length_contents, h.contents, FrameRingBuffer.length_contents]
  simp only [DvrRecorder.drain_condition, DvrRecorder.ready_to_write, FrameRingBuffer.empty,
    h.recording, h.ready, h.warmup_done, hsize]

theorem Paired.drain (fuel : Nat) {first second : World Script} (h : Paired True first second) :
    Paired True (DvrRecorder.drain scripted fuel first)
      (DvrRecorder.drain scripted fuel second) := by
  induction fuel generalizing first second with
  | zero => exact h
  | succ fuel ih =>
    by_cases hcond : first.self.drain_condition = true
    · have hbody := h.drain_body hcond
      rw [DvrRecorder.drain, DvrRecorder.drain, if_pos hcond,
        if_pos (h.toSame.drain_condition.symm.trans hcond)]
      dsimp only
      rw [hbody.answer]
      split
      · exact ih hbody.paired
      · exact hbody.paired
    · rw [drain_of_stopped scripted hcond,
        drain_of_stopped scripted (fun hcond' => hcond (h.toSame.drain_condition.trans hcond'))]
      exact h

theorem Paired.count_frame {held : Prop} {first second : World Script}
    (h : Paired held first second) :
    Paired held (DvrRecorder.count_frame scripted first)
      (DvrRecorder.count_frame scripted second) := by
  unfold DvrRecorder.count_frame
  rw [h.warmup_start]
  split
  · refine h.frame ⟨?_, ?_, h.observed⟩ rfl rfl rfl
    · simp only [World.update, monotonic_ms, scripted, h.host]
      exact h.toSame.set_clock _ 1
    · simp only [World.update, monotonic_ms, scripted, h.host]
  · refine h.frame ⟨?_, h.host, h.observed⟩ rfl rfl rfl
    have hcounted := h.toSame.set_clock second.self.warmup_start_ms_
      ((second.self.warmup_frame_count_ + 1) % 2 ^ 32)
    rw [← h.warmup_count] at hcounted
    simp only [World.update]
    rw [← h.warmup_count]
    convert hcounted using 2
    exact h.warmup_start

theorem Paired.finish_warm_up {first second : World Script} (h : Paired False first second)
    (elapsed : Nat) :
    Paired False (DvrRecorder.finish_warm_up scripted elapsed first)
      (DvrRecorder.finish_warm_up scripted elapsed second) := by
  have hopened := h.open_writer false
  have hrate : first.self.warm_up_fps elapsed = second.self.warm_up_fps elapsed := by
    rw [DvrRecorder.warm_up_fps, DvrRecorder.warm_up_fps, h.warmup_count]
  unfold DvrRecorder.finish_warm_up
  dsimp only
  rw [hrate, hopened.answer]
  generalize second.self.warm_up_fps elapsed = fps
  split
  · have hlogged := hopened.paired.log (.warm_up_completed fps) (.warm_up_completed fps)
    refine hopened.paired.frame ⟨?_, hopened.paired.host, hlogged.observed⟩ ?_ ?_ ?_
    all_goals
      obtain ⟨duration, hrate⟩ :=
        (DvrRecorder.open_writer scripted false first).2.self.update_frame_rate_frame fps
      obtain ⟨duration', hrate'⟩ :=
        (DvrRecorder.open_writer scripted false second).2.self.update_frame_rate_frame fps
      simp only [World.log, World.perform, World.update, hrate, hrate']
    · exact (hopened.paired.toSame.set_warmup true 0 0).set_file _ _ _ _ _ _ _ _ duration duration'
    all_goals rfl
  · refine (hopened.paired.log .open_after_warm_up_failed .open_after_warm_up_failed).frame
      ⟨?_, hopened.paired.host, (hopened.paired.log _ _).observed⟩ rfl rfl rfl
    exact ((hopened.paired.toSame.set_recording false).set_warmup false 0 0).clear

theorem Paired.warm_up {first second : World Script} (h : Paired False first second) :
    Paired False (DvrRecorder.warm_up scripted first) (DvrRecorder.warm_up scripted second) := by
  have hcounted := h.count_frame
  unfold DvrRecorder.warm_up
  generalize DvrRecorder.count_frame scripted first = first₁ at hcounted
  generalize DvrRecorder.count_frame scripted second = second₁ at hcounted
  have hread : Paired False (monotonic_ms scripted first₁).2 (monotonic_ms scripted second₁).2 := by
    refine hcounted.frame ⟨hcounted.toSame, ?_, hcounted.observed⟩ rfl rfl rfl
    simp only [monotonic_ms, scripted, hcounted.host]
  have hclock : (monotonic_ms scripted first₁).1 = (monotonic_ms scripted second₁).1 := by
    simp only [monotonic_ms, scripted, hcounted.host]
  dsimp only
  rw [hclock, hcounted.warmup_start, hcounted.warmup_count]
  split
  · exact hread.finish_warm_up _
  · exact hread

theorem Paired.push {first second : World Script} (h : Paired False first second)
    (frame : Frame) : Paired False (pushed frame first) (pushed frame second) := by
  refine h.frame ⟨?_, h.host, h.observed⟩ rfl rfl rfl
  refine h.toSame.set_ring ?_ ?_ (h.first_ring.push _) (h.second_ring.push _)
  · rw [h.first_ring.push_contents, h.second_ring.push_contents, h.capacity, h.contents]
  · rw [FrameRingBuffer.push_capacity, FrameRingBuffer.push_capacity, h.capacity]

theorem Paired.drain_pushed {first second : World Script} (h : Paired False first second)
    (frame : Frame) :
    Paired False
      (DvrRecorder.drain scripted (pushed frame first).self.ring_buffer_.size_ (pushed frame first))
      (DvrRecorder.drain scripted (pushed frame second).self.ring_buffer_.size_
        (pushed frame second)) := by
  have hpushed := h.push frame
  have hsize : (pushed frame first).self.ring_buffer_.size_ =
      (pushed frame second).self.ring_buffer_.size_ := by
    rw [← FrameRingBuffer.length_contents, hpushed.contents, FrameRingBuffer.length_contents]
  rw [← hsize]
  by_cases hcond : (pushed frame first).self.drain_condition = true
  · have hready := ((drain_condition_iff _).mp hcond).2.1
    have hdrained := Paired.drain (pushed frame first).self.ring_buffer_.size_
      ⟨hpushed.toLockstep, fun _ => hpushed.same_file (Or.inr hready)⟩
    exact ⟨hdrained.toLockstep, fun _ => hdrained.same_file (Or.inl trivial)⟩
  · rw [drain_of_stopped scripted hcond, drain_of_stopped scripted
      (fun hcond' => hcond (hpushed.toSame.drain_condition.trans hcond'))]
    exact hpushed

theorem Paired.handle_command {first second : World Script} (h : Paired False first second)
    (cmd : Command) :
    Paired False (DvrRecorder.handle_command scripted cmd first)
      (DvrRecorder.handle_command scripted cmd second) := by
  unfold DvrRecorder.handle_command
  cases cmd.type with
  | Start =>
    dsimp only
    rw [h.recording]
    split
    · have hlogged := h.log .warm_up_started .warm_up_started
      refine h.frame ⟨?_, h.host, hlogged.observed⟩ rfl rfl rfl
      exact (h.toSame.clear.set_warmup false 0 0).set_recording true
    · exact h
  | Stop => exact (h.close_writer true).reset_warmup_state
  | Shutdown =>
    have hrunning : Paired False (first.update fun self => { self with running_ := false })
        (second.update fun self => { self with running_ := false }) := by
      refine h.frame ⟨?_, h.host, h.observed⟩ rfl rfl rfl
      exact ⟨h.contents, h.capacity, h.first_ring, h.second_ring, h.warmup_done, h.warmup_start,
        h.warmup_count, h.recording, h.ready, h.valid, h.valid_of_ready, h.carried⟩
    exact (hrunning.close_writer true).reset_warmup_state
  | Frame =>
    cases cmd.frame with
    | none => exact h
    | some frame =>
      dsimp only
      rw [h.recording, h.warmup_done]
      split
      · exact h
      · split
        · exact h.warm_up
        · exact h.drain_pushed frame

theorem Paired.process_command {first second : World Script} (h : Paired False first second)
    (cmd : Command) :
    Paired False (DvrRecorder.process_command scripted cmd first)
      (DvrRecorder.process_command scripted cmd second) := by
  unfold DvrRecorder.process_command
  dsimp only
  split
  · exact (h.handle_command cmd).close_writer true
  · exact h.handle_command cmd

/-- Two workers in lockstep stay in lockstep through any run. -/
theorem Paired.worker_loop {first second : Worker Script}
    (h : Paired False first.toWorld second.toWorld) (hexited : first.exited = second.exited)
    (cmds : List Command) :
    Paired False (DvrRecorder.worker_loop scripted first cmds).toWorld
      (DvrRecorder.worker_loop scripted second cmds).toWorld := by
  induction cmds generalizing first second with
  | nil => exact h
  | cons cmd rest ih =>
    have hnext : Paired False (DvrRecorder.worker_step scripted first cmd).toWorld
          (DvrRecorder.worker_step scripted second cmd).toWorld ∧
        (DvrRecorder.worker_step scripted first cmd).exited =
          (DvrRecorder.worker_step scripted second cmd).exited := by
      unfold DvrRecorder.worker_step
      rw [hexited]
      split
      · exact ⟨h, hexited⟩
      · exact ⟨h.process_command cmd, rfl⟩
    exact ih hnext.1 hnext.2

end amldigitalfpv.dvr_recorder
