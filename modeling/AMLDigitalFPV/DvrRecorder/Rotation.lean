import AMLDigitalFPV.DvrRecorder.Iterations
import AMLDigitalFPV.DvrRecorder.Sessions

open Runs amldigitalfpv.frame_ring_buffer

namespace amldigitalfpv.dvr_recorder

/-- Where a call of the write callback leaves the end of the file: behind what
it has written, if it has, unless the file is longer already. -/
def WriteCall.extend (file_end : Nat) (call : WriteCall) : Nat :=
  if call.fseek_ok = true ∧ call.fwrite_count = call.size then
    max file_end ((clamp_positive call.offset).toNat + call.size)
  else
    file_end

def file_end_step (file_end : Nat) : Action → Nat
  | .log (.recording_to _) => 0
  | .write_nal _ _ _ calls => calls.foldl WriteCall.extend file_end
  | _ => file_end

/-- The end of the current file: the largest offset plus size that the callback
has written since the last opening was finished. -/
def file_end (taken : List Action) : Nat := taken.foldl file_end_step 0

theorem file_end_append (taken more : List Action) :
    file_end (taken ++ more) = more.foldl file_end_step (file_end taken) :=
  List.foldl_append

/-- What the callback counts while a file is open. -/
structure Counted {ω : Type} (w : World ω) : Prop where
  file : w.self.file_ ≠ none
  bytes : w.self.current_file_bytes_ = file_end w.trace
  requested : w.self.rotate_requested_ = decide (kMaxFat32Size ≤ w.self.current_file_bytes_)

/-- The current file has room for another frame, and nothing asks for the next. -/
structure HasRoom {ω : Type} (w : World ω) : Prop extends Counted w where
  below : w.self.current_file_bytes_ < kMaxFat32Size

theorem file_write_callback_extend (call : WriteCall) {self : DvrRecorder}
    (hfile : self.file_ ≠ none)
    (hrequested : self.rotate_requested_ = decide (kMaxFat32Size ≤ self.current_file_bytes_)) :
    (self.file_write_callback call).2 =
      self.with_counters (call.extend self.current_file_bytes_)
        (decide (kMaxFat32Size ≤ call.extend self.current_file_bytes_)) := by
  have hsame : self = self.with_counters self.current_file_bytes_
      (decide (kMaxFat32Size ≤ self.current_file_bytes_)) := by
    rw [← hrequested]
    rfl
  unfold DvrRecorder.file_write_callback WriteCall.extend
  rw [if_neg hfile]
  by_cases hseek : call.fseek_ok = true
  · by_cases hcount : call.fwrite_count = call.size
    · rw [if_neg (not_not.mpr hseek), if_neg (not_not.mpr hcount), if_pos ⟨hseek, hcount⟩, hcount]
      generalize (clamp_positive call.offset).toNat + call.size = new_end
      dsimp only
      by_cases hgrow : new_end > self.current_file_bytes_
      · rw [if_pos hgrow, Nat.max_eq_right (Nat.le_of_lt hgrow)]
        by_cases hlimit : new_end ≥ kMaxFat32Size
        · simp [DvrRecorder.with_counters, hlimit]
        · have hbefore : ¬ kMaxFat32Size ≤ self.current_file_bytes_ := by omega
          simp [DvrRecorder.with_counters, hlimit, hrequested, hbefore]
      · rw [if_neg hgrow, Nat.max_eq_left (Nat.le_of_not_lt hgrow)]
        by_cases hlimit : new_end ≥ kMaxFat32Size
        · have hbefore : kMaxFat32Size ≤ self.current_file_bytes_ := by omega
          simp [DvrRecorder.with_counters, hlimit, hbefore]
        · rw [if_neg hlimit]
          exact hsame
    · rw [if_neg (not_not.mpr hseek), if_pos hcount, if_neg (by simp [hcount])]
      exact hsame
  · rw [if_pos hseek, if_neg (by simp [hseek])]
    exact hsame

theorem run_callbacks_extend (calls : List WriteCall) {self : DvrRecorder}
    (hfile : self.file_ ≠ none)
    (hrequested : self.rotate_requested_ = decide (kMaxFat32Size ≤ self.current_file_bytes_)) :
    self.run_callbacks calls =
      self.with_counters (calls.foldl WriteCall.extend self.current_file_bytes_)
        (decide (kMaxFat32Size ≤ calls.foldl WriteCall.extend self.current_file_bytes_)) := by
  induction calls generalizing self with
  | nil =>
    rw [List.foldl_nil, ← hrequested]
    rfl
  | cons call rest ih =>
    have hcall := file_write_callback_extend call hfile hrequested
    rw [DvrRecorder.run_callbacks, List.foldl_cons, hcall, ← DvrRecorder.run_callbacks, ih]
    · rfl
    · exact hfile
    · rfl

section

variable {ω : Type} {H : Host ω} {w : World ω}

theorem HasRoom.of_self (h : HasRoom w) {after : World ω}
    (htrace : file_end after.trace = file_end w.trace)
    (hfile : after.self.file_ = w.self.file_)
    (hbytes : after.self.current_file_bytes_ = w.self.current_file_bytes_)
    (hrequested : after.self.rotate_requested_ = w.self.rotate_requested_) : HasRoom after := by
  obtain ⟨⟨hfile₁, hbytes₁, hrequested₁⟩, hbelow₁⟩ := h
  refine ⟨⟨?_, ?_, ?_⟩, ?_⟩
  · rwa [hfile]
  · rw [hbytes, hbytes₁, htrace]
  · rw [hrequested, hbytes, hrequested₁]
  · rwa [hbytes]

/-- A file just opened. -/
theorem HasRoom.of_opened {earlier : List Action} {path : Path}
    (hfile : w.self.file_ ≠ none) (hbytes : w.self.current_file_bytes_ = 0)
    (hrequested : w.self.rotate_requested_ = false)
    (htrace : w.trace = earlier ++ [.log (.recording_to path)]) : HasRoom w := by
  refine ⟨⟨hfile, ?_, ?_⟩, ?_⟩
  · rw [hbytes, htrace, file_end_append]
    rfl
  · rw [hbytes, hrequested]
    rfl
  · rw [hbytes]
    decide

theorem Counted.write_popped (h : Counted w) (frame : Frame) :
    Counted (write_popped H frame w).2 := by
  obtain ⟨hfile, hbytes, hrequested⟩ := h
  have hpopped : (popped w).self.file_ ≠ none := hfile
  have hself := run_callbacks_extend (H.mp4_h26x_write_nal (popped w).self frame
    (if w.self.frame_duration_ = 0 then kDefaultFrameDuration else w.self.frame_duration_)
    w.host).1.2 hpopped hrequested
  have hwritten : (dvr_recorder.write_popped H frame w).2.self = _ := hself
  constructor
  · rw [hwritten]
    exact hfile
  · rw [hwritten]
    unfold dvr_recorder.write_popped mp4_h26x_write_nal
    rw [file_end_append]
    change List.foldl WriteCall.extend w.self.current_file_bytes_ _ =
      List.foldl WriteCall.extend (file_end w.trace) _
    rw [hbytes]
    rfl
  · rw [hwritten]
    rfl

theorem init_writer_recording (mark_recording : Bool) (path : Path) (file mux : Handle)
    (hopened : (DvrRecorder.init_writer H mark_recording path file mux w).1 = true) :
    ∃ earlier, (DvrRecorder.init_writer H mark_recording path file mux w).2.trace =
      earlier ++ [.log (.recording_to path)] := by
  unfold DvrRecorder.init_writer at hopened ⊢
  dsimp only at hopened ⊢
  split at hopened
  · cases hopened
  · split at hopened
    · cases hopened
    · next hwriter hinit =>
      rw [if_neg hwriter, if_neg hinit]
      exact ⟨_, rfl⟩

theorem open_mux_recording (mark_recording : Bool) (path : Path) (file : Handle)
    (hopened : (DvrRecorder.open_mux H mark_recording path file w).1 = true) :
    ∃ earlier, (DvrRecorder.open_mux H mark_recording path file w).2.trace =
      earlier ++ [.log (.recording_to path)] := by
  unfold DvrRecorder.open_mux at hopened ⊢
  split at hopened
  · cases hopened
  · exact init_writer_recording mark_recording path file _ hopened

/-- The last thing that an opening does is to say so. -/
theorem open_writer_recording (hready : w.self.writer_ready_ = false) (mark_recording : Bool)
    (hopened : (DvrRecorder.open_writer H mark_recording w).1 = true) :
    ∃ earlier path, (DvrRecorder.open_writer H mark_recording w).2.trace =
      earlier ++ [.log (.recording_to path)] := by
  unfold DvrRecorder.open_writer at hopened ⊢
  rw [if_neg (by simp [hready])] at hopened ⊢
  split at hopened
  · cases hopened
  · next hparams =>
    rw [if_neg hparams]
    dsimp only at hopened ⊢
    split at hopened
    · cases hopened
    · next hpath =>
      rw [if_neg hpath]
      split at hopened
      · cases hopened
      · obtain ⟨earlier, htrace⟩ := open_mux_recording mark_recording _ _ hopened
        exact ⟨earlier, _, htrace⟩

/-- A successful opening leaves a file with room, whatever the muxer wrote to it
on the way. -/
theorem open_writer_has_room (hready : w.self.writer_ready_ = false) (mark_recording : Bool)
    (hopened : (DvrRecorder.open_writer H mark_recording w).1 = true) :
    HasRoom (DvrRecorder.open_writer H mark_recording w).2 := by
  obtain ⟨earlier, path, htrace⟩ := open_writer_recording hready mark_recording hopened
  obtain ⟨-, file, mux, hself⟩ | ⟨hfailed, -⟩ := (open_writer_spec H hready mark_recording).2
  · refine .of_opened ?_ ?_ ?_ htrace <;> simp [hself, DvrRecorder.opened]
  · rw [hopened] at hfailed
    cases hfailed

/-- A rotation that does not report a failure leaves a file with room. -/
theorem try_rotate_has_room
    (hrotates : .log .failed_to_rotate ∉ emitted World.trace w (DvrRecorder.try_rotate H w)) :
    HasRoom (DvrRecorder.try_rotate H w) := by
  have hopened : (DvrRecorder.rotate_recording_file H w).1 = true := by
    by_contra hfailed
    apply hrotates
    have hgrow : w.trace <+: (DvrRecorder.rotate_recording_file H w).2.trace := by
      unfold DvrRecorder.rotate_recording_file
      split
      · exact List.prefix_refl _
      · exact (close_writer_quiet H false w).log_extends.trans
          (open_writer_spec H (close_writer_ready H false w) false).1.log_extends
    unfold DvrRecorder.try_rotate
    rw [if_neg hfailed]
    exact mem_emitted_of_append hgrow rfl (List.mem_singleton_self _)
  unfold DvrRecorder.try_rotate
  rw [if_pos hopened]
  unfold DvrRecorder.rotate_recording_file at hopened ⊢
  split at hopened
  · cases hopened
  · next hrecording =>
    rw [if_neg hrecording]
    exact open_writer_has_room (close_writer_ready H false w) false hopened

theorem after_write_eq (w : World ω) :
    DvrRecorder.after_write H w =
      if (request_served H w).self.stop_requested_ then
        (false, (DvrRecorder.close_writer H true (((request_served H w).update fun self =>
          { self with stop_requested_ := false }).log .stopping_after_write_failures)).update
            fun self => self.clear_ring_buffer.reset_warmup_state)
      else if (request_served H w).self.current_file_bytes_ ≥ kMaxFat32Size then
        (true, DvrRecorder.try_rotate H (request_served H w))
      else
        (true, request_served H w) := rfl

theorem request_served_trace (w : World ω) :
    w.trace <+: (request_served H w).trace := by
  unfold request_served
  split
  · exact (try_rotate_spec H (request_cleared w)).trace.log_extends
  · exact List.prefix_refl _

theorem after_write_trace (w : World ω) :
    (request_served H w).trace <+: (DvrRecorder.after_write H w).2.trace := by
  rw [after_write_eq]
  split
  · have hlog : (request_served H w).trace <+: (((request_served H w).update fun self =>
        { self with stop_requested_ := false }).log .stopping_after_write_failures).trace :=
      ⟨_, rfl⟩
    exact hlog.trans (close_writer_quiet H true _).log_extends
  · split
    · exact (try_rotate_spec H _).trace.log_extends
    · exact List.prefix_refl _

/-- Once a request for a rotation has been served, the file has room. -/
theorem Counted.request_served (h : Counted w)
    (hrotates : .log .failed_to_rotate ∉ emitted World.trace w (DvrRecorder.after_write H w).2) :
    HasRoom (request_served H w) := by
  rw [emitted_trans (request_served_trace w) (after_write_trace w), List.mem_append, not_or]
    at hrotates
  have hserved := hrotates.1
  unfold dvr_recorder.request_served at hserved ⊢
  cases hrequested : w.self.rotate_requested_ with
  | true =>
    rw [hrequested, if_pos rfl] at hserved
    rw [if_pos rfl]
    exact try_rotate_has_room hserved
  | false =>
    rw [if_neg Bool.false_ne_true]
    have hcounted := h.requested
    rw [hrequested] at hcounted
    exact ⟨h, by simpa using hcounted.symm⟩

/-- The test of the counter never asks for a second rotation. -/
theorem Counted.after_write_rotations (h : Counted w)
    (hrotates : .log .failed_to_rotate ∉ emitted World.trace w (DvrRecorder.after_write H w).2) :
    after_write_rotations H w =
      if kMaxFat32Size ≤ file_end w.trace then [request_cleared w] else [] := by
  have hserved := (h.request_served hrotates).below
  have hsecond : ¬ (¬ (dvr_recorder.request_served H w).self.stop_requested_ ∧
      (dvr_recorder.request_served H w).self.current_file_bytes_ ≥ kMaxFat32Size) :=
    fun hagain => Nat.not_le_of_lt hserved hagain.2
  unfold dvr_recorder.after_write_rotations
  rw [if_neg hsecond, h.requested, h.bytes]
  simp

theorem Counted.after_write (h : Counted w)
    (hrotates : .log .failed_to_rotate ∉ emitted World.trace w (DvrRecorder.after_write H w).2)
    (hready : (DvrRecorder.after_write H w).2.self.writer_ready_ = true) :
    HasRoom (DvrRecorder.after_write H w).2 := by
  have hserved := h.request_served hrotates
  rw [after_write_eq] at hready ⊢
  split at hready
  · have hclosed := close_writer_ready H true (((dvr_recorder.request_served H w).update fun self =>
      { self with stop_requested_ := false }).log .stopping_after_write_failures)
    exact absurd (hclosed.symm.trans hready) Bool.false_ne_true
  · next hstop =>
    rw [if_neg hstop, if_neg (Nat.not_le_of_lt hserved.below)]
    exact hserved

end

/-- The lines with one of which every rotation ends, and every opening that
succeeds. -/
def Action.ends_rotation : Action → Bool
  | .log (.recording_to _) | .log .failed_to_rotate => true
  | _ => false

section

variable {ω : Type} {H : Host ω}

/-- How often the trace says so. -/
def rotations_ended (w : World ω) : Nat := w.trace.countP Action.ends_rotation

theorem rotations_ended_perform {action : Action} (w : World ω) :
    rotations_ended (w.perform action) =
      rotations_ended w + if action.ends_rotation then 1 else 0 := by
  rw [rotations_ended, World.perform, List.countP_append, List.countP_singleton]
  rfl

theorem close_mux_rotations_ended (w : World ω) :
    rotations_ended (DvrRecorder.close_mux H w) = rotations_ended w := by
  unfold DvrRecorder.close_mux
  split
  · exact rotations_ended_perform _
  · rfl

theorem close_nal_writer_rotations_ended (w : World ω) :
    rotations_ended (DvrRecorder.close_nal_writer H w) = rotations_ended w := by
  unfold DvrRecorder.close_nal_writer
  split <;> rfl

theorem close_file_rotations_ended (w : World ω) :
    rotations_ended (DvrRecorder.close_file H w) = rotations_ended w := by
  unfold DvrRecorder.close_file
  split
  · exact rotations_ended_perform _
  · rfl

theorem close_writer_rotations_ended (clear_recording : Bool) (w : World ω) :
    rotations_ended (DvrRecorder.close_writer H clear_recording w) = rotations_ended w := by
  unfold DvrRecorder.close_writer
  split
  · split <;> rfl
  · refine (rotations_ended_perform _).trans ((close_file_rotations_ended _).trans ?_)
    exact (close_nal_writer_rotations_ended _).trans (close_mux_rotations_ended _)

theorem init_writer_rotations_ended (mark_recording : Bool) (path : Path) (file mux : Handle)
    (w : World ω) :
    rotations_ended (DvrRecorder.init_writer H mark_recording path file mux w).2 =
      rotations_ended w +
        if (DvrRecorder.init_writer H mark_recording path file mux w).1 then 1 else 0 := by
  have hallocated (w : World ω) :
      rotations_ended (DvrRecorder.allocate_writer H w) = rotations_ended w := by
    rw [rotations_ended, allocate_writer_trace]
    rfl
  unfold DvrRecorder.init_writer
  dsimp only
  split
  · refine (rotations_ended_perform _).trans ((rotations_ended_perform _).trans ?_)
    exact (rotations_ended_perform _).trans (hallocated w)
  · split
    · refine (rotations_ended_perform _).trans ((rotations_ended_perform _).trans ?_)
      exact (rotations_ended_perform _).trans (hallocated w)
    · exact (rotations_ended_perform _).trans (congrArg (· + 1) (hallocated w))

theorem open_mux_rotations_ended (mark_recording : Bool) (path : Path) (file : Handle)
    (w : World ω) :
    rotations_ended (DvrRecorder.open_mux H mark_recording path file w).2 =
      rotations_ended w +
        if (DvrRecorder.open_mux H mark_recording path file w).1 then 1 else 0 := by
  have hopen (w : World ω) : rotations_ended (MP4E_open H w).2 = rotations_ended w := by
    unfold MP4E_open
    dsimp only
    split
    · exact rotations_ended_perform _
    · rfl
  have hopened := hopen (w.update fun self => { self with file_ := some file })
  unfold DvrRecorder.open_mux
  split
  · next hreply =>
    rw [hreply] at hopened
    exact (rotations_ended_perform _).trans ((rotations_ended_perform _).trans hopened)
  · next hreply =>
    rw [hreply] at hopened
    exact (init_writer_rotations_ended _ _ _ _ _).trans (congrArg (· + _) hopened)

theorem open_writer_rotations_ended (mark_recording : Bool) {w : World ω}
    (hready : w.self.writer_ready_ = false) :
    rotations_ended (DvrRecorder.open_writer H mark_recording w).2 =
      rotations_ended w + if (DvrRecorder.open_writer H mark_recording w).1 then 1 else 0 := by
  unfold DvrRecorder.open_writer
  rw [if_neg (by simp [hready])]
  split
  · exact rotations_ended_perform _
  · dsimp only
    split
    · exact rotations_ended_perform _
    · unfold fopen
      split
      · next hopen =>
        split at hopen <;> cases hopen
        exact rotations_ended_perform _
      · next hopen =>
        split at hopen <;> cases hopen
        refine (open_mux_rotations_ended _ _ _ _).trans (congrArg (· + _) ?_)
        exact rotations_ended_perform _

theorem try_rotate_rotations_ended (w : World ω) :
    rotations_ended (DvrRecorder.try_rotate H w) = rotations_ended w + 1 := by
  have hrotated : rotations_ended (DvrRecorder.rotate_recording_file H w).2 =
      rotations_ended w + if (DvrRecorder.rotate_recording_file H w).1 then 1 else 0 := by
    unfold DvrRecorder.rotate_recording_file
    split
    · rfl
    · rw [open_writer_rotations_ended false (close_writer_ready H false w),
        close_writer_rotations_ended]
  unfold DvrRecorder.try_rotate
  dsimp only
  split
  · next hopened => rw [hrotated, if_pos hopened]
  · next hfailed =>
    rw [if_neg hfailed] at hrotated
    exact (rotations_ended_perform _).trans (congrArg (· + 1) hrotated)

theorem request_served_rotations_ended (w : World ω) :
    rotations_ended (request_served H w) =
      rotations_ended w + if w.self.rotate_requested_ then 1 else 0 := by
  unfold request_served
  split
  · exact try_rotate_rotations_ended (request_cleared w)
  · rfl

/-- The list of rotations is as long as the trace says. -/
theorem length_after_write_rotations (w : World ω) :
    rotations_ended (DvrRecorder.after_write H w).2 =
      rotations_ended w + (after_write_rotations H w).length := by
  have hserved := request_served_rotations_ended (H := H) w
  rw [after_write_eq, after_write_rotations, List.length_append]
  have hfirst : (if w.self.rotate_requested_ then [request_cleared w] else []).length =
      if w.self.rotate_requested_ then 1 else 0 := by
    split <;> rfl
  rw [hfirst, ← Nat.add_assoc, ← hserved]
  by_cases hstop : (request_served H w).self.stop_requested_ = true
  · rw [if_pos hstop, if_neg (by simp [hstop])]
    refine (close_writer_rotations_ended true _).trans ?_
    exact rotations_ended_perform _
  · rw [if_neg hstop]
    by_cases hbytes : (request_served H w).self.current_file_bytes_ ≥ kMaxFat32Size
    · rw [if_pos hbytes, if_pos ⟨hstop, hbytes⟩]
      exact try_rotate_rotations_ended _
    · rw [if_neg hbytes, if_neg fun hagain => hbytes hagain.2]
      rfl

theorem length_body_rotations (w : World ω) :
    rotations_ended (DvrRecorder.drain_body H w).2 =
      rotations_ended w + (body_rotations H w).length := by
  unfold body_rotations
  cases hframe : w.self.ring_buffer_.pop.1 with
  | none =>
    rw [drain_body_of_null H hframe]
    rfl
  | some frame =>
    have hwrote : rotations_ended (write_popped H frame w).2 = rotations_ended w :=
      rotations_ended_perform _
    dsimp only
    split
    · next hres =>
      rw [drain_body_of_rejected H hframe hres]
      exact (rotations_ended_perform _).trans hwrote
    · next hres =>
      rw [drain_body_of_accepted H hframe hres, length_after_write_rotations, hwrote]

theorem length_drain_rotations (fuel : Nat) (w : World ω) :
    rotations_ended (DvrRecorder.drain H fuel w) =
      rotations_ended w + ((drain_iterations H fuel w).flatMap (body_rotations H)).length := by
  induction fuel generalizing w with
  | zero => rfl
  | succ fuel ih =>
    rw [DvrRecorder.drain, drain_iterations]
    split
    · dsimp only
      rw [List.flatMap_cons, List.length_append, ← Nat.add_assoc, ← length_body_rotations]
      split
      · exact ih _
      · rfl
    · rfl

end

/-- An iteration of the drain loop begins with a file that has room. Both tests
for a rotation see the end of the current file, and the file is rotated once if
the frame has taken it to the limit. -/
structure RotatesOnce {ω : Type} (H : Host ω) (v : World ω) : Prop where
  below : file_end v.trace < kMaxFat32Size
  counted : ∀ frame, v.self.ring_buffer_.pop.1 = some frame →
    (write_popped H frame v).2.self.current_file_bytes_ =
      file_end (write_popped H frame v).2.trace
  served : ∀ frame, v.self.ring_buffer_.pop.1 = some frame →
    (request_served H (write_popped H frame v).2).self.current_file_bytes_ =
      file_end (request_served H (write_popped H frame v).2).trace
  rotations : ∀ frame, v.self.ring_buffer_.pop.1 = some frame →
    body_rotations H v =
      if kMaxFat32Size ≤ file_end (write_popped H frame v).2.trace then
        [request_cleared (write_popped H frame v).2]
      else
        []

/-- No failure is reported between two worlds. -/
def NoneDisturbs {ω : Type} (before after : World ω) : Prop :=
  ∀ action ∈ emitted World.trace before after, ¬ action.disturbs

section

variable {ω : Type} {H : Host ω} {w : World ω}

theorem NoneDisturbs.split {first second third : World ω} (h : NoneDisturbs first third)
    (hfirst : first.trace <+: second.trace) (hsecond : second.trace <+: third.trace) :
    NoneDisturbs first second ∧ NoneDisturbs second third := by
  unfold NoneDisturbs at h
  rw [emitted_trans hfirst hsecond] at h
  exact ⟨fun action hmem => h action (List.mem_append_left _ hmem),
    fun action hmem => h action (List.mem_append_right _ hmem)⟩

theorem NoneDisturbs.rotates {before after : World ω} (h : NoneDisturbs before after) :
    .log .failed_to_rotate ∉ emitted World.trace before after :=
  fun hmem => h _ hmem (.inr (.inl rfl))

/-- One iteration of the drain loop. -/
theorem HasRoom.drain_body (h : HasRoom w)
    (hquiet : NoneDisturbs w (DvrRecorder.drain_body H w).2) :
    RotatesOnce H w ∧ ((DvrRecorder.drain_body H w).2.self.writer_ready_ = true →
      HasRoom (DvrRecorder.drain_body H w).2) := by
  have hbelow : file_end w.trace < kMaxFat32Size := by
    rw [← h.bytes]
    exact h.below
  cases hframe : w.self.ring_buffer_.pop.1 with
  | none =>
    rw [drain_body_of_null H hframe]
    refine ⟨⟨hbelow, ?_, ?_, ?_⟩, fun _ => h.of_self rfl rfl rfl rfl⟩ <;>
      simp [hframe]
  | some frame =>
    have hwrote := h.toCounted.write_popped (H := H) frame
    obtain ⟨duration, calls, htrace⟩ := (write_popped_spec H frame w).trace
    have haccepted : ¬ rejected (write_popped H frame w).1 := by
      intro hrejected
      rw [drain_body_of_rejected H hframe hrejected] at hquiet
      have hwritten : .write_nal frame duration (write_popped H frame w).1 calls ∈
          emitted World.trace w (write_popped H frame w).2 :=
        mem_emitted_of_append (List.prefix_refl _) htrace (List.mem_singleton_self _)
      apply hquiet (.write_nal frame duration (write_popped H frame w).1 calls) _ (.inl hrejected)
      rw [emitted_trans ⟨_, htrace.symm⟩ ⟨_, rfl⟩]
      exact List.mem_append_left _ hwritten
    rw [drain_body_of_accepted H hframe haccepted] at hquiet ⊢
    have hgrow : w.trace <+: (write_popped H frame w).2.trace := ⟨_, htrace.symm⟩
    have hrotates := (hquiet.split hgrow
      ((request_served_trace _).trans (after_write_trace _))).2.rotates
    refine ⟨⟨hbelow, ?_, ?_, ?_⟩, hwrote.after_write hrotates⟩
    · intro other hother
      cases hframe.symm.trans hother
      exact hwrote.bytes
    · intro other hother
      cases hframe.symm.trans hother
      exact (hwrote.request_served hrotates).bytes
    · intro other hother
      cases hframe.symm.trans hother
      unfold body_rotations
      rw [hframe]
      dsimp only
      rw [if_neg haccepted]
      exact hwrote.after_write_rotations hrotates

theorem drain_rotates_once (fuel : Nat) {w : World ω}
    (hroom : w.self.writer_ready_ = true → HasRoom w)
    (hquiet : NoneDisturbs w (DvrRecorder.drain H fuel w)) :
    (∀ v ∈ drain_iterations H fuel w, RotatesOnce H v) ∧
      ((DvrRecorder.drain H fuel w).self.writer_ready_ = true →
        HasRoom (DvrRecorder.drain H fuel w)) := by
  induction fuel generalizing w with
  | zero => exact ⟨fun _ hmem => absurd hmem List.not_mem_nil, hroom⟩
  | succ fuel ih =>
    by_cases hcond : w.self.drain_condition = true
    · have hready := ((drain_condition_iff _).mp hcond).2.1
      unfold drain_iterations
      rw [DvrRecorder.drain, if_pos hcond] at hquiet ⊢
      rw [if_pos hcond]
      dsimp only at hquiet ⊢
      cases hbody : (DvrRecorder.drain_body H w).1 with
      | false =>
        rw [hbody, if_neg Bool.false_ne_true] at hquiet
        obtain ⟨hfirst, hafter⟩ := (hroom hready).drain_body hquiet
        rw [if_neg Bool.false_ne_true, if_neg Bool.false_ne_true]
        exact ⟨by simpa using hfirst, hafter⟩
      | true =>
        rw [hbody, if_pos rfl] at hquiet
        obtain ⟨hnow, hlater⟩ :=
          hquiet.split (drain_body_trace H hready) (drain_trace H fuel _)
        obtain ⟨hfirst, hafter⟩ := (hroom hready).drain_body hnow
        obtain ⟨hrest, hend⟩ := ih hafter hlater
        rw [if_pos rfl, if_pos rfl]
        exact ⟨by simpa using ⟨hfirst, hrest⟩, hend⟩
    · rw [drain_of_stopped H hcond]
      refine ⟨fun v hmem => ?_, hroom⟩
      unfold drain_iterations at hmem
      rw [if_neg hcond] at hmem
      cases hmem

theorem finish_warm_up_has_room (elapsed : Nat) (hbefore : w.self.writer_ready_ = false)
    (hready : (DvrRecorder.finish_warm_up H elapsed w).self.writer_ready_ = true) :
    HasRoom (DvrRecorder.finish_warm_up H elapsed w) := by
  unfold DvrRecorder.finish_warm_up at hready ⊢
  generalize w.self.warm_up_fps elapsed = fps
    at hready ⊢
  dsimp only at hready ⊢
  split at hready
  · next hopened =>
    rw [if_pos hopened]
    obtain ⟨duration, hrate⟩ :=
      (DvrRecorder.open_writer H false w).2.self.update_frame_rate_frame fps
    refine (open_writer_has_room hbefore false hopened).of_self ?_ ?_ ?_ ?_
    · rw [World.log, World.perform, file_end_append]
      rfl
    all_goals simp only [World.log, World.perform, World.update, hrate]
    all_goals rfl
  · next hfailed =>
    obtain ⟨hopened, -⟩ | ⟨-, hresidue⟩ := (open_writer_spec H hbefore false).2
    · exact absurd hopened hfailed
    · obtain ⟨bytes, rotate, file, writer, hself⟩ := hresidue
      have hclosed : (DvrRecorder.open_writer H false w).2.self.writer_ready_ = false := by
        rw [hself]
        exact hbefore
      exact absurd (hclosed.symm.trans hready) Bool.false_ne_true

/-- The frame that completes the warm-up leaves a file with room. -/
theorem warm_up_has_room (hbefore : w.self.writer_ready_ = false)
    (hready : (DvrRecorder.warm_up H w).self.writer_ready_ = true) :
    HasRoom (DvrRecorder.warm_up H w) := by
  have hclosed : (monotonic_ms H (DvrRecorder.count_frame H w)).2.self.writer_ready_ = false := by
    unfold DvrRecorder.count_frame
    split <;> exact hbefore
  unfold DvrRecorder.warm_up at hready ⊢
  dsimp only at hready ⊢
  split at hready
  · next hsecond =>
    rw [if_pos hsecond]
    exact finish_warm_up_has_room _ hclosed hready
  · exact absurd (hclosed.symm.trans hready) Bool.false_ne_true

/-- One command. -/
theorem process_command_rotates_once {w : World ω} (hcons : Consistent w.self)
    (hroom : w.self.writer_ready_ = true → HasRoom w) (cmd : Command)
    (hquiet : NoneDisturbs w (DvrRecorder.process_command H cmd w)) :
    (∀ v ∈ command_iterations H w cmd, RotatesOnce H v) ∧
      ((DvrRecorder.process_command H cmd w).self.writer_ready_ = true →
        HasRoom (DvrRecorder.process_command H cmd w)) := by
  have hreaction := process_command_cases H w cmd
  generalize DvrRecorder.process_command H cmd w = after at hreaction hquiet ⊢
  have hiterations : ∀ v ∈ command_iterations H w cmd, ∃ frame, cmd.type = .Frame ∧
      cmd.frame = some frame ∧ w.self.recording_ = true ∧ w.self.warmup_done_ = true ∧
      v ∈ drain_iterations H (pushed frame w).self.ring_buffer_.size_ (pushed frame w) :=
    fun v hmem => mem_command_iterations H hmem
  cases hreaction with
  | ignored hreason =>
    refine ⟨fun v hmem => ?_, hroom⟩
    obtain ⟨frame, htype, hframe, hrecording, -⟩ := hiterations v hmem
    simp [htype, hframe, hrecording] at hreason
  | started htype hrecording =>
    refine ⟨fun v hmem => ?_, fun hready => (hroom hready).of_self ?_ rfl rfl rfl⟩
    · obtain ⟨frame, -, -, hrecording', -⟩ := hiterations v hmem
      rw [hrecording] at hrecording'
      cases hrecording'
    · unfold started
      rw [World.log, World.perform, file_end_append]
      rfl
  | stopped htype hstopped =>
    refine ⟨fun v hmem => ?_, fun hready => ?_⟩
    · obtain ⟨frame, htype', -⟩ := hiterations v hmem
      simp [htype'] at htype
    · rw [hstopped.ready] at hready
      cases hready
  | warming htype hframe hrecording hwarm =>
    refine ⟨fun v hmem => ?_, warm_up_has_room ?_⟩
    · obtain ⟨frame, -, -, -, hwarm', -⟩ := hiterations v hmem
      rw [hwarm] at hwarm'
      cases hwarm'
    · by_contra hready
      have hsession := (hcons.session (by simpa using hready)).2
      rw [hwarm] at hsession
      cases hsession
  | drained htype hframe hrecording hwarm =>
    have hpushed : ∀ frame, (pushed frame w).self.writer_ready_ = true → HasRoom (pushed frame w) :=
      fun frame hready => (hroom hready).of_self rfl rfl rfl rfl
    obtain ⟨hdrained, hafter⟩ := drain_rotates_once _ (hpushed _) hquiet
    refine ⟨fun v hmem => ?_, hafter⟩
    obtain ⟨frame, -, hframe', -, -, hdrain⟩ := hiterations v hmem
    cases hframe.symm.trans hframe'
    exact hdrained v hdrain

theorem rotates_once_of_room {w : Worker ω} (hcons : Consistent w.self)
    (hroom : w.self.writer_ready_ = true → HasRoom w.toWorld) {cmds : List Command}
    (hquiet : Undisturbed w (DvrRecorder.worker_loop H w cmds)) :
    ∀ v ∈ iterations H w cmds, RotatesOnce H v := by
  induction cmds generalizing w with
  | nil => exact fun _ hmem => absurd hmem List.not_mem_nil
  | cons cmd rest ih =>
    obtain ⟨hnow, hlater⟩ := hquiet.cons
    intro v hmem
    cases hexited : w.exited with
    | true =>
      rw [iterations, hexited, if_pos rfl, List.nil_append] at hmem
      rw [worker_step_of_exited H hexited] at hlater hmem
      exact ih hcons hroom hlater v hmem
    | false =>
      rw [iterations, hexited, if_neg Bool.false_ne_true] at hmem
      rw [worker_step_of_running H hexited] at hnow hlater hmem
      obtain ⟨hiterations, hafter⟩ := process_command_rotates_once hcons hroom cmd hnow
      obtain hfirst | hrest := List.mem_append.mp hmem
      · exact hiterations v hfirst
      · exact ih (hcons.process_command H cmd) hafter hlater v hrest

/-- In a run without failures every iteration of the drain loop rotates the file
once if its frame has brought it to the limit, and not at all otherwise. -/
theorem rotates_once {start : Worker ω} (hstart : Initial start.self) {cmds : List Command}
    (hquiet : Undisturbed start (DvrRecorder.worker_loop H start cmds)) :
    ∀ v ∈ iterations H start cmds, RotatesOnce H v := by
  refine rotates_once_of_room hstart.consistent (fun hready => ?_) hquiet
  obtain ⟨writer, width, height, fps_hint, codec, path, hself⟩ := hstart
  rw [hself] at hready
  cases hready

end

/-- A first file that reaches the size limit with its first frame, the header
being patched once more after that, and a second file that does not. -/
def patched_header : Script :=
  { clock := one_second
    paths := [['r'], ['s']]
    writes := [(MP4E_STATUS_OK, [⟨kMaxFat32Size - 1, 1, true, 1⟩, ⟨4, 4, true, 4⟩])]
    closes := [[⟨kMaxFat32Size, 900, true, 900⟩]] }

theorem rotates_once_patched_header :
    (iterations scripted (constructed patched_header)
        (warm_up_commands ++ [⟨.Frame, some key_frame⟩, ⟨.Frame, some key_frame⟩])).map
          (fun v => (body_rotations scripted v).length) = [1, 0] ∧
      ∀ v ∈ iterations scripted (constructed patched_header)
          (warm_up_commands ++ [⟨.Frame, some key_frame⟩, ⟨.Frame, some key_frame⟩]),
        RotatesOnce scripted v := by
  refine ⟨by decide +kernel, rotates_once (constructed_initial patched_header) ?_⟩
  unfold Undisturbed
  decide +kernel

end amldigitalfpv.dvr_recorder
