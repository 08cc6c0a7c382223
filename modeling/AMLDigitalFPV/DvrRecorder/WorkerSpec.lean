import AMLDigitalFPV.DvrRecorder.Worker
import AMLDigitalFPV.DvrRecorder.WriterSpec

open Runs amldigitalfpv.frame_ring_buffer

namespace amldigitalfpv.dvr_recorder

/-- Neither of the two statuses after which the drain loop goes on. -/
def rejected (res : Int) : Prop := ¬ (res = MP4E_STATUS_OK ∨ res = MP4E_STATUS_BAD_ARGUMENTS)

instance (res : Int) : Decidable (rejected res) := inferInstanceAs (Decidable (¬ _))

/-- Actions other than frames written and reports of a rejected status. -/
def Action.between_frames (action : Action) : Prop :=
  action.quiet = true ∨ action = .log .failed_to_rotate

/-- What holds across rotations of the current file, successful or not. -/
structure Rotated {ω : Type} (before after : World ω) : Prop where
  trace : Emits World.trace Action.between_frames before after
  ring_buffer : after.self.ring_buffer_ = before.self.ring_buffer_
  warmup_done : after.self.warmup_done_ = before.self.warmup_done_
  recording : after.self.recording_ = before.self.recording_
  stop_requested : after.self.stop_requested_ = before.self.stop_requested_
  ready : after.self.writer_ready_ = true ∨
    .log .failed_to_rotate ∈ emitted World.trace before after

theorem Rotated.trans {ω : Type} {first second third : World ω} (h : Rotated first second)
    (h' : Rotated second third) : Rotated first third := by
  refine ⟨h.trace.trans h'.trace, h'.ring_buffer.trans h.ring_buffer,
    h'.warmup_done.trans h.warmup_done, h'.recording.trans h.recording,
    h'.stop_requested.trans h.stop_requested, ?_⟩
  cases h'.ready with
  | inl hready => exact Or.inl hready
  | inr hfailed =>
    right
    rw [emitted_trans h.trace.log_extends h'.trace.log_extends]
    exact List.mem_append_right _ hfailed

/-- What holds once a recording has been ended from within. -/
structure Ended {ω : Type} (before after : World ω) : Prop where
  trace : Emits World.trace Action.between_frames before after
  ring_buffer : after.self.ring_buffer_ = before.self.ring_buffer_.clear
  warmup_done : after.self.warmup_done_ = false
  recording : after.self.recording_ = false
  stop_requested : after.self.stop_requested_ = false
  ready : after.self.writer_ready_ = false

section Specs

variable {ω : Type} (H : Host ω)

theorem close_writer_stop_requested (clear_recording : Bool) (w : World ω) :
    (DvrRecorder.close_writer H clear_recording w).self.stop_requested_ =
      w.self.stop_requested_ := by
  rw [close_writer_self]
  split <;> rfl

theorem close_writer_ready (clear_recording : Bool) (w : World ω) :
    (DvrRecorder.close_writer H clear_recording w).self.writer_ready_ = false := by
  rw [close_writer_self]
  split
  · rfl
  · next hready => simpa using hready

theorem close_writer_recording (clear_recording : Bool) (w : World ω) :
    (DvrRecorder.close_writer H clear_recording w).self.recording_ =
      (w.self.recording_ && !clear_recording) := by
  rw [close_writer_self]
  split <;> rfl

theorem close_writer_ring_buffer (clear_recording : Bool) (w : World ω) :
    (DvrRecorder.close_writer H clear_recording w).self.ring_buffer_ = w.self.ring_buffer_ := by
  rw [close_writer_self]
  split <;> rfl

theorem close_writer_warmup_done (clear_recording : Bool) (w : World ω) :
    (DvrRecorder.close_writer H clear_recording w).self.warmup_done_ = w.self.warmup_done_ := by
  rw [close_writer_self]
  split <;> rfl

/-- A rotation leaves the writer open, or its failure is logged. -/
theorem try_rotate_spec (w : World ω) : Rotated w (DvrRecorder.try_rotate H w) := by
  unfold DvrRecorder.try_rotate DvrRecorder.rotate_recording_file
  by_cases hrecording : w.self.recording_ = true
  · rw [if_neg (not_not.mpr hrecording)]
    have hclose := close_writer_quiet H false w
    have hready := close_writer_ready H false w
    obtain ⟨hquiet, hresult⟩ := open_writer_spec H hready false
    have hring := close_writer_ring_buffer H false w
    have hwarm := close_writer_warmup_done H false w
    have hrec := close_writer_recording H false w
    have hstop := close_writer_stop_requested H false w
    simp only [Bool.not_false, Bool.and_true] at hrec
    have htrace := (hclose.trans hquiet).mono fun _ hentry =>
      (Or.inl hentry : Action.between_frames _)
    obtain ⟨hanswer, file, mux, hself⟩ | ⟨hanswer, bytes, rotate, file, writer, hself⟩ := hresult
    · simp only [hanswer, if_true]
      refine ⟨htrace, ?_, ?_, ?_, ?_, Or.inl ?_⟩
      · rw [hself, ← hring]
        rfl
      · rw [hself, ← hwarm]
        rfl
      · rw [hself, ← hrec]
        exact Bool.or_false _
      · rw [hself, ← hstop]
        rfl
      · rw [hself]
        rfl
    · simp only [hanswer, Bool.false_eq_true, if_false]
      have hlog : Emits World.trace Action.between_frames w
          ((DvrRecorder.open_writer H false (DvrRecorder.close_writer H false w)).2.log
            .failed_to_rotate) :=
        htrace.trans (Emits.of_append rfl (Or.inr rfl))
      have hlogged : ((DvrRecorder.open_writer H false
          (DvrRecorder.close_writer H false w)).2.log .failed_to_rotate).self = _ := hself
      simp only [DvrRecorder.with_writer, DvrRecorder.with_file, DvrRecorder.with_counters]
        at hlogged
      refine ⟨hlog, ?_, ?_, ?_, ?_, Or.inr ?_⟩
      · simp [hlogged, hring]
      · simp [hlogged, hwarm]
      · simp [hlogged, hrec]
      · simp [hlogged, hstop]
      · exact mem_emitted_of_append htrace.log_extends rfl (List.mem_singleton_self _)
  · rw [if_pos hrecording]
    refine ⟨Emits.of_append rfl (Or.inr rfl), rfl, rfl, rfl, rfl, Or.inr ?_⟩
    rw [emitted_of_append rfl]
    exact List.mem_singleton_self _

/-- A recorder that has written a frame with an accepted status either goes on
recording or, if a stop was requested, ends the recording. -/
theorem after_write_spec {w : World ω} (hready : w.self.writer_ready_ = true) :
    (w.self.stop_requested_ = false ∧ (DvrRecorder.after_write H w).1 = true ∧
        Rotated w (DvrRecorder.after_write H w).2) ∨
      (w.self.stop_requested_ = true ∧ (DvrRecorder.after_write H w).1 = false ∧
        Ended w (DvrRecorder.after_write H w).2) := by
  unfold DvrRecorder.after_write
  have hfirst : Rotated w (if w.self.rotate_requested_ then
      DvrRecorder.try_rotate H (w.update fun self => { self with rotate_requested_ := false })
      else w) := by
    split
    · have hrotated := try_rotate_spec H
        (w.update fun self => { self with rotate_requested_ := false })
      exact ⟨hrotated.trace, hrotated.ring_buffer, hrotated.warmup_done, hrotated.recording,
        hrotated.stop_requested, hrotated.ready⟩
    · exact ⟨Emits.of_log_eq rfl, rfl, rfl, rfl, rfl, Or.inl hready⟩
  generalize (if w.self.rotate_requested_ then
    DvrRecorder.try_rotate H (w.update fun self => { self with rotate_requested_ := false })
    else w) = rotated at hfirst
  dsimp only
  cases hstop : w.self.stop_requested_ with
  | false =>
    left
    rw [if_neg (by rw [hfirst.stop_requested, hstop]; exact Bool.false_ne_true)]
    refine ⟨rfl, ?_⟩
    split
    · exact ⟨rfl, hfirst.trans (try_rotate_spec H _)⟩
    · exact ⟨rfl, hfirst⟩
  | true =>
    right
    rw [if_pos (by rw [hfirst.stop_requested, hstop])]
    refine ⟨rfl, rfl, ?_⟩
    have hclose := close_writer_quiet H true ((rotated.update fun self =>
      { self with stop_requested_ := false }).log .stopping_after_write_failures)
    have hlog : Emits World.trace Action.between_frames rotated ((rotated.update fun self =>
        { self with stop_requested_ := false }).log .stopping_after_write_failures) :=
      Emits.of_append rfl (Or.inl rfl)
    have htrace := hfirst.trace.trans (hlog.trans (hclose.mono fun _ hentry => Or.inl hentry))
    refine ⟨htrace, ?_, rfl, ?_, ?_, ?_⟩
    · exact congrArg FrameRingBuffer.clear
        ((close_writer_ring_buffer H true _).trans hfirst.ring_buffer)
    · exact (close_writer_recording H true _).trans (Bool.and_false _)
    · exact close_writer_stop_requested H true _
    · exact close_writer_ready H true _

/-- The world in which the drain loop has popped the oldest frame. -/
def popped (w : World ω) : World ω :=
  w.update fun self => { self with ring_buffer_ := self.ring_buffer_.pop.2 }

/-- The answer of the muxer to the frame popped from the ring. -/
def write_popped (frame : Frame) (w : World ω) : Int × World ω :=
  mp4_h26x_write_nal H frame
    (if w.self.frame_duration_ = 0 then kDefaultFrameDuration else w.self.frame_duration_)
    (popped w)

/-- What holds once the oldest frame of the ring has been handed to the muxer,
whatever the muxer answered. -/
structure Wrote (frame : Frame) (res : Int) (before after : World ω) : Prop where
  trace : ∃ duration calls,
    after.trace = before.trace ++ [Action.write_nal frame duration res calls]
  ring_buffer : after.self.ring_buffer_ = before.self.ring_buffer_.pop.2
  warmup_done : after.self.warmup_done_ = before.self.warmup_done_
  recording : after.self.recording_ = before.self.recording_
  stop_requested : after.self.stop_requested_ = before.self.stop_requested_
  ready : after.self.writer_ready_ = before.self.writer_ready_

theorem write_popped_spec (frame : Frame) (w : World ω) :
    Wrote frame (write_popped H frame w).1 w (write_popped H frame w).2 := by
  refine ⟨⟨_, _, rfl⟩, ?_, ?_, ?_, ?_, ?_⟩
  · exact DvrRecorder.run_callbacks_ring_buffer _ _
  · exact DvrRecorder.run_callbacks_warmup_done _ _
  · exact DvrRecorder.run_callbacks_recording _ _
  · exact DvrRecorder.run_callbacks_stop_requested _ _
  · exact DvrRecorder.run_callbacks_writer_ready _ _

theorem drain_body_of_null {w : World ω} (hnull : w.self.ring_buffer_.pop.1 = none) :
    DvrRecorder.drain_body H w = (false, popped w) := by
  unfold DvrRecorder.drain_body
  simp only [hnull]
  rfl

theorem drain_body_of_rejected {w : World ω} {frame : Frame}
    (hframe : w.self.ring_buffer_.pop.1 = some frame)
    (hres : rejected (write_popped H frame w).1) :
    DvrRecorder.drain_body H w =
      (false, ((write_popped H frame w).2.log
        (.write_nal_returned (write_popped H frame w).1)).update
          fun self => { self with stop_requested_ := true }) := by
  unfold DvrRecorder.drain_body
  simp only [hframe]
  exact if_pos hres

theorem drain_body_of_accepted {w : World ω} {frame : Frame}
    (hframe : w.self.ring_buffer_.pop.1 = some frame)
    (hres : ¬ rejected (write_popped H frame w).1) :
    DvrRecorder.drain_body H w = DvrRecorder.after_write H (write_popped H frame w).2 := by
  unfold DvrRecorder.drain_body
  simp only [hframe]
  exact if_neg hres

/-- Every outcome of one iteration of the drain loop with an open writer. -/
theorem drain_body_cases {w : World ω} (hready : w.self.writer_ready_ = true) :
    (w.self.ring_buffer_.pop.1 = none ∧ DvrRecorder.drain_body H w = (false, popped w)) ∨
    ∃ frame, w.self.ring_buffer_.pop.1 = some frame ∧
      ((rejected (write_popped H frame w).1 ∧
          DvrRecorder.drain_body H w =
            (false, ((write_popped H frame w).2.log
              (.write_nal_returned (write_popped H frame w).1)).update
                fun self => { self with stop_requested_ := true })) ∨
        (¬ rejected (write_popped H frame w).1 ∧ w.self.stop_requested_ = false ∧
          (DvrRecorder.drain_body H w).1 = true ∧
          Rotated (write_popped H frame w).2 (DvrRecorder.drain_body H w).2) ∨
        (¬ rejected (write_popped H frame w).1 ∧ w.self.stop_requested_ = true ∧
          (DvrRecorder.drain_body H w).1 = false ∧
          Ended (write_popped H frame w).2 (DvrRecorder.drain_body H w).2)) := by
  cases hframe : w.self.ring_buffer_.pop.1 with
  | none => exact Or.inl ⟨rfl, drain_body_of_null H hframe⟩
  | some frame =>
    refine Or.inr ⟨frame, rfl, ?_⟩
    have hwrote := write_popped_spec H frame w
    by_cases hres : rejected (write_popped H frame w).1
    · exact Or.inl ⟨hres, drain_body_of_rejected H hframe hres⟩
    · right
      rw [drain_body_of_accepted H hframe hres, ← hwrote.stop_requested]
      rcases after_write_spec H (hwrote.ready.trans hready) with
        ⟨hstop, hcontinue, hrotated⟩ | ⟨hstop, hcontinue, hended⟩
      · exact Or.inl ⟨hres, hstop, hcontinue, hrotated⟩
      · exact Or.inr ⟨hres, hstop, hcontinue, hended⟩

theorem drain_condition_iff (self : DvrRecorder) :
    self.drain_condition = true ↔
      self.recording_ = true ∧ self.writer_ready_ = true ∧ self.warmup_done_ = true ∧
        self.ring_buffer_.size_ ≠ 0 := by
  simp [DvrRecorder.drain_condition, DvrRecorder.ready_to_write, FrameRingBuffer.empty, and_assoc]

theorem drain_of_stopped {w : World ω} (hcond : ¬ w.self.drain_condition = true) (fuel : Nat) :
    DvrRecorder.drain H fuel w = w := by
  cases fuel with
  | zero => rfl
  | succ fuel => exact if_neg hcond

/-- An iteration after which the loop goes on has taken one frame off the ring. -/
theorem drain_body_size {w : World ω} (hcond : w.self.drain_condition = true)
    (hcontinue : (DvrRecorder.drain_body H w).1 = true) :
    (DvrRecorder.drain_body H w).2.self.ring_buffer_.size_ = w.self.ring_buffer_.size_ - 1 := by
  obtain ⟨-, hready, -, -⟩ := (drain_condition_iff _).mp hcond
  obtain ⟨-, hbody⟩ | ⟨frame, -, hcases⟩ := drain_body_cases H hready
  · rw [hbody] at hcontinue
    cases hcontinue
  · obtain ⟨-, hbody⟩ | ⟨-, -, -, hrotated⟩ | ⟨-, -, hleft, -⟩ := hcases
    · rw [hbody] at hcontinue
      cases hcontinue
    · rw [hrotated.ring_buffer, (write_popped_spec H frame w).ring_buffer,
        FrameRingBuffer.pop_size]
    · rw [hcontinue] at hleft
      cases hleft

/-- The size of the ring is fuel enough. -/
theorem drain_enough {fuel : Nat} {w : World ω} (hfuel : w.self.ring_buffer_.size_ ≤ fuel) :
    DvrRecorder.drain H fuel w = DvrRecorder.drain H w.self.ring_buffer_.size_ w := by
  induction fuel generalizing w with
  | zero => rw [Nat.le_zero.mp hfuel]
  | succ fuel ih =>
    by_cases hcond : w.self.drain_condition = true
    · obtain ⟨-, -, -, hsize⟩ := (drain_condition_iff _).mp hcond
      obtain ⟨size, hsucc⟩ := Nat.exists_eq_succ_of_ne_zero hsize
      rw [hsucc, DvrRecorder.drain, DvrRecorder.drain, if_pos hcond]
      dsimp only
      split
      · next hcontinue =>
        have hbody := drain_body_size H hcond hcontinue
        rw [ih (by omega), hbody, hsucc]
        rfl
      · rfl
    · rw [drain_of_stopped H hcond, drain_of_stopped H hcond]

/-- The drain loop is the `while` loop of the source. -/
theorem drain_while (w : World ω) :
    DvrRecorder.drain H w.self.ring_buffer_.size_ w =
      if w.self.drain_condition then
        let body := DvrRecorder.drain_body H w
        if body.1 then DvrRecorder.drain H body.2.self.ring_buffer_.size_ body.2 else body.2
      else
        w := by
  rw [← drain_enough H (Nat.le_succ w.self.ring_buffer_.size_), DvrRecorder.drain]
  split
  · next hcond =>
    dsimp only
    split
    · next hcontinue =>
      have hbody := drain_body_size H hcond hcontinue
      exact drain_enough H (by omega)
    · rfl
  · rfl

/-- A property of pairs of worlds that one iteration establishes, and that is
carried over from an iteration to the rest of the loop, holds of the whole loop. -/
theorem drain_induction {P : World ω → World ω → Prop} (hrefl : ∀ w, P w w)
    (hexit : ∀ w, w.self.drain_condition = true → (DvrRecorder.drain_body H w).1 = false →
      P w (DvrRecorder.drain_body H w).2)
    (hcontinue : ∀ w after, w.self.drain_condition = true → (DvrRecorder.drain_body H w).1 = true →
      P (DvrRecorder.drain_body H w).2 after → P w after)
    (fuel : Nat) (w : World ω) : P w (DvrRecorder.drain H fuel w) := by
  induction fuel generalizing w with
  | zero => exact hrefl w
  | succ fuel ih =>
    by_cases hcond : w.self.drain_condition = true
    · rw [DvrRecorder.drain, if_pos hcond]
      dsimp only
      cases hbody : (DvrRecorder.drain_body H w).1 with
      | true => exact hcontinue w _ hcond hbody (ih _)
      | false => exact hexit w hcond hbody
    · rw [drain_of_stopped H hcond]
      exact hrefl w

/-- The actions of one iteration of the drain loop: at most one frame written,
and then what comes between two frames. -/
theorem drain_body_trace {w : World ω} (hready : w.self.writer_ready_ = true) :
    w.trace <+: (DvrRecorder.drain_body H w).2.trace := by
  obtain ⟨-, hbody⟩ | ⟨frame, -, hcases⟩ := drain_body_cases H hready
  · rw [hbody]
    exact List.prefix_refl _
  · obtain ⟨duration, calls, htrace⟩ := (write_popped_spec H frame w).trace
    have hwrote : w.trace <+: (write_popped H frame w).2.trace := ⟨_, htrace.symm⟩
    obtain ⟨-, hbody⟩ | ⟨-, -, -, hrotated⟩ | ⟨-, -, -, hended⟩ := hcases
    · rw [hbody]
      exact hwrote.trans ⟨_, rfl⟩
    · exact hwrote.trans hrotated.trace.log_extends
    · exact hwrote.trans hended.trace.log_extends

theorem drain_trace (fuel : Nat) (w : World ω) :
    w.trace <+: (DvrRecorder.drain H fuel w).trace := by
  apply drain_induction H (P := fun before after => before.trace <+: after.trace)
  · exact fun w => List.prefix_refl _
  · intro w hcond _
    exact drain_body_trace H ((drain_condition_iff _).mp hcond).2.1
  · intro w after hcond _ hrest
    exact (drain_body_trace H ((drain_condition_iff _).mp hcond).2.1).trans hrest

/-- A world in which the warm-up goes on. -/
structure Waiting (before after : World ω) : Prop where
  trace : after.trace = before.trace
  self : ∃ start count, after.self = before.self.with_warmup start count

/-- A world in which the warm-up has ended with an open writer. -/
structure WarmedUp (before after : World ω) : Prop where
  trace : Quiet before after
  ring_buffer : after.self.ring_buffer_ = before.self.ring_buffer_
  warmup_done : after.self.warmup_done_ = true
  recording : after.self.recording_ = before.self.recording_
  stop_requested : after.self.stop_requested_ = before.self.stop_requested_
  ready : after.self.writer_ready_ = true

/-- A world in which the warm-up has ended without an open writer. -/
structure NotOpened (before after : World ω) : Prop where
  trace : Emits World.trace
    (fun action => action.quiet = true ∨ action = .log .open_after_warm_up_failed) before after
  failed : .log .open_after_warm_up_failed ∈ emitted World.trace before after
  ring_buffer : after.self.ring_buffer_ = before.self.ring_buffer_.clear
  warmup_done : after.self.warmup_done_ = false
  recording : after.self.recording_ = false
  stop_requested : after.self.stop_requested_ = before.self.stop_requested_
  ready : after.self.writer_ready_ = false

theorem open_writer_of_ready {w : World ω} (hready : w.self.writer_ready_ = true)
    (mark_recording : Bool) : DvrRecorder.open_writer H mark_recording w = (true, w) :=
  if_pos hready

/-- Opening the writer after some waiting completes the warm-up. -/
theorem WarmedUp.of_opened {before opened : World ω} (htrace : Quiet before opened)
    (hring : opened.self.ring_buffer_ = before.self.ring_buffer_)
    (hrecording : opened.self.recording_ = before.self.recording_)
    (hstop : opened.self.stop_requested_ = before.self.stop_requested_)
    (hready : opened.self.writer_ready_ = true) (fps : ℚ) :
    WarmedUp before ((opened.update fun self =>
      { self.update_frame_rate fps with
        warmup_done_ := true
        warmup_start_ms_ := 0
        warmup_frame_count_ := 0 }).log (.warm_up_completed fps)) := by
  obtain ⟨duration, hrate⟩ := opened.self.update_frame_rate_frame fps
  refine ⟨htrace.trans (Emits.of_append rfl rfl), ?_, rfl, ?_, ?_, ?_⟩
  all_goals simp only [World.log, World.perform, World.update, hrate]
  · exact hring
  · exact hrecording
  · exact hstop
  · exact hready

/-- A failure to open the writer after some waiting gives up the recording. -/
theorem NotOpened.of_residue {before failed : World ω} (htrace : Quiet before failed)
    {start count : Nat} (hresidue : (before.self.with_warmup start count).Residue failed.self)
    (hready : before.self.writer_ready_ = false) :
    NotOpened before ((failed.log .open_after_warm_up_failed).update fun self =>
      ({ self with recording_ := false } : DvrRecorder).reset_warmup_state.clear_ring_buffer) := by
  obtain ⟨bytes, rotate, file, writer, hself⟩ := hresidue
  refine ⟨?_, ?_, ?_, rfl, rfl, ?_, ?_⟩
  · exact (htrace.mono fun _ hentry => Or.inl hentry).trans (Emits.of_append rfl (Or.inr rfl))
  · exact mem_emitted_of_append htrace.log_extends rfl (List.mem_singleton_self _)
  · exact (congrArg (FrameRingBuffer.clear ∘ DvrRecorder.ring_buffer_) hself :)
  · exact (congrArg DvrRecorder.stop_requested_ hself :)
  · exact (congrArg DvrRecorder.writer_ready_ hself).trans hready

theorem finish_warm_up_cases {before waiting : World ω} (h : Waiting before waiting)
    (elapsed : Nat) :
    WarmedUp before (DvrRecorder.finish_warm_up H elapsed waiting) ∨
      NotOpened before (DvrRecorder.finish_warm_up H elapsed waiting) := by
  obtain ⟨start, count, hself⟩ := h.self
  unfold DvrRecorder.finish_warm_up
  dsimp only
  cases hready : before.self.writer_ready_ with
  | true =>
    have hready' : waiting.self.writer_ready_ = true := by
      rw [hself]
      exact hready
    rw [open_writer_of_ready H hready', if_pos rfl]
    left
    exact .of_opened (Emits.of_log_eq h.trace) (by rw [hself]; rfl)
      (by rw [hself]; rfl) (by rw [hself]; rfl) hready' _
  | false =>
    have hready' : waiting.self.writer_ready_ = false := by
      rw [hself]
      exact hready
    obtain ⟨hquiet, hresult⟩ := open_writer_spec H hready' false
    have htrace : Quiet before (DvrRecorder.open_writer H false waiting).2 :=
      Emits.trans (Emits.of_log_eq h.trace) hquiet
    obtain ⟨hanswer, file, mux, hopened⟩ | ⟨hanswer, hresidue⟩ := hresult
    · rw [if_pos hanswer]
      rw [hself] at hopened
      left
      exact .of_opened htrace (by rw [hopened]; rfl)
        ((congrArg DvrRecorder.recording_ hopened).trans (Bool.or_false _))
        (by rw [hopened]; rfl) (by rw [hopened]; rfl) _
    · rw [if_neg (by rw [hanswer]; exact Bool.false_ne_true)]
      rw [hself] at hresidue
      exact Or.inr (.of_residue htrace hresidue hready)

/-- Every outcome of a frame that arrives during the warm-up. -/
theorem warm_up_cases (w : World ω) :
    Waiting w (DvrRecorder.warm_up H w) ∨ WarmedUp w (DvrRecorder.warm_up H w) ∨
      NotOpened w (DvrRecorder.warm_up H w) := by
  have hcounted : Waiting w (DvrRecorder.count_frame H w) := by
    unfold DvrRecorder.count_frame
    split
    · exact ⟨rfl, _, _, rfl⟩
    · exact ⟨rfl, _, _, rfl⟩
  have hread : Waiting w (monotonic_ms H (DvrRecorder.count_frame H w)).2 :=
    ⟨hcounted.trace, hcounted.self⟩
  unfold DvrRecorder.warm_up
  dsimp only
  split
  · exact Or.inr (finish_warm_up_cases H hread _)
  · exact Or.inl hread

/-- A world in which a `Stop` or `Shutdown` has been processed. -/
structure Stopped (before after : World ω) : Prop where
  trace : Quiet before after
  ring_buffer : after.self.ring_buffer_ = before.self.ring_buffer_.clear
  warmup : after.self = after.self.reset_warmup_state
  recording : after.self.recording_ = false
  stop_requested : after.self.stop_requested_ = before.self.stop_requested_
  ready : after.self.writer_ready_ = false

theorem Stopped.warmup_done {before after : World ω} (h : Stopped before after) :
    after.self.warmup_done_ = false := by
  rw [h.warmup]
  rfl

/-- The world in which a `Start` has begun a session. -/
def started (w : World ω) : World ω :=
  (w.update fun self =>
    { self.clear_ring_buffer.reset_warmup_state with recording_ := true }).log .warm_up_started

/-- The world in which a frame has been put into the ring. -/
def pushed (frame : Frame) (w : World ω) : World ω :=
  w.update fun self => { self with ring_buffer_ := self.ring_buffer_.push (some frame) }

/-- Every way in which the worker can react to a command. -/
inductive Reaction (w : World ω) : Command → World ω → Prop where
  | ignored {cmd : Command}
      (hreason : (cmd.type = .Start ∧ w.self.recording_ = true) ∨
        (cmd.type = .Frame ∧ (cmd.frame = none ∨ w.self.recording_ = false))) :
      Reaction w cmd w
  | started {cmd : Command} (htype : cmd.type = .Start) (hrecording : w.self.recording_ = false) :
      Reaction w cmd (started w)
  | stopped {cmd : Command} {after : World ω} (htype : cmd.type = .Stop ∨ cmd.type = .Shutdown)
      (hstopped : Stopped w after) : Reaction w cmd after
  | warming {cmd : Command} {frame : Frame} (htype : cmd.type = .Frame)
      (hframe : cmd.frame = some frame) (hrecording : w.self.recording_ = true)
      (hwarm : w.self.warmup_done_ = false) : Reaction w cmd (DvrRecorder.warm_up H w)
  | drained {cmd : Command} {frame : Frame} (htype : cmd.type = .Frame)
      (hframe : cmd.frame = some frame) (hrecording : w.self.recording_ = true)
      (hwarm : w.self.warmup_done_ = true) :
      Reaction w cmd
        (DvrRecorder.drain H (pushed frame w).self.ring_buffer_.size_ (pushed frame w))

theorem stop_spec (w : World ω) :
    Stopped w ((DvrRecorder.close_writer H true w).update fun self =>
      self.clear_ring_buffer.reset_warmup_state) := by
  refine ⟨close_writer_quiet H true w, ?_, rfl, ?_, ?_, ?_⟩
  · exact congrArg FrameRingBuffer.clear (close_writer_ring_buffer H true w)
  · exact (close_writer_recording H true w).trans (Bool.and_false _)
  · exact close_writer_stop_requested H true w
  · exact close_writer_ready H true w

theorem Stopped.close_again {before after : World ω} (h : Stopped before after) :
    Stopped before (DvrRecorder.close_writer H true after) := by
  refine ⟨h.trace.trans (close_writer_quiet H true after), ?_, ?_, ?_, ?_, ?_⟩
  · exact (close_writer_ring_buffer H true after).trans h.ring_buffer
  · rw [close_writer_self, h.ready, if_neg Bool.false_ne_true]
    exact congrArg (fun self => { self with recording_ := after.self.recording_ && !true }) h.warmup
  · exact (close_writer_recording H true after).trans (Bool.and_false _)
  · exact (close_writer_stop_requested H true after).trans h.stop_requested
  · exact close_writer_ready H true after

theorem process_command_cases (w : World ω) (cmd : Command) :
    Reaction H w cmd (DvrRecorder.process_command H cmd w) := by
  unfold DvrRecorder.process_command DvrRecorder.handle_command
  cases htype : cmd.type with
  | Start =>
    cases hrecording : w.self.recording_ with
    | true =>
      simp only [reduceCtorEq, not_true_eq_false, if_false]
      exact .ignored (Or.inl ⟨htype, hrecording⟩)
    | false =>
      simp only [reduceCtorEq, Bool.false_eq_true, not_false_eq_true, if_true, if_false]
      exact .started htype hrecording
  | Stop => exact .stopped (Or.inl htype) (stop_spec H w)
  | Shutdown =>
    refine .stopped (Or.inr htype) (Stopped.close_again H ?_)
    have hstop := stop_spec H (w.update fun self => { self with running_ := false })
    exact ⟨hstop.trace, hstop.ring_buffer, hstop.warmup, hstop.recording,
      hstop.stop_requested, hstop.ready⟩
  | Frame =>
    simp only [reduceCtorEq, if_false]
    cases hframe : cmd.frame with
    | none => exact .ignored (Or.inr ⟨htype, Or.inl hframe⟩)
    | some frame =>
      dsimp only
      cases hrecording : w.self.recording_ with
      | false =>
        rw [if_pos Bool.false_ne_true]
        exact .ignored (Or.inr ⟨htype, Or.inr hrecording⟩)
      | true =>
        rw [if_neg (not_not.mpr rfl)]
        cases hwarm : w.self.warmup_done_ with
        | false =>
          rw [if_pos Bool.false_ne_true]
          exact .warming htype hframe hrecording hwarm
        | true =>
          rw [if_neg (not_not.mpr rfl)]
          exact .drained htype hframe hrecording hwarm

theorem warm_up_trace (w : World ω) : w.trace <+: (DvrRecorder.warm_up H w).trace := by
  obtain h | h | h := warm_up_cases H w
  · exact h.trace ▸ List.prefix_refl _
  · exact h.trace.log_extends
  · exact h.trace.log_extends

theorem process_command_trace (w : World ω) (cmd : Command) :
    w.trace <+: (DvrRecorder.process_command H cmd w).trace := by
  have h := process_command_cases H w cmd
  generalize DvrRecorder.process_command H cmd w = after at h
  cases h with
  | ignored _ => exact List.prefix_refl _
  | started _ _ => exact ⟨_, rfl⟩
  | stopped _ hstopped => exact hstopped.trace.log_extends
  | warming _ _ _ _ => exact warm_up_trace H w
  | drained _ _ _ _ => exact drain_trace H _ (pushed _ w)

/-- The worker's trace only ever grows. -/
theorem worker_step_trace (w : Worker ω) (cmd : Command) :
    w.trace <+: (DvrRecorder.worker_step H w cmd).trace := by
  unfold DvrRecorder.worker_step
  split
  · exact List.prefix_refl _
  · exact process_command_trace H w.toWorld cmd

/-- What every reaction to a command preserves holds at the end of every run that
starts with it. -/
theorem worker_loop_invariant {P : World ω → Prop}
    (hprocess : ∀ w cmd, P w → P (DvrRecorder.process_command H cmd w)) {w : Worker ω}
    (h : P w.toWorld) (cmds : List Command) :
    P (DvrRecorder.worker_loop H w cmds).toWorld := by
  refine Runs.invariant (P := fun w : Worker ω => P w.toWorld) ?_ h cmds
  intro w cmd hw
  unfold DvrRecorder.worker_step
  split
  · exact hw
  · exact hprocess w.toWorld cmd hw

/-- The actions taken between two states of the worker. -/
def actions (before after : Worker ω) : List Action :=
  emitted (fun w : Worker ω => w.trace) before after

@[simp]
theorem actions_self (w : Worker ω) : actions w w = [] := emitted_self _ w

@[simp]
theorem actions_worker_loop_nil (w : Worker ω) :
    actions w (DvrRecorder.worker_loop H w []) = [] := actions_self w

theorem worker_step_of_running {w : Worker ω} (hexited : w.exited = false) (cmd : Command) :
    DvrRecorder.worker_step H w cmd =
      { toWorld := DvrRecorder.process_command H cmd w.toWorld
        exited := cmd.type = .Shutdown } := by
  rw [DvrRecorder.worker_step, hexited]
  rfl

theorem actions_worker_step {w : Worker ω} (hexited : w.exited = false) (cmd : Command) :
    actions w (DvrRecorder.worker_step H w cmd) =
      emitted World.trace w.toWorld (DvrRecorder.process_command H cmd w.toWorld) := by
  rw [worker_step_of_running H hexited]
  rfl

theorem worker_step_of_exited {w : Worker ω} (hexited : w.exited = true) (cmd : Command) :
    DvrRecorder.worker_step H w cmd = w :=
  if_pos hexited

theorem worker_loop_concat (w : Worker ω) (pre : List Command) (cmd : Command) :
    DvrRecorder.worker_loop H w (pre ++ [cmd]) =
      DvrRecorder.worker_step H (DvrRecorder.worker_loop H w pre) cmd := by
  simp [DvrRecorder.worker_loop]

/-- The actions of a run are those of its rounds. -/
theorem mem_actions_worker_loop {action : Action} {w : Worker ω} {cmds : List Command} :
    action ∈ actions w (DvrRecorder.worker_loop H w cmds) ↔
      ∃ pre cmd post, cmds = pre ++ cmd :: post ∧
        action ∈ actions (DvrRecorder.worker_loop H w pre)
          (DvrRecorder.worker_loop H w (pre ++ [cmd])) := by
  simp only [worker_loop_concat]
  exact mem_emitted_foldl (worker_step_trace H)

end Specs

end amldigitalfpv.dvr_recorder
