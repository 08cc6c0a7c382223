import AMLDigitalFPV.DvrRecorder.Script
import AMLDigitalFPV.DvrRecorder.WorkerSpec

open Runs amldigitalfpv.frame_ring_buffer

namespace amldigitalfpv.dvr_recorder

/-- What every state between two commands satisfies. -/
structure Consistent (recorder : DvrRecorder) : Prop where
  ring_wellFormed : recorder.ring_buffer_.WellFormed
  ring_capacity : recorder.ring_buffer_.capacity_ = 120
  session : recorder.writer_ready_ = true →
    recorder.recording_ = true ∧ recorder.warmup_done_ = true

/-- Past its warm-up a recorder that claims to record has an open writer. -/
def Alive (recorder : DvrRecorder) : Prop :=
  recorder.recording_ = true → recorder.warmup_done_ = true → recorder.writer_ready_ = true

/-- The recorder as its constructor leaves it, but for calls of the setters. -/
def Initial (recorder : DvrRecorder) : Prop :=
  ∃ writer width height fps_hint codec path,
    recorder = (({ writer_ := writer } : DvrRecorder).set_video_params width height fps_hint
      codec).set_override_path path

theorem Initial.consistent {recorder : DvrRecorder} (h : Initial recorder) :
    Consistent recorder := by
  obtain ⟨writer, width, height, fps_hint, codec, path, rfl⟩ := h
  exact ⟨FrameRingBuffer.new_wellFormed (by decide), rfl, fun hready => Bool.noConfusion hready⟩

theorem constructed_initial (script : Script) : Initial (constructed script).self :=
  ⟨true, 1920, 1080, 0, .H265, [], rfl⟩

section

variable {ω : Type} (H : Host ω)

theorem Consistent.popped {w : World ω} (h : Consistent w.self) : Consistent (popped w).self :=
  ⟨h.ring_wellFormed.pop, h.ring_capacity, h.session⟩

theorem Consistent.pushed {w : World ω} (h : Consistent w.self) (frame : Frame) :
    Consistent (pushed frame w).self :=
  ⟨h.ring_wellFormed.push _, (FrameRingBuffer.push_capacity _ _).trans h.ring_capacity, h.session⟩

theorem Consistent.write_popped {w : World ω} (h : Consistent w.self) (frame : Frame) :
    Consistent (write_popped H frame w).2.self := by
  have hwrote := write_popped_spec H frame w
  refine ⟨?_, ?_, fun hready => ?_⟩
  · rw [hwrote.ring_buffer]
    exact h.ring_wellFormed.pop
  · rw [hwrote.ring_buffer]
    exact h.ring_capacity
  · rw [hwrote.recording, hwrote.warmup_done]
    exact h.session (hwrote.ready.symm.trans hready)

theorem Consistent.after_write {w : World ω} (h : Consistent w.self)
    (hready : w.self.writer_ready_ = true) : Consistent (DvrRecorder.after_write H w).2.self := by
  obtain ⟨hrecording, hwarm⟩ := h.session hready
  obtain ⟨-, -, hrotated⟩ | ⟨-, -, hended⟩ := after_write_spec H hready
  · refine ⟨?_, ?_, fun _ => ⟨?_, ?_⟩⟩
    · rw [hrotated.ring_buffer]
      exact h.ring_wellFormed
    · rw [hrotated.ring_buffer]
      exact h.ring_capacity
    · exact hrotated.recording.trans hrecording
    · exact hrotated.warmup_done.trans hwarm
  · refine ⟨?_, ?_, fun hopen => ?_⟩
    · rw [hended.ring_buffer]
      exact h.ring_wellFormed.clear
    · rw [hended.ring_buffer]
      exact h.ring_capacity
    · rw [hended.ready] at hopen
      cases hopen

/-- One iteration of the drain loop keeps the state consistent. -/
theorem Consistent.drain_body {w : World ω} (h : Consistent w.self)
    (hcond : w.self.drain_condition = true) : Consistent (DvrRecorder.drain_body H w).2.self := by
  obtain ⟨-, hready, -, -⟩ := (drain_condition_iff _).mp hcond
  cases hframe : w.self.ring_buffer_.pop.1 with
  | none =>
    rw [drain_body_of_null H hframe]
    exact h.popped
  | some frame =>
    have hwrote := h.write_popped H frame
    by_cases hres : rejected (dvr_recorder.write_popped H frame w).1
    · rw [drain_body_of_rejected H hframe hres]
      exact ⟨hwrote.ring_wellFormed, hwrote.ring_capacity, hwrote.session⟩
    · rw [drain_body_of_accepted H hframe hres]
      exact hwrote.after_write H ((write_popped_spec H frame w).ready.trans hready)

theorem Consistent.drain {w : World ω} (h : Consistent w.self) (fuel : Nat) :
    Consistent (DvrRecorder.drain H fuel w).self := by
  refine drain_induction H (P := fun before after => Consistent before.self → Consistent after.self)
    (fun _ h => h) ?_ ?_ fuel w h
  · intro w hcond _ h
    exact h.drain_body H hcond
  · intro w after hcond _ hrest h
    exact hrest (h.drain_body H hcond)

theorem Consistent.warm_up {w : World ω} (h : Consistent w.self)
    (hrecording : w.self.recording_ = true) : Consistent (DvrRecorder.warm_up H w).self := by
  obtain hwaiting | hwarmed | hfailed := warm_up_cases H w
  · obtain ⟨start, count, hself⟩ := hwaiting.self
    rw [hself]
    exact ⟨h.ring_wellFormed, h.ring_capacity, h.session⟩
  · refine ⟨?_, ?_, fun _ => ⟨hwarmed.recording.trans hrecording, hwarmed.warmup_done⟩⟩
    · rw [hwarmed.ring_buffer]
      exact h.ring_wellFormed
    · rw [hwarmed.ring_buffer]
      exact h.ring_capacity
  · refine ⟨?_, ?_, fun hopen => ?_⟩
    · rw [hfailed.ring_buffer]
      exact h.ring_wellFormed.clear
    · rw [hfailed.ring_buffer]
      exact h.ring_capacity
    · rw [hfailed.ready] at hopen
      cases hopen

theorem Consistent.process_command {w : World ω} (h : Consistent w.self) (cmd : Command) :
    Consistent (DvrRecorder.process_command H cmd w).self := by
  have hreaction := process_command_cases H w cmd
  generalize DvrRecorder.process_command H cmd w = after at hreaction ⊢
  cases hreaction with
  | ignored _ => exact h
  | started _ hrecording =>
    refine ⟨h.ring_wellFormed.clear, h.ring_capacity, fun hready => ?_⟩
    have hsession := (h.session hready).1
    rw [hrecording] at hsession
    cases hsession
  | stopped _ hstopped =>
    refine ⟨?_, ?_, fun hready => ?_⟩
    · rw [hstopped.ring_buffer]
      exact h.ring_wellFormed.clear
    · rw [hstopped.ring_buffer]
      exact h.ring_capacity
    · rw [hstopped.ready] at hready
      cases hready
  | warming _ _ hrecording _ => exact h.warm_up H hrecording
  | drained _ _ _ _ => exact Consistent.drain H (h.pushed _) _

/-- Every state of a run that starts consistent is consistent. -/
theorem Consistent.worker_loop {w : Worker ω} (h : Consistent w.self) (cmds : List Command) :
    Consistent (DvrRecorder.worker_loop H w cmds).self :=
  worker_loop_invariant H (P := fun w => Consistent w.self)
    (fun _ cmd hw => hw.process_command H cmd) h cmds

/-- Unless its rotation fails, one iteration of the drain loop leaves a live
recorder alive. -/
theorem Alive.drain_body {w : World ω} (hcond : w.self.drain_condition = true)
    (hrotates : .log .failed_to_rotate ∉ emitted World.trace w (DvrRecorder.drain_body H w).2) :
    Alive (DvrRecorder.drain_body H w).2.self := by
  obtain ⟨-, hready, -, -⟩ := (drain_condition_iff _).mp hcond
  intro hrecording _
  obtain ⟨-, hbody⟩ | ⟨frame, -, hcases⟩ := drain_body_cases H hready
  · rw [hbody]
    exact hready
  · have hwrote := write_popped_spec H frame w
    obtain ⟨duration, calls, htrace⟩ := hwrote.trace
    obtain ⟨-, hbody⟩ | ⟨-, -, -, hrotated⟩ | ⟨-, -, -, hended⟩ := hcases
    · rw [hbody]
      exact hwrote.ready.trans hready
    · rw [emitted_trans ⟨_, htrace.symm⟩ hrotated.trace.log_extends, List.mem_append, not_or]
        at hrotates
      exact hrotated.ready.resolve_right hrotates.2
    · rw [hended.recording] at hrecording
      cases hrecording

theorem Alive.drain (fuel : Nat) {w : World ω} (h : Alive w.self)
    (hrotates : .log .failed_to_rotate ∉ emitted World.trace w (DvrRecorder.drain H fuel w)) :
    Alive (DvrRecorder.drain H fuel w).self := by
  induction fuel generalizing w with
  | zero => exact h
  | succ fuel ih =>
    by_cases hcond : w.self.drain_condition = true
    · rw [DvrRecorder.drain, if_pos hcond] at hrotates ⊢
      dsimp only at hrotates ⊢
      cases hbody : (DvrRecorder.drain_body H w).1 with
      | false =>
        rw [hbody, if_neg Bool.false_ne_true] at hrotates
        rw [if_neg Bool.false_ne_true]
        exact Alive.drain_body H hcond hrotates
      | true =>
        rw [hbody, if_pos rfl] at hrotates
        rw [if_pos rfl]
        have hready := ((drain_condition_iff _).mp hcond).2.1
        rw [emitted_trans (drain_body_trace H hready) (drain_trace H fuel _), List.mem_append,
          not_or] at hrotates
        exact ih (Alive.drain_body H hcond hrotates.1) hrotates.2
    · rw [drain_of_stopped H hcond]
      exact h

theorem Alive.process_command {w : World ω} (h : Alive w.self) (cmd : Command)
    (hrotates : .log .failed_to_rotate ∉
      emitted World.trace w (DvrRecorder.process_command H cmd w)) :
    Alive (DvrRecorder.process_command H cmd w).self := by
  have hreaction := process_command_cases H w cmd
  generalize DvrRecorder.process_command H cmd w = after at hreaction hrotates ⊢
  cases hreaction with
  | ignored _ => exact h
  | started _ _ => exact fun _ hwarm => Bool.noConfusion hwarm
  | stopped _ hstopped =>
    intro hrecording _
    rw [hstopped.recording] at hrecording
    cases hrecording
  | warming _ _ _ hwarm =>
    intro hrecording hdone
    obtain hwaiting | hwarmed | hfailed := warm_up_cases H w
    · obtain ⟨start, count, hself⟩ := hwaiting.self
      rw [hself] at hdone
      rw [show w.self.warmup_done_ = true from hdone] at hwarm
      cases hwarm
    · exact hwarmed.ready
    · rw [hfailed.recording] at hrecording
      cases hrecording
  | drained _ _ _ _ => exact Alive.drain H _ (w := pushed _ w) h hrotates

theorem Alive.worker_step {w : Worker ω} (h : Alive w.self) (cmd : Command)
    (hrotates : .log .failed_to_rotate ∉ actions w (DvrRecorder.worker_step H w cmd)) :
    Alive (DvrRecorder.worker_step H w cmd).self := by
  cases hexited : w.exited with
  | true =>
    rw [worker_step_of_exited H hexited]
    exact h
  | false =>
    rw [actions_worker_step H hexited] at hrotates
    rw [worker_step_of_running H hexited]
    exact Alive.process_command H h cmd hrotates

/-- As long as every rotation manages to open the next file, the recorder has
an open writer in every state in which it claims to record past its warm-up. -/
theorem alive_of_rotations {w : Worker ω} (halive : Alive w.self) (cmds : List Command)
    (hrotates : .log .failed_to_rotate ∉ actions w (DvrRecorder.worker_loop H w cmds)) :
    ∀ pre, pre <+: cmds → Alive (DvrRecorder.worker_loop H w pre).self := by
  apply Runs.invariant_of_steps (P := fun w : Worker ω => Alive w.self) halive
  intro pre cmd post hsplit hpre
  refine Alive.worker_step H hpre cmd fun hmem => hrotates ?_
  refine (mem_actions_worker_loop H).mpr ⟨pre, cmd, post, hsplit, ?_⟩
  rw [worker_loop_concat]
  exact hmem

end

/-- A first file that reaches the size limit with its first frame, and a place for
the next one. -/
def rotating : Script :=
  { clock := one_second
    paths := [['r'], ['s']]
    writes := [(MP4E_STATUS_OK, [⟨kMaxFat32Size - 1, 1, true, 1⟩])] }

/-- A run in which the file is rotated. -/
theorem alive_of_rotations_recording :
    .log (.recording_to ['s']) ∈ actions (constructed rotating)
        (DvrRecorder.worker_loop scripted (constructed rotating)
          (warm_up_commands ++ [⟨.Frame, some key_frame⟩])) ∧
      Alive (DvrRecorder.worker_loop scripted (constructed rotating)
        (warm_up_commands ++ [⟨.Frame, some key_frame⟩])).self :=
  ⟨by decide +kernel, alive_of_rotations scripted (fun hrecording => Bool.noConfusion hrecording)
    (warm_up_commands ++ [⟨.Frame, some key_frame⟩]) (by decide +kernel) _ (List.prefix_refl _)⟩

/-- A first file that reaches the size limit with its first frame, after which
no directory to record to is found any more. -/
def unplugged : Script :=
  { clock := one_second
    paths := [['r']]
    writes := [(MP4E_STATUS_OK, [⟨kMaxFat32Size - 1, 1, true, 1⟩])] }

/-- A recorder whose rotation has failed claims to record without a file. -/
theorem alive_counterexample :
    ¬ ∀ pre, pre <+: warm_up_commands ++ [⟨.Frame, some key_frame⟩] →
      Alive (DvrRecorder.worker_loop scripted (constructed unplugged) pre).self := by
  intro halive
  have hdead : ¬ ((DvrRecorder.worker_loop scripted (constructed unplugged)
      (warm_up_commands ++ [⟨.Frame, some key_frame⟩])).self.recording_ = true →
      (DvrRecorder.worker_loop scripted (constructed unplugged)
        (warm_up_commands ++ [⟨.Frame, some key_frame⟩])).self.warmup_done_ = true →
      (DvrRecorder.worker_loop scripted (constructed unplugged)
        (warm_up_commands ++ [⟨.Frame, some key_frame⟩])).self.writer_ready_ = true) := by
    decide +kernel
  exact hdead (halive _ (List.prefix_refl _))

end amldigitalfpv.dvr_recorder
