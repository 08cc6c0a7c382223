import AMLDigitalFPV.DvrRecorder.FrameDuration
import AMLDigitalFPV.DvrRecorder.Sessions
import AMLDigitalFPV.Library.Conservation
import Mathlib.Data.List.ReduceOption

open Runs Transition Conservation amldigitalfpv.frame_ring_buffer

namespace amldigitalfpv.dvr_recorder

section

variable {ω : Type} {H : Host ω}

theorem close_writer_running (clear_recording : Bool) (w : World ω) :
    (DvrRecorder.close_writer H clear_recording w).self.running_ = w.self.running_ := by
  rw [close_writer_self]
  split <;> rfl

theorem open_writer_running (mark_recording : Bool) (w : World ω) :
    (DvrRecorder.open_writer H mark_recording w).2.self.running_ = w.self.running_ := by
  cases hready : w.self.writer_ready_ with
  | true => rw [open_writer_of_ready H hready]
  | false =>
    rcases (open_writer_spec H hready mark_recording).2 with
      ⟨-, file, mux, hself⟩ | ⟨-, bytes, rotate, file, writer, hself⟩
    · rw [hself]
      rfl
    · rw [hself]
      rfl

theorem try_rotate_running (w : World ω) :
    (DvrRecorder.try_rotate H w).self.running_ = w.self.running_ := by
  have hrotated : (DvrRecorder.try_rotate H w).self.running_ =
      (DvrRecorder.rotate_recording_file H w).2.self.running_ := by
    unfold DvrRecorder.try_rotate
    dsimp only
    split <;> rfl
  rw [hrotated]
  unfold DvrRecorder.rotate_recording_file
  split
  · rfl
  · rw [open_writer_running, close_writer_running]

theorem write_popped_running (frame : Frame) (w : World ω) :
    (write_popped H frame w).2.self.running_ = w.self.running_ := by
  unfold write_popped mp4_h26x_write_nal
  dsimp only
  generalize (H.mp4_h26x_write_nal _ _ _ _).1.2 = calls
  obtain ⟨bytes, rotate, hcalls⟩ := (popped w).self.run_callbacks_frame calls
  rw [hcalls]
  rfl

theorem after_write_running (w : World ω) :
    (DvrRecorder.after_write H w).2.self.running_ = w.self.running_ := by
  have hserved : (request_served H w).self.running_ = w.self.running_ := by
    unfold request_served
    split
    · exact try_rotate_running _
    · rfl
  rw [after_write_eq]
  split
  · exact (close_writer_running true _).trans hserved
  · split
    · exact (try_rotate_running _).trans hserved
    · exact hserved

theorem warm_up_running (w : World ω) :
    (DvrRecorder.warm_up H w).self.running_ = w.self.running_ := by
  have hcounted : (DvrRecorder.count_frame H w).self.running_ = w.self.running_ := by
    unfold DvrRecorder.count_frame
    split <;> rfl
  have hread : (monotonic_ms H (DvrRecorder.count_frame H w)).2.self.running_ = w.self.running_ :=
    hcounted
  have hrated (fps : ℚ) (self : DvrRecorder) :
      (self.update_frame_rate fps).running_ = self.running_ := by
    obtain ⟨duration, hrate⟩ := self.update_frame_rate_frame fps
    rw [hrate]
    rfl
  have hfinished (elapsed : Nat) (w : World ω) :
      (DvrRecorder.finish_warm_up H elapsed w).self.running_ = w.self.running_ := by
    have hopened := open_writer_running (H := H) false w
    unfold DvrRecorder.finish_warm_up
    generalize w.self.warm_up_fps elapsed = fps
    dsimp only
    split
    · exact (hrated fps _).trans hopened
    · exact hopened
  have hcases (after : World ω) (hafter : DvrRecorder.warm_up H w = after) :
      after.self.running_ = w.self.running_ := by
    unfold DvrRecorder.warm_up at hafter
    dsimp only at hafter
    split at hafter
    · rw [← hafter, hfinished, hread]
    · rw [← hafter, hread]
  exact hcases _ rfl

/-- Only a `Shutdown` clears the flag. -/
theorem process_command_running {w : World ω} {cmd : Command}
    (hdrains : ¬ (cmd.type = .Frame ∧ w.self.recording_ ∧ w.self.warmup_done_)) :
    (DvrRecorder.process_command H cmd w).self.running_ =
      (w.self.running_ && decide (cmd.type ≠ .Shutdown)) := by
  unfold DvrRecorder.process_command DvrRecorder.handle_command
  cases htype : cmd.type with
  | Start =>
    simp only [reduceCtorEq, if_false, ne_eq, not_false_eq_true, decide_true, Bool.and_true]
    split <;> rfl
  | Stop =>
    simp only [reduceCtorEq, if_false, ne_eq, not_false_eq_true, decide_true, Bool.and_true]
    exact close_writer_running true w
  | Frame =>
    simp only [reduceCtorEq, if_false, ne_eq, not_false_eq_true, decide_true, Bool.and_true]
    cases cmd.frame with
    | none => rfl
    | some frame =>
      dsimp only
      split
      · rfl
      · next hrecording =>
        have hwarm : ¬ w.self.warmup_done_ = true := fun hwarm =>
          hdrains ⟨htype, not_not.mp hrecording, hwarm⟩
        rw [if_pos hwarm]
        exact warm_up_running w
  | Shutdown =>
    simp only [if_true, ne_eq, not_true_eq_false, decide_false, Bool.and_false]
    rw [close_writer_running]
    exact close_writer_running true (w.update fun self => { self with running_ := false })

end

/-- The commands among the turns. -/
def commands (events : List Event) : List Command :=
  events.filterMap fun event =>
    match event with
    | .command cmd => some cmd
    | _ => none

/-- What the worker does on its own. -/
def Event.works : Event → Prop
  | .update_frame_rate _ => False
  | _ => True

namespace Stage

variable {ω : Type} (H : Host ω)

/-- The worker once it is through with the command it is at, if nobody
interferes. -/
def settled (stage : Stage ω) : Worker ω :=
  match stage.phase with
  | .waiting => stage.toWorker
  | .draining =>
    { stage.toWorker with
      toWorld := DvrRecorder.drain H stage.self.ring_buffer_.size_ stage.toWorld }
  | .wrote =>
    let after := DvrRecorder.after_write H stage.toWorld
    { stage.toWorker with
      toWorld :=
        if after.1 then DvrRecorder.drain H after.2.self.ring_buffer_.size_ after.2 else after.2 }

variable {H} {stage before after : Stage ω} {event : Event}

theorem settled_of_waiting (hphase : stage.phase = .waiting) :
    stage.settled H = stage.toWorker := by
  rw [settled, hphase]

theorem receive_settled (hphase : stage.phase = .waiting) (hexited : stage.exited = false)
    (cmd : Command) :
    (stage.receive H cmd).settled H = DvrRecorder.worker_step H stage.toWorker cmd := by
  rw [worker_step_of_running H hexited]
  unfold receive
  split
  · next hdrains =>
    obtain ⟨htype, hrecording, hwarm⟩ := hdrains
    have hrunning : ({ toWorld := stage.toWorld, exited := false } : Worker ω) =
        stage.toWorker := by
      rw [← hexited]
    unfold DvrRecorder.process_command DvrRecorder.handle_command
    cases hframe : cmd.frame with
    | none =>
      dsimp only
      rw [settled_of_waiting hphase]
      simp [htype, hrunning]
    | some frame => simp [settled, htype, hrecording, hwarm, hexited, pushed]
  · rfl

theorem write_settled (hphase : stage.phase = .draining) :
    (stage.write H).settled H = stage.settled H := by
  have hsettled : stage.settled H = { stage.toWorker with
      toWorld := DvrRecorder.drain H stage.self.ring_buffer_.size_ stage.toWorld } := by
    rw [settled, hphase]
  rw [hsettled, drain_while]
  unfold write
  split
  · cases hframe : stage.self.ring_buffer_.pop.1 with
    | none =>
      rw [drain_body_of_null H hframe]
      rfl
    | some frame =>
      by_cases hres : rejected (write_popped H frame stage.toWorld).1
      · rw [drain_body_of_rejected H hframe hres]
        dsimp only
        rw [if_pos hres]
        rfl
      · rw [drain_body_of_accepted H hframe hres]
        dsimp only
        rw [if_neg hres]
        rfl
  · rfl

theorem after_write_settled (hphase : stage.phase = .wrote) :
    (stage.after_write H).settled H = stage.settled H := by
  unfold settled
  rw [hphase]
  unfold after_write
  dsimp only
  split
  · next hwaiting =>
    split at hwaiting
    · cases hwaiting
    · next hstop =>
      rw [if_neg hstop]
  · next hdraining =>
    split at hdraining
    · next hgoes =>
      rw [if_pos hgoes]
    · cases hdraining
  · next hwrote => split at hwrote <;> cases hwrote

/-- In turns of its own the worker does what it does to the commands it
dequeues in them, one after the other. -/
theorem settled_of_exec {start last : Stage ω} {events : List Event}
    (hexec : exec (step H) start events = some last) (hworks : ∀ event ∈ events, event.works) :
    last.settled H = DvrRecorder.worker_loop H (start.settled H) (commands events) := by
  induction events generalizing start with
  | nil =>
    cases hexec
    rfl
  | cons event events ih =>
    obtain ⟨next, hstep, hrest⟩ := Option.bind_eq_some_iff.mp hexec
    have hlast := ih hrest fun other hother => hworks other (List.mem_cons_of_mem _ hother)
    rw [hlast]
    cases event with
    | command cmd =>
      obtain ⟨⟨hphase, hexited⟩, rfl⟩ := by simpa [step] using hstep
      rw [receive_settled hphase hexited, settled_of_waiting hphase]
      rfl
    | write =>
      obtain ⟨hphase, rfl⟩ := by simpa [step] using hstep
      rw [write_settled hphase]
      rfl
    | after_write =>
      obtain ⟨hphase, rfl⟩ := by simpa [step] using hstep
      rw [after_write_settled hphase]
      rfl
    | update_frame_rate fps => exact (hworks _ List.mem_cons_self).elim

variable (H) in
/-- The frames that a turn hands to the muxer. -/
def hands_over (before : Stage ω) (event : Event) : List Frame :=
  match step H before event with
  | some after => written (emitted World.trace before.toWorld after.toWorld)
  | none => []

/-- The frame that a turn receives with a command. -/
def receives (_ : Stage ω) : Event → List Frame
  | .command cmd => cmd.payload.toList
  | _ => []

/-- The frames in the ring, oldest first. -/
def frames (stage : Stage ω) : List Frame := stage.self.ring_buffer_.contents.reduceOption

theorem frames_of_ring (hring : after.self.ring_buffer_ = before.self.ring_buffer_ ∨
    after.self.ring_buffer_ = before.self.ring_buffer_.clear) :
    after.frames.Sublist before.frames := by
  unfold frames
  obtain hring | hring := hring
  · rw [hring]
  · rw [hring, FrameRingBuffer.clear_contents]
    exact List.nil_sublist _

/-- A command that does not start the drain loop leaves the ring as it is or
empties it. -/
theorem process_command_ring {w : World ω} {cmd : Command}
    (hdrains : ¬ (cmd.type = .Frame ∧ w.self.recording_ ∧ w.self.warmup_done_)) :
    (DvrRecorder.process_command H cmd w).self.ring_buffer_ = w.self.ring_buffer_ ∨
      (DvrRecorder.process_command H cmd w).self.ring_buffer_ = w.self.ring_buffer_.clear := by
  have hreaction := process_command_cases H w cmd
  generalize DvrRecorder.process_command H cmd w = after at hreaction ⊢
  cases hreaction with
  | ignored _ => exact Or.inl rfl
  | started _ _ => exact Or.inr rfl
  | stopped _ hstopped => exact Or.inr hstopped.ring_buffer
  | warming _ _ _ _ =>
    obtain hwaiting | hwarmed | hfailed := warm_up_cases H w
    · obtain ⟨start, count, hself⟩ := hwaiting.self
      rw [hself]
      exact Or.inl rfl
    · exact Or.inl hwarmed.ring_buffer
    · exact Or.inr hfailed.ring_buffer
  | drained htype _ hrecording hwarm => exact absurd ⟨htype, hrecording, hwarm⟩ hdrains

theorem receive_leaks (h : Steady before) (cmd : Command) :
    (written (emitted World.trace before.toWorld (before.receive H cmd).toWorld) ++
      (before.receive H cmd).frames).Sublist (before.frames ++ cmd.payload.toList) := by
  unfold receive
  split
  · next hdrains =>
    cases hframe : cmd.frame with
    | none =>
      rw [emitted_self]
      exact List.sublist_append_left _ _
    | some frame =>
      have hpayload : cmd.payload = some frame := (if_pos hdrains.1).trans hframe
      have hnothing : emitted World.trace before.toWorld (pushed frame before.toWorld) = [] :=
        emitted_eq_nil rfl
      have hkept : (before.self.ring_buffer_.push (some frame)).contents.reduceOption.Sublist
          (before.frames ++ [frame]) := by
        rw [h.consistent.ring_wellFormed.push_contents, BoundedQueue.push,
          List.reduceOption_append]
        apply List.Sublist.append_right
        split
        · exact (List.tail_sublist _).filterMap id
        · exact List.Sublist.refl _
      dsimp only
      rw [hnothing, hpayload]
      exact hkept
  · next hdrains =>
    have hwritten : written (emitted World.trace before.toWorld
        (DvrRecorder.process_command H cmd before.toWorld)) = [] := by
      apply List.filterMap_eq_nil_iff.mpr
      intro action hmem
      have hnone := (process_command_unwritten (H := H) h.consistent hdrains).1
      cases action with
      | write_nal frame duration res calls => exact absurd hmem (hnone frame duration res calls)
      | fopen | fclose | mp4e_open | mp4e_close | log => rfl
    dsimp only
    rw [hwritten]
    exact (frames_of_ring (process_command_ring hdrains)).trans (List.sublist_append_left _ _)

theorem write_leaks (h : Steady before) :
    (written (emitted World.trace before.toWorld (before.write H).toWorld) ++
      (before.write H).frames).Sublist before.frames := by
  unfold write
  split
  · next hcond =>
    obtain ⟨-, hready, -, hsize⟩ := (drain_condition_iff _).mp hcond
    have hcontents := h.consistent.ring_wellFormed.pop_contents hsize
    cases hframe : before.self.ring_buffer_.pop.1 with
    | none =>
      rw [hframe] at hcontents
      have hframes : before.frames = before.self.ring_buffer_.pop.2.contents.reduceOption := by
        rw [frames, hcontents, List.reduceOption_cons_of_none]
      have hnothing : emitted World.trace before.toWorld (popped before.toWorld) = [] :=
        emitted_eq_nil rfl
      dsimp only
      rw [hnothing, hframes]
      exact List.Sublist.refl _
    | some frame =>
      rw [hframe] at hcontents
      have hframes : before.frames =
          frame :: before.self.ring_buffer_.pop.2.contents.reduceOption := by
        rw [frames, hcontents, List.reduceOption_cons_of_some]
      have hwrote := write_popped_spec H frame before.toWorld
      obtain ⟨duration, calls, htrace⟩ := hwrote.trace
      have hring := congrArg (fun ring => ring.contents.reduceOption) hwrote.ring_buffer
      dsimp only
      split
      · have hemitted : emitted World.trace before.toWorld
            (((write_popped H frame before.toWorld).2.log
              (.write_nal_returned (write_popped H frame before.toWorld).1)).update fun self =>
                { self with stop_requested_ := true }) =
            [.write_nal frame duration (write_popped H frame before.toWorld).1 calls,
              .log (.write_nal_returned (write_popped H frame before.toWorld).1)] := by
          apply emitted_of_append
          simp [World.log, World.perform, World.update, htrace]
        rw [hemitted, hframes]
        exact (congrArg (frame :: ·) hring).symm ▸ List.Sublist.refl _
      · rw [emitted_of_append htrace, hframes]
        exact (congrArg (frame :: ·) hring).symm ▸ List.Sublist.refl _
  · rw [emitted_self]
    exact List.Sublist.refl _

theorem after_write_leaks (h : Steady before) (hphase : before.phase = .wrote) :
    (written (emitted World.trace before.toWorld (before.after_write H).toWorld) ++
      (before.after_write H).frames).Sublist before.frames := by
  have hsilent (after : World ω)
      (htrace : Emits World.trace Action.between_frames before.toWorld after) :
      written (emitted World.trace before.toWorld after) = [] :=
    written_emitted_eq_nil htrace fun _ hentry => Action.between_frames.frame?_eq hentry
  obtain ⟨-, -, hrotated⟩ | ⟨-, -, hended⟩ := after_write_spec H (h.wrote hphase)
  · unfold after_write
    dsimp only
    rw [hsilent _ hrotated.trace]
    exact frames_of_ring (Or.inl hrotated.ring_buffer)
  · unfold after_write
    dsimp only
    rw [hsilent _ hended.trace]
    exact frames_of_ring (Or.inr hended.ring_buffer)

/-- What a turn hands to the muxer and leaves in the ring has been in the ring
or comes with the command, in this order. -/
theorem step_leaks (hstep : step H before event = some after) (h : Steady before) :
    (before.hands_over H event ++ after.frames).Sublist
      (before.frames ++ before.receives event) := by
  have hhands : before.hands_over H event =
      written (emitted World.trace before.toWorld after.toWorld) := by
    rw [hands_over, hstep]
  rw [hhands]
  cases event with
  | command cmd =>
    obtain ⟨-, rfl⟩ := by simpa [step] using hstep
    exact receive_leaks h cmd
  | write =>
    obtain ⟨-, rfl⟩ := by simpa [step] using hstep
    exact (write_leaks h).trans (List.sublist_append_left _ _)
  | after_write =>
    obtain ⟨hphase, rfl⟩ := by simpa [step] using hstep
    exact (after_write_leaks h hphase).trans (List.sublist_append_left _ _)
  | update_frame_rate fps =>
    cases hstep
    obtain ⟨duration, hrate⟩ := before.self.update_frame_rate_frame fps
    have hnothing : emitted World.trace before.toWorld
        { before.toWorld with self := before.self.update_frame_rate fps } = [] :=
      emitted_eq_nil rfl
    dsimp only
    rw [hnothing, hrate]
    exact List.sublist_append_left _ _

theorem step_trace (hstep : step H before event = some after) (h : Steady before) :
    before.trace <+: after.trace := by
  cases event with
  | command cmd =>
    obtain ⟨-, rfl⟩ := by simpa [step] using hstep
    unfold receive
    split
    · cases cmd.frame <;> exact List.prefix_refl _
    · exact process_command_trace H before.toWorld cmd
  | write =>
    obtain ⟨-, rfl⟩ := by simpa [step] using hstep
    unfold write
    split
    · cases before.self.ring_buffer_.pop.1 with
      | none => exact List.prefix_refl _
      | some frame =>
        obtain ⟨duration, calls, htrace⟩ := (write_popped_spec H frame before.toWorld).trace
        dsimp only
        split
        · simp [World.log, World.perform, World.update, htrace]
        · exact ⟨_, htrace.symm⟩
    · exact List.prefix_refl _
  | after_write =>
    obtain ⟨hphase, rfl⟩ := by simpa [step] using hstep
    obtain ⟨-, -, hrotated⟩ | ⟨-, -, hended⟩ := after_write_spec H (h.wrote hphase)
    · exact hrotated.trace.log_extends
    · exact hended.trace.log_extends
  | update_frame_rate fps =>
    cases hstep
    exact List.prefix_refl _

theorem flow_receives {start last : Stage ω} {events : List Event}
    (hexec : exec (step H) start events = some last) :
    flow receives (taken (step H) start events) = payloads (commands events) := by
  induction events generalizing start with
  | nil => rfl
  | cons event events ih =>
    obtain ⟨next, hstep, hrest⟩ := Option.bind_eq_some_iff.mp hexec
    rw [taken, hstep]
    dsimp only
    rw [flow_cons, ih hrest]
    cases event with
    | command cmd => cases hpayload : cmd.payload <;> simp [receives, payloads, commands, hpayload]
    | write | after_write | update_frame_rate => rfl

/-- Whatever fails in a run, the frames that it hands to the muxer and those that
are left in the ring are among the frames received, in their order. -/
theorem frames_of_exec {start last : Stage ω} {events : List Event} (h : Steady start)
    (hexec : exec (step H) start events = some last) :
    ∃ handed, written last.trace = written start.trace ++ handed ∧
      (handed ++ last.frames).Sublist (start.frames ++ payloads (commands events)) := by
  have hwritten : written last.trace =
      written start.trace ++ flow (hands_over H) (taken (step H) start events) := by
    refine exec_induction (P := fun start steps last => Steady start →
      written last.trace = written start.trace ++ flow (hands_over H) steps) ?_ ?_ hexec h
    · simp
    · intro before event next steps last hstep ih hbefore
      have hnext := congrArg written (log_eq_append_emitted (step_trace hstep hbefore))
      rw [ih (hbefore.step hstep), flow_cons, ← List.append_assoc, hands_over, hstep, hnext]
      exact congrArg (· ++ _) List.filterMap_append
  have hleaks : (flow (hands_over H) (taken (step H) start events) ++ last.frames).Sublist
      (start.frames ++ flow receives (taken (step H) start events)) :=
    run_sublist_of_invariant (fun hstep hbefore => hbefore.step hstep) step_leaks h hexec
  rw [flow_receives hexec] at hleaks
  exact ⟨_, hwritten, hleaks⟩

/-- The loop ends with the flag cleared, the writer closed and no frame left. -/
structure Ending (stage : Stage ω) : Prop extends Steady stage where
  running : stage.self.running_ = !stage.exited
  closed : stage.exited = true → stage.phase = .waiting ∧ stage.self.writer_ready_ = false ∧
    stage.self.recording_ = false ∧ stage.frames = []

theorem Ending.of_running (h : Steady stage) (hexited : stage.exited = false)
    (hrunning : stage.self.running_ = true) : Ending stage := by
  refine ⟨h, ?_, fun hexits => ?_⟩
  · rw [hrunning, hexited, Bool.not_false]
  · rw [hexited] at hexits
    cases hexits

theorem Ending.receive (h : Ending before) (hexited : before.exited = false) (cmd : Command) :
    Ending (before.receive H cmd) := by
  have hsteady := h.toSteady.receive (H := H) cmd
  have hbefore : before.self.running_ = true := by rw [h.running, hexited, Bool.not_false]
  unfold Stage.receive at hsteady ⊢
  split
  · next hdrains =>
    rw [if_pos hdrains] at hsteady
    cases hframe : cmd.frame with
    | none => exact h
    | some frame =>
      rw [hframe] at hsteady
      exact .of_running hsteady hexited hbefore
  · next hdrains =>
    rw [if_neg hdrains] at hsteady
    have hrunning := process_command_running (H := H) hdrains
    rw [hbefore, Bool.true_and] at hrunning
    refine ⟨hsteady, ?_, fun hexits => ?_⟩
    · rw [hrunning, decide_not]
    · have htype : cmd.type = .Shutdown := of_decide_eq_true hexits
      have hreaction := process_command_cases H before.toWorld cmd
      generalize DvrRecorder.process_command H cmd before.toWorld = after at hreaction ⊢
      have hstopped : Stopped before.toWorld after := by
        cases hreaction with
        | stopped _ hstopped => exact hstopped
        | ignored hreason => simp [htype] at hreason
        | started hother _ | warming hother _ _ _ | drained hother _ _ _ =>
          rw [htype] at hother
          cases hother
      refine ⟨rfl, hstopped.ready, hstopped.recording, ?_⟩
      exact congrArg (fun ring => ring.contents.reduceOption) hstopped.ring_buffer

/-- The loop has not ended where the worker is at a frame. -/
theorem Ending.exited_of_busy (h : Ending stage) (hphase : stage.phase ≠ .waiting) :
    stage.exited = false := by
  cases hexited : stage.exited with
  | false => rfl
  | true => exact absurd (h.closed hexited).1 hphase

theorem write_kept (before : Stage ω) : (before.write H).exited = before.exited ∧
    (before.write H).self.running_ = before.self.running_ := by
  unfold Stage.write
  split
  · cases before.self.ring_buffer_.pop.1 with
    | none => exact ⟨rfl, rfl⟩
    | some frame =>
      have hwrote := write_popped_running (H := H) frame before.toWorld
      dsimp only
      split
      · exact ⟨rfl, hwrote⟩
      · exact ⟨rfl, hwrote⟩
  · exact ⟨rfl, rfl⟩

theorem Ending.write (h : Ending before) (hphase : before.phase = .draining) :
    Ending (before.write H) := by
  have hexited := h.exited_of_busy (by rw [hphase]; decide)
  have hbefore : before.self.running_ = true := by rw [h.running, hexited, Bool.not_false]
  obtain ⟨hkept, hrunning⟩ := write_kept (H := H) before
  exact .of_running h.toSteady.write (hkept.trans hexited) (hrunning.trans hbefore)

theorem Ending.after_write (h : Ending before) (hphase : before.phase = .wrote) :
    Ending (before.after_write H) := by
  have hexited := h.exited_of_busy (by rw [hphase]; decide)
  have hbefore : before.self.running_ = true := by rw [h.running, hexited, Bool.not_false]
  exact .of_running (h.toSteady.after_write hphase) hexited
    ((after_write_running before.toWorld).trans hbefore)

theorem Ending.step (h : Ending before) (hstep : step H before event = some after) :
    Ending after := by
  cases event with
  | command cmd =>
    obtain ⟨⟨-, hexited⟩, rfl⟩ := by simpa [Stage.step] using hstep
    exact h.receive hexited cmd
  | write =>
    obtain ⟨hphase, rfl⟩ := by simpa [Stage.step] using hstep
    exact h.write hphase
  | after_write =>
    obtain ⟨hphase, rfl⟩ := by simpa [Stage.step] using hstep
    exact h.after_write hphase
  | update_frame_rate fps =>
    cases hstep
    have hsteady := h.toSteady.update_frame_rate fps
    obtain ⟨duration, hrate⟩ := before.self.update_frame_rate_frame fps
    rw [hrate] at hsteady ⊢
    exact ⟨hsteady, h.running, h.closed⟩

/-- The loop ends with the `Shutdown` that is dequeued. -/
theorem step_exited (hstep : step H before event = some after) :
    (after.exited = true ↔ before.exited = true ∨
      ∃ cmd, event = .command cmd ∧ cmd.type = .Shutdown) := by
  cases event with
  | command cmd =>
    obtain ⟨⟨-, hexited⟩, rfl⟩ := by simpa [Stage.step] using hstep
    unfold receive
    split
    · next hdrains =>
      cases cmd.frame <;> simp [hexited, hdrains.1]
    · simp [hexited]
  | write =>
    obtain ⟨-, rfl⟩ := by simpa [Stage.step] using hstep
    simp [(write_kept (H := H) before).1]
  | after_write =>
    obtain ⟨-, rfl⟩ := by simpa [Stage.step] using hstep
    simp [after_write]
  | update_frame_rate fps =>
    cases hstep
    simp

/-- The turns the worker needs, at most, until it waits for a command. -/
def turns_left (stage : Stage ω) : Nat :=
  match stage.phase with
  | .waiting => 0
  | .draining => 2 * stage.self.ring_buffer_.size_ + 1
  | .wrote => 2 * stage.self.ring_buffer_.size_ + 2

/-- A drain loop has no more than the 120 frames of the ring before it. -/
theorem receive_turns_left (h : Steady before) (hphase : before.phase = .waiting) (cmd : Command) :
    (before.receive H cmd).turns_left ≤ 241 := by
  unfold receive
  split
  · cases cmd.frame with
    | none =>
      dsimp only
      rw [turns_left, hphase]
      exact Nat.zero_le _
    | some frame =>
      have hpushed := h.consistent.pushed frame
      have hsize := hpushed.ring_wellFormed.size_le
      rw [hpushed.ring_capacity] at hsize
      change 2 * (pushed frame before.toWorld).self.ring_buffer_.size_ + 1 ≤ 241
      omega
  · exact Nat.zero_le _

theorem write_turns_left (hphase : before.phase = .draining) :
    (before.write H).turns_left < before.turns_left := by
  have hleft : before.turns_left = 2 * before.self.ring_buffer_.size_ + 1 := by
    rw [turns_left, hphase]
  rw [hleft]
  unfold write
  split
  · next hcond =>
    obtain ⟨-, -, -, hsize⟩ := (drain_condition_iff _).mp hcond
    cases before.self.ring_buffer_.pop.1 with
    | none => exact Nat.succ_pos _
    | some frame =>
      have hwrote := write_popped_spec H frame before.toWorld
      have hring := congrArg FrameRingBuffer.size_ hwrote.ring_buffer
      rw [FrameRingBuffer.pop_size] at hring
      dsimp only
      split
      · exact Nat.succ_pos _
      · change 2 * (write_popped H frame before.toWorld).2.self.ring_buffer_.size_ + 2 < _
        omega
  · exact Nat.succ_pos _

theorem after_write_turns_left (h : Steady before) (hphase : before.phase = .wrote) :
    (before.after_write H).turns_left < before.turns_left := by
  have hleft : before.turns_left = 2 * before.self.ring_buffer_.size_ + 2 := by
    rw [turns_left, hphase]
  rw [hleft]
  obtain ⟨-, hgoes, hrotated⟩ | ⟨-, hstops, -⟩ := after_write_spec H (h.wrote hphase)
  · have hring := congrArg FrameRingBuffer.size_ hrotated.ring_buffer
    unfold after_write
    dsimp only
    rw [hgoes, if_pos rfl]
    change 2 * (DvrRecorder.after_write H before.toWorld).2.self.ring_buffer_.size_ + 1 < _
    omega
  · unfold after_write
    dsimp only
    rw [hstops, if_neg Bool.false_ne_true]
    exact Nat.succ_pos _

end Stage

end amldigitalfpv.dvr_recorder
