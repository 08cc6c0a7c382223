import AMLDigitalFPV.DvrRecorder.Invariant
import AMLDigitalFPV.DvrRecorder.WriteFailure

open Runs amldigitalfpv.frame_ring_buffer

namespace amldigitalfpv.dvr_recorder

/-- The frame that a command carries to the worker. -/
def Command.payload (cmd : Command) : Option Frame :=
  if cmd.type = .Frame then cmd.frame else none

/-- The non-null frames among the commands, in order. -/
def payloads (cmds : List Command) : List Frame := cmds.filterMap Command.payload

/-- The action reports one of the failures that a recording may run into. -/
def Action.disturbs (action : Action) : Prop :=
  action.rejects ∨ action = .log .failed_to_rotate ∨ action = .log .open_after_warm_up_failed

instance : DecidablePred Action.disturbs := fun _ => inferInstanceAs (Decidable (_ ∨ _ ∨ _))

/-- What a recorder without failures satisfies between two commands. -/
structure Resting (recorder : DvrRecorder) : Prop extends Consistent recorder where
  ring_empty : recorder.ring_buffer_.size_ = 0
  alive : Alive recorder

/-- The members of a recorder past its warm-up, with an open writer. -/
structure Live (recorder : DvrRecorder) : Prop extends Resting recorder where
  recording : recorder.recording_ = true
  warmup_done : recorder.warmup_done_ = true

theorem Live.ready {recorder : DvrRecorder} (h : Live recorder) : recorder.writer_ready_ = true :=
  h.alive h.recording h.warmup_done

theorem Resting.of_not_recording {recorder : DvrRecorder} (hcons : Consistent recorder)
    (hempty : recorder.ring_buffer_.size_ = 0) (hrecording : recorder.recording_ = false) :
    Resting recorder := by
  refine ⟨hcons, hempty, fun hrecords => ?_⟩
  rw [hrecording] at hrecords
  cases hrecords

/-- Outside a recording nothing is left of one. -/
def Idle (recorder : DvrRecorder) : Prop :=
  recorder.recording_ = false →
    recorder.warmup_done_ = false ∧ recorder.ring_buffer_.size_ = 0

theorem Idle.of_recording {recorder : DvrRecorder} (hrecording : recorder.recording_ = true) :
    Idle recorder := by
  intro hidle
  rw [hrecording] at hidle
  cases hidle

theorem Initial.idle {recorder : DvrRecorder} (h : Initial recorder) : Idle recorder := by
  obtain ⟨writer, width, height, fps_hint, codec, path, rfl⟩ := h
  exact fun _ => ⟨rfl, rfl⟩

theorem written_append (first second : List Action) :
    written (first ++ second) = written first ++ written second :=
  List.filterMap_append

section

variable {ω : Type} (H : Host ω)

theorem written_emitted_eq_nil {P : Action → Prop} {before after : World ω}
    (h : Emits World.trace P before after) (hnone : ∀ action, P action → action.frame? = none) :
    written (emitted World.trace before after) = [] := by
  apply List.filterMap_eq_nil_iff.mpr
  intro action hmem
  exact hnone action (h.of_mem_emitted hmem)

/-- A frame put into an empty ring is the one that comes out next, and it
leaves the ring empty. -/
theorem pushed_ring {w : World ω} (hring : w.self.ring_buffer_.WellFormed)
    (hempty : w.self.ring_buffer_.size_ = 0) (frame : Frame) :
    (pushed frame w).self.ring_buffer_.size_ = 1 ∧
      (pushed frame w).self.ring_buffer_.pop.1 = some frame := by
  have hcontents : (pushed frame w).self.ring_buffer_.contents = [some frame] := by
    have hnil : w.self.ring_buffer_.contents = [] :=
      List.eq_nil_of_length_eq_zero (by rw [FrameRingBuffer.length_contents, hempty])
    have hpush := hring.push_contents (some frame)
    rw [hnil, BoundedQueue.push_of_room _ (by simpa using hring.capacity_pos)] at hpush
    exact hpush
  have hsize : (pushed frame w).self.ring_buffer_.size_ = 1 := by
    rw [← FrameRingBuffer.length_contents, hcontents]
    rfl
  have hpop := (hring.push (some frame)).pop_contents (by
    rw [show (w.self.ring_buffer_.push (some frame)).size_ = 1 from hsize]
    exact one_ne_zero)
  rw [show (w.self.ring_buffer_.push (some frame)).contents = [some frame] from hcontents] at hpop
  exact ⟨hsize, (List.cons.inj hpop).1.symm⟩

/-- With an empty ring the drain loop takes one iteration for the frame that
has just been pushed. -/
theorem drain_pushed {w : World ω} (h : Live w.self) (frame : Frame) :
    DvrRecorder.drain H (pushed frame w).self.ring_buffer_.size_ (pushed frame w) =
      (DvrRecorder.drain_body H (pushed frame w)).2 := by
  obtain ⟨hsize, -⟩ := pushed_ring h.ring_wellFormed h.ring_empty frame
  have hcond : (pushed frame w).self.drain_condition = true := by
    refine (drain_condition_iff _).mpr ⟨h.recording, h.ready, h.warmup_done, ?_⟩
    rw [hsize]
    exact one_ne_zero
  rw [hsize, DvrRecorder.drain, if_pos hcond]
  dsimp only
  split <;> rfl

/-- The state after a live recorder has written a frame with an accepted
status: it stays live, or a stop was requested and the recording is over. -/
theorem Live.drain_pushed_spec {w : World ω} (h : Live w.self) (frame : Frame)
    (hquiet : ∀ action ∈ emitted World.trace w (DvrRecorder.drain_body H (pushed frame w)).2,
      ¬ action.disturbs) :
    written (emitted World.trace w (DvrRecorder.drain_body H (pushed frame w)).2) = [frame] ∧
      ((w.self.stop_requested_ = false ∧
          Live (DvrRecorder.drain_body H (pushed frame w)).2.self ∧
          (DvrRecorder.drain_body H (pushed frame w)).2.self.stop_requested_ = false) ∨
        (w.self.stop_requested_ = true ∧
          Resting (DvrRecorder.drain_body H (pushed frame w)).2.self ∧
          (DvrRecorder.drain_body H (pushed frame w)).2.self.warmup_done_ = false)) := by
  obtain ⟨hsize, hpop⟩ := pushed_ring h.ring_wellFormed h.ring_empty frame
  have hpushed : Consistent (pushed frame w).self :=
    ⟨h.ring_wellFormed.push _, (FrameRingBuffer.push_capacity _ _).trans h.ring_capacity,
      fun _ => ⟨h.recording, h.warmup_done⟩⟩
  have hcond : (pushed frame w).self.drain_condition = true := by
    refine (drain_condition_iff _).mpr ⟨h.recording, h.ready, h.warmup_done, ?_⟩
    rw [hsize]
    exact one_ne_zero
  have hcons := hpushed.drain_body H hcond
  have hwrote := write_popped_spec H frame (pushed frame w)
  obtain ⟨duration, calls, htrace⟩ := hwrote.trace
  have grow : ∀ {after : World ω},
      Emits World.trace Action.between_frames (write_popped H frame (pushed frame w)).2 after →
      emitted World.trace w after =
        .write_nal frame duration (write_popped H frame (pushed frame w)).1 calls ::
          emitted World.trace (write_popped H frame (pushed frame w)).2 after := by
    intro after hafter
    rw [show emitted World.trace w after = emitted World.trace (pushed frame w) after from rfl,
      emitted_trans ⟨_, htrace.symm⟩ hafter.log_extends, emitted_of_append htrace]
    rfl
  obtain ⟨hnull, -⟩ | ⟨other, hother, hcases⟩ := drain_body_cases H (w := pushed frame w) h.ready
  · rw [hpop] at hnull
    cases hnull
  · obtain rfl : frame = other := Option.some.inj (hpop.symm.trans hother)
    obtain ⟨hres, hbody⟩ | ⟨-, hstop, -, hrotated⟩ | ⟨-, hstop, -, hended⟩ := hcases
    · refine (hquiet (.write_nal frame duration _ calls) ?_ (Or.inl hres)).elim
      have hlog : (DvrRecorder.drain_body H (pushed frame w)).2.trace = w.trace ++
          ([.write_nal frame duration (write_popped H frame (pushed frame w)).1 calls] ++
            [.log (.write_nal_returned (write_popped H frame (pushed frame w)).1)]) := by
        rw [hbody, ← List.append_assoc]
        exact congrArg (· ++ [Action.log _]) htrace
      rw [emitted_of_append hlog]
      exact List.mem_append_left _ (List.mem_singleton_self _)
    · rw [grow hrotated.trace] at hquiet ⊢
      have hrest := written_emitted_eq_nil hrotated.trace
        (fun _ hentry => Action.between_frames.frame?_eq hentry)
      refine ⟨congrArg (frame :: ·) hrest, Or.inl ⟨hstop, ?_, ?_⟩⟩
      · have hready := hrotated.ready.resolve_right fun hmem =>
          hquiet _ (List.mem_cons_of_mem _ hmem) (Or.inr (Or.inl rfl))
        refine ⟨⟨hcons, ?_, fun _ _ => hready⟩, ?_, ?_⟩
        · rw [hrotated.ring_buffer, hwrote.ring_buffer, FrameRingBuffer.pop_size, hsize]
        · exact (hrotated.recording.trans hwrote.recording).trans h.recording
        · exact (hrotated.warmup_done.trans hwrote.warmup_done).trans h.warmup_done
      · exact (hrotated.stop_requested.trans hwrote.stop_requested).trans hstop
    · rw [grow hended.trace]
      have hrest := written_emitted_eq_nil hended.trace
        (fun _ hentry => Action.between_frames.frame?_eq hentry)
      refine ⟨congrArg (frame :: ·) hrest, Or.inr ⟨hstop, ?_, hended.warmup_done⟩⟩
      refine .of_not_recording hcons ?_ hended.recording
      rw [hended.ring_buffer]
      rfl

theorem idle_drain_body {w : World ω} (hcond : w.self.drain_condition = true) :
    Idle (DvrRecorder.drain_body H w).2.self := by
  obtain ⟨hrecording, hready, -, -⟩ := (drain_condition_iff _).mp hcond
  obtain ⟨-, hbody⟩ | ⟨frame, -, hcases⟩ := drain_body_cases H hready
  · rw [hbody]
    exact .of_recording hrecording
  · have hwrote := (write_popped_spec H frame w).recording.trans hrecording
    obtain ⟨-, hbody⟩ | ⟨-, -, -, hrotated⟩ | ⟨-, -, -, hended⟩ := hcases
    · rw [hbody]
      exact .of_recording hwrote
    · exact .of_recording (hrotated.recording.trans hwrote)
    · intro _
      refine ⟨hended.warmup_done, ?_⟩
      rw [hended.ring_buffer]
      rfl

theorem Idle.drain {w : World ω} (h : Idle w.self) (fuel : Nat) :
    Idle (DvrRecorder.drain H fuel w).self := by
  refine drain_induction H (P := fun before after => Idle before.self → Idle after.self)
    (fun _ h => h) ?_ ?_ fuel w h
  · intro w hcond _ _
    exact idle_drain_body H hcond
  · intro w after hcond _ hrest _
    exact hrest (idle_drain_body H hcond)

theorem Idle.process_command {w : World ω} (h : Idle w.self) (cmd : Command) :
    Idle (DvrRecorder.process_command H cmd w).self := by
  have hreaction := process_command_cases H w cmd
  generalize DvrRecorder.process_command H cmd w = after at hreaction ⊢
  cases hreaction with
  | ignored _ => exact h
  | started _ _ => exact .of_recording rfl
  | stopped _ hstopped =>
    intro _
    refine ⟨hstopped.warmup_done, ?_⟩
    rw [hstopped.ring_buffer]
    rfl
  | warming _ _ hrecording _ =>
    obtain hwaiting | hwarmed | hfailed := warm_up_cases H w
    · obtain ⟨start, count, hself⟩ := hwaiting.self
      rw [hself]
      exact .of_recording hrecording
    · exact .of_recording (hwarmed.recording.trans hrecording)
    · intro _
      refine ⟨hfailed.warmup_done, ?_⟩
      rw [hfailed.ring_buffer]
      rfl
  | drained _ _ hrecording _ =>
    refine Idle.drain H (w := pushed _ w) ?_ _
    exact .of_recording hrecording

theorem Idle.worker_loop {w : Worker ω} (h : Idle w.self) (cmds : List Command) :
    Idle (DvrRecorder.worker_loop H w cmds).self :=
  worker_loop_invariant H (P := fun w => Idle w.self)
    (fun _ cmd hw => hw.process_command H cmd) h cmds

/-- Nothing is written by a command that finds the warm-up unfinished. -/
theorem process_command_silent {w : World ω} (hwarm : w.self.warmup_done_ = false) (cmd : Command) :
    written (emitted World.trace w (DvrRecorder.process_command H cmd w)) = [] := by
  have hreaction := process_command_cases H w cmd
  generalize DvrRecorder.process_command H cmd w = after at hreaction ⊢
  cases hreaction with
  | ignored _ =>
    rw [emitted_self]
    rfl
  | started _ _ =>
    exact written_emitted_eq_nil (P := fun entry => entry = .log .warm_up_started)
      (Emits.of_append rfl rfl) fun entry hentry => hentry ▸ rfl
  | stopped _ hstopped =>
    exact written_emitted_eq_nil hstopped.trace fun _ hentry =>
      Action.between_frames.frame?_eq (Or.inl hentry)
  | warming _ _ _ _ =>
    obtain hwaiting | hwarmed | hfailed := warm_up_cases H w
    · rw [emitted_eq_nil hwaiting.trace]
      rfl
    · exact written_emitted_eq_nil hwarmed.trace fun _ hentry =>
        Action.between_frames.frame?_eq (Or.inl hentry)
    · apply written_emitted_eq_nil hfailed.trace
      intro entry hentry
      obtain hentry | rfl := hentry
      · exact Action.between_frames.frame?_eq (Or.inl hentry)
      · rfl
  | drained _ _ _ hdone =>
    rw [hwarm] at hdone
    cases hdone

theorem process_command_of_payload {w : World ω} (h : Live w.self) {cmd : Command} {frame : Frame}
    (hpayload : cmd.payload = some frame) :
    DvrRecorder.process_command H cmd w = (DvrRecorder.drain_body H (pushed frame w)).2 := by
  obtain ⟨htype, hframe⟩ : cmd.type = .Frame ∧ cmd.frame = some frame := by
    unfold Command.payload at hpayload
    split at hpayload
    · next htype => exact ⟨htype, hpayload⟩
    · cases hpayload
  rw [← drain_pushed H h frame]
  unfold DvrRecorder.process_command DvrRecorder.handle_command
  rw [if_neg (by rw [htype]; exact CommandType.noConfusion)]
  simp only [htype, hframe]
  rw [if_neg (not_not.mpr h.recording), if_neg (not_not.mpr h.warmup_done)]
  rfl

/-- A command that neither carries a frame nor ends the session does nothing
to a live recorder. -/
theorem process_command_of_no_payload {w : World ω} (h : Live w.self) {cmd : Command}
    (hpayload : cmd.payload = none) (hstop : cmd.type ≠ .Stop) (hshutdown : cmd.type ≠ .Shutdown) :
    DvrRecorder.process_command H cmd w = w := by
  have hreaction := process_command_cases H w cmd
  generalize DvrRecorder.process_command H cmd w = after at hreaction ⊢
  cases hreaction with
  | ignored _ => rfl
  | started _ hrecording =>
    rw [h.recording] at hrecording
    cases hrecording
  | stopped htype _ => exact (htype.elim hstop hshutdown).elim
  | warming htype hframe _ _ =>
    rw [Command.payload, if_pos htype, hframe] at hpayload
    cases hpayload
  | drained htype hframe _ _ =>
    rw [Command.payload, if_pos htype, hframe] at hpayload
    cases hpayload

/-- A frame that arrives during the warm-up leaves the recorder warming up or
makes it live. -/
theorem Resting.warm_up {w : World ω} (h : Resting w.self) (hrecording : w.self.recording_ = true)
    (hquiet : ∀ action ∈ emitted World.trace w (DvrRecorder.warm_up H w), ¬ action.disturbs) :
    Resting (DvrRecorder.warm_up H w).self ∧ (DvrRecorder.warm_up H w).self.recording_ = true ∧
      (DvrRecorder.warm_up H w).self.stop_requested_ = w.self.stop_requested_ := by
  have hcons := h.toConsistent.warm_up H hrecording
  obtain hwaiting | hwarmed | hfailed := warm_up_cases H w
  · obtain ⟨start, count, hself⟩ := hwaiting.self
    have halive : Alive (DvrRecorder.warm_up H w).self := by
      rw [hself]
      exact h.alive
    have hempty : (DvrRecorder.warm_up H w).self.ring_buffer_.size_ = 0 := by
      rw [hself]
      exact h.ring_empty
    refine ⟨⟨hcons, hempty, halive⟩, ?_, ?_⟩
    · rw [hself]
      exact hrecording
    · rw [hself]
      rfl
  · refine ⟨⟨hcons, ?_, fun _ _ => hwarmed.ready⟩, hwarmed.recording.trans hrecording,
      hwarmed.stop_requested⟩
    rw [hwarmed.ring_buffer]
    exact h.ring_empty
  · exact (hquiet _ hfailed.failed (Or.inr (Or.inr rfl))).elim

/-- A recorder at rest between two commands is at rest after the next one, and
that one has written no more than its own frame. -/
theorem Resting.process_command {w : World ω} (h : Resting w.self) (cmd : Command)
    (hquiet : ∀ action ∈ emitted World.trace w (DvrRecorder.process_command H cmd w),
      ¬ action.disturbs) :
    Resting (DvrRecorder.process_command H cmd w).self ∧
      (written (emitted World.trace w (DvrRecorder.process_command H cmd w))).length ≤
        (payloads [cmd]).length := by
  have hcons := h.toConsistent.process_command H cmd
  have hsilent (hwarm : w.self.warmup_done_ = false) := process_command_silent H hwarm cmd
  have hreaction := process_command_cases H w cmd
  generalize DvrRecorder.process_command H cmd w = after at hreaction hcons hquiet hsilent ⊢
  cases hreaction with
  | ignored _ =>
    refine ⟨h, ?_⟩
    rw [emitted_self]
    exact Nat.zero_le _
  | started _ _ =>
    refine ⟨⟨hcons, rfl, fun _ hdone => Bool.noConfusion hdone⟩, ?_⟩
    rw [written_emitted_eq_nil (P := fun entry => entry = .log .warm_up_started)
      (Emits.of_append rfl rfl) fun entry hentry => hentry ▸ rfl]
    exact Nat.zero_le _
  | stopped _ hstopped =>
    have hempty : after.self.ring_buffer_.size_ = 0 := by
      rw [hstopped.ring_buffer]
      rfl
    refine ⟨.of_not_recording hcons hempty hstopped.recording, ?_⟩
    rw [written_emitted_eq_nil hstopped.trace fun _ hentry =>
      Action.between_frames.frame?_eq (Or.inl hentry)]
    exact Nat.zero_le _
  | warming _ _ hrecording hwarm =>
    refine ⟨(h.warm_up H hrecording hquiet).1, ?_⟩
    rw [hsilent hwarm]
    exact Nat.zero_le _
  | drained htype hframe hrecording hdone =>
    rename_i frame
    have hlive : Live w.self := ⟨h, hrecording, hdone⟩
    rw [drain_pushed H hlive frame] at hcons hquiet ⊢
    obtain ⟨hwritten, hcases⟩ := hlive.drain_pushed_spec H frame hquiet
    have hpayloads : payloads [cmd] = [frame] := by
      simp [payloads, Command.payload, htype, hframe]
    refine ⟨?_, by rw [hwritten, hpayloads]⟩
    obtain ⟨-, hnext, -⟩ | ⟨-, hnext, -⟩ := hcases
    · exact hnext.toResting
    · exact hnext

/-- The frames that a session has to write: those dequeued after the frame that
completed the warm-up. -/
def session_frames (w : Worker ω) : List Command → List Frame
  | [] => []
  | cmd :: rest =>
    if (DvrRecorder.worker_step H w cmd).self.warmup_done_ then
      payloads rest
    else
      session_frames (DvrRecorder.worker_step H w cmd) rest

/-- No failure is reported on the way from one state to the other. -/
def Undisturbed (before after : Worker ω) : Prop :=
  ∀ action ∈ actions before after, ¬ action.disturbs

/-- Neither a `Stop` nor a `Shutdown`. -/
def Command.within_session (cmd : Command) : Prop := cmd.type ≠ .Stop ∧ cmd.type ≠ .Shutdown

theorem worker_step_running {w : Worker ω} (hexited : w.exited = false) {cmd : Command}
    (hcmd : cmd.within_session) : (DvrRecorder.worker_step H w cmd).exited = false := by
  rw [worker_step_of_running H hexited]
  exact decide_eq_false hcmd.2

theorem actions_worker_loop_cons (w : Worker ω) (cmd : Command) (rest : List Command) :
    actions w (DvrRecorder.worker_loop H w (cmd :: rest)) =
      actions w (DvrRecorder.worker_step H w cmd) ++
        actions (DvrRecorder.worker_step H w cmd)
          (DvrRecorder.worker_loop H (DvrRecorder.worker_step H w cmd) rest) :=
  emitted_trans (worker_step_trace H w cmd)
    (log_extends_foldl (worker_step_trace H) (DvrRecorder.worker_step H w cmd) rest)

theorem Undisturbed.cons {w : Worker ω} {cmd : Command} {rest : List Command}
    (h : Undisturbed w (DvrRecorder.worker_loop H w (cmd :: rest))) :
    Undisturbed w (DvrRecorder.worker_step H w cmd) ∧
      Undisturbed (DvrRecorder.worker_step H w cmd)
        (DvrRecorder.worker_loop H (DvrRecorder.worker_step H w cmd) rest) := by
  unfold Undisturbed at h
  rw [actions_worker_loop_cons] at h
  exact ⟨fun action hmem => h action (List.mem_append_left _ hmem),
    fun action hmem => h action (List.mem_append_right _ hmem)⟩

theorem payloads_cons (cmd : Command) (rest : List Command) :
    payloads (cmd :: rest) = payloads [cmd] ++ payloads rest :=
  List.filterMap_append (l := [cmd])

theorem Resting.worker_step {w : Worker ω} (h : Resting w.self) (cmd : Command)
    (hquiet : Undisturbed w (DvrRecorder.worker_step H w cmd)) :
    Resting (DvrRecorder.worker_step H w cmd).self ∧
      (written (actions w (DvrRecorder.worker_step H w cmd))).length ≤ (payloads [cmd]).length := by
  cases hexited : w.exited with
  | true =>
    rw [worker_step_of_exited H hexited]
    refine ⟨h, ?_⟩
    rw [actions_self]
    exact Nat.zero_le _
  | false =>
    have hactions := actions_worker_step H hexited cmd
    unfold Undisturbed at hquiet
    rw [hactions] at hquiet ⊢
    rw [worker_step_of_running H hexited]
    exact h.process_command H cmd hquiet

/-- A recorder at rest writes at most the frames it is given. -/
theorem Resting.written_le {w : Worker ω} (h : Resting w.self) {cmds : List Command}
    (hquiet : Undisturbed w (DvrRecorder.worker_loop H w cmds)) :
    (written (actions w (DvrRecorder.worker_loop H w cmds))).length ≤ (payloads cmds).length := by
  induction cmds generalizing w with
  | nil =>
    rw [actions_worker_loop_nil]
    exact Nat.zero_le _
  | cons cmd rest ih =>
    obtain ⟨hfirst, hrest⟩ := hquiet.cons
    obtain ⟨hnext, hle⟩ := h.worker_step H cmd hfirst
    have hle' := ih hnext hrest
    rw [actions_worker_loop_cons, payloads_cons, written_append, List.length_append,
      List.length_append]
    omega

theorem worker_step_silent {w : Worker ω} (hwarm : w.self.warmup_done_ = false) (cmd : Command) :
    written (actions w (DvrRecorder.worker_step H w cmd)) = [] := by
  cases hexited : w.exited with
  | true =>
    rw [worker_step_of_exited H hexited]
    rw [actions_self]
    rfl
  | false =>
    rw [actions_worker_step H hexited]
    exact process_command_silent H hwarm cmd

/-- A command without a frame does not complete a warm-up. -/
theorem process_command_no_warm_up {w : World ω} (hwarm : w.self.warmup_done_ = false)
    {cmd : Command} (hpayload : cmd.payload = none) :
    (DvrRecorder.process_command H cmd w).self.warmup_done_ = false := by
  have hreaction := process_command_cases H w cmd
  generalize DvrRecorder.process_command H cmd w = after at hreaction ⊢
  cases hreaction with
  | ignored _ => exact hwarm
  | started _ _ => rfl
  | stopped _ hstopped => exact hstopped.warmup_done
  | warming htype hframe _ _ =>
    rw [Command.payload, if_pos htype, hframe] at hpayload
    cases hpayload
  | drained _ _ _ hdone =>
    rw [hwarm] at hdone
    cases hdone

/-- Outside a recording the first frame to arrive is not written. -/
theorem Resting.written_lt {w : Worker ω} (h : Resting w.self) (hwarm : w.self.warmup_done_ = false)
    {cmds : List Command} (hquiet : Undisturbed w (DvrRecorder.worker_loop H w cmds)) :
    (written (actions w (DvrRecorder.worker_loop H w cmds))).length ≤
      (payloads cmds).length - 1 := by
  induction cmds generalizing w with
  | nil =>
    rw [actions_worker_loop_nil]
    exact Nat.zero_le _
  | cons cmd rest ih =>
    obtain ⟨hfirst, hrest⟩ := hquiet.cons
    have hnext := (h.worker_step H cmd hfirst).1
    rw [actions_worker_loop_cons, payloads_cons, written_append, worker_step_silent H hwarm,
      List.nil_append, List.length_append]
    cases hpayload : cmd.payload with
    | some frame =>
      have hle := hnext.written_le H hrest
      have hone : (payloads [cmd]).length = 1 := by simp [payloads, hpayload]
      omega
    | none =>
      have hzero : (payloads [cmd]).length = 0 := by simp [payloads, hpayload]
      have hwarm' : (DvrRecorder.worker_step H w cmd).self.warmup_done_ = false := by
        cases hexited : w.exited with
        | true =>
          rw [worker_step_of_exited H hexited]
          exact hwarm
        | false =>
          rw [worker_step_of_running H hexited]
          exact process_command_no_warm_up H hwarm hpayload
      have hlt := ih hnext hwarm' hrest
      omega

/-- One round of a live recorder that carries a frame. -/
theorem Live.worker_step_payload {w : Worker ω} (h : Live w.self) (hexited : w.exited = false)
    {cmd : Command} {frame : Frame} (hpayload : cmd.payload = some frame)
    (hquiet : Undisturbed w (DvrRecorder.worker_step H w cmd)) :
    written (actions w (DvrRecorder.worker_step H w cmd)) = [frame] ∧
      ((w.self.stop_requested_ = false ∧ Live (DvrRecorder.worker_step H w cmd).self ∧
          (DvrRecorder.worker_step H w cmd).self.stop_requested_ = false) ∨
        (w.self.stop_requested_ = true ∧ Resting (DvrRecorder.worker_step H w cmd).self ∧
          (DvrRecorder.worker_step H w cmd).self.warmup_done_ = false)) := by
  have hactions := actions_worker_step H hexited cmd
  unfold Undisturbed at hquiet
  rw [hactions] at hquiet ⊢
  rw [worker_step_of_running H hexited]
  rw [process_command_of_payload H h hpayload] at hquiet ⊢
  exact h.drain_pushed_spec H frame hquiet

/-- One round of a live recorder that carries no frame. -/
theorem Live.worker_step_no_payload {w : Worker ω} (h : Live w.self) (hexited : w.exited = false)
    {cmd : Command} (hcmd : cmd.within_session) (hpayload : cmd.payload = none) :
    DvrRecorder.worker_step H w cmd = w := by
  rw [worker_step_of_running H hexited,
    process_command_of_no_payload H h hpayload hcmd.1 hcmd.2, decide_eq_false hcmd.2, ← hexited]

/-- With no stop pending, a live recorder writes every frame it is given. -/
theorem Live.written_eq {w : Worker ω} (h : Live w.self) (hexited : w.exited = false)
    (hstop : w.self.stop_requested_ = false) {cmds : List Command}
    (hcmds : ∀ cmd ∈ cmds, cmd.within_session)
    (hquiet : Undisturbed w (DvrRecorder.worker_loop H w cmds)) :
    written (actions w (DvrRecorder.worker_loop H w cmds)) = payloads cmds := by
  induction cmds generalizing w with
  | nil =>
    rw [actions_worker_loop_nil]
    rfl
  | cons cmd rest ih =>
    obtain ⟨hfirst, hrest⟩ := hquiet.cons
    have hcmd := hcmds cmd List.mem_cons_self
    have hcmds' := fun next hmem => hcmds next (List.mem_cons_of_mem _ hmem)
    rw [actions_worker_loop_cons, payloads_cons, written_append]
    cases hpayload : cmd.payload with
    | none =>
      have hsame := h.worker_step_no_payload H hexited hcmd hpayload
      rw [hsame] at hrest ⊢
      rw [actions_self, ih h hexited hstop hcmds' hrest]
      simp [payloads, hpayload, written]
    | some frame =>
      obtain ⟨hwritten, hcases⟩ := h.worker_step_payload H hexited hpayload hfirst
      obtain ⟨-, hlive, hstop'⟩ | ⟨hstop', -⟩ := hcases
      · rw [hwritten, ih hlive (worker_step_running H hexited hcmd) hstop' hcmds' hrest]
        simp [payloads, hpayload]
      · rw [hstop] at hstop'
        cases hstop'

/-- With a stop still pending, a live recorder writes one frame and no more. -/
theorem Live.written_eq_iff {w : Worker ω} (h : Live w.self) (hexited : w.exited = false)
    (hstop : w.self.stop_requested_ = true) {cmds : List Command}
    (hcmds : ∀ cmd ∈ cmds, cmd.within_session)
    (hquiet : Undisturbed w (DvrRecorder.worker_loop H w cmds)) :
    written (actions w (DvrRecorder.worker_loop H w cmds)) = payloads cmds ↔
      (payloads cmds).length ≤ 1 := by
  induction cmds with
  | nil =>
    rw [actions_worker_loop_nil]
    exact ⟨fun _ => Nat.zero_le _, fun _ => rfl⟩
  | cons cmd rest ih =>
    obtain ⟨hfirst, hrest⟩ := hquiet.cons
    have hcmd := hcmds cmd List.mem_cons_self
    rw [actions_worker_loop_cons, payloads_cons, written_append]
    cases hpayload : cmd.payload with
    | none =>
      have hsame := h.worker_step_no_payload H hexited hcmd hpayload
      have hnil : payloads [cmd] = [] := by simp [payloads, hpayload]
      rw [hsame] at hrest ⊢
      rw [actions_self, hnil]
      exact ih (fun next hmem => hcmds next (List.mem_cons_of_mem _ hmem)) hrest
    | some frame =>
      obtain ⟨hwritten, hcases⟩ := h.worker_step_payload H hexited hpayload hfirst
      have hone : payloads [cmd] = [frame] := by simp [payloads, hpayload]
      obtain ⟨hstop', -⟩ | ⟨-, hresting, hwarm⟩ := hcases
      · rw [hstop] at hstop'
        cases hstop'
      · have hlt := hresting.written_lt H hwarm hrest
        rw [hwritten, hone, List.singleton_append, List.singleton_append, List.length_cons]
        constructor
        · intro heq
          have hlength := congrArg List.length heq
          simp only [List.length_cons] at hlength
          omega
        · intro hle
          have hnil : payloads rest = [] := List.eq_nil_of_length_eq_zero (by omega)
          rw [hnil] at hlt ⊢
          rw [List.eq_nil_of_length_eq_zero (Nat.le_zero.mp hlt)]

/-- One round of a recorder at rest that is not past its warm-up. -/
theorem Resting.worker_step_warming {w : Worker ω} (h : Resting w.self)
    (hwarm : w.self.warmup_done_ = false) {cmd : Command} (hcmd : cmd.within_session)
    (hquiet : Undisturbed w (DvrRecorder.worker_step H w cmd)) :
    (DvrRecorder.worker_step H w cmd).self.stop_requested_ = w.self.stop_requested_ ∧
      ((DvrRecorder.worker_step H w cmd).self.warmup_done_ = true →
        Live (DvrRecorder.worker_step H w cmd).self ∧
          (DvrRecorder.worker_step H w cmd).exited = false) := by
  have hnext := (h.worker_step H cmd hquiet).1
  cases hexited : w.exited with
  | true =>
    rw [worker_step_of_exited H hexited]
    refine ⟨rfl, fun hdone => ?_⟩
    rw [hwarm] at hdone
    cases hdone
  | false =>
    have hrunning := worker_step_running H hexited hcmd
    unfold Undisturbed at hquiet
    rw [actions_worker_step H hexited] at hquiet
    rw [worker_step_of_running H hexited] at hnext hrunning ⊢
    dsimp only at hnext ⊢
    have hreaction := process_command_cases H w.toWorld cmd
    generalize DvrRecorder.process_command H cmd w.toWorld = after at hreaction hquiet hnext ⊢
    cases hreaction with
    | ignored _ =>
      refine ⟨rfl, fun hdone => ?_⟩
      rw [hwarm] at hdone
      cases hdone
    | started _ _ => exact ⟨rfl, fun hdone => Bool.noConfusion hdone⟩
    | stopped htype _ => exact (htype.elim hcmd.1 hcmd.2).elim
    | warming _ _ hrecording _ =>
      obtain ⟨-, hrecording', hstop⟩ := h.warm_up H (w := w.toWorld) hrecording hquiet
      exact ⟨hstop, fun hdone => ⟨⟨hnext, hrecording', hdone⟩, hrunning⟩⟩
    | drained _ _ _ hdone =>
      rw [hwarm] at hdone
      cases hdone

/-- What a session starting between two recordings writes, given that nothing
fails in it: all its frames, unless a stop is still pending from before. -/
theorem Resting.written_eq_iff {w : Worker ω} (h : Resting w.self)
    (hwarm : w.self.warmup_done_ = false) {cmds : List Command}
    (hcmds : ∀ cmd ∈ cmds, cmd.within_session)
    (hquiet : Undisturbed w (DvrRecorder.worker_loop H w cmds)) :
    written (actions w (DvrRecorder.worker_loop H w cmds)) = session_frames H w cmds ↔
      w.self.stop_requested_ = false ∨ (session_frames H w cmds).length ≤ 1 := by
  induction cmds generalizing w with
  | nil =>
    rw [actions_worker_loop_nil]
    exact ⟨fun _ => Or.inr (Nat.zero_le _), fun _ => rfl⟩
  | cons cmd rest ih =>
    obtain ⟨hfirst, hrest⟩ := hquiet.cons
    have hcmd := hcmds cmd List.mem_cons_self
    have hcmds' := fun next hmem => hcmds next (List.mem_cons_of_mem _ hmem)
    obtain ⟨hstop, hlive⟩ := h.worker_step_warming H hwarm hcmd hfirst
    rw [actions_worker_loop_cons, written_append, worker_step_silent H hwarm, List.nil_append,
      session_frames, ← hstop]
    cases hdone : (DvrRecorder.worker_step H w cmd).self.warmup_done_ with
    | false =>
      rw [if_neg Bool.false_ne_true]
      exact ih (h.worker_step H cmd hfirst).1 hdone hcmds' hrest
    | true =>
      rw [if_pos rfl]
      obtain ⟨hnext, hrunning⟩ := hlive hdone
      cases hstop' : (DvrRecorder.worker_step H w cmd).self.stop_requested_ with
      | false =>
        exact ⟨fun _ => Or.inl rfl, fun _ => hnext.written_eq H hrunning hstop' hcmds' hrest⟩
      | true =>
        rw [hnext.written_eq_iff H hrunning hstop' hcmds' hrest]
        simp

/-- From `w`, where no session is running, up to the end of the next session no
frame of `cmds` is lost, duplicated or reordered on its way to the muxer. -/
structure FramesKept (w : Worker ω) (cmds : List Command) : Prop where
  written_eq : written (actions w (DvrRecorder.worker_loop H w cmds)) = session_frames H w cmds
  silent : ∀ pre cmd, pre ++ [cmd] <+: cmds →
    (∀ early, early <+: pre → (DvrRecorder.worker_loop H w early).self.warmup_done_ = false) →
    written (actions w (DvrRecorder.worker_loop H w (pre ++ [cmd]))) = []
  room : ∀ pre, pre <+: cmds →
    (DvrRecorder.worker_loop H w pre).self.ring_buffer_.size_ <
      (DvrRecorder.worker_loop H w pre).self.ring_buffer_.capacity_

/-- Up to the command that completes the warm-up nothing is written. -/
theorem worker_loop_silent (w : Worker ω) (pre : List Command) (cmd : Command)
    (hwarm : ∀ early, early <+: pre →
      (DvrRecorder.worker_loop H w early).self.warmup_done_ = false) :
    written (actions w (DvrRecorder.worker_loop H w (pre ++ [cmd]))) = [] := by
  apply List.filterMap_eq_nil_iff.mpr
  intro action hmem
  obtain ⟨early, next, post, hsplit, hround⟩ := (mem_actions_worker_loop H).mp hmem
  have hprefix : early <+: pre := by
    obtain rfl | ⟨post, last, rfl⟩ := List.eq_nil_or_concat post
    · rw [(List.append_inj' hsplit rfl).1]
    · have hshape : pre ++ [cmd] = (early ++ next :: post) ++ [last] := by simpa using hsplit
      exact ⟨next :: post, (List.append_inj' hshape rfl).1.symm⟩
  rw [worker_loop_concat] at hround
  have hsilent := worker_step_silent H (hwarm early hprefix) next
  exact List.filterMap_eq_nil_iff.mp hsilent action hround

theorem Resting.of_prefix {w : Worker ω} (h : Resting w.self) {cmds : List Command}
    (hquiet : Undisturbed w (DvrRecorder.worker_loop H w cmds)) :
    ∀ pre, pre <+: cmds → Resting (DvrRecorder.worker_loop H w pre).self := by
  apply Runs.invariant_of_steps (P := fun w : Worker ω => Resting w.self) h
  intro pre cmd post hsplit hpre
  refine (Resting.worker_step H hpre cmd fun action hmem => hquiet action ?_).1
  refine (mem_actions_worker_loop H).mpr ⟨pre, cmd, post, hsplit, ?_⟩
  rw [worker_loop_concat]
  exact hmem

/-- Between two sessions the recorder is at rest and not past a warm-up. -/
theorem resting_between_sessions {start : Worker ω} (hstart : Initial start.self)
    {history : List Command}
    (hidle : (DvrRecorder.worker_loop H start history).self.recording_ = false) :
    Resting (DvrRecorder.worker_loop H start history).self ∧
      (DvrRecorder.worker_loop H start history).self.warmup_done_ = false := by
  have hcons := hstart.consistent.worker_loop H history
  obtain ⟨hwarm, hempty⟩ := hstart.idle.worker_loop H history hidle
  exact ⟨.of_not_recording hcons hempty hidle, hwarm⟩

/-- In a session without failures every frame after the warm-up reaches the
muxer once and in order, unless a stop is still pending from before the
session; then at most one does. -/
theorem frames_kept_iff {start : Worker ω} (hstart : Initial start.self)
    {history cmds : List Command}
    (hidle : (DvrRecorder.worker_loop H start history).self.recording_ = false)
    (hcmds : ∀ cmd ∈ cmds, cmd.within_session)
    (hquiet : Undisturbed (DvrRecorder.worker_loop H start history)
      (DvrRecorder.worker_loop H (DvrRecorder.worker_loop H start history) cmds)) :
    FramesKept H (DvrRecorder.worker_loop H start history) cmds ↔
      (DvrRecorder.worker_loop H start history).self.stop_requested_ = false ∨
        (session_frames H (DvrRecorder.worker_loop H start history) cmds).length ≤ 1 := by
  obtain ⟨hresting, hwarm⟩ := resting_between_sessions H hstart hidle
  rw [← hresting.written_eq_iff H hwarm hcmds hquiet]
  constructor
  · exact fun hkept => hkept.written_eq
  · intro hwritten
    refine ⟨hwritten, fun pre cmd _ hpre => worker_loop_silent H _ pre cmd hpre, ?_⟩
    intro pre hpre
    have hpre := hresting.of_prefix H hquiet pre hpre
    rw [hpre.ring_empty, hpre.ring_capacity]
    decide

end

/-- The first recording of a recorder that meets no failure, with a rotation after
its first frame. -/
theorem frames_kept_iff_recording :
    .log (.recording_to ['s']) ∈ actions (constructed rotating)
        (DvrRecorder.worker_loop scripted (constructed rotating)
          (warm_up_commands ++ [⟨.Frame, some key_frame⟩, ⟨.Frame, some [1]⟩])) ∧
      FramesKept scripted (DvrRecorder.worker_loop scripted (constructed rotating) [])
        (warm_up_commands ++ [⟨.Frame, some key_frame⟩, ⟨.Frame, some [1]⟩]) :=
  ⟨by decide +kernel, (frames_kept_iff scripted (constructed_initial _) rfl
    (by unfold Command.within_session; decide) (by unfold Undisturbed; decide +kernel)).mpr
      (Or.inl rfl)⟩

/-- A muxer that runs out of memory at the first frame of a first recording. -/
def recovered : Script :=
  { clock := [1, 1, 1001, 2000, 2000, 3001]
    paths := [['r'], ['s']]
    writes := [(-2, [])] }

/-- The recording that follows loses its second frame although nothing fails
in it. -/
theorem frames_kept_counterexample :
    ¬ ∀ history cmds : List Command,
      (∃ earlier cmd, history = earlier ++ [cmd] ∧ cmd.type = .Stop) →
      (∀ cmd ∈ cmds, cmd.within_session) →
      Undisturbed (DvrRecorder.worker_loop scripted (constructed recovered) history)
        (DvrRecorder.worker_loop scripted
          (DvrRecorder.worker_loop scripted (constructed recovered) history) cmds) →
      FramesKept scripted (DvrRecorder.worker_loop scripted (constructed recovered) history)
        cmds := by
  intro hkept
  have hsession := (hkept (warm_up_commands ++ [⟨.Frame, some key_frame⟩, ⟨.Stop, none⟩])
    (warm_up_commands ++ [⟨.Frame, some key_frame⟩, ⟨.Frame, some [1]⟩])
    ⟨warm_up_commands ++ [⟨.Frame, some key_frame⟩], ⟨.Stop, none⟩, rfl, rfl⟩
    (by unfold Command.within_session; decide)
    (by unfold Undisturbed; decide +kernel)).written_eq
  revert hsession
  decide +kernel

end amldigitalfpv.dvr_recorder
