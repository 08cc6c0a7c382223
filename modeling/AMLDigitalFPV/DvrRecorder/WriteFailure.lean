import AMLDigitalFPV.DvrRecorder.Script
import AMLDigitalFPV.DvrRecorder.WorkerSpec

open Runs

namespace amldigitalfpv.dvr_recorder

/-- The frame that an action hands to the muxer. -/
def Action.frame? : Action → Option Frame
  | .write_nal frame _ _ _ => some frame
  | _ => none

/-- The frames handed to the muxer, in order. -/
def written (taken : List Action) : List Frame := taken.filterMap Action.frame?

/-- The action hands a frame to the muxer and gets a rejecting status back. -/
def Action.rejects : Action → Prop
  | .write_nal _ _ res _ => rejected res
  | _ => False

instance : DecidablePred Action.rejects
  | .write_nal _ _ res _ => inferInstanceAs (Decidable (rejected res))
  | .fopen .. | .fclose _ | .mp4e_open _ | .mp4e_close _ | .log _ =>
    inferInstanceAs (Decidable False)

theorem Action.between_frames.frame?_eq {action : Action} (h : action.between_frames) :
    action.frame? = none := by
  obtain hquiet | rfl := h
  · cases action with
    | write_nal _ _ _ _ => cases hquiet
    | _ => rfl
  · rfl

theorem Action.not_rejects_of_frame? {action : Action} (h : action.frame? = none) :
    ¬ action.rejects := by
  cases action with
  | write_nal _ _ _ _ => cases h
  | _ => exact not_false

theorem Action.between_frames.not_rejects {action : Action} (h : action.between_frames) :
    ¬ action.rejects :=
  Action.not_rejects_of_frame? h.frame?_eq

section

variable {ω : Type} (H : Host ω)

/-- Within the run over `cmds` every rejected write ends the recording by the
end of the command that made it, and no later frame of the session is written. -/
def EndsOnRejection (w : Worker ω) (cmds : List Command) : Prop :=
  ∀ pre cmd post, cmds = pre ++ cmd :: post →
    ∀ earlier action later,
      actions (DvrRecorder.worker_loop H w pre) (DvrRecorder.worker_loop H w (pre ++ [cmd])) =
        earlier ++ action :: later →
      action.rejects →
      (DvrRecorder.worker_loop H w (pre ++ [cmd])).self.writer_ready_ = false ∧
      (DvrRecorder.worker_loop H w (pre ++ [cmd])).self.recording_ = false ∧
      written later = [] ∧
      ∀ rest, rest <+: post → (∀ next ∈ rest, next.type ≠ .Start) →
        written (actions (DvrRecorder.worker_loop H w (pre ++ [cmd]))
          (DvrRecorder.worker_loop H w (pre ++ cmd :: rest))) = []

/-- A rejected write leaves the drain loop with the writer still open and the
recorder still recording. -/
theorem drain_body_rejects {w : World ω} (hcond : w.self.drain_condition = true) {action : Action}
    (hmem : action ∈ emitted World.trace w (DvrRecorder.drain_body H w).2)
    (hrejects : action.rejects) :
    (DvrRecorder.drain_body H w).1 = false ∧
      (DvrRecorder.drain_body H w).2.self.recording_ = true ∧
      (DvrRecorder.drain_body H w).2.self.writer_ready_ = true := by
  obtain ⟨hrecording, hready, -, -⟩ := (drain_condition_iff _).mp hcond
  have accepted : ∀ {frame : Frame}, ¬ rejected (write_popped H frame w).1 →
      ∀ {after : World ω},
        Emits World.trace Action.between_frames (write_popped H frame w).2 after →
        action ∈ emitted World.trace w after → False := by
    intro frame hres after htrace hmem
    obtain ⟨duration, calls, hwrote⟩ := (write_popped_spec H frame w).trace
    rw [emitted_trans ⟨_, hwrote.symm⟩ htrace.log_extends, emitted_of_append hwrote] at hmem
    obtain hfirst | hrest := List.mem_append.mp hmem
    · rw [List.mem_singleton.mp hfirst] at hrejects
      exact hres hrejects
    · exact (htrace.of_mem_emitted hrest).not_rejects hrejects
  obtain ⟨-, hbody⟩ | ⟨frame, -, hcases⟩ := drain_body_cases H hready
  · rw [hbody] at hmem
    rw [show emitted World.trace w (popped w) = [] from emitted_self _ w] at hmem
    cases hmem
  · obtain ⟨-, hbody⟩ | ⟨hres, -, -, hrotated⟩ | ⟨hres, -, -, hended⟩ := hcases
    · rw [hbody]
      have hwrote := write_popped_spec H frame w
      exact ⟨rfl, hwrote.recording.trans hrecording, hwrote.ready.trans hready⟩
    · exact (accepted hres hrotated.trace hmem).elim
    · exact (accepted hres hended.trace hmem).elim

theorem drain_rejects (fuel : Nat) (w : World ω) {action : Action}
    (hmem : action ∈ emitted World.trace w (DvrRecorder.drain H fuel w))
    (hrejects : action.rejects) :
    (DvrRecorder.drain H fuel w).self.recording_ = true ∧
      (DvrRecorder.drain H fuel w).self.writer_ready_ = true := by
  induction fuel generalizing w with
  | zero =>
    rw [show emitted World.trace w (DvrRecorder.drain H 0 w) = [] from emitted_self _ w] at hmem
    cases hmem
  | succ fuel ih =>
    by_cases hcond : w.self.drain_condition = true
    · rw [DvrRecorder.drain, if_pos hcond] at hmem ⊢
      dsimp only at hmem ⊢
      cases hbody : (DvrRecorder.drain_body H w).1 with
      | false =>
        rw [hbody, if_neg Bool.false_ne_true] at hmem
        rw [if_neg Bool.false_ne_true]
        exact (drain_body_rejects H hcond hmem hrejects).2
      | true =>
        rw [hbody, if_pos rfl] at hmem
        rw [if_pos rfl]
        have hready := ((drain_condition_iff _).mp hcond).2.1
        rw [emitted_trans (drain_body_trace H hready) (drain_trace H fuel _)] at hmem
        obtain hfirst | hrest := List.mem_append.mp hmem
        · have hexit := (drain_body_rejects H hcond hfirst hrejects).1
          rw [hbody] at hexit
          cases hexit
        · exact ih _ hrest
    · rw [drain_of_stopped H hcond, emitted_self] at hmem
      cases hmem

theorem process_command_rejects {w : World ω} {cmd : Command} {action : Action}
    (hmem : action ∈ emitted World.trace w (DvrRecorder.process_command H cmd w))
    (hrejects : action.rejects) :
    (DvrRecorder.process_command H cmd w).self.recording_ = true ∧
      (DvrRecorder.process_command H cmd w).self.writer_ready_ = true := by
  have h := process_command_cases H w cmd
  generalize DvrRecorder.process_command H cmd w = after at h hmem ⊢
  have quiet : ∀ {P : Action → Prop}, Emits World.trace P w after →
      (∀ entry, P entry → ¬ entry.rejects) → False := by
    intro P htrace hnot
    exact hnot action (htrace.of_mem_emitted hmem) hrejects
  cases h with
  | ignored _ =>
    rw [emitted_self] at hmem
    cases hmem
  | started _ _ =>
    exact (quiet (P := fun entry => entry = .log .warm_up_started) (Emits.of_append rfl rfl)
      (fun entry hentry => hentry ▸ not_false)).elim
  | stopped _ hstopped =>
    exact (quiet hstopped.trace (fun entry hentry =>
      Action.between_frames.not_rejects (Or.inl hentry))).elim
  | warming _ _ _ _ =>
    obtain hwaiting | hwarmed | hfailed := warm_up_cases H w
    · rw [emitted_eq_nil hwaiting.trace] at hmem
      cases hmem
    · exact (quiet hwarmed.trace (fun entry hentry =>
        Action.between_frames.not_rejects (Or.inl hentry))).elim
    · refine (quiet hfailed.trace fun entry hentry => ?_).elim
      obtain hentry | rfl := hentry
      · exact Action.between_frames.not_rejects (Or.inl hentry)
      · exact not_false
  | drained _ _ _ _ => exact drain_rejects H _ (pushed _ w) hmem hrejects

/-- A run ends its recording on every rejected write exactly when it meets
none: the drain loop leaves on such a write without closing anything. -/
theorem ends_on_rejection_iff (w : Worker ω) (cmds : List Command) :
    EndsOnRejection H w cmds ↔
      ∀ action ∈ actions w (DvrRecorder.worker_loop H w cmds), ¬ action.rejects := by
  constructor
  · intro hends action hmem hrejects
    obtain ⟨pre, cmd, post, hsplit, hround⟩ := (mem_actions_worker_loop H).mp hmem
    obtain ⟨earlier, later, hactions⟩ := List.append_of_mem hround
    obtain ⟨hclosed, -⟩ := hends pre cmd post hsplit earlier action later hactions hrejects
    rw [worker_loop_concat] at hround hclosed
    cases hexited : (DvrRecorder.worker_loop H w pre).exited with
    | true =>
      rw [worker_step_of_exited H hexited] at hround
      rw [actions_self] at hround
      cases hround
    | false =>
      rw [actions_worker_step H hexited] at hround
      have hopen := (process_command_rejects H hround hrejects).2
      rw [worker_step_of_running H hexited] at hclosed
      dsimp only at hclosed
      rw [hopen] at hclosed
      cases hclosed
  · intro hnone pre cmd post hsplit earlier action later hactions hrejects
    have hround : action ∈ actions (DvrRecorder.worker_loop H w pre)
        (DvrRecorder.worker_loop H w (pre ++ [cmd])) := by
      rw [hactions]
      exact List.mem_append_right _ List.mem_cons_self
    exact absurd hrejects (hnone action
      ((mem_actions_worker_loop H).mpr ⟨pre, cmd, post, hsplit, hround⟩))

end

/-- A muxer that runs out of memory at the first frame of a recording. -/
def out_of_memory : Script :=
  { clock := one_second, paths := [['r']], writes := [(-2, [])] }

/-- The recording goes on after the muxer has run out of memory. -/
theorem ends_on_rejection_counterexample :
    ¬ EndsOnRejection scripted (constructed out_of_memory)
      (warm_up_commands ++ [⟨.Frame, some key_frame⟩]) := by
  intro hends
  have hround := hends warm_up_commands ⟨.Frame, some key_frame⟩ [] rfl []
    (.write_nal key_frame 45000 (-2) []) [.log (.write_nal_returned (-2))] (by decide +kernel)
    (by decide)
  have hopen : (DvrRecorder.worker_loop scripted (constructed out_of_memory)
      (warm_up_commands ++ [⟨.Frame, some key_frame⟩])).self.writer_ready_ = true := by
    decide +kernel
  rw [hround.1] at hopen
  cases hopen

end amldigitalfpv.dvr_recorder
