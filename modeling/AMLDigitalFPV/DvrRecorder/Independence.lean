import AMLDigitalFPV.DvrRecorder.Lockstep
import AMLDigitalFPV.DvrRecorder.Sessions

open Runs amldigitalfpv.frame_ring_buffer

namespace amldigitalfpv.dvr_recorder

/-- A worker that goes on from the members `recorder`, in surroundings that
will answer as in `script`. -/
def resume (recorder : DvrRecorder) (script : Script) : Worker Script :=
  { self := recorder, host := script }

/-- Whatever comes next, the two recorders look the same from outside. -/
def Independent (first second : DvrRecorder) : Prop :=
  ∀ script cmds,
    observations (DvrRecorder.worker_loop scripted (resume first script) cmds).trace =
        observations (DvrRecorder.worker_loop scripted (resume second script) cmds).trace ∧
      (DvrRecorder.worker_loop scripted (resume first script) cmds).self.recording_ =
        (DvrRecorder.worker_loop scripted (resume second script) cmds).self.recording_

/-- The members that a processed `Stop` has reset. -/
structure Rested (recorder : DvrRecorder) : Prop where
  ring_wellFormed : recorder.ring_buffer_.WellFormed
  ring_capacity : recorder.ring_buffer_.capacity_ = 120
  ring_contents : recorder.ring_buffer_.contents = []
  warmup : recorder = recorder.reset_warmup_state
  recording : recorder.recording_ = false
  ready : recorder.writer_ready_ = false

theorem Rested.same {first second : DvrRecorder} (hfirst : Rested first) (hsecond : Rested second)
    (hvalid : first.valid_params ↔ second.valid_params)
    (hcarried : first.valid_params →
      first.stop_requested_ = second.stop_requested_ ∧ first.writer_ = second.writer_) :
    Same first second := by
  refine ⟨hfirst.ring_contents.trans hsecond.ring_contents.symm,
    hfirst.ring_capacity.trans hsecond.ring_capacity.symm, hfirst.ring_wellFormed,
    hsecond.ring_wellFormed, ?_, ?_, ?_, hfirst.recording.trans hsecond.recording.symm,
    hfirst.ready.trans hsecond.ready.symm, hvalid, fun hopen => ?_, hcarried⟩
  · rw [hfirst.warmup, hsecond.warmup]
    rfl
  · rw [hfirst.warmup, hsecond.warmup]
    rfl
  · rw [hfirst.warmup, hsecond.warmup]
    rfl
  · rw [hfirst.ready] at hopen
    cases hopen

theorem Rested.independent {first second : DvrRecorder} (hfirst : Rested first)
    (hsame : Same first second) : Independent first second := by
  intro script cmds
  have hpaired : Paired False (resume first script).toWorld (resume second script).toWorld :=
    Paired.of_closed ⟨hsame, rfl, rfl⟩ hfirst.ready False.elim
  have hloop := hpaired.worker_loop rfl cmds
  exact ⟨hloop.observed, hloop.recording⟩

/-- A representative of all recorders with the given leftovers. -/
def leftover (stop_requested writer : Bool) : DvrRecorder :=
  { video_width_ := 1, video_height_ := 1, stop_requested_ := stop_requested, writer_ := writer }

theorem rested_leftover (stop_requested writer : Bool) : Rested (leftover stop_requested writer) :=
  ⟨FrameRingBuffer.new_wellFormed (by decide), rfl, rfl, rfl, rfl, rfl⟩

theorem Rested.independent_leftover {recorder : DvrRecorder} (h : Rested recorder)
    (hvalid : recorder.valid_params) :
    Independent recorder (leftover recorder.stop_requested_ recorder.writer_) := by
  refine h.independent (h.same (rested_leftover _ _) ⟨fun _ => ?_, fun _ => hvalid⟩ fun _ =>
    ⟨rfl, rfl⟩)
  simp [DvrRecorder.valid_params, leftover]

theorem Independent.symm {first second : DvrRecorder} (h : Independent first second) :
    Independent second first :=
  fun script cmds => ⟨(h script cmds).1.symm, (h script cmds).2.symm⟩

theorem Independent.trans {first second third : DvrRecorder} (h : Independent first second)
    (h' : Independent second third) : Independent first third :=
  fun script cmds =>
    ⟨(h script cmds).1.trans (h' script cmds).1, (h script cmds).2.trans (h' script cmds).2⟩

/-- Two frames after the warm-up show whether a stop was pending. -/
theorem recording_leftover_stop (stop_requested writer : Bool) :
    (DvrRecorder.worker_loop scripted
      (resume (leftover stop_requested writer) { clock := one_second, paths := [['r']] })
      (warm_up_commands ++ [⟨.Frame, some key_frame⟩, ⟨.Frame, some key_frame⟩])).self.recording_ =
      !stop_requested := by
  revert stop_requested writer
  decide +kernel

/-- An allocation that fails shows whether there already was a writer. -/
theorem recording_leftover_writer (stop_requested writer : Bool) :
    (DvrRecorder.worker_loop scripted
      (resume (leftover stop_requested writer)
        { clock := one_second, paths := [['r']], mallocs := [false] })
      warm_up_commands).self.recording_ = writer := by
  revert stop_requested writer
  decide +kernel

theorem leftover_injective {stop_requested stop_requested' writer writer' : Bool}
    (h : Independent (leftover stop_requested writer) (leftover stop_requested' writer')) :
    stop_requested = stop_requested' ∧ writer = writer' := by
  have hstop := (h { clock := one_second, paths := [['r']] }
    (warm_up_commands ++ [⟨.Frame, some key_frame⟩, ⟨.Frame, some key_frame⟩])).2
  have hwriter := (h { clock := one_second, paths := [['r']], mallocs := [false] }
    warm_up_commands).2
  rw [recording_leftover_stop, recording_leftover_stop] at hstop
  rw [recording_leftover_writer, recording_leftover_writer] at hwriter
  exact ⟨Bool.not_inj hstop, hwriter⟩

/-- What two recorders that have processed a `Stop` must agree on for their
later sessions to be the same. -/
theorem Rested.independent_iff {first second : DvrRecorder} (hfirst : Rested first)
    (hsecond : Rested second) (hwidth : first.video_width_ = second.video_width_)
    (hheight : first.video_height_ = second.video_height_) :
    Independent first second ↔
      (first.video_width_ = 0 ∨ first.video_height_ = 0) ∨
        (first.stop_requested_ = second.stop_requested_ ∧ first.writer_ = second.writer_) := by
  have hvalid : first.valid_params ↔ second.valid_params := by
    unfold DvrRecorder.valid_params
    rw [hwidth, hheight]
  constructor
  · intro hindependent
    by_cases hparams : first.valid_params
    · right
      exact leftover_injective (((hfirst.independent_leftover hparams).symm.trans
        hindependent).trans (hsecond.independent_leftover (hvalid.mp hparams)))
    · exact Or.inl (not_not.mp hparams)
  · intro hagree
    refine hfirst.independent (hfirst.same hsecond hvalid fun hparams => ?_)
    exact hagree.resolve_left hparams

section

variable {ω : Type} (H : Host ω)

theorem worker_loop_running {w : Worker ω} (hexited : w.exited = false) {cmds : List Command}
    (hcmds : ∀ cmd ∈ cmds, cmd.type ≠ .Shutdown) :
    (DvrRecorder.worker_loop H w cmds).exited = false := by
  apply Runs.invariant_of_steps (P := fun w : Worker ω => w.exited = false) hexited _ cmds
    (List.prefix_refl _)
  intro pre cmd post hsplit hpre
  rw [worker_step_of_running H hpre]
  have hmem : cmd ∈ cmds := by
    rw [hsplit]
    exact List.mem_append_right _ List.mem_cons_self
  exact decide_eq_false (hcmds cmd hmem)

/-- Every history that ends with a processed `Stop` ends in a rested recorder. -/
theorem rested_of_stop {start : Worker ω} (hstart : Initial start.self)
    (hrunning : start.exited = false) {history : List Command}
    (hhistory : ∀ cmd ∈ history, cmd.type ≠ .Shutdown) {stop : Command}
    (hstop : stop.type = .Stop) :
    Rested (DvrRecorder.worker_loop H start (history ++ [stop])).self := by
  have hcons := hstart.consistent.worker_loop H (history ++ [stop])
  have hexited := worker_loop_running H hrunning hhistory
  rw [worker_loop_concat, worker_step_of_running H hexited] at hcons ⊢
  dsimp only at hcons ⊢
  have hreaction := process_command_cases H (DvrRecorder.worker_loop H start history).toWorld stop
  generalize DvrRecorder.process_command H stop _ = after at hreaction hcons ⊢
  cases hreaction with
  | stopped _ hstopped =>
    refine ⟨hcons.ring_wellFormed, hcons.ring_capacity, ?_, hstopped.warmup, hstopped.recording,
      hstopped.ready⟩
    rw [hstopped.ring_buffer]
    rfl
  | ignored hreason =>
    rw [hstop] at hreason
    simp at hreason
  | started htype _ =>
    rw [hstop] at htype
    cases htype
  | warming htype _ _ _ =>
    rw [hstop] at htype
    cases htype
  | drained htype _ _ _ =>
    rw [hstop] at htype
    cases htype

end

/-- Two histories of any recorders in any surroundings that both end with a
`Stop` have the same future exactly when they have left the same pending stop
and the same writer behind, or when no size has been set and so no file can be
opened. -/
theorem sessions_independent_iff {ω₁ ω₂ : Type} (H₁ : Host ω₁) (H₂ : Host ω₂)
    {start₁ : Worker ω₁} {start₂ : Worker ω₂} (hstart₁ : Initial start₁.self)
    (hstart₂ : Initial start₂.self) (hrunning₁ : start₁.exited = false)
    (hrunning₂ : start₂.exited = false) {history₁ history₂ : List Command}
    (hhistory₁ : ∀ cmd ∈ history₁, cmd.type ≠ .Shutdown)
    (hhistory₂ : ∀ cmd ∈ history₂, cmd.type ≠ .Shutdown) (stop₁ stop₂ : Command)
    (hstop₁ : stop₁.type = .Stop) (hstop₂ : stop₂.type = .Stop)
    {end₁ end₂ : DvrRecorder}
    (hend₁ : end₁ = (DvrRecorder.worker_loop H₁ start₁ (history₁ ++ [stop₁])).self)
    (hend₂ : end₂ = (DvrRecorder.worker_loop H₂ start₂ (history₂ ++ [stop₂])).self)
    (hwidth : end₁.video_width_ = end₂.video_width_)
    (hheight : end₁.video_height_ = end₂.video_height_) :
    Independent end₁ end₂ ↔
      (end₁.video_width_ = 0 ∨ end₁.video_height_ = 0) ∨
        (end₁.stop_requested_ = end₂.stop_requested_ ∧ end₁.writer_ = end₂.writer_) := by
  subst hend₁ hend₂
  exact (rested_of_stop H₁ hstart₁ hrunning₁ hhistory₁ hstop₁).independent_iff
    (rested_of_stop H₂ hstart₂ hrunning₂ hhistory₂ hstop₂) hwidth hheight

/-- A recording of one frame and no recording at all leave the same behind. -/
theorem sessions_independent_iff_recording :
    Independent
      (DvrRecorder.worker_loop scripted (constructed { clock := one_second, paths := [['r']] })
        (warm_up_commands ++ [⟨.Frame, some key_frame⟩] ++ [⟨.Stop, none⟩])).self
      (DvrRecorder.worker_loop scripted (constructed {}) ([] ++ [⟨.Stop, none⟩])).self :=
  (sessions_independent_iff scripted scripted (constructed_initial _) (constructed_initial _) rfl
    rfl (by decide) (by decide) ⟨.Stop, none⟩ ⟨.Stop, none⟩ rfl rfl rfl rfl
    (by decide +kernel) (by decide +kernel)).mpr (Or.inr (by decide +kernel))

/-- A recording that ran out of memory and no recording at all do not. -/
theorem sessions_independent_counterexample :
    ¬ Independent
      (DvrRecorder.worker_loop scripted (constructed out_of_memory)
        (warm_up_commands ++ [⟨.Frame, some key_frame⟩] ++ [⟨.Stop, none⟩])).self
      (DvrRecorder.worker_loop scripted (constructed {}) ([] ++ [⟨.Stop, none⟩])).self := by
  intro hindependent
  have hrecording := (hindependent { clock := one_second, paths := [['r']] }
    (warm_up_commands ++ [⟨.Frame, some key_frame⟩, ⟨.Frame, some key_frame⟩])).2
  revert hrecording
  decide +kernel

end amldigitalfpv.dvr_recorder
