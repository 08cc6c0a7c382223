import AMLDigitalFPV.Main.Threads

open Transition

namespace amldigitalfpv.process

/-- The frame callback is invoked only while `main` is in the block with the
variables it refers to, and no pipeline plays when `main` has returned. -/
def StaysStopped (start : Process) (events : List Event) : Prop :=
  (∀ before after, Takes step start events before .video_cb after → .leave_try ∈ before.main) ∧
    ∀ state, Reaches step start events state → state.main = [] → state.pipeline ≠ .playing

/-- The step of `stop_receiving` that ends what a step of a launch begins. -/
def Step.ended_by : Step → Option Step
  | .play_pipeline => some .drop_pipeline
  | .start_pull_samples => some .join_pull_samples
  | _ => none

/-- A step of the control thread begins only what `main` has still to end. -/
def LaunchesInTime (before : Process) (event : Event) : Prop :=
  match event, before.control with
  | .control _, some (next :: _) => ∀ last ∈ next.ended_by, last ∈ before.main
  | _, _ => True

instance (before : Process) (event : Event) : Decidable (LaunchesInTime before event) := by
  unfold LaunchesInTime
  split <;> infer_instance

/-- Wherever `main` stands, it has still to end what its next step begins, and
it leaves the block after it has joined the thread that pulls samples. -/
theorem main_steps_suffix {enable_audio : Bool} {steps : List Step}
    (h : steps <:+ main_steps enable_audio) :
    (∀ last ∈ steps.head?.bind Step.ended_by, last ∈ steps.tail) ∧
      (.join_pull_samples ∈ steps → .leave_try ∈ steps) := by
  have hall : ∀ enable_audio, ∀ steps ∈ (main_steps enable_audio).tails,
      (∀ last ∈ steps.head?.bind Step.ended_by, last ∈ steps.tail) ∧
        (.join_pull_samples ∈ steps → .leave_try ∈ steps) := by
    decide
  exact hall enable_audio steps ((List.mem_tails _ _).mpr h)

/-- What `main` has ended for good stays ended. -/
structure Stopped (enable_audio : Bool) (s : Process) : Prop where
  main : s.main <:+ main_steps enable_audio
  puller : .join_pull_samples ∉ s.main → s.puller = none
  pipeline : .drop_pipeline ∉ s.main → s.pipeline ≠ .playing

theorem Stopped.initial (enable_audio : Bool) : Stopped enable_audio (initial enable_audio) :=
  ⟨List.suffix_rfl, fun _ => rfl, fun _ => nofun⟩

section

variable {enable_audio ok : Bool} {s moved : Process} {next : Step}

theorem Stopped.main_step (hs : Stopped enable_audio s) {rest left : List Step}
    (hmain : s.main = next :: rest) (hmoved : Performed ok next s moved) (hleft : left <:+ rest)
    (hkept : ∀ other ∈ rest, other.launches = false → other ∈ left) :
    Stopped enable_audio { moved with main := left } := by
  have hsuffix := hs.main
  rw [hmain] at hsuffix
  obtain ⟨hended, -⟩ := main_steps_suffix hsuffix
  refine ⟨hleft.trans ((List.suffix_cons _ _).trans hsuffix), fun hjoined => ?_,
    fun hdropped hplaying => ?_⟩
  · have hrest : Step.join_pull_samples ∉ rest := fun hmem => hjoined (hkept _ hmem rfl)
    obtain hsame | rfl := hmoved.puller
    · apply hsame.trans
      by_cases hnext : next = .join_pull_samples
      · exact hmoved.joined hnext
      · apply hs.puller
        intro hmem
        rw [hmain] at hmem
        exact (List.mem_cons.mp hmem).elim (fun heq => hnext heq.symm) hrest
    · exact absurd (hended _ rfl) hrest
  · have hrest : Step.drop_pipeline ∉ rest := fun hmem => hdropped (hkept _ hmem rfl)
    obtain ⟨hbefore, hnext⟩ | rfl := hmoved.pipeline hplaying
    · refine hs.pipeline (fun hmem => ?_) hbefore
      rw [hmain] at hmem
      exact (List.mem_cons.mp hmem).elim (fun heq => hnext heq.symm) hrest
    · exact absurd (hended _ rfl) hrest

theorem Stopped.control_step (hs : Stopped enable_audio s) (left : List Step)
    (hmoved : Performed ok next s moved) (hintime : ∀ last ∈ next.ended_by, last ∈ s.main) :
    Stopped enable_audio { moved with control := some left } := by
  refine ⟨hmoved.main ▸ hs.main, fun hjoined => ?_, fun hdropped hplaying => ?_⟩
  · have hmain : Step.join_pull_samples ∉ s.main := hmoved.main ▸ hjoined
    obtain hsame | rfl := hmoved.puller
    · exact hsame.trans (hs.puller hmain)
    · exact absurd (hintime _ rfl) hmain
  · have hmain : Step.drop_pipeline ∉ s.main := hmoved.main ▸ hdropped
    obtain ⟨hbefore, -⟩ | rfl := hmoved.pipeline hplaying
    · exact hs.pipeline hmain hbefore
    · exact absurd (hintime _ rfl) hmain

theorem Stopped.sideways {after : Process} {event : Event} (hs : Stopped enable_audio s)
    (hafter : Sideways event s after) : Stopped enable_audio after := by
  refine ⟨hafter.main ▸ hs.main, fun hjoined => ?_, fun hdropped => ?_⟩
  · exact hafter.puller (hs.puller (hafter.main ▸ hjoined))
  · rw [hafter.pipeline]
    exact hs.pipeline (hafter.main ▸ hdropped)

theorem Stopped.step {after : Process} {event : Event} (hs : Stopped enable_audio s)
    (hstep : step s event = some after) (hintime : LaunchesInTime s event) :
    Stopped enable_audio after := by
  obtain ⟨ok, next, rest, left, moved, -, hmain, hmoved, hleft, hkept, rfl⟩ |
    ⟨ok, next, rest, left, moved, rfl, hcontrol, hmoved, -, rfl⟩ | hafter := step_spec hstep
  · exact hs.main_step hmain hmoved hleft hkept
  · unfold LaunchesInTime at hintime
    rw [hcontrol] at hintime
    exact hs.control_step left hmoved hintime
  · exact hs.sideways hafter

end

/-- A receiver that the control thread launches only in time stays stopped. -/
theorem stays_stopped (enable_audio : Bool) (events : List Event)
    (hintime : ∀ before event after, Takes step (initial enable_audio) events before event after →
      LaunchesInTime before event) : StaysStopped (initial enable_audio) events := by
  have hstopped {state} (h : Reaches step (initial enable_audio) events state) :
      Stopped enable_audio state :=
    h.invariant (Stopped.initial enable_audio) fun before event after htakes hbefore =>
      hbefore.step htakes.step_eq (hintime before event after htakes)
  refine ⟨fun before after htakes => ?_, fun state hreaches hreturned => ?_⟩
  · have hs := hstopped htakes.reaches
    refine (main_steps_suffix hs.main).2 (by_contra fun hjoined => ?_)
    have hpulled := (Option.ite_none_right_eq_some.mp htakes.step_eq).1
    rw [hs.puller hjoined] at hpulled
    cases hpulled
  · apply (hstopped hreaches).pipeline
    rw [hreturned]
    exact List.not_mem_nil

/-- `main` up to its wait for the signal, without audio. -/
def started : List Event := List.replicate 13 (.main true)

/-- A command that turns the sound on, all handled before the signal. -/
def sound_then_signal : List Event :=
  started ++ [Event.decoder_loop, .receive_command (.sound true)] ++
    List.replicate 2 (Event.control true) ++ [Event.puller_loop false] ++
    List.replicate 13 (Event.control true) ++
    [Event.puller_loop true, .video_cb, .decoder_dequeue (some 0), .decoder_submit,
      .decoder_loop] ++
    [Event.main true, .puller_loop false, .reader_loop .none] ++
    List.replicate 6 (Event.main true) ++
    [Event.decoder_dequeue none, .decoder_submit, .decoder_loop, .decoder_loop] ++
    List.replicate 2 (Event.main true) ++ [Event.finish_control] ++
    List.replicate 4 (Event.main true)

theorem stays_stopped_sound_then_signal :
    (exec step (initial false) sound_then_signal).map (fun s => (s.main, s.submitted)) =
        some ([], [0]) ∧
      StaysStopped (initial false) sound_then_signal :=
  ⟨by decide +kernel,
    stays_stopped false sound_then_signal fun _ _ _ htakes =>
      (by decide +kernel :
        ∀ p ∈ taken step (initial false) sound_then_signal, LaunchesInTime p.1 p.2)
        _ htakes.mem_taken⟩

/-- The same command, received before the signal and handled after the stop, up
to a sample for the callback. -/
def signal_then_sound : List Event :=
  started ++ [Event.receive_command (.sound true), .main true, .puller_loop false] ++
    List.replicate 4 (Event.main true) ++ List.replicate 15 (Event.control true) ++
    [Event.puller_loop true]

theorem stays_stopped_counterexample :
    ¬ StaysStopped (initial false) (signal_then_sound ++ [.video_cb]) := by
  rintro ⟨hcallback, -⟩
  have hrun : (exec step (initial false) signal_then_sound).any fun before =>
      (step before .video_cb).isSome ∧ .leave_try ∉ before.main := by
    decide +kernel
  obtain ⟨before, hbefore, hpulled⟩ := Option.any_eq_true _ _ |>.mp hrun
  obtain ⟨hsome, hleft⟩ := of_decide_eq_true hpulled
  obtain ⟨after, hafter⟩ := Option.isSome_iff_exists.mp hsome
  exact hleft (hcallback before after ⟨_, [], rfl, hbefore, hafter⟩)

end amldigitalfpv.process
