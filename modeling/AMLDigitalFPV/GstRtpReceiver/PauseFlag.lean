import AMLDigitalFPV.GstRtpReceiver.ReceiverSpec

open Transition

namespace amldigitalfpv.gst_rtp_receiver

/-- The target of the last state change that the current pipeline, if any, has
accepted. -/
def GstRtpReceiver.state (self : GstRtpReceiver) : Option GstState :=
  self.m_gst_pipeline.bind Pipeline.state

/-- The flag says whether there is a pipeline that was last set to `PAUSED`. -/
def TellsTruth (self : GstRtpReceiver) : Prop :=
  self.m_is_paused = true ↔ self.state = some .PAUSED

/-- The flag tells the truth throughout, so that no call of `pause` on a playing
pipeline and no call of `resume` on a paused one is ignored. -/
structure PauseFlagTrue (first : World) (calls : List Call) : Prop where
  flag : ∀ w, Reaches step first calls w → TellsTruth w.self
  pause : ∀ before after get_state, Takes step first calls before (.pause true get_state) after →
    before.self.state = some .PLAYING → after.self.state = some .PAUSED
  resume : ∀ before after accepted, Takes step first calls before (.resume true accepted) after →
    before.self.state = some .PAUSED → after.self.state = some .PLAYING

/-- The call does not drop a pipeline that the flag says is paused, nor a state
change to `PAUSED` that was accepted and not completed. -/
def FollowsPipeline (before : World) : Call → Prop
  | .stop_receiving | .switch_to_file_playback _ | .switch_to_stream _ =>
    before.self.m_is_paused = false
  | .pause true false => before.self.m_gst_pipeline = none ∨ before.self.m_is_paused = true
  | _ => True

section

variable {w : World} {self : GstRtpReceiver}

theorem Relaunched.tellsTruth_iff {kept : Bool} (h : Relaunched kept w.self self) :
    TellsTruth self ↔ w.self.m_is_paused = false := by
  have hstate : self.state ≠ some .PAUSED := by
    intro hpaused
    obtain ⟨pipeline, hpipeline, hstate⟩ := Option.bind_eq_some_iff.mp hpaused
    exact (h.fresh pipeline hpipeline).1 hstate
  simp [TellsTruth, hstate, h.is_paused]

theorem set_playback_rate_tellsTruth (hs : TellsTruth self) (rate : ℚ) (accepted : Bool) :
    TellsTruth (self.set_playback_rate rate accepted) := by
  cases hpipeline : self.m_gst_pipeline with
  | none => rwa [(GstRtpReceiver.playback_of_no_pipeline hpipeline).1]
  | some pipeline =>
    rw [GstRtpReceiver.set_playback_rate_of_pipeline hpipeline]
    split
    · simpa [TellsTruth, GstRtpReceiver.state, hpipeline] using hs
    · exact hs

theorem pause_tellsTruth_iff (hs : TellsTruth self) (set_state get_state : Bool) :
    TellsTruth (self.pause set_state get_state) ↔
      (set_state = true → get_state = false →
        self.m_gst_pipeline = none ∨ self.m_is_paused = true) := by
  cases hpipeline : self.m_gst_pipeline with
  | none =>
    rw [(GstRtpReceiver.playback_of_no_pipeline hpipeline).2.1]
    simp [hs]
  | some pipeline =>
    rw [GstRtpReceiver.pause_of_pipeline hpipeline]
    cases hpaused : self.m_is_paused with
    | true => simp [hs]
    | false =>
      have hstate : pipeline.state ≠ some .PAUSED := by
        simpa [TellsTruth, GstRtpReceiver.state, hpipeline, hpaused] using hs
      cases set_state with
      | false => simp [TellsTruth, GstRtpReceiver.state, hpipeline, hstate]
      | true => simp [TellsTruth, GstRtpReceiver.state]

theorem resume_tellsTruth (hs : TellsTruth self) (set_state accepted : Bool) :
    TellsTruth (self.resume set_state accepted) := by
  cases hpipeline : self.m_gst_pipeline with
  | none => rwa [(GstRtpReceiver.playback_of_no_pipeline hpipeline).2.2.1]
  | some pipeline =>
    rw [GstRtpReceiver.resume_of_pipeline hpipeline]
    split
    · split <;> simp [TellsTruth, GstRtpReceiver.state]
    · exact hs

theorem skip_duration_tellsTruth (hs : TellsTruth self) (skip_ms : Int) (position : Option Int)
    (accepted : Bool) : TellsTruth (self.skip_duration skip_ms position accepted) := by
  cases hpipeline : self.m_gst_pipeline with
  | none => rwa [(GstRtpReceiver.playback_of_no_pipeline hpipeline).2.2.2]
  | some pipeline =>
    obtain ⟨start, hskip⟩ := GstRtpReceiver.skip_duration_of_pipeline hpipeline skip_ms position
      accepted
    rw [hskip]
    split
    · simpa [TellsTruth, GstRtpReceiver.state, hpipeline] using hs
    · exact hs

/-- A call leaves the flag true exactly when it follows the pipeline. -/
theorem call_tellsTruth_iff (hs : TellsTruth w.self) (next : Call) :
    TellsTruth (call w next).self ↔ FollowsPipeline w next := by
  cases next with
  | start_receiving launch =>
    refine iff_of_true ?_ trivial
    by_cases hpipeline : w.self.m_gst_pipeline = none
    · apply (GstRtpReceiver.start_receiving_spec launch hpipeline).tellsTruth_iff.mpr
      simpa [TellsTruth, GstRtpReceiver.state, hpipeline] using hs
    · simpa [call, GstRtpReceiver.start_receiving, hpipeline] using hs
  | stop_receiving => exact GstRtpReceiver.stop_receiving_spec.tellsTruth_iff
  | switch_to_file_playback launch =>
    exact (GstRtpReceiver.switch_to_file_playback_spec launch).tellsTruth_iff
  | switch_to_stream launch => exact (GstRtpReceiver.switch_to_stream_spec launch).tellsTruth_iff
  | set_udp_appsrc enable => exact iff_of_true hs trivial
  | fast_forward rate accepted =>
    exact iff_of_true (set_playback_rate_tellsTruth hs _ _) trivial
  | fast_rewind rate accepted => exact iff_of_true (set_playback_rate_tellsTruth hs _ _) trivial
  | normal_playback accepted => exact iff_of_true (set_playback_rate_tellsTruth hs _ _) trivial
  | pause set_state get_state =>
    apply (pause_tellsTruth_iff hs set_state get_state).trans
    cases set_state <;> cases get_state <;> simp [FollowsPipeline]
  | resume set_state accepted => exact iff_of_true (resume_tellsTruth hs _ _) trivial
  | skip_duration skip_ms position accepted =>
    exact iff_of_true (skip_duration_tellsTruth hs _ _ _) trivial

/-- A pipeline that is last said to be in a state other than `PAUSED` hears a
call of `pause`. -/
theorem pause_heard (hs : TellsTruth self) (hplaying : self.state = some .PLAYING)
    (get_state : Bool) : (self.pause true get_state).state = some .PAUSED := by
  obtain ⟨pipeline, hpipeline, hstate⟩ := Option.bind_eq_some_iff.mp hplaying
  have hpaused : self.m_is_paused = false := by
    simpa [TellsTruth, hplaying] using hs
  simp [GstRtpReceiver.pause_of_pipeline hpipeline, hpaused, GstRtpReceiver.state]

theorem resume_heard (hs : TellsTruth self) (hpaused : self.state = some .PAUSED)
    (accepted : Bool) : (self.resume true accepted).state = some .PLAYING := by
  obtain ⟨pipeline, hpipeline, hstate⟩ := Option.bind_eq_some_iff.mp hpaused
  rw [GstRtpReceiver.resume_of_pipeline hpipeline, hs.mpr hpaused]
  simp only [Bool.and_self, if_true]
  split <;> simp [GstRtpReceiver.state]

end

/-- The pause flag tells the truth throughout a run exactly when every call
follows the pipeline. -/
theorem pause_flag_true_iff (unix_socket : Option Handle) (calls : List Call) :
    PauseFlagTrue (constructed unix_socket) calls ↔
      ∀ before next after, Takes step (constructed unix_socket) calls before next after →
        FollowsPipeline before next := by
  have hstart : TellsTruth (constructed unix_socket).self :=
    iff_of_false Bool.false_ne_true (by simp [GstRtpReceiver.state, constructed])
  have hcall : ∀ {before next after}, step before next = some after → TellsTruth before.self →
      (TellsTruth after.self ↔ FollowsPipeline before next) := by
    intro before next after hstep hs
    rw [step_eq hstep]
    exact call_tellsTruth_iff hs next
  have hflag : (∀ w, Reaches step (constructed unix_socket) calls w → TellsTruth w.self) ↔
      ∀ before next after, Takes step (constructed unix_socket) calls before next after →
        FollowsPipeline before next :=
    reaches_iff_of_steps (P := fun w => TellsTruth w.self) hstart hstart
      (fun hstep hs => (hcall hstep hs).mpr) hcall
  constructor
  · exact fun htrue => hflag.mp htrue.flag
  · intro hfollows
    have htruth := hflag.mpr hfollows
    refine ⟨htruth, ?_, ?_⟩
    · intro before after get_state htakes hplaying
      rw [step_eq htakes.step_eq]
      exact pause_heard (htruth before htakes.reaches) hplaying get_state
    · intro before after accepted htakes hpaused
      rw [step_eq htakes.step_eq]
      exact resume_heard (htruth before htakes.reaches) hpaused accepted

/-- A receiver that is stopped while it is paused says so ever after. -/
theorem pause_flag_true_counterexample :
    ¬ PauseFlagTrue (constructed none)
      [.start_receiving {}, .pause true true, .stop_receiving, .start_receiving {},
        .pause true true] := by
  intro htrue
  have hrun : (exec step (constructed none)
      [.start_receiving {}, .pause true true, .stop_receiving]).any fun state =>
        state.self.m_is_paused ∧ state.self.m_gst_pipeline = none := by
    decide
  obtain ⟨state, hstate, hpaused⟩ := Option.any_eq_true _ _ |>.mp hrun
  obtain ⟨hflag, hpipeline⟩ := of_decide_eq_true hpaused
  have htruth := (htrue.flag state ⟨_, ⟨_, rfl⟩, hstate⟩).mp hflag
  simp [GstRtpReceiver.state, hpipeline] at htruth

end amldigitalfpv.gst_rtp_receiver
