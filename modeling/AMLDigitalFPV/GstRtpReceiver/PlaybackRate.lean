import AMLDigitalFPV.GstRtpReceiver.ReceiverSpec

open Transition

namespace amldigitalfpv.gst_rtp_receiver

/-- The rate of the current pipeline, if any. -/
def GstRtpReceiver.rate (self : GstRtpReceiver) : Option ℚ := self.m_gst_pipeline.map Pipeline.rate

/-- The remembered rate is that of the current pipeline. -/
def RateTrue (self : GstRtpReceiver) : Prop := ∀ rate ∈ self.rate, self.m_playback_rate = rate

/-- The remembered rate follows the pipeline's throughout, and `resume` leaves the
pipeline at its rate. -/
structure RateFollows (first : World) (calls : List Call) : Prop where
  rate : ∀ w, Reaches step first calls w → RateTrue w.self
  resume : ∀ before after set_state accepted,
    Takes step first calls before (.resume set_state accepted) after →
      after.self.rate = before.self.rate

/-- The call launches a pipeline, or skips in one, only at the normal rate, and
restores no rate but the one in force. -/
def KeepsRate (before : World) : Call → Prop
  | .start_receiving launch =>
    before.self.m_gst_pipeline = none → launch.keeps = true → before.self.m_playback_rate = 1
  | .switch_to_file_playback launch | .switch_to_stream launch =>
    launch.keeps = true → before.self.m_playback_rate = 1
  | .skip_duration skip_ms position accepted =>
    before.self.m_gst_pipeline ≠ none → skip_ms ≠ 0 ∧ position ≠ none ∧ accepted = true →
      before.self.m_playback_rate = 1
  | .resume set_state accepted =>
    before.self.m_gst_pipeline ≠ none → before.self.m_is_paused = true → set_state = true →
      before.self.m_pre_pause_rate ≠ 1 ∧ accepted = true →
        before.self.m_pre_pause_rate = before.self.m_playback_rate
  | _ => True

@[simp]
theorem Pipeline.rate_concat (handle : Handle) (state : Option GstState) (seeks : List Seek)
    (seek : Seek) : Pipeline.rate ⟨handle, state, seeks ++ [seek]⟩ = seek.rate := by
  simp [Pipeline.rate]

section

variable {w : World} {self : GstRtpReceiver}

theorem rateTrue_of_pipeline {pipeline : Pipeline}
    (hpipeline : self.m_gst_pipeline = some pipeline) :
    RateTrue self ↔ self.m_playback_rate = pipeline.rate := by
  simp [RateTrue, GstRtpReceiver.rate, hpipeline]

theorem Relaunched.rateTrue_iff {kept : Bool} (h : Relaunched kept w.self self) :
    RateTrue self ↔ (kept = true → w.self.m_playback_rate = 1) := by
  have hkept := h.isSome
  cases hpipeline : self.m_gst_pipeline with
  | none =>
    rw [hpipeline] at hkept
    simp [RateTrue, GstRtpReceiver.rate, hpipeline, ← hkept]
  | some pipeline =>
    rw [hpipeline] at hkept
    have hseeks := (h.fresh pipeline hpipeline).2
    simp [rateTrue_of_pipeline hpipeline, ← hkept, h.playback_rate, Pipeline.rate, hseeks]

theorem set_playback_rate_rateTrue (hs : RateTrue self) (rate : ℚ) (accepted : Bool) :
    RateTrue (self.set_playback_rate rate accepted) := by
  cases hpipeline : self.m_gst_pipeline with
  | none => rwa [(GstRtpReceiver.playback_of_no_pipeline hpipeline).1]
  | some pipeline =>
    rw [GstRtpReceiver.set_playback_rate_of_pipeline hpipeline]
    split
    · simp [RateTrue, GstRtpReceiver.rate]
    · exact hs

theorem pause_rateTrue (hs : RateTrue self) (set_state get_state : Bool) :
    RateTrue (self.pause set_state get_state) := by
  cases hpipeline : self.m_gst_pipeline with
  | none => rwa [(GstRtpReceiver.playback_of_no_pipeline hpipeline).2.1]
  | some pipeline =>
    rw [rateTrue_of_pipeline hpipeline] at hs
    rw [GstRtpReceiver.pause_of_pipeline hpipeline]
    split
    · exact (rateTrue_of_pipeline hpipeline).mpr hs
    · split
      · rintro _ ⟨⟩
        exact hs
      · exact (rateTrue_of_pipeline hpipeline).mpr hs

/-- A call of `resume` remembers the rate it has set. -/
theorem resume_rateTrue (hs : RateTrue self) (set_state accepted : Bool) :
    RateTrue (self.resume set_state accepted) := by
  cases hpipeline : self.m_gst_pipeline with
  | none => rwa [(GstRtpReceiver.playback_of_no_pipeline hpipeline).2.2.1]
  | some pipeline =>
    have hrate := (rateTrue_of_pipeline hpipeline).mp hs
    rw [GstRtpReceiver.resume_of_pipeline hpipeline]
    split
    · split
      · simp [RateTrue, GstRtpReceiver.rate]
      · rintro _ ⟨⟩
        exact hrate
    · exact hs

theorem resume_rate_iff (hs : RateTrue self) (set_state accepted : Bool) :
    (self.resume set_state accepted).rate = self.rate ↔
      (self.m_gst_pipeline ≠ none → self.m_is_paused = true → set_state = true →
        self.m_pre_pause_rate ≠ 1 ∧ accepted = true →
          self.m_pre_pause_rate = self.m_playback_rate) := by
  cases hpipeline : self.m_gst_pipeline with
  | none =>
    rw [(GstRtpReceiver.playback_of_no_pipeline hpipeline).2.2.1]
    simp
  | some pipeline =>
    have hrate := (rateTrue_of_pipeline hpipeline).mp hs
    rw [GstRtpReceiver.resume_of_pipeline hpipeline]
    cases hpaused : self.m_is_paused with
    | false => simp
    | true =>
      cases set_state with
      | false => simp
      | true =>
        by_cases hrestores : self.m_pre_pause_rate ≠ 1 ∧ accepted = true
        · simp [hrestores, GstRtpReceiver.rate, hpipeline, hrate]
        · have hsame : Pipeline.rate { pipeline with state := some .PLAYING } = pipeline.rate := rfl
          simp [hrestores, GstRtpReceiver.rate, hpipeline, hsame]

theorem skip_duration_rateTrue_iff (hs : RateTrue self) (skip_ms : Int) (position : Option Int)
    (accepted : Bool) :
    RateTrue (self.skip_duration skip_ms position accepted) ↔
      (self.m_gst_pipeline ≠ none → skip_ms ≠ 0 ∧ position ≠ none ∧ accepted = true →
        self.m_playback_rate = 1) := by
  cases hpipeline : self.m_gst_pipeline with
  | none =>
    rw [(GstRtpReceiver.playback_of_no_pipeline hpipeline).2.2.2]
    simp [hs]
  | some pipeline =>
    obtain ⟨start, hskip⟩ := GstRtpReceiver.skip_duration_of_pipeline hpipeline skip_ms position
      accepted
    rw [hskip]
    by_cases hskips : skip_ms ≠ 0 ∧ position ≠ none ∧ accepted = true
    · rw [if_pos hskips, rateTrue_of_pipeline rfl]
      simp [hskips]
    · simp [hskips, hs]

/-- A call leaves the remembered rate true, and a call of `resume` the pipeline's
rate alone, exactly when it keeps the rate. -/
theorem call_rate_iff (hs : RateTrue w.self) (next : Call) :
    (RateTrue (call w next).self ∧ ∀ set_state accepted, next = .resume set_state accepted →
      (call w next).self.rate = w.self.rate) ↔ KeepsRate w next := by
  cases next with
  | start_receiving launch =>
    refine (and_iff_left fun _ _ => nofun).trans ?_
    by_cases hpipeline : w.self.m_gst_pipeline = none
    · rw [KeepsRate, imp_iff_right hpipeline]
      exact (GstRtpReceiver.start_receiving_spec launch hpipeline).rateTrue_iff
    · simpa [call, GstRtpReceiver.start_receiving, KeepsRate, hpipeline] using hs
  | stop_receiving =>
    refine (and_iff_left fun _ _ => nofun).trans (iff_of_true ?_ trivial)
    exact GstRtpReceiver.stop_receiving_spec.rateTrue_iff.mpr nofun
  | switch_to_file_playback launch =>
    refine (and_iff_left fun _ _ => nofun).trans ?_
    exact (GstRtpReceiver.switch_to_file_playback_spec launch).rateTrue_iff
  | switch_to_stream launch =>
    refine (and_iff_left fun _ _ => nofun).trans ?_
    exact (GstRtpReceiver.switch_to_stream_spec launch).rateTrue_iff
  | set_udp_appsrc enable => exact (and_iff_left fun _ _ => nofun).trans (iff_of_true hs trivial)
  | fast_forward rate accepted =>
    refine (and_iff_left fun _ _ => nofun).trans (iff_of_true ?_ trivial)
    exact set_playback_rate_rateTrue hs _ _
  | fast_rewind rate accepted =>
    refine (and_iff_left fun _ _ => nofun).trans (iff_of_true ?_ trivial)
    exact set_playback_rate_rateTrue hs _ _
  | normal_playback accepted =>
    refine (and_iff_left fun _ _ => nofun).trans (iff_of_true ?_ trivial)
    exact set_playback_rate_rateTrue hs _ _
  | pause set_state get_state =>
    refine (and_iff_left fun _ _ => nofun).trans (iff_of_true ?_ trivial)
    exact pause_rateTrue hs _ _
  | resume set_state accepted =>
    refine Iff.trans ?_ (resume_rate_iff hs set_state accepted)
    constructor
    · exact fun h => h.2 set_state accepted rfl
    · intro hsame
      refine ⟨resume_rateTrue hs _ _, ?_⟩
      rintro _ _ ⟨⟩
      exact hsame
  | skip_duration skip_ms position accepted =>
    refine (and_iff_left fun _ _ => nofun).trans ?_
    exact skip_duration_rateTrue_iff hs skip_ms position accepted

end

/-- The remembered rate follows the pipeline's throughout a run, and `resume`
leaves it alone, exactly when every call keeps the rate. -/
theorem rate_follows_iff (unix_socket : Option Handle) (calls : List Call) :
    RateFollows (constructed unix_socket) calls ↔
      ∀ before next after, Takes step (constructed unix_socket) calls before next after →
        KeepsRate before next := by
  have hstart : RateTrue (constructed unix_socket).self := nofun
  have hsteps : (∀ before next after,
        Takes step (constructed unix_socket) calls before next after →
          RateTrue after.self ∧ ∀ set_state accepted, next = .resume set_state accepted →
            after.self.rate = before.self.rate) ↔
      ∀ before next after, Takes step (constructed unix_socket) calls before next after →
        KeepsRate before next := by
    refine takes_iff_of_steps (P := fun w => RateTrue w.self) hstart ?_ ?_
    · intro before next after hstep hs hkeeps
      rw [step_eq hstep]
      exact ((call_rate_iff hs next).mpr hkeeps).1
    · intro before next after hstep hs
      rw [step_eq hstep]
      exact call_rate_iff hs next
  rw [← hsteps]
  constructor
  · intro hfollows before next after htakes
    refine ⟨hfollows.rate after htakes.reaches_after, ?_⟩
    rintro set_state accepted rfl
    exact hfollows.resume before after set_state accepted htakes
  · intro hall
    refine ⟨(reaches_iff_takes (Q := fun w : World => RateTrue w.self) hstart).mpr ?_, ?_⟩
    · exact fun before next after htakes => (hall before next after htakes).1
    · intro before after set_state accepted htakes
      exact (hall before _ after htakes).2 set_state accepted rfl

/-- A pipeline that replaces one at double speed plays at the normal rate. -/
theorem rate_follows_counterexample :
    ¬ RateFollows (constructed none)
      [.start_receiving {}, .fast_forward 2 true, .stop_receiving, .start_receiving {}] := by
  intro hfollows
  have hrun : (exec step (constructed none)
      [.start_receiving {}, .fast_forward 2 true, .stop_receiving,
        .start_receiving {}]).any fun state =>
        state.self.rate = some 1 ∧ state.self.m_playback_rate = 2 := by
    decide
  obtain ⟨state, hstate, hrates⟩ := Option.any_eq_true _ _ |>.mp hrun
  obtain ⟨hpipeline, hremembered⟩ := of_decide_eq_true hrates
  have hrate := hfollows.rate state ⟨_, List.prefix_refl _, hstate⟩ 1 hpipeline
  rw [hremembered] at hrate
  exact absurd hrate (by decide)

end amldigitalfpv.gst_rtp_receiver
