import AMLDigitalFPV.GstRtpReceiver.Receiver

namespace amldigitalfpv.gst_rtp_receiver

/-- The launch gets a pipeline from `gst_parse_launch` and keeps it. -/
def Launch.keeps (launch : Launch) : Bool :=
  launch.object == .pipeline || (launch.object == .element && launch.error)

theorem step_eq {w after : World} {next : Call} (hstep : step w next = some after) :
    after = call w next := by
  unfold step at hstep
  split at hstep <;> cases hstep
  rfl

@[simp]
theorem World.release_all_self (resource : Resource) (handles : Option Handle) (w : World) :
    (w.release_all resource handles).self = w.self := by
  cases handles <;> rfl

/-- The members that describe the pipeline have not changed. -/
structure SameFlags (before after : GstRtpReceiver) : Prop where
  is_paused : after.m_is_paused = before.m_is_paused
  playback_rate : after.m_playback_rate = before.m_playback_rate
  pre_pause_rate : after.m_pre_pause_rate = before.m_pre_pause_rate

/-- The receiver has dropped its pipeline, and has a new one if `kept` says so,
which is not paused and has accepted no seek event. -/
structure Relaunched (kept : Bool) (before after : GstRtpReceiver) : Prop
    extends SameFlags before after where
  isSome : after.m_gst_pipeline.isSome = kept
  fresh : ∀ pipeline, after.m_gst_pipeline = some pipeline →
    pipeline.state ≠ some .PAUSED ∧ pipeline.seeks = []

namespace GstRtpReceiver

variable (launch : Launch) {w : World}

theorem stop_receiving_spec : Relaunched false w.self (stop_receiving w).self := by
  unfold stop_receiving close_socket drop_pipeline join_threads
  split <;> constructor <;> simp [World.update]
  all_goals constructor <;> rfl

theorem construct_pipeline_spec {before : GstRtpReceiver} (h : Relaunched false before w.self) :
    Relaunched launch.keeps before (construct_pipeline launch w).2.self := by
  have hkept : ∀ {flag}, flag = true → Relaunched flag before
      { w.self with m_gst_pipeline := some { handle := w.handles } } := by
    rintro flag rfl
    refine ⟨⟨h.is_paused, h.playback_rate, h.pre_pause_rate⟩, rfl, ?_⟩
    rintro _ ⟨⟩
    exact ⟨nofun, rfl⟩
  unfold construct_pipeline Launch.keeps
  cases launch.object with
  | null => exact h
  | element =>
    cases launch.error with
    | false => exact h
    | true => exact hkept rfl
  | pipeline => cases launch.error <;> exact hkept rfl

section

variable {kept : Bool} {before : GstRtpReceiver} (h : Relaunched kept before w.self)
include h

theorem create_udp_socket_spec : Relaunched kept before (create_udp_socket launch w).2.self := by
  unfold create_udp_socket
  split
  · split
    · exact ⟨⟨h.is_paused, h.playback_rate, h.pre_pause_rate⟩, h.isSome, h.fresh⟩
    · exact h
  · exact h

theorem start_read_socket_spec : Relaunched kept before (start_read_socket launch w).2.self := by
  unfold start_read_socket setup_appsrc_buffer_pool
  split
  · split
    · dsimp only
      split <;> exact ⟨⟨h.is_paused, h.playback_rate, h.pre_pause_rate⟩, h.isSome, h.fresh⟩
    · exact h
  · exact h

theorem start_playing_spec : Relaunched kept before (start_playing launch w).self := by
  unfold start_playing
  split
  · refine ⟨⟨h.is_paused, h.playback_rate, h.pre_pause_rate⟩, ?_, ?_⟩
    · simpa [World.update, World.acquire] using h.isSome
    · intro pipeline hpipeline
      obtain ⟨launched, hlaunched, rfl⟩ := Option.map_eq_some_iff.mp hpipeline
      obtain ⟨hstate, hseeks⟩ := h.fresh launched hlaunched
      split
      · exact ⟨nofun, hseeks⟩
      · exact ⟨hstate, hseeks⟩
  · exact ⟨⟨h.is_paused, h.playback_rate, h.pre_pause_rate⟩, h.isSome, h.fresh⟩

end

theorem switch_to_file_playback_spec :
    Relaunched launch.keeps w.self (switch_to_file_playback launch w).self := by
  have hconstructed := construct_pipeline_spec launch (stop_receiving_spec (w := w))
  unfold switch_to_file_playback
  dsimp only
  split
  · exact start_playing_spec launch hconstructed
  · exact hconstructed

theorem switch_to_stream_spec :
    Relaunched launch.keeps w.self (switch_to_stream launch w).self := by
  have hconstructed := construct_pipeline_spec launch (stop_receiving_spec (w := w))
  have hcreated := create_udp_socket_spec launch hconstructed
  have hstarted := start_read_socket_spec launch hcreated
  unfold switch_to_stream
  dsimp only
  split
  · split
    · split
      · exact start_playing_spec launch hstarted
      · exact hstarted
    · exact hcreated
  · exact hconstructed

theorem start_receiving_spec (hpipeline : w.self.m_gst_pipeline = none) :
    Relaunched launch.keeps w.self (start_receiving launch w).self := by
  unfold start_receiving
  rw [if_pos hpipeline]
  exact switch_to_stream_spec launch

section

variable {self : GstRtpReceiver} {pipeline : Pipeline}
  (hpipeline : self.m_gst_pipeline = some pipeline)
include hpipeline

theorem set_playback_rate_of_pipeline (rate : ℚ) (accepted : Bool) :
    self.set_playback_rate rate accepted =
      if accepted then
        { self with
          m_gst_pipeline := some { pipeline with seeks := pipeline.seeks ++ [{ rate := rate }] }
          m_playback_rate := rate }
      else
        self := by
  simp [set_playback_rate, seek, hpipeline]

theorem pause_of_pipeline (set_state get_state : Bool) :
    self.pause set_state get_state =
      if self.m_is_paused then self
      else if set_state then
        { self with
          m_gst_pipeline := some { pipeline with state := some .PAUSED }
          m_is_paused := get_state
          m_pre_pause_rate := self.m_playback_rate }
      else { self with m_pre_pause_rate := self.m_playback_rate } := by
  cases hpaused : self.m_is_paused <;> cases set_state <;> cases get_state <;>
    simp [pause, change_state, hpipeline, hpaused]

theorem resume_of_pipeline (set_state accepted : Bool) :
    self.resume set_state accepted =
      if self.m_is_paused && set_state then
        if self.m_pre_pause_rate ≠ 1 ∧ accepted then
          { self with
            m_gst_pipeline := some
              { pipeline with
                state := some .PLAYING
                seeks := pipeline.seeks ++ [{ rate := self.m_pre_pause_rate }] }
            m_playback_rate := self.m_pre_pause_rate
            m_is_paused := false }
        else
          { self with
            m_gst_pipeline := some { pipeline with state := some .PLAYING }
            m_is_paused := false }
      else
        self := by
  by_cases hrate : self.m_pre_pause_rate = 1 <;> cases hpaused : self.m_is_paused <;>
    cases set_state <;> cases accepted <;>
    simp [resume, change_state, set_playback_rate, seek, hpipeline, hpaused, hrate]

theorem skip_duration_of_pipeline (skip_ms : Int) (position : Option Int) (accepted : Bool) :
    ∃ start, self.skip_duration skip_ms position accepted =
      if skip_ms ≠ 0 ∧ position ≠ none ∧ accepted = true then
        { self with
          m_gst_pipeline := some
            { pipeline with seeks := pipeline.seeks ++ [{ rate := 1, start := start }] } }
      else
        self := by
  cases position with
  | none => exact ⟨none, by simp [skip_duration, hpipeline]⟩
  | some current_pos =>
    refine ⟨some (if current_pos + skip_ms * GST_MSECOND < 0 then 0
      else current_pos + skip_ms * GST_MSECOND), ?_⟩
    by_cases hskip : skip_ms = 0 <;> cases accepted <;>
      simp [skip_duration, seek, hpipeline, hskip]

end

/-- Without a pipeline nothing can be done to it. -/
theorem playback_of_no_pipeline {self : GstRtpReceiver} (hpipeline : self.m_gst_pipeline = none) :
    (∀ rate accepted, self.set_playback_rate rate accepted = self) ∧
      (∀ set_state get_state, self.pause set_state get_state = self) ∧
      (∀ set_state accepted, self.resume set_state accepted = self) ∧
      ∀ skip_ms position accepted, self.skip_duration skip_ms position accepted = self :=
  ⟨fun _ _ => if_pos hpipeline, fun _ _ => if_pos hpipeline, fun _ _ => if_pos hpipeline,
    fun _ _ _ => if_pos hpipeline⟩

end GstRtpReceiver

end amldigitalfpv.gst_rtp_receiver
