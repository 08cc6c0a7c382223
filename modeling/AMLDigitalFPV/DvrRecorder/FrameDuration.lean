import AMLDigitalFPV.DvrRecorder.Rotation
import AMLDigitalFPV.DvrRecorder.Stages

open Runs Transition floating_point amldigitalfpv.frame_ring_buffer

namespace amldigitalfpv.dvr_recorder

/-- The duration in 90 kHz ticks that a frame rate stands for. -/
def measured_duration (fps : ℚ) : Nat := max 375 (min ⌊90000 / fps⌋.toNat 90000)

/-- The duration that `open_writer` leaves behind. -/
def DvrRecorder.opened_duration (self : DvrRecorder) : Nat :=
  if self.video_fps_hint_ > 0 then max 1 (90000 / self.video_fps_hint_) else self.frame_duration_

/-- A frame that a step writes carries the duration of the last measurement, and
after the step that duration is the one to be passed on next. -/
structure CarriesMeasured {ω : Type} (before after : Stage ω) : Prop where
  written : ∀ frame duration res calls, .write_nal frame duration res calls ∈
      emitted World.trace before.toWorld after.toWorld →
    ∃ fps, before.measured = some fps ∧ duration = measured_duration fps
  next : after.self.warmup_done_ = true →
    ∃ fps, after.measured = some fps ∧ after.self.frame_duration_ = measured_duration fps

/-- `update_frame_rate` leaves behind what the frame rate stands for. Above one
frame a second the quotient has to come to a tick at least, and not so close to
the next whole number of ticks that it is rounded up to it, unless that is cut
off at 375 ticks anyway. -/
def Usable (fps : ℚ) (duration : Nat) : Prop :=
  (1 < fps → 1 ≤ 90000 / fps + binary64.half_unit (90000 / fps) ∧
    (fps ≤ 240 → 90000 / fps + binary64.half_unit (90000 / fps) < ⌊90000 / fps⌋ + 1)) ∧
  (fps ≤ 1 → duration = measured_duration fps)

/-- The quotient is rounded to whole ticks as if half a unit in its last place
were added. -/
theorem floor_round_quotient {fps : ℚ} (hfps : 1 < fps) :
    ⌊binary64.round (90000 / fps)⌋ = ⌊90000 / fps + binary64.half_unit (90000 / fps)⌋ ∧
      ⌊90000 / fps⌋ ≤ ⌊90000 / fps + binary64.half_unit (90000 / fps)⌋ ∧
      ⌊90000 / fps + binary64.half_unit (90000 / fps)⌋ ≤ ⌊90000 / fps⌋ + 1 := by
  have hpos : 0 < fps := lt_trans one_pos hfps
  have hquotient : 0 < 90000 / fps := div_pos (by norm_num) hpos
  have hlt : 90000 / fps < 2 ^ (binary64.precision - 1 : ℤ) := by
    rw [div_lt_iff₀ hpos]
    norm_num [binary64]
    linarith
  have hfine := Format.exponent_neg hquotient hlt (by decide)
  have hhalf := Format.half_unit_le hfine
  refine ⟨Format.floor_round hfine, Int.floor_le_floor ?_, ?_⟩
  · exact le_add_of_nonneg_right Format.half_unit_pos.le
  · rw [← Int.floor_add_one]
    exact Int.floor_le_floor (by linarith)

theorem update_frame_rate_usable (fps : ℚ) (self : DvrRecorder) :
    (self.update_frame_rate fps).frame_duration_ = measured_duration fps ↔
      Usable fps self.frame_duration_ := by
  unfold DvrRecorder.update_frame_rate Usable
  by_cases hslow : fps ≤ 1
  · rw [if_pos hslow]
    simp [hslow, not_lt.mpr hslow]
  · rw [if_neg hslow]
    have hfast : 1 < fps := not_le.mp hslow
    have hpos : 0 < fps := lt_trans one_pos hfast
    obtain ⟨hround, hle, hnext⟩ := floor_round_quotient hfast
    have htick : 1 ≤ 90000 / fps + binary64.half_unit (90000 / fps) ↔
        1 ≤ ⌊90000 / fps + binary64.half_unit (90000 / fps)⌋ := by
      rw [Int.le_floor, Int.cast_one]
    have hbelow : 90000 / fps + binary64.half_unit (90000 / fps) < ⌊90000 / fps⌋ + 1 ↔
        ⌊90000 / fps + binary64.half_unit (90000 / fps)⌋ < ⌊90000 / fps⌋ + 1 := by
      rw [Int.floor_lt]
      push_cast
      rfl
    have hmany : fps ≤ 240 ↔ 375 ≤ ⌊90000 / fps⌋ := by
      rw [Int.le_floor, le_div_iff₀ hpos]
      push_cast
      constructor <;> intro h <;> linarith
    have hfew : ⌊90000 / fps⌋ < 90000 := by
      rw [Int.floor_lt, div_lt_iff₀ hpos]
      push_cast
      linarith
    have hnonneg : 0 ≤ ⌊90000 / fps⌋ := Int.floor_nonneg.mpr (by positivity)
    simp only [hfast, hslow, forall_const, false_implies, and_true]
    rw [htick, hbelow, hmany, hround, measured_duration]
    generalize ⌊90000 / fps + binary64.half_unit (90000 / fps)⌋ = rounded at hle hnext ⊢
    generalize ⌊90000 / fps⌋ = ticks at hle hnext hfew hnonneg ⊢
    unfold kDefaultFrameDuration
    split <;> omega

/-- A frame rate just above that of 387 ticks. -/
example :
    (({} : DvrRecorder).update_frame_rate (8182412113681861 / 2 ^ 45)).frame_duration_ = 387 ∧
      measured_duration (8182412113681861 / 2 ^ 45) = 386 := by
  decide +kernel

section

variable {ω : Type} {H : Host ω} {w : World ω}

/-- One of the rotations after a frame opens the next file. -/
def Reopens (H : Host ω) (w : World ω) : Prop :=
  ∃ v ∈ after_write_rotations H w, (DvrRecorder.rotate_recording_file H v).1 = true

theorem close_writer_duration (clear_recording : Bool) (w : World ω) :
    (DvrRecorder.close_writer H clear_recording w).self.frame_duration_ =
        w.self.frame_duration_ ∧
      (DvrRecorder.close_writer H clear_recording w).self.video_fps_hint_ =
        w.self.video_fps_hint_ := by
  rw [close_writer_self]
  split <;> exact ⟨rfl, rfl⟩

theorem open_writer_duration (hready : w.self.writer_ready_ = false) (mark_recording : Bool) :
    (DvrRecorder.open_writer H mark_recording w).2.self.frame_duration_ =
        (if (DvrRecorder.open_writer H mark_recording w).1 then w.self.opened_duration
          else w.self.frame_duration_) ∧
      (DvrRecorder.open_writer H mark_recording w).2.self.video_fps_hint_ =
        w.self.video_fps_hint_ := by
  rcases (open_writer_spec H hready mark_recording).2 with
    ⟨hanswer, file, mux, hself⟩ | ⟨hanswer, bytes, rotate, file, writer, hself⟩
  · rw [hanswer, hself]
    exact ⟨rfl, rfl⟩
  · rw [hanswer, hself]
    exact ⟨rfl, rfl⟩

theorem try_rotate_duration (w : World ω) :
    (DvrRecorder.try_rotate H w).self.frame_duration_ =
        (if (DvrRecorder.rotate_recording_file H w).1 then w.self.opened_duration
          else w.self.frame_duration_) ∧
      (DvrRecorder.try_rotate H w).self.video_fps_hint_ = w.self.video_fps_hint_ := by
  have hrotated : (DvrRecorder.try_rotate H w).self =
      (DvrRecorder.rotate_recording_file H w).2.self := by
    unfold DvrRecorder.try_rotate
    dsimp only
    split <;> rfl
  rw [hrotated]
  unfold DvrRecorder.rotate_recording_file
  split
  · exact ⟨rfl, rfl⟩
  · obtain ⟨hduration, hhint⟩ := close_writer_duration (H := H) false w
    obtain ⟨hduration', hhint'⟩ :=
      open_writer_duration (H := H) (close_writer_ready H false w) false
    rw [hduration', hhint', DvrRecorder.opened_duration, hduration, hhint]
    exact ⟨rfl, rfl⟩

/-- What a rotation sets is the same, before and after another rotation. -/
theorem opened_duration_of_rotated {before after : DvrRecorder}
    (hhint : after.video_fps_hint_ = before.video_fps_hint_)
    (hduration : after.frame_duration_ = before.frame_duration_ ∨
      after.frame_duration_ = before.opened_duration) :
    after.opened_duration = before.opened_duration := by
  unfold DvrRecorder.opened_duration at hduration ⊢
  rw [hhint]
  split
  · rfl
  · next hzero =>
    rw [if_neg hzero, or_self] at hduration
    exact hduration

theorem request_served_duration (w : World ω) :
    (request_served H w).self.video_fps_hint_ = w.self.video_fps_hint_ ∧
      (request_served H w).self.frame_duration_ =
        if w.self.rotate_requested_ = true ∧
            (DvrRecorder.rotate_recording_file H (request_cleared w)).1 = true then
          w.self.opened_duration
        else
          w.self.frame_duration_ := by
  unfold request_served
  cases hrequested : w.self.rotate_requested_ with
  | true =>
    obtain ⟨hduration, hhint⟩ := try_rotate_duration (H := H) (request_cleared w)
    rw [if_pos rfl]
    refine ⟨hhint, hduration.trans ?_⟩
    simp only [true_and]
    rfl
  | false => simp

theorem reopens_iff : Reopens H w ↔
    (w.self.rotate_requested_ = true ∧
        (DvrRecorder.rotate_recording_file H (request_cleared w)).1 = true) ∨
      ((request_served H w).self.stop_requested_ = false ∧
        kMaxFat32Size ≤ (request_served H w).self.current_file_bytes_ ∧
          (DvrRecorder.rotate_recording_file H (request_served H w)).1 = true) := by
  unfold Reopens after_write_rotations
  cases w.self.rotate_requested_ <;> cases (request_served H w).self.stop_requested_ <;>
    by_cases hbytes : kMaxFat32Size ≤ (request_served H w).self.current_file_bytes_ <;>
      simp [hbytes]

/-- The duration changes at a rotation that opens the next file, and nowhere
else in the drain loop. -/
theorem after_write_duration (w : World ω) :
    (Reopens H w ∧
        (DvrRecorder.after_write H w).2.self.frame_duration_ = w.self.opened_duration) ∨
      (¬ Reopens H w ∧
        (DvrRecorder.after_write H w).2.self.frame_duration_ = w.self.frame_duration_) := by
  obtain ⟨hhint, hserved⟩ := request_served_duration (H := H) w
  have hopened : (request_served H w).self.opened_duration = w.self.opened_duration := by
    apply opened_duration_of_rotated hhint
    rw [hserved]
    split
    · exact .inr rfl
    · exact .inl rfl
  have hkept : ∀ {after : World ω},
      after.self.frame_duration_ = (request_served H w).self.frame_duration_ →
      ¬ ((request_served H w).self.stop_requested_ = false ∧
        kMaxFat32Size ≤ (request_served H w).self.current_file_bytes_ ∧
          (DvrRecorder.rotate_recording_file H (request_served H w)).1 = true) →
      (Reopens H w ∧ after.self.frame_duration_ = w.self.opened_duration) ∨
        (¬ Reopens H w ∧ after.self.frame_duration_ = w.self.frame_duration_) := by
    intro after hafter hsecond
    rw [reopens_iff, or_iff_left hsecond, hafter, hserved]
    split
    · next hfirst => exact .inl ⟨hfirst, rfl⟩
    · next hfirst => exact .inr ⟨hfirst, rfl⟩
  rw [after_write_eq]
  by_cases hstop : (request_served H w).self.stop_requested_ = true
  · rw [if_pos hstop]
    refine hkept ?_ (by simp [hstop])
    exact (close_writer_duration (H := H) true (((request_served H w).update fun self =>
      { self with stop_requested_ := false }).log .stopping_after_write_failures)).1
  · rw [if_neg hstop]
    by_cases hbytes : (request_served H w).self.current_file_bytes_ ≥ kMaxFat32Size
    · rw [if_pos hbytes]
      have hrotated := (try_rotate_duration (H := H) (request_served H w)).1
      by_cases hsecond : (DvrRecorder.rotate_recording_file H (request_served H w)).1 = true
      · rw [if_pos hsecond, hopened] at hrotated
        exact .inl ⟨reopens_iff.mpr (.inr ⟨by simpa using hstop, hbytes, hsecond⟩), hrotated⟩
      · rw [if_neg hsecond] at hrotated
        exact hkept hrotated fun hrotates => hsecond hrotates.2.2
    · rw [if_neg hbytes]
      exact hkept rfl fun hrotates => hbytes hrotates.2.1

theorem finish_warm_up_rate (elapsed : Nat) (hready : w.self.writer_ready_ = false)
    (hwarm : (DvrRecorder.finish_warm_up H elapsed w).self.warmup_done_ = true) :
    ∃ fps earlier, emitted World.trace w (DvrRecorder.finish_warm_up H elapsed w) =
        earlier ++ [.log (.warm_up_completed fps)] ∧
      ((DvrRecorder.finish_warm_up H elapsed w).self.frame_duration_ = measured_duration fps ↔
        Usable fps w.self.opened_duration) := by
  unfold DvrRecorder.finish_warm_up at hwarm ⊢
  generalize w.self.warm_up_fps elapsed = fps
    at hwarm ⊢
  dsimp only at hwarm ⊢
  split at hwarm
  · next hopened =>
    have hduration := (open_writer_duration (H := H) hready false).1
    rw [if_pos hopened] at hduration
    obtain ⟨new, htrace, -⟩ := (open_writer_spec H hready false).1
    rw [if_pos hopened, ← hduration]
    refine ⟨fps, new, emitted_of_append ?_, update_frame_rate_usable fps _⟩
    simp [World.log, World.perform, World.update, htrace]
  · cases hwarm

/-- A frame that completes the warm-up hands its frame rate to
`update_frame_rate`, once the file is open. -/
theorem warm_up_rate (hready : w.self.writer_ready_ = false)
    (hunfinished : w.self.warmup_done_ = false)
    (hwarm : (DvrRecorder.warm_up H w).self.warmup_done_ = true) :
    ∃ fps earlier, emitted World.trace w (DvrRecorder.warm_up H w) =
        earlier ++ [.log (.warm_up_completed fps)] ∧
      ((DvrRecorder.warm_up H w).self.frame_duration_ = measured_duration fps ↔
        Usable fps w.self.opened_duration) := by
  have hcounted : (monotonic_ms H (DvrRecorder.count_frame H w)).2.trace = w.trace ∧
      (monotonic_ms H (DvrRecorder.count_frame H w)).2.self.opened_duration =
        w.self.opened_duration ∧
      (monotonic_ms H (DvrRecorder.count_frame H w)).2.self.writer_ready_ = false ∧
      (monotonic_ms H (DvrRecorder.count_frame H w)).2.self.warmup_done_ = false := by
    unfold DvrRecorder.count_frame
    split <;> exact ⟨rfl, rfl, hready, hunfinished⟩
  obtain ⟨htrace, hopened, hready', hunfinished'⟩ := hcounted
  unfold DvrRecorder.warm_up at hwarm ⊢
  dsimp only at hwarm ⊢
  split at hwarm
  · next hsecond =>
    rw [if_pos hsecond]
    have hfinished := finish_warm_up_rate _ hready' hwarm
    rw [hopened] at hfinished
    unfold emitted at hfinished ⊢
    rwa [htrace] at hfinished
  · rw [hunfinished'] at hwarm
    cases hwarm

/-- What the condition of `measured_carried_iff` asks of a step from `before`:
that a frame rate within the session is one that `update_frame_rate` can use, and
that a rotation sets the duration that the frames carry already. -/
def KeepsMeasured (H : Host ω) (before : Stage ω) : Event → Prop
  | .command cmd => (before.receive H cmd).self.warmup_done_ = true →
    ∀ fps, (warm_up_rates (emitted World.trace before.toWorld
        (before.receive H cmd).toWorld)).getLast? = some fps →
      Usable fps before.self.opened_duration
  | .write => True
  | .after_write => (before.after_write H).self.warmup_done_ = true →
    Reopens H before.toWorld → before.self.opened_duration = before.self.frame_duration_
  | .update_frame_rate fps => before.self.warmup_done_ = true →
    Usable fps before.self.frame_duration_

/-- What holds between two turns of every run. -/
structure Steady (stage : Stage ω) : Prop where
  consistent : Consistent stage.self
  wrote : stage.phase = .wrote → stage.self.writer_ready_ = true

/-- What holds between two turns of a run whose steps meet the condition. -/
structure Measured (stage : Stage ω) : Prop extends Steady stage where
  carried : stage.self.warmup_done_ = true → ∃ fps, stage.measured = some fps ∧
    stage.self.frame_duration_ = measured_duration fps

section

variable {before after : Stage ω} {event : Event}

theorem Steady.receive (h : Steady before) (cmd : Command) :
    Steady (before.receive H cmd) := by
  unfold Stage.receive
  split
  · cases cmd.frame with
    | none => exact h
    | some frame => exact ⟨h.consistent.pushed frame, nofun⟩
  · exact ⟨h.consistent.process_command H cmd, nofun⟩

theorem Steady.write (h : Steady before) : Steady (before.write H) := by
  unfold Stage.write
  split
  · next hcond =>
    obtain ⟨-, hready, -, -⟩ := (drain_condition_iff _).mp hcond
    cases before.self.ring_buffer_.pop.1 with
    | none => exact ⟨h.consistent.popped, nofun⟩
    | some frame =>
      have hwrote := h.consistent.write_popped H frame
      dsimp only
      split
      · exact ⟨⟨hwrote.ring_wellFormed, hwrote.ring_capacity, hwrote.session⟩, nofun⟩
      · exact ⟨hwrote, fun _ => (write_popped_spec H frame before.toWorld).ready.trans hready⟩
  · exact ⟨h.consistent, nofun⟩

theorem Steady.after_write (h : Steady before) (hphase : before.phase = .wrote) :
    Steady (before.after_write H) := by
  refine ⟨h.consistent.after_write H (h.wrote hphase), fun hwrote => ?_⟩
  unfold Stage.after_write at hwrote
  dsimp only at hwrote
  split at hwrote <;> cases hwrote

theorem Steady.update_frame_rate (h : Steady before) (fps : ℚ) :
    Steady { before with self := before.self.update_frame_rate fps, measured := some fps } := by
  obtain ⟨duration, hrate⟩ := before.self.update_frame_rate_frame fps
  obtain ⟨⟨hring, hcapacity, hsession⟩, hwrote⟩ := h
  rw [hrate]
  exact ⟨⟨hring, hcapacity, hsession⟩, hwrote⟩

theorem Steady.step (h : Steady before) (hstep : Stage.step H before event = some after) :
    Steady after := by
  cases event with
  | command cmd =>
    obtain ⟨-, rfl⟩ := by simpa [Stage.step] using hstep
    exact h.receive cmd
  | write =>
    obtain ⟨-, rfl⟩ := by simpa [Stage.step] using hstep
    exact h.write
  | after_write =>
    obtain ⟨hphase, rfl⟩ := by simpa [Stage.step] using hstep
    exact h.after_write hphase
  | update_frame_rate fps =>
    cases hstep
    exact h.update_frame_rate fps

/-- Nothing is written, and the session goes on as it was. -/
theorem Measured.carries_same (h : Measured before) (htrace : after.trace = before.trace)
    (hwarm : after.self.warmup_done_ = before.self.warmup_done_)
    (hmeasured : after.measured = before.measured)
    (hduration : after.self.frame_duration_ = before.self.frame_duration_) :
    CarriesMeasured before after := by
  constructor
  · intro frame duration res calls hmem
    have hnothing : emitted World.trace before.toWorld after.toWorld = [] :=
      emitted_eq_nil htrace
    rw [hnothing] at hmem
    cases hmem
  · rw [hwarm, hmeasured, hduration]
    exact h.carried

/-- Outside the drain loop nothing is written, and a warm-up that ends there
hands over its frame rate. -/
theorem process_command_unwritten {w : World ω} {cmd : Command} (hcons : Consistent w.self)
    (hdrains : ¬ (cmd.type = .Frame ∧ w.self.recording_ ∧ w.self.warmup_done_)) :
    (∀ frame duration res calls, .write_nal frame duration res calls ∉
        emitted World.trace w (DvrRecorder.process_command H cmd w)) ∧
      ((DvrRecorder.process_command H cmd w).self.warmup_done_ = true →
        DvrRecorder.process_command H cmd w = w ∨
        ∃ fps earlier, emitted World.trace w (DvrRecorder.process_command H cmd w) =
            earlier ++ [.log (.warm_up_completed fps)] ∧
          ((DvrRecorder.process_command H cmd w).self.frame_duration_ = measured_duration fps ↔
            Usable fps w.self.opened_duration)) := by
  have hreaction := process_command_cases H w cmd
  generalize DvrRecorder.process_command H cmd w = after at hreaction ⊢
  cases hreaction with
  | ignored hreason =>
    refine ⟨fun frame duration res calls hmem => ?_, fun _ => .inl rfl⟩
    rw [emitted_self] at hmem
    cases hmem
  | started htype hrecording =>
    refine ⟨fun frame duration res calls hmem => ?_, nofun⟩
    have hstarted : emitted World.trace w (started w) = [.log .warm_up_started] :=
      emitted_of_append rfl
    rw [hstarted] at hmem
    simp at hmem
  | stopped htype hstopped =>
    refine ⟨fun frame duration res calls hmem => ?_, fun hwarm => ?_⟩
    · exact absurd (hstopped.trace.of_mem_emitted hmem) nofun
    · rw [hstopped.warmup_done] at hwarm
      cases hwarm
  | warming htype hframe hrecording hwarm =>
    have hready : w.self.writer_ready_ = false := by
      by_contra hready
      have hsession := (hcons.session (by simpa using hready)).2
      rw [hwarm] at hsession
      cases hsession
    refine ⟨fun frame duration res calls hmem => ?_, fun hdone =>
      .inr (warm_up_rate hready hwarm hdone)⟩
    obtain hwaiting | hwarmed | hfailed := warm_up_cases H w
    · rw [emitted_eq_nil hwaiting.trace] at hmem
      cases hmem
    · exact absurd (hwarmed.trace.of_mem_emitted hmem) nofun
    · exact absurd (hfailed.trace.of_mem_emitted hmem) (by simp [Action.quiet])
  | drained htype hframe hrecording hwarm => exact absurd ⟨htype, hrecording, hwarm⟩ hdrains

theorem Measured.receive_carries_iff (h : Measured before) (cmd : Command) :
    CarriesMeasured before (before.receive H cmd) ↔ KeepsMeasured H before (.command cmd) := by
  change _ ↔ ((before.receive H cmd).self.warmup_done_ = true →
    ∀ fps, (warm_up_rates (emitted World.trace before.toWorld
        (before.receive H cmd).toWorld)).getLast? = some fps →
      Usable fps before.self.opened_duration)
  have hsame : ∀ {after : Stage ω}, after.trace = before.trace →
      after.self.warmup_done_ = before.self.warmup_done_ → after.measured = before.measured →
      after.self.frame_duration_ = before.self.frame_duration_ →
      (CarriesMeasured before after ↔ (after.self.warmup_done_ = true →
        ∀ fps, (warm_up_rates (emitted World.trace before.toWorld after.toWorld)).getLast? =
          some fps → Usable fps before.self.opened_duration)) := by
    intro after htrace hwarm hmeasured hduration
    apply iff_of_true (h.carries_same htrace hwarm hmeasured hduration)
    intro _ fps hrate
    have hnothing : emitted World.trace before.toWorld after.toWorld = [] :=
      emitted_eq_nil htrace
    rw [hnothing] at hrate
    cases hrate
  unfold Stage.receive
  split
  · cases cmd.frame with
    | none => exact hsame rfl rfl rfl rfl
    | some frame => exact hsame rfl rfl rfl rfl
  · next hdrains =>
    obtain ⟨hunwritten, hcompleted⟩ := process_command_unwritten (H := H) h.consistent hdrains
    dsimp only
    by_cases hwarm : (DvrRecorder.process_command H cmd before.toWorld).self.warmup_done_ = true
    · obtain hignored | ⟨fps, earlier, hrate, hduration⟩ := hcompleted hwarm
      · refine hsame ?_ ?_ ?_ ?_ <;> simp [hignored, warm_up_rates]
      · have hlast : (warm_up_rates (emitted World.trace before.toWorld
            (DvrRecorder.process_command H cmd before.toWorld))).getLast? = some fps := by
          rw [hrate]
          simp [warm_up_rates]
        rw [hlast]
        constructor
        · rintro ⟨-, hnext⟩ - _ ⟨⟩
          obtain ⟨_, ⟨⟩, hcarried⟩ := hnext hwarm
          exact hduration.mp hcarried
        · intro husable
          refine ⟨fun frame duration res calls hmem => ?_, fun _ => ⟨fps, rfl, ?_⟩⟩
          · exact absurd hmem (hunwritten frame duration res calls)
          · exact hduration.mpr (husable hwarm fps rfl)
    · refine iff_of_true ⟨fun frame duration res calls hmem => ?_, fun hdone => ?_⟩ ?_
      · exact absurd hmem (hunwritten frame duration res calls)
      · exact absurd hdone hwarm
      · exact fun hdone => absurd hdone hwarm

theorem write_popped_duration (frame : Frame) (w : World ω) :
    (write_popped H frame w).2.self.frame_duration_ = w.self.frame_duration_ ∧
      ∃ calls, (write_popped H frame w).2.trace = w.trace ++ [.write_nal frame
        (if w.self.frame_duration_ = 0 then kDefaultFrameDuration else w.self.frame_duration_)
        (write_popped H frame w).1 calls] := by
  refine ⟨?_, _, rfl⟩
  obtain ⟨bytes, rotate, hcalls⟩ := (popped w).self.run_callbacks_frame
    (H.mp4_h26x_write_nal (popped w).self frame
      (if w.self.frame_duration_ = 0 then kDefaultFrameDuration else w.self.frame_duration_)
      w.host).1.2
  exact (congrArg DvrRecorder.frame_duration_ hcalls :)

theorem Measured.write_carries (h : Measured before) : CarriesMeasured before (before.write H) := by
  unfold Stage.write
  split
  · next hcond =>
    obtain ⟨-, -, hwarm, -⟩ := (drain_condition_iff _).mp hcond
    obtain ⟨fps, hmeasured, hduration⟩ := h.carried hwarm
    have hpositive : before.self.frame_duration_ ≠ 0 := by
      rw [hduration]
      unfold measured_duration
      omega
    cases hframe : before.self.ring_buffer_.pop.1 with
    | none => exact h.carries_same rfl rfl rfl rfl
    | some frame =>
      obtain ⟨hkept, calls, htrace⟩ := write_popped_duration (H := H) frame before.toWorld
      rw [if_neg hpositive, hduration] at htrace
      have hwritten : ∀ {after : Stage ω} (more : List Action),
          after.trace = (write_popped H frame before.toWorld).2.trace ++ more →
          (∀ other duration res calls, .write_nal other duration res calls ∉ more) →
          after.measured = before.measured →
          after.self.frame_duration_ = before.self.frame_duration_ →
          CarriesMeasured before after := by
        intro after more hafter hmore hsame hduration'
        refine ⟨fun other duration res calls' hmem => ⟨fps, hmeasured, ?_⟩,
          fun _ => ⟨fps, hsame.trans hmeasured, hduration'.trans hduration⟩⟩
        rw [htrace, List.append_assoc] at hafter
        have hnew : emitted World.trace before.toWorld after.toWorld = _ :=
          emitted_of_append hafter
        rw [hnew] at hmem
        obtain hthis | hother := List.mem_append.mp hmem
        · cases List.mem_singleton.mp hthis
          rfl
        · exact absurd hother (hmore other duration res calls')
      dsimp only
      split
      · refine hwritten [.log (.write_nal_returned _)] rfl ?_ rfl hkept
        simp
      · refine hwritten [] (List.append_nil _).symm ?_ rfl hkept
        simp
  · exact h.carries_same rfl rfl rfl rfl

theorem Measured.after_write_carries_iff (h : Measured before) (hphase : before.phase = .wrote) :
    CarriesMeasured before (before.after_write H) ↔ KeepsMeasured H before .after_write := by
  have hready := h.wrote hphase
  obtain ⟨fps, hmeasured, hduration⟩ := h.carried (h.consistent.session hready).2
  have hunwritten : ∀ frame duration res calls, .write_nal frame duration res calls ∉
      emitted World.trace before.toWorld (DvrRecorder.after_write H before.toWorld).2 := by
    intro frame duration res calls hmem
    obtain ⟨-, -, hrotated⟩ | ⟨-, -, hended⟩ := after_write_spec H hready
    · have hbetween := hrotated.trace.of_mem_emitted hmem
      simp [Action.between_frames, Action.quiet] at hbetween
    · have hbetween := hended.trace.of_mem_emitted hmem
      simp [Action.between_frames, Action.quiet] at hbetween
  change _ ↔ ((DvrRecorder.after_write H before.toWorld).2.self.warmup_done_ = true →
    Reopens H before.toWorld → before.self.opened_duration = before.self.frame_duration_)
  constructor
  · rintro ⟨-, hnext⟩ hwarm hreopens
    obtain ⟨other, hother, hcarried⟩ := hnext hwarm
    cases hmeasured.symm.trans hother
    obtain ⟨-, hopened⟩ | ⟨hkept, -⟩ := after_write_duration (H := H) before.toWorld
    · rw [hduration, ← hcarried]
      exact hopened.symm
    · exact absurd hreopens hkept
  · intro hkeeps
    refine ⟨fun frame duration res calls hmem => absurd hmem (hunwritten frame duration res calls),
      fun hwarm => ⟨fps, hmeasured, ?_⟩⟩
    obtain ⟨hreopens, hopened⟩ | ⟨-, hkept⟩ := after_write_duration (H := H) before.toWorld
    · exact hopened.trans ((hkeeps hwarm hreopens).trans hduration)
    · exact hkept.trans hduration

theorem Measured.update_carries_iff (fps : ℚ) :
    CarriesMeasured before
        { before with self := before.self.update_frame_rate fps, measured := some fps } ↔
      KeepsMeasured H before (.update_frame_rate fps) := by
  change _ ↔ (before.self.warmup_done_ = true → Usable fps before.self.frame_duration_)
  have hwarm : (before.self.update_frame_rate fps).warmup_done_ = before.self.warmup_done_ := by
    obtain ⟨duration, hrate⟩ := before.self.update_frame_rate_frame fps
    rw [hrate]
    rfl
  rw [← update_frame_rate_usable]
  constructor
  · rintro ⟨-, hnext⟩ hdone
    obtain ⟨_, ⟨⟩, hcarried⟩ := hnext (hwarm.trans hdone)
    exact hcarried
  · intro hkeeps
    refine ⟨fun frame duration res calls hmem => ?_, fun hdone => ⟨fps, rfl, ?_⟩⟩
    · simp [emitted] at hmem
    · exact hkeeps (hwarm.symm.trans hdone)

theorem Measured.carries_iff (h : Measured before)
    (hstep : Stage.step H before event = some after) :
    CarriesMeasured before after ↔ KeepsMeasured H before event := by
  cases event with
  | command cmd =>
    obtain ⟨-, rfl⟩ := by simpa [Stage.step] using hstep
    exact h.receive_carries_iff cmd
  | write =>
    obtain ⟨-, rfl⟩ := by simpa [Stage.step] using hstep
    exact iff_of_true h.write_carries trivial
  | after_write =>
    obtain ⟨hphase, rfl⟩ := by simpa [Stage.step] using hstep
    exact h.after_write_carries_iff hphase
  | update_frame_rate fps =>
    cases hstep
    exact update_carries_iff fps

end

/-- Every frame carries the duration of the last measurement just when every
measurement of a session is above 1 frame a second, with a quotient of at least
a tick that is not rounded up to the next one, or at most 1 with its duration set
already, and every rotation sets the duration that is set already. -/
theorem measured_carried_iff {recorder : DvrRecorder} (hinitial : Initial recorder) (host : ω)
    (events : List Event) :
    (∀ before event after, Takes (Stage.step H) { self := recorder, host := host } events before
        event after → CarriesMeasured before after) ↔
      ∀ before event after, Takes (Stage.step H) { self := recorder, host := host } events before
        event after → KeepsMeasured H before event := by
  have hstart : Measured ({ self := recorder, host := host } : Stage ω) := by
    refine ⟨⟨hinitial.consistent, nofun⟩, fun hwarm => ?_⟩
    obtain ⟨writer, width, height, fps_hint, codec, path, rfl⟩ := hinitial
    cases hwarm
  refine takes_iff_of_steps (P := Measured)
    (S := fun before _ after => CarriesMeasured before after) hstart ?_ ?_
  · intro before event after hstep hmeasured hkeeps
    exact ⟨hmeasured.toSteady.step hstep, ((hmeasured.carries_iff hstep).mpr hkeeps).next⟩
  · exact fun hstep hmeasured => hmeasured.carries_iff hstep

end

/-- A session of three frames, the first two of them in the warm-up. The third
takes the file to its limit. -/
def third_frame : List Event :=
  warm_up_commands.map .command ++
    [.command ⟨.Frame, some key_frame⟩, .write, .after_write, .write]

/-- The recorder with a hint of 30 frames a second. -/
def hinted : Stage Script :=
  { self := ({} : DvrRecorder).set_video_params 1920 1080 30 .H265
    host :=
      { clock := one_second
        paths := [['r'], ['s']]
        writes := [(MP4E_STATUS_OK, [⟨kMaxFat32Size - 1, 1, true, 1⟩])] } }

theorem measured_carried_iff_hinted :
    (∀ before event after, Takes (Stage.step scripted) hinted third_frame before event after →
        CarriesMeasured before after) ↔
      ∀ before event after, Takes (Stage.step scripted) hinted third_frame before event after →
        KeepsMeasured scripted before event :=
  measured_carried_iff ⟨true, 1920, 1080, 30, .H265, [], rfl⟩ hinted.host third_frame

/-- The recorder about to write the first frame of the second file. -/
def rotated : Stage Script :=
  (exec (Stage.step scripted) hinted (third_frame ++ [.command ⟨.Frame, some key_frame⟩])).getD
    hinted

/-- The stream has been measured at 2 frames a second, but the first frame after
the rotation carries the duration of the hint. -/
theorem measured_carried_counterexample :
    ¬ ∀ before event after, Takes (Stage.step scripted) hinted
      (third_frame ++ [.command ⟨.Frame, some key_frame⟩, .write]) before event after →
        CarriesMeasured before after := by
  intro h
  have hrun : exec (Stage.step scripted) hinted
      (third_frame ++ [.command ⟨.Frame, some key_frame⟩]) = some rotated := by
    decide +kernel
  have hstep : Stage.step scripted rotated .write = some (rotated.write scripted) := by
    decide +kernel
  have hmem : .write_nal key_frame 3000 MP4E_STATUS_OK [] ∈
      emitted World.trace rotated.toWorld (rotated.write scripted).toWorld := by
    decide +kernel
  obtain ⟨fps, hmeasured, hduration⟩ := (h rotated .write (rotated.write scripted)
    ⟨_, [], by simp, hrun, hstep⟩).written key_frame 3000 MP4E_STATUS_OK [] hmem
  have htwo : rotated.measured = some 2 := by decide +kernel
  cases htwo.symm.trans hmeasured
  revert hduration
  decide +kernel

end amldigitalfpv.dvr_recorder
