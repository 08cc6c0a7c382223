import AMLDigitalFPV.DvrRecorder.Worker
import AMLDigitalFPV.Library.Runs

open Runs amldigitalfpv.frame_ring_buffer

namespace amldigitalfpv.dvr_recorder

namespace DvrRecorder

def with_counters (bytes : Nat) (rotate : Bool) (self : DvrRecorder) : DvrRecorder :=
  { self with current_file_bytes_ := bytes, rotate_requested_ := rotate }

def with_mux (mux : Option Handle) (self : DvrRecorder) : DvrRecorder :=
  { self with mux_ := mux }

def with_file (file : Option Handle) (self : DvrRecorder) : DvrRecorder :=
  { self with file_ := file }

def with_writer (writer : Bool) (self : DvrRecorder) : DvrRecorder :=
  { self with writer_ := writer }

def with_warmup (start count : Nat) (self : DvrRecorder) : DvrRecorder :=
  { self with warmup_start_ms_ := start, warmup_frame_count_ := count }

def with_frame_duration (duration : Nat) (self : DvrRecorder) : DvrRecorder :=
  { self with frame_duration_ := duration }

theorem update_frame_rate_frame (fps : ℚ) (self : DvrRecorder) :
    ∃ duration, self.update_frame_rate fps = self.with_frame_duration duration := by
  unfold update_frame_rate
  split
  · exact ⟨_, rfl⟩
  · exact ⟨_, rfl⟩

/-- A call that the C library serves in full moves the end of the file, and
asks for a rotation at the size limit. -/
theorem file_write_callback_accepted {self : DvrRecorder} (hfile : self.file_ ≠ none)
    (offset size : Nat) :
    self.file_write_callback ⟨offset, size, true, size⟩ =
      (0, self.with_counters (max self.current_file_bytes_ (offset + size))
        (self.rotate_requested_ || decide (kMaxFat32Size ≤ offset + size))) := by
  have hclamp : (clamp_positive offset).toNat = offset := by
    unfold clamp_positive
    split <;> omega
  unfold file_write_callback with_counters
  rw [if_neg hfile, if_neg (by simp), if_neg (by simp)]
  simp only [hclamp]
  by_cases hgrow : offset + size > self.current_file_bytes_
  · rw [if_pos hgrow, Nat.max_eq_right (Nat.le_of_lt hgrow)]
    by_cases hlimit : kMaxFat32Size ≤ offset + size <;> simp [hlimit]
  · rw [if_neg hgrow, Nat.max_eq_left (Nat.le_of_not_lt hgrow)]
    by_cases hlimit : kMaxFat32Size ≤ offset + size <;> simp [hlimit]

/-- The write callback touches the two counters of the current file only. -/
theorem run_callbacks_frame (calls : List WriteCall) (self : DvrRecorder) :
    ∃ bytes rotate, self.run_callbacks calls = self.with_counters bytes rotate := by
  induction calls generalizing self with
  | nil => exact ⟨_, _, rfl⟩
  | cons call calls ih =>
    have hcall : ∃ bytes rotate,
        (self.file_write_callback call).2 = self.with_counters bytes rotate := by
      unfold file_write_callback
      split
      · exact ⟨_, _, rfl⟩
      · split
        · exact ⟨_, _, rfl⟩
        · split
          · exact ⟨_, _, rfl⟩
          · dsimp only
            split <;> split <;> exact ⟨_, _, rfl⟩
    obtain ⟨bytes, rotate, hcall⟩ := hcall
    obtain ⟨bytes', rotate', hrest⟩ := ih (self.file_write_callback call).2
    refine ⟨bytes', rotate', ?_⟩
    rw [run_callbacks, List.foldl_cons, ← run_callbacks, hrest, hcall]
    rfl

section

variable (calls : List WriteCall) (self : DvrRecorder)

@[simp]
theorem run_callbacks_ring_buffer :
    (self.run_callbacks calls).ring_buffer_ = self.ring_buffer_ := by
  obtain ⟨_, _, h⟩ := self.run_callbacks_frame calls
  rw [h]
  rfl

@[simp]
theorem run_callbacks_recording : (self.run_callbacks calls).recording_ = self.recording_ := by
  obtain ⟨_, _, h⟩ := self.run_callbacks_frame calls
  rw [h]
  rfl

@[simp]
theorem run_callbacks_writer_ready :
    (self.run_callbacks calls).writer_ready_ = self.writer_ready_ := by
  obtain ⟨_, _, h⟩ := self.run_callbacks_frame calls
  rw [h]
  rfl

@[simp]
theorem run_callbacks_warmup_done :
    (self.run_callbacks calls).warmup_done_ = self.warmup_done_ := by
  obtain ⟨_, _, h⟩ := self.run_callbacks_frame calls
  rw [h]
  rfl

@[simp]
theorem run_callbacks_stop_requested :
    (self.run_callbacks calls).stop_requested_ = self.stop_requested_ := by
  obtain ⟨_, _, h⟩ := self.run_callbacks_frame calls
  rw [h]
  rfl

@[simp]
theorem run_callbacks_file : (self.run_callbacks calls).file_ = self.file_ := by
  obtain ⟨_, _, h⟩ := self.run_callbacks_frame calls
  rw [h]
  rfl

@[simp]
theorem run_callbacks_mux : (self.run_callbacks calls).mux_ = self.mux_ := by
  obtain ⟨_, _, h⟩ := self.run_callbacks_frame calls
  rw [h]
  rfl

end

/-- The members after `close_writer` has closed an open writer. -/
def closed (clear_recording : Bool) (self : DvrRecorder) : DvrRecorder :=
  { self with
    writer_ready_ := false
    mux_ := none
    file_ := none
    current_file_bytes_ := 0
    rotate_requested_ := false
    recording_ := self.recording_ && !clear_recording }

/-- The members after `open_writer` has opened `file` and `mux`. -/
def opened (mark_recording : Bool) (file mux : Handle) (self : DvrRecorder) : DvrRecorder :=
  { self with
    file_ := some file
    mux_ := some mux
    writer_ := true
    writer_ready_ := true
    current_file_bytes_ := 0
    rotate_requested_ := false
    recording_ := self.recording_ || mark_recording
    frame_duration_ :=
      if self.video_fps_hint_ > 0 then max 1 (90000 / self.video_fps_hint_)
      else self.frame_duration_ }

end DvrRecorder

/-- Actions other than frames written and the lines that report a failure of
the worker. -/
def Action.quiet : Action → Bool
  | .write_nal .. => false
  | .log (.write_nal_returned _) => false
  | .log .failed_to_rotate => false
  | .log .open_after_warm_up_failed => false
  | _ => true

/-- The trace has grown by quiet actions. -/
def Quiet {ω : Type} (before after : World ω) : Prop :=
  Emits World.trace (fun action => action.quiet = true) before after

section Specs

variable {ω : Type} (H : Host ω)

theorem MP4E_close_quiet (mux : Handle) (w : World ω) : Quiet w (MP4E_close H mux w) :=
  Emits.of_append rfl rfl

theorem fclose_quiet (file : Handle) (w : World ω) : Quiet w (fclose H file w) :=
  Emits.of_append rfl rfl

theorem MP4E_open_self (w : World ω) :
    (MP4E_open H w).2.self = w.self.run_callbacks (H.MP4E_open w.self w.host).1.2 := by
  unfold MP4E_open
  dsimp only
  split <;> rfl

theorem MP4E_open_host (w : World ω) :
    (MP4E_open H w).2.host = (H.MP4E_open w.self w.host).2 := by
  unfold MP4E_open
  dsimp only
  split <;> rfl

theorem MP4E_open_isSome (w : World ω) :
    (MP4E_open H w).1.isSome = (H.MP4E_open w.self w.host).1.1 := by
  unfold MP4E_open
  dsimp only
  split
  · next hopened => simp [hopened]
  · next hfailed => simpa using hfailed

theorem close_writer_of_not_ready {w : World ω} (hready : w.self.writer_ready_ = false)
    (clear_recording : Bool) :
    DvrRecorder.close_writer H clear_recording w =
      w.update fun self => { self with recording_ := self.recording_ && !clear_recording } := by
  rw [DvrRecorder.close_writer, if_pos (by simp [hready])]
  cases clear_recording
  · simp [World.update]
  · simp [World.update]

theorem close_mux_self (w : World ω) : ∃ bytes rotate,
    (DvrRecorder.close_mux H w).self = (w.self.with_counters bytes rotate).with_mux none := by
  unfold DvrRecorder.close_mux
  split
  · obtain ⟨bytes, rotate, hcalls⟩ :=
      w.self.run_callbacks_frame (H.MP4E_close w.self w.host).1
    refine ⟨bytes, rotate, ?_⟩
    simp only [World.update, MP4E_close, hcalls]
    rfl
  · next hmux =>
    refine ⟨w.self.current_file_bytes_, w.self.rotate_requested_, ?_⟩
    simp only [DvrRecorder.with_mux, DvrRecorder.with_counters, ← hmux]

@[simp]
theorem close_nal_writer_self (w : World ω) :
    (DvrRecorder.close_nal_writer H w).self = w.self := by
  unfold DvrRecorder.close_nal_writer
  split <;> rfl

@[simp]
theorem close_file_self (w : World ω) :
    (DvrRecorder.close_file H w).self = w.self.with_file none := by
  unfold DvrRecorder.close_file
  split
  · rfl
  · next hfile => simp only [DvrRecorder.with_file, ← hfile]

theorem close_writer_quiet (clear_recording : Bool) (w : World ω) :
    Quiet w (DvrRecorder.close_writer H clear_recording w) := by
  unfold DvrRecorder.close_writer
  split
  · split <;> exact Emits.of_log_eq rfl
  · have hmux : ∀ w : World ω, Quiet w (DvrRecorder.close_mux H w) := by
      intro w
      unfold DvrRecorder.close_mux
      split
      · exact Emits.of_append rfl rfl
      · exact Emits.of_log_eq rfl
    have hnal : ∀ w : World ω, Quiet w (DvrRecorder.close_nal_writer H w) := by
      intro w
      unfold DvrRecorder.close_nal_writer
      split <;> exact Emits.of_log_eq rfl
    have hfile : ∀ w : World ω, Quiet w (DvrRecorder.close_file H w) := by
      intro w
      unfold DvrRecorder.close_file
      split
      · exact Emits.of_append rfl rfl
      · exact Emits.of_log_eq rfl
    have hclosed := ((hmux (w.update fun self => { self with writer_ready_ := false })).trans
      (hnal _)).trans (hfile _)
    exact Emits.trans hclosed (Emits.of_append rfl rfl)

/-- Closing an open writer releases both handles and resets the counters. -/
theorem close_writer_self_of_ready {w : World ω} (hready : w.self.writer_ready_ = true)
    (clear_recording : Bool) :
    (DvrRecorder.close_writer H clear_recording w).self = w.self.closed clear_recording := by
  rw [DvrRecorder.close_writer, if_neg (by simp [hready])]
  obtain ⟨bytes, rotate, hmux⟩ :=
    close_mux_self H (w.update fun self => { self with writer_ready_ := false })
  cases clear_recording <;>
    simp [World.log, World.perform, World.update] at hmux ⊢ <;>
    simp [hmux, DvrRecorder.closed, DvrRecorder.with_counters, DvrRecorder.with_mux,
      DvrRecorder.with_file]

theorem close_writer_self (clear_recording : Bool) (w : World ω) :
    (DvrRecorder.close_writer H clear_recording w).self =
      if w.self.writer_ready_ then
        w.self.closed clear_recording
      else
        { w.self with recording_ := w.self.recording_ && !clear_recording } := by
  cases hready : w.self.writer_ready_ with
  | true => simpa using close_writer_self_of_ready H hready clear_recording
  | false => simp [close_writer_of_not_ready H hready, World.update, hready]

/-- What a failed open may leave behind: counters, a `file_` that is no longer
open, and an allocated writer. -/
def DvrRecorder.Residue (before after : DvrRecorder) : Prop :=
  ∃ bytes rotate file writer,
    after = ((before.with_counters bytes rotate).with_file file).with_writer writer

/-- The members after an attempt to open, for each answer it can give. -/
def DvrRecorder.OpenResult (mark_recording : Bool) (before : DvrRecorder) (answer : Bool)
    (after : DvrRecorder) : Prop :=
  (answer = true ∧ ∃ file mux, after = before.opened mark_recording file mux) ∨
    (answer = false ∧ before.Residue after)

theorem allocate_writer_self (w : World ω) : ∃ writer,
    (DvrRecorder.allocate_writer H w).self = w.self.with_writer writer := by
  unfold DvrRecorder.allocate_writer
  split
  · exact ⟨w.self.writer_, rfl⟩
  · exact ⟨_, rfl⟩

theorem allocate_writer_trace (w : World ω) :
    (DvrRecorder.allocate_writer H w).trace = w.trace := by
  unfold DvrRecorder.allocate_writer
  split <;> rfl

theorem start_writer_self (mark_recording : Bool) (path : Path) (mux : Handle) {file : Handle}
    {w : World ω}
    (hfile : w.self.file_ = some file) (hwriter : w.self.writer_ = true) :
    (DvrRecorder.start_writer mark_recording path mux w).self =
      w.self.opened mark_recording file mux := by
  unfold DvrRecorder.start_writer DvrRecorder.opened
  cases mark_recording <;> by_cases hhint : 0 < w.self.video_fps_hint_ <;>
    simp [World.log, World.perform, World.update, hhint, hfile, hwriter]

/-- An open that got as far as the muxer either succeeds or leaves no more
than a residue. -/
theorem init_writer_spec (mark_recording : Bool) (path : Path) {file : Handle} (mux : Handle)
    {w : World ω} (hfile : w.self.file_ = some file) :
    Quiet w (DvrRecorder.init_writer H mark_recording path file mux w).2 ∧
      w.self.OpenResult mark_recording
        (DvrRecorder.init_writer H mark_recording path file mux w).1
        (DvrRecorder.init_writer H mark_recording path file mux w).2.self := by
  obtain ⟨writer, hself⟩ := allocate_writer_self H w
  have htrace := allocate_writer_trace H w
  unfold DvrRecorder.init_writer
  generalize DvrRecorder.allocate_writer H w = w₁ at hself htrace
  dsimp only
  split
  · have hlog : Quiet w (w₁.log .failed_to_allocate_writer) :=
      Emits.of_append (congrArg (· ++ _) htrace) rfl
    obtain ⟨bytes, rotate, hcalls⟩ := w₁.self.run_callbacks_frame
      (H.MP4E_close w₁.self w₁.host).1
    refine ⟨(hlog.trans (MP4E_close_quiet H mux _)).trans (fclose_quiet H file _), Or.inr ⟨rfl, ?_⟩⟩
    refine ⟨bytes, rotate, w.self.file_, writer, ?_⟩
    rw [hself] at hcalls
    simp only [fclose, MP4E_close, World.log, World.perform, hself, hcalls]
    rfl
  · next hwriter =>
    have hwriter : w₁.self.writer_ = true := by simpa using hwriter
    have hfile₁ : w₁.self.file_ = some file := by rw [hself]; exact hfile
    split
    · have hlog : Quiet w ((mp4_h26x_write_init H w₁).2.log .write_init_failed) :=
        Emits.of_append (congrArg (· ++ _) htrace) rfl
      obtain ⟨bytes, rotate, hcalls⟩ := w₁.self.run_callbacks_frame
        (H.MP4E_close w₁.self (H.mp4_h26x_write_init w₁.self w₁.host).2).1
      refine ⟨Emits.trans (hlog.trans (MP4E_close_quiet H mux _)) (Emits.of_append rfl rfl),
        Or.inr ⟨rfl, bytes, rotate, none, writer, ?_⟩⟩
      rw [hself] at hcalls
      simp only [fclose, MP4E_close, World.update, World.log, World.perform,
        mp4_h26x_write_init, hself, hcalls]
      rfl
    · have hstart : (DvrRecorder.start_writer mark_recording path mux
          (mp4_h26x_write_init H w₁).2).self = w.self.opened mark_recording file mux := by
        rw [start_writer_self (w := (mp4_h26x_write_init H w₁).2) mark_recording path mux hfile₁
          hwriter]
        simp only [mp4_h26x_write_init, hself, DvrRecorder.opened, DvrRecorder.with_writer]
      have hlog : Quiet w ((mp4_h26x_write_init H w₁).2.log (.recording_to path)) :=
        Emits.of_append (congrArg (· ++ _) htrace) rfl
      exact ⟨hlog, Or.inl ⟨rfl, file, mux, hstart⟩⟩

theorem open_mux_spec (mark_recording : Bool) (path : Path) (file : Handle) (w : World ω) :
    Quiet w (DvrRecorder.open_mux H mark_recording path file w).2 ∧
      w.self.OpenResult mark_recording (DvrRecorder.open_mux H mark_recording path file w).1
        (DvrRecorder.open_mux H mark_recording path file w).2.self := by
  obtain ⟨bytes, rotate, hcalls⟩ := (w.self.with_file (some file)).run_callbacks_frame
    (H.MP4E_open (w.self.with_file (some file)) w.host).1.2
  have hself : (MP4E_open H (w.update fun self => { self with file_ := some file })).2.self =
      (w.self.with_file (some file)).with_counters bytes rotate := by
    rw [MP4E_open_self, ← hcalls]
    rfl
  have hquiet :
      Quiet w (MP4E_open H (w.update fun self => { self with file_ := some file })).2 := by
    unfold MP4E_open
    dsimp only
    split
    · exact Emits.of_append rfl rfl
    · exact Emits.of_log_eq rfl
  unfold DvrRecorder.open_mux
  generalize MP4E_open H (w.update fun self => { self with file_ := some file }) = reply
    at hself hquiet
  obtain ⟨mux, w₁⟩ := reply
  simp only at hself hquiet
  cases mux with
  | none =>
    refine ⟨?_, Or.inr ⟨rfl, bytes, rotate, none, w.self.writer_, ?_⟩⟩
    · have hlog : Quiet w₁ (w₁.log .mp4e_open_failed) := Emits.of_append rfl rfl
      exact hquiet.trans (hlog.trans (Emits.of_append rfl rfl))
    · simp only [fclose, World.update, World.log, World.perform, hself]
      rfl
  | some mux =>
    have hfile : w₁.self.file_ = some file := by
      rw [hself]
      rfl
    obtain ⟨hinit, hresult⟩ := init_writer_spec H mark_recording path mux hfile
    refine ⟨hquiet.trans hinit, ?_⟩
    obtain ⟨hanswer, file', mux', hopened⟩ | ⟨hanswer, hresidue⟩ := hresult
    · refine Or.inl ⟨hanswer, file', mux', ?_⟩
      rw [hopened, hself]
      rfl
    · obtain ⟨bytes', rotate', file', writer', hresidue⟩ := hresidue
      refine Or.inr ⟨hanswer, bytes', rotate', file', writer', ?_⟩
      rw [hresidue, hself]
      rfl

/-- Every outcome of `open_writer` on a closed writer: a fresh file and muxer
with the counters reset, or a failure that leaves no more than a residue. -/
theorem open_writer_spec {w : World ω} (hready : w.self.writer_ready_ = false)
    (mark_recording : Bool) :
    Quiet w (DvrRecorder.open_writer H mark_recording w).2 ∧
      w.self.OpenResult mark_recording (DvrRecorder.open_writer H mark_recording w).1
        (DvrRecorder.open_writer H mark_recording w).2.self := by
  have hresidue : w.self.Residue w.self := ⟨_, _, _, _, rfl⟩
  unfold DvrRecorder.open_writer
  rw [if_neg (by simp [hready])]
  split
  · exact ⟨Emits.of_append rfl rfl, Or.inr ⟨rfl, hresidue⟩⟩
  · dsimp only
    split
    · exact ⟨Emits.of_append rfl rfl, Or.inr ⟨rfl, hresidue⟩⟩
    · unfold fopen
      split
      · next w₁ hopen =>
        split at hopen
        · cases hopen
        · cases hopen
          exact ⟨Emits.of_append rfl rfl, Or.inr ⟨rfl, hresidue⟩⟩
      · next file w₁ hopen =>
        split at hopen
        · cases hopen
          obtain ⟨hquiet, hresult⟩ := open_mux_spec H mark_recording
            (resolve_target_file H w).1 w.handles
            { w with
              host := (H.fopen (resolve_target_file H w).1 (resolve_target_file H w).2.host).2
              handles := w.handles + 1
              trace := w.trace ++ [.fopen w.handles (resolve_target_file H w).1] }
          exact ⟨Emits.trans (Emits.of_append rfl rfl) hquiet, hresult⟩
        · cases hopen

end Specs

end amldigitalfpv.dvr_recorder
