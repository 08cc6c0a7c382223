import AMLDigitalFPV.DvrRecorder.Footage

open amldigitalfpv.frame_ring_buffer

namespace amldigitalfpv.dvr_recorder

/-- A result when only the view of the state is there. -/
def shown {α σ ρ : Type} (view : σ → ρ) (result : α × σ) : α × ρ := (result.1, view result.2)

/-- The answers of one host are those of another, whose state shows what is
needed for them. -/
structure Host.Views {σ ρ : Type} (H : Host σ) (K : Host ρ) (view : σ → ρ) : Prop where
  monotonic_ms : ∀ s, K.monotonic_ms (view s) = ((H.monotonic_ms s).1, view (H.monotonic_ms s).2)
  resolve_target_file : ∀ path s,
    K.resolve_target_file path (view s) =
      ((H.resolve_target_file path s).1, view (H.resolve_target_file path s).2)
  fopen : ∀ path s, K.fopen path (view s) = ((H.fopen path s).1, view (H.fopen path s).2)
  fclose : ∀ s, K.fclose (view s) = view (H.fclose s)
  malloc : ∀ s, K.malloc (view s) = ((H.malloc s).1, view (H.malloc s).2)
  MP4E_open : ∀ self s, K.MP4E_open self (view s) =
    ((H.MP4E_open self s).1, view (H.MP4E_open self s).2)
  MP4E_close : ∀ self s, K.MP4E_close self (view s) =
    ((H.MP4E_close self s).1, view (H.MP4E_close self s).2)
  write_init : ∀ self s, K.mp4_h26x_write_init self (view s) =
    ((H.mp4_h26x_write_init self s).1, view (H.mp4_h26x_write_init self s).2)
  write_nal : ∀ self frame duration s, K.mp4_h26x_write_nal self frame duration (view s) =
    ((H.mp4_h26x_write_nal self frame duration s).1,
      view (H.mp4_h26x_write_nal self frame duration s).2)
  write_close : ∀ s, K.mp4_h26x_write_close (view s) = view (H.mp4_h26x_write_close s)

/-- The world as it looks when only the view of the host is there. -/
def World.seen {σ ρ : Type} (view : σ → ρ) (w : World σ) : World ρ :=
  { self := w.self, host := view w.host, handles := w.handles, trace := w.trace }

def Worker.seen {σ ρ : Type} (view : σ → ρ) (w : Worker σ) : Worker ρ :=
  { toWorld := w.toWorld.seen view, exited := w.exited }

section

variable {σ ρ : Type} {view : σ → ρ}

@[simp] theorem World.seen_self (w : World σ) : (w.seen view).self = w.self := rfl

@[simp] theorem World.seen_host (w : World σ) : (w.seen view).host = view w.host := rfl

@[simp] theorem World.update_seen (f : DvrRecorder → DvrRecorder) (w : World σ) :
    (w.seen view).update f = (w.update f).seen view := rfl

@[simp] theorem World.log_seen (line : LogLine) (w : World σ) :
    (w.seen view).log line = (w.log line).seen view := rfl

variable {H : Host σ} {K : Host ρ} (hviews : H.Views K view)
include hviews

theorem Host.Views.monotonic_ms_seen (w : World σ) :
    dvr_recorder.monotonic_ms K (w.seen view) =
      shown (World.seen view) (dvr_recorder.monotonic_ms H w) := by
  unfold dvr_recorder.monotonic_ms
  rw [World.seen_host, hviews.monotonic_ms]
  rfl

theorem Host.Views.resolve_seen (w : World σ) :
    dvr_recorder.resolve_target_file K (w.seen view) =
      shown (World.seen view) (dvr_recorder.resolve_target_file H w) := by
  unfold dvr_recorder.resolve_target_file
  rw [World.seen_host, World.seen_self, hviews.resolve_target_file]
  rfl

theorem Host.Views.fopen_seen (path : Path) (w : World σ) :
    dvr_recorder.fopen K path (w.seen view) =
      shown (World.seen view) (dvr_recorder.fopen H path w) := by
  unfold dvr_recorder.fopen
  rw [World.seen_host, hviews.fopen]
  dsimp only
  split <;> rfl

theorem Host.Views.fclose_seen (file : Handle) (w : World σ) :
    dvr_recorder.fclose K file (w.seen view) = (dvr_recorder.fclose H file w).seen view := by
  unfold dvr_recorder.fclose
  rw [World.seen_host, hviews.fclose]
  rfl

theorem Host.Views.open_seen (w : World σ) :
    dvr_recorder.MP4E_open K (w.seen view) =
      shown (World.seen view) (dvr_recorder.MP4E_open H w) := by
  unfold dvr_recorder.MP4E_open
  rw [World.seen_host, World.seen_self, hviews.MP4E_open]
  dsimp only
  split <;> rfl

theorem Host.Views.close_seen (mux : Handle) (w : World σ) :
    dvr_recorder.MP4E_close K mux (w.seen view) =
      (dvr_recorder.MP4E_close H mux w).seen view := by
  unfold dvr_recorder.MP4E_close
  rw [World.seen_host, World.seen_self, hviews.MP4E_close]
  rfl

theorem Host.Views.write_init_seen (w : World σ) :
    dvr_recorder.mp4_h26x_write_init K (w.seen view) =
      shown (World.seen view) (dvr_recorder.mp4_h26x_write_init H w) := by
  unfold dvr_recorder.mp4_h26x_write_init
  rw [World.seen_host, World.seen_self, hviews.write_init]
  rfl

theorem Host.Views.write_nal_seen (frame : Frame) (duration : Nat) (w : World σ) :
    dvr_recorder.mp4_h26x_write_nal K frame duration (w.seen view) =
      shown (World.seen view) (dvr_recorder.mp4_h26x_write_nal H frame duration w) := by
  unfold dvr_recorder.mp4_h26x_write_nal
  rw [World.seen_host, World.seen_self, hviews.write_nal]
  rfl

theorem Host.Views.close_writer_seen (clear_recording : Bool) (w : World σ) :
    DvrRecorder.close_writer K clear_recording (w.seen view) =
      (DvrRecorder.close_writer H clear_recording w).seen view := by
  have hmuxed (w : World σ) : DvrRecorder.close_mux K (w.seen view) =
      (DvrRecorder.close_mux H w).seen view := by
    unfold DvrRecorder.close_mux
    rw [World.seen_self]
    split
    · rw [hviews.close_seen, World.update_seen]
    · rfl
  have hreset (w : World σ) : DvrRecorder.close_nal_writer K (w.seen view) =
      (DvrRecorder.close_nal_writer H w).seen view := by
    unfold DvrRecorder.close_nal_writer dvr_recorder.mp4_h26x_write_close
    rw [World.seen_self, World.seen_host, hviews.write_close]
    split <;> rfl
  have hfiled (w : World σ) : DvrRecorder.close_file K (w.seen view) =
      (DvrRecorder.close_file H w).seen view := by
    unfold DvrRecorder.close_file
    rw [World.seen_self]
    split
    · rw [hviews.fclose_seen, World.update_seen]
    · rfl
  unfold DvrRecorder.close_writer
  rw [World.seen_self]
  split
  · split <;> rfl
  · dsimp only
    rw [World.update_seen, hmuxed, hreset, hfiled, World.update_seen, World.log_seen]

theorem Host.Views.init_writer_seen (mark_recording : Bool) (path : Path) (file mux : Handle)
    (w : World σ) :
    DvrRecorder.init_writer K mark_recording path file mux (w.seen view) =
      shown (World.seen view) (DvrRecorder.init_writer H mark_recording path file mux w) := by
  have hallocated : DvrRecorder.allocate_writer K (w.seen view) =
      (DvrRecorder.allocate_writer H w).seen view := by
    unfold DvrRecorder.allocate_writer
    rw [World.seen_self, World.seen_host, hviews.malloc]
    split <;> rfl
  unfold DvrRecorder.init_writer
  rw [hallocated]
  generalize DvrRecorder.allocate_writer H w = w₁
  dsimp only
  rw [World.seen_self]
  by_cases hwriter : w₁.self.writer_ = true
  · rw [if_neg (not_not.mpr hwriter), if_neg (not_not.mpr hwriter), hviews.write_init_seen]
    generalize dvr_recorder.mp4_h26x_write_init H w₁ = init
    by_cases hinit : init.1 ≠ MP4E_STATUS_OK
    · rw [if_pos hinit, if_pos (by exact hinit)]
      dsimp only [shown]
      rw [World.log_seen, hviews.close_seen, World.update_seen, hviews.fclose_seen]
    · rw [if_neg hinit, if_neg (by exact hinit)]
      rfl
  · rw [if_pos hwriter, if_pos hwriter, World.log_seen, hviews.close_seen, hviews.fclose_seen]
    rfl

theorem Host.Views.open_mux_seen (mark_recording : Bool) (path : Path) (file : Handle)
    (w : World σ) :
    DvrRecorder.open_mux K mark_recording path file (w.seen view) =
      shown (World.seen view) (DvrRecorder.open_mux H mark_recording path file w) := by
  unfold DvrRecorder.open_mux
  rw [World.update_seen, hviews.open_seen]
  generalize dvr_recorder.MP4E_open H (w.update fun self => { self with file_ := some file }) =
    opened
  obtain ⟨mux, w₁⟩ := opened
  cases mux with
  | none =>
    dsimp only [shown]
    rw [World.log_seen, World.update_seen, hviews.fclose_seen]
  | some mux => exact hviews.init_writer_seen mark_recording path file mux w₁

theorem Host.Views.open_writer_seen (mark_recording : Bool) (w : World σ) :
    DvrRecorder.open_writer K mark_recording (w.seen view) =
      shown (World.seen view) (DvrRecorder.open_writer H mark_recording w) := by
  unfold DvrRecorder.open_writer
  rw [World.seen_self, hviews.resolve_seen]
  dsimp only [shown]
  rw [hviews.fopen_seen]
  split
  · rfl
  · split
    · rfl
    · split
      · rfl
      · generalize dvr_recorder.fopen H _ _ = opened
        obtain ⟨file, w₁⟩ := opened
        cases file with
        | none => rfl
        | some file => exact hviews.open_mux_seen mark_recording _ file w₁

theorem Host.Views.try_rotate_seen (w : World σ) :
    DvrRecorder.try_rotate K (w.seen view) = (DvrRecorder.try_rotate H w).seen view := by
  have hrotated : DvrRecorder.rotate_recording_file K (w.seen view) =
      shown (World.seen view) (DvrRecorder.rotate_recording_file H w) := by
    unfold DvrRecorder.rotate_recording_file
    rw [World.seen_self, hviews.close_writer_seen, hviews.open_writer_seen]
    split <;> rfl
  unfold DvrRecorder.try_rotate
  rw [hrotated]
  dsimp only [shown]
  split
  · rfl
  · exact World.log_seen _ _

theorem Host.Views.after_write_seen (w : World σ) :
    DvrRecorder.after_write K (w.seen view) =
      shown (World.seen view) (DvrRecorder.after_write H w) := by
  have hserved : (if w.self.rotate_requested_ then
        DvrRecorder.try_rotate K
          ((w.seen view).update fun self => { self with rotate_requested_ := false })
      else w.seen view) =
      (if w.self.rotate_requested_ then
        DvrRecorder.try_rotate H (w.update fun self => { self with rotate_requested_ := false })
      else w).seen view := by
    rw [World.update_seen, hviews.try_rotate_seen]
    split <;> rfl
  unfold DvrRecorder.after_write
  rw [World.seen_self, hserved]
  generalize (if w.self.rotate_requested_ then
    DvrRecorder.try_rotate H (w.update fun self => { self with rotate_requested_ := false })
    else w) = served
  dsimp only
  rw [World.seen_self]
  split
  · rw [World.update_seen, World.log_seen, hviews.close_writer_seen, World.update_seen]
    rfl
  · split
    · rw [hviews.try_rotate_seen]
      rfl
    · rfl

theorem Host.Views.drain_body_seen (w : World σ) :
    DvrRecorder.drain_body K (w.seen view) =
      shown (World.seen view) (DvrRecorder.drain_body H w) := by
  unfold DvrRecorder.drain_body
  dsimp only
  rw [World.seen_self, World.update_seen]
  cases w.self.ring_buffer_.pop.1 with
  | none => rfl
  | some frame =>
    dsimp only
    rw [World.seen_self, hviews.write_nal_seen]
    generalize dvr_recorder.mp4_h26x_write_nal H frame _ _ = written
    by_cases hres : written.1 = MP4E_STATUS_OK ∨ written.1 = MP4E_STATUS_BAD_ARGUMENTS
    · rw [if_neg (not_not.mpr hres), if_neg (not_not.mpr (by exact hres))]
      exact hviews.after_write_seen _
    · rw [if_pos hres, if_pos (by exact hres)]
      rfl

theorem Host.Views.drain_seen (fuel : Nat) (w : World σ) :
    DvrRecorder.drain K fuel (w.seen view) = (DvrRecorder.drain H fuel w).seen view := by
  induction fuel generalizing w with
  | zero => rfl
  | succ fuel ih =>
    unfold DvrRecorder.drain
    rw [World.seen_self, hviews.drain_body_seen]
    dsimp only [shown]
    split
    · split
      · exact ih _
      · rfl
    · rfl

theorem Host.Views.warm_up_seen (w : World σ) :
    DvrRecorder.warm_up K (w.seen view) = (DvrRecorder.warm_up H w).seen view := by
  have hcounted : DvrRecorder.count_frame K (w.seen view) =
      (DvrRecorder.count_frame H w).seen view := by
    unfold DvrRecorder.count_frame
    rw [World.seen_self, hviews.monotonic_ms_seen]
    split <;> rfl
  have hfinished (elapsed : Nat) (w : World σ) :
      DvrRecorder.finish_warm_up K elapsed (w.seen view) =
        (DvrRecorder.finish_warm_up H elapsed w).seen view := by
    unfold DvrRecorder.finish_warm_up
    rw [World.seen_self, hviews.open_writer_seen]
    dsimp only [shown]
    split <;> rfl
  unfold DvrRecorder.warm_up
  dsimp only
  rw [hcounted, hviews.monotonic_ms_seen]
  dsimp only [shown]
  rw [World.seen_self, hfinished]
  exact (apply_ite (World.seen view) _ _ _).symm

theorem Host.Views.process_command_seen (cmd : Command) (w : World σ) :
    DvrRecorder.process_command K cmd (w.seen view) =
      (DvrRecorder.process_command H cmd w).seen view := by
  have hhandled : DvrRecorder.handle_command K cmd (w.seen view) =
      (DvrRecorder.handle_command H cmd w).seen view := by
    obtain ⟨type, payload⟩ := cmd
    cases type with
    | Start =>
      unfold DvrRecorder.handle_command
      dsimp only
      rw [World.seen_self]
      split <;> rfl
    | Stop =>
      unfold DvrRecorder.handle_command
      dsimp only
      rw [hviews.close_writer_seen, World.update_seen]
    | Frame =>
      unfold DvrRecorder.handle_command
      dsimp only
      cases payload with
      | none => rfl
      | some frame =>
        dsimp only
        rw [World.seen_self, hviews.warm_up_seen, World.update_seen, hviews.drain_seen,
          World.seen_self]
        split
        · rfl
        · split <;> rfl
    | Shutdown =>
      unfold DvrRecorder.handle_command
      dsimp only
      rw [World.update_seen, hviews.close_writer_seen, World.update_seen]
  unfold DvrRecorder.process_command
  rw [hhandled]
  dsimp only
  rw [hviews.close_writer_seen]
  split <;> rfl

/-- The worker behaves alike on both hosts, whatever the commands are: what its
host keeps besides the view never matters. -/
theorem Host.Views.worker_loop_seen (w : Worker σ) (cmds : List Command) :
    DvrRecorder.worker_loop K (w.seen view) cmds =
      (DvrRecorder.worker_loop H w cmds).seen view := by
  induction cmds generalizing w with
  | nil => rfl
  | cons cmd rest ih =>
    have hstep : DvrRecorder.worker_step K (w.seen view) cmd =
        (DvrRecorder.worker_step H w cmd).seen view := by
      unfold DvrRecorder.worker_step
      have hexited : (w.seen view).exited = w.exited := rfl
      have hworld : (w.seen view).toWorld = w.toWorld.seen view := rfl
      rw [hexited, hworld, hviews.process_command_seen]
      split <;> rfl
    unfold DvrRecorder.worker_loop at ih ⊢
    rw [List.foldl_cons, List.foldl_cons, hstep]
    exact ih _

end

/-- The host with the data shows the host with the sizes. -/
theorem Machine.film_host_views {ω : Type} (M : Machine ω) :
    M.film_host.Views M.host Footage.toDisk where
  monotonic_ms _ := rfl
  resolve_target_file _ _ := rfl
  fopen _ _ := rfl
  fclose _ := rfl
  malloc _ := rfl
  MP4E_open self footage := by
    have hopen := M.forgets_film_calls.open (footage.film_env self)
    unfold Machine.host Machine.film_host
    dsimp only
    rw [show footage.toDisk.env self = (footage.film_env self).env from rfl, hopen]
    rfl
  MP4E_close self footage := by
    have hclose := M.forgets_film_calls.close footage.track footage.writer.mux
      (footage.film_env self)
    unfold Machine.host Machine.film_host
    dsimp only
    rw [show footage.toDisk.env self = (footage.film_env self).env from rfl, hclose]
    rfl
  write_init _ _ := rfl
  write_nal self frame duration footage := by
    have hwrite := M.forgets_film_calls.write_nal_units duration (minimp4.nal_units frame)
      footage.writer (footage.film_env self)
    unfold Machine.host Machine.film_host minimp4.mp4_h26x_write_nal
    dsimp only
    rw [show footage.toDisk.env self = (footage.film_env self).env from rfl, hwrite]
    rfl
  write_close _ := rfl

/-- A recorder that works on the sizes alone is in every run the recorder that
works on the data, as far as the sizes show it. -/
theorem film_worker_seen {ω : Type} (M : Machine ω) (w : Worker (Footage ω)) (cmds : List Command) :
    DvrRecorder.worker_loop M.host (w.seen Footage.toDisk) cmds =
      (DvrRecorder.worker_loop M.film_host w cmds).seen Footage.toDisk :=
  M.film_host_views.worker_loop_seen w cmds

end amldigitalfpv.dvr_recorder
