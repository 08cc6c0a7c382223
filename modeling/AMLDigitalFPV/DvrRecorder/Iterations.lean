import AMLDigitalFPV.DvrRecorder.WorkerSpec

open Runs amldigitalfpv.frame_ring_buffer

namespace amldigitalfpv.dvr_recorder

section

variable {ω : Type} (H : Host ω)

/-- The worlds in which the drain loop begins an iteration. -/
def drain_iterations : Nat → World ω → List (World ω)
  | 0, _ => []
  | fuel + 1, w =>
    if w.self.drain_condition then
      let body := DvrRecorder.drain_body H w
      w :: if body.1 then drain_iterations fuel body.2 else []
    else
      []

/-- The iterations of the drain loop in the reaction to one command. -/
def command_iterations (w : World ω) (cmd : Command) : List (World ω) :=
  match cmd.type, cmd.frame with
  | .Frame, some frame =>
    if w.self.recording_ ∧ w.self.warmup_done_ then
      drain_iterations H (pushed frame w).self.ring_buffer_.size_ (pushed frame w)
    else
      []
  | _, _ => []

/-- The iterations of the drain loop in a run of the worker. -/
def iterations (w : Worker ω) : List Command → List (World ω)
  | [] => []
  | cmd :: cmds =>
    (if w.exited then [] else command_iterations H w.toWorld cmd) ++
      iterations (DvrRecorder.worker_step H w cmd) cmds

/-- The world in which the request for a rotation has been taken back. -/
def request_cleared (w : World ω) : World ω :=
  w.update fun self => { self with rotate_requested_ := false }

/-- The world in which a request for a rotation, if any, has been served. -/
def request_served (w : World ω) : World ω :=
  if w.self.rotate_requested_ then DvrRecorder.try_rotate H (request_cleared w) else w

/-- The worlds in which the drain loop's body asks for the next file, once a
frame has been written with an accepted status. -/
def after_write_rotations (w : World ω) : List (World ω) :=
  (if w.self.rotate_requested_ then [request_cleared w] else []) ++
    if ¬ (request_served H w).self.stop_requested_ ∧
        (request_served H w).self.current_file_bytes_ ≥ kMaxFat32Size then
      [request_served H w]
    else
      []

/-- The worlds in which an iteration of the drain loop rotates the file. -/
def body_rotations (w : World ω) : List (World ω) :=
  match w.self.ring_buffer_.pop.1 with
  | none => []
  | some frame =>
    if rejected (write_popped H frame w).1 then []
    else after_write_rotations H (write_popped H frame w).2

/-- The worlds in which a run of the worker rotates the file. -/
def rotations (w : Worker ω) (cmds : List Command) : List (World ω) :=
  (iterations H w cmds).flatMap (body_rotations H)

theorem mem_command_iterations {w v : World ω} {cmd : Command}
    (hmem : v ∈ command_iterations H w cmd) :
    ∃ frame, cmd.type = .Frame ∧ cmd.frame = some frame ∧ w.self.recording_ = true ∧
      w.self.warmup_done_ = true ∧
      v ∈ drain_iterations H (pushed frame w).self.ring_buffer_.size_ (pushed frame w) := by
  unfold command_iterations at hmem
  split at hmem
  · next frame htype hframe =>
    split at hmem
    · next hsession => exact ⟨frame, htype, hframe, hsession.1, hsession.2, hmem⟩
    · cases hmem
  · cases hmem

theorem drain_condition_of_mem_drain_iterations {v : World ω} {fuel : Nat} {w : World ω}
    (hmem : v ∈ drain_iterations H fuel w) : v.self.drain_condition = true := by
  induction fuel generalizing w with
  | zero => cases hmem
  | succ fuel ih =>
    unfold drain_iterations at hmem
    split at hmem
    · next hcond =>
      cases hmem with
      | head => exact hcond
      | tail _ hrest =>
        split at hrest
        · exact ih hrest
        · cases hrest
    · cases hmem

/-- Every iteration finds the writer open and the ring occupied. -/
theorem drain_condition_of_mem_iterations {v : World ω} {w : Worker ω} {cmds : List Command}
    (hmem : v ∈ iterations H w cmds) : v.self.drain_condition = true := by
  induction cmds generalizing w with
  | nil => cases hmem
  | cons cmd cmds ih =>
    obtain hfirst | hrest := List.mem_append.mp hmem
    · split at hfirst
      · cases hfirst
      · obtain ⟨frame, -, -, -, -, hdrain⟩ := mem_command_iterations H hfirst
        exact drain_condition_of_mem_drain_iterations H hdrain
    · exact ih hrest

end

/-- Two worlds that differ neither in the surroundings nor in the members that
opening and closing a file consults, with nothing but lines logged between
them, none of them by the opening of a file. -/
structure Neutral {ω : Type} (before after : World ω) : Prop where
  host : after.host = before.host
  handles : after.handles = before.handles
  file : after.self.file_ = before.self.file_
  mux : after.self.mux_ = before.self.mux_
  ready : after.self.writer_ready_ = before.self.writer_ready_
  override_path : after.self.override_path_ = before.self.override_path_
  trace : Emits World.trace
    (fun action => ∃ line, action = .log line ∧ line ≠ .failed_to_allocate_writer) before after

/-- What a property of the recorder and its surroundings has to survive to be
an invariant of the worker. -/
structure Preserved {ω : Type} (H : Host ω) (P : World ω → Prop) : Prop where
  neutral : ∀ {before after}, Neutral before after → P before → P after
  monotonic_ms : ∀ {w}, P w → P (monotonic_ms H w).2
  write_nal : ∀ {w} frame duration, w.self.writer_ready_ = true → P w →
    P (mp4_h26x_write_nal H frame duration w).2
  close_writer : ∀ {w} clear_recording, P w → P (DvrRecorder.close_writer H clear_recording w)
  open_writer : ∀ {w} mark_recording, w.self.writer_ready_ = false → P w →
    P (DvrRecorder.open_writer H mark_recording w).2

namespace Preserved

variable {ω : Type} {H : Host ω} {P : World ω → Prop} (hP : Preserved H P)
include hP

theorem update (f : DvrRecorder → DvrRecorder) {w : World ω}
    (hfile : (f w.self).file_ = w.self.file_) (hmux : (f w.self).mux_ = w.self.mux_)
    (hready : (f w.self).writer_ready_ = w.self.writer_ready_)
    (hpath : (f w.self).override_path_ = w.self.override_path_) (h : P w) : P (w.update f) := by
  have hneutral : Neutral w (w.update f) :=
    ⟨rfl, rfl, hfile, hmux, hready, hpath, Emits.of_log_eq rfl⟩
  exact hP.neutral hneutral h

theorem log {line : LogLine} (hline : line ≠ .failed_to_allocate_writer) {w : World ω} (h : P w) :
    P (w.log line) := by
  have hneutral : Neutral w (w.log line) :=
    ⟨rfl, rfl, rfl, rfl, rfl, rfl, Emits.of_append rfl ⟨line, rfl, hline⟩⟩
  exact hP.neutral hneutral h

theorem try_rotate {w : World ω} (h : P w) : P (DvrRecorder.try_rotate H w) := by
  have hrotated : P (DvrRecorder.rotate_recording_file H w).2 := by
    unfold DvrRecorder.rotate_recording_file
    split
    · exact h
    · exact hP.open_writer false (close_writer_ready H false w) (hP.close_writer false h)
  unfold DvrRecorder.try_rotate
  dsimp only
  split
  · exact hrotated
  · exact hP.log (by simp) hrotated

theorem request_served {w : World ω} (h : P w) : P (request_served H w) := by
  unfold dvr_recorder.request_served
  split
  · exact hP.try_rotate (hP.update _ rfl rfl rfl rfl h)
  · exact h

theorem after_write_rotations {w v : World ω} (h : P w)
    (hmem : v ∈ after_write_rotations H w) : P v := by
  unfold dvr_recorder.after_write_rotations at hmem
  obtain hfirst | hsecond := List.mem_append.mp hmem
  · split at hfirst
    · rw [List.mem_singleton.mp hfirst]
      exact hP.update _ rfl rfl rfl rfl h
    · cases hfirst
  · split at hsecond
    · rw [List.mem_singleton.mp hsecond]
      exact hP.request_served h
    · cases hsecond

theorem after_write {w : World ω} (h : P w) : P (DvrRecorder.after_write H w).2 := by
  have hserved : P (if w.self.rotate_requested_ then
      DvrRecorder.try_rotate H (w.update fun self => { self with rotate_requested_ := false })
      else w) := hP.request_served h
  unfold DvrRecorder.after_write
  generalize (if w.self.rotate_requested_ then
    DvrRecorder.try_rotate H (w.update fun self => { self with rotate_requested_ := false })
    else w) = served at hserved
  dsimp only
  split
  · have hended := hP.update (fun self => { self with stop_requested_ := false }) rfl rfl rfl rfl
      hserved
    exact hP.update (fun self => self.clear_ring_buffer.reset_warmup_state) rfl rfl rfl rfl
      (hP.close_writer true (hP.log (by simp) hended))
  · split
    · exact hP.try_rotate hserved
    · exact hserved

theorem write_popped {w : World ω} (frame : Frame) (hready : w.self.writer_ready_ = true)
    (h : P w) : P (write_popped H frame w).2 :=
  hP.write_nal (w := popped w) frame _ hready
    (hP.update (fun self => { self with ring_buffer_ := self.ring_buffer_.pop.2 })
      rfl rfl rfl rfl h)

theorem drain_body {w : World ω} (hcond : w.self.drain_condition = true) (h : P w) :
    P (DvrRecorder.drain_body H w).2 := by
  obtain ⟨-, hready, -, -⟩ := (drain_condition_iff _).mp hcond
  cases hframe : w.self.ring_buffer_.pop.1 with
  | none =>
    rw [drain_body_of_null H hframe]
    exact hP.update (fun self => { self with ring_buffer_ := self.ring_buffer_.pop.2 })
      rfl rfl rfl rfl h
  | some frame =>
    have hwrote := hP.write_popped frame hready h
    by_cases hres : rejected (dvr_recorder.write_popped H frame w).1
    · rw [drain_body_of_rejected H hframe hres]
      exact hP.update (fun self => { self with stop_requested_ := true }) rfl rfl rfl rfl
        (hP.log (by simp) hwrote)
    · rw [drain_body_of_accepted H hframe hres]
      exact hP.after_write hwrote

theorem body_rotations {w v : World ω} (hcond : w.self.drain_condition = true) (h : P w)
    (hmem : v ∈ body_rotations H w) : P v := by
  obtain ⟨-, hready, -, -⟩ := (drain_condition_iff _).mp hcond
  unfold dvr_recorder.body_rotations at hmem
  split at hmem
  · cases hmem
  · split at hmem
    · cases hmem
    · exact hP.after_write_rotations (hP.write_popped _ hready h) hmem

theorem pushed {w : World ω} (frame : Frame) (h : P w) : P (pushed frame w) :=
  hP.update (fun self => { self with ring_buffer_ := self.ring_buffer_.push (some frame) })
    rfl rfl rfl rfl h

theorem drain (fuel : Nat) {w : World ω} (h : P w) : P (DvrRecorder.drain H fuel w) := by
  refine drain_induction H (P := fun before after => P before → P after)
    (fun _ h => h) ?_ ?_ fuel w h
  · intro w hcond _ h
    exact hP.drain_body hcond h
  · intro w after hcond _ hrest h
    exact hrest (hP.drain_body hcond h)

theorem drain_iterations {fuel : Nat} {w v : World ω} (h : P w)
    (hmem : v ∈ drain_iterations H fuel w) : P v := by
  induction fuel generalizing w with
  | zero => cases hmem
  | succ fuel ih =>
    unfold dvr_recorder.drain_iterations at hmem
    split at hmem
    · next hcond =>
      cases hmem with
      | head => exact h
      | tail _ hrest =>
        split at hrest
        · exact ih (hP.drain_body hcond h) hrest
        · cases hrest
    · cases hmem

theorem warm_up {w : World ω} (h : P w) : P (DvrRecorder.warm_up H w) := by
  have hcounted : P (DvrRecorder.count_frame H w) := by
    unfold DvrRecorder.count_frame
    split
    · exact hP.update _ rfl rfl rfl rfl (hP.monotonic_ms h)
    · exact hP.update _ rfl rfl rfl rfl h
  have hread := hP.monotonic_ms hcounted
  unfold DvrRecorder.warm_up DvrRecorder.finish_warm_up
  dsimp only
  split
  · have hopened : P (DvrRecorder.open_writer H false
        (dvr_recorder.monotonic_ms H (DvrRecorder.count_frame H w)).2).2 := by
      cases hready :
          (dvr_recorder.monotonic_ms H (DvrRecorder.count_frame H w)).2.self.writer_ready_ with
      | true =>
        rw [open_writer_of_ready H hready]
        exact hread
      | false => exact hP.open_writer false hready hread
    split
    · apply hP.log (by simp)
      obtain ⟨duration, hrate⟩ := DvrRecorder.update_frame_rate_frame _ _
      exact hP.update _ (by rw [hrate]; rfl) (by rw [hrate]; rfl) (by rw [hrate]; rfl)
        (by rw [hrate]; rfl) hopened
    · exact hP.update _ rfl rfl rfl rfl (hP.log (by simp) hopened)
  · exact hread

theorem process_command {w : World ω} (h : P w) (cmd : Command) :
    P (DvrRecorder.process_command H cmd w) := by
  have hhandled : P (DvrRecorder.handle_command H cmd w) := by
    unfold DvrRecorder.handle_command
    split
    · split
      · exact hP.log (by simp) (hP.update _ rfl rfl rfl rfl h)
      · exact h
    · exact hP.update _ rfl rfl rfl rfl (hP.close_writer true h)
    · split
      · exact h
      · split
        · exact h
        · split
          · exact hP.warm_up h
          · exact hP.drain _ (hP.update _ rfl rfl rfl rfl h)
    · exact hP.update _ rfl rfl rfl rfl (hP.close_writer true (hP.update _ rfl rfl rfl rfl h))
  unfold DvrRecorder.process_command
  dsimp only
  split
  · exact hP.close_writer true hhandled
  · exact hhandled

theorem worker_step {w : Worker ω} (h : P w.toWorld) (cmd : Command) :
    P (DvrRecorder.worker_step H w cmd).toWorld := by
  unfold DvrRecorder.worker_step
  split
  · exact h
  · exact hP.process_command h cmd

/-- A preserved property holds at the end of every run that starts with it. -/
theorem worker_loop {w : Worker ω} (h : P w.toWorld) (cmds : List Command) :
    P (DvrRecorder.worker_loop H w cmds).toWorld :=
  worker_loop_invariant H (P := P) (fun _ cmd h => hP.process_command h cmd) h cmds

/-- It holds at every iteration of the drain loop on the way. -/
theorem iterations {w : Worker ω} {v : World ω} {cmds : List Command} (h : P w.toWorld)
    (hmem : v ∈ iterations H w cmds) : P v := by
  induction cmds generalizing w with
  | nil => cases hmem
  | cons cmd cmds ih =>
    obtain hfirst | hrest := List.mem_append.mp hmem
    · split at hfirst
      · cases hfirst
      · obtain ⟨frame, -, -, -, -, hdrain⟩ := mem_command_iterations H hfirst
        exact hP.drain_iterations (hP.pushed frame h) hdrain
    · exact ih (hP.worker_step h cmd) hrest

/-- And it holds wherever the file is rotated. -/
theorem rotations {w : Worker ω} {v : World ω} {cmds : List Command} (h : P w.toWorld)
    (hmem : v ∈ rotations H w cmds) : P v := by
  obtain ⟨u, hu, hv⟩ := List.mem_flatMap.mp hmem
  exact hP.body_rotations (drain_condition_of_mem_iterations H hu) (hP.iterations h hu) hv

end Preserved

/-- What a property of the surroundings and the trace has to survive to hold
across everything that opening and closing do besides `fopen`. The members of
the recorder do not matter to it. -/
structure Framed {ω : Type} (H : Host ω) (P : World ω → Prop) : Prop where
  silent : ∀ {before after}, after.host = before.host →
    Emits World.trace (fun action => ∃ line, action = .log line ∧ line ≠ .warm_up_started)
      before after → P before → P after
  malloc : ∀ {w}, P w → P { w with host := (H.malloc w.host).2 }
  fclose : ∀ {w} file, P w → P (fclose H file w)
  MP4E_open : ∀ {w}, P w → P (MP4E_open H w).2
  MP4E_close : ∀ {w} mux, P w → P (MP4E_close H mux w)
  write_init : ∀ {w}, P w → P (mp4_h26x_write_init H w).2
  write_close : ∀ {w}, P w → P (mp4_h26x_write_close H w)

namespace Framed

variable {ω : Type} {H : Host ω} {P : World ω → Prop} (hP : Framed H P) {w : World ω}
include hP

theorem update (f : DvrRecorder → DvrRecorder) (h : P w) : P (w.update f) := by
  refine hP.silent ?_ ?_ h
  · rfl
  · exact Emits.of_log_eq rfl

theorem log {line : LogLine} (hline : line ≠ .warm_up_started) (h : P w) : P (w.log line) := by
  refine hP.silent ?_ ?_ h
  · rfl
  · exact Emits.of_append rfl ⟨line, rfl, hline⟩

theorem close_writer (clear_recording : Bool) (h : P w) :
    P (DvrRecorder.close_writer H clear_recording w) := by
  have hmuxed : ∀ {w}, P w → P (DvrRecorder.close_mux H w) := by
    intro w h
    unfold DvrRecorder.close_mux
    split
    · exact hP.update _ (hP.MP4E_close _ h)
    · exact h
  have hreset : ∀ {w}, P w → P (DvrRecorder.close_nal_writer H w) := by
    intro w h
    unfold DvrRecorder.close_nal_writer
    split
    · exact hP.write_close h
    · exact h
  have hfiled : ∀ {w}, P w → P (DvrRecorder.close_file H w) := by
    intro w h
    unfold DvrRecorder.close_file
    split
    · exact hP.update _ (hP.fclose _ h)
    · exact h
  unfold DvrRecorder.close_writer
  split
  · split
    · exact hP.update _ h
    · exact h
  · exact hP.log (by decide) (hP.update _ (hfiled (hreset (hmuxed (hP.update _ h)))))

theorem init_writer (mark_recording : Bool) (path : Path) (file mux : Handle) (h : P w) :
    P (DvrRecorder.init_writer H mark_recording path file mux w).2 := by
  have hallocated : P (DvrRecorder.allocate_writer H w) := by
    unfold DvrRecorder.allocate_writer
    split
    · exact h
    · refine hP.silent ?_ ?_ (hP.malloc h)
      · rfl
      · exact Emits.of_log_eq rfl
  unfold DvrRecorder.init_writer DvrRecorder.start_writer
  dsimp only
  split
  · exact hP.fclose _ (hP.MP4E_close _ (hP.log (by decide) hallocated))
  · have hinit := hP.write_init hallocated
    split
    · exact hP.fclose _ (hP.update _ (hP.MP4E_close _ (hP.log (by decide) hinit)))
    · exact hP.log LogLine.noConfusion (hP.update _ hinit)

theorem open_mux (mark_recording : Bool) (path : Path) (file : Handle) (h : P w) :
    P (DvrRecorder.open_mux H mark_recording path file w).2 := by
  have hopened := hP.MP4E_open (hP.update (fun self => { self with file_ := some file }) h)
  unfold DvrRecorder.open_mux
  split
  · next hreply =>
    rw [hreply] at hopened
    exact hP.fclose _ (hP.update _ (hP.log (by decide) hopened))
  · next hreply =>
    rw [hreply] at hopened
    exact hP.init_writer _ _ _ _ hopened

end Framed

end amldigitalfpv.dvr_recorder
