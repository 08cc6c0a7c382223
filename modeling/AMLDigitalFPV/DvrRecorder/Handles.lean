import AMLDigitalFPV.DvrRecorder.Invariant
import AMLDigitalFPV.DvrRecorder.Iterations
import AMLDigitalFPV.Library.Custody
import AMLDigitalFPV.Library.Transition

open Runs Transition

namespace amldigitalfpv.dvr_recorder

def Action.opened_file : Action → Option Handle
  | .fopen file _ => some file
  | _ => none

def Action.opened_mux : Action → Option Handle
  | .mp4e_open mux => some mux
  | _ => none

theorem opened_file_eq_some {action : Action} {file : Handle} :
    action.opened_file = some file ↔ ∃ path, action = .fopen file path := by
  cases action <;> simp [Action.opened_file]

theorem opened_mux_eq_some {action : Action} {mux : Handle} :
    action.opened_mux = some mux ↔ action = .mp4e_open mux := by
  cases action <;> simp [Action.opened_mux]

/-- A file, a muxer on top of it, and the next handle to be given out. -/
structure Handles where
  next : Nat := 0
  file : Option Handle := none
  mux : Option Handle := none
deriving DecidableEq, Repr

/-- How handles are to be used: no file is opened before the last one is closed,
a muxer is opened on an open file and closed before it, and frames are written
in between. -/
def Handles.use (handles : Handles) : Action → Option Handles
  | .fopen file _ =>
    if handles.file = none ∧ file = handles.next then
      some { handles with next := file + 1, file := some file }
    else
      none
  | .mp4e_open mux =>
    if handles.file ≠ none ∧ handles.mux = none ∧ mux = handles.next then
      some { handles with next := mux + 1, mux := some mux }
    else
      none
  | .write_nal .. => if handles.file ≠ none ∧ handles.mux ≠ none then some handles else none
  | .mp4e_close mux => if handles.mux = some mux then some { handles with mux := none } else none
  | .fclose file =>
    if handles.file = some file ∧ handles.mux = none then some { handles with file := none }
    else none
  | .log _ => some handles

/-- The handles in use are the ones opened and not closed yet. -/
structure Settled (taken : List Action) (handles : Handles) : Prop where
  files : Custody Action.opened_file Action.fclose taken (fun file => handles.next ≤ file)
    (fun file => handles.file = some file)
  muxes : Custody Action.opened_mux Action.mp4e_close taken (fun mux => handles.next ≤ mux)
    (fun mux => handles.mux = some mux)

theorem fclose_injective : Function.Injective Action.fclose := fun _ _ => Action.fclose.inj

theorem mp4e_close_injective : Function.Injective Action.mp4e_close :=
  fun _ _ => Action.mp4e_close.inj

theorem Settled.use {taken : List Action} {before after : Handles} (h : Settled taken before)
    {action : Action} (huse : before.use action = some after) :
    Settled (taken ++ [action]) after := by
  obtain ⟨hfiles, hmuxes⟩ := h
  cases action with
  | fopen file path =>
    obtain ⟨⟨hfile, rfl⟩, rfl⟩ := by simpa [Handles.use] using huse
    constructor
    · refine hfiles.open_fresh _ (fun _ => rfl) rfl (Nat.le_refl _) ?_ ?_
      · exact fun other hother => ⟨Nat.le_of_succ_le hother, Nat.ne_of_gt hother⟩
      · simp [hfile, eq_comm]
    · refine (hmuxes.append rfl (by simp)).congr ?_ fun _ => Iff.rfl
      exact fun other hother => Nat.le_of_succ_le hother
  | mp4e_open mux =>
    obtain ⟨⟨-, hmux, rfl⟩, rfl⟩ := by simpa [Handles.use] using huse
    constructor
    · refine (hfiles.append rfl (by simp)).congr ?_ fun _ => Iff.rfl
      exact fun other hother => Nat.le_of_succ_le hother
    · refine hmuxes.open_fresh _ (fun _ => rfl) rfl (Nat.le_refl _) ?_ ?_
      · exact fun other hother => ⟨Nat.le_of_succ_le hother, Nat.ne_of_gt hother⟩
      · simp [hmux, eq_comm]
  | write_nal frame duration res calls =>
    obtain ⟨-, rfl⟩ := by simpa [Handles.use] using huse
    exact ⟨hfiles.append rfl nofun, hmuxes.append rfl nofun⟩
  | mp4e_close mux =>
    obtain ⟨hmux, rfl⟩ := by simpa [Handles.use] using huse
    refine ⟨hfiles.append rfl nofun, ?_⟩
    apply hmuxes.close_held _ (fun _ => rfl) mp4e_close_injective hmux
    intro other
    simp [hmux, eq_comm]
  | fclose file =>
    obtain ⟨⟨hfile, -⟩, rfl⟩ := by simpa [Handles.use] using huse
    refine ⟨?_, hmuxes.append rfl nofun⟩
    apply hfiles.close_held _ (fun _ => rfl) fclose_injective hfile
    intro other
    simp [hfile, eq_comm]
  | log line =>
    cases huse
    exact ⟨hfiles.append rfl nofun, hmuxes.append rfl nofun⟩

theorem settled_of_exec {taken : List Action} {handles : Handles}
    (hexec : exec Handles.use {} taken = some handles) : Settled taken handles := by
  induction taken using List.reverseRecOn generalizing handles with
  | nil =>
    cases hexec
    constructor <;> exact (Custody.nil _).congr (fun _ => id) (by simp)
  | append_singleton taken action ih =>
    obtain ⟨before, hbefore, huse⟩ := exec_concat_eq_some_iff.mp hexec
    exact (ih hbefore).use huse

def unallocated_step (failed : Bool) : Action → Bool
  | .fopen .. => false
  | .log .failed_to_allocate_writer => true
  | _ => failed

/-- The last attempt to open a file has got no further than its writer. -/
def unallocated (taken : List Action) : Bool := taken.foldl unallocated_step false

theorem unallocated_append (taken more : List Action) :
    unallocated (taken ++ more) = more.foldl unallocated_step (unallocated taken) :=
  List.foldl_append

section

variable {ω : Type} {H : Host ω} {w : World ω}

/-- The trace leaves the handles `file` and `mux` in use. -/
def Holds (w : World ω) (file mux : Option Handle) : Prop :=
  exec Handles.use {} w.trace = some { next := w.handles, file := file, mux := mux }

theorem Holds.log {file mux : Option Handle} (h : Holds w file mux) (line : LogLine) :
    Holds (w.log line) file mux := by
  unfold Holds at h ⊢
  simp [World.log, World.perform, exec_concat, h, Handles.use]

theorem Holds.MP4E_open {file : Handle} (h : Holds w (some file) none) :
    Holds (MP4E_open H w).2 (some file) (dvr_recorder.MP4E_open H w).1 := by
  unfold Holds at h ⊢
  unfold dvr_recorder.MP4E_open
  dsimp only
  split
  · simp [exec_concat, h, Handles.use]
  · exact h

theorem Holds.MP4E_close {file : Option Handle} {mux : Handle} (h : Holds w file (some mux)) :
    Holds (MP4E_close H mux w) file none := by
  unfold Holds at h ⊢
  simp [dvr_recorder.MP4E_close, exec_concat, h, Handles.use]

theorem Holds.fclose {file : Handle} (h : Holds w (some file) none) :
    Holds (fclose H file w) none none := by
  unfold Holds at h ⊢
  simp [dvr_recorder.fclose, exec_concat, h, Handles.use]

/-- What the members say of the handles in use. A `file_` that is not in use is
one that a failed allocation has left behind. -/
structure Handled (w : World ω) : Prop where
  held : Holds w (if w.self.writer_ready_ then w.self.file_ else none) w.self.mux_
  mux : w.self.mux_.isSome = w.self.writer_ready_
  file : w.self.file_.isSome = (w.self.writer_ready_ || unallocated w.trace)
  allocated : w.self.writer_ready_ = true → unallocated w.trace = false

theorem Handled.of_not_ready (hready : w.self.writer_ready_ = false) (hheld : Holds w none none)
    (hmux : w.self.mux_ = none) (hfile : w.self.file_.isSome = unallocated w.trace) :
    Handled w := by
  refine ⟨?_, by simp [hmux, hready], by simp [hfile, hready], by simp [hready]⟩
  simpa [hready, hmux] using hheld

/-- The members and the handles while a file is being opened. -/
structure Attempt (file : Handle) (mux : Option Handle) (w : World ω) : Prop where
  held : Holds w (some file) mux
  ready : w.self.writer_ready_ = false
  mux : w.self.mux_ = none
  file : w.self.file_ = some file
  allocated : unallocated w.trace = false

theorem Attempt.init_writer {file mux : Handle} (h : Attempt file (some mux) w)
    (mark_recording : Bool) (path : Path) :
    Handled (DvrRecorder.init_writer H mark_recording path file mux w).2 := by
  have hallocated : Attempt file (some mux) (DvrRecorder.allocate_writer H w) := by
    unfold DvrRecorder.allocate_writer
    split
    · exact h
    · exact ⟨h.held, h.ready, h.mux, h.file, h.allocated⟩
  unfold DvrRecorder.init_writer
  generalize DvrRecorder.allocate_writer H w = w₁ at hallocated
  obtain ⟨hheld, hready, hmux, hfile, hunallocated⟩ := hallocated
  have hinit : Holds (mp4_h26x_write_init H w₁).2 (some file) (some mux) := hheld
  dsimp only
  split
  · -- the file is closed and `file_` stays
    refine .of_not_ready ?_ (hheld.log _).MP4E_close.fclose ?_ ?_ <;>
      simp [fclose, MP4E_close, World.log, World.perform, hready, hmux, hfile,
        unallocated_append, unallocated_step]
  · next hwriter =>
    split
    · have hclosed : Holds ((MP4E_close H mux ((mp4_h26x_write_init H w₁).2.log
          .write_init_failed)).update fun self => { self with file_ := none }) (some file) none :=
        (hinit.log _).MP4E_close (H := H)
      refine .of_not_ready ?_ hclosed.fclose ?_ ?_ <;>
        simp [fclose, MP4E_close, World.log, World.perform, World.update, mp4_h26x_write_init,
          hready, hmux, unallocated_append, unallocated_step, hunallocated]
    · have hwriter : w₁.self.writer_ = true := by simpa using hwriter
      have hself := start_writer_self (w := (mp4_h26x_write_init H w₁).2) mark_recording path mux
        hfile hwriter
      have htrace : (DvrRecorder.start_writer mark_recording path mux
          (mp4_h26x_write_init H w₁).2).trace = w₁.trace ++ [.log (.recording_to path)] := rfl
      have hheld' : Holds (DvrRecorder.start_writer mark_recording path mux
          (mp4_h26x_write_init H w₁).2) (some file) (some mux) := hinit.log (.recording_to path)
      constructor
      · simpa [hself, DvrRecorder.opened] using hheld'
      all_goals simp [hself, htrace, DvrRecorder.opened, unallocated_append, unallocated_step,
        hunallocated]

theorem open_mux_handled {file : Handle} (h : Holds w (some file) none)
    (hready : w.self.writer_ready_ = false) (hmux : w.self.mux_ = none)
    (hunallocated : unallocated w.trace = false) (mark_recording : Bool) (path : Path) :
    Handled (DvrRecorder.open_mux H mark_recording path file w).2 := by
  have hopened := Holds.MP4E_open (H := H)
    (w := w.update fun self => { self with file_ := some file }) h
  have hself := MP4E_open_self H (w.update fun self => { self with file_ := some file })
  have hunopened : unallocated
      (dvr_recorder.MP4E_open H (w.update fun self => { self with file_ := some file })).2.trace =
        false := by
    unfold dvr_recorder.MP4E_open
    dsimp only
    split <;> simp [World.update, unallocated_append, unallocated_step, hunallocated]
  unfold DvrRecorder.open_mux
  generalize MP4E_open H (w.update fun self => { self with file_ := some file }) = reply
    at hopened hself hunopened
  obtain ⟨opened, w₁⟩ := reply
  dsimp only at hopened hself hunopened
  cases opened with
  | none =>
    have hclosed : Holds ((w₁.log .mp4e_open_failed).update fun self =>
        { self with file_ := none }) (some file) none := hopened.log _
    refine .of_not_ready ?_ hclosed.fclose ?_ ?_ <;>
      simp [fclose, World.log, World.perform, World.update, hself, hready, hmux,
        unallocated_append, unallocated_step, hunopened]
  | some mux =>
    refine Attempt.init_writer ⟨hopened, ?_, ?_, ?_, hunopened⟩ mark_recording path <;>
      simp [hself, World.update, hready, hmux]

theorem Handled.open_writer (h : Handled w) (hready : w.self.writer_ready_ = false)
    (mark_recording : Bool) : Handled (DvrRecorder.open_writer H mark_recording w).2 := by
  have hmux : w.self.mux_ = none := by simpa [hready] using h.mux
  have hfile : w.self.file_.isSome = unallocated w.trace := by simpa [hready] using h.file
  have hheld : Holds w none none := by simpa [hready, hmux] using h.held
  have hlog : ∀ {w₁ : World ω} {line}, w₁.self = w.self → w₁.trace = w.trace →
      w₁.handles = w.handles → line ≠ .failed_to_allocate_writer → Handled (w₁.log line) := by
    intro w₁ line hself htrace hhandles hline
    have hheld₁ : Holds w₁ none none := by
      unfold Holds at hheld ⊢
      rw [htrace, hhandles, hheld]
    refine .of_not_ready ?_ (hheld₁.log line) ?_ ?_
    · simp [World.log, World.perform, hself, hready]
    · simp [World.log, World.perform, hself, hmux]
    · rw [World.log, World.perform, hself, htrace, unallocated_append, hfile]
      cases line <;> simp_all [unallocated_step]
  unfold DvrRecorder.open_writer
  rw [if_neg (by simp [hready])]
  split
  · exact hlog rfl rfl rfl (by simp)
  · dsimp only
    split
    · exact hlog rfl rfl rfl (by simp)
    · unfold dvr_recorder.fopen
      split
      · next w₁ hopen =>
        split at hopen
        · cases hopen
        · cases hopen
          exact hlog rfl rfl rfl (by simp)
      · next file w₁ hopen =>
        split at hopen
        · cases hopen
          refine open_mux_handled (H := H) ?_ ?_ ?_ ?_ mark_recording _
          · unfold Holds at hheld ⊢
            simp [resolve_target_file, exec_concat, hheld, Handles.use]
          · exact hready
          · exact hmux
          · simp [unallocated_append, unallocated_step]
        · cases hopen

/-- The handles in use, and that the last attempt to open a file has got its
writer. -/
structure InUse (w : World ω) (file mux : Option Handle) : Prop where
  held : Holds w file mux
  allocated : unallocated w.trace = false

theorem InUse.close_mux {file mux : Handle} (h : InUse w (some file) (some mux))
    (hmux : w.self.mux_ = some mux) : InUse (DvrRecorder.close_mux H w) (some file) none := by
  unfold DvrRecorder.close_mux
  rw [hmux]
  refine ⟨h.held.MP4E_close (H := H), ?_⟩
  simp [MP4E_close, World.update, unallocated_append, unallocated_step, h.allocated]

theorem InUse.close_nal_writer {file mux : Option Handle} (h : InUse w file mux) :
    InUse (DvrRecorder.close_nal_writer H w) file mux := by
  unfold DvrRecorder.close_nal_writer
  split
  · exact ⟨h.held, h.allocated⟩
  · exact h

theorem InUse.close_file {file : Handle} (h : InUse w (some file) none)
    (hfile : w.self.file_ = some file) : InUse (DvrRecorder.close_file H w) none none := by
  unfold DvrRecorder.close_file
  rw [hfile]
  refine ⟨h.held.fclose (H := H), ?_⟩
  simp [fclose, World.update, unallocated_append, unallocated_step, h.allocated]

theorem Handled.inUse (h : Handled w) (hready : w.self.writer_ready_ = true) :
    ∃ file mux, w.self.file_ = some file ∧ w.self.mux_ = some mux ∧
      InUse w (some file) (some mux) := by
  obtain ⟨file, hfile⟩ := Option.isSome_iff_exists.mp (h.file.trans (by simp [hready]))
  obtain ⟨mux, hmux⟩ := Option.isSome_iff_exists.mp (h.mux.trans hready)
  have hheld := h.held
  rw [hready, if_pos rfl, hfile, hmux] at hheld
  exact ⟨file, mux, hfile, hmux, hheld, h.allocated hready⟩

theorem Handled.close_writer (h : Handled w) (clear_recording : Bool) :
    Handled (DvrRecorder.close_writer H clear_recording w) := by
  cases hready : w.self.writer_ready_ with
  | false =>
    rw [close_writer_of_not_ready H hready]
    exact ⟨h.held, h.mux, h.file, h.allocated⟩
  | true =>
    obtain ⟨file, mux, hfile, hmux, hheld, hallocated⟩ := h.inUse hready
    have hmuxed := InUse.close_mux (H := H)
      (w := w.update fun self => { self with writer_ready_ := false }) ⟨hheld, hallocated⟩ hmux
    obtain ⟨bytes, rotate, hself⟩ :=
      close_mux_self H (w.update fun self => { self with writer_ready_ := false })
    have hkept : (DvrRecorder.close_mux H
        (w.update fun self => { self with writer_ready_ := false })).self.file_ = some file := by
      rw [hself]
      exact hfile
    have hclosed := (hmuxed.close_nal_writer (H := H)).close_file (H := H) (by simp [hkept])
    have hend : InUse (DvrRecorder.close_writer H clear_recording w) none none := by
      rw [DvrRecorder.close_writer, if_neg (by simp [hready])]
      refine ⟨Holds.log (w := World.update _ _) hclosed.held .dvr_stopped, ?_⟩
      simpa [World.log, World.perform, World.update, unallocated_append, unallocated_step]
        using hclosed.allocated
    refine .of_not_ready (close_writer_ready H clear_recording w) hend.held ?_ ?_ <;>
      simp [close_writer_self_of_ready H hready, DvrRecorder.closed, hend.allocated]

theorem exec_use_of_logs {new : List Action}
    (hnew : ∀ action ∈ new, ∃ line, action = .log line ∧ line ≠ .failed_to_allocate_writer) :
    (∀ handles, exec Handles.use handles new = some handles) ∧
      ∀ failed, new.foldl unallocated_step failed = failed := by
  induction new with
  | nil => exact ⟨fun _ => rfl, fun _ => rfl⟩
  | cons action rest ih =>
    obtain ⟨line, rfl, hline⟩ := hnew action List.mem_cons_self
    obtain ⟨hexec, hfold⟩ := ih fun other hmem => hnew other (List.mem_cons_of_mem _ hmem)
    refine ⟨fun handles => hexec handles, fun failed => ?_⟩
    rw [List.foldl_cons, hfold]
    cases line <;> simp_all [unallocated_step]

theorem Handled.neutral {before after : World ω} (hneutral : Neutral before after)
    (h : Handled before) : Handled after := by
  obtain ⟨new, htrace, hnew⟩ := hneutral.trace
  obtain ⟨hexec, hfold⟩ := exec_use_of_logs hnew
  obtain ⟨hheld, hmux, hfile, hallocated⟩ := h
  rw [← hneutral.ready, ← hneutral.file, ← hneutral.mux] at hheld
  rw [← hneutral.ready, ← hneutral.mux] at hmux
  rw [← hneutral.ready, ← hneutral.file] at hfile
  rw [← hneutral.ready] at hallocated
  have hsame : unallocated after.trace = unallocated before.trace := by
    rw [htrace, unallocated_append, hfold]
  constructor
  · unfold Holds at hheld ⊢
    rw [htrace, exec_append, hheld, hneutral.handles]
    exact hexec _
  · exact hmux
  · rwa [hsame]
  · rwa [hsame]

theorem Handled.write_nal (h : Handled w) (hready : w.self.writer_ready_ = true) (frame : Frame)
    (duration : Nat) : Handled (mp4_h26x_write_nal H frame duration w).2 := by
  obtain ⟨file, mux, hfile, hmux, hheld, hunallocated⟩ := h.inUse hready
  unfold Holds at hheld
  constructor
  · unfold Holds
    simp [mp4_h26x_write_nal, exec_concat, hheld, Handles.use, hready, hfile, hmux]
  all_goals simp [mp4_h26x_write_nal, unallocated_append, unallocated_step, hunallocated, hready,
    hfile, hmux]

theorem handled_preserved : Preserved H Handled where
  neutral hneutral h := h.neutral hneutral
  monotonic_ms h := ⟨h.held, h.mux, h.file, h.allocated⟩
  write_nal frame duration hready h := h.write_nal hready frame duration
  close_writer clear_recording h := h.close_writer clear_recording
  open_writer mark_recording hready h := h.open_writer hready mark_recording

theorem exited_not_ready {start : Worker ω} (hready : start.self.writer_ready_ = false)
    (cmds : List Command) : (DvrRecorder.worker_loop H start cmds).exited = true →
      (DvrRecorder.worker_loop H start cmds).self.writer_ready_ = false := by
  refine Runs.invariant (P := fun w : Worker ω => w.exited = true → w.self.writer_ready_ = false)
    ?_ (fun _ => hready) cmds
  intro w cmd hw
  cases hexited : w.exited with
  | true =>
    rw [worker_step_of_exited H hexited]
    exact hw
  | false =>
    rw [worker_step_of_running H hexited]
    intro hshutdown
    unfold DvrRecorder.process_command
    rw [if_pos (by simpa using hshutdown)]
    exact close_writer_ready H true _

theorem exec_split {taken before after : List Action} {action : Action} {handles : Handles}
    (hexec : exec Handles.use {} taken = some handles)
    (hsplit : taken = before ++ action :: after) :
    ∃ earlier later,
      exec Handles.use {} before = some earlier ∧ earlier.use action = some later := by
  rw [hsplit, exec_append] at hexec
  obtain ⟨earlier, hearlier, hrest⟩ := Option.bind_eq_some_iff.mp hexec
  obtain ⟨later, hlater, -⟩ := Option.bind_eq_some_iff.mp hrest
  exact ⟨earlier, later, hearlier, hlater⟩

end

/-- The worker on a recorder, before its first command. -/
def launched {ω : Type} (recorder : DvrRecorder) (host : ω) : Worker ω :=
  { self := recorder, host := host }

/-- `writer_ready_`, `mux_` and `file_` say the same. -/
def HandlesAgree (recorder : DvrRecorder) : Prop :=
  (recorder.writer_ready_ = true ↔ recorder.mux_ ≠ none) ∧
    (recorder.writer_ready_ = true ↔ recorder.file_ ≠ none)

/-- The members agree between two commands, every file and every muxer is closed
once, the muxer first, except for those that the writer is using, frames are
written in between, and nothing is in use when the loop returns. -/
structure HandlesKept {ω : Type} (H : Host ω) (start : Worker ω) (cmds : List Command) : Prop where
  agree : ∀ pre, pre <+: cmds → HandlesAgree (DvrRecorder.worker_loop H start pre).self
  files : ∀ pre, pre <+: cmds → ∀ file path,
    .fopen file path ∈ (DvrRecorder.worker_loop H start pre).trace →
      (DvrRecorder.worker_loop H start pre).trace.count (.fclose file) =
        if (DvrRecorder.worker_loop H start pre).self.writer_ready_ = true ∧
            (DvrRecorder.worker_loop H start pre).self.file_ = some file then 0
        else 1
  muxes : ∀ pre, pre <+: cmds → ∀ mux,
    .mp4e_open mux ∈ (DvrRecorder.worker_loop H start pre).trace →
      (DvrRecorder.worker_loop H start pre).trace.count (.mp4e_close mux) =
        if (DvrRecorder.worker_loop H start pre).self.writer_ready_ = true ∧
            (DvrRecorder.worker_loop H start pre).self.mux_ = some mux then 0
        else 1
  mux_first : ∀ before after file,
    (DvrRecorder.worker_loop H start cmds).trace = before ++ Action.fclose file :: after →
      ∀ mux, .mp4e_open mux ∈ before → before.count (.mp4e_close mux) = 1
  writes : ∀ v ∈ iterations H start cmds, v.self.writer_ready_ = true
  written : ∀ before after frame duration res calls,
    (DvrRecorder.worker_loop H start cmds).trace =
        before ++ Action.write_nal frame duration res calls :: after →
      (∃ file path, .fopen file path ∈ before ∧ .fclose file ∉ before) ∧
        ∃ mux, .mp4e_open mux ∈ before ∧ .mp4e_close mux ∉ before
  returned : (DvrRecorder.worker_loop H start cmds).exited = true →
    (DvrRecorder.worker_loop H start cmds).self.writer_ready_ = false

section

variable {ω : Type} (H : Host ω)

theorem Handled.agree_iff {w : World ω} (h : Handled w) :
    HandlesAgree w.self ↔ unallocated w.trace = false := by
  obtain ⟨-, hmux, hfile, hallocated⟩ := h
  unfold HandlesAgree
  rw [← Option.isSome_iff_ne_none, ← Option.isSome_iff_ne_none, hmux, hfile]
  cases hready : w.self.writer_ready_ with
  | true => simp [hallocated hready]
  | false => simp

theorem Handled.counts {w : World ω} (h : Handled w) :
    (∀ file path, .fopen file path ∈ w.trace → w.trace.count (.fclose file) =
        if w.self.writer_ready_ = true ∧ w.self.file_ = some file then 0 else 1) ∧
      ∀ mux, .mp4e_open mux ∈ w.trace → w.trace.count (.mp4e_close mux) =
        if w.self.writer_ready_ = true ∧ w.self.mux_ = some mux then 0 else 1 := by
  obtain ⟨hfiles, hmuxes⟩ := settled_of_exec h.held
  constructor
  · intro file path hmem
    split
    · next hused => exact hfiles.unclosed_count (by simp [hused])
    · next hunused =>
      apply hfiles.closed_once hmem rfl
      cases hready : w.self.writer_ready_ <;> simp_all
  · intro mux hmem
    split
    · next hused => exact hmuxes.unclosed_count hused.2
    · next hunused =>
      refine hmuxes.closed_once hmem rfl fun hmux => hunused ⟨?_, hmux⟩
      rw [← h.mux, show w.self.mux_ = some mux from hmux]
      rfl

/-- A failed allocation of the writer is the one thing that leaves the members
at odds with each other. -/
theorem handles_kept_iff {recorder : DvrRecorder} (hinitial : Initial recorder) (host : ω)
    (cmds : List Command) :
    HandlesKept H (launched recorder host) cmds ↔
      ∀ pre, pre <+: cmds →
        unallocated (DvrRecorder.worker_loop H (launched recorder host) pre).trace = false := by
  have hstart : Handled (launched recorder host).toWorld := by
    obtain ⟨writer, width, height, fps_hint, codec, path, rfl⟩ := hinitial
    exact ⟨rfl, rfl, rfl, fun _ => rfl⟩
  have hready : (launched recorder host).self.writer_ready_ = false := by
    obtain ⟨writer, width, height, fps_hint, codec, path, rfl⟩ := hinitial
    rfl
  have hhandled := handled_preserved.worker_loop (H := H) (P := Handled) hstart
  constructor
  · exact fun h pre hpre => (hhandled pre).agree_iff.mp (h.agree pre hpre)
  · intro hallocated
    constructor
    · exact fun pre hpre => (hhandled pre).agree_iff.mpr (hallocated pre hpre)
    · exact fun pre _ => (hhandled pre).counts.1
    · exact fun pre _ => (hhandled pre).counts.2
    · intro before after file hsplit mux hmem
      obtain ⟨earlier, later, hexec, huse⟩ := exec_split (hhandled cmds).held hsplit
      obtain ⟨⟨-, hmux⟩, -⟩ := by simpa [Handles.use] using huse
      exact (settled_of_exec hexec).muxes.closed_once hmem rfl (by simp [hmux])
    · intro v hmem
      exact ((drain_condition_iff _).mp (drain_condition_of_mem_iterations H hmem)).2.1
    · intro before after frame duration res calls hsplit
      obtain ⟨earlier, later, hexec, huse⟩ := exec_split (hhandled cmds).held hsplit
      obtain ⟨⟨hfile, hmux⟩, -⟩ := by simpa [Handles.use] using huse
      obtain ⟨file, hfile⟩ := Option.ne_none_iff_exists'.mp hfile
      obtain ⟨mux, hmux⟩ := Option.ne_none_iff_exists'.mp hmux
      obtain ⟨hfiles, hmuxes⟩ := settled_of_exec hexec
      constructor
      · obtain ⟨action, hmem, hopens⟩ := hfiles.opened file hfile
        obtain ⟨path, rfl⟩ := opened_file_eq_some.mp hopens
        exact ⟨file, path, hmem, hfiles.unclosed file hfile⟩
      · obtain ⟨action, hmem, hopens⟩ := hmuxes.opened mux hmux
        rw [opened_mux_eq_some.mp hopens] at hmem
        exact ⟨mux, hmem, hmuxes.unclosed mux hmux⟩
    · exact exited_not_ready hready cmds

end

/-- A first file that reaches the size limit with its first frame. -/
def one_rotation : Script :=
  { clock := one_second
    paths := [['r'], ['s']]
    writes := [(MP4E_STATUS_OK, [⟨kMaxFat32Size - 1, 1, true, 1⟩])] }

/-- A session with a rotation, up to the end of the loop. -/
def rotating_session : List Command :=
  warm_up_commands ++ [⟨.Frame, some key_frame⟩, ⟨.Frame, some key_frame⟩, ⟨.Shutdown, none⟩]

theorem handles_kept_iff_rotating :
    HandlesKept scripted (launched (constructed one_rotation).self one_rotation)
      rotating_session := by
  have hallocated : ∀ pre ∈ rotating_session.inits, unallocated (DvrRecorder.worker_loop scripted
      (launched (constructed one_rotation).self one_rotation) pre).trace = false := by
    decide +kernel
  exact (handles_kept_iff scripted (constructed_initial one_rotation) one_rotation
    rotating_session).mpr fun pre hpre => hallocated pre ((List.mem_inits _ _).mpr hpre)

/-- A recorder whose constructor got no memory for the writer, in surroundings
that have none later on either. -/
def without_memory : Worker Script :=
  launched (({ writer_ := false } : DvrRecorder).set_video_params 1920 1080 0 .H265)
    { clock := one_second, paths := [['r']], mallocs := [false] }

instance (recorder : DvrRecorder) : Decidable (HandlesAgree recorder) :=
  inferInstanceAs (Decidable (_ ∧ _))

/-- After the failed allocation `file_` points to a closed file. -/
theorem handles_kept_counterexample : ¬ HandlesKept scripted without_memory warm_up_commands := by
  intro h
  have hagree := h.agree warm_up_commands (List.prefix_refl _)
  revert hagree
  decide +kernel

end amldigitalfpv.dvr_recorder
