import AMLDigitalFPV.DvrRecorder.Disk
import AMLDigitalFPV.DvrRecorder.Script

open amldigitalfpv.minimp4

namespace amldigitalfpv.dvr_recorder

/-- The C library failed to move the file position or wrote less than asked. -/
def WriteCall.failed (call : WriteCall) : Prop :=
  call.fseek_ok = false ∨ call.fwrite_count ≠ call.size

theorem file_write_callback_result (call : WriteCall) (self : DvrRecorder) :
    (self.file_write_callback call).1 = -1 ∧ (self.file_ = none ∨ call.failed) ∨
      (self.file_write_callback call).1 = 0 ∧ self.file_ ≠ none ∧ ¬ call.failed := by
  unfold DvrRecorder.file_write_callback WriteCall.failed
  by_cases hfile : self.file_ = none
  · simp [hfile]
  · by_cases hseek : call.fseek_ok = true
    · by_cases hcount : call.fwrite_count = call.size
      · simp [hfile, hseek, hcount]
      · simp [hseek, hcount]
    · simp [hseek]

section

variable {ω : Type} (H : Host ω)

/-- The calls of the write callback made for a frame popped from the ring. -/
def popped_calls (frame : Frame) (w : World ω) : List WriteCall :=
  (H.mp4_h26x_write_nal (popped w).self frame
    (if w.self.frame_duration_ = 0 then kDefaultFrameDuration else w.self.frame_duration_)
    (popped w).host).1.2

/-- Some call of `file_write_callback` for the frame popped in this iteration
returns a failure. -/
def CallbackFails (w : World ω) : Prop :=
  ∃ frame earlier call later, w.self.ring_buffer_.pop.1 = some frame ∧
    popped_calls H frame w = earlier ++ call :: later ∧
    (((popped w).self.run_callbacks earlier).file_write_callback call).1 ≠ 0

/-- The C library fails while the frame popped in this iteration is written. -/
def StorageError (w : World ω) : Prop :=
  ∃ frame, w.self.ring_buffer_.pop.1 = some frame ∧
    ∃ call ∈ popped_calls H frame w, call.failed

/-- The iteration takes the branch for a failed write. -/
def TakesFailureBranch (w : World ω) : Prop :=
  (DvrRecorder.drain_body H w).1 = false ∧
    (DvrRecorder.drain_body H w).2.self.stop_requested_ = true

/-- No failing callback goes unnoticed in the run over `cmds`. -/
def ReportsStorageErrors (w : Worker ω) (cmds : List Command) : Prop :=
  ∀ v ∈ iterations H w cmds, CallbackFails H v → TakesFailureBranch H v

/-- After a status that is accepted no iteration takes that branch. -/
theorem not_takesFailureBranch {w : World ω} {frame : Frame}
    (hcond : w.self.drain_condition = true) (hframe : w.self.ring_buffer_.pop.1 = some frame)
    (hres : ¬ rejected (write_popped H frame w).1) : ¬ TakesFailureBranch H w := by
  obtain ⟨-, hready, -, -⟩ := (drain_condition_iff _).mp hcond
  rintro ⟨hleft, hstop⟩
  obtain ⟨hnull, -⟩ | ⟨frame', hframe', hcases⟩ := drain_body_cases H hready
  · rw [hframe] at hnull
    cases hnull
  · obtain rfl : frame = frame' := Option.some.inj (hframe.symm.trans hframe')
    obtain ⟨hrejected, -⟩ | ⟨-, -, hcontinue, -⟩ | ⟨-, -, -, hended⟩ := hcases
    · exact hres hrejected
    · rw [hcontinue] at hleft
      cases hleft
    · rw [hended.stop_requested] at hstop
      cases hstop

end

section

variable {ω : Type} (M : Machine ω)

/-- No callback call on behalf of the recorder has failed so far. -/
def Env.Clean (self : DvrRecorder) (env : Env ω) : Prop :=
  env.recorder = self ∧ ∀ call ∈ env.calls, ¬ call.failed ∧ self.file_ ≠ none

/-- A callback call has failed, and its value is at hand. -/
def Env.Failed (res : Int) (env : Env ω) : Prop :=
  res = -1 ∧ ∃ call ∈ env.calls, call.failed

theorem Env.ask_recorder (offset size : Nat) (env : Env ω) :
    (env.ask M offset size).2.recorder = env.recorder := by
  unfold Env.ask
  dsimp only
  split
  · rfl
  · split <;> rfl

theorem Env.ask_calls (offset size : Nat) (env : Env ω) :
    (env.ask M offset size).2.calls = env.calls := by
  unfold Env.ask
  dsimp only
  split
  · rfl
  · split <;> rfl

theorem Env.ask_failed {env : Env ω} (hfile : env.recorder.file_ = none) (offset size : Nat) :
    (env.ask M offset size).1.failed := by
  rw [Env.ask, if_pos hfile]
  exact Or.inl rfl

/-- Both outcomes of a callback call. -/
theorem write_callback_cases (offset size : Nat) (env : Env ω) : ∃ call,
    (M.calls.write_callback offset size env).2.calls = env.calls ++ [call] ∧
      (((M.calls.write_callback offset size env).1 = -1 ∧ call.failed) ∨
        ((M.calls.write_callback offset size env).1 = 0 ∧ env.recorder.file_ ≠ none ∧
          ¬ call.failed)) := by
  refine ⟨(env.ask M offset size).1, ?_, ?_⟩
  · change (env.ask M offset size).2.calls ++ _ = _
    rw [Env.ask_calls]
  · rcases file_write_callback_result (env.ask M offset size).1
      (env.recorder.run_callbacks env.calls) with ⟨hres, hreason⟩ | ⟨hres, hfile, hcall⟩
    · refine Or.inl ⟨hres, ?_⟩
      obtain hfile | hfailed := hreason
      · rw [DvrRecorder.run_callbacks_file] at hfile
        exact Env.ask_failed M hfile offset size
      · exact hfailed
    · rw [DvrRecorder.run_callbacks_file] at hfile
      exact Or.inr ⟨hres, hfile, hcall⟩

theorem tracks_errors (self : DvrRecorder) :
    TracksErrors M.calls (Env.Clean (ω := ω) self) Env.Failed := by
  constructor
  · rintro offset size env ⟨rfl, hclean⟩ hok
    obtain ⟨call, hcalls, ⟨hres, -⟩ | ⟨-, hfile, hcall⟩⟩ :=
      write_callback_cases M offset size env
    · rw [hok] at hres
      cases hres
    · refine ⟨Env.ask_recorder M offset size env, ?_⟩
      intro other hmem
      rw [hcalls] at hmem
      obtain hbefore | hlast := List.mem_append.mp hmem
      · exact hclean other hbefore
      · rw [List.mem_singleton.mp hlast]
        exact ⟨hcall, hfile⟩
  · intro offset size env _ hnonzero
    obtain ⟨call, hcalls, ⟨hres, hcall⟩ | ⟨hres, -, -⟩⟩ :=
      write_callback_cases M offset size env
    · refine ⟨hres, call, ?_, hcall⟩
      rw [hcalls]
      exact List.mem_append_right _ (List.mem_singleton_self call)
    · exact absurd hres hnonzero
  · exact fun env hclean => hclean

/-- The muxer's answer to a frame during which a callback call fails is the
callback's -1, which the worker takes for `MP4E_STATUS_BAD_ARGUMENTS`. -/
theorem written_of_failure (frame : Frame) (v : World (Disk ω)) :
    (∀ call ∈ popped_calls M.host frame v, ¬ call.failed ∧ v.self.file_ ≠ none) ∨
      (write_popped M.host frame v).1 = MP4E_STATUS_BAD_ARGUMENTS ∧
        ∃ call ∈ popped_calls M.host frame v, call.failed := by
  have hstart : Env.Clean (popped v).self ((popped v).host.env (popped v).self) :=
    ⟨rfl, fun _ hmem => absurd hmem List.not_mem_nil⟩
  have hwritten := (tracks_errors M (popped v).self).h26x_write_nal hstart
    (fun _ hfailed => by cases hfailed.1) frame
    (if v.self.frame_duration_ = 0 then kDefaultFrameDuration else v.self.frame_duration_)
    (popped v).host.writer
  obtain ⟨-, hclean⟩ | hfailed := hwritten
  · exact Or.inl hclean
  · exact Or.inr hfailed

theorem storageError_of_callbackFails {v : World (Disk ω)} (hfails : CallbackFails M.host v) :
    StorageError M.host v := by
  obtain ⟨frame, earlier, call, later, hframe, hcalls, hcall⟩ := hfails
  refine ⟨frame, hframe, ?_⟩
  obtain hclean | ⟨-, hfailed⟩ := written_of_failure M frame v
  · have hmem : call ∈ popped_calls M.host frame v := by
      rw [hcalls]
      exact List.mem_append_right _ List.mem_cons_self
    obtain ⟨hnot, hfile⟩ := hclean call hmem
    rcases file_write_callback_result call ((popped v).self.run_callbacks earlier) with
      ⟨-, hreason⟩ | ⟨hres, -, -⟩
    · rw [DvrRecorder.run_callbacks_file] at hreason
      exact (hreason.elim hfile hnot).elim
    · exact absurd hres hcall
  · exact hfailed

theorem callbackFails_of_storageError {v : World (Disk ω)} (herror : StorageError M.host v) :
    CallbackFails M.host v := by
  obtain ⟨frame, hframe, call, hmem, hfailed⟩ := herror
  obtain ⟨earlier, later, hcalls⟩ := List.append_of_mem hmem
  refine ⟨frame, earlier, call, later, hframe, hcalls, ?_⟩
  rcases file_write_callback_result call ((popped v).self.run_callbacks earlier) with
    ⟨hres, -⟩ | ⟨-, -, hnot⟩
  · rw [hres]
    decide
  · exact absurd hfailed hnot

/-- A run reports every storage error exactly when it meets none: the failure
value of the callback is the status that the worker accepts. -/
theorem reports_storage_errors_iff (w : Worker (Disk ω)) (cmds : List Command) :
    ReportsStorageErrors M.host w cmds ↔
      ∀ v ∈ iterations M.host w cmds, ¬ StorageError M.host v := by
  constructor
  · intro hreports v hv herror
    have hbranch := hreports v hv (callbackFails_of_storageError M herror)
    obtain ⟨frame, hframe, call, hmem, hfailed⟩ := herror
    obtain hclean | ⟨hres, -⟩ := written_of_failure M frame v
    · exact (hclean call hmem).1 hfailed
    · apply not_takesFailureBranch M.host (drain_condition_of_mem_iterations M.host hv) hframe _
        hbranch
      rw [hres]
      decide
  · intro hnone v hv hfails
    exact absurd (storageError_of_callbackFails M hfails) (hnone v hv)

end

/-- An access unit with the parameter sets and a key frame, cut short. -/
def first_frame : Frame :=
  [0, 0, 1, 0x40, 1, 0, 0, 1, 0x42, 1, 0, 0, 1, 0x44, 1, 0, 0, 1, 0x26, 1, 0xAF]

/-- A recorder on a drive that has room for the headers of one file. -/
def full_drive : Worker (Disk Drive) := constructed_on { clock := one_second, free := 32 }

/-- The iteration of the drain loop for a frame that arrives when the drive has
been full since the headers of the file. -/
def full_drive_iteration : World (Disk Drive) :=
  pushed first_frame (DvrRecorder.worker_loop drive.host full_drive warm_up_commands).toWorld

/-- The frame that does not fit on the drive is taken as written. -/
theorem reports_storage_errors_counterexample :
    ¬ ReportsStorageErrors drive.host full_drive
      (warm_up_commands ++ [⟨.Frame, some first_frame⟩]) := by
  intro hreports
  have hiteration : full_drive_iteration ∈ iterations drive.host full_drive
      (warm_up_commands ++ [⟨.Frame, some first_frame⟩]) := by
    decide +kernel
  have hfails : CallbackFails drive.host full_drive_iteration :=
    ⟨first_frame, [], ⟨40, 7, true, 0⟩, [], by decide +kernel, by decide +kernel,
      by decide +kernel⟩
  have hcontinues : (DvrRecorder.drain_body drive.host full_drive_iteration).1 = true := by
    decide +kernel
  rw [(hreports _ hiteration hfails).1] at hcontinues
  cases hcontinues

end amldigitalfpv.dvr_recorder
