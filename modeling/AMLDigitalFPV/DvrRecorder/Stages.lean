import AMLDigitalFPV.DvrRecorder.Iterations
import AMLDigitalFPV.Library.Transition

open Runs Transition amldigitalfpv.frame_ring_buffer

namespace amldigitalfpv.dvr_recorder

/-- What the worker does next: dequeue a command, go on with the drain loop, or
see to what follows a frame it has written. -/
inductive Phase where
  | waiting
  | draining
  | wrote
deriving DecidableEq, Repr

/-- A worker between two accesses to `frame_duration_`. `measured` is the last
frame rate handed to `update_frame_rate`, by whichever thread. -/
structure Stage (ω : Type) extends Worker ω where
  phase : Phase := .waiting
  measured : Option ℚ := none
deriving DecidableEq

/-- A turn of the worker, or a measurement of the frame callback, which runs on
a thread of its own. -/
inductive Event where
  | command (cmd : Command)
  | write
  | after_write
  | update_frame_rate (fps : ℚ)
deriving DecidableEq

/-- The frame rates that warm-ups have measured. -/
def warm_up_rates (taken : List Action) : List ℚ :=
  taken.filterMap fun action =>
    match action with
    | .log (.warm_up_completed fps) => some fps
    | _ => none

namespace Stage

variable {ω : Type} (H : Host ω)

/-- The reaction to a command, up to the drain loop if it gets there. -/
def receive (cmd : Command) (stage : Stage ω) : Stage ω :=
  if cmd.type = .Frame ∧ stage.self.recording_ ∧ stage.self.warmup_done_ then
    match cmd.frame with
    | some frame => { stage with toWorld := pushed frame stage.toWorld, phase := .draining }
    | none => stage
  else
    let w := DvrRecorder.process_command H cmd stage.toWorld
    { toWorld := w
      exited := cmd.type = .Shutdown
      phase := .waiting
      measured := (warm_up_rates (emitted World.trace stage.toWorld w)).getLast?.or stage.measured }

/-- The drain loop's condition and its body up to the call of the muxer. -/
def write (stage : Stage ω) : Stage ω :=
  if stage.self.drain_condition then
    match stage.self.ring_buffer_.pop.1 with
    | none => { stage with toWorld := popped stage.toWorld, phase := .waiting }
    | some frame =>
      let written := write_popped H frame stage.toWorld
      if rejected written.1 then
        { stage with
          toWorld := (written.2.log (.write_nal_returned written.1)).update fun self =>
            { self with stop_requested_ := true }
          phase := .waiting }
      else
        { stage with toWorld := written.2, phase := .wrote }
  else
    { stage with phase := .waiting }

/-- The rest of the drain loop's body. -/
def after_write (stage : Stage ω) : Stage ω :=
  let after := DvrRecorder.after_write H stage.toWorld
  { stage with toWorld := after.2, phase := if after.1 then .draining else .waiting }

def step (stage : Stage ω) : Event → Option (Stage ω)
  | .command cmd =>
    if stage.phase = .waiting ∧ stage.exited = false then some (stage.receive H cmd) else none
  | .write => if stage.phase = .draining then some (stage.write H) else none
  | .after_write => if stage.phase = .wrote then some (stage.after_write H) else none
  | .update_frame_rate fps =>
    some { stage with self := stage.self.update_frame_rate fps, measured := some fps }

variable {H} {stage : Stage ω}

theorem write_of_stopped (hcond : ¬ stage.self.drain_condition = true) :
    stage.write H = { stage with phase := .waiting } :=
  if_neg hcond

/-- An iteration of the drain loop is a write and, if the frame has been
accepted, what follows it. -/
theorem drain_body_stages (hphase : stage.phase = .draining)
    (hcond : stage.self.drain_condition = true) :
    ∃ events, (∀ event ∈ events, event = .write ∨ event = .after_write) ∧
      exec (step H) stage events = some
        { stage with
          toWorld := (DvrRecorder.drain_body H stage.toWorld).2
          phase :=
            if (DvrRecorder.drain_body H stage.toWorld).1 then .draining else .waiting } := by
  cases hframe : stage.self.ring_buffer_.pop.1 with
  | none =>
    refine ⟨[.write], by simp, ?_⟩
    simp [exec, step, hphase, write, hcond, hframe, drain_body_of_null H hframe]
  | some frame =>
    by_cases hres : rejected (write_popped H frame stage.toWorld).1
    · refine ⟨[.write], by simp, ?_⟩
      simp [exec, step, hphase, write, hcond, hframe, hres, drain_body_of_rejected H hframe hres]
    · refine ⟨[.write, .after_write], by simp, ?_⟩
      simp [exec, step, hphase, write, hcond, hframe, hres, after_write,
        drain_body_of_accepted H hframe hres]

/-- Without a measurement in between the turns add up to the drain loop. -/
theorem drain_stages (fuel : Nat) {stage : Stage ω} (hphase : stage.phase = .draining)
    (hfuel : stage.self.ring_buffer_.size_ ≤ fuel) :
    ∃ events, (∀ event ∈ events, event = .write ∨ event = .after_write) ∧
      exec (step H) stage events = some
        { stage with
          toWorld := DvrRecorder.drain H stage.self.ring_buffer_.size_ stage.toWorld
          phase := .waiting } := by
  have hstopped : ∀ {stage : Stage ω}, stage.phase = .draining →
      ¬ stage.self.drain_condition = true → exec (step H) stage [.write] = some
        { stage with
          toWorld := DvrRecorder.drain H stage.self.ring_buffer_.size_ stage.toWorld
          phase := .waiting } := by
    intro stage hphase hcond
    rw [drain_of_stopped H hcond]
    simp [exec, step, hphase, write_of_stopped hcond]
  induction fuel generalizing stage with
  | zero =>
    refine ⟨[.write], by simp, hstopped hphase fun hcond => ?_⟩
    exact ((drain_condition_iff _).mp hcond).2.2.2 (Nat.le_zero.mp hfuel)
  | succ fuel ih =>
    by_cases hcond : stage.self.drain_condition = true
    · obtain ⟨events, hevents, hexec⟩ := drain_body_stages (H := H) hphase hcond
      rw [drain_while, if_pos hcond]
      dsimp only
      cases hbody : (DvrRecorder.drain_body H stage.toWorld).1 with
      | false =>
        rw [hbody] at hexec
        exact ⟨events, hevents, hexec⟩
      | true =>
        rw [hbody, if_pos rfl] at hexec
        have hless := drain_body_size H hcond hbody
        have hdraining : ({ stage with
            toWorld := (DvrRecorder.drain_body H stage.toWorld).2
            phase := .draining } : Stage ω).phase = .draining := rfl
        obtain ⟨rest, hrest, hend⟩ := ih hdraining (by dsimp only; omega)
        refine ⟨events ++ rest, ?_, ?_⟩
        · simpa [or_imp, forall_and] using ⟨hevents, hrest⟩
        · rw [exec_append, hexec]
          exact hend
    · exact ⟨[.write], by simp, hstopped hphase hcond⟩

/-- The turns simulate the worker's loop. -/
theorem worker_step_stages {cmd : Command} (hphase : stage.phase = .waiting)
    (hexited : stage.exited = false) :
    ∃ events after, exec (step H) stage (.command cmd :: events) = some after ∧
      after.toWorker = DvrRecorder.worker_step H stage.toWorker cmd ∧ after.phase = .waiting := by
  have hstep : step H stage (.command cmd) = some (stage.receive H cmd) := by
    simp [step, hphase, hexited]
  rw [worker_step_of_running H hexited]
  by_cases hdrains : cmd.type = .Frame ∧ stage.self.recording_ ∧ stage.self.warmup_done_
  · obtain ⟨htype, hrecording, hwarm⟩ := hdrains
    cases hframe : cmd.frame with
    | none =>
      have hignored : DvrRecorder.process_command H cmd stage.toWorld = stage.toWorld := by
        simp [DvrRecorder.process_command, DvrRecorder.handle_command, htype, hframe]
      refine ⟨[], stage, ?_, ?_, hphase⟩
      · simp [exec, hstep, receive, htype, hrecording, hwarm, hframe]
      · rw [hignored, htype]
        exact congrArg (fun exited => ({ toWorld := stage.toWorld, exited := exited } : Worker ω))
          hexited
    | some frame =>
      have hdrained : DvrRecorder.process_command H cmd stage.toWorld =
          DvrRecorder.drain H (pushed frame stage.toWorld).self.ring_buffer_.size_
            (pushed frame stage.toWorld) := by
        simp [DvrRecorder.process_command, DvrRecorder.handle_command, htype, hframe, hrecording,
          hwarm, pushed]
      have hdraining : ({ stage with
          toWorld := pushed frame stage.toWorld
          phase := .draining } : Stage ω).phase = .draining := rfl
      obtain ⟨events, -, hexec⟩ := drain_stages (H := H) _ hdraining (Nat.le_refl _)
      refine ⟨events, { stage with
        toWorld := DvrRecorder.process_command H cmd stage.toWorld
        phase := .waiting }, ?_, ?_, rfl⟩
      · have hreceived : stage.receive H cmd =
            { stage with toWorld := pushed frame stage.toWorld, phase := .draining } := by
          simp [receive, htype, hrecording, hwarm, hframe]
        rw [exec, hstep, Option.bind_some, hreceived, hexec, hdrained]
      · rw [htype]
        exact congrArg (fun exited => ({ toWorld := _, exited := exited } : Worker ω)) hexited
  · refine ⟨[], stage.receive H cmd, by simp [exec, hstep], ?_, ?_⟩
    · rw [receive, if_neg hdrains]
    · rw [receive, if_neg hdrains]

end Stage

end amldigitalfpv.dvr_recorder
