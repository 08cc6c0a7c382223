import AMLDigitalFPV.Aml.Submit
import AMLDigitalFPV.Library.Conservation

open Conservation Transition

namespace amldigitalfpv.aml

/-- A buffer of the video device. Its other fields are only logged. -/
structure v4l2_buffer where
  index : Nat
deriving DecidableEq, Repr

/-- Where the thread is: at a test of `done`, at an `ioctl`, or at its end. -/
inductive Stage where
  | testing
  | dequeuing
  | testing_drain (latest : v4l2_buffer) (drained : Nat)
  | dequeuing_candidate (latest : v4l2_buffer) (drained : Nat)
  | recovering (latest : v4l2_buffer)
  | dropping (latest candidate : v4l2_buffer) (drained : Nat)
  | abandoning (candidate : v4l2_buffer)
  | displaying (latest : v4l2_buffer) (drained : Nat)
  | terminated
deriving DecidableEq, Repr

/-- The locals of `aml_display_thread` and the flag that it polls. -/
structure DisplayThread where
  done : Bool
  stage : Stage
  backlog_active : Bool
  count : Nat
deriving DecidableEq, Repr

/-- `aml_cleanup` sets `done`, or the thread takes a step. A failed `ioctl`
answers with its `errno`. -/
inductive Event where
  | aml_cleanup
  | test_done
  | vidioc_dqbuf (answer : Except Int v4l2_buffer)
  | vidioc_qbuf (answer : Except Int Unit)

namespace DisplayThread

def start : DisplayThread :=
  { done := false, stage := .testing, backlog_active := false, count := 0 }

/-- From the end of the inner loop to the `VIDIOC_QBUF` of the outer one. -/
def display (self : DisplayThread) (latest : v4l2_buffer) (drained : Nat) : DisplayThread :=
  { self with stage := .displaying latest drained, backlog_active := decide (drained > 0) }

/-- The test of `done` of either loop. -/
def test_done (self : DisplayThread) : Option DisplayThread :=
  match self.stage with
  | .testing => some { self with stage := if self.done then .terminated else .dequeuing }
  | .testing_drain latest drained =>
    if self.done then
      some (self.display latest drained)
    else
      some { self with stage := .dequeuing_candidate latest drained }
  | _ => none

def vidioc_dqbuf (self : DisplayThread) (answer : Except Int v4l2_buffer) : Option DisplayThread :=
  match self.stage, answer with
  | .dequeuing, .ok latest => some { self with stage := .testing_drain latest 0 }
  | .dequeuing, .error errno =>
    some { self with stage := if errno = EAGAIN then .testing else .terminated }
  | .dequeuing_candidate latest drained, .ok candidate =>
    some { self with stage := .dropping latest candidate drained }
  | .dequeuing_candidate latest drained, .error errno =>
    if errno = EAGAIN then
      some (display { self with backlog_active := false } latest drained)
    else
      some { self with stage := .recovering latest }
  | _, _ => none

def vidioc_qbuf (self : DisplayThread) (answer : Except Int Unit) : Option DisplayThread :=
  match self.stage, answer with
  -- both of the returns from the inner loop disregard the answer
  | .recovering _, _ | .abandoning _, _ => some { self with stage := .terminated }
  | .dropping _ candidate drained, .ok () =>
    some { self with stage := .testing_drain candidate (drained + 1) }
  | .dropping _ candidate _, .error _ => some { self with stage := .abandoning candidate }
  | .displaying _ _, .ok () => some { self with stage := .testing, count := self.count + 1 }
  | .displaying _ _, .error _ => some { self with stage := .terminated }
  | _, _ => none

def step (self : DisplayThread) : Event → Option DisplayThread
  | .aml_cleanup => some { self with done := true }
  | .test_done => self.test_done
  | .vidioc_dqbuf answer => self.vidioc_dqbuf answer
  | .vidioc_qbuf answer => self.vidioc_qbuf answer

/-- The argument of `VIDIOC_QBUF` at the stages that call it. -/
def argument (self : DisplayThread) : Option v4l2_buffer :=
  match self.stage with
  | .recovering latest | .dropping latest _ _ | .displaying latest _ => some latest
  | .abandoning candidate => some candidate
  | _ => none

/-- The buffer that a step dequeues. -/
def dequeued (_ : DisplayThread) : Event → List v4l2_buffer
  | .vidioc_dqbuf (.ok buffer) => [buffer]
  | _ => []

/-- The buffer that a step calls `VIDIOC_QBUF` on. -/
def attempted (self : DisplayThread) : Event → List v4l2_buffer
  | .vidioc_qbuf _ => self.argument.toList
  | _ => []

/-- The buffers that the thread has to return, oldest first. -/
def held (self : DisplayThread) : List v4l2_buffer :=
  match self.stage with
  | .testing | .dequeuing | .terminated => []
  | .testing_drain latest _ | .dequeuing_candidate latest _ | .recovering latest
  | .displaying latest _ => [latest]
  | .dropping latest candidate _ => [latest, candidate]
  | .abandoning candidate => [candidate]

/-- The buffers dequeued in a run from a state. -/
def dequeues (self : DisplayThread) (events : List Event) : List v4l2_buffer :=
  flow dequeued (taken step self events)

/-- The buffers that a run from a state calls `VIDIOC_QBUF` on. -/
def requeues (self : DisplayThread) (events : List Event) : List v4l2_buffer :=
  flow attempted (taken step self events)

/-- The display thread calls `VIDIOC_QBUF` on every buffer once, in the order in
which it dequeued them, and holds two at most. -/
structure ReturnsBuffers (events : List Event) : Prop where
  ordered : ∀ pre self, pre <+: events → exec step start pre = some self →
    requeues start pre <+: dequeues start pre
  two : ∀ pre self, pre <+: events → exec step start pre = some self →
    (dequeues start pre).length ≤ (requeues start pre).length + 2
  settled : ∀ pre self, pre <+: events → exec step start pre = some self →
    self.stage = .testing ∨ self.stage = .terminated → requeues start pre = dequeues start pre
  newest : ∀ pre mid before after, pre ++ mid ++ [.vidioc_qbuf (.ok ())] <+: events →
    exec step start pre = some before → before.stage = .testing →
      exec step before (mid ++ [.vidioc_qbuf (.ok ())]) = some after → after.stage = .testing →
        ∃ latest, (dequeues before (mid ++ [.vidioc_qbuf (.ok ())])).getLast? = some latest ∧
          (requeues before (mid ++ [.vidioc_qbuf (.ok ())])).getLast? = some latest

theorem held_length (self : DisplayThread) : self.held.length ≤ 2 := by
  unfold held
  split <;> simp

theorem held_of_settled {self : DisplayThread}
    (h : self.stage = .testing ∨ self.stage = .terminated) : self.held = [] := by
  obtain h | h := h <;> simp [held, h]

theorem test_done_held {self after : DisplayThread} (hstep : self.test_done = some after) :
    after.held = self.held := by
  unfold test_done at hstep
  split at hstep
  · next hstage =>
    cases hstep
    cases hdone : self.done <;> simp [held, hstage]
  · next hstage =>
    split at hstep <;> cases hstep <;> simp [held, hstage, display]
  · cases hstep

theorem vidioc_dqbuf_held {self after : DisplayThread} {answer : Except Int v4l2_buffer}
    (hstep : self.vidioc_dqbuf answer = some after) :
    after.held = self.held ++ self.dequeued (.vidioc_dqbuf answer) := by
  unfold vidioc_dqbuf at hstep
  split at hstep
  · next hstage =>
    cases hstep
    simp [held, hstage, dequeued]
  · next errno hstage =>
    cases hstep
    by_cases hagain : errno = EAGAIN <;> simp [held, hstage, hagain, dequeued]
  · next hstage =>
    cases hstep
    simp [held, hstage, dequeued]
  · next hstage =>
    split at hstep <;> cases hstep <;> simp [held, hstage, dequeued, display]
  · cases hstep

theorem vidioc_qbuf_held {self after : DisplayThread} {answer : Except Int Unit}
    (hstep : self.vidioc_qbuf answer = some after) :
    self.held = self.attempted (.vidioc_qbuf answer) ++ after.held := by
  unfold vidioc_qbuf at hstep
  split at hstep <;> cases hstep
  all_goals simp [held, attempted, argument, *]

theorem step_conserves : Conserves step held dequeued attempted := by
  constructor
  intro before event after hstep
  cases event with
  | aml_cleanup =>
    cases hstep
    simp [held, dequeued, attempted]
  | test_done => simpa [dequeued, attempted] using (test_done_held hstep).symm
  | vidioc_dqbuf answer => simpa [attempted] using (vidioc_dqbuf_held hstep).symm
  | vidioc_qbuf answer => simpa [dequeued] using vidioc_qbuf_held hstep

/-- `VIDIOC_QBUF` is only called with a buffer at hand. -/
theorem exists_attempted {self after : DisplayThread} {answer : Except Int Unit}
    (hstep : self.vidioc_qbuf answer = some after) :
    ∃ buffer, self.attempted (.vidioc_qbuf answer) = [buffer] := by
  unfold vidioc_qbuf at hstep
  split at hstep <;> cases hstep
  all_goals simp [attempted, argument, *]

/-- Every buffer that is dequeued goes back, at the latest when the outer loop
comes round or the thread ends. -/
theorem returns_buffers (events : List Event) : ReturnsBuffers events := by
  constructor
  · intro pre self _ hexec
    exact step_conserves.run_prefix rfl hexec
  · intro pre self _ hexec
    have hstart : held start = [] := rfl
    have hrun := congrArg List.length (step_conserves.run hexec)
    have htwo := held_length self
    rw [hstart, List.nil_append, List.length_append] at hrun
    simp only [dequeues, requeues]
    omega
  · intro pre self _ hexec hsettled
    have hrun := step_conserves.run hexec
    rw [held_of_settled hsettled, List.append_nil] at hrun
    exact hrun.symm
  · intro pre mid before after _ _ hbefore hexec hafter
    have hrun := step_conserves.run hexec
    rw [held_of_settled (.inl hbefore), held_of_settled (.inl hafter), List.nil_append,
      List.append_nil] at hrun
    obtain ⟨self, hself, hstep⟩ := exec_concat_eq_some_iff.mp hexec
    obtain ⟨latest, hlatest⟩ := exists_attempted hstep
    rw [dequeues, requeues, hrun, flow_concat attempted hself hstep, hlatest]
    exact ⟨latest, by simp, by simp⟩

end DisplayThread

end amldigitalfpv.aml
