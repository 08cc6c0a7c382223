import AMLDigitalFPV.DvrRecorder.Turns
import AMLDigitalFPV.Library.Mailbox

open Runs Transition Conservation Mailbox

namespace amldigitalfpv.dvr_recorder

/-- Where a thread stands in a call of `enqueue_frame`, `start_recording`,
`stop_recording` or `shutdown`. They differ in the command that they push, and
only `enqueue_frame` goes on from `running_` to `recording_`. -/
inductive Call where
  | entered (cmd : Command)
  | running (frame : Frame)
  | pushing (cmd : Command)
deriving DecidableEq, Repr

def Call.cmd : Call → Command
  | .entered cmd | .pushing cmd => cmd
  | .running frame => ⟨.Frame, some frame⟩

/-- The recorder with its worker, its queue and the threads that call it. The
queue keeps the commands of each thread in their order; between threads the
order means nothing. -/
structure Threads (τ ω : Type) where
  worker_ : Stage ω
  queue_ : List (τ × Command) := []
  calls : τ → Option Call := fun _ => none

/-- What can happen next. -/
inductive Turn (τ : Type) where
  | call (thread : τ) (cmd : Command)
  | test_running (thread : τ)
  | test_recording (thread : τ)
  | push_command (thread : τ)
  | wait_dequeue (thread : τ)
  | write
  | after_write
  | update_frame_rate (fps : ℚ)
deriving DecidableEq

/-- A frame callback has measured a frame rate. -/
def Turn.measures {τ : Type} : Turn τ → Bool
  | .update_frame_rate _ => true
  | _ => false

/-- The frame with which a thread calls `enqueue_frame`. -/
def Turn.given {τ : Type} : Turn τ → Option (τ × Frame)
  | .call thread cmd => cmd.payload.map (thread, ·)
  | _ => none

namespace Threads

variable {τ ω : Type} [DecidableEq τ]

/-- A thread goes on to another point of its call, or returns from it. -/
def goto (thread : τ) (call : Option Call) (s : Threads τ ω) : Threads τ ω :=
  { s with calls := Function.update s.calls thread call }

section

variable (H : Host ω)

/-- The worker's turn, with what is left in the queue. -/
def work (event : Event) (queue : List (τ × Command)) (s : Threads τ ω) : Option (Threads τ ω) :=
  (s.worker_.step H event).map fun worker => { s with worker_ := worker, queue_ := queue }

/-- A turn of the worker changes each of `running_` and `recording_` once at most,
so that a test in the midst of it is one before or after it. -/
def step (s : Threads τ ω) : Turn τ → Option (Threads τ ω)
  | .call thread cmd =>
    if s.calls thread = none then
      if cmd.type = .Frame ∧ cmd.frame = none then some s
      else some (s.goto thread (some (.entered cmd)))
    else
      none
  | .test_running thread =>
    match s.calls thread with
    | some (.entered cmd) =>
      if ¬ s.worker_.self.running_ then
        some (s.goto thread none)
      else
        match cmd.payload with
        | some frame => some (s.goto thread (some (.running frame)))
        | none => some (s.goto thread (some (.pushing cmd)))
    | _ => none
  | .test_recording thread =>
    match s.calls thread with
    | some (.running frame) =>
      if ¬ s.worker_.self.recording_ then some (s.goto thread none)
      else some (s.goto thread (some (.pushing ⟨.Frame, some frame⟩)))
    | _ => none
  | .push_command thread =>
    match s.calls thread with
    | some (.pushing cmd) =>
      some { s.goto thread none with queue_ := s.queue_ ++ [(thread, cmd)] }
    | _ => none
  | .wait_dequeue thread =>
    match take_from thread s.queue_ with
    | some (cmd, queue) => s.work H (.command cmd) queue
    | none => none
  | .write => s.work H .write s.queue_
  | .after_write => s.work H .after_write s.queue_
  | .update_frame_rate fps => s.work H (.update_frame_rate fps) s.queue_

end

/-- The recorder that the constructor leaves behind, its worker started. -/
def launched (τ : Type) (self : DvrRecorder) (host : ω) : Threads τ ω :=
  { worker_ := { self := self, host := host } }

/-- What a turn is to the worker. -/
def worker_events (s : Threads τ ω) : Turn τ → List Event
  | .wait_dequeue thread => (take_from thread s.queue_).toList.map fun taken => .command taken.1
  | .write => [.write]
  | .after_write => [.after_write]
  | .update_frame_rate fps => [.update_frame_rate fps]
  | _ => []

/-- What a turn puts into the queue. -/
def pushes (s : Threads τ ω) : Turn τ → List (τ × Command)
  | .push_command thread => (s.calls thread).toList.map fun call => (thread, call.cmd)
  | _ => []

/-- What a turn takes from the queue. -/
def dequeues (s : Threads τ ω) : Turn τ → List (τ × Command)
  | .wait_dequeue thread => (take_from thread s.queue_).toList.map fun taken => (thread, taken.1)
  | _ => []

/-- The call that a turn enters. -/
def enters (_ : Threads τ ω) : Turn τ → List (τ × Command)
  | .call thread cmd => [(thread, cmd)]
  | _ => []

/-- The command of the call that a thread is in. -/
def pending (thread : τ) (s : Threads τ ω) : List Command :=
  (s.calls thread).toList.map Call.cmd

variable {H : Host ω} {s before after : Threads τ ω} {turn : Turn τ}

theorem goto_calls (other thread : τ) (call : Option Call) (s : Threads τ ω) :
    (s.goto other call).calls thread = if other = thread then call else s.calls thread := by
  unfold goto
  dsimp only
  rw [Function.update_apply]
  exact if_congr eq_comm rfl rfl

/-- The outcome of a test of `running_` or of `recording_`. -/
inductive Tested (self : DvrRecorder) : Call → Option Call → Prop where
  | not_running {cmd : Command} (hrunning : self.running_ = false) :
      Tested self (.entered cmd) none
  | not_recording {frame : Frame} (hrecording : self.recording_ = false) :
      Tested self (.running frame) none
  | goes_on {call next : Call} (hcmd : next.cmd = call.cmd)
      (hrunning : ∀ cmd, call = .entered cmd → self.running_ = true) :
      Tested self call (some next)

/-- Every way in which a turn can go. -/
inductive Moves (H : Host ω) (before : Threads τ ω) : Turn τ → Threads τ ω → Prop where
  | ignored {thread : τ} {cmd : Command} (hnull : cmd.type = .Frame ∧ cmd.frame = none)
      (hidle : before.calls thread = none) : Moves H before (.call thread cmd) before
  | entered {thread : τ} {cmd : Command} (hidle : before.calls thread = none) :
      Moves H before (.call thread cmd) (before.goto thread (some (.entered cmd)))
  | tested {thread : τ} {call : Call} {next : Option Call} {turn : Turn τ}
      (hcall : before.calls thread = some call)
      (hturn : turn = .test_running thread ∨ turn = .test_recording thread)
      (htested : Tested before.worker_.self call next) :
      Moves H before turn (before.goto thread next)
  | pushed {thread : τ} {cmd : Command} (hcall : before.calls thread = some (.pushing cmd)) :
      Moves H before (.push_command thread)
        { before.goto thread none with queue_ := before.queue_ ++ [(thread, cmd)] }
  | dequeued {thread : τ} {cmd : Command} {queue : List (τ × Command)} {worker : Stage ω}
      (htaken : take_from thread before.queue_ = some (cmd, queue))
      (hworker : before.worker_.step H (.command cmd) = some worker) :
      Moves H before (.wait_dequeue thread) { before with worker_ := worker, queue_ := queue }
  | worked {event : Event} {turn : Turn τ} {worker : Stage ω}
      (hturn : event = .write ∧ turn = .write ∨ event = .after_write ∧ turn = .after_write ∨
        ∃ fps, event = .update_frame_rate fps ∧ turn = .update_frame_rate fps)
      (hworker : before.worker_.step H event = some worker) :
      Moves H before turn { before with worker_ := worker }

theorem eq_of_payload {cmd : Command} {frame : Frame} (hpayload : cmd.payload = some frame) :
    cmd = ⟨.Frame, some frame⟩ := by
  unfold Command.payload at hpayload
  obtain ⟨htype, hframe⟩ := Option.ite_none_right_eq_some.mp hpayload
  obtain ⟨type, payload⟩ := cmd
  rw [show type = .Frame from htype, show payload = some frame from hframe]

omit [DecidableEq τ] in
theorem work_eq_some {event : Event} {queue : List (τ × Command)}
    (hwork : before.work H event queue = some after) : ∃ worker,
      before.worker_.step H event = some worker ∧
        { before with worker_ := worker, queue_ := queue } = after :=
  Option.map_eq_some_iff.mp hwork

theorem step_moves (hstep : step H before turn = some after) : Moves H before turn after := by
  cases turn with
  | call thread cmd =>
    obtain ⟨hidle, heq⟩ := Option.ite_none_right_eq_some.mp hstep
    split at heq
    · next hnull =>
      cases heq
      exact .ignored hnull hidle
    · cases heq
      exact .entered hidle
  | test_running thread =>
    rw [step] at hstep
    split at hstep
    · next cmd hcall =>
      split at hstep
      · next hrunning =>
        cases hstep
        exact .tested hcall (Or.inl rfl) (.not_running (by simpa using hrunning))
      · next hrunning =>
        have hflag : ∀ other, Call.entered cmd = .entered other →
            before.worker_.self.running_ = true := fun _ _ => not_not.mp hrunning
        split at hstep <;> cases hstep
        · next frame hpayload =>
          exact .tested hcall (Or.inl rfl) (.goes_on (eq_of_payload hpayload).symm hflag)
        · exact .tested hcall (Or.inl rfl) (.goes_on rfl hflag)
    · cases hstep
  | test_recording thread =>
    rw [step] at hstep
    split at hstep
    · next frame hcall =>
      split at hstep <;> cases hstep
      · next hrecording =>
        exact .tested hcall (Or.inr rfl) (.not_recording (by simpa using hrecording))
      · exact .tested hcall (Or.inr rfl) (.goes_on rfl fun _ hother => by cases hother)
    · cases hstep
  | push_command thread =>
    rw [step] at hstep
    split at hstep
    · next cmd hcall =>
      cases hstep
      exact .pushed hcall
    · cases hstep
  | wait_dequeue thread =>
    rw [step] at hstep
    split at hstep
    · next cmd queue htaken =>
      obtain ⟨worker, hworker, rfl⟩ := work_eq_some hstep
      exact .dequeued htaken hworker
    · cases hstep
  | write =>
    obtain ⟨worker, hworker, rfl⟩ := work_eq_some hstep
    exact .worked (Or.inl ⟨rfl, rfl⟩) hworker
  | after_write =>
    obtain ⟨worker, hworker, rfl⟩ := work_eq_some hstep
    exact .worked (Or.inr (Or.inl ⟨rfl, rfl⟩)) hworker
  | update_frame_rate fps =>
    obtain ⟨worker, hworker, rfl⟩ := work_eq_some hstep
    exact .worked (Or.inr (Or.inr ⟨fps, rfl, rfl⟩)) hworker

/-- The worker does what it does on the commands that it dequeues, whatever the
other threads do in between. -/
theorem step_worker (hstep : step H before turn = some after) :
    exec (Stage.step H) before.worker_ (before.worker_events turn) = some after.worker_ := by
  cases step_moves hstep with
  | ignored | entered | pushed => rfl
  | tested _ hturn _ => obtain rfl | rfl := hturn <;> rfl
  | dequeued htaken hworker =>
    rw [worker_events, htaken]
    exact exec_single _ hworker
  | worked hturn hworker =>
    obtain ⟨rfl, rfl⟩ | ⟨rfl, rfl⟩ | ⟨fps, rfl, rfl⟩ := hturn <;> exact exec_single _ hworker

/-- The queue hands on the commands of each thread. -/
theorem step_conserves (thread : τ) :
    Conserves (step H) (fun s : Threads τ ω => sent_by thread s.queue_)
      (fun s turn => sent_by thread (s.pushes turn))
      (fun s turn => sent_by thread (s.dequeues turn)) := by
  constructor
  intro before turn after hstep
  cases step_moves hstep with
  | ignored | entered => exact List.append_nil _
  | tested _ hturn _ => obtain rfl | rfl := hturn <;> exact List.append_nil _
  | pushed hcall =>
    rw [pushes, hcall]
    exact (sent_by_append _ _ _).symm
  | @dequeued other cmd queue _ htaken _ =>
    obtain ⟨hsent, -⟩ := take_from_eq_some htaken
    have hdequeues : before.dequeues (.wait_dequeue other) = [(other, cmd)] := by
      rw [dequeues, htaken]
      rfl
    rw [hdequeues, hsent thread, sent_by_single]
    exact List.append_nil _
  | worked hturn _ =>
    obtain ⟨-, rfl⟩ | ⟨-, rfl⟩ | ⟨fps, -, rfl⟩ := hturn <;> exact List.append_nil _

/-- A thread pushes the commands of its calls, in their order. -/
theorem step_pushes (thread : τ) (hstep : step H before turn = some after) :
    (sent_by thread (before.pushes turn) ++ after.pending thread).Sublist
      (before.pending thread ++ sent_by thread (before.enters turn)) := by
  have hkept {turn : Turn τ} {after : Threads τ ω} (hpushes : before.pushes turn = [])
      (hpending : (after.pending thread).Sublist (before.pending thread)) :
      (sent_by thread (before.pushes turn) ++ after.pending thread).Sublist
        (before.pending thread ++ sent_by thread (before.enters turn)) := by
    rw [hpushes]
    exact hpending.trans (List.sublist_append_left _ _)
  cases step_moves hstep with
  | ignored => exact hkept rfl (List.Sublist.refl _)
  | @entered other cmd hidle =>
    change (((before.goto other (some (.entered cmd))).calls thread).toList.map Call.cmd).Sublist
      (before.pending thread ++ sent_by thread [(other, cmd)])
    rw [goto_calls, sent_by_single]
    by_cases hother : other = thread
    · rw [if_pos hother, if_pos hother]
      exact List.sublist_append_right _ _
    · rw [if_neg hother, if_neg hother, List.append_nil]
      exact List.Sublist.refl _
  | @tested other call next _ hcall hturn htested =>
    apply hkept
    · obtain rfl | rfl := hturn <;> rfl
    · unfold pending
      rw [goto_calls]
      split
      · next hother =>
        rw [← hother, hcall]
        cases htested with
        | not_running | not_recording => exact List.nil_sublist _
        | goes_on hcmd _ =>
          rw [Option.toList_some, Option.toList_some, List.map_singleton, List.map_singleton, hcmd]
      · exact List.Sublist.refl _
  | @pushed other cmd hcall =>
    rw [pushes, hcall]
    change (sent_by thread [(other, cmd)] ++
      ((before.goto other none).calls thread).toList.map Call.cmd).Sublist
        (before.pending thread ++ [])
    rw [goto_calls, sent_by_single, List.append_nil, pending]
    by_cases hother : other = thread
    · rw [if_pos hother, if_pos hother, ← hother, hcall]
      exact List.Sublist.refl _
    · rw [if_neg hother, if_neg hother]
      exact List.Sublist.refl _
  | dequeued => exact hkept rfl (List.Sublist.refl _)
  | worked hturn _ =>
    apply hkept
    · obtain ⟨-, rfl⟩ | ⟨-, rfl⟩ | ⟨fps, -, rfl⟩ := hturn <;> rfl
    · exact List.Sublist.refl _

theorem commands_worker_events (s : Threads τ ω) (turn : Turn τ) :
    commands (s.worker_events turn) = (s.dequeues turn).map Prod.snd := by
  cases turn with
  | wait_dequeue thread =>
    rw [worker_events, dequeues]
    cases take_from thread s.queue_ <;> rfl
  | call | test_running | test_recording | push_command | write | after_write |
    update_frame_rate => rfl

theorem flow_dequeues (steps : List (Threads τ ω × Turn τ)) :
    commands (flow worker_events steps) = (flow dequeues steps).map Prod.snd := by
  rw [commands, ← flow_filterMap, ← flow_map]
  exact congrArg (flow · steps) (funext₂ commands_worker_events)

theorem works_of_mem_worker_events {event : Event} (hevent : event ∈ s.worker_events turn)
    (hturn : turn.measures = false) : event.works := by
  cases turn with
  | wait_dequeue thread =>
    obtain ⟨taken, -, rfl⟩ := List.mem_map.mp hevent
    trivial
  | write | after_write =>
    rw [List.mem_singleton.mp hevent]
    trivial
  | update_frame_rate => cases hturn
  | call | test_running | test_recording | push_command => cases hevent

/-- Whatever the threads do and in whichever order, the worker does what its loop
does on the commands that it dequeues; and of each thread it dequeues the
commands pushed, all but those still in the queue, in their order. -/
theorem worker_follows {self : DvrRecorder} {host : ω} {turns : List (Turn τ)}
    {last : Threads τ ω} (hexec : exec (step H) (launched τ self host) turns = some last)
    (hrate : ∀ turn ∈ turns, turn.measures = false) :
    let steps := taken (step H) (launched τ self host) turns
    last.worker_.settled H = DvrRecorder.worker_loop H { self := self, host := host }
        ((flow dequeues steps).map Prod.snd) ∧
      ∀ thread, sent_by thread (flow pushes steps) =
        sent_by thread (flow dequeues steps) ++ sent_by thread last.queue_ := by
  refine ⟨?_, fun thread => ?_⟩
  · have hworks : ∀ event ∈ flow worker_events (taken (step H) (launched τ self host) turns),
        event.works := by
      intro event hevent
      obtain ⟨⟨s, turn⟩, htaken, hmem⟩ := List.mem_flatMap.mp hevent
      exact works_of_mem_worker_events hmem (hrate turn (mem_of_mem_taken htaken))
    have hsettled := Stage.settled_of_exec (exec_flow step_worker hexec) hworks
    rw [flow_dequeues] at hsettled
    exact hsettled
  · have hrun := (step_conserves (H := H) thread).run hexec
    unfold sent_by at hrun ⊢
    rw [flow_filterMap, flow_filterMap] at hrun
    exact hrun

theorem payloads_enters (thread : τ) {start last : Threads τ ω} {turns : List (Turn τ)}
    (hexec : exec (step H) start turns = some last) :
    payloads (sent_by thread (flow enters (taken (step H) start turns))) =
      sent_by thread (turns.filterMap Turn.given) := by
  induction turns generalizing start with
  | nil => rfl
  | cons turn turns ih =>
    obtain ⟨next, hstep, hrest⟩ := Option.bind_eq_some_iff.mp hexec
    rw [taken, hstep]
    dsimp only
    rw [flow_cons, sent_by_append, payloads, List.filterMap_append]
    change payloads _ ++ payloads _ = _
    rw [ih hrest]
    cases turn with
    | call other cmd =>
      change payloads (sent_by thread [(other, cmd)]) ++ _ = _
      rw [sent_by_single, List.filterMap_cons, Turn.given]
      cases hpayload : cmd.payload with
      | none => split <;> simp [payloads, hpayload]
      | some frame =>
        rw [Option.map_some]
        dsimp only
        rw [sent_by_cons]
        split <;> simp [payloads, hpayload]
    | test_running | test_recording | push_command | wait_dequeue | write | after_write |
      update_frame_rate => rfl

/-- The frames under way in calls and in the queue are those of one thread. -/
structure FramesFrom (video : τ) (s : Threads τ ω) : Prop where
  calls : ∀ thread call, s.calls thread = some call → call.cmd.payload ≠ none → thread = video
  queue : ∀ item ∈ s.queue_, item.2.payload ≠ none → item.1 = video

theorem FramesFrom.goto {video : τ} (h : FramesFrom video s) {thread : τ} {next : Option Call}
    (hnext : ∀ call, next = some call → call.cmd.payload ≠ none → thread = video) :
    FramesFrom video (s.goto thread next) := by
  refine ⟨fun other call hcall hpayload => ?_, h.queue⟩
  rw [goto_calls] at hcall
  split at hcall
  · next hother => exact hother ▸ hnext call hcall hpayload
  · exact h.calls other call hcall hpayload

/-- What is dequeued with a frame is that thread's. -/
theorem FramesFrom.dequeued {video : τ} (h : FramesFrom video s) (turn : Turn τ) :
    payloads ((s.dequeues turn).map Prod.snd) = payloads (sent_by video (s.dequeues turn)) := by
  cases turn with
  | wait_dequeue thread =>
    rw [dequeues]
    cases htaken : take_from thread s.queue_ with
    | none => rfl
    | some taken =>
      obtain ⟨-, hperm⟩ := take_from_eq_some htaken
      have hmem : (thread, taken.1) ∈ s.queue_ := hperm.mem_iff.mpr List.mem_cons_self
      change payloads [taken.1] = payloads (sent_by video [(thread, taken.1)])
      rw [sent_by_single]
      split
      · rfl
      · next hother =>
        cases hpayload : taken.1.payload with
        | none => simp [payloads, hpayload]
        | some frame =>
          have hvideo := h.queue _ hmem (by rw [hpayload]; exact Option.some_ne_none frame)
          exact absurd hvideo hother
  | call | test_running | test_recording | push_command | write | after_write |
    update_frame_rate => rfl

theorem FramesFrom.step {video : τ} (h : FramesFrom video before)
    (hstep : Threads.step H before turn = some after)
    (honly : ∀ given, turn.given = some given → given.1 = video) : FramesFrom video after := by
  cases step_moves hstep with
  | ignored => exact h
  | entered =>
    apply h.goto
    rintro call heq hpayload
    cases heq
    obtain ⟨frame, hframe⟩ := Option.ne_none_iff_exists'.mp hpayload
    exact honly (_, frame) (Option.map_eq_some_iff.mpr ⟨frame, hframe, rfl⟩)
  | tested hcall _ htested =>
    apply h.goto
    rintro call rfl hpayload
    cases htested with
    | goes_on hcmd _ =>
      rw [hcmd] at hpayload
      exact h.calls _ _ hcall hpayload
  | @pushed thread _ hcall =>
    have hidle : FramesFrom video (before.goto thread none) :=
      h.goto fun call hnone => absurd hnone (Option.some_ne_none call).symm
    refine ⟨hidle.calls, fun item hitem hpayload => ?_⟩
    obtain hmem | hnew := List.mem_append.mp hitem
    · exact h.queue item hmem hpayload
    · rw [List.mem_singleton.mp hnew] at hpayload ⊢
      exact h.calls _ _ hcall hpayload
  | dequeued htaken _ =>
    refine ⟨h.calls, fun item hitem hpayload => ?_⟩
    obtain ⟨-, hperm⟩ := take_from_eq_some htaken
    exact h.queue item (hperm.mem_iff.mpr (List.mem_cons_of_mem _ hitem)) hpayload
  | worked => exact ⟨h.calls, h.queue⟩

/-- Where one thread calls `enqueue_frame`, the frames that the worker dequeues
are the first of those that the thread pushes. -/
theorem payloads_dequeued (video : τ) {self : DvrRecorder} {host : ω} {turns : List (Turn τ)}
    {last : Threads τ ω} (hexec : exec (step H) (launched τ self host) turns = some last)
    (honly : ∀ given ∈ turns.filterMap Turn.given, given.1 = video) :
    let steps := taken (step H) (launched τ self host) turns
    payloads ((flow dequeues steps).map Prod.snd) =
      payloads (sent_by video (flow dequeues steps)) := by
  have hstart : FramesFrom video (launched τ self host) :=
    ⟨fun _ call hcall => absurd hcall (Option.some_ne_none call).symm, List.forall_mem_nil _⟩
  have hframes (before : Threads τ ω) (turn : Turn τ) (after : Threads τ ω)
      (htakes : Takes (step H) (launched τ self host) turns before turn after) :
      payloads ((before.dequeues turn).map Prod.snd) =
        payloads (sent_by video (before.dequeues turn)) := by
    have hbefore : FramesFrom video before :=
      htakes.reaches.invariant hstart fun earlier event later h hearlier =>
        hearlier.step h.step_eq fun given hgiven =>
          honly given (List.mem_filterMap.mpr ⟨event, mem_of_mem_taken h.mem_taken, hgiven⟩)
    exact hbefore.dequeued turn
  have hflows := flow_congr hframes (List.prefix_refl turns) hexec
  unfold payloads sent_by at hflows ⊢
  rw [flow_filterMap, flow_map, flow_filterMap, flow_filterMap] at hflows
  exact hflows

/-- Whatever the threads do and whatever fails, the frames handed to the muxer are
among those with which `enqueue_frame` is called, none twice and in their
order. -/
theorem written_in_order (video : τ) {self : DvrRecorder} (hself : Initial self) (host : ω)
    {turns : List (Turn τ)} {last : Threads τ ω}
    (honly : ∀ given ∈ turns.filterMap Turn.given, given.1 = video)
    (hexec : exec (step H) (launched τ self host) turns = some last) :
    (written last.worker_.trace).Sublist ((turns.filterMap Turn.given).map Prod.snd) := by
  have hsteady : Steady (launched τ self host).worker_ :=
    ⟨hself.consistent, fun hphase => Phase.noConfusion hphase⟩
  have hring : (launched τ self host).worker_.frames = [] := by
    obtain ⟨writer, width, height, fps_hint, codec, path, rfl⟩ := hself
    rfl
  obtain ⟨handed, hwritten, hframes⟩ :=
    Stage.frames_of_exec hsteady (exec_flow step_worker hexec)
  rw [hring, List.nil_append, flow_dequeues, payloads_dequeued video hexec honly] at hframes
  have hdequeued : (sent_by video (flow dequeues (taken (step H) (launched τ self host) turns))) <+:
      sent_by video (flow pushes (taken (step H) (launched τ self host) turns)) := by
    have hrun := Conserves.run_prefix (step_conserves (H := H) video) rfl hexec
    unfold sent_by at hrun ⊢
    rw [flow_filterMap, flow_filterMap] at hrun
    exact hrun
  have hpushed : (sent_by video (flow pushes (taken (step H) (launched τ self host) turns))).Sublist
      (sent_by video (flow enters (taken (step H) (launched τ self host) turns))) := by
    have hrun := run_sublist (step_pushes (H := H) video) hexec
    unfold sent_by at hrun ⊢
    rw [flow_filterMap, flow_filterMap] at hrun
    exact (List.sublist_append_left _ _).trans hrun
  have hgiven := (hdequeued.sublist.trans hpushed).filterMap Command.payload
  change (payloads _).Sublist (payloads _) at hgiven
  rw [payloads_enters video hexec] at hgiven
  rw [hwritten]
  exact ((List.sublist_append_left _ _).trans hframes).trans
    (hgiven.trans (sent_by_sublist video _))

/-- A thread calls `start_recording`, and another one `enqueue_frame` for three
frames, of which the second one ends the warm-up. -/
def session_turns : List (Turn Bool) :=
  let frame : List (Turn Bool) := [.call true ⟨.Frame, some key_frame⟩, .test_running true,
    .test_recording true, .push_command true, .wait_dequeue true]
  [.call false ⟨.Start, none⟩, .test_running false, .push_command false, .wait_dequeue false] ++
    frame ++ frame ++ frame ++ [.write, .after_write, .write]

theorem session_turns_recorded : ∃ last,
    exec (step scripted) (launched Bool (constructed {}).self
        { clock := one_second, paths := [['r']] }) session_turns = some last ∧
      written last.worker_.trace = [key_frame] ∧ last.worker_.phase = .waiting := by
  have hrun : (exec (step scripted) (launched Bool (constructed {}).self
      { clock := one_second, paths := [['r']] }) session_turns).map
        (fun last => (written last.worker_.trace, last.worker_.phase)) =
      some ([key_frame], .waiting) := by
    decide +kernel
  obtain ⟨last, hexec, heq⟩ := Option.map_eq_some_iff.mp hrun
  exact ⟨last, hexec, congrArg Prod.fst heq, congrArg Prod.snd heq⟩

theorem written_in_order_session :
    [key_frame].Sublist ((session_turns.filterMap Turn.given).map Prod.snd) := by
  obtain ⟨last, hexec, hwritten, -⟩ := session_turns_recorded
  have horder := written_in_order true (constructed_initial {}) _ (by decide) hexec
  rw [hwritten] at horder
  exact horder

theorem worker_follows_session : ∃ last : Threads Bool Script,
    last.worker_.settled scripted = DvrRecorder.worker_loop scripted
      { self := (constructed {}).self, host := { clock := one_second, paths := [['r']] } }
      ((flow dequeues (taken (step scripted) (launched Bool (constructed {}).self
        { clock := one_second, paths := [['r']] }) session_turns)).map Prod.snd) := by
  obtain ⟨last, hexec, -⟩ := session_turns_recorded
  exact ⟨last, (worker_follows hexec (by decide)).1⟩

end Threads

end amldigitalfpv.dvr_recorder
