import AMLDigitalFPV.DvrRecorder.Threads

open Runs Transition Conservation Mailbox

namespace amldigitalfpv.dvr_recorder

/-- A turn of the worker on its commands. -/
def Turn.works {τ : Type} : Turn τ → Bool
  | .wait_dequeue _ | .write | .after_write => true
  | _ => false

/-- What a call past its test of `running_` has still to push. -/
def Call.admitted : Call → List Command
  | .entered _ => []
  | .running frame => [⟨.Frame, some frame⟩]
  | .pushing cmd => [cmd]

namespace Threads

variable {τ ω : Type}

/-- The worker has left its loop, or will when it gets to a command in the queue. -/
def Doomed (s : Threads τ ω) : Prop :=
  s.worker_.exited = true ∨ ∃ item ∈ s.queue_, item.2.type = .Shutdown

/-- A thread returns from a call of `shutdown`. -/
def ReturnsShutdown (thread : τ) (before after : Threads τ ω) : Prop :=
  ∃ call, before.calls thread = some call ∧ call.cmd.type = .Shutdown ∧ after.calls thread = none

/-- The turns the worker needs, at most, for the commands in the queue. -/
def turns_left (s : Threads τ ω) : Nat := 242 * s.queue_.length + s.worker_.turns_left

/-- The command that a thread has still to push in the call that it is in, once
it is past its test of `running_`. -/
def admitted (thread : τ) (s : Threads τ ω) : List Command :=
  (s.calls thread).toList.flatMap Call.admitted

variable [DecidableEq τ] {H : Host ω} {s before after : Threads τ ω} {turn : Turn τ}

theorem ending_step (h : before.worker_.Ending) (hstep : step H before turn = some after) :
    after.worker_.Ending := by
  cases step_moves hstep with
  | ignored | entered | tested | pushed => exact h
  | dequeued _ hworker | worked _ hworker => exact h.step hworker

omit [DecidableEq τ] in
theorem ending_launched {self : DvrRecorder} (hself : Initial self) (host : ω) :
    (launched τ self host).worker_.Ending := by
  have hsteady : Steady (launched τ self host).worker_ :=
    ⟨hself.consistent, fun hphase => Phase.noConfusion hphase⟩
  obtain ⟨writer, width, height, fps_hint, codec, path, rfl⟩ := hself
  exact .of_running hsteady rfl rfl

theorem ending_exec {self : DvrRecorder} (hself : Initial self) {host : ω} {turns : List (Turn τ)}
    (hexec : exec (step H) (launched τ self host) turns = some s) : s.worker_.Ending := by
  have hreaches : Reaches (step H) (launched τ self host) turns s :=
    ⟨turns, List.prefix_refl _, hexec⟩
  exact hreaches.invariant (P := fun s => s.worker_.Ending) (ending_launched hself host)
    fun _ _ _ htakes h => ending_step h htakes.step_eq

theorem Doomed.step (h : Doomed before) (hstep : Threads.step H before turn = some after) :
    Doomed after := by
  cases step_moves hstep with
  | ignored | entered | tested => exact h
  | pushed =>
    refine h.imp_right fun ⟨item, hitem, htype⟩ => ⟨item, ?_, htype⟩
    exact List.mem_append_left _ hitem
  | @dequeued thread cmd queue worker htaken hworker =>
    have hexited := Stage.step_exited hworker
    obtain hbefore | ⟨item, hitem, htype⟩ := h
    · exact Or.inl (hexited.mpr (Or.inl hbefore))
    · obtain ⟨-, hperm⟩ := take_from_eq_some htaken
      obtain rfl | hleft := List.mem_cons.mp (hperm.mem_iff.mp hitem)
      · exact Or.inl (hexited.mpr (Or.inr ⟨cmd, rfl, htype⟩))
      · exact Or.inr ⟨item, hleft, htype⟩
  | worked _ hworker =>
    exact h.imp_left fun hbefore => (Stage.step_exited hworker).mpr (Or.inl hbefore)

/-- A call of `shutdown` that returns has pushed its command, or it has found
that the worker has left its loop. -/
theorem Doomed.of_return (hending : before.worker_.Ending)
    (hstep : Threads.step H before turn = some after) {thread : τ}
    (h : ReturnsShutdown thread before after) : Doomed after := by
  obtain ⟨call, hcall, htype, hreturned⟩ := h
  have hgoto {other : τ} {next : Option Call}
      (hafter : (before.goto other next).calls thread = none) : other = thread ∧ next = none := by
    rw [goto_calls] at hafter
    split at hafter
    · next hother => exact ⟨hother, hafter⟩
    · rw [hcall] at hafter
      cases hafter
  cases step_moves hstep with
  | ignored | dequeued | worked =>
    rw [show before.calls thread = none from hreturned] at hcall
    cases hcall
  | entered => cases (hgoto hreturned).2
  | tested hother hturn htested =>
    obtain ⟨rfl, rfl⟩ := hgoto hreturned
    rw [hcall] at hother
    cases hother
    cases htested with
    | not_running hrunning =>
      left
      rw [hending.running] at hrunning
      exact (Bool.not_eq_false' _).mp hrunning
    | not_recording => cases htype
  | pushed hother =>
    obtain ⟨rfl, -⟩ := hgoto hreturned
    rw [hcall] at hother
    cases hother
    exact Or.inr ⟨_, List.mem_append_right _ (List.mem_singleton_self _), htype⟩

/-- A turn of the worker brings the number down, and only a command that is pushed
adds to it. -/
theorem step_turns_left (hending : before.worker_.Ending)
    (hstep : step H before turn = some after) :
    after.turns_left + (if turn.works then 1 else 0) ≤
      before.turns_left + 242 * (before.pushes turn).length := by
  have hkept {after : Threads τ ω} (hworks : turn.works = false)
      (hafter : after.turns_left = before.turns_left) :
      after.turns_left + (if turn.works then 1 else 0) ≤
        before.turns_left + 242 * (before.pushes turn).length := by
    rw [hworks, hafter]
    exact Nat.le_add_right _ _
  cases step_moves hstep with
  | ignored | entered => exact hkept rfl rfl
  | tested _ hturn _ => obtain rfl | rfl := hturn <;> exact hkept rfl rfl
  | @pushed thread cmd hcall =>
    have hpushes : before.pushes (.push_command thread) = [(thread, cmd)] := by
      rw [pushes, hcall]
      rfl
    rw [hpushes]
    unfold turns_left
    change 242 * (before.queue_ ++ [(thread, cmd)]).length + before.worker_.turns_left + 0 ≤ _
    rw [List.length_append, List.length_singleton]
    omega
  | @dequeued thread cmd queue worker htaken hworker =>
    obtain ⟨-, hperm⟩ := take_from_eq_some htaken
    have hlength := hperm.length_eq
    rw [List.length_cons] at hlength
    obtain ⟨⟨hphase, -⟩, rfl⟩ := by simpa [Stage.step] using hworker
    have hleft := Stage.receive_turns_left (H := H) hending.toSteady hphase cmd
    unfold turns_left
    change 242 * queue.length + (before.worker_.receive H cmd).turns_left + 1 ≤ _
    omega
  | @worked event _ worker hturn hworker =>
    unfold turns_left
    obtain ⟨rfl, rfl⟩ | ⟨rfl, rfl⟩ | ⟨fps, rfl, rfl⟩ := hturn
    · obtain ⟨hphase, rfl⟩ := by simpa [Stage.step] using hworker
      have hless := Stage.write_turns_left (H := H) hphase
      change 242 * before.queue_.length + (before.worker_.write H).turns_left + 1 ≤ _
      omega
    · obtain ⟨hphase, rfl⟩ := by simpa [Stage.step] using hworker
      have hless := Stage.after_write_turns_left (H := H) hending.toSteady hphase
      change 242 * before.queue_.length + (before.worker_.after_write H).turns_left + 1 ≤ _
      omega
    · cases hworker
      obtain ⟨duration, hrate⟩ := before.worker_.self.update_frame_rate_frame fps
      unfold Stage.turns_left
      dsimp only
      rw [hrate]
      exact Nat.le_add_right _ _

/-- So the turns the worker takes in a run are bounded by what it had before it and
by what is pushed meanwhile. -/
theorem worker_turns_le (hending : s.worker_.Ending) {more : List (Turn τ)} {last : Threads τ ω}
    (hmore : exec (step H) s more = some last) :
    last.turns_left + more.countP Turn.works ≤
      s.turns_left + 242 * (flow pushes (taken (step H) s more)).length := by
  induction more generalizing s with
  | nil =>
    cases hmore
    exact Nat.le_add_right _ _
  | cons turn more ih =>
    obtain ⟨next, hstep, hrest⟩ := Option.bind_eq_some_iff.mp hmore
    have hfirst := step_turns_left hending hstep
    have hothers := ih (ending_step hending hstep) hrest
    simp only [taken, hstep]
    rw [List.countP_cons, flow_cons, List.length_append]
    omega

/-- Until it leaves its loop the worker has something to do, as long as a
`Shutdown` waits for it. -/
theorem Doomed.enabled (h : Doomed s) (hexited : s.worker_.exited = false) :
    ∃ turn : Turn τ, turn.works = true ∧ (Threads.step H s turn).isSome = true := by
  have hwork {event : Event} {queue : List (τ × Command)}
      (hworker : (Stage.step H s.worker_ event).isSome = true) :
      (s.work H event queue).isSome = true := by
    unfold work
    rw [Option.isSome_map]
    exact hworker
  cases hphase : s.worker_.phase with
  | waiting =>
    have hqueue : s.queue_ ≠ [] := by
      obtain hended | ⟨item, hitem, -⟩ := h
      · rw [hexited] at hended
        cases hended
      · exact List.ne_nil_of_mem hitem
    obtain ⟨thread, cmd, queue, htaken⟩ := exists_take_from hqueue
    refine ⟨.wait_dequeue thread, rfl, ?_⟩
    rw [Threads.step, htaken]
    exact hwork (by simp [Stage.step, hphase, hexited])
  | draining => exact ⟨.write, rfl, hwork (by simp [Stage.step, hphase])⟩
  | wrote => exact ⟨.after_write, rfl, hwork (by simp [Stage.step, hphase])⟩

/-- Once a call of `shutdown` has returned, whatever the threads have done before
and do now, the worker needs no more than `turns_left` turns and what the commands
cost that are pushed meanwhile, and where it has none left to take it has left its
loop: a join returns. -/
theorem worker_joins {self : DvrRecorder} (hself : Initial self) {host : ω}
    {turns : List (Turn τ)} {thread : τ}
    (htakes : Takes (step H) (launched τ self host) turns before turn after)
    (hreturns : ReturnsShutdown thread before after)
    (hexec : exec (step H) (launched τ self host) turns = some s) {more : List (Turn τ)}
    {last : Threads τ ω} (hmore : exec (step H) s more = some last) :
    more.countP Turn.works ≤
        s.turns_left + 242 * (flow pushes (taken (step H) s more)).length ∧
      ((∀ turn : Turn τ, turn.works = true → step H last turn = none) →
        last.worker_.exited = true) := by
  have hending := ending_exec hself hexec
  have hdoomed : Doomed last := by
    obtain ⟨pre, post, -, hbefore, -⟩ := id htakes
    obtain ⟨rest, hrest⟩ := htakes.exec_after hexec
    have hafter := Doomed.of_return (ending_exec hself hbefore) htakes.step_eq hreturns
    have hreaches : Reaches (step H) after (rest ++ more) last := by
      refine ⟨rest ++ more, List.prefix_refl _, ?_⟩
      rw [exec_append, hrest]
      exact hmore
    exact hreaches.invariant hafter fun _ _ _ htakes h => h.step htakes.step_eq
  constructor
  · have hturns := worker_turns_le hending hmore
    omega
  · intro hstuck
    by_contra hexited
    obtain ⟨turn, hturn, henabled⟩ := hdoomed.enabled (H := H) ((Bool.not_eq_true _).mp hexited)
    rw [hstuck turn hturn] at henabled
    cases henabled

/-- While the other thread is in a call of `enqueue_frame`, past its tests, the one
that has started the recording calls `shutdown`. -/
def shutdown_turns : List (Turn Bool) :=
  session_turns ++ [.call true ⟨.Frame, some key_frame⟩, .test_running true, .test_recording true,
    .call false ⟨.Shutdown, none⟩, .test_running false]

/-- The frame is pushed as well and gets to the worker first. -/
def joining_turns : List (Turn Bool) :=
  [.push_command true, .wait_dequeue true, .write, .after_write, .write, .wait_dequeue false]

/-- The frame is pushed when it is too late. -/
def parting_turns : List (Turn Bool) :=
  [.push_command true, .call false ⟨.Start, none⟩, .test_running false]

theorem shutdown_turns_push : ∃ before after : Threads Bool Script,
    exec (step scripted) (launched Bool (constructed {}).self
        { clock := one_second, paths := [['r']] }) shutdown_turns = some before ∧
      step scripted before (.push_command false) = some after ∧
      ReturnsShutdown false before after := by
  have hrun : ((exec (step scripted) (launched Bool (constructed {}).self
      { clock := one_second, paths := [['r']] }) shutdown_turns).bind fun before =>
        (step scripted before (.push_command false)).map fun after =>
          (before.calls false, after.calls false)) =
      some (some (.pushing ⟨.Shutdown, none⟩), none) := by
    decide +kernel
  obtain ⟨before, hbefore, hrun⟩ := Option.bind_eq_some_iff.mp hrun
  obtain ⟨after, hafter, heq⟩ := Option.map_eq_some_iff.mp hrun
  obtain ⟨hcall, hreturned⟩ := Prod.mk.inj heq
  exact ⟨before, after, hbefore, hafter, ⟨_, hcall, rfl, hreturned⟩⟩

theorem worker_joins_session : ∃ s last : Threads Bool Script,
    exec (step scripted) s joining_turns = some last ∧
      joining_turns.countP Turn.works ≤
        s.turns_left + 242 * (flow pushes (taken (step scripted) s joining_turns)).length ∧
      ((∀ turn : Turn Bool, turn.works = true → step scripted last turn = none) →
        last.worker_.exited = true) := by
  obtain ⟨before, after, hbefore, hafter, hreturns⟩ := shutdown_turns_push
  have htakes : Takes (step scripted) (launched Bool (constructed {}).self
      { clock := one_second, paths := [['r']] }) (shutdown_turns ++ [.push_command false]) before
        (.push_command false) after :=
    ⟨shutdown_turns, [], rfl, hbefore, hafter⟩
  have hexec := exec_concat_eq_some_iff.mpr ⟨before, hbefore, hafter⟩
  obtain ⟨last, hjoined⟩ : ∃ last, exec (step scripted) after joining_turns = some last := by
    have hrun : (exec (step scripted) (launched Bool (constructed {}).self
        { clock := one_second, paths := [['r']] })
          (shutdown_turns ++ [.push_command false] ++ joining_turns)).isSome = true := by
      decide +kernel
    rw [exec_append, hexec] at hrun
    exact Option.isSome_iff_exists.mp hrun
  exact ⟨after, last, hjoined,
    worker_joins (constructed_initial {}) htakes hreturns hexec hjoined⟩

/-- Past the end of the loop a thread pushes at most the command of the call
that it is in, and only if it is past its test of `running_`. -/
theorem step_admitted (hending : before.worker_.Ending) (hexited : before.worker_.exited = true)
    (thread : τ) (hstep : step H before turn = some after) :
    (sent_by thread (before.pushes turn) ++ after.admitted thread).Sublist
      (before.admitted thread) := by
  have hgoto {other : τ} {next : Option Call} (hnext : other = thread →
      (next.toList.flatMap Call.admitted).Sublist (before.admitted thread)) :
      ((before.goto other next).admitted thread).Sublist (before.admitted thread) := by
    unfold admitted at hnext ⊢
    rw [goto_calls]
    split
    · next hother => exact hnext hother
    · exact List.Sublist.refl _
  have hquiet {turn : Turn τ} {after : Threads τ ω} (hpushes : before.pushes turn = [])
      (hafter : (after.admitted thread).Sublist (before.admitted thread)) :
      (sent_by thread (before.pushes turn) ++ after.admitted thread).Sublist
        (before.admitted thread) := by
    rw [hpushes]
    exact hafter
  cases step_moves hstep with
  | ignored => exact hquiet rfl (List.Sublist.refl _)
  | entered => exact hquiet rfl (hgoto fun _ => List.nil_sublist _)
  | @tested other call next _ hcall hturn htested =>
    apply hquiet
    · obtain rfl | rfl := hturn <;> rfl
    · apply hgoto
      rintro rfl
      unfold admitted
      rw [hcall]
      cases htested with
      | not_running | not_recording => exact List.nil_sublist _
      | @goes_on _ following hcmd hrunning =>
        have hleft : following.admitted.Sublist [following.cmd] := by
          cases following with
          | entered => exact List.nil_sublist _
          | running | pushing => exact List.Sublist.refl _
        have hcalled : call.admitted = [call.cmd] := by
          cases call with
          | entered cmd =>
            have hflag := hrunning cmd rfl
            rw [hending.running, hexited] at hflag
            cases hflag
          | running | pushing => rfl
        rw [hcmd, ← hcalled] at hleft
        simpa using hleft
  | @pushed other cmd hcall =>
    have hpushes : before.pushes (.push_command other) = [(other, cmd)] := by
      rw [pushes, hcall]
      rfl
    rw [hpushes, sent_by_single]
    change (_ ++ (before.goto other none).admitted thread).Sublist _
    split
    · next hother =>
      subst hother
      unfold admitted
      rw [goto_calls, if_pos rfl, hcall]
      exact List.Sublist.refl _
    · next hother => exact hgoto fun hsame => absurd hsame hother
  | dequeued => exact hquiet rfl (List.Sublist.refl _)
  | worked hturn _ =>
    apply hquiet
    · obtain ⟨-, rfl⟩ | ⟨-, rfl⟩ | ⟨fps, -, rfl⟩ := hturn <;> rfl
    · exact List.Sublist.refl _

/-- A worker that has left its loop. -/
def Left (s : Threads τ ω) : Prop := s.worker_.Ending ∧ s.worker_.exited = true

/-- The worker has taken its last turn. -/
theorem Left.step (h : Left before) (hstep : Threads.step H before turn = some after) :
    Left after ∧ before.dequeues turn = [] ∧ after.worker_.trace = before.worker_.trace := by
  obtain ⟨hending, hexited⟩ := h
  have hnext := ending_step hending hstep
  cases step_moves hstep with
  | ignored | entered | pushed => exact ⟨⟨hnext, hexited⟩, rfl, rfl⟩
  | tested _ hturn _ => obtain rfl | rfl := hturn <;> exact ⟨⟨hnext, hexited⟩, rfl, rfl⟩
  | dequeued _ hworker =>
    obtain ⟨⟨-, hrunning⟩, -⟩ := by simpa [Stage.step] using hworker
    rw [hexited] at hrunning
    cases hrunning
  | worked hturn hworker =>
    have hphase := (hending.closed hexited).1
    obtain ⟨rfl, rfl⟩ | ⟨rfl, rfl⟩ | ⟨fps, rfl, rfl⟩ := hturn
    · obtain ⟨hbusy, -⟩ := by simpa [Stage.step] using hworker
      rw [hphase] at hbusy
      cases hbusy
    · obtain ⟨hbusy, -⟩ := by simpa [Stage.step] using hworker
      rw [hphase] at hbusy
      cases hbusy
    · cases hworker
      exact ⟨⟨hnext, hexited⟩, rfl, rfl⟩

/-- When the worker has left its loop, nothing more is dequeued or written and the
file stays closed. What a thread still pushes, and leaves in the queue, is the
command of the call that it was in, if that had seen the worker running. -/
theorem exit_is_final {self : DvrRecorder} (hself : Initial self) {host : ω}
    {turns more : List (Turn τ)} {last : Threads τ ω}
    (hexec : exec (step H) (launched τ self host) turns = some s)
    (hexited : s.worker_.exited = true) (hmore : exec (step H) s more = some last) :
    flow dequeues (taken (step H) s more) = [] ∧ last.worker_.trace = s.worker_.trace ∧
      last.worker_.self.writer_ready_ = false ∧ last.worker_.self.recording_ = false ∧
      ∀ thread, (sent_by thread (flow pushes (taken (step H) s more))).Sublist
        (s.admitted thread) := by
  have hleft : Left s := ⟨ending_exec hself hexec, hexited⟩
  obtain ⟨⟨hending, hexits⟩, hdequeued, htrace⟩ : Left last ∧
      flow dequeues (taken (step H) s more) = [] ∧ last.worker_.trace = s.worker_.trace := by
    refine exec_induction (P := fun start steps last => Left start → Left last ∧
      flow dequeues steps = [] ∧ last.worker_.trace = start.worker_.trace) ?_ ?_ hmore hleft
    · exact fun _ h => ⟨h, rfl, rfl⟩
    · intro before turn next steps last hstep ih h
      obtain ⟨hnext, hnone, hsame⟩ := h.step hstep
      obtain ⟨hlast, hrest, htrace⟩ := ih hnext
      refine ⟨hlast, ?_, htrace.trans hsame⟩
      rw [flow_cons, hnone, hrest]
      rfl
  obtain ⟨-, hready, hrecording, -⟩ := hending.closed hexits
  refine ⟨hdequeued, htrace, hready, hrecording, fun thread => ?_⟩
  have hnothing : flow (fun (_ : Threads τ ω) (_ : Turn τ) => ([] : List Command))
      (taken (step H) s more) = [] := List.flatMap_eq_nil_iff.mpr fun _ _ => rfl
  have hleaks {before : Threads τ ω} {turn : Turn τ} {after : Threads τ ω}
      (hstep : step H before turn = some after) (h : Left before) :
      (sent_by thread (before.pushes turn) ++ after.admitted thread).Sublist
        (before.admitted thread ++ []) := by
    rw [List.append_nil]
    exact step_admitted h.1 h.2 thread hstep
  have hpushed := run_sublist_of_invariant (fun hstep h => (h.step hstep).1) hleaks hleft hmore
  rw [hnothing, List.append_nil] at hpushed
  unfold sent_by at hpushed ⊢
  rw [flow_filterMap] at hpushed
  exact (List.sublist_append_left _ _).trans hpushed

theorem exit_is_final_session : ∃ s last : Threads Bool Script,
    s.calls true = some (.pushing ⟨.Frame, some key_frame⟩) ∧
      exec (step scripted) s parting_turns = some last ∧
      last.worker_.trace = s.worker_.trace ∧ last.worker_.self.writer_ready_ = false ∧
      (sent_by true (flow pushes (taken (step scripted) s parting_turns))).Sublist
        [⟨.Frame, some key_frame⟩] := by
  have hrun : ((exec (step scripted) (launched Bool (constructed {}).self
      { clock := one_second, paths := [['r']] })
        (shutdown_turns ++ [.push_command false, .wait_dequeue false])).bind fun s =>
          (exec (step scripted) s parting_turns).map fun _ =>
            (s.worker_.exited, s.calls true)) =
      some (true, some (.pushing ⟨.Frame, some key_frame⟩)) := by
    decide +kernel
  obtain ⟨s, hexec, hrun⟩ := Option.bind_eq_some_iff.mp hrun
  obtain ⟨last, hmore, heq⟩ := Option.map_eq_some_iff.mp hrun
  obtain ⟨hexited, hcall⟩ := Prod.mk.inj heq
  obtain ⟨-, htrace, hready, -, hpushed⟩ :=
    exit_is_final (constructed_initial {}) hexec hexited hmore
  have hadmitted : s.admitted true = [⟨.Frame, some key_frame⟩] := by
    unfold admitted
    rw [hcall]
    rfl
  exact ⟨s, last, hcall, hmore, htrace, hready, hadmitted ▸ hpushed true⟩

end Threads

end amldigitalfpv.dvr_recorder
