import AMLDigitalFPV.Main.Threads

open Transition

namespace amldigitalfpv.process

/-- The callback hands a packet only to the receiver that its test found. -/
def EnqueuesAlive (start : Process) (events : List Event) : Prop :=
  ∀ before after, Takes step start events before .enqueue_payload after →
    ∀ audio, before.reader = some (.tested audio) → before.audio = some audio

/-- A command that turns the sound off comes while there is no audio receiver or
the socket reader hands over no more packets, and the control thread creates a
socket reader only while `main` has still to join it. -/
def SoundInTime (before : Process) : Event → Prop
  | .receive_command (.sound false) => before.audio = none ∨ before.reads = false
  | .control ok => before.control.bind List.head? = some .start_read_socket →
    ok = true ∧ before.udp_appsrc = true → .join_read_socket ∈ before.main
  | _ => True

instance (before : Process) : (event : Event) → Decidable (SoundInTime before event)
  | .receive_command (.sound false) => inferInstanceAs (Decidable (_ ∨ _))
  | .control _ => inferInstanceAs (Decidable (_ = _ → _ ∧ _ → _))
  | .receive_command (.sound true) | .receive_command (.record _) | .receive_command .ping
  | .receive_command .unknown | .main _ | .finish_control | .puller_loop _ | .video_cb
  | .reader_loop _ | .test_audio | .enqueue_payload | .decoder_loop | .decoder_dequeue _
  | .decoder_submit => instDecidableTrue

/-- The receiver that the callback has found is still there. -/
def Alive (s : Process) : Prop := ∀ audio, s.reader = some (.tested audio) → s.audio = some audio

/-- What `main` has still to do when it is about to launch the socket reader, to
start the control thread or to reset `g_audio`. -/
theorem main_joins_first {enable_audio : Bool} {next : Step} {rest : List Step}
    (h : next :: rest <:+ main_steps enable_audio) :
    (next = .start_read_socket → .join_read_socket ∈ rest) ∧
      (next = .start_command → .start_command ∉ rest) ∧
      (next = .reset_audio → .join_read_socket ∉ rest) := by
  have hall : ∀ enable_audio, ∀ steps ∈ (main_steps enable_audio).tails,
      (steps.head? = some .start_read_socket → .join_read_socket ∈ steps.tail) ∧
        (steps.head? = some .start_command → .start_command ∉ steps.tail) ∧
        (steps.head? = some .reset_audio → .join_read_socket ∉ steps.tail) := by
    decide
  simpa using hall enable_audio (next :: rest) ((List.mem_tails _ _).mpr h)

/-- Once the control thread runs `main` launches nothing more. -/
theorem main_after_command {enable_audio : Bool} {next : Step} {rest : List Step}
    (h : next :: rest <:+ main_steps enable_audio) (hstarted : .start_command ∉ next :: rest) :
    next ≠ .start_read_socket ∧ next ≠ .create_audio := by
  have hall : ∀ enable_audio, ∀ steps ∈ (main_steps enable_audio).tails,
      .start_command ∉ steps → ∀ next ∈ steps.head?,
        next ≠ .start_read_socket ∧ next ≠ .create_audio := by
    decide
  exact hall enable_audio (next :: rest) ((List.mem_tails _ _).mpr h) hstarted next rfl

/-- Only the command that turns the sound off resets `g_audio`, right after the
stop. -/
theorem command_order {command : UdpCommand} {next : Step} {rest : List Step}
    (h : next :: rest <:+ command.steps) (hreset : .reset_audio ∈ rest) : next = .stop_audio := by
  have hall : ∀ command ∈ [UdpCommand.record true, .record false, .sound true, .sound false,
      .ping, .unknown], ∀ steps ∈ command.steps.tails,
        .reset_audio ∈ steps.tail → steps.head? = some .stop_audio := by
    decide
  have hcommand : command ∈ [UdpCommand.record true, .record false, .sound true, .sound false,
      .ping, .unknown] := by
    cases command with
    | record start => cases start <;> simp
    | sound enable => cases enable <;> simp
    | ping | unknown => simp
  simpa using hall command hcommand (next :: rest) ((List.mem_tails _ _).mpr h) hreset

/-- `main` resets `g_audio` after it has joined the socket reader for good, and
the control thread while nothing is handed over. -/
structure Guarded (enable_audio : Bool) (s : Process) : Prop where
  main : s.main <:+ main_steps enable_audio
  alive : Alive s
  joined : .join_read_socket ∉ s.main → s.reader = none
  command : ∀ steps, s.control = some steps → ∃ command : UdpCommand, steps <:+ command.steps
  started : s.control ≠ none → .start_command ∉ s.main
  reset : ∀ steps, s.control = some steps → .reset_audio ∈ steps →
    s.audio = none ∨ s.reads = false

theorem Guarded.initial (enable_audio : Bool) : Guarded enable_audio (initial enable_audio) where
  main := List.suffix_rfl
  alive := by simp [Alive, process.initial]
  joined _ := rfl
  command := by simp [process.initial]
  started := by simp [process.initial]
  reset := by simp [process.initial]

section

variable {enable_audio ok : Bool} {s moved after : Process} {next : Step} {rest left : List Step}
  {event : Event}

/-- A receiver can be reset where nothing is handed over. -/
theorem Alive.performed (hs : Alive s) (hmoved : Performed ok next s moved)
    (hreset : next = .reset_audio → s.audio = none ∨ s.reads = false) : Alive moved := by
  intro audio htested
  have hreader := hmoved.reader audio htested
  obtain haudio | hnext := hmoved.audio audio (hs audio hreader)
  · exact haudio
  · have hpresent := hs audio hreader
    have hreads : s.reads = true := by
      unfold Process.reads
      rw [hreader]
    obtain hnone | hsilent := hreset hnext
    · rw [hnone] at hpresent
      cases hpresent
    · rw [hreads] at hsilent
      cases hsilent

theorem Guarded.main_step (hs : Guarded enable_audio s) (hmain : s.main = next :: rest)
    (hmoved : Performed ok next s moved) (hleft : left <:+ rest)
    (hkept : ∀ other ∈ rest, other.launches = false → other ∈ left) :
    Guarded enable_audio { moved with main := left } := by
  have hsuffix := hs.main
  rw [hmain] at hsuffix
  obtain ⟨hlaunched, hstarted, hreset⟩ := main_joins_first hsuffix
  have hcontrol : ∀ steps, moved.control = some steps →
      s.control = some steps ∨ next = .start_command ∧ steps = [] := by
    intro steps hsteps
    obtain hsame | ⟨hnext, hidle⟩ := hmoved.control
    · exact .inl (hsame.symm.trans hsteps)
    · exact .inr ⟨hnext, Option.some.inj (hsteps.symm.trans hidle)⟩
  refine ⟨hleft.trans ((List.suffix_cons _ _).trans hsuffix), ?_, fun hjoined => ?_,
    fun steps hsteps => ?_, fun hruns => ?_, fun steps hsteps hmem => ?_⟩
  · have halive : Alive moved := hs.alive.performed hmoved fun hnext => .inr (by
      have hnone : s.reader = none := hs.joined (by
        rw [hmain, hnext, List.mem_cons]
        simpa using hreset hnext)
      unfold Process.reads
      rw [hnone])
    exact halive
  · have hrest : Step.join_read_socket ∉ rest := fun hmem => hjoined (hkept _ hmem rfl)
    have hnone : s.reader = none := by
      by_cases hnext : next = .join_read_socket
      · exact hmoved.joined_reader hnext
      · apply hs.joined
        rw [hmain, List.mem_cons]
        exact fun hmem => hmem.elim (fun heq => hnext heq.symm) hrest
    obtain habsent | ⟨hnext, -⟩ := hmoved.absent hnone
    · exact habsent
    · exact absurd (hlaunched hnext) hrest
  · obtain hsame | ⟨-, rfl⟩ := hcontrol steps hsteps
    · exact hs.command steps hsame
    · exact ⟨.ping, List.suffix_rfl⟩
  · obtain ⟨steps, hsteps⟩ := Option.ne_none_iff_exists'.mp hruns
    intro hmem
    obtain hsame | ⟨hnext, -⟩ := hcontrol steps hsteps
    · refine hs.started (by rw [hsame]; simp) ?_
      rw [hmain]
      exact List.mem_cons_of_mem _ (hleft.mem hmem)
    · exact hstarted hnext (hleft.mem hmem)
  · obtain hsame | ⟨-, rfl⟩ := hcontrol steps hsteps
    · have hruns : s.control ≠ none := by rw [hsame]; simp
      obtain ⟨hsocket, hcreate⟩ := main_after_command hsuffix (hmain ▸ hs.started hruns)
      refine (hs.reset steps hsame hmem).imp (fun hnone => ?_) fun hsilent => ?_
      · exact (hmoved.silent hnone).resolve_right hcreate
      · exact (hmoved.reads hsilent).resolve_right hsocket
    · cases hmem

theorem Guarded.control_step (hs : Guarded enable_audio s)
    (hcontrol : s.control = some (next :: rest)) (hmoved : Performed ok next s moved)
    (hleft : left <:+ rest) (hintime : SoundInTime s (.control ok)) :
    Guarded enable_audio { moved with control := some left } := by
  have hmain : s.main = moved.main := hmoved.main.symm
  obtain ⟨command, hcommand⟩ := hs.command _ hcontrol
  refine ⟨hmain ▸ hs.main, ?_, fun hjoined => ?_, fun steps hsteps => ?_, fun _ => ?_,
    fun steps hsteps hmem => ?_⟩
  · have halive : Alive moved := hs.alive.performed hmoved fun hnext =>
      hs.reset _ hcontrol (hnext ▸ List.mem_cons_self)
    exact halive
  · have hdone : Step.join_read_socket ∉ s.main := hmain ▸ hjoined
    obtain habsent | ⟨hnext, hlaunches⟩ := hmoved.absent (hs.joined hdone)
    · exact habsent
    · refine absurd (hintime ?_ hlaunches) hdone
      rw [hcontrol, hnext]
      rfl
  · cases hsteps
    exact ⟨command, hleft.trans ((List.suffix_cons _ _).trans hcommand)⟩
  · rw [← hmain]
    exact hs.started (by rw [hcontrol]; simp)
  · cases hsteps
    have hnext := command_order hcommand (hleft.mem hmem)
    refine (hs.reset _ hcontrol (List.mem_cons_of_mem _ (hleft.mem hmem))).imp (fun hnone => ?_)
      fun hsilent => ?_
    · exact (hmoved.silent hnone).resolve_right (by simp [hnext])
    · exact (hmoved.reads hsilent).resolve_right (by simp [hnext])

theorem Guarded.sideways (hs : Guarded enable_audio s) (hafter : Sideways event s after)
    (hintime : SoundInTime s event) : Guarded enable_audio after := by
  have hcontrol : ∀ steps, after.control = some steps → s.control = some steps ∨
      ∃ command, event = .receive_command command ∧ s.control = some [] ∧
        steps = command.steps := by
    intro steps hsteps
    obtain hsame | hnone | ⟨command, hevent, hidle, hreceived⟩ := hafter.control
    · exact .inl (hsame.symm.trans hsteps)
    · rw [hnone] at hsteps
      cases hsteps
    · exact .inr ⟨command, hevent, hidle, Option.some.inj (hsteps.symm.trans hreceived)⟩
  have hruns : after.control ≠ none → s.control ≠ none := by
    intro hafter
    obtain ⟨steps, hsteps⟩ := Option.ne_none_iff_exists'.mp hafter
    obtain hsame | ⟨-, -, hidle, -⟩ := hcontrol steps hsteps
    · rw [hsame]
      simp
    · rw [hidle]
      simp
  refine ⟨hafter.main ▸ hs.main, fun audio htested => ?_, fun hjoined => ?_,
    fun steps hsteps => ?_, fun hstarted => hafter.main ▸ hs.started (hruns hstarted),
    fun steps hsteps hmem => ?_⟩
  · rw [hafter.audio]
    exact (hafter.reader audio htested).elim (hs.alive audio) id
  · exact hafter.absent (hs.joined (hafter.main ▸ hjoined))
  · obtain hsame | ⟨command, -, -, rfl⟩ := hcontrol steps hsteps
    · exact hs.command steps hsame
    · exact ⟨command, List.suffix_rfl⟩
  · rw [hafter.audio]
    refine Or.imp_right hafter.reads ?_
    obtain hsame | ⟨command, rfl, -, rfl⟩ := hcontrol steps hsteps
    · exact hs.reset steps hsame hmem
    · cases command with
      | sound enable =>
        cases enable with
        | false => exact hintime
        | true => simp [UdpCommand.steps, stop_receiving, start_receiving, switch_to_stream] at hmem
      | record | ping | unknown => cases hmem

theorem Guarded.step (hs : Guarded enable_audio s) (hstep : step s event = some after)
    (hintime : SoundInTime s event) : Guarded enable_audio after := by
  obtain ⟨ok, next, rest, left, moved, -, hmain, hmoved, hleft, hkept, rfl⟩ |
    ⟨ok, next, rest, left, moved, rfl, hcontrol, hmoved, hleft, rfl⟩ | hafter := step_spec hstep
  · exact hs.main_step hmain hmoved hleft hkept
  · exact hs.control_step hcontrol hmoved hleft hintime
  · exact hs.sideways hafter hintime

end

/-- No packet is handed to a receiver that is gone as long as the sound is
turned off only where the socket reader hands nothing over, and turned on only
in time for `main` to join the new reader: `main` itself, and the command that
turns the sound on, keep the right order. -/
theorem enqueues_alive (enable_audio : Bool) (events : List Event)
    (hintime : ∀ before event after, Takes step (initial enable_audio) events before event after →
      SoundInTime before event) : EnqueuesAlive (initial enable_audio) events := by
  intro before after htakes
  have hguarded : Guarded enable_audio before :=
    htakes.reaches.invariant (Guarded.initial enable_audio) fun before event after hstep hbefore =>
      hbefore.step hstep.step_eq (hintime before event after hstep)
  exact hguarded.alive

/-- `main` up to its wait for the signal, with audio. -/
def started_with_audio : List Event := List.replicate 14 (.main true)

/-- The socket reader gives up, and the sound is turned off and on again, with a
packet before and after. Then comes the signal, and `main` returns. -/
def toggled : List Event :=
  started_with_audio ++
    [Event.reader_loop .audio, .test_audio, .enqueue_payload, .reader_loop (.video false),
      .receive_command (.sound false)] ++
    List.replicate 3 (Event.control true) ++ [Event.puller_loop false] ++
    List.replicate 13 (Event.control true) ++ [Event.receive_command (.sound true)] ++
    List.replicate 2 (Event.control true) ++ [Event.puller_loop false] ++
    List.replicate 13 (Event.control true) ++
    [Event.reader_loop .audio, .test_audio, .enqueue_payload] ++
    List.replicate 2 (Event.main true) ++ [Event.puller_loop false, .reader_loop .none] ++
    List.replicate 6 (Event.main true) ++
    [Event.decoder_loop, .decoder_loop, .decoder_dequeue none, .decoder_submit, .decoder_loop,
      .decoder_loop] ++
    List.replicate 2 (Event.main true) ++ [Event.finish_control] ++
    List.replicate 4 (Event.main true)

theorem enqueues_alive_toggled :
    (exec step (initial true) toggled).map (fun s => (s.main, s.audio, s.audios)) =
        some ([], none, 2) ∧
      EnqueuesAlive (initial true) toggled :=
  ⟨by decide +kernel,
    enqueues_alive true toggled fun _ _ _ htakes =>
      (by decide +kernel : ∀ p ∈ taken step (initial true) toggled, SoundInTime p.1 p.2)
        _ htakes.mem_taken⟩

/-- The sound turned off after the callback has tested `g_audio`. -/
def reset_in_callback : List Event :=
  started_with_audio ++
    [Event.reader_loop .audio, .test_audio, .receive_command (.sound false)] ++
    List.replicate 2 (Event.control true)

theorem enqueues_alive_counterexample :
    ¬ EnqueuesAlive (initial true) (reset_in_callback ++ [.enqueue_payload]) := by
  intro halive
  have hrun : (exec step (initial true) reset_in_callback).any fun before =>
      (step before .enqueue_payload).isSome ∧ before.reader = some (.tested 0) ∧
        before.audio = none := by
    decide +kernel
  obtain ⟨before, hbefore, hreset⟩ := Option.any_eq_true _ _ |>.mp hrun
  obtain ⟨hsome, hreader, hnone⟩ := of_decide_eq_true hreset
  obtain ⟨after, hafter⟩ := Option.isSome_iff_exists.mp hsome
  have haudio := halive before after ⟨_, [], rfl, hbefore, hafter⟩ 0 hreader
  rw [hnone] at haudio
  cases haudio

end amldigitalfpv.process
