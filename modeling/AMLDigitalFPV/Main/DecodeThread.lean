import AMLDigitalFPV.Main.Shutdown
import Mathlib.Data.List.ReduceOption

open Transition

namespace amldigitalfpv.process

/-- An event of the decode thread. -/
def Event.decodes : Event → Bool
  | .decoder_loop | .decoder_dequeue _ | .decoder_submit => true
  | _ => false

/-- A step that concerns the decode thread. -/
def Step.decodes : Step → Bool
  | .set_decoding_active _ | .start_decode | .enqueue_sentinel => true
  | _ => false

/-- The frame between its dequeue and its submission. -/
def Process.held (self : Process) : List Nat :=
  match self.decoder with
  | some (.dequeued frame) => frame.toList
  | _ => []

/-- The decode thread has been started and has left its loop. -/
def Process.decode_ended (self : Process) : Prop :=
  self.decoder = none ∧ .start_decode ∉ self.main

/-- How many steps the decode thread can take while nothing more is enqueued
and the flag is clear. -/
def Process.decode_work (self : Process) : Nat :=
  match self.decoder with
  | none => 0
  | some .waiting => 4 * self.decode_queue.length
  | some .sizing => 4 * self.decode_queue.length + 1
  | some .testing => 4 * self.decode_queue.length + 2
  | some (.dequeued _) => 4 * self.decode_queue.length + 3

/-- The decode thread submits every frame once, and ends: once the sentinel is
enqueued it never waits for nothing, and it runs out of steps. -/
structure DecodeDrains (start : Process) (events : List Event) : Prop where
  submitted : ∀ state, Reaches step start events state → state.decode_ended →
    state.submitted.Perm (List.range state.frames)
  awake : ∀ state, Reaches step start events state → .enqueue_sentinel ∉ state.main →
    state.decoder = some .waiting → state.decode_queue ≠ []
  enabled : ∀ state, Reaches step start events state → .enqueue_sentinel ∉ state.main →
    state.decoder ≠ none → ∃ event, event.decodes = true ∧ (step state event).isSome
  ends : ∀ pre mid before after, pre ++ mid <+: events → exec step start pre = some before →
    exec step before mid = some after → .enqueue_sentinel ∉ before.main →
    mid.countP Event.decodes ≤ before.decode_work

/-- What a step of `main` or of the control thread does to the decode thread
and its queue. -/
structure Decoded (next : Step) (before after : Process) : Prop where
  decoder : after.decoder = if next = .start_decode then some .testing else before.decoder
  queue : after.decode_queue =
    if next = .enqueue_sentinel then before.decode_queue ++ [none] else before.decode_queue
  active : after.decoding_active =
    if next = .set_decoding_active true then true
    else if next = .set_decoding_active false then false
    else before.decoding_active
  frames : after.frames = before.frames
  submitted : after.submitted = before.submitted
  control : after.control = before.control ∨ after.control = some []

theorem Process.perform_decoded {ok : Bool} {self after : Process} {next : Step}
    (h : self.perform ok next = some after) : Decoded next self after := by
  cases next with
  | join_pull_samples | join_read_socket | join_decode | join_command =>
    obtain ⟨-, heq⟩ := Option.ite_none_right_eq_some.mp h
    cases heq
    exact ⟨rfl, rfl, rfl, rfl, rfl, .inl rfl⟩
  | play_pipeline =>
    obtain ⟨-, heq⟩ := Option.ite_none_left_eq_some.mp h
    cases heq
    exact ⟨rfl, rfl, rfl, rfl, rfl, .inl rfl⟩
  | construct_pipeline =>
    cases h
    cases ok <;> exact ⟨rfl, rfl, rfl, rfl, rfl, .inl rfl⟩
  | start_read_socket | create_audio =>
    rw [perform] at h
    split at h <;> cases h <;> exact ⟨rfl, rfl, rfl, rfl, rfl, .inl rfl⟩
  | start_command =>
    cases h
    exact ⟨rfl, rfl, rfl, rfl, rfl, .inr rfl⟩
  | set_decoding_active active =>
    cases h
    cases active <;> exact ⟨rfl, rfl, rfl, rfl, rfl, .inl rfl⟩
  | set_udp_appsrc | set_audio_payload_callback | clear_run_flags | drop_pipeline |
    start_pull_samples | reset_audio | start_decode | enqueue_sentinel |
    clear_command_running | stop_audio | wait_for_signal | leave_try | shutdown_dvr =>
    cases h
    exact ⟨rfl, rfl, rfl, rfl, rfl, .inl rfl⟩

/-- The steps of the control thread do not concern the decode thread. -/
def Process.control_spares (self : Process) : Prop :=
  ∀ steps, self.control = some steps → ∀ next ∈ steps, next.decodes = false

/-- Nothing that concerns the decode thread has changed. -/
structure SameDecode (before after : Process) : Prop where
  main : after.main = before.main
  decoder : after.decoder = before.decoder
  queue : after.decode_queue = before.decode_queue
  active : after.decoding_active = before.decoding_active
  frames : after.frames = before.frames
  submitted : after.submitted = before.submitted
  control : after.control_spares

theorem Decoded.same {next : Step} {before after : Process} (h : Decoded next before after)
    (hnext : next.decodes = false) :
    after.decoder = before.decoder ∧ after.decode_queue = before.decode_queue ∧
      after.decoding_active = before.decoding_active := by
  have hne : ∀ other : Step, other.decodes = true → next ≠ other := by
    rintro other hother rfl
    rw [hnext] at hother
    cases hother
  refine ⟨?_, ?_, ?_⟩
  · rw [h.decoder, if_neg (hne _ rfl)]
  · rw [h.queue, if_neg (hne _ rfl)]
  · rw [h.active, if_neg (hne _ rfl), if_neg (hne _ rfl)]

theorem UdpCommand.steps_spare (command : UdpCommand) :
    ∀ next ∈ command.steps, next.decodes = false := by
  cases command with
  | sound enable => cases enable <;> decide
  | record | ping | unknown => nofun

/-- What an event means to the decode thread. -/
inductive DecodeReaction (s : Process) : Event → Process → Prop where
  | main {ok : Bool} {next : Step} {rest left : List Step} {moved : Process}
      (hmain : s.main = next :: rest) (hmoved : Decoded next s moved) (hleft : left <:+ rest)
      (hkept : ∀ other ∈ rest, other.launches = false → other ∈ left) :
      DecodeReaction s (.main ok) { moved with main := left }
  | spared {event : Event} {after : Process} (hevent : event.decodes = false)
      (hsame : SameDecode s after) : DecodeReaction s event after
  | enqueued (hpulled : s.puller ≠ none) :
      DecodeReaction s .video_cb
        { s with
          puller := some .testing
          decode_queue := s.decode_queue ++ [some s.frames]
          frames := s.frames + 1 }
  | flag_set (hdecoder : s.decoder = some .testing) (hactive : s.decoding_active = true) :
      DecodeReaction s .decoder_loop { s with decoder := some .waiting }
  | flag_clear (hdecoder : s.decoder = some .testing) (hactive : s.decoding_active = false) :
      DecodeReaction s .decoder_loop { s with decoder := some .sizing }
  | nonempty (hdecoder : s.decoder = some .sizing) (hqueue : s.decode_queue ≠ []) :
      DecodeReaction s .decoder_loop { s with decoder := some .waiting }
  | empty (hdecoder : s.decoder = some .sizing) (hqueue : s.decode_queue = []) :
      DecodeReaction s .decoder_loop { s with decoder := none }
  | dequeued {frame : Option Nat} (hdecoder : s.decoder = some .waiting)
      (hframe : frame ∈ s.decode_queue) :
      DecodeReaction s (.decoder_dequeue frame)
        { s with
          decoder := some (.dequeued frame)
          decode_queue := s.decode_queue.erase frame }
  | submitted {frame : Option Nat} (hdecoder : s.decoder = some (.dequeued frame)) :
      DecodeReaction s .decoder_submit
        { s with decoder := some .testing, submitted := s.submitted ++ frame.toList }

theorem decode_reaction {s after : Process} {event : Event} (hcontrol : s.control_spares)
    (h : step s event = some after) : DecodeReaction s event after := by
  cases event with
  | main ok =>
    obtain ⟨⟨moved, left⟩, hadvance, rfl⟩ := Option.map_eq_some_iff.mp h
    obtain ⟨next, rest, hsteps, -, hleft, hkept⟩ := Process.advance_spec hadvance
    rw [hsteps] at hadvance
    obtain ⟨moved', hmoved, heq⟩ := Option.map_eq_some_iff.mp hadvance
    cases heq
    exact .main hsteps (Process.perform_decoded hmoved) hleft hkept
  | control ok =>
    obtain ⟨⟨moved, left⟩, hbind, rfl⟩ := Option.map_eq_some_iff.mp h
    obtain ⟨steps, hsteps, hadvance⟩ := Option.bind_eq_some_iff.mp hbind
    obtain ⟨next, rest, rfl, hperformed, hleft, -⟩ := Process.advance_spec hadvance
    obtain ⟨moved', hmoved, heq⟩ := Option.map_eq_some_iff.mp hadvance
    cases heq
    have hdecoded := Process.perform_decoded hmoved
    have hspares := hcontrol _ hsteps
    obtain ⟨hdecoder, hqueue, hactive⟩ := hdecoded.same (hspares next List.mem_cons_self)
    refine .spared rfl ⟨hperformed.main, hdecoder, hqueue, hactive, hdecoded.frames,
      hdecoded.submitted, ?_⟩
    rintro _ ⟨⟩ other hmem
    exact hspares other (List.mem_cons_of_mem _ (hleft.subset hmem))
  | receive_command command =>
    obtain ⟨-, heq⟩ := Option.ite_none_right_eq_some.mp h
    cases heq
    refine .spared rfl ⟨rfl, rfl, rfl, rfl, rfl, rfl, ?_⟩
    rintro _ ⟨⟩
    exact command.steps_spare
  | finish_control =>
    obtain ⟨-, heq⟩ := Option.ite_none_right_eq_some.mp h
    cases heq
    exact .spared rfl ⟨rfl, rfl, rfl, rfl, rfl, rfl, nofun⟩
  | puller_loop sample =>
    obtain ⟨-, heq⟩ := Option.ite_none_right_eq_some.mp h
    split at heq <;> cases heq <;> exact .spared rfl ⟨rfl, rfl, rfl, rfl, rfl, rfl, hcontrol⟩
  | reader_loop packet =>
    obtain ⟨-, heq⟩ := Option.ite_none_right_eq_some.mp h
    split at heq
    · split at heq <;> cases heq <;> exact .spared rfl ⟨rfl, rfl, rfl, rfl, rfl, rfl, hcontrol⟩
    · cases heq
      exact .spared rfl ⟨rfl, rfl, rfl, rfl, rfl, rfl, hcontrol⟩
  | test_audio =>
    obtain ⟨-, heq⟩ := Option.ite_none_right_eq_some.mp h
    cases heq
    exact .spared rfl ⟨rfl, rfl, rfl, rfl, rfl, rfl, hcontrol⟩
  | enqueue_payload =>
    rw [step] at h
    split at h <;> cases h
    exact .spared rfl ⟨rfl, rfl, rfl, rfl, rfl, rfl, hcontrol⟩
  | video_cb =>
    obtain ⟨hpulled, heq⟩ := Option.ite_none_right_eq_some.mp h
    cases heq
    exact .enqueued (by simp [hpulled])
  | decoder_loop =>
    rw [step] at h
    split at h
    · next hdecoder =>
      cases h
      by_cases hactive : s.decoding_active = true
      · rw [if_pos hactive]
        exact .flag_set hdecoder hactive
      · rw [if_neg hactive]
        exact .flag_clear hdecoder (Bool.not_eq_true _ ▸ hactive)
    · next hdecoder =>
      cases h
      by_cases hqueue : s.decode_queue = []
      · rw [if_neg (not_not.mpr hqueue)]
        exact .empty hdecoder hqueue
      · rw [if_pos hqueue]
        exact .nonempty hdecoder hqueue
    · cases h
  | decoder_dequeue frame =>
    obtain ⟨⟨hdecoder, hframe⟩, heq⟩ := Option.ite_none_right_eq_some.mp h
    cases heq
    exact .dequeued hdecoder hframe
  | decoder_submit =>
    rw [step] at h
    split at h
    · next frame hdecoder =>
      cases h
      exact .submitted hdecoder
    · cases h

/-- The order in which `main` goes through the steps that matter to the decode
thread, seen from any point on its way. -/
structure MainOrder (steps : List Step) : Prop where
  joined : .set_decoding_active false ∉ steps → .join_pull_samples ∉ steps
  cleared : .enqueue_sentinel ∉ steps → .set_decoding_active false ∉ steps
  activated : .start_decode ∉ steps → .set_decoding_active true ∉ steps
  activates : steps.head? = some (.set_decoding_active true) →
    .set_decoding_active false ∈ steps.tail
  clears : steps.head? = some (.set_decoding_active false) →
    .set_decoding_active false ∉ steps.tail
  starts : steps.head? = some .start_decode → .start_decode ∉ steps.tail
  started : .enqueue_sentinel ∉ steps → .start_decode ∉ steps

theorem main_order {enable_audio : Bool} {steps : List Step}
    (h : steps <:+ main_steps enable_audio) : MainOrder steps := by
  have hmem : steps ∈ (main_steps enable_audio).tails := (List.mem_tails _ _).mpr h
  constructor
  · exact (by decide : ∀ enable_audio, ∀ steps ∈ (main_steps enable_audio).tails,
      .set_decoding_active false ∉ steps → .join_pull_samples ∉ steps) _ _ hmem
  · exact (by decide : ∀ enable_audio, ∀ steps ∈ (main_steps enable_audio).tails,
      .enqueue_sentinel ∉ steps → .set_decoding_active false ∉ steps) _ _ hmem
  · exact (by decide : ∀ enable_audio, ∀ steps ∈ (main_steps enable_audio).tails,
      .start_decode ∉ steps → .set_decoding_active true ∉ steps) _ _ hmem
  · exact (by decide : ∀ enable_audio, ∀ steps ∈ (main_steps enable_audio).tails,
      steps.head? = some (.set_decoding_active true) →
        .set_decoding_active false ∈ steps.tail) _ _ hmem
  · exact (by decide : ∀ enable_audio, ∀ steps ∈ (main_steps enable_audio).tails,
      steps.head? = some (.set_decoding_active false) →
        .set_decoding_active false ∉ steps.tail) _ _ hmem
  · exact (by decide : ∀ enable_audio, ∀ steps ∈ (main_steps enable_audio).tails,
      steps.head? = some .start_decode → .start_decode ∉ steps.tail) _ _ hmem
  · exact (by decide : ∀ enable_audio, ∀ steps ∈ (main_steps enable_audio).tails,
      .enqueue_sentinel ∉ steps → .start_decode ∉ steps) _ _ hmem

/-- Where every frame is, and what the decode thread and `main` know of each
other. -/
structure Draining (s : Process) : Prop where
  control : s.control_spares
  active : .set_decoding_active true ∉ s.main →
    (s.decoding_active = true ↔ .set_decoding_active false ∈ s.main)
  started : s.decoder ≠ none → .start_decode ∉ s.main
  sizing : s.decoder = some .sizing → .set_decoding_active false ∉ s.main
  ended : s.decode_ended →
    .set_decoding_active false ∉ s.main ∧ s.decode_queue.reduceOption = []
  awake : .enqueue_sentinel ∉ s.main → s.decoder = some .waiting → s.decode_queue ≠ []
  account : (s.submitted ++ s.held ++ s.decode_queue.reduceOption).Perm (List.range s.frames)

theorem Draining.initial (enable_audio : Bool) : Draining (initial enable_audio) where
  control := nofun
  active hactive := by
    cases enable_audio <;> exact absurd (by decide) hactive
  started h := absurd rfl h
  sizing := nofun
  ended h := by
    cases enable_audio <;> exact absurd (by decide) h.2
  awake := nofun
  account := .refl _

section

variable {s : Process}

theorem Draining.main_step (hs : Draining s) (horder : MainOrder s.main) {next : Step}
    {rest left : List Step} {moved : Process} (hmain : s.main = next :: rest)
    (hmoved : Decoded next s moved) (hleft : left <:+ rest)
    (hkept : ∀ other ∈ rest, other.launches = false → other ∈ left) :
    Draining { moved with main := left } := by
  have hmem : ∀ {other : Step}, other.launches = false → other ≠ next →
      (other ∈ left ↔ other ∈ s.main) := by
    intro other hother hne
    rw [hmain, List.mem_cons]
    constructor
    · exact fun h => .inr (hleft.subset h)
    · exact fun h => hkept other (h.resolve_left hne) hother
  rw [hmain] at horder
  have hheld : moved.held = s.held := by
    by_cases hstart : next = .start_decode
    · have hnone : s.decoder = none := by
        by_contra hsome
        apply hs.started hsome
        simp [hmain, hstart]
      simp [Process.held, hmoved.decoder, hstart, hnone]
    · simp [Process.held, hmoved.decoder, hstart]
  have hqueue : moved.decode_queue.reduceOption = s.decode_queue.reduceOption := by
    rw [hmoved.queue]
    split
    · simp [List.reduceOption_append]
    · rfl
  refine ⟨?_, ?_, ?_, ?_, ?_, ?_, ?_⟩
  · obtain hsame | hnil := hmoved.control
    · intro steps hsteps
      exact hs.control steps (hsame ▸ hsteps)
    · intro steps hsteps
      cases hnil.symm.trans hsteps
      nofun
  · intro hactive
    dsimp only at hactive ⊢
    rw [hmoved.active]
    by_cases htrue : next = .set_decoding_active true
    · subst htrue
      simpa using hkept _ (horder.activates rfl) rfl
    · rw [if_neg htrue]
      by_cases hfalse : next = .set_decoding_active false
      · subst hfalse
        simpa using fun h => horder.clears rfl (hleft.subset h)
      · rw [if_neg hfalse, hmem rfl (Ne.symm hfalse)]
        apply hs.active
        rwa [← hmem rfl (Ne.symm htrue)]
  · intro hsome
    dsimp only at hsome ⊢
    by_cases hstart : next = .start_decode
    · subst hstart
      exact fun h => horder.starts rfl (hleft.subset h)
    · rw [hmoved.decoder, if_neg hstart] at hsome
      rw [hmem rfl (Ne.symm hstart)]
      exact hs.started hsome
  · intro hsizing
    dsimp only at hsizing ⊢
    rw [hmoved.decoder] at hsizing
    split at hsizing
    · cases hsizing
    · have hcleared := hs.sizing hsizing
      rw [hmain] at hcleared
      exact fun h => hcleared (List.mem_cons_of_mem _ (hleft.subset h))
  · rintro ⟨hnone, hstarted⟩
    dsimp only at hnone hstarted ⊢
    rw [hmoved.decoder] at hnone
    split at hnone
    · cases hnone
    · next hstart =>
      rw [hmem rfl (Ne.symm hstart)] at hstarted
      obtain ⟨hcleared, hempty⟩ := hs.ended ⟨hnone, hstarted⟩
      rw [hmain] at hcleared
      exact ⟨fun h => hcleared (List.mem_cons_of_mem _ (hleft.subset h)), hqueue.trans hempty⟩
  · intro hsentinel hwaiting
    dsimp only at hsentinel hwaiting ⊢
    rw [hmoved.queue]
    split
    · simp
    · next hnext =>
      rw [hmem rfl (Ne.symm hnext)] at hsentinel
      apply hs.awake hsentinel
      rw [hmoved.decoder] at hwaiting
      split at hwaiting
      · cases hwaiting
      · exact hwaiting
  · have haccount := hs.account
    rw [← hheld, ← hqueue, ← hmoved.frames, ← hmoved.submitted] at haccount
    exact haccount

theorem Draining.spared {after : Process} (hs : Draining s) (hsame : SameDecode s after) :
    Draining after := by
  obtain ⟨hmain, hdecoder, hqueue, hactive, hframes, hsubmitted, hcontrol⟩ := hsame
  have hheld : after.held = s.held := by simp [Process.held, hdecoder]
  refine ⟨hcontrol, ?_, ?_, ?_, ?_, ?_, ?_⟩
  · rw [hmain, hactive]
    exact hs.active
  · rw [hmain, hdecoder]
    exact hs.started
  · rw [hmain, hdecoder]
    exact hs.sizing
  · rw [Process.decode_ended, hmain, hdecoder, hqueue]
    exact hs.ended
  · rw [hmain, hdecoder, hqueue]
    exact hs.awake
  · rw [hheld, hqueue, hframes, hsubmitted]
    exact hs.account

/-- Once the sentinel is enqueued the decode thread is never stuck. -/
theorem Draining.enabled (hs : Draining s) (hsentinel : .enqueue_sentinel ∉ s.main)
    (halive : s.decoder ≠ none) : ∃ event, event.decodes = true ∧ (step s event).isSome := by
  obtain ⟨decoder, hdecoder⟩ := Option.ne_none_iff_exists'.mp halive
  cases decoder with
  | testing => exact ⟨.decoder_loop, rfl, by simp [step, hdecoder]⟩
  | sizing => exact ⟨.decoder_loop, rfl, by simp [step, hdecoder]⟩
  | waiting =>
    obtain ⟨frame, hframe⟩ := List.exists_mem_of_ne_nil _ (hs.awake hsentinel hdecoder)
    exact ⟨.decoder_dequeue frame, rfl, by simp [step, hdecoder, hframe]⟩
  | dequeued frame => exact ⟨.decoder_submit, rfl, by simp [step, hdecoder]⟩

/-- Once the sentinel is enqueued every step of the decode thread uses up some
of its work, and no other step adds to it. -/
theorem Draining.work {after : Process} {event : Event} (hs : Draining s)
    (horder : MainOrder s.main) (hpuller : .join_pull_samples ∉ s.main → s.puller = none)
    (hsentinel : .enqueue_sentinel ∉ s.main) (hstep : step s event = some after) :
    .enqueue_sentinel ∉ after.main ∧
      after.decode_work + [event].countP Event.decodes ≤ s.decode_work := by
  have hcleared := horder.cleared hsentinel
  have hreaction := decode_reaction hs.control hstep
  cases hreaction with
  | @main _ next _ _ _ hmain hmoved hleft _ =>
    have hstarted := horder.started hsentinel
    rw [hmain, List.mem_cons, not_or] at hsentinel hstarted
    have hdecoder := hmoved.decoder
    have hqueue := hmoved.queue
    rw [if_neg (Ne.symm hstarted.1)] at hdecoder
    rw [if_neg (Ne.symm hsentinel.1)] at hqueue
    refine ⟨fun h => hsentinel.2 (hleft.subset h), ?_⟩
    simp [Process.decode_work, hdecoder, hqueue, Event.decodes]
  | spared hevent hsame =>
    refine ⟨hsame.main ▸ hsentinel, ?_⟩
    simp [Process.decode_work, hsame.decoder, hsame.queue, hevent]
  | enqueued hpulled => exact absurd (hpuller (horder.joined hcleared)) hpulled
  | flag_set hdecoder hactive =>
    have hstarted := hs.started (by simp [hdecoder])
    exact absurd ((hs.active (horder.activated hstarted)).mp hactive) hcleared
  | flag_clear hdecoder _ =>
    refine ⟨hsentinel, ?_⟩
    simp [Process.decode_work, hdecoder, Event.decodes]
  | nonempty hdecoder _ =>
    refine ⟨hsentinel, ?_⟩
    simp [Process.decode_work, hdecoder, Event.decodes]
  | empty hdecoder _ =>
    refine ⟨hsentinel, ?_⟩
    simp [Process.decode_work, hdecoder, Event.decodes]
  | dequeued hdecoder hframe =>
    have hlength := List.length_erase_add_one hframe
    refine ⟨hsentinel, ?_⟩
    simp only [Process.decode_work, hdecoder, Event.decodes, List.countP_singleton, if_true]
    omega
  | submitted hdecoder =>
    refine ⟨hsentinel, ?_⟩
    simp [Process.decode_work, hdecoder, Event.decodes]

/-- A step of the run keeps track of every frame, given that the pull thread
runs only before `main` has joined it. -/
theorem Draining.step {after : Process} {event : Event} (hs : Draining s)
    (horder : MainOrder s.main) (hpuller : .join_pull_samples ∉ s.main → s.puller = none)
    (hstep : step s event = some after) : Draining after := by
  have hreaction := decode_reaction hs.control hstep
  cases hreaction with
  | main hmain hmoved hleft hkept => exact hs.main_step horder hmain hmoved hleft hkept
  | spared _ hsame => exact hs.spared hsame
  | enqueued hpulled =>
    have hrunning : .set_decoding_active false ∈ s.main := by
      by_contra hcleared
      exact hpulled (hpuller (horder.joined hcleared))
    refine ⟨hs.control, hs.active, hs.started, hs.sizing, ?_, ?_, ?_⟩
    · intro hended
      exact absurd hrunning (hs.ended hended).1
    · simp
    · have haccount := hs.account.append_right [s.frames]
      rw [← List.range_succ] at haccount
      simpa [Process.held, List.reduceOption_append, List.append_assoc] using haccount
  | flag_set hdecoder hactive =>
    have hstarted := hs.started (by simp [hdecoder])
    have hrunning := (hs.active (horder.activated hstarted)).mp hactive
    refine ⟨hs.control, hs.active, fun _ => hstarted, nofun, nofun, ?_, ?_⟩
    · intro hsentinel
      exact absurd hrunning (horder.cleared hsentinel)
    · simpa [Process.held, hdecoder] using hs.account
  | flag_clear hdecoder hactive =>
    have hstarted := hs.started (by simp [hdecoder])
    have hcleared := (hs.active (horder.activated hstarted)).not.mp (by simp [hactive])
    refine ⟨hs.control, hs.active, fun _ => hstarted, fun _ => hcleared, nofun, nofun, ?_⟩
    simpa [Process.held, hdecoder] using hs.account
  | nonempty hdecoder hqueue =>
    have hstarted := hs.started (by simp [hdecoder])
    refine ⟨hs.control, hs.active, fun _ => hstarted, nofun, nofun, fun _ _ => hqueue, ?_⟩
    simpa [Process.held, hdecoder] using hs.account
  | empty hdecoder hqueue =>
    refine ⟨hs.control, hs.active, nofun, nofun, ?_, nofun, ?_⟩
    · intro _
      exact ⟨hs.sizing hdecoder, by simp [hqueue]⟩
    · simpa [Process.held, hdecoder] using hs.account
  | @dequeued frame hdecoder hframe =>
    have hstarted := hs.started (by simp [hdecoder])
    refine ⟨hs.control, hs.active, fun _ => hstarted, nofun, nofun, nofun, ?_⟩
    have htaken := (List.perm_cons_erase hframe).filterMap id
    have haccount := hs.account
    simp only [Process.held, hdecoder, List.append_nil] at haccount ⊢
    refine .trans ?_ haccount
    rw [List.append_assoc]
    apply List.Perm.append_left
    cases frame <;> simpa [List.reduceOption] using htaken.symm
  | @submitted frame hdecoder =>
    have hstarted := hs.started (by simp [hdecoder])
    refine ⟨hs.control, hs.active, fun _ => hstarted, nofun, nofun, nofun, ?_⟩
    simpa [Process.held, hdecoder] using hs.account

end

/-- In every run in which the receiver is not launched again once `main` has
stopped it, the decode thread submits every frame once and ends. -/
theorem decode_thread_drains (enable_audio : Bool) (events : List Event)
    (hintime : ∀ before event after, Takes step (initial enable_audio) events before event after →
      LaunchesInTime before event) : DecodeDrains (initial enable_audio) events := by
  have hinvariant : ∀ {state}, Reaches step (initial enable_audio) events state →
      Stopped enable_audio state ∧ Draining state := by
    intro state hreaches
    refine hreaches.invariant (P := fun s => Stopped enable_audio s ∧ Draining s)
      ⟨.initial enable_audio, .initial enable_audio⟩ ?_
    rintro before event after htakes ⟨hstopped, hdraining⟩
    exact ⟨hstopped.step htakes.step_eq (hintime before event after htakes),
      hdraining.step (main_order hstopped.main) hstopped.puller htakes.step_eq⟩
  refine ⟨?_, ?_, ?_, ?_⟩
  · intro state hreaches hended
    have hdraining := (hinvariant hreaches).2
    have haccount := hdraining.account
    simpa [Process.held, hended.1, (hdraining.ended hended).2] using haccount
  · intro state hreaches hsentinel hwaiting
    exact (hinvariant hreaches).2.awake hsentinel hwaiting
  · intro state hreaches hsentinel halive
    exact (hinvariant hreaches).2.enabled hsentinel halive
  · intro pre mid before after hprefix hbefore hafter hsentinel
    have hwork : .enqueue_sentinel ∉ after.main ∧
        after.decode_work + mid.countP Event.decodes ≤ before.decode_work := by
      induction mid using List.reverseRecOn generalizing after with
      | nil =>
        cases hafter
        exact ⟨hsentinel, Nat.le_refl _⟩
      | append_singleton mid event ih =>
        obtain ⟨middle, hmiddle, hstep⟩ := exec_concat_eq_some_iff.mp hafter
        have hshorter : pre ++ mid <+: events := by
          rw [← List.append_assoc] at hprefix
          exact (List.prefix_append _ _).trans hprefix
        obtain ⟨hstill, hrest⟩ := ih middle hshorter hmiddle
        have hreaches : Reaches step (initial enable_audio) events middle :=
          ⟨pre ++ mid, hshorter, by simp [exec_append, hbefore, hmiddle]⟩
        obtain ⟨hstopped, hdraining⟩ := hinvariant hreaches
        obtain ⟨hgone, hused⟩ := hdraining.work (main_order hstopped.main) hstopped.puller
          hstill hstep
        refine ⟨hgone, ?_⟩
        rw [List.countP_append]
        omega
    omega

/-- Two frames, and a sentinel that the decode thread takes before them. -/
def sentinel_first : List Event :=
  started ++ [Event.puller_loop true, .video_cb, .puller_loop true, .video_cb, .decoder_loop] ++
    [Event.main true, .puller_loop false] ++ List.replicate 6 (Event.main true) ++
    [Event.decoder_dequeue none, .decoder_submit, .decoder_loop, .decoder_loop,
      .decoder_dequeue (some 1), .decoder_submit, .decoder_loop, .decoder_loop,
      .decoder_dequeue (some 0), .decoder_submit, .decoder_loop, .decoder_loop]

theorem decode_thread_drains_sentinel_first :
    (exec step (initial false) sentinel_first).map (fun s => (s.decoder, s.submitted)) =
        some (none, [1, 0]) ∧
      DecodeDrains (initial false) sentinel_first :=
  ⟨by decide +kernel,
    decode_thread_drains false sentinel_first fun _ _ _ htakes =>
      (by decide +kernel :
        ∀ p ∈ taken step (initial false) sentinel_first, LaunchesInTime p.1 p.2)
        _ htakes.mem_taken⟩

end amldigitalfpv.process
