import AMLDigitalFPV.AudioReceiver.Threads

open Transition

namespace amldigitalfpv.audio_receiver

/-- A stage of `play_loop` in which it plays or is going to. -/
def PlayLoop.alive (stage : PlayLoop) : Bool := stage ≠ .returned

/-- There is a `play_loop` that has not returned, or `start` is about to create
one. -/
def World.plays (w : World) : Prop :=
  w.self.play_thread_.any PlayLoop.alive = true ∨ w.caller = .start_creating

/-- The next step of the caller is the return of `start`. -/
def World.start_returns (w : World) : Prop :=
  (w.caller = .start_entered ∧ w.self.running_ = true) ∨ w.caller = .start_creating

/-- Whenever the receiver says that it runs, it plays; `start` returns with a
`play_loop` that has not returned, and does not report success on account of one
that has. -/
structure ReallyPlaying (first : World) (events : List Event) : Prop where
  running : ∀ state, Reaches step first events state → state.self.is_running = true → state.plays
  started : ∀ before after, Takes step first events before .call after → before.start_returns →
    after.self.play_thread_.any PlayLoop.alive = true
  restarted : ∀ before after, Takes step first events before .call after →
    before.caller = .start_entered → before.self.play_thread_ = some .returned →
    after.caller = .start_storing

/-- The initialisation of `play_loop` fails only once `stop` has begun. -/
def FailsWhenStopped (before : World) (event : Event) : Prop :=
  event = .opus_decoder_create false ∨ event = .pa_simple_new false →
    before.self.running_ = false

instance (before : World) (event : Event) : Decidable (FailsWhenStopped before event) :=
  inferInstanceAs (Decidable (_ → _))

/-- The caller has found the flag clear, or has cleared it. -/
def Caller.after_clear : Caller → Bool
  | .start_storing | .stop_joining | .stop_resetting => true
  | _ => false

/-- What the flag says about the thread, given where the caller stands. -/
structure Sound (w : World) : Prop where
  running : w.self.running_ = true → w.plays
  stopped : w.self.running_ = false →
    w.self.play_thread_ = none ∨ w.caller = .stop_joining ∨ w.caller = .stop_resetting
  creating : w.caller = .start_creating → w.self.play_thread_ = none ∧ w.self.running_ = true
  clear : w.caller.after_clear = true → w.self.running_ = false

theorem Sound.initial : Sound {} := ⟨nofun, fun _ => .inl rfl, nofun, nofun⟩

section

variable {w after : World}

theorem Sound.alive (hs : Sound w) (hrunning : w.self.running_ = true)
    (hcaller : w.caller ≠ .start_creating) : w.self.play_thread_.any PlayLoop.alive = true :=
  (hs.running hrunning).resolve_right hcaller

/-- `play_loop` moves on, and returns only once the flag is clear. -/
theorem Sound.play (hs : Sound w) {stage : PlayLoop} (hpresent : w.self.play_thread_ ≠ none)
    (hstage : w.self.running_ = true → stage.alive = true) : Sound (w.play stage) := by
  refine ⟨fun hrunning => .inl ?_, fun hstopped => .inr ?_, fun hcreating => ?_, hs.clear⟩
  · simpa [World.play] using hstage hrunning
  · exact (hs.stopped hstopped).resolve_left hpresent
  · exact absurd (hs.creating hcreating).1 hpresent

theorem Sound.call (hs : Sound w) (hcall : w.call = some after) : Sound after := by
  unfold World.call at hcall
  split at hcall
  · cases hcall
  · next hcaller =>
    cases hcall
    have hstopped := hs.stopped
    have halive := hs.alive
    cases hrunning : w.self.running_ with
    | true => exact ⟨fun _ => .inl (halive hrunning (by simp [hcaller])), by simp [hrunning],
        nofun, nofun⟩
    | false =>
      rw [hcaller] at hstopped
      exact ⟨by simp [hrunning], fun h => .inl (by simpa using hstopped h), nofun,
        fun _ => hrunning⟩
  · next hcaller =>
    cases hcall
    have hclear := hs.clear (by rw [hcaller]; rfl)
    have hnone := hs.stopped hclear
    rw [hcaller] at hnone
    exact ⟨fun _ => .inr rfl, nofun, fun _ => ⟨by simpa using hnone, rfl⟩, nofun⟩
  · next hcaller =>
    split at hcall <;> cases hcall
    have hrunning := (hs.creating hcaller).2
    exact ⟨fun _ => .inl rfl, by simp [hrunning], nofun, nofun⟩
  · next hcaller =>
    cases hcall
    have hstopped := hs.stopped
    rw [hcaller] at hstopped
    refine ⟨nofun, fun _ => ?_, ?_, fun _ => rfl⟩
    · cases hrunning : w.self.running_ with
      | true => simp
      | false => simpa using hstopped hrunning
    · dsimp only
      split <;> nofun
  · next hcaller =>
    have hclear := hs.clear (by rw [hcaller]; rfl)
    split at hcall <;> cases hcall
    · next hnone => exact ⟨by simp [hclear], fun _ => .inl hnone, nofun, nofun⟩
    · exact ⟨by simp [hclear], fun _ => .inr (.inr rfl), nofun, fun _ => hclear⟩
  · next hcaller =>
    cases hcall
    have hclear := hs.clear (by rw [hcaller]; rfl)
    exact ⟨by simp [hclear], fun _ => .inl rfl, nofun, nofun⟩

theorem Sound.produce (hs : Sound w) (hproduce : w.produce = some after) : Sound after := by
  unfold World.produce at hproduce
  split at hproduce <;> cases hproduce
  all_goals exact ⟨hs.running, hs.stopped, hs.creating, hs.clear⟩

theorem Sound.step {event : Event} (hs : Sound w) (hstep : step w event = some after)
    (hfails : FailsWhenStopped w event) : Sound after := by
  cases event with
  | start | stop =>
    obtain ⟨hcaller, heq⟩ := Option.ite_none_right_eq_some.mp hstep
    cases heq
    have hstopped := hs.stopped
    rw [hcaller] at hstopped
    exact ⟨fun hrunning => .inl (hs.alive hrunning (by simp [hcaller])),
      fun h => .inl (by simpa using hstopped h), nofun, nofun⟩
  | call => exact hs.call hstep
  | opus_decoder_create ok | pa_simple_new ok =>
    obtain ⟨hstage, heq⟩ := Option.ite_none_right_eq_some.mp hstep
    cases heq
    apply hs.play
    · simp [hstage]
    · intro hrunning
      cases ok with
      | true => rfl
      | false =>
        have hstopped := hfails (by simp)
        rw [hrunning] at hstopped
        cases hstopped
  | loop_test =>
    obtain ⟨hstage, heq⟩ := Option.ite_none_right_eq_some.mp hstep
    cases heq
    apply hs.play
    · simp [hstage]
    · intro hrunning
      rw [if_pos hrunning]
      rfl
  | wait_dequeue_timed =>
    obtain ⟨hstage, heq⟩ := Option.ite_none_right_eq_some.mp hstep
    have hplay : Sound (w.play .testing) := hs.play (by simp [hstage]) (fun _ => rfl)
    split at heq <;> cases heq
    · exact hplay
    · exact ⟨hplay.running, hplay.stopped, hplay.creating, hplay.clear⟩
  | enqueue_payload payload =>
    obtain ⟨-, heq⟩ := Option.ite_none_right_eq_some.mp hstep
    split at heq <;> cases heq
    all_goals exact ⟨hs.running, hs.stopped, hs.creating, hs.clear⟩
  | produce => exact hs.produce hstep

/-- A `play_loop` that gives up while the flag is set leaves a receiver that
only says that it runs. -/
theorem Sound.fails_when_stopped {event : Event} (hs : Sound w)
    (hstep : audio_receiver.step w event = some after)
    (hplays : after.self.is_running = true → after.plays) : FailsWhenStopped w event := by
  have hfailed : w.self.play_thread_ ≠ none → after = w.play .returned →
      w.self.running_ = false := by
    rintro hpresent rfl
    by_contra hrunning
    obtain hreturned | hcreating := hplays (Bool.not_eq_false _ ▸ hrunning)
    · simp [World.play, PlayLoop.alive] at hreturned
    · exact hpresent (hs.creating hcreating).1
  rintro (rfl | rfl)
  · obtain ⟨hstage, heq⟩ := Option.ite_none_right_eq_some.mp hstep
    cases heq
    exact hfailed (by simp [hstage]) rfl
  · obtain ⟨hstage, heq⟩ := Option.ite_none_right_eq_some.mp hstep
    cases heq
    exact hfailed (by simp [hstage]) rfl

/-- A step at which `start` returns leaves a `play_loop` that has not. -/
theorem Sound.start_returned (hs : Sound w) (hcall : w.call = some after)
    (hreturns : w.start_returns) : after.self.play_thread_.any PlayLoop.alive = true := by
  obtain ⟨hcaller, hrunning⟩ | hcaller := hreturns
  · have halive := hs.alive hrunning (by simp [hcaller])
    simp only [World.call, hcaller] at hcall
    cases hcall
    exact halive
  · simp only [World.call, hcaller] at hcall
    split at hcall <;> cases hcall
    rfl

end

/-- The receiver plays whenever it says so exactly when no initialisation fails
before `stop` has begun. -/
theorem really_playing_iff (events : List Event) :
    ReallyPlaying {} events ↔
      ∀ before event after, Takes step {} events before event after →
        FailsWhenStopped before event := by
  have hiff : (∀ state, Reaches step {} events state → state.self.is_running = true →
        state.plays) ↔
      ∀ before event after, Takes step {} events before event after →
        FailsWhenStopped before event := by
    refine reaches_iff_of_steps Sound.initial nofun ?_ ?_
    · exact fun hstep hs => hs.step hstep
    · exact fun hstep hs =>
        ⟨hs.fails_when_stopped hstep, fun hfails => (hs.step hstep hfails).running⟩
  constructor
  · exact fun hplaying => hiff.mp hplaying.running
  · intro hfails
    have hsound : ∀ {state}, Reaches step {} events state → Sound state := fun hreaches =>
      hreaches.invariant .initial fun before event after htakes hbefore =>
        hbefore.step htakes.step_eq (hfails before event after htakes)
    refine ⟨hiff.mpr hfails, ?_, ?_⟩
    · intro before after htakes hreturns
      exact (hsound htakes.reaches).start_returned htakes.step_eq hreturns
    · intro before after htakes hcaller hreturned
      have hs := hsound htakes.reaches
      have hstopped : before.self.running_ = false := by
        by_contra hrunning
        have halive := hs.alive (Bool.not_eq_false _ ▸ hrunning) (by simp [hcaller])
        simp [hreturned, PlayLoop.alive] at halive
      have hcall := htakes.step_eq
      simp only [step, World.call, hcaller, hstopped] at hcall
      cases hcall
      rfl

/-- A first `start` whose `play_loop` finds no sound server, and a second. -/
def no_server : List Event :=
  [.start, .call, .call, .call, .opus_decoder_create true, .pa_simple_new false, .start, .call]

/-- The receiver says that it runs although its `play_loop` has returned. -/
theorem really_playing_counterexample : ¬ ReallyPlaying {} no_server := by
  intro hplaying
  have hrun : (exec step {} no_server).any fun state =>
      state.self.is_running ∧ state.self.play_thread_ = some .returned ∧ state.caller = .idle := by
    decide
  obtain ⟨state, hstate, hreturned⟩ := Option.any_eq_true _ _ |>.mp hrun
  obtain ⟨hrunning, hthread, hcaller⟩ := of_decide_eq_true hreturned
  obtain halive | hcreating := hplaying.running state ⟨_, List.prefix_refl _, hstate⟩ hrunning
  · simp [hthread, PlayLoop.alive] at halive
  · simp [hcaller] at hcreating

end amldigitalfpv.audio_receiver
