import AMLDigitalFPV.Aml.DisplayThread

open Transition

namespace amldigitalfpv.aml

/-- The formats that `aml_setup` tells apart. -/
inductive VideoFormat where
  | H264
  | H265
  | unsupported
deriving DecidableEq, Repr

/-- What the calls made by `aml_setup` return; `vfm_map` is whether a line of the
map can be read, `video10` what opening the device returns, and `pthread_create`
whether there is a thread then. -/
structure SetupAnswers where
  strdup : Bool
  codec_init : Int
  codec_set_freerun_mode : Int
  codec_set_syncenable : Int
  codec_set_video_delay_limited_ms : Int
  codec_disalbe_slowsync : Int
  codec_set_cntl_avthresh : Int
  vfm_map : Bool
  video10 : Int
  pthread_create : Bool
deriving DecidableEq, Repr

/-- What `main` acquires and releases for the decoder. -/
inductive MainStep where
  | strdup (answer : Bool)
  | codec_init (ret : Int)
  | open_display (fd : Int) (created : Bool) -- the device, and the thread on it
  | ensure_buf_size
  | free_config
  | set_done
  | pthread_join
  | close_video
  | codec_close
  | free_pkt_buf
deriving DecidableEq, Repr

def SetupAnswers.settings (answers : SetupAnswers) : List Int :=
  [answers.codec_set_freerun_mode, answers.codec_set_syncenable,
    answers.codec_set_video_delay_limited_ms, answers.codec_disalbe_slowsync,
    answers.codec_set_cntl_avthresh]

/-- What is returned, and what has been acquired by then. Whether the thread could
be created is not looked at. -/
def aml_setup (videoFormat : VideoFormat) (answers : SetupAnswers) : Int × List MainStep :=
  if videoFormat = .unsupported then
    (-1, [])
  else
    let config : List MainStep := if videoFormat = .H265 then [.strdup answers.strdup] else []
    let steps := config ++ [.codec_init answers.codec_init]
    if answers.codec_init ≠ 0 ∨ ∃ ret ∈ answers.settings, ret ≠ 0 then
      (-2, steps)
    else if ¬ answers.vfm_map then
      (0, steps ++ [.ensure_buf_size])
    else if answers.video10 < 0 then
      (-3, steps ++ [.open_display answers.video10 answers.pthread_create])
    else
      (0, steps ++ [.open_display answers.video10 answers.pthread_create, .ensure_buf_size])

def aml_cleanup : List MainStep :=
  [.free_config, .set_done, .pthread_join, .close_video, .codec_close, .free_pkt_buf]

/-- The decoder, with what `main` has still to do to it, and whether it has done
what is left undefined, to join a thread that does not exist. -/
structure Decoder where
  main : List MainStep
  config : Bool := false
  codec : Bool := false
  videoFd : Int := -1
  device : Bool := false
  displayThread : Option DisplayThread := none
  pkt_buf : Bool := false
  undefined : Bool := false
deriving DecidableEq, Repr

namespace Decoder

/-- `pthread_join` has to wait for the thread. -/
def perform (s : Decoder) : MainStep → Option Decoder
  | .strdup answer => some { s with config := answer }
  | .codec_init ret => some { s with codec := decide (ret = 0) }
  | .open_display fd created =>
    some
      { s with
        videoFd := fd
        device := decide (0 ≤ fd)
        displayThread := if 0 ≤ fd ∧ created = true then some .start else none }
  | .ensure_buf_size => some { s with pkt_buf := true }
  | .free_config => some { s with config := false }
  | .set_done =>
    if 0 ≤ s.videoFd then
      some { s with displayThread := s.displayThread.bind (·.step .aml_cleanup) }
    else
      some s
  | .pthread_join =>
    if 0 ≤ s.videoFd then
      match s.displayThread with
      | none => some { s with undefined := true }
      | some thread => if thread.stage = .terminated then some s else none
    else
      some s
  | .close_video => if 0 ≤ s.videoFd then some { s with device := false } else some s
  | .codec_close => some { s with codec := false }
  | .free_pkt_buf => some { s with pkt_buf := false }

end Decoder

/-- What happens next: a step of `main` or one of the display thread. -/
inductive Turn where
  | main
  | display (event : Event)

namespace Decoder

/-- The thread does not set `done` itself. -/
def step (s : Decoder) : Turn → Option Decoder
  | .main =>
    match s.main with
    | [] => none
    | next :: rest => (s.perform next).map fun s => { s with main := rest }
  | .display .aml_cleanup => none
  | .display event =>
    (s.displayThread.bind (·.step event)).map fun thread => { s with displayThread := some thread }

/-- A process that sets the decoder up, whatever comes of it, and cleans up. -/
def launched (videoFormat : VideoFormat) (answers : SetupAnswers) : Decoder :=
  { main := (aml_setup videoFormat answers).2 ++ aml_cleanup }

end Decoder

namespace DisplayThread

/-- The steps that the thread takes at most once `done` is set. -/
def steps_left (self : DisplayThread) : Nat :=
  match self.stage with
  | .terminated => 0
  | .testing | .recovering _ | .abandoning _ => 1
  | .displaying _ _ => 2
  | .testing_drain _ _ => 3
  | .dequeuing | .dropping _ _ _ => 4
  | .dequeuing_candidate _ _ => 5

variable {self after : DisplayThread} {event : Event}

/-- A step of the thread itself. Whatever the driver answers, once `done` is set the
thread comes closer to its end. -/
structure Proceeds (before after : DisplayThread) : Prop where
  done : after.done = before.done
  steps_left : before.done = true → after.steps_left < before.steps_left
  running : before.stage ≠ .terminated

theorem test_done_proceeds (hstep : self.test_done = some after) : Proceeds self after := by
  unfold test_done at hstep
  split at hstep
  · next hstage =>
    cases hstep
    refine ⟨rfl, fun hdone => ?_, by simp [hstage]⟩
    simp [steps_left, hstage, hdone]
  · next hstage =>
    split at hstep
    · cases hstep
      refine ⟨rfl, fun _ => ?_, by simp [hstage]⟩
      simp [steps_left, display, hstage]
    · next hdone =>
      cases hstep
      exact ⟨rfl, fun hset => absurd hset hdone, by simp [hstage]⟩
  · cases hstep

theorem vidioc_dqbuf_proceeds {answer : Except Int v4l2_buffer}
    (hstep : self.vidioc_dqbuf answer = some after) : Proceeds self after := by
  unfold vidioc_dqbuf at hstep
  split at hstep
  · next hstage =>
    cases hstep
    exact ⟨rfl, fun _ => by simp [steps_left, hstage], by simp [hstage]⟩
  · next errno hstage =>
    cases hstep
    refine ⟨rfl, fun _ => ?_, by simp [hstage]⟩
    by_cases hagain : errno = EAGAIN <;> simp [steps_left, hstage, hagain]
  · next hstage =>
    cases hstep
    exact ⟨rfl, fun _ => by simp [steps_left, hstage], by simp [hstage]⟩
  · next hstage =>
    split at hstep
    · cases hstep
      exact ⟨rfl, fun _ => by simp [steps_left, display, hstage], by simp [hstage]⟩
    · cases hstep
      exact ⟨rfl, fun _ => by simp [steps_left, hstage], by simp [hstage]⟩
  · cases hstep

theorem vidioc_qbuf_proceeds {answer : Except Int Unit}
    (hstep : self.vidioc_qbuf answer = some after) : Proceeds self after := by
  unfold vidioc_qbuf at hstep
  split at hstep
  all_goals cases hstep
  all_goals
    next hstage =>
      exact ⟨rfl, fun _ => by simp [steps_left, hstage], by simp [hstage]⟩

theorem step_proceeds (hstep : self.step event = some after) (hown : event ≠ .aml_cleanup) :
    Proceeds self after := by
  cases event with
  | aml_cleanup => exact absurd rfl hown
  | test_done => exact test_done_proceeds hstep
  | vidioc_dqbuf answer => exact vidioc_dqbuf_proceeds hstep
  | vidioc_qbuf answer => exact vidioc_qbuf_proceeds hstep

/-- The thread is stuck nowhere: each of its calls is answered. -/
theorem exists_step (hstage : self.stage ≠ .terminated) :
    ∃ event after, event ≠ .aml_cleanup ∧ self.step event = some after := by
  obtain ⟨done, stage, backlog_active, count⟩ := self
  cases stage with
  | testing => exact ⟨.test_done, _, by simp, rfl⟩
  | testing_drain latest drained =>
    cases done with
    | true => exact ⟨.test_done, _, by simp, rfl⟩
    | false => exact ⟨.test_done, _, by simp, rfl⟩
  | dequeuing => exact ⟨.vidioc_dqbuf (.ok ⟨0⟩), _, by simp, rfl⟩
  | dequeuing_candidate latest drained =>
    exact ⟨.vidioc_dqbuf (.ok ⟨0⟩), _, by simp, rfl⟩
  | recovering latest | abandoning latest | displaying latest drained =>
    exact ⟨.vidioc_qbuf (.ok ()), _, by simp, rfl⟩
  | dropping latest candidate drained =>
    exact ⟨.vidioc_qbuf (.ok ()), _, by simp, rfl⟩
  | terminated => exact absurd rfl hstage

end DisplayThread

/-- What has to come after a step. -/
def MainStep.Needs (rest : List MainStep) : MainStep → Prop
  | .strdup _ => .free_config ∈ rest
  | .codec_init _ => .codec_close ∈ rest
  | .open_display _ _ => .set_done ∈ rest ∧ .pthread_join ∈ rest ∧ .close_video ∈ rest
  | .ensure_buf_size => .free_pkt_buf ∈ rest
  | .close_video => .pthread_join ∉ rest
  | _ => True

def Orderly : List MainStep → Prop
  | [] => True
  | next :: rest => next.Needs rest ∧ Orderly rest

def MainStep.acquires : MainStep → Bool
  | .strdup _ | .codec_init _ | .open_display _ _ | .ensure_buf_size => true
  | _ => false

theorem aml_setup_acquires (videoFormat : VideoFormat) (answers : SetupAnswers) :
    ∀ next ∈ (aml_setup videoFormat answers).2, next.acquires = true := by
  have hconfig : ∀ next ∈ (if videoFormat = .H265 then [MainStep.strdup answers.strdup] else []),
      next.acquires = true := by
    split <;> simp [MainStep.acquires]
  unfold aml_setup
  split
  · exact List.forall_mem_nil _
  · dsimp only
    generalize (if videoFormat = .H265 then [MainStep.strdup answers.strdup] else []) = config
      at hconfig ⊢
    split
    · simpa [or_imp, forall_and, MainStep.acquires] using hconfig
    · split
      · simpa [or_imp, forall_and, MainStep.acquires] using hconfig
      · split
        · simpa [or_imp, forall_and, MainStep.acquires] using hconfig
        · simpa [or_imp, forall_and, MainStep.acquires] using hconfig

theorem aml_setup_creates {videoFormat : VideoFormat} {answers : SetupAnswers} {fd : Int}
    {created : Bool} (hmem : .open_display fd created ∈ (aml_setup videoFormat answers).2) :
    created = answers.pthread_create := by
  have hconfig : MainStep.open_display fd created ∉
      (if videoFormat = .H265 then [MainStep.strdup answers.strdup] else []) := by
    split <;> simp
  unfold aml_setup at hmem
  split at hmem
  · cases hmem
  · dsimp only at hmem
    generalize (if videoFormat = .H265 then [MainStep.strdup answers.strdup] else []) = config
      at hconfig hmem
    split at hmem
    · simp [hconfig] at hmem
    · split at hmem
      · simp [hconfig] at hmem
      · split at hmem
        · exact (by simpa [hconfig] using hmem :
            fd = answers.video10 ∧ created = answers.pthread_create).2
        · exact (by simpa [hconfig] using hmem :
            fd = answers.video10 ∧ created = answers.pthread_create).2

/-- Cleaning up releases whatever has been acquired. -/
theorem orderly_append_cleanup {steps : List MainStep}
    (hsteps : ∀ next ∈ steps, next.acquires = true) : Orderly (steps ++ aml_cleanup) := by
  induction steps with
  | nil => simp [aml_cleanup, Orderly, MainStep.Needs]
  | cons next rest ih =>
    obtain ⟨hnext, hrest⟩ := List.forall_mem_cons.mp hsteps
    refine ⟨?_, ih hrest⟩
    cases next <;> simp_all [MainStep.acquires, MainStep.Needs, aml_cleanup]

namespace Decoder

/-- What is held has its release ahead of it, and the thread runs on a device that
is open. -/
structure Sound (s : Decoder) : Prop where
  orderly : Orderly s.main
  config : s.config = true → .free_config ∈ s.main
  codec : s.codec = true → .codec_close ∈ s.main
  device : s.device = true → .close_video ∈ s.main
  pkt_buf : s.pkt_buf = true → .free_pkt_buf ∈ s.main
  opened : s.device = true → 0 ≤ s.videoFd
  created : s.displayThread.isSome = true → 0 ≤ s.videoFd
  alive : ∀ thread, s.displayThread = some thread → thread.stage ≠ .terminated →
    s.device = true ∧ .pthread_join ∈ s.main
  stopped : .set_done ∉ s.main → ∀ thread, s.displayThread = some thread → thread.done = true

theorem Sound.launched (videoFormat : VideoFormat) (answers : SetupAnswers) :
    Sound (launched videoFormat answers) := by
  have horderly := orderly_append_cleanup (aml_setup_acquires videoFormat answers)
  refine ⟨horderly, ?_, ?_, ?_, ?_, ?_, ?_, ?_, ?_⟩
  all_goals simp [Decoder.launched]

variable {s after : Decoder} {turn : Turn}

/-- A step of the thread changes nothing but the thread. -/
theorem step_display {event : Event} (hstep : s.step (.display event) = some after) :
    event ≠ .aml_cleanup ∧ ∃ thread next, s.displayThread = some thread ∧
      thread.step event = some next ∧ after = { s with displayThread := some next } := by
  have hown : event ≠ .aml_cleanup := by
    rintro rfl
    cases hstep
  have hmap : (s.displayThread.bind (·.step event)).map
      (fun thread => { s with displayThread := some thread }) = some after := by
    cases event with
    | aml_cleanup => exact absurd rfl hown
    | test_done | vidioc_dqbuf answer | vidioc_qbuf answer => exact hstep
  obtain ⟨next, hnext, rfl⟩ := Option.map_eq_some_iff.mp hmap
  obtain ⟨thread, hthread, hnext⟩ := Option.bind_eq_some_iff.mp hnext
  exact ⟨hown, thread, next, hthread, hnext, rfl⟩

theorem step_main (hstep : s.step .main = some after) : ∃ next rest performed,
    s.main = next :: rest ∧ s.perform next = some performed ∧
      after = { performed with main := rest } := by
  cases hmain : s.main with
  | nil => simp [step, hmain] at hstep
  | cons next rest =>
    simp only [step, hmain] at hstep
    obtain ⟨performed, hperformed, rfl⟩ := Option.map_eq_some_iff.mp hstep
    exact ⟨next, rest, performed, rfl, hperformed, rfl⟩

theorem Sound.display {event : Event} (h : Sound s)
    (hstep : s.step (.display event) = some after) : Sound after := by
  obtain ⟨hown, thread, next, hthread, hnext, rfl⟩ := step_display hstep
  have hproceeds := DisplayThread.step_proceeds hnext hown
  refine ⟨h.orderly, h.config, h.codec, h.device, h.pkt_buf, h.opened, ?_, ?_, ?_⟩
  · exact fun _ => h.created (by rw [hthread]; rfl)
  · rintro _ ⟨⟩ -
    exact h.alive thread hthread hproceeds.running
  · rintro hstopped _ ⟨⟩
    rw [hproceeds.done]
    exact h.stopped hstopped thread hthread

theorem Sound.no_thread (h : Sound s) (hfd : ¬ 0 ≤ s.videoFd) (thread : DisplayThread) :
    s.displayThread ≠ some thread := fun hthread =>
  hfd (h.created (by rw [hthread]; rfl))

variable {rest : List MainStep} {performed : Decoder}

theorem Sound.open_display {fd : Int} {created : Bool} (h : Sound s)
    (hmain : s.main = .open_display fd created :: rest)
    (hperformed : s.perform (.open_display fd created) = some performed) :
    Sound { performed with main := rest } := by
  obtain ⟨horderly, hconfig, hcodec, -, hpkt_buf, -, -, -, -⟩ := h
  rw [hmain] at horderly hconfig hcodec hpkt_buf
  obtain ⟨⟨hset_done, hjoin, hclose⟩, horderly⟩ := horderly
  simp only [List.mem_cons, reduceCtorEq, false_or] at hconfig hcodec hpkt_buf
  cases hperformed
  refine ⟨horderly, hconfig, hcodec, fun _ => hclose, hpkt_buf, of_decide_eq_true, ?_, ?_, ?_⟩
  · dsimp only
    split
    · next hthread => exact fun _ => hthread.1
    · exact fun hnone => by cases hnone
  · intro thread hthread _
    dsimp only at hthread
    split at hthread
    · next hcreated => exact ⟨decide_eq_true hcreated.1, hjoin⟩
    · cases hthread
  · exact fun hnot => absurd hset_done hnot

/-- `done` is set for the thread, if there is one. -/
theorem Sound.set_done (h : Sound s) (hmain : s.main = .set_done :: rest)
    (hperformed : s.perform .set_done = some performed) :
    Sound { performed with main := rest } := by
  obtain ⟨horderly, hconfig, hcodec, hdevice, hpkt_buf, hopened, hcreated, halive, -⟩ := id h
  rw [hmain] at horderly hconfig hcodec hdevice hpkt_buf halive
  simp only [List.mem_cons, reduceCtorEq, false_or] at hconfig hcodec hdevice hpkt_buf halive
  unfold perform at hperformed
  dsimp only at hperformed
  split at hperformed
  · cases hperformed
    have hsame : s.displayThread.bind (·.step .aml_cleanup) =
        s.displayThread.map fun thread => { thread with done := true } := by
      cases s.displayThread <;> rfl
    rw [hsame]
    refine ⟨horderly.2, hconfig, hcodec, hdevice, hpkt_buf, hopened, ?_, ?_, ?_⟩
    · rw [Option.isSome_map]
      exact hcreated
    · intro thread hthread
      obtain ⟨old, hold, rfl⟩ := Option.map_eq_some_iff.mp hthread
      exact halive old hold
    · intro _ thread hthread
      obtain ⟨old, hold, rfl⟩ := Option.map_eq_some_iff.mp hthread
      rfl
  · next hfd =>
    cases hperformed
    exact ⟨horderly.2, hconfig, hcodec, hdevice, hpkt_buf, hopened, hcreated, halive,
      fun _ thread hthread => absurd hthread (h.no_thread hfd thread)⟩

theorem perform_pthread_join (hperformed : s.perform .pthread_join = some performed) :
    ∃ undefined, performed = { s with undefined := undefined } ∧
      (0 ≤ s.videoFd → ∀ thread, s.displayThread = some thread → thread.stage = .terminated) := by
  unfold perform at hperformed
  dsimp only at hperformed
  split at hperformed
  · split at hperformed
    · next hnone =>
      cases hperformed
      exact ⟨true, rfl, fun _ thread hthread => by rw [hnone] at hthread; cases hthread⟩
    · next joined hjoined =>
      split at hperformed
      · next hended =>
        cases hperformed
        refine ⟨s.undefined, rfl, fun _ thread hthread => ?_⟩
        rw [hjoined] at hthread
        cases hthread
        exact hended
      · cases hperformed
  · next hfd =>
    cases hperformed
    exact ⟨s.undefined, rfl, fun hopened => absurd hopened hfd⟩

/-- The join returns when the thread has ended. -/
theorem Sound.pthread_join (h : Sound s) (hmain : s.main = .pthread_join :: rest)
    (hperformed : s.perform .pthread_join = some performed) :
    Sound { performed with main := rest } := by
  obtain ⟨horderly, hconfig, hcodec, hdevice, hpkt_buf, hopened, hcreated, -, hstopped⟩ := h
  rw [hmain] at horderly hconfig hcodec hdevice hpkt_buf hstopped
  simp only [List.mem_cons, reduceCtorEq, false_or] at hconfig hcodec hdevice hpkt_buf hstopped
  obtain ⟨undefined, rfl, hended⟩ := perform_pthread_join hperformed
  refine ⟨horderly.2, hconfig, hcodec, hdevice, hpkt_buf, hopened, hcreated, ?_, hstopped⟩
  intro thread (hthread : s.displayThread = some thread) hrunning
  have hfd : 0 ≤ s.videoFd := hcreated (by rw [hthread]; rfl)
  exact absurd (hended hfd thread hthread) hrunning

/-- By the time the device is closed the join is past. -/
theorem Sound.close_video (h : Sound s) (hmain : s.main = .close_video :: rest)
    (hperformed : s.perform .close_video = some performed) :
    Sound { performed with main := rest } := by
  obtain ⟨horderly, hconfig, hcodec, -, hpkt_buf, hopened, hcreated, halive, hstopped⟩ := id h
  rw [hmain] at horderly hconfig hcodec hpkt_buf halive hstopped
  obtain ⟨hjoined, horderly⟩ := horderly
  simp only [List.mem_cons, reduceCtorEq, false_or] at hconfig hcodec hpkt_buf halive hstopped
  unfold perform at hperformed
  dsimp only at hperformed
  split at hperformed
  · cases hperformed
    exact ⟨horderly, hconfig, hcodec, fun hheld => absurd hheld Bool.false_ne_true, hpkt_buf,
      fun hheld => absurd hheld Bool.false_ne_true, hcreated,
      fun thread hthread hrunning => absurd (halive thread hthread hrunning).2 hjoined, hstopped⟩
  · next hfd =>
    cases hperformed
    exact ⟨horderly, hconfig, hcodec, fun hheld => absurd (hopened hheld) hfd, hpkt_buf, hopened,
      hcreated, fun thread hthread => absurd hthread (h.no_thread hfd thread), hstopped⟩

theorem Sound.main (h : Sound s) (hstep : s.step .main = some after) : Sound after := by
  obtain ⟨next, rest, performed, hmain, hperformed, rfl⟩ := step_main hstep
  cases next with
  | open_display fd created => exact h.open_display hmain hperformed
  | set_done => exact h.set_done hmain hperformed
  | pthread_join => exact h.pthread_join hmain hperformed
  | close_video => exact h.close_video hmain hperformed
  | strdup _ | codec_init _ | ensure_buf_size | free_config | codec_close | free_pkt_buf =>
    -- these change one flag, and neither the device nor the thread
    obtain ⟨horderly, hconfig, hcodec, hdevice, hpkt_buf, hopened, hcreated, halive, hstopped⟩ := h
    rw [hmain] at horderly hconfig hcodec hdevice hpkt_buf halive hstopped
    obtain ⟨hneeds, horderly⟩ := horderly
    simp only [MainStep.Needs] at hneeds
    simp only [List.mem_cons, reduceCtorEq, false_or] at hdevice halive hstopped
    cases hperformed
    refine ⟨horderly, ?_, ?_, hdevice, ?_, hopened, hcreated, halive, hstopped⟩
    all_goals simp_all

theorem Sound.step (h : Sound s) (hstep : s.step turn = some after) : Sound after := by
  cases turn with
  | main => exact h.main hstep
  | display event => exact h.display hstep

variable {videoFormat : VideoFormat} {answers : SetupAnswers} {turns : List Turn}

theorem sound_of_reaches (h : Reaches step (Decoder.launched videoFormat answers) turns s) :
    Sound s :=
  h.invariant (Sound.launched videoFormat answers) fun _ _ _ htakes hsound =>
    hsound.step htakes.step_eq

/-- Where the device is open there is a thread on it. -/
structure Created (s : Decoder) : Prop where
  main : ∀ fd, .open_display fd false ∉ s.main
  displayThread : 0 ≤ s.videoFd → s.displayThread ≠ none
  undefined : s.undefined = false

theorem Created.launched (hcreate : answers.pthread_create = true) :
    Created (launched videoFormat answers) := by
  refine ⟨fun fd hmem => ?_, by simp [Decoder.launched], rfl⟩
  obtain hsetup | hcleanup := List.mem_append.mp hmem
  · have hcreated := aml_setup_creates hsetup
    rw [hcreate] at hcreated
    cases hcreated
  · simp [aml_cleanup] at hcleanup

theorem Created.main_step (h : Created s) (hstep : s.step .main = some after) :
    Created after := by
  obtain ⟨next, rest, performed, hmain, hperformed, rfl⟩ := step_main hstep
  obtain ⟨hcreates, hthread, hundefined⟩ := h
  simp only [hmain, List.mem_cons, not_or] at hcreates
  suffices (0 ≤ performed.videoFd → performed.displayThread ≠ none) ∧
      performed.undefined = false from
    ⟨fun fd => (hcreates fd).2, this.1, this.2⟩
  unfold perform at hperformed
  cases next with
  | open_display fd created =>
    have hcreated : created = true := by
      cases created with
      | true => rfl
      | false => exact absurd rfl (hcreates fd).1
    cases hperformed
    refine ⟨fun hfd => ?_, hundefined⟩
    dsimp only at hfd ⊢
    rw [if_pos ⟨hfd, hcreated⟩]
    exact Option.some_ne_none _
  | set_done =>
    dsimp only at hperformed
    split at hperformed
    · next hfd =>
      cases hperformed
      obtain ⟨thread, hthread⟩ := Option.ne_none_iff_exists'.mp (hthread hfd)
      refine ⟨fun _ => ?_, hundefined⟩
      dsimp only
      rw [hthread]
      exact Option.some_ne_none _
    · cases hperformed
      exact ⟨hthread, hundefined⟩
  | pthread_join =>
    dsimp only at hperformed
    split at hperformed
    · next hfd =>
      split at hperformed
      · next hnone => exact absurd hnone (hthread hfd)
      · split at hperformed
        · cases hperformed
          exact ⟨hthread, hundefined⟩
        · cases hperformed
    · cases hperformed
      exact ⟨hthread, hundefined⟩
  | close_video =>
    dsimp only at hperformed
    split at hperformed <;> cases hperformed <;> exact ⟨hthread, hundefined⟩
  | strdup | codec_init | ensure_buf_size | free_config | codec_close | free_pkt_buf =>
    cases hperformed
    exact ⟨hthread, hundefined⟩

theorem Created.step (h : Created s) (hstep : s.step turn = some after) : Created after := by
  cases turn with
  | main => exact h.main_step hstep
  | display event =>
    obtain ⟨-, thread, next, -, -, rfl⟩ := step_display hstep
    exact ⟨h.main, fun _ => Option.some_ne_none next, h.undefined⟩

/-- Whatever set-up comes to and however the steps of the thread fall between those
of `main`, the thread never touches the device unless it is open; and when the
cleaning up is through, nothing is held and the thread has ended. Only where the
thread could not be created does `main` join what does not exist. -/
theorem decoder_released
    (hexec : exec step (Decoder.launched videoFormat answers) turns = some s) :
    (∀ before event after,
        Takes step (Decoder.launched videoFormat answers) turns before (.display event) after →
        before.device = true) ∧
      (s.main = [] →
        s.config = false ∧ s.codec = false ∧ s.device = false ∧ s.pkt_buf = false ∧
          ∀ thread, s.displayThread = some thread → thread.stage = .terminated) ∧
      (answers.pthread_create = true → s.undefined = false) := by
  have hreaches : Reaches step (Decoder.launched videoFormat answers) turns s :=
    ⟨turns, List.prefix_refl _, hexec⟩
  refine ⟨?_, ?_, ?_⟩
  · intro before event after htakes
    have hsound := sound_of_reaches htakes.reaches
    obtain ⟨hown, thread, next, hthread, hnext, -⟩ := step_display htakes.step_eq
    exact (hsound.alive thread hthread (DisplayThread.step_proceeds hnext hown).running).1
  · intro hmain
    obtain ⟨-, hconfig, hcodec, hdevice, hpkt_buf, -, -, halive, -⟩ := sound_of_reaches hreaches
    simp only [hmain, List.not_mem_nil, imp_false, Bool.not_eq_true, and_false, not_not]
      at hconfig hcodec hdevice hpkt_buf halive
    exact ⟨hconfig, hcodec, hdevice, hpkt_buf, halive⟩
  · intro hcreate
    have hcreated : Created s := hreaches.invariant (Created.launched hcreate)
      fun _ _ _ htakes h => h.step htakes.step_eq
    exact hcreated.undefined

/-- The turns that are left at most once `done` is set. -/
def turns_left (s : Decoder) : Nat :=
  s.main.length + (s.displayThread.map DisplayThread.steps_left).getD 0

/-- Only the join ever waits, and it waits for a thread that can go on. -/
theorem exists_step (hmain : s.main ≠ []) : ∃ turn, s.step turn ≠ none := by
  obtain ⟨next, rest, hnext⟩ := List.exists_cons_of_ne_nil hmain
  cases hperform : s.perform next with
  | some performed => exact ⟨.main, by simp [Decoder.step, hnext, hperform]⟩
  | none =>
    obtain ⟨thread, hthread, hrunning⟩ : ∃ thread, s.displayThread = some thread ∧
        thread.stage ≠ .terminated := by
      cases next with
      | pthread_join =>
        unfold perform at hperform
        dsimp only at hperform
        split at hperform
        · split at hperform
          · cases hperform
          · next thread hthread =>
            split at hperform
            · cases hperform
            · next hrunning => exact ⟨thread, hthread, hrunning⟩
        · cases hperform
      | set_done | close_video =>
        unfold perform at hperform
        dsimp only at hperform
        split at hperform <;> cases hperform
      | strdup | codec_init | open_display | ensure_buf_size | free_config | codec_close
      | free_pkt_buf => cases hperform
    obtain ⟨event, after, hown, hstep⟩ := DisplayThread.exists_step hrunning
    refine ⟨.display event, ?_⟩
    cases event with
    | aml_cleanup => exact absurd rfl hown
    | test_done | vidioc_dqbuf answer | vidioc_qbuf answer =>
      simp [Decoder.step, hthread, hstep]

theorem step_main_eq (hstep : s.step turn = some after) : ∃ done, s.main = done ++ after.main := by
  cases turn with
  | main =>
    obtain ⟨next, rest, performed, hmain, -, rfl⟩ := step_main hstep
    exact ⟨[next], hmain⟩
  | display event =>
    obtain ⟨-, thread, next, -, -, rfl⟩ := step_display hstep
    exact ⟨[], rfl⟩

/-- Once `done` is set, every turn is one of those that are left. -/
theorem Sound.turns_left_lt (h : Sound s) (hstopped : .set_done ∉ s.main)
    (hstep : s.step turn = some after) : after.turns_left < s.turns_left := by
  cases turn with
  | main =>
    obtain ⟨next, rest, performed, hmain, hperformed, rfl⟩ := step_main hstep
    obtain ⟨hneeds, -⟩ : next.Needs rest ∧ Orderly rest := by
      have horderly := h.orderly
      rw [hmain] at horderly
      exact horderly
    rw [hmain, List.mem_cons, not_or] at hstopped
    have hthread : performed.displayThread = s.displayThread := by
      cases next with
      | open_display fd created => exact absurd hneeds.1 hstopped.2
      | set_done => exact absurd rfl hstopped.1
      | pthread_join =>
        obtain ⟨undefined, rfl, -⟩ := perform_pthread_join hperformed
        rfl
      | close_video =>
        unfold perform at hperformed
        dsimp only at hperformed
        split at hperformed <;> cases hperformed <;> rfl
      | strdup | codec_init | ensure_buf_size | free_config | codec_close | free_pkt_buf =>
        cases hperformed
        rfl
    simp [turns_left, hthread, hmain]
  | display event =>
    obtain ⟨hown, thread, next, hthread, hnext, rfl⟩ := step_display hstep
    have hdone := h.stopped hstopped thread hthread
    have hlt := (DisplayThread.step_proceeds hnext hown).steps_left hdone
    simpa [turns_left, hthread] using hlt

/-- `aml_cleanup` returns: once it has set `done` it takes no more turns than are
left, those of the thread that it joins included, and it is stuck nowhere. -/
theorem aml_cleanup_returns
    (hexec : exec step (Decoder.launched videoFormat answers) turns = some s)
    (hstopped : .set_done ∉ s.main) {more : List Turn} {last : Decoder}
    (hmore : exec step s more = some last) :
    more.length ≤ s.turns_left ∧ ((∀ turn, last.step turn = none) → last.main = []) := by
  have hsound : Sound s := sound_of_reaches ⟨turns, List.prefix_refl _, hexec⟩
  have hkeep {before after : Decoder} {turn : Turn} (hstep : before.step turn = some after)
      (h : Sound before ∧ .set_done ∉ before.main) : Sound after ∧ .set_done ∉ after.main := by
    obtain ⟨done, hmain⟩ := step_main_eq hstep
    exact ⟨h.1.step hstep, fun hmem => h.2 (hmain ▸ List.mem_append_right done hmem)⟩
  constructor
  · have hdecreases : ∀ before turn after, Takes step s more before turn after →
        Sound before ∧ .set_done ∉ before.main → turns_left after < turns_left before :=
      fun before turn after htakes h => h.1.turns_left_lt h.2 htakes.step_eq
    exact (Nat.le_add_right _ _).trans
      (length_le_of_decreasing hkeep ⟨hsound, hstopped⟩ hdecreases hmore)
  · intro hstuck
    by_contra hmain
    obtain ⟨turn, hturn⟩ := exists_step hmain
    exact hturn (hstuck turn)

/-- Set-up succeeds, and the thread is in its inner loop when `done` is set. -/
def all_answers : SetupAnswers := ⟨true, 0, 0, 0, 0, 0, 0, true, 7, true⟩

def display_turns : List Turn :=
  [.main, .main, .main, .main, .display .test_done, .display (.vidioc_dqbuf (.ok ⟨2⟩)),
    .main, .main]

def cleanup_turns : List Turn :=
  [.display .test_done, .display (.vidioc_qbuf (.ok ())), .display .test_done, .main, .main,
    .main, .main]

/-- The decoder when all is over. -/
def cleaned_up : Decoder :=
  { main := []
    videoFd := 7
    displayThread := some ⟨true, .terminated, false, 1⟩ }

theorem decoder_released_seven :
    exec step (Decoder.launched .H265 all_answers) (display_turns ++ cleanup_turns) =
        some cleaned_up ∧
      cleaned_up.device = false ∧ cleaned_up.codec = false := by
  have hexec : exec step (Decoder.launched .H265 all_answers) (display_turns ++ cleanup_turns) =
      some cleaned_up := by
    decide
  obtain ⟨-, hcodec, hdevice, -, -⟩ := (decoder_released hexec).2.1 rfl
  exact ⟨hexec, hdevice, hcodec⟩

/- Without a thread the clean-up joins one that does not exist. -/
example : (exec step (Decoder.launched .H264 { all_answers with pthread_create := false })
    (List.replicate 9 .main)).map (fun s => (s.main, s.undefined)) = some ([], true) := by
  decide

theorem aml_cleanup_returns_seven : ∃ s,
    exec step (Decoder.launched .H265 all_answers) display_turns = some s ∧
      cleanup_turns.length ≤ s.turns_left := by
  obtain ⟨s, hexec⟩ : ∃ s, exec step (Decoder.launched .H265 all_answers) display_turns = some s :=
    Option.isSome_iff_exists.mp (by decide)
  have hmain : (exec step (Decoder.launched .H265 all_answers) display_turns).map (·.main) =
      some [.pthread_join, .close_video, .codec_close, .free_pkt_buf] := by
    decide
  rw [hexec, Option.map_some, Option.some.injEq] at hmain
  have hmore : exec step s cleanup_turns = some cleaned_up := by
    have hrun := exec_append step (Decoder.launched .H265 all_answers) display_turns cleanup_turns
    rw [hexec, Option.bind_some] at hrun
    rw [← hrun]
    decide
  exact ⟨s, hexec, (aml_cleanup_returns hexec (by simp [hmain]) hmore).1⟩

end Decoder

end amldigitalfpv.aml
