import AMLDigitalFPV.DvrRecorder.State
import AMLDigitalFPV.Library.Conservation

open Conservation Transition
open amldigitalfpv.dvr_recorder (VideoCodec)

namespace amldigitalfpv.read_socket

def MAX_PACKET_SIZE : Nat := 4096

def RTP_HEADER_LEN : Nat := 12

abbrev Bytes := List UInt8

/-- The payload type that `start_receiving` has the reader forward. -/
def video_pt (m_video_codec : VideoCodec) : UInt8 :=
  if m_video_codec = .H264 then 96 else 97

/-- What `recv` stores of a datagram in a buffer of the pool. The rest of the
datagram is lost. -/
def recv_data (datagram : Bytes) : Bytes := datagram.take MAX_PACKET_SIZE

def payload_type (data : Bytes) : UInt8 := data.getD 1 0 &&& 0x7f

/-- Where `loop_read_socket` stands. Past `recv` a stage names the datagram whose
first bytes the buffer holds. -/
inductive Stage where
  | testing
  | selecting
  | acquiring
  | mapping (buffer : Nat)
  | receiving (buffer : Nat)
  | calling (buffer : Nat) (datagram : Bytes)
  | unmapping (buffer : Nat)
  | unreferencing (buffer : Nat)
  | unmapping_video (buffer : Nat) (datagram : Bytes)
  | resizing (buffer : Nat) (datagram : Bytes)
  | pushing (buffer : Nat) (datagram : Bytes)
  | ended
deriving DecidableEq, Repr

/-- The arguments of `loop_read_socket`, and how many buffers it has acquired.
Each acquired buffer has the next number for a name. -/
structure Reader where
  keep_looping : Bool
  video_pt : UInt8
  audio_cb : Bool
  stage : Stage
  acquired : Nat
deriving DecidableEq, Repr

/-- A step of the loop with the answer of what it calls, or another thread
setting `m_read_socket_run` or `m_audio_cb`. No datagram stands for an error. -/
inductive Event where
  | stop_receiving
  | set_audio_payload_callback (present : Bool)
  | loop_test
  | select (ready : Int)
  | acquire_buffer (acquired : Bool)
  | map (mapped : Bool)
  | recv (datagram : Option Bytes)
  | advance
  | push_buffer (ok : Bool)
deriving DecidableEq, Repr

/-- What the loop does with a buffer, and the payloads it passes on. -/
inductive Action where
  | acquire (buffer : Nat)
  | map (buffer : Nat)
  | recv (buffer : Nat)
  | read (buffer : Nat)
  | audio_cb (payload : Bytes)
  | unmap (buffer : Nat)
  | unref (buffer : Nat)
  | resize (buffer : Nat) (size : Nat)
  | push (buffer : Nat) (data : Bytes)
deriving DecidableEq, Repr

namespace Reader

def start (video_pt : UInt8) : Reader :=
  { keep_looping := true, video_pt := video_pt, audio_cb := false, stage := .testing,
    acquired := 0 }

def goto (self : Reader) (stage : Stage) : Reader := { self with stage := stage }

/-- From `recv` to the branch that its answer selects. -/
def recv (self : Reader) (buffer : Nat) (datagram : Option Bytes) : List Action × Reader :=
  match datagram with
  | none => ([.recv buffer], self.goto (.unmapping buffer))
  | some datagram =>
    let data := recv_data datagram
    let n := data.length
    if n ≤ 0 then
      ([.recv buffer], self.goto (.unmapping buffer))
    else if n ≤ RTP_HEADER_LEN then
      ([.recv buffer], self.goto (.unmapping buffer))
    else
      let pt := payload_type data
      let next : Stage :=
        if pt ≠ self.video_pt then
          if pt = 98 ∧ self.audio_cb = true then .calling buffer datagram else .unmapping buffer
        else
          .unmapping_video buffer datagram
      ([.recv buffer, .read buffer], self.goto next)

/-- A step with the actions it takes. -/
def act (self : Reader) (event : Event) : Option (List Action × Reader) :=
  match self.stage, event with
  | _, .stop_receiving => some ([], { self with keep_looping := false })
  | _, .set_audio_payload_callback present => some ([], { self with audio_cb := present })
  | .testing, .loop_test => some ([], self.goto (if self.keep_looping then .selecting else .ended))
  | .selecting, .select ready => some ([], self.goto (if ready ≤ 0 then .testing else .acquiring))
  | .acquiring, .acquire_buffer acquired =>
    if acquired then
      some ([.acquire self.acquired],
        { self with stage := .mapping self.acquired, acquired := self.acquired + 1 })
    else
      some ([], self.goto .testing)
  | .mapping buffer, .map mapped =>
    if mapped then
      some ([.map buffer], self.goto (.receiving buffer))
    else
      some ([], self.goto (.unreferencing buffer))
  | .receiving buffer, .recv datagram => some (self.recv buffer datagram)
  | .calling buffer datagram, .advance =>
    some ([.read buffer, .audio_cb ((recv_data datagram).drop RTP_HEADER_LEN)],
      self.goto (.unmapping buffer))
  | .unmapping buffer, .advance => some ([.unmap buffer], self.goto (.unreferencing buffer))
  | .unreferencing buffer, .advance => some ([.unref buffer], self.goto .testing)
  | .unmapping_video buffer datagram, .advance =>
    some ([.unmap buffer], self.goto (.resizing buffer datagram))
  | .resizing buffer datagram, .advance =>
    some ([.resize buffer (recv_data datagram).length], self.goto (.pushing buffer datagram))
  | .pushing buffer datagram, .push_buffer ok =>
    some ([.push buffer (recv_data datagram)], self.goto (if ok then .testing else .ended))
  | _, _ => none

def step (self : Reader) (event : Event) : Option Reader :=
  (self.act event).map Prod.snd

def actions (self : Reader) (event : Event) : List Action :=
  ((self.act event).map Prod.fst).getD []

/-- The actions of a run, in order. -/
def trace (self : Reader) (events : List Event) : List Action :=
  flow actions (taken step self events)

/-- What a step can be, with the stage it starts from. -/
inductive Moves (self : Reader) : Event → List Action → Reader → Prop where
  | stop_receiving : Moves self .stop_receiving [] { self with keep_looping := false }
  | set_audio_payload_callback {present : Bool} :
    Moves self (.set_audio_payload_callback present) [] { self with audio_cb := present }
  | stopped (hstage : self.stage = .testing) : Moves self .loop_test [] (self.goto .ended)
  | continued (hstage : self.stage = .testing) : Moves self .loop_test [] (self.goto .selecting)
  | unready {ready : Int} (hstage : self.stage = .selecting) :
    Moves self (.select ready) [] (self.goto .testing)
  | ready {ready : Int} (hstage : self.stage = .selecting) :
    Moves self (.select ready) [] (self.goto .acquiring)
  | acquired (hstage : self.stage = .acquiring) :
    Moves self (.acquire_buffer true) [.acquire self.acquired]
      { self with stage := .mapping self.acquired, acquired := self.acquired + 1 }
  | exhausted (hstage : self.stage = .acquiring) :
    Moves self (.acquire_buffer false) [] (self.goto .testing)
  | mapped {buffer : Nat} (hstage : self.stage = .mapping buffer) :
    Moves self (.map true) [.map buffer] (self.goto (.receiving buffer))
  | unmapped {buffer : Nat} (hstage : self.stage = .mapping buffer) :
    Moves self (.map false) [] (self.goto (.unreferencing buffer))
  | recv {buffer : Nat} (hstage : self.stage = .receiving buffer) (datagram : Option Bytes) :
    Moves self (.recv datagram) (self.recv buffer datagram).1 (self.recv buffer datagram).2
  | called {buffer : Nat} {datagram : Bytes} (hstage : self.stage = .calling buffer datagram) :
    Moves self .advance [.read buffer, .audio_cb ((recv_data datagram).drop RTP_HEADER_LEN)]
      (self.goto (.unmapping buffer))
  | unmap {buffer : Nat} (hstage : self.stage = .unmapping buffer) :
    Moves self .advance [.unmap buffer] (self.goto (.unreferencing buffer))
  | unref {buffer : Nat} (hstage : self.stage = .unreferencing buffer) :
    Moves self .advance [.unref buffer] (self.goto .testing)
  | unmap_video {buffer : Nat} {datagram : Bytes}
    (hstage : self.stage = .unmapping_video buffer datagram) :
    Moves self .advance [.unmap buffer] (self.goto (.resizing buffer datagram))
  | resize {buffer : Nat} {datagram : Bytes} (hstage : self.stage = .resizing buffer datagram) :
    Moves self .advance [.resize buffer (recv_data datagram).length]
      (self.goto (.pushing buffer datagram))
  | pushed {buffer : Nat} {datagram : Bytes} (hstage : self.stage = .pushing buffer datagram) :
    Moves self (.push_buffer true) [.push buffer (recv_data datagram)] (self.goto .testing)
  | refused {buffer : Nat} {datagram : Bytes} (hstage : self.stage = .pushing buffer datagram) :
    Moves self (.push_buffer false) [.push buffer (recv_data datagram)] (self.goto .ended)

theorem moves_of_act {self after : Reader} {event : Event} {acts : List Action}
    (hact : self.act event = some (acts, after)) : Moves self event acts after := by
  unfold act at hact
  split at hact
  · cases hact
    exact .stop_receiving
  · cases hact
    exact .set_audio_payload_callback
  · next hstage =>
    cases hact
    split
    · exact .continued hstage
    · exact .stopped hstage
  · next hstage =>
    cases hact
    split
    · exact .unready hstage
    · exact .ready hstage
  · next acquired hstage =>
    cases acquired <;> cases hact
    · exact .exhausted hstage
    · exact .acquired hstage
  · next mapped hstage =>
    cases mapped <;> cases hact
    · exact .unmapped hstage
    · exact .mapped hstage
  · next buffer datagram hstage =>
    have hmoves := Moves.recv hstage datagram
    rwa [Option.some.inj hact] at hmoves
  · next hstage =>
    cases hact
    exact .called hstage
  · next hstage =>
    cases hact
    exact .unmap hstage
  · next hstage =>
    cases hact
    exact .unref hstage
  · next hstage =>
    cases hact
    exact .unmap_video hstage
  · next hstage =>
    cases hact
    exact .resize hstage
  · next ok hstage =>
    cases ok <;> cases hact
    · exact .refused hstage
    · exact .pushed hstage
  · cases hact

theorem act_of_step {self after : Reader} {event : Event} (hstep : self.step event = some after) :
    self.act event = some (self.actions event, after) := by
  obtain ⟨⟨acted, next⟩, hact, heq⟩ := Option.map_eq_some_iff.mp hstep
  cases heq
  simp [actions, hact]

theorem moves_of_step {self after : Reader} {event : Event} (hstep : self.step event = some after) :
    Moves self event (self.actions event) after :=
  moves_of_act (act_of_step hstep)

theorem recv_eq_goto (self : Reader) (buffer : Nat) (datagram : Option Bytes) :
    ∃ stage, (self.recv buffer datagram).2 = self.goto stage := by
  cases datagram with
  | none => exact ⟨_, rfl⟩
  | some datagram =>
    simp only [recv]
    split
    · exact ⟨_, rfl⟩
    · split <;> exact ⟨_, rfl⟩

theorem step_video_pt {self after : Reader} {event : Event} (hstep : self.step event = some after) :
    after.video_pt = self.video_pt := by
  have hmoves := moves_of_step hstep
  generalize self.actions event = acts at hmoves
  cases hmoves with
  | @recv buffer _ datagram =>
    obtain ⟨stage, hstage⟩ := recv_eq_goto self buffer datagram
    rw [hstage, goto]
  | _ => rfl

theorem trace_concat {self before after : Reader} {events : List Event} {event : Event}
    (hexec : exec step self events = some before) (hstep : before.step event = some after) :
    self.trace (events ++ [event]) = self.trace events ++ before.actions event :=
  flow_concat actions hexec hstep

end Reader

end amldigitalfpv.read_socket
