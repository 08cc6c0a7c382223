import AMLDigitalFPV.GstRtpReceiver.ReadSocket

open Transition

namespace amldigitalfpv.read_socket

/-- An action that needs the buffer mapped. -/
inductive Use (buffer : Nat) : Action → Prop where
  | recv : Use buffer (.recv buffer)
  | read : Use buffer (.read buffer)
  | audio_cb (payload : Bytes) : Use buffer (.audio_cb payload)

/-- What becomes of a buffer: it is acquired, mapped and used, unmapped, and at
last unreferenced or pushed. -/
inductive Cycle (buffer : Nat) : List Action → Prop where
  | unmapped : Cycle buffer [.acquire buffer, .unref buffer]
  | dropped {uses : List Action} (huses : ∀ action ∈ uses, Use buffer action) :
    Cycle buffer ([.acquire buffer, .map buffer] ++ uses ++ [.unmap buffer, .unref buffer])
  | pushed {uses : List Action} {size : Nat} {data : Bytes}
    (huses : ∀ action ∈ uses, Use buffer action) :
    Cycle buffer ([.acquire buffer, .map buffer] ++ uses ++
      [.unmap buffer, .resize buffer size, .push buffer data])

/-- The trace consists of the cycles of the buffers in the order in which they
are acquired, with the last one perhaps cut short. -/
def Cycles (trace opened : List Action) : Prop :=
  ∃ cycles : List (List Action), trace = cycles.flatten ++ opened ∧
    (∀ buffer (hbuffer : buffer < cycles.length), Cycle buffer cycles[buffer]) ∧
      (opened = [] ∨ ∃ rest, rest ≠ [] ∧ Cycle cycles.length (opened ++ rest))

/-- The loop disposes of every buffer once before it acquires another or ends,
and uses it only while it is mapped. -/
structure DisposesBuffers (video_pt : UInt8) (events : List Event) : Prop where
  cycles : ∀ pre self, pre <+: events → exec Reader.step (.start video_pt) pre = some self →
    ∃ opened, Cycles (Reader.trace (.start video_pt) pre) opened
  settled : ∀ pre self, pre <+: events → exec Reader.step (.start video_pt) pre = some self →
    self.stage = .acquiring ∨ self.stage = .testing ∨ self.stage = .ended →
      Cycles (Reader.trace (.start video_pt) pre) []

/-- What has been done with the buffer that the loop holds. -/
inductive Opened (buffer : Nat) : Stage → List Action → Prop where
  | testing : Opened buffer .testing []
  | selecting : Opened buffer .selecting []
  | acquiring : Opened buffer .acquiring []
  | ended : Opened buffer .ended []
  | mapping : Opened buffer (.mapping buffer) [.acquire buffer]
  | receiving : Opened buffer (.receiving buffer) [.acquire buffer, .map buffer]
  | calling {uses : List Action} (datagram : Bytes) (huses : ∀ action ∈ uses, Use buffer action) :
    Opened buffer (.calling buffer datagram) ([.acquire buffer, .map buffer] ++ uses)
  | unmapping {uses : List Action} (huses : ∀ action ∈ uses, Use buffer action) :
    Opened buffer (.unmapping buffer) ([.acquire buffer, .map buffer] ++ uses)
  | unmapping_video {uses : List Action} (datagram : Bytes)
    (huses : ∀ action ∈ uses, Use buffer action) :
    Opened buffer (.unmapping_video buffer datagram) ([.acquire buffer, .map buffer] ++ uses)
  | unreferencing_unmapped : Opened buffer (.unreferencing buffer) [.acquire buffer]
  | unreferencing {uses : List Action} (huses : ∀ action ∈ uses, Use buffer action) :
    Opened buffer (.unreferencing buffer)
      ([.acquire buffer, .map buffer] ++ uses ++ [.unmap buffer])
  | resizing {uses : List Action} (datagram : Bytes)
    (huses : ∀ action ∈ uses, Use buffer action) :
    Opened buffer (.resizing buffer datagram)
      ([.acquire buffer, .map buffer] ++ uses ++ [.unmap buffer])
  | pushing {uses : List Action} {size : Nat} (datagram : Bytes)
    (huses : ∀ action ∈ uses, Use buffer action) :
    Opened buffer (.pushing buffer datagram)
      ([.acquire buffer, .map buffer] ++ uses ++ [.unmap buffer, .resize buffer size])

/-- A cycle can be completed from every stage. -/
theorem Opened.completes {buffer : Nat} {stage : Stage} {opened : List Action}
    (h : Opened buffer stage opened) (hopened : opened ≠ []) :
    ∃ rest, rest ≠ [] ∧ Cycle buffer (opened ++ rest) := by
  cases h with
  | testing | selecting | acquiring | ended => exact absurd rfl hopened
  | mapping | unreferencing_unmapped =>
    exact ⟨[.unref buffer], by simp, .unmapped⟩
  | receiving =>
    have huses : ∀ action ∈ ([] : List Action), Use buffer action := by simp
    exact ⟨[.unmap buffer, .unref buffer], by simp, by simpa using Cycle.dropped huses⟩
  | calling _ huses | unmapping huses | unmapping_video _ huses =>
    exact ⟨[.unmap buffer, .unref buffer], by simp, .dropped huses⟩
  | unreferencing huses | resizing _ huses =>
    exact ⟨[.unref buffer], by simp, by simpa using Cycle.dropped huses⟩
  | pushing _ huses =>
    exact ⟨[.push buffer []], by simp, by simpa using Cycle.pushed huses⟩

/-- The loop stands after `opened`, of the buffer that has the given number. -/
structure Holding (self : Reader) (buffer : Nat) (opened : List Action) : Prop where
  stage : Opened buffer self.stage opened
  acquired : self.acquired = if opened = [] then buffer else buffer + 1

/-- Whatever `recv` answers, it has used the buffer and leaves it mapped. -/
theorem Holding.recv {self : Reader} {buffer : Nat} {opened : List Action}
    (h : Holding self buffer opened) (hstage : self.stage = .receiving buffer)
    (datagram : Option Bytes) :
    Holding (self.recv buffer datagram).2 buffer (opened ++ (self.recv buffer datagram).1) := by
  obtain ⟨hopened, hacquired⟩ := h
  rw [hstage] at hopened
  cases hopened
  have hrecv : ∀ action ∈ [Action.recv buffer], Use buffer action := by simp [Use.recv]
  have hread : ∀ action ∈ [Action.recv buffer, Action.read buffer], Use buffer action := by
    simp [Use.recv, Use.read]
  cases datagram with
  | none => exact ⟨.unmapping hrecv, hacquired⟩
  | some datagram =>
    simp only [Reader.recv]
    split
    · exact ⟨.unmapping hrecv, hacquired⟩
    · split
      · exact ⟨.unmapping hrecv, hacquired⟩
      · refine ⟨?_, hacquired⟩
        simp only [Reader.goto]
        split
        · split
          · exact .calling datagram hread
          · exact .unmapping hread
        · exact .unmapping_video datagram hread

/-- A step goes on with the cycle of the buffer or completes it. -/
theorem Holding.moves {self after : Reader} {event : Event} {buffer : Nat}
    {opened acts : List Action} (h : Holding self buffer opened)
    (hmoves : Reader.Moves self event acts after) :
    Holding after buffer (opened ++ acts) ∨
      (Cycle buffer (opened ++ acts) ∧ Holding after (buffer + 1) []) := by
  obtain ⟨hopened, hacquired⟩ := h
  cases hmoves with
  | stop_receiving | set_audio_payload_callback =>
    exact .inl ⟨by simpa using hopened, by simpa using hacquired⟩
  | stopped hstage =>
    rw [hstage] at hopened
    cases hopened
    exact .inl ⟨.ended, hacquired⟩
  | continued hstage =>
    rw [hstage] at hopened
    cases hopened
    exact .inl ⟨.selecting, hacquired⟩
  | unready hstage =>
    rw [hstage] at hopened
    cases hopened
    exact .inl ⟨.testing, hacquired⟩
  | ready hstage =>
    rw [hstage] at hopened
    cases hopened
    exact .inl ⟨.acquiring, hacquired⟩
  | acquired hstage =>
    rw [hstage] at hopened
    cases hopened
    rw [if_pos rfl] at hacquired
    cases hacquired
    exact .inl ⟨.mapping, rfl⟩
  | exhausted hstage =>
    rw [hstage] at hopened
    cases hopened
    exact .inl ⟨.testing, hacquired⟩
  | mapped hstage =>
    rw [hstage] at hopened
    cases hopened
    exact .inl ⟨.receiving, hacquired⟩
  | unmapped hstage =>
    rw [hstage] at hopened
    cases hopened
    exact .inl ⟨.unreferencing_unmapped, hacquired⟩
  | recv hstage datagram =>
    have hreceiving := hstage ▸ hopened
    cases hreceiving
    exact .inl (Holding.recv ⟨hopened, hacquired⟩ hstage datagram)
  | called hstage =>
    rw [hstage] at hopened
    cases hopened with
    | calling _ huses =>
      rw [List.append_assoc]
      refine .inl ⟨.unmapping ?_, hacquired⟩
      simpa [or_imp, forall_and, Use.read, Use.audio_cb] using huses
  | unmap hstage =>
    rw [hstage] at hopened
    cases hopened with
    | unmapping huses => exact .inl ⟨.unreferencing huses, hacquired⟩
  | unref hstage =>
    rw [hstage] at hopened
    cases hopened with
    | unreferencing_unmapped => exact .inr ⟨.unmapped, .testing, hacquired⟩
    | unreferencing huses =>
      rw [List.append_assoc]
      exact .inr ⟨.dropped huses, .testing, hacquired⟩
  | unmap_video hstage =>
    rw [hstage] at hopened
    cases hopened with
    | unmapping_video _ huses => exact .inl ⟨.resizing _ huses, hacquired⟩
  | resize hstage =>
    rw [hstage] at hopened
    cases hopened with
    | resizing _ huses =>
      rw [List.append_assoc]
      exact .inl ⟨.pushing _ huses, hacquired⟩
  | pushed hstage =>
    rw [hstage] at hopened
    cases hopened with
    | pushing _ huses =>
      rw [List.append_assoc]
      exact .inr ⟨.pushed huses, .testing, hacquired⟩
  | refused hstage =>
    rw [hstage] at hopened
    cases hopened with
    | pushing _ huses =>
      rw [List.append_assoc]
      exact .inr ⟨.pushed huses, .ended, hacquired⟩

/-- The trace so far, split where the loop has let go of a buffer. -/
def Recorded (self : Reader) (trace : List Action) : Prop :=
  ∃ (cycles : List (List Action)) (opened : List Action), trace = cycles.flatten ++ opened ∧
    (∀ buffer (hbuffer : buffer < cycles.length), Cycle buffer cycles[buffer]) ∧
      Holding self cycles.length opened

theorem Recorded.moves {self after : Reader} {event : Event} {trace acts : List Action}
    (h : Recorded self trace) (hmoves : Reader.Moves self event acts after) :
    Recorded after (trace ++ acts) := by
  obtain ⟨cycles, opened, rfl, hcycles, hholding⟩ := h
  obtain hopened | ⟨hcycle, hholding⟩ := hholding.moves hmoves
  · exact ⟨cycles, opened ++ acts, by simp, hcycles, hopened⟩
  · refine ⟨cycles ++ [opened ++ acts], [], by simp, ?_, by simpa using hholding⟩
    intro buffer hbuffer
    by_cases hlast : buffer < cycles.length
    · rw [List.getElem_append_left hlast]
      exact hcycles buffer hlast
    · simp only [List.length_append, List.length_singleton] at hbuffer
      obtain rfl : buffer = cycles.length := by omega
      simpa using hcycle

theorem Recorded.run {video_pt : UInt8} {self : Reader} {events : List Event}
    (hexec : exec Reader.step (.start video_pt) events = some self) :
    Recorded self (Reader.trace (.start video_pt) events) := by
  induction events using List.reverseRecOn generalizing self with
  | nil =>
    cases hexec
    exact ⟨[], [], rfl, by simp, .testing, rfl⟩
  | append_singleton events event ih =>
    obtain ⟨before, hbefore, hstep⟩ := exec_concat_eq_some_iff.mp hexec
    rw [Reader.trace_concat hbefore hstep]
    exact (ih hbefore).moves (Reader.moves_of_step hstep)

/-- Whatever the calls answer and whenever the loop is told to stop, it disposes
of each buffer once. -/
theorem disposes_buffers (video_pt : UInt8) (events : List Event) :
    DisposesBuffers video_pt events := by
  constructor
  · intro pre self _ hexec
    obtain ⟨cycles, opened, htrace, hcycles, hopened, -⟩ := Recorded.run hexec
    refine ⟨opened, cycles, htrace, hcycles, ?_⟩
    by_cases hnone : opened = []
    · exact .inl hnone
    · exact .inr (hopened.completes hnone)
  · intro pre self _ hexec hstage
    obtain ⟨cycles, opened, htrace, hcycles, hopened, -⟩ := Recorded.run hexec
    have hnone : opened = [] := by
      obtain hstage | hstage | hstage := hstage <;> rw [hstage] at hopened <;> cases hopened <;> rfl
    exact ⟨cycles, by rw [htrace, hnone], hcycles, .inl rfl⟩

end amldigitalfpv.read_socket
