import AMLDigitalFPV.GstRtpReceiver.ReadSocket

open Conservation Transition

namespace amldigitalfpv.read_socket

/-- Where a received datagram is to go. -/
inductive Routed where
  | video (datagram : Bytes)
  | audio (datagram : Bytes)
deriving DecidableEq, Repr

/-- Something that leaves the loop: a packet pushed to appsrc, or a payload
given to the audio callback. -/
inductive Forward where
  | push (packet : Bytes)
  | audio_cb (payload : Bytes)
deriving DecidableEq, Repr

/-- What is to become of a datagram: it is a packet of the video, or its payload
is for the callback, or it is of no interest. -/
def Reader.route (self : Reader) (datagram : Bytes) : List Routed :=
  if datagram.length ≤ RTP_HEADER_LEN then
    []
  else if payload_type datagram = self.video_pt then
    [.video datagram]
  else if payload_type datagram = 98 ∧ self.audio_cb = true then
    [.audio datagram]
  else
    []

/-- The datagram that a step receives, if it is to go anywhere. -/
def received (self : Reader) : Event → List Routed
  | .recv (some datagram) => self.route datagram
  | _ => []

/-- What leaves the loop at a step. -/
def forwarded (self : Reader) (event : Event) : List Forward :=
  (self.actions event).filterMap fun
    | .push _ data => some (.push data)
    | .audio_cb payload => some (.audio_cb payload)
    | _ => none

namespace Routed

def datagram : Routed → Bytes
  | video datagram => datagram
  | audio datagram => datagram

/-- What is to leave the loop, given what the buffer holds of the datagram. -/
def forward (content : Bytes → Bytes) : Routed → Forward
  | video datagram => .push (content datagram)
  | audio datagram => .audio_cb ((content datagram).drop RTP_HEADER_LEN)

end Routed

/-- The datagram whose forwarding a step carries out. -/
def completed (self : Reader) (event : Event) : List Routed :=
  match self.stage, event with
  | .calling _ datagram, .advance => [.audio datagram]
  | .pushing _ datagram, .push_buffer _ => [.video datagram]
  | _, _ => []

/-- Of what is received everything is forwarded, once, in order and whole. -/
structure ForwardsUnaltered (video_pt : UInt8) (events : List Event) : Prop where
  ordered : ∀ pre self, pre <+: events → exec Reader.step (.start video_pt) pre = some self →
    flow forwarded (taken Reader.step (.start video_pt) pre) <+:
      (flow received (taken Reader.step (.start video_pt) pre)).map (Routed.forward id)
  settled : ∀ pre self, pre <+: events → exec Reader.step (.start video_pt) pre = some self →
    self.stage = .testing ∨ self.stage = .ended →
      flow forwarded (taken Reader.step (.start video_pt) pre) =
        (flow received (taken Reader.step (.start video_pt) pre)).map (Routed.forward id)

/-- A datagram that is forwarded fits a buffer of the pool. -/
def Fits (before : Reader) (event : Event) : Prop :=
  ∀ routed ∈ completed before event, routed.datagram.length ≤ MAX_PACKET_SIZE

/-- What the loop is about to forward. -/
def Reader.in_hand (self : Reader) : List Routed :=
  match self.stage with
  | .calling _ datagram => [.audio datagram]
  | .unmapping_video _ datagram | .resizing _ datagram | .pushing _ datagram => [.video datagram]
  | _ => []

theorem length_recv_data (datagram : Bytes) :
    (recv_data datagram).length = min MAX_PACKET_SIZE datagram.length :=
  List.length_take

/-- The loop sees the length and the payload type of the datagram although it is
cut. -/
theorem length_recv_data_le_header {datagram : Bytes} :
    (recv_data datagram).length ≤ RTP_HEADER_LEN ↔ datagram.length ≤ RTP_HEADER_LEN := by
  rw [length_recv_data, MAX_PACKET_SIZE, RTP_HEADER_LEN]
  omega

theorem length_recv_data_pos {datagram : Bytes} (hheader : ¬ datagram.length ≤ RTP_HEADER_LEN) :
    ¬ (recv_data datagram).length ≤ 0 := by
  rw [length_recv_data, MAX_PACKET_SIZE]
  omega

theorem payload_type_recv_data (datagram : Bytes) :
    payload_type (recv_data datagram) = payload_type datagram := by
  simp [payload_type, recv_data, MAX_PACKET_SIZE]

/-- `recv` sets out to forward what is to be forwarded. -/
theorem recv_in_hand (self : Reader) (buffer : Nat) (datagram : Option Bytes) :
    (self.recv buffer datagram).2.in_hand = received self (.recv datagram) := by
  cases datagram with
  | none => rfl
  | some datagram =>
    simp only [Reader.recv, length_recv_data_le_header, payload_type_recv_data, received,
      Reader.route]
    by_cases hheader : datagram.length ≤ RTP_HEADER_LEN
    · simp only [if_pos hheader]
      split <;> rfl
    · simp only [if_neg hheader, if_neg (length_recv_data_pos hheader)]
      by_cases hvideo : payload_type datagram = self.video_pt
      · simp [hvideo, Reader.goto, Reader.in_hand]
      · by_cases haudio : payload_type datagram = 98 ∧ self.audio_cb = true
        · simp only [ne_eq, hvideo, not_false_eq_true, if_true, if_false, if_pos haudio]
          rfl
        · simp only [ne_eq, hvideo, not_false_eq_true, if_true, if_false, if_neg haudio]
          rfl

/-- The loop carries a datagram from `recv` to where it is forwarded. -/
theorem step_conserves : Conserves Reader.step Reader.in_hand received completed := by
  constructor
  intro before event after hstep
  have hmoves := Reader.moves_of_step hstep
  generalize before.actions event = acts at hmoves
  cases hmoves with
  | stop_receiving | set_audio_payload_callback => simp [Reader.in_hand, received, completed]
  | recv hstage datagram =>
    have hnothing : before.in_hand = [] := by simp [Reader.in_hand, hstage]
    simp [hnothing, recv_in_hand, completed, hstage]
  | stopped hstage | continued hstage | unready hstage | ready hstage | acquired hstage
  | exhausted hstage | mapped hstage | unmapped hstage | called hstage | unmap hstage
  | unref hstage | unmap_video hstage | resize hstage | pushed hstage | refused hstage =>
    simp [Reader.in_hand, received, completed, Reader.goto, hstage]

theorem recv_data_eq_iff (datagram : Bytes) :
    recv_data datagram = datagram ↔ datagram.length ≤ MAX_PACKET_SIZE :=
  List.take_eq_self_iff datagram

theorem recv_data_payload_iff (datagram : Bytes) :
    (recv_data datagram).drop RTP_HEADER_LEN = datagram.drop RTP_HEADER_LEN ↔
      datagram.length ≤ MAX_PACKET_SIZE := by
  constructor
  · intro heq
    have hlength := congrArg List.length heq
    simp only [List.length_drop, length_recv_data, MAX_PACKET_SIZE, RTP_HEADER_LEN] at hlength ⊢
    omega
  · intro hfits
    rw [(recv_data_eq_iff datagram).mpr hfits]

theorem recv_actions (self : Reader) (buffer : Nat) (datagram : Option Bytes) :
    (self.recv buffer datagram).1 = [.recv buffer] ∨
      (self.recv buffer datagram).1 = [.recv buffer, .read buffer] := by
  cases datagram with
  | none => exact .inl rfl
  | some datagram =>
    simp only [Reader.recv]
    split
    · exact .inl rfl
    · split
      · exact .inl rfl
      · exact .inr rfl

/-- What leaves the loop is what the buffer holds. -/
theorem forwarded_eq {before after : Reader} {event : Event}
    (hstep : before.step event = some after) :
    forwarded before event = (completed before event).map (Routed.forward recv_data) := by
  have hmoves := Reader.moves_of_step hstep
  rw [forwarded]
  generalize before.actions event = acts at hmoves ⊢
  cases hmoves with
  | stop_receiving | set_audio_payload_callback => simp [completed]
  | @recv buffer hstage datagram =>
    obtain hrecv | hrecv := recv_actions before buffer datagram <;>
      simp [hrecv, completed, hstage]
  | stopped hstage | continued hstage | unready hstage | ready hstage | acquired hstage
  | exhausted hstage | mapped hstage | unmapped hstage | unmap hstage | unref hstage
  | unmap_video hstage | resize hstage =>
    simp [completed, hstage]
  | called hstage | pushed hstage | refused hstage => simp [completed, Routed.forward, hstage]

/-- A step forwards what it is to forward exactly if the datagram fits. -/
theorem forward_eq_iff (self : Reader) (event : Event) :
    (completed self event).map (Routed.forward recv_data) =
        (completed self event).map (Routed.forward id) ↔ Fits self event := by
  unfold completed Fits completed
  split
  · simp [Routed.forward, Routed.datagram, recv_data_payload_iff]
  · simp [Routed.forward, Routed.datagram, recv_data_eq_iff]
  · simp

/-- What leaves the loop follows what is received as long as it fits, and no
longer. -/
theorem ordered_iff_fits (video_pt : UInt8) (events : List Event) :
    (∀ pre self, pre <+: events → exec Reader.step (.start video_pt) pre = some self →
      flow forwarded (taken Reader.step (.start video_pt) pre) <+:
        (flow received (taken Reader.step (.start video_pt) pre)).map (Routed.forward id)) ↔
      ∀ before event after, Takes Reader.step (.start video_pt) events before event after →
        Fits before event := by
  have hlength : ∀ {before event after}, Reader.step before event = some after →
      (forwarded before event).length =
        ((completed before event).map (Routed.forward id)).length := by
    intro before event after hstep
    rw [forwarded_eq hstep, List.length_map, List.length_map]
  have hmap := step_conserves.map (Routed.forward id)
  have hstart : (Reader.start video_pt).in_hand.map (Routed.forward id) = [] := rfl
  simp only [← flow_map, hmap.run_prefix_iff hstart hlength]
  apply forall_congr'
  intro before
  apply forall_congr'
  intro event
  apply forall_congr'
  intro after
  apply imp_congr_right
  intro htakes
  rw [forwarded_eq htakes.step_eq, forward_eq_iff]

theorem in_hand_of_settled {self : Reader} (h : self.stage = .testing ∨ self.stage = .ended) :
    self.in_hand = [] := by
  obtain h | h := h <;> simp [Reader.in_hand, h]

/-- Everything that is received is carried to where it is forwarded. -/
theorem received_eq_completed {video_pt : UInt8} {self : Reader} {events : List Event}
    (hexec : exec Reader.step (.start video_pt) events = some self)
    (hstage : self.stage = .testing ∨ self.stage = .ended) :
    flow received (taken Reader.step (.start video_pt) events) =
      flow completed (taken Reader.step (.start video_pt) events) := by
  have hrun := step_conserves.run hexec
  have hstart : (Reader.start video_pt).in_hand = [] := rfl
  rwa [hstart, in_hand_of_settled hstage, List.nil_append, List.append_nil] at hrun

/-- The loop forwards what it receives unaltered in exactly the runs in which it
forwards no datagram that is longer than the buffers of the pool. -/
theorem forwards_unaltered_iff (video_pt : UInt8) (events : List Event) :
    ForwardsUnaltered video_pt events ↔
      ∀ before event after, Takes Reader.step (.start video_pt) events before event after →
        Fits before event := by
  constructor
  · exact fun h => (ordered_iff_fits video_pt events).mp h.ordered
  · intro hfits
    refine ⟨(ordered_iff_fits video_pt events).mpr hfits, ?_⟩
    intro pre self hpre hexec hstage
    rw [received_eq_completed hexec hstage, ← flow_map]
    apply flow_congr _ hpre hexec
    intro before event after htakes
    rw [forwarded_eq htakes.step_eq, forward_eq_iff]
    exact hfits before event after htakes

/-- The first iteration of the loop brings a packet of the video up to its push. -/
theorem pushing_of_video (video_pt : UInt8) (datagram : Bytes)
    (hheader : ¬ datagram.length ≤ RTP_HEADER_LEN) (hvideo : payload_type datagram = video_pt) :
    exec Reader.step (.start video_pt) [.loop_test, .select 1, .acquire_buffer true, .map true,
      .recv (some datagram), .advance, .advance] =
      some { Reader.start video_pt with stage := .pushing 0 datagram, acquired := 1 } := by
  have hrecv : ∀ self : Reader, self.video_pt = video_pt →
      (self.recv 0 (some datagram)).2 = self.goto (.unmapping_video 0 datagram) := by
    intro self hself
    simp only [Reader.recv, if_neg (length_recv_data_pos hheader), length_recv_data_le_header,
      if_neg hheader, payload_type_recv_data, hvideo, hself]
    simp
  simp [exec, Reader.step, Reader.act, Reader.start, Reader.goto, hrecv]

theorem forwards_shortened :
    ¬ ForwardsUnaltered 97 [.loop_test, .select 1, .acquire_buffer true, .map true,
      .recv (some (List.replicate 4097 97)), .advance, .advance, .push_buffer true] := by
  intro h
  have hlength : (List.replicate 4097 (97 : UInt8)).length = 4097 := List.length_replicate
  have hexec := pushing_of_video 97 (List.replicate 4097 97)
    (by rw [hlength]; simp [RTP_HEADER_LEN]) rfl
  have hfits := (ordered_iff_fits 97 _).mp h.ordered _ (.push_buffer true) _
    ⟨_, [], rfl, hexec, rfl⟩
  have hle := hfits (.video (List.replicate 4097 97)) (List.mem_singleton_self _)
  rw [Routed.datagram, hlength, MAX_PACKET_SIZE] at hle
  omega

end amldigitalfpv.read_socket
