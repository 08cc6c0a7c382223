import AMLDigitalFPV.AudioReceiver.Queue
import AMLDigitalFPV.GstRtpReceiver.Forwarding
import AMLDigitalFPV.Library.Rtp

open Conservation Transition
open amldigitalfpv.dvr_recorder (VideoCodec)

namespace amldigitalfpv.read_socket

/-- The vectors that a step passes to the audio callback. -/
def passed (self : Reader) (event : Event) : List Bytes :=
  (self.actions event).filterMap fun
    | .audio_cb payload => some payload
    | _ => none

/-- What the decoder is to be given of an RTP packet. -/
def decodable (datagram : Bytes) : List Bytes :=
  if Rtp.payload datagram = [] then [] else [Rtp.payload datagram]

/-- The datagram is an RTP packet that a buffer of the pool holds whole. -/
structure Receivable (datagram : Bytes) : Prop extends Rtp.WellFormed datagram where
  fits : datagram.length ≤ MAX_PACKET_SIZE

/-- The callback is called once for every audio datagram with more than a header,
in order, and given the payload of each; `play_loop` dequeues nothing else, and
decodes what it dequeues. -/
structure DecodesPayloads (m_video_codec : VideoCodec) (events : List Event) : Prop where
  payload : ∀ before event after,
    Takes Reader.step (.start (video_pt m_video_codec)) events before event after →
      ∀ datagram, .audio datagram ∈ completed before event → Receivable datagram →
        passed before event = decodable datagram
  routed : ∀ pre self, pre <+: events →
    exec Reader.step (.start (video_pt m_video_codec)) pre = some self →
      self.audio_cb = true → ∀ datagram, payload_type datagram = 98 →
        self.route datagram = if datagram.length ≤ RTP_HEADER_LEN then [] else [.audio datagram]
  nothing_else : ∀ before event after,
    Takes Reader.step (.start (video_pt m_video_codec)) events before event after →
      (∀ datagram, .audio datagram ∉ completed before event) → passed before event = []
  once : ∀ pre self, pre <+: events →
    exec Reader.step (.start (video_pt m_video_codec)) pre = some self →
      self.stage = .testing ∨ self.stage = .ended →
        flow completed (taken Reader.step (.start (video_pt m_video_codec)) pre) =
          flow received (taken Reader.step (.start (video_pt m_video_codec)) pre)
  decoded : ∀ pre self calls w, pre <+: events →
    exec Reader.step (.start (video_pt m_video_codec)) pre = some self →
      exec audio_receiver.step {} calls = some w →
        (flow audio_receiver.offered (taken audio_receiver.step {} calls)).Sublist
          (flow passed (taken Reader.step (.start (video_pt m_video_codec)) pre)) →
        w.dequeued.Sublist
          (flow passed (taken Reader.step (.start (video_pt m_video_codec)) pre)) ∧
            [] ∉ w.dequeued

/-- An audio packet that reaches the callback has no CSRC list, no extension and
no padding. -/
def PassesPlain (before : Reader) (event : Event) : Prop :=
  ∀ datagram, .audio datagram ∈ completed before event → Receivable datagram → Rtp.Plain datagram

def Forward.payload : Forward → Option Bytes
  | .push _ => none
  | .audio_cb payload => some payload

/-- The callback gets what the buffer holds after the fixed header. -/
theorem passed_eq {before after : Reader} {event : Event} (hstep : before.step event = some after) :
    passed before event =
      (completed before event).filterMap fun routed =>
        (routed.forward recv_data).payload := by
  have hpassed : passed before event = (forwarded before event).filterMap Forward.payload := by
    rw [passed, forwarded, List.filterMap_filterMap]
    congr 1
    funext action
    cases action <;> rfl
  rw [hpassed, forwarded_eq hstep, List.filterMap_map]
  rfl

/-- The fixed header is not all of a datagram that reaches the callback. -/
theorem length_of_completed {video_pt : UInt8} {events : List Event} {before after : Reader}
    {event : Event} {datagram : Bytes}
    (htakes : Takes Reader.step (.start video_pt) events before event after)
    (hmem : .audio datagram ∈ completed before event) : RTP_HEADER_LEN < datagram.length := by
  obtain ⟨pre, post, rfl, hbefore, hstep⟩ := htakes
  have hexec : exec Reader.step (.start video_pt) (pre ++ [event]) = some after :=
    exec_concat_eq_some_iff.mpr ⟨before, hbefore, hstep⟩
  have hcompleted : Routed.audio datagram ∈
      flow completed (taken Reader.step (.start video_pt) (pre ++ [event])) := by
    rw [flow_concat completed hbefore hstep]
    exact List.mem_append_right _ hmem
  obtain ⟨⟨self, received_by⟩, -, hreceived⟩ :=
    List.mem_flatMap.mp ((step_conserves.run_prefix rfl hexec).mem hcompleted)
  unfold received at hreceived
  split at hreceived
  · unfold Reader.route at hreceived
    split at hreceived
    · simp at hreceived
    · next hheader =>
      split at hreceived
      · simp at hreceived
      · split at hreceived
        · rw [Routed.audio.inj (List.mem_singleton.mp hreceived)]
          omega
        · simp at hreceived
  · simp at hreceived

/-- The callback gets the payload of the plain packets only. -/
theorem passed_eq_decodable_iff {before after : Reader} {event : Event} {datagram : Bytes}
    (hstep : before.step event = some after) (hmem : .audio datagram ∈ completed before event)
    (hlength : RTP_HEADER_LEN < datagram.length) (hreceivable : Receivable datagram) :
    passed before event = decodable datagram ↔ Rtp.Plain datagram := by
  have hcompleted : completed before event = [.audio datagram] := by
    unfold completed at hmem ⊢
    split at hmem <;> simp_all
  have hwhole : recv_data datagram = datagram := (recv_data_eq_iff datagram).mpr hreceivable.fits
  have hpassed : passed before event = [datagram.drop 12] := by
    rw [passed_eq hstep, hcompleted]
    simp [Routed.forward, Forward.payload, hwhole, RTP_HEADER_LEN]
  have hne : datagram.drop 12 ≠ [] := by
    rw [ne_eq, List.drop_eq_nil_iff]
    exact Nat.not_le_of_lt hlength
  rw [hpassed, ← Rtp.drop_eq_payload_iff hreceivable.toWellFormed, decodable]
  split
  · next hempty => simp [hempty, hne]
  · simp

theorem exec_video_pt {video_pt : UInt8} {events : List Event} {self : Reader}
    (hexec : exec Reader.step (.start video_pt) events = some self) :
    self.video_pt = video_pt := by
  have hreaches : Reaches Reader.step (.start video_pt) events self :=
    ⟨events, List.prefix_refl _, hexec⟩
  refine hreaches.invariant (P := fun self => self.video_pt = video_pt) rfl ?_
  intro before event after htakes hbefore
  rw [Reader.step_video_pt htakes.step_eq, hbefore]

theorem video_pt_ne (m_video_codec : VideoCodec) : video_pt m_video_codec ≠ 98 := by
  unfold video_pt
  split <;> simp

theorem not_mem_offered {events : List audio_receiver.Event} {w : audio_receiver.World} :
    [] ∉ flow audio_receiver.offered (taken audio_receiver.step w events) := by
  intro hmem
  obtain ⟨⟨state, event⟩, -, hoffered⟩ := List.mem_flatMap.mp hmem
  unfold audio_receiver.offered at hoffered
  split at hoffered
  · split at hoffered
    · simp at hoffered
    · next hne => exact hne (List.mem_singleton.mp hoffered).symm
  · simp at hoffered

/-- The decoder is given exactly the payloads in the runs in which the callback
only gets to see plain packets. -/
theorem decodes_payloads_iff (m_video_codec : VideoCodec) (events : List Event) :
    DecodesPayloads m_video_codec events ↔
      ∀ before event after,
        Takes Reader.step (.start (video_pt m_video_codec)) events before event after →
          PassesPlain before event := by
  constructor
  · intro h before event after htakes datagram hmem hreceivable
    have hlength := length_of_completed htakes hmem
    exact (passed_eq_decodable_iff htakes.step_eq hmem hlength hreceivable).mp
      (h.payload before event after htakes datagram hmem hreceivable)
  · intro hplain
    constructor
    · intro before event after htakes datagram hmem hreceivable
      have hlength := length_of_completed htakes hmem
      exact (passed_eq_decodable_iff htakes.step_eq hmem hlength hreceivable).mpr
        (hplain before event after htakes datagram hmem hreceivable)
    · intro pre self _ hexec hcallback datagram hpt
      have hvideo := video_pt_ne m_video_codec
      rw [← exec_video_pt hexec] at hvideo
      simp [Reader.route, hpt, hvideo.symm, hcallback]
    · intro before event after htakes hnone
      rw [passed_eq htakes.step_eq, List.filterMap_eq_nil_iff]
      intro routed hmem
      cases routed with
      | video datagram => rfl
      | audio datagram => exact absurd hmem (hnone datagram)
    · exact fun pre self _ hexec hstage => (received_eq_completed hexec hstage).symm
    · intro pre self calls w _ _ hcalls hsublist
      have hdequeued : w.dequeued.Sublist
          (flow audio_receiver.offered (taken audio_receiver.step {} calls)) :=
        (List.sublist_append_left _ _).trans (audio_receiver.packets_sublist hcalls)
      exact ⟨hdequeued.trans hsublist, fun hmem => not_mem_offered (hdequeued.mem hmem)⟩

/-- A packet with one CSRC and a payload of a single octet. -/
def mixed_packet : Bytes := [0x81, 98, 0, 1, 0, 0, 0, 0, 0, 0, 0, 1, 1, 2, 3, 4, 9]

theorem mixed_packet_receivable : Receivable mixed_packet :=
  ⟨⟨by decide, by decide, by decide, by decide, by decide⟩, by decide⟩

theorem decodes_csrc_list :
    ¬ DecodesPayloads .H265 [.set_audio_payload_callback true, .loop_test, .select 1,
      .acquire_buffer true, .map true, .recv (some mixed_packet), .advance] := by
  intro h
  have hpassed := h.payload
    { Reader.start 97 with audio_cb := true, stage := .calling 0 mixed_packet, acquired := 1 }
    .advance _ ⟨[.set_audio_payload_callback true, .loop_test, .select 1, .acquire_buffer true,
      .map true, .recv (some mixed_packet)], [], rfl, rfl, rfl⟩ mixed_packet
    (List.mem_singleton_self _) mixed_packet_receivable
  revert hpassed
  decide

end amldigitalfpv.read_socket
