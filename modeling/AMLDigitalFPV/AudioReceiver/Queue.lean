import AMLDigitalFPV.AudioReceiver.Threads
import AMLDigitalFPV.Library.Backlog
import AMLDigitalFPV.Library.Conservation

open Backlog Conservation Transition

namespace amldigitalfpv.audio_receiver

/-- The payload that a call of `enqueue_payload` brings, if there is one. -/
def offered (_ : World) : Event → List Payload
  | .enqueue_payload (some payload) => if payload = [] then [] else [payload]
  | _ => []

/-- The payload that a step inserts into the queue. -/
def accepted (w : World) : Event → List Payload
  | .produce =>
    match w.producer with
    | .sized payload => [payload]
    | _ => []
  | _ => []

/-- The queue keeps to its bound, and every packet is accounted for: a call of
`enqueue_payload` under way has still to be counted. -/
structure AccountsForPackets (events : List Event) : Prop where
  bounded : ∀ pre w, pre <+: events → exec step {} pre = some w →
    w.self.queue_.length ≤ kMaxQueueDepth
  calls : ∀ pre w, pre <+: events → exec step {} pre = some w →
    (flow offered (taken step {} pre)).length =
      w.self.pkt_count_ + w.self.drop_count_ + if w.producer = .idle then 0 else 1
  packets : ∀ pre w, pre <+: events → exec step {} pre = some w →
    (w.self.pkt_count_ + if w.producer = .enqueued then 1 else 0) =
      w.dequeued.length + w.self.queue_.length
  order : ∀ pre w, pre <+: events → exec step {} pre = some w →
    w.dequeued ++ w.self.queue_ = flow accepted (taken step {} pre)

/-- Whether the socket reader, after an event, has made a call with a payload
whose next step is still to come. -/
def brings (pending : Bool) : Event → Bool
  | .enqueue_payload payload => payload.any (· ≠ [])
  | .produce => false
  | _ => pending

/-- What an event means to the queue, whatever it holds: with the step after
such a call a packet comes, and `play_loop` asks for one. -/
def moves (pending : Bool) : Event → List Move
  | .produce => if pending then [.arrive] else []
  | .wait_dequeue_timed => [.leave]
  | _ => []

def traffic : Bool → List Event → List Move
  | _, [] => []
  | pending, event :: events => moves pending event ++ traffic (brings pending event) events

/-- In no stretch of the events do the packets that come outnumber the times
that `play_loop` asks for one by more than the depth of the queue. -/
def KeepsUp (events : List Event) : Prop := AtMostAhead kMaxQueueDepth (traffic false events)

/-- The packets that have been taken from the queue or are in it. -/
def World.packets (w : World) : List Payload := w.dequeued ++ w.self.queue_

/-- The insertions, of which the last may still have to be counted. -/
def World.inserted (w : World) : Nat :=
  w.self.pkt_count_ + if w.producer = .enqueued then 1 else 0

/-- The calls that have been counted or are under way. -/
def World.counted (w : World) : Nat :=
  w.self.pkt_count_ + w.self.drop_count_ + if w.producer = .idle then 0 else 1

/-- The payload that a call under way is about to insert. -/
def World.pending (w : World) : List Payload :=
  match w.producer with
  | .sized payload => [payload]
  | _ => []

/-- What a step does to the queue, to the counters and to the producer. -/
structure Queued (before : World) (event : Event) (after : World) : Prop where
  packets : after.packets = before.packets ++ accepted before event
  inserted : after.inserted = before.inserted + (accepted before event).length
  counted : after.counted = before.counted + (offered before event).length
  pending : (accepted before event ++ after.pending).Sublist
    (before.pending ++ offered before event)

/-- The members that the queue is concerned with are left alone. -/
structure Untouched (before after : World) : Prop where
  dequeued : after.dequeued = before.dequeued
  producer : after.producer = before.producer
  queue : after.self.queue_ = before.self.queue_
  pkt_count : after.self.pkt_count_ = before.self.pkt_count_
  drop_count : after.self.drop_count_ = before.self.drop_count_

theorem Untouched.queued {before after : World} {event : Event} (h : Untouched before after)
    (haccepted : accepted before event = []) (hoffered : offered before event = []) :
    Queued before event after := by
  constructor
  · simp [World.packets, h.dequeued, h.queue, haccepted]
  · simp [World.inserted, h.producer, h.pkt_count, haccepted]
  · simp [World.counted, h.producer, h.pkt_count, h.drop_count, hoffered]
  · simp [World.pending, h.producer, haccepted, hoffered]

theorem call_untouched {before after : World} (hcall : before.call = some after) :
    Untouched before after := by
  unfold World.call at hcall
  split at hcall
  · cases hcall
  · cases hcall
    constructor <;> rfl
  · cases hcall
    constructor <;> rfl
  · split at hcall <;> cases hcall
    constructor <;> rfl
  · cases hcall
    constructor <;> rfl
  · split at hcall <;> cases hcall
    all_goals constructor <;> rfl
  · cases hcall
    constructor <;> rfl

theorem produce_queued {before after : World} (hproduce : before.produce = some after) :
    Queued before .produce after := by
  unfold World.produce at hproduce
  split at hproduce
  · cases hproduce
  · next payload hproducer =>
    cases hproduce
    constructor <;>
      simp [World.packets, World.inserted, World.counted, World.pending, accepted, offered,
        hproducer]
  · next hproducer =>
    cases hproduce
    constructor <;>
      simp [World.packets, World.inserted, World.counted, World.pending, accepted, offered,
        hproducer]
    omega
  · next hproducer =>
    cases hproduce
    constructor <;>
      simp [World.packets, World.inserted, World.counted, World.pending, accepted, offered,
        hproducer]
    omega

theorem step_queued {before after : World} {event : Event}
    (hstep : step before event = some after) : Queued before event after := by
  cases event with
  | start | stop | opus_decoder_create | pa_simple_new | loop_test =>
    obtain ⟨-, heq⟩ := Option.ite_none_right_eq_some.mp hstep
    cases heq
    apply Untouched.queued _ rfl rfl
    constructor <;> rfl
  | call => exact (call_untouched hstep).queued rfl rfl
  | wait_dequeue_timed =>
    obtain ⟨-, heq⟩ := Option.ite_none_right_eq_some.mp hstep
    split at heq
    · cases heq
      apply Untouched.queued _ rfl rfl
      constructor <;> rfl
    · next payload rest hqueue =>
      cases heq
      constructor <;>
        simp [World.packets, World.inserted, World.counted, World.pending, accepted, offered,
          hqueue]
  | enqueue_payload payload =>
    obtain ⟨hproducer, heq⟩ := Option.ite_none_right_eq_some.mp hstep
    split at heq
    · cases heq
      apply Untouched.queued _ rfl rfl
      constructor <;> rfl
    · cases heq
      apply Untouched.queued _ rfl rfl
      constructor <;> rfl
    · next payload hnonempty =>
      cases heq
      have hoffered : offered before (.enqueue_payload (some payload)) = [payload] :=
        if_neg hnonempty
      by_cases hfull : before.self.queue_.length > kMaxQueueDepth
      · constructor <;>
          simp [World.packets, World.inserted, World.counted, World.pending, accepted, hoffered,
            hproducer, hfull]
      · constructor <;>
          simp [World.packets, World.inserted, World.counted, World.pending, accepted, hoffered,
            hproducer, hfull]
  | produce => exact produce_queued hstep

/-- Nothing is dequeued that has not been offered. -/
theorem packets_sublist {events : List Event} {w : World} (hexec : exec step {} events = some w) :
    w.packets.Sublist (flow offered (taken step {} events)) := by
  have hpackets := append_flow (fun hstep => (step_queued hstep).packets) hexec
  have hsublist := run_sublist (fun hstep => (step_queued hstep).pending) hexec
  rw [hpackets]
  exact (List.sublist_append_left _ _).trans hsublist

/-- The test lets one packet too many in: it is made before the packet is
inserted, and passes when the queue is full. -/
structure Admitted (w : World) : Prop where
  length : w.self.queue_.length ≤ kMaxQueueDepth + 1
  tested : ∀ payload, w.producer = .sized payload → w.self.queue_.length ≤ kMaxQueueDepth

theorem Admitted.untouched {before after : World} (h : Admitted before)
    (hsame : Untouched before after) : Admitted after :=
  ⟨hsame.queue ▸ h.length, fun payload hsized => by
    rw [hsame.queue]
    exact h.tested payload (hsame.producer ▸ hsized)⟩

theorem Admitted.step {before after : World} {event : Event} (h : Admitted before)
    (hstep : step before event = some after) : Admitted after := by
  cases event with
  | start | stop | opus_decoder_create | pa_simple_new | loop_test =>
    obtain ⟨-, heq⟩ := Option.ite_none_right_eq_some.mp hstep
    cases heq
    exact ⟨h.length, h.tested⟩
  | call => exact h.untouched (call_untouched hstep)
  | wait_dequeue_timed =>
    obtain ⟨-, heq⟩ := Option.ite_none_right_eq_some.mp hstep
    have hlength := h.length
    split at heq
    · cases heq
      exact ⟨h.length, h.tested⟩
    · next payload rest hqueue =>
      cases heq
      rw [hqueue, List.length_cons] at hlength
      exact ⟨by dsimp only; omega, fun _ _ => by dsimp only; omega⟩
  | enqueue_payload payload =>
    obtain ⟨-, heq⟩ := Option.ite_none_right_eq_some.mp hstep
    split at heq
    · cases heq
      exact h
    · cases heq
      exact h
    · cases heq
      refine ⟨h.length, fun payload hsized => ?_⟩
      dsimp only at hsized ⊢
      split at hsized
      · cases hsized
      · next hroom => exact Nat.not_lt.mp hroom
  | produce =>
    change before.produce = some after at hstep
    unfold World.produce at hstep
    split at hstep
    · cases hstep
    · next payload hsized =>
      cases hstep
      refine ⟨?_, by simp⟩
      rw [List.length_append]
      exact Nat.succ_le_succ (h.tested payload hsized)
    · cases hstep
      exact ⟨h.length, by simp⟩
    · cases hstep
      exact ⟨h.length, by simp⟩

/-- As long as the queue has kept to its bound no packet has been dropped, and
the queue holds what the events alone say. -/
structure Follows (pending : Bool) (earlier : List Move) (w : World) : Prop where
  length : w.self.queue_.length = level earlier
  pending : pending = true ↔ ∃ payload, w.producer = .sized payload
  accepted : w.producer ≠ .dropping

theorem Follows.untouched {before after : World} {pending : Bool} {earlier : List Move}
    (h : Follows pending earlier before) (hsame : Untouched before after) :
    Follows pending earlier after := by
  obtain ⟨hlength, hpending, haccepted⟩ := h
  rw [← hsame.queue] at hlength
  rw [← hsame.producer] at hpending haccepted
  exact ⟨hlength, hpending, haccepted⟩

theorem Follows.step {before after : World} {event : Event} {pending : Bool} {earlier : List Move}
    (h : Follows pending earlier before)
    (hbound : before.self.queue_.length ≤ kMaxQueueDepth)
    (hstep : step before event = some after) :
    Follows (brings pending event) (earlier ++ moves pending event) after := by
  cases event with
  | start | stop | opus_decoder_create | pa_simple_new | loop_test =>
    obtain ⟨-, heq⟩ := Option.ite_none_right_eq_some.mp hstep
    cases heq
    simp only [moves, List.append_nil]
    exact ⟨h.length, h.pending, h.accepted⟩
  | call =>
    simp only [moves, List.append_nil]
    exact h.untouched (call_untouched hstep)
  | wait_dequeue_timed =>
    obtain ⟨-, heq⟩ := Option.ite_none_right_eq_some.mp hstep
    have hlength := h.length
    have hleave : level (earlier ++ [.leave]) = level earlier - 1 := level_concat _ _
    split at heq
    · next hqueue =>
      cases heq
      refine ⟨?_, h.pending, h.accepted⟩
      rw [moves, hleave, ← hlength]
      simp [World.play, hqueue]
    · next payload rest hqueue =>
      cases heq
      refine ⟨?_, h.pending, h.accepted⟩
      rw [moves, hleave, ← hlength, hqueue]
      rfl
  | enqueue_payload payload =>
    obtain ⟨hidle, heq⟩ := Option.ite_none_right_eq_some.mp hstep
    simp only [moves, List.append_nil]
    split at heq
    · cases heq
      exact ⟨h.length, by simp [brings, hidle], h.accepted⟩
    · cases heq
      exact ⟨h.length, by simp [brings, hidle], h.accepted⟩
    · next payload hnonempty =>
      cases heq
      have hroom : ¬ before.self.queue_.length > kMaxQueueDepth := Nat.not_lt.mpr hbound
      have hpayload : payload ≠ [] := hnonempty
      refine ⟨h.length, ?_, ?_⟩ <;> simp [brings, hpayload, hroom]
  | produce =>
    change before.produce = some after at hstep
    unfold World.produce at hstep
    split at hstep
    · cases hstep
    · next payload hsized =>
      cases hstep
      have hpending : pending = true := h.pending.mpr ⟨payload, hsized⟩
      refine ⟨?_, by simp [brings], by simp⟩
      rw [moves, if_pos hpending, level_concat, ← h.length, List.length_append]
      rfl
    · next hdropping => exact absurd hdropping h.accepted
    · next henqueued =>
      cases hstep
      have hpending : ¬ pending = true := by
        rw [h.pending, henqueued]
        simp
      refine ⟨?_, by simp [brings], by simp⟩
      rw [moves, if_neg hpending, List.append_nil]
      exact h.length

theorem traffic_concat (pending : Bool) (events : List Event) (event : Event) :
    traffic pending (events ++ [event]) =
      traffic pending events ++ moves (events.foldl brings pending) event := by
  induction events generalizing pending with
  | nil => simp [traffic]
  | cons first rest ih => simp [traffic, ih]

theorem traffic_prefix {pending : Bool} {pre events : List Event} (hpre : pre <+: events) :
    traffic pending pre <+: traffic pending events := by
  obtain ⟨rest, rfl⟩ := hpre
  induction pre generalizing pending with
  | nil => exact List.nil_prefix
  | cons event pre ih =>
    rw [List.cons_append, traffic, traffic]
    exact (List.prefix_append_right_inj _).mpr ih

/-- No event means more to the queue than one move. -/
theorem exists_traffic_eq {pending : Bool} {events : List Event} {earlier : List Move}
    (hbefore : earlier <+: traffic pending events) :
    ∃ pre, pre <+: events ∧ traffic pending pre = earlier := by
  induction events using List.reverseRecOn with
  | nil => exact ⟨[], List.nil_prefix, (List.prefix_nil.mp hbefore).symm⟩
  | append_singleton events event ih =>
    rw [traffic_concat] at hbefore
    have hmoves : moves (events.foldl brings pending) event = [] ∨
        ∃ move, moves (events.foldl brings pending) event = [move] := by
      unfold moves
      split
      · cases events.foldl brings pending <;> simp
      · exact .inr ⟨_, rfl⟩
      · exact .inl rfl
    have hshorter (h : earlier <+: traffic pending events) :
        ∃ pre, pre <+: events ++ [event] ∧ traffic pending pre = earlier := by
      obtain ⟨pre, hpre, htraffic⟩ := ih h
      exact ⟨pre, hpre.trans (List.prefix_append _ _), htraffic⟩
    obtain hnone | ⟨move, hone⟩ := hmoves
    · rw [hnone, List.append_nil] at hbefore
      exact hshorter hbefore
    · rw [hone] at hbefore
      obtain rfl | hbefore := List.prefix_concat_iff.mp hbefore
      · refine ⟨events ++ [event], List.prefix_rfl, ?_⟩
        rw [traffic_concat, hone]
      · exact hshorter hbefore

theorem follows_traffic {events : List Event}
    (hbound : ∀ pre w, pre <+: events → exec step {} pre = some w →
      w.self.queue_.length = level (traffic false pre) →
        w.self.queue_.length ≤ kMaxQueueDepth) {w : World}
    (hexec : exec step {} events = some w) :
    Follows (events.foldl brings false) (traffic false events) w := by
  induction events using List.reverseRecOn generalizing w with
  | nil =>
    cases hexec
    exact ⟨rfl, by simp, by simp⟩
  | append_singleton events event ih =>
    obtain ⟨before, hbefore, hstep⟩ := exec_concat_eq_some_iff.mp hexec
    have hfollows := ih (fun pre w hpre => hbound pre w (hpre.trans (List.prefix_append _ _)))
      hbefore
    have hroom := hbound events before (List.prefix_append _ _) hbefore hfollows.length
    rw [traffic_concat, List.foldl_append]
    exact hfollows.step hroom hstep

theorem bounded_iff {events : List Event} {w : World} (hexec : exec step {} events = some w) :
    (∀ v, Reaches step {} events v → v.self.queue_.length ≤ kMaxQueueDepth) ↔
      KeepsUp events := by
  have hrun : ∀ {pre}, pre <+: events → ∃ v, exec step {} pre = some v := by
    rintro pre ⟨rest, rfl⟩
    rw [exec_append] at hexec
    obtain ⟨v, hv, -⟩ := Option.bind_eq_some_iff.mp hexec
    exact ⟨v, hv⟩
  unfold KeepsUp
  rw [← level_le_iff]
  constructor
  · intro hbounded earlier hearlier
    obtain ⟨pre, hpre, rfl⟩ := exists_traffic_eq hearlier
    obtain ⟨v, hv⟩ := hrun hpre
    have hfollows := follows_traffic
      (fun first w hfirst hw _ => hbounded w ⟨first, hfirst.trans hpre, hw⟩) hv
    rw [← hfollows.length]
    exact hbounded v ⟨pre, hpre, hv⟩
  · rintro hlevel v ⟨pre, hpre, hv⟩
    have hbefore : ∀ {first}, first <+: pre →
        traffic false first <+: traffic false events := fun hfirst =>
      traffic_prefix (hfirst.trans hpre)
    have hfollows := follows_traffic
      (fun first w hfirst _ hlength => hlength ▸ hlevel _ (hbefore hfirst)) hv
    rw [hfollows.length]
    exact hlevel _ (hbefore List.prefix_rfl)

/-- In every run the packets are accounted for and the queue holds at most one
more than its depth. It keeps to its depth exactly if `play_loop` keeps up. -/
theorem accounts_for_packets_iff {events : List Event} {w : World}
    (hexec : exec step {} events = some w) :
    (∀ v, Reaches step {} events v → v.self.queue_.length ≤ kMaxQueueDepth + 1) ∧
      (AccountsForPackets events ↔ KeepsUp events) := by
  refine ⟨fun v hreaches => ?_, ?_⟩
  · have hadmitted : Admitted v := hreaches.invariant ⟨Nat.zero_le _, by simp⟩
      fun before event after htakes hbefore => hbefore.step htakes.step_eq
    exact hadmitted.length
  rw [← bounded_iff hexec]
  constructor
  · rintro h w ⟨pre, hpre, hexec⟩
    exact h.bounded pre w hpre hexec
  · intro hbounded
    have hpackets : ∀ {pre w}, exec step {} pre = some w →
        w.packets = flow accepted (taken step {} pre) :=
      fun hexec => append_flow (fun hstep => (step_queued hstep).packets) hexec
    have hinserted : ∀ {pre w}, exec step {} pre = some w →
        w.inserted = 0 + (flow accepted (taken step {} pre)).length :=
      fun hexec => add_length_flow (fun hstep => (step_queued hstep).inserted) hexec
    have hcounted : ∀ {pre w}, exec step {} pre = some w →
        w.counted = 0 + (flow offered (taken step {} pre)).length :=
      fun hexec => add_length_flow (fun hstep => (step_queued hstep).counted) hexec
    constructor
    · exact fun pre w hpre hexec => hbounded w ⟨pre, hpre, hexec⟩
    · intro pre w _ hexec
      rw [← Nat.zero_add (flow offered _).length, ← hcounted hexec, World.counted]
    · intro pre w _ hexec
      have hlength := congrArg List.length (hpackets hexec)
      rw [← Nat.zero_add (flow accepted _).length, ← hinserted hexec] at hlength
      simpa [World.packets, World.inserted] using hlength.symm
    · exact fun pre w _ hexec => hpackets hexec

/-- A packet that is played, and a second one behind it. -/
def two_packets : List Event :=
  [.start, .call, .call, .call, .opus_decoder_create true, .pa_simple_new true, .loop_test,
    .enqueue_payload (some [1]), .produce, .produce, .wait_dequeue_timed, .loop_test,
    .enqueue_payload (some [2]), .produce, .produce]

theorem accounts_for_packets_iff_two :
    (exec step {} two_packets).map (fun w => (w.dequeued, w.self.queue_)) = some ([[1]], [[2]]) ∧
      AccountsForPackets two_packets := by
  have hrun : ∃ w, exec step {} two_packets = some w := Option.isSome_iff_exists.mp (by decide)
  obtain ⟨w, hw⟩ := hrun
  refine ⟨by decide, (accounts_for_packets_iff hw).2.mpr fun stretch hstretch => ?_⟩
  have hlength : stretch.length ≤ 3 := hstretch.length_le
  have hcount := List.count_le_length (a := Move.arrive) (l := stretch)
  unfold kMaxQueueDepth
  omega

/-- A started receiver whose `play_loop` is still creating its decoder, and a
number of calls of `enqueue_payload`. -/
def flood (calls : Nat) : List Event :=
  [.start, .call, .call, .call] ++
    (List.replicate calls [Event.enqueue_payload (some [1]), .produce, .produce]).flatten

theorem exec_flood {calls : Nat} (hcalls : calls ≤ kMaxQueueDepth + 1) :
    exec step {} (flood calls) = some
      { self :=
          { running_ := true
            play_thread_ := some .creating_decoder
            queue_ := List.replicate calls [1]
            pkt_count_ := calls } } := by
  induction calls with
  | zero => rfl
  | succ calls ih =>
    have hroom : ¬ calls > kMaxQueueDepth := by omega
    have hflood : flood (calls + 1) =
        flood calls ++ [.enqueue_payload (some [1]), .produce, .produce] := by
      simp [flood, List.replicate_succ']
    rw [hflood, exec_append, ih (by omega), Option.bind_some]
    simp [exec, step, World.produce, hroom, List.replicate_succ']

theorem queue_overflows : ¬ AccountsForPackets (flood (kMaxQueueDepth + 1)) := by
  intro h
  have hbound := h.bounded _ _ (List.prefix_refl _) (exec_flood (Nat.le_refl _))
  rw [List.length_replicate] at hbound
  omega

end amldigitalfpv.audio_receiver
