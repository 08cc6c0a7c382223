import AMLDigitalFPV.FrameRingBuffer
import AMLDigitalFPV.Library.Refinement

open Refinement

namespace amldigitalfpv.frame_ring_buffer

inductive Call (α : Type) where
  | push (frame : Option α)
  | pop
  | empty
  | clear
deriving DecidableEq, Repr

inductive Result (α : Type) where
  | done
  | frame (frame : Option α)
  | flag (empty : Bool)
deriving DecidableEq, Repr

variable {α : Type}

/-- A call of a method. `pop` is refused while it would wait. -/
def FrameRingBuffer.call (self : FrameRingBuffer α) : Call α → Option (Result α × FrameRingBuffer α)
  | .push frame => some (.done, self.push frame)
  | .pop => if self.size_ > 0 then some (.frame self.pop.1, self.pop.2) else none
  | .empty => some (.flag self.empty, self)
  | .clear => some (.done, self.clear)

/-- The bounded queue that drops its oldest element, as a list. -/
def queue_call (capacity : Nat) (queue : List (Option α)) :
    Call α → Option (Result α × List (Option α))
  | .push frame => some (.done, BoundedQueue.push capacity queue frame)
  | .pop => queue.head?.map fun frame => (.frame frame, queue.tail)
  | .empty => some (.flag queue.isEmpty, queue)
  | .clear => some (.done, [])

def pushes (calls : List (Call α)) : List (Option α) :=
  calls.filterMap fun
    | .push frame => some frame
    | _ => none

/-- The ring is the bounded queue that drops its oldest element: it gives the
same results, its indices stay in range, and it holds the last pushes. -/
structure DropsOldest (capacity : Nat) (calls : List (Call α)) : Prop where
  results : (run FrameRingBuffer.call (.new capacity) calls).map
      (Prod.map id FrameRingBuffer.contents) = run (queue_call capacity) [] calls
  reached : ∀ pre results ring, pre <+: calls →
    run FrameRingBuffer.call (.new capacity) pre = some (results, ring) →
      ring.head_ < ring.capacity_ ∧ ring.size_ ≤ ring.capacity_ ∧
        ring.buffer_.length = ring.capacity_ ∧ ring.capacity_ = capacity ∧
          ring.contents <:+ pushes pre

theorem call_refines (capacity : Nat) :
    Refines FrameRingBuffer.call (queue_call (α := α) capacity) FrameRingBuffer.contents
      fun ring => ring.WellFormed ∧ ring.capacity_ = capacity := by
  constructor
  · rintro ring call result next hcall ⟨hring, hcapacity⟩
    cases call with
    | push frame =>
      cases hcall
      exact ⟨hring.push frame, (ring.push_capacity frame).trans hcapacity⟩
    | pop =>
      simp only [FrameRingBuffer.call] at hcall
      split at hcall
      · cases hcall
        exact ⟨hring.pop, hcapacity⟩
      · cases hcall
    | empty =>
      cases hcall
      exact ⟨hring, hcapacity⟩
    | clear =>
      cases hcall
      exact ⟨hring.clear, hcapacity⟩
  · rintro ring ⟨hring, rfl⟩ call
    cases call with
    | push frame => simp [FrameRingBuffer.call, queue_call, hring.push_contents frame]
    | pop =>
      by_cases hempty : ring.size_ = 0
      · have hnothing : ring.contents = [] := by
          simp [← List.length_eq_zero_iff, hempty]
        simp [FrameRingBuffer.call, queue_call, hempty, hnothing]
      · have hcontents := hring.pop_contents hempty
        simp [FrameRingBuffer.call, queue_call, Nat.pos_of_ne_zero hempty, hcontents]
    | empty =>
      have hflag : ring.empty = ring.contents.isEmpty := by
        rw [Bool.eq_iff_iff, FrameRingBuffer.empty_iff, List.isEmpty_iff]
      simp [FrameRingBuffer.call, queue_call, hflag]
    | clear => simp [FrameRingBuffer.call, queue_call]

/-- What the queue holds are the last pushes before and after a call. -/
theorem queue_call_suffix {capacity : Nat} {queue next before : List (Option α)} {call : Call α}
    {result : Result α} (hcall : queue_call capacity queue call = some (result, next))
    (hqueue : queue <:+ before) : next <:+ before ++ pushes [call] := by
  cases call with
  | push frame =>
    cases hcall
    have hkept : (if queue.length = capacity then queue.tail else queue) <:+ before := by
      split
      · exact (List.tail_suffix queue).trans hqueue
      · exact hqueue
    obtain ⟨dropped, rfl⟩ := hkept
    exact ⟨dropped, by simp [BoundedQueue.push, pushes]⟩
  | pop =>
    obtain ⟨frame, -, heq⟩ := Option.map_eq_some_iff.mp hcall
    cases heq
    simpa [pushes] using (List.tail_suffix queue).trans hqueue
  | empty =>
    cases hcall
    simpa [pushes] using hqueue
  | clear =>
    cases hcall
    exact List.nil_suffix

theorem run_suffix {capacity : Nat} {queue last before : List (Option α)} {calls : List (Call α)}
    {results : List (Result α)}
    (hrun : run (queue_call capacity) queue calls = some (results, last))
    (hqueue : queue <:+ before) : last <:+ before ++ pushes calls := by
  induction calls generalizing queue before results with
  | nil =>
    cases hrun
    simpa [pushes] using hqueue
  | cons call calls ih =>
    obtain ⟨⟨result, next⟩, hcall, hrest⟩ := Option.bind_eq_some_iff.mp hrun
    obtain ⟨⟨rest, after⟩, hafter, heq⟩ := Option.map_eq_some_iff.mp hrest
    cases heq
    have hlast := ih hafter (queue_call_suffix hcall hqueue)
    rwa [List.append_assoc, pushes, pushes, ← List.filterMap_append] at hlast

/-- For every capacity and every sequence of calls the ring is the bounded queue
that drops its oldest element. -/
theorem drops_oldest {capacity : Nat} (hpositive : 0 < capacity) (calls : List (Call α)) :
    DropsOldest capacity calls := by
  have hstart : (.new capacity : FrameRingBuffer α).WellFormed ∧
      (.new capacity : FrameRingBuffer α).capacity_ = capacity :=
    ⟨FrameRingBuffer.new_wellFormed hpositive, rfl⟩
  have hrefines := call_refines (α := α) capacity
  constructor
  · exact hrefines.run_simulates hstart calls
  · intro pre results ring hpre hrun
    obtain ⟨hring, hcapacity⟩ := hrefines.run_keeps hstart hrun
    have hqueue := hrefines.run_simulates hstart pre
    rw [hrun] at hqueue
    have hsuffix : ring.contents <:+ [] ++ pushes pre :=
      run_suffix hqueue.symm (List.nil_suffix (l := []))
    exact ⟨hring.head_lt, hring.size_le, hring.buffer_length, hcapacity, hsuffix⟩

theorem drops_oldest_overwritten :
    0 < 2 ∧ DropsOldest 2 [.push (some 1), .push (some 2), .push none, .pop, .push (some 4),
      .clear, .push (some 5), .empty] :=
  ⟨by simp, drops_oldest (by simp) _⟩

end amldigitalfpv.frame_ring_buffer
