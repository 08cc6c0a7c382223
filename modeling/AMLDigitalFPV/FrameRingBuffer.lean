import AMLDigitalFPV.Library.BoundedQueue

open BoundedQueue

namespace amldigitalfpv.frame_ring_buffer

/-- The ring of shared pointers. A slot holds `none` for a null pointer, which
is what the constructor fills the vector with. The mutex makes each method one
atomic step and is not part of the state. -/
structure FrameRingBuffer (α : Type) where
  capacity_ : Nat
  buffer_ : List (Option α)
  head_ : Nat
  size_ : Nat
deriving DecidableEq, Repr

namespace FrameRingBuffer

variable {α : Type}

def new (capacity : Nat) : FrameRingBuffer α :=
  { capacity_ := capacity, buffer_ := List.replicate capacity none, head_ := 0, size_ := 0 }

/-- The value of the slot at a physical index. -/
def slot (self : FrameRingBuffer α) (index : Nat) : Option α :=
  self.buffer_.getD index none

def push (frame : Option α) (self : FrameRingBuffer α) : FrameRingBuffer α :=
  if self.capacity_ = 0 then
    self
  else
    let self :=
      if self.size_ = self.capacity_ then
        { self with head_ := (self.head_ + 1) % self.capacity_, size_ := self.size_ - 1 }
      else
        self
    let tail := (self.head_ + self.size_) % self.capacity_
    { self with buffer_ := self.buffer_.set tail frame, size_ := self.size_ + 1 }

/-- The part of `pop` after the wait: callers reach it only with an element
present. -/
def pop (self : FrameRingBuffer α) : Option α × FrameRingBuffer α :=
  (self.slot self.head_,
    { self with head_ := (self.head_ + 1) % self.capacity_, size_ := self.size_ - 1 })

def empty (self : FrameRingBuffer α) : Bool := self.size_ == 0

def clear (self : FrameRingBuffer α) : FrameRingBuffer α :=
  { self with size_ := 0, head_ := 0 }

/-- The queued pointers, oldest first, read circularly from `head_`. -/
def contents (self : FrameRingBuffer α) : List (Option α) :=
  window self.capacity_ self.head_ self.slot self.size_

/-- Every index the methods compute stays inside the vector. -/
structure WellFormed (ring : FrameRingBuffer α) : Prop where
  capacity_pos : 0 < ring.capacity_
  buffer_length : ring.buffer_.length = ring.capacity_
  head_lt : ring.head_ < ring.capacity_
  size_le : ring.size_ ≤ ring.capacity_

@[simp]
theorem length_contents (self : FrameRingBuffer α) : self.contents.length = self.size_ :=
  length_window _ _ _ _

@[simp]
theorem push_capacity (self : FrameRingBuffer α) (frame : Option α) :
    (self.push frame).capacity_ = self.capacity_ := by
  unfold push
  split
  · rfl
  · dsimp only
    split <;> rfl

@[simp]
theorem pop_capacity (self : FrameRingBuffer α) : self.pop.2.capacity_ = self.capacity_ := rfl

@[simp]
theorem pop_size (self : FrameRingBuffer α) : self.pop.2.size_ = self.size_ - 1 := rfl

@[simp]
theorem clear_size (self : FrameRingBuffer α) : self.clear.size_ = 0 := rfl

theorem empty_iff (self : FrameRingBuffer α) : self.empty = true ↔ self.contents = [] := by
  rw [empty, beq_iff_eq, ← length_contents, List.length_eq_zero_iff]

theorem new_wellFormed {capacity : Nat} (hpositive : 0 < capacity) :
    (new capacity : FrameRingBuffer α).WellFormed :=
  ⟨hpositive, List.length_replicate, hpositive, Nat.zero_le _⟩

@[simp]
theorem new_contents (capacity : Nat) : (new capacity : FrameRingBuffer α).contents = [] := rfl

@[simp]
theorem clear_contents (self : FrameRingBuffer α) : self.clear.contents = [] := rfl

theorem WellFormed.clear {self : FrameRingBuffer α} (h : self.WellFormed) :
    self.clear.WellFormed :=
  ⟨h.capacity_pos, h.buffer_length, h.capacity_pos, Nat.zero_le _⟩

theorem WellFormed.pop {self : FrameRingBuffer α} (h : self.WellFormed) :
    self.pop.2.WellFormed :=
  ⟨h.capacity_pos, h.buffer_length, Nat.mod_lt _ h.capacity_pos,
    (Nat.sub_le _ _).trans h.size_le⟩

/-- Popping takes the oldest queued pointer off the front. -/
theorem WellFormed.pop_contents {self : FrameRingBuffer α} (h : self.WellFormed)
    (hne : self.size_ ≠ 0) : self.contents = self.pop.1 :: self.pop.2.contents := by
  obtain ⟨size, hsize⟩ := Nat.exists_eq_succ_of_ne_zero hne
  simp only [contents, hsize, FrameRingBuffer.pop, Nat.succ_eq_add_one, Nat.add_sub_cancel]
  exact window_succ_head self.slot size h.head_lt

/-- A write to the slot past the queued ones appends the written pointer. -/
private theorem contents_set_tail {self : FrameRingBuffer α} (h : self.WellFormed)
    (hroom : self.size_ < self.capacity_) (frame : Option α) :
    ({ self with
        buffer_ := self.buffer_.set ((self.head_ + self.size_) % self.capacity_) frame,
        size_ := self.size_ + 1 } : FrameRingBuffer α).contents = self.contents ++ [frame] := by
  have htail : (self.head_ + self.size_) % self.capacity_ < self.buffer_.length := by
    rw [h.buffer_length]
    exact Nat.mod_lt _ h.capacity_pos
  simp only [contents]
  rw [window_succ]
  congr 1
  · apply window_congr hroom
    intro k hk
    simp [slot, List.getElem?_set_ne (Ne.symm hk)]
  · simp [slot, htail]

theorem push_eq_of_room {self : FrameRingBuffer α} (hroom : self.size_ < self.capacity_)
    (frame : Option α) :
    self.push frame =
      { self with
        buffer_ := self.buffer_.set ((self.head_ + self.size_) % self.capacity_) frame,
        size_ := self.size_ + 1 } := by
  rw [push, if_neg (by omega)]
  simp only [if_neg (Nat.ne_of_lt hroom)]

/-- Pushing into a full ring is popping the oldest pointer and then pushing. -/
theorem WellFormed.push_eq_of_full {self : FrameRingBuffer α} (h : self.WellFormed)
    (hfull : self.size_ = self.capacity_) (frame : Option α) :
    self.push frame = self.pop.2.push frame := by
  have hpos := h.capacity_pos
  have hroom : self.pop.2.size_ < self.pop.2.capacity_ := by
    simp only [pop_size, pop_capacity]
    omega
  rw [push_eq_of_room hroom, push, if_neg (by omega)]
  simp only [if_pos hfull, FrameRingBuffer.pop]

theorem WellFormed.push {self : FrameRingBuffer α} (h : self.WellFormed) (frame : Option α) :
    (self.push frame).WellFormed := by
  have room : ∀ {ring : FrameRingBuffer α}, ring.WellFormed → ring.size_ < ring.capacity_ →
      (ring.push frame).WellFormed := by
    intro ring hring hroom
    rw [push_eq_of_room hroom]
    exact ⟨hring.capacity_pos, by simpa using hring.buffer_length, hring.head_lt, hroom⟩
  by_cases hfull : self.size_ = self.capacity_
  · rw [h.push_eq_of_full hfull]
    have hpos := h.capacity_pos
    exact room h.pop (by simp only [pop_size, pop_capacity]; omega)
  · exact room h (Nat.lt_of_le_of_ne h.size_le hfull)

/-- Pushing is the insertion of the bounded drop-oldest queue. -/
theorem WellFormed.push_contents {self : FrameRingBuffer α} (h : self.WellFormed)
    (frame : Option α) :
    (self.push frame).contents = BoundedQueue.push self.capacity_ self.contents frame := by
  by_cases hfull : self.size_ = self.capacity_
  · have hpos := h.capacity_pos
    have hroom : self.pop.2.size_ < self.pop.2.capacity_ := by
      simp only [pop_size, pop_capacity]
      omega
    rw [h.push_eq_of_full hfull, push_eq_of_room hroom, contents_set_tail h.pop hroom,
      push_of_full frame (by rw [length_contents, hfull]), h.pop_contents (by omega)]
    rfl
  · have hroom := Nat.lt_of_le_of_ne h.size_le hfull
    rw [push_eq_of_room hroom, contents_set_tail h hroom,
      push_of_room frame (by rw [length_contents]; exact hroom)]

end FrameRingBuffer

end amldigitalfpv.frame_ring_buffer
