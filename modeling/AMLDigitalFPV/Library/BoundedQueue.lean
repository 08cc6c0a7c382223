import Mathlib.Data.List.Basic
import Mathlib.Data.List.Range
import Mathlib.Data.Nat.ModEq
import Mathlib.Tactic.Common

namespace BoundedQueue

variable {α : Type*}

/-- Append to a queue of bounded length. A full queue first gives up its
oldest element. -/
def push (capacity : Nat) (queue : List α) (value : α) : List α :=
  (if queue.length = capacity then queue.tail else queue) ++ [value]

theorem push_of_room {capacity : Nat} {queue : List α} (value : α)
    (hroom : queue.length < capacity) : push capacity queue value = queue ++ [value] := by
  rw [push, if_neg (Nat.ne_of_lt hroom)]

theorem push_of_full {capacity : Nat} {queue : List α} (value : α)
    (hfull : queue.length = capacity) : push capacity queue value = queue.tail ++ [value] := by
  rw [push, if_pos hfull]

/-- The elements read circularly from `head`: slot `head`, then the slots
after it, wrapping at `capacity`. -/
def window (capacity head : Nat) (slot : Nat → α) (size : Nat) : List α :=
  (List.range size).map fun i => slot ((head + i) % capacity)

@[simp]
theorem length_window (capacity head : Nat) (slot : Nat → α) (size : Nat) :
    (window capacity head slot size).length = size := by
  simp [window]

theorem window_succ (capacity head : Nat) (slot : Nat → α) (size : Nat) :
    window capacity head slot (size + 1) =
      window capacity head slot size ++ [slot ((head + size) % capacity)] := by
  simp [window, List.range_succ]

/-- The head of a nonempty window is the slot it starts at, and what remains
is the window starting one slot further. -/
theorem window_succ_head {capacity head : Nat} (slot : Nat → α) (size : Nat)
    (hhead : head < capacity) :
    window capacity head slot (size + 1) =
      slot head :: window capacity ((head + 1) % capacity) slot size := by
  rw [window, List.range_succ_eq_map, List.map_cons, List.map_map, Nat.add_zero,
    Nat.mod_eq_of_lt hhead]
  congr 1
  apply List.map_congr_left
  intro i _
  simp only [Function.comp_apply, Nat.succ_eq_add_one]
  rw [Nat.mod_add_mod]
  congr 2
  omega

/-- Distinct positions of one window are distinct slots. -/
theorem slot_injective {capacity head i j : Nat} (hi : i < capacity) (hj : j < capacity)
    (hslot : (head + i) % capacity = (head + j) % capacity) : i = j := by
  have hmod : i ≡ j [MOD capacity] := Nat.ModEq.add_left_cancel' head hslot
  rwa [Nat.ModEq, Nat.mod_eq_of_lt hi, Nat.mod_eq_of_lt hj] at hmod

/-- Writing the slot just past a window that leaves room does not change it. -/
theorem window_congr {capacity head size : Nat} {before after : Nat → α}
    (hroom : size < capacity)
    (hsame : ∀ k, k ≠ (head + size) % capacity → after k = before k) :
    window capacity head after size = window capacity head before size := by
  refine List.map_congr_left fun i hi => hsame _ ?_
  intro hslot
  have hlt := List.mem_range.mp hi
  have heq := slot_injective (by omega) hroom hslot
  omega

end BoundedQueue
