import Mathlib.Data.List.Basic
import Mathlib.Data.List.Infix
import Mathlib.Tactic.Common

namespace Backlog

/-- Something comes to a queue, or something is asked of it. -/
inductive Move where
  | arrive
  | leave
deriving DecidableEq, Repr

/-- A move at a queue of some length. Asking an empty queue takes nothing. -/
def Move.apply : Nat → Move → Nat
  | level, .arrive => level + 1
  | level, .leave => level - 1

/-- The length of a queue, empty at first, after the moves. -/
def level (moves : List Move) : Nat := moves.foldl Move.apply 0

/-- In no stretch of the moves do the arrivals exceed what is asked for by more
than the bound. -/
def AtMostAhead (bound : Nat) (moves : List Move) : Prop :=
  ∀ stretch, stretch <:+: moves → stretch.count .arrive ≤ stretch.count .leave + bound

theorem level_concat (moves : List Move) (move : Move) :
    level (moves ++ [move]) = move.apply (level moves) := by
  simp [level, List.foldl_append]

/-- What has arrived and has not been asked for is still there. -/
theorem count_arrive_le (before stretch : List Move) :
    stretch.count .arrive ≤ level (before ++ stretch) + stretch.count .leave := by
  induction stretch using List.reverseRecOn with
  | nil => simp
  | append_singleton stretch move ih =>
    rw [← List.append_assoc, level_concat, List.count_append, List.count_append]
    cases move with
    | arrive =>
      simp [Move.apply]
      omega
    | leave =>
      simp [Move.apply]
      omega

/-- Since it was last empty, a queue has lost an element whenever it was asked
for one. -/
theorem exists_stretch (moves : List Move) :
    ∃ before stretch, moves = before ++ stretch ∧
      level moves + stretch.count .leave = stretch.count .arrive := by
  induction moves using List.reverseRecOn with
  | nil => exact ⟨[], [], rfl, rfl⟩
  | append_singleton moves move ih =>
    obtain ⟨before, stretch, hmoves, hlevel⟩ := ih
    have hlonger : moves ++ [move] = before ++ (stretch ++ [move]) := by
      rw [hmoves, List.append_assoc]
    rw [level_concat]
    cases move with
    | arrive =>
      refine ⟨before, stretch ++ [.arrive], hlonger, ?_⟩
      simp [Move.apply, List.count_append]
      omega
    | leave =>
      by_cases hempty : level moves = 0
      · refine ⟨moves ++ [.leave], [], (List.append_nil _).symm, ?_⟩
        simp [Move.apply, hempty]
      · refine ⟨before, stretch ++ [.leave], hlonger, ?_⟩
        simp [Move.apply, List.count_append]
        omega

/-- A queue keeps to a bound all along exactly if the arrivals are never ahead
by more. -/
theorem level_le_iff {bound : Nat} {moves : List Move} :
    (∀ pre, pre <+: moves → level pre ≤ bound) ↔ AtMostAhead bound moves := by
  constructor
  · rintro hlevel stretch ⟨before, rest, rfl⟩
    have hbound := hlevel (before ++ stretch) (List.prefix_append _ _)
    have hcount := count_arrive_le before stretch
    omega
  · rintro hahead pre ⟨rest, rfl⟩
    obtain ⟨before, stretch, rfl, hlevel⟩ := exists_stretch pre
    have hbound := hahead stretch ⟨before, rest, rfl⟩
    omega

end Backlog
