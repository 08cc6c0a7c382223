import Mathlib.Data.Finset.Lattice.Fold
import Mathlib.Order.Iterate
import Mathlib.Tactic.Common

namespace Pacing

variable {α : Type*} [LinearOrder α] {next : α → α}

/-- A clock that never stands still: each value is the reading, or what follows
the last value if the reading has not reached that. -/
def paced (next : α → α) (last : α) : List α → List α
  | [] => []
  | reading :: readings =>
    max reading (next last) :: paced next (max reading (next last)) readings

theorem next_le_of_mem_paced (hle : ∀ value, value ≤ next value) {last value : α}
    {readings : List α} (hmem : value ∈ paced next last readings) : next last ≤ value := by
  induction readings generalizing last with
  | nil => simp [paced] at hmem
  | cons reading readings ih =>
    have hnext : next last ≤ max reading (next last) := le_max_right reading (next last)
    obtain rfl | hrest := List.mem_cons.mp hmem
    · exact hnext
    · exact hnext.trans ((hle _).trans (ih hrest))

/-- The values are at least one `next` apart. -/
theorem paced_pairwise (hle : ∀ value, value ≤ next value) (last : α) (readings : List α) :
    (paced next last readings).Pairwise (next · ≤ ·) := by
  induction readings generalizing last with
  | nil => exact .nil
  | cons reading readings ih =>
    exact .cons (fun value hmem => next_le_of_mem_paced hle hmem) (ih _)

/-- The value at a position: the furthest that the start or an earlier reading
has been carried up to there. -/
theorem paced_getElem? [OrderBot α] (hnext : Monotone next) (last : α) (readings : List α) {k : ℕ}
    (hk : k < readings.length) :
    (paced next last readings)[k]? = some (max (next^[k + 1] last)
      ((Finset.range (k + 1)).sup fun i => next^[k - i] (readings.getD i ⊥))) := by
  induction readings generalizing last k with
  | nil => simp at hk
  | cons reading readings ih =>
    cases k with
    | zero => simp [paced, max_comm]
    | succ k =>
      have hrest := ih (max reading (next last)) (Nat.lt_of_succ_lt_succ hk)
      rw [paced, List.getElem?_cons_succ, hrest, (hnext.iterate (k + 1)).map_max,
        ← Function.iterate_succ_apply, Finset.range_add_one' (k + 1), Finset.sup_insert,
        Finset.sup_map, max_comm (next^[k + 1] reading), max_assoc]
      congr 3
      apply Finset.sup_congr rfl
      intro i _
      change _ = next^[k + 1 - (i + 1)] ((reading :: readings).getD (i + 1) ⊥)
      rw [Nat.add_sub_add_right, List.getD_cons_succ]

end Pacing
