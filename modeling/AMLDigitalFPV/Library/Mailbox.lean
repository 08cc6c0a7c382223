import Mathlib.Data.List.Basic
import Mathlib.Tactic.Common

namespace Mailbox

variable {τ α : Type*} [DecidableEq τ]

/-- The items of a sender that are still in the box, oldest first. -/
def sent_by (sender : τ) (box : List (τ × α)) : List α :=
  box.filterMap fun item => if item.1 = sender then some item.2 else none

/-- The oldest item of a sender, and the box without it. A receiver that takes
from any sender it likes sees no order between them. -/
def take_from (sender : τ) : List (τ × α) → Option (α × List (τ × α))
  | [] => none
  | item :: box =>
    if item.1 = sender then some (item.2, box)
    else (take_from sender box).map fun taken => (taken.1, item :: taken.2)

@[simp]
theorem sent_by_nil (sender : τ) : sent_by sender ([] : List (τ × α)) = [] := rfl

theorem sent_by_cons (sender : τ) (item : τ × α) (box : List (τ × α)) :
    sent_by sender (item :: box) =
      (if item.1 = sender then [item.2] else []) ++ sent_by sender box := by
  unfold sent_by
  by_cases hsender : item.1 = sender <;> simp [hsender]

theorem sent_by_single (sender : τ) (item : τ × α) :
    sent_by sender [item] = if item.1 = sender then [item.2] else [] := by
  rw [sent_by_cons, sent_by_nil, List.append_nil]

theorem sent_by_append (sender : τ) (first second : List (τ × α)) :
    sent_by sender (first ++ second) = sent_by sender first ++ sent_by sender second :=
  List.filterMap_append

theorem sent_by_sublist (sender : τ) (box : List (τ × α)) :
    (sent_by sender box).Sublist (box.map Prod.snd) := by
  induction box with
  | nil => exact List.Sublist.refl _
  | cons item box ih =>
    rw [sent_by_cons, List.map_cons]
    split
    · exact ih.cons_cons item.2
    · exact ih.cons item.2

/-- What is taken is the sender's oldest item, and nothing else is touched. -/
theorem take_from_eq_some {sender : τ} {box left : List (τ × α)} {a : α}
    (h : take_from sender box = some (a, left)) :
    (∀ other, sent_by other box = (if sender = other then [a] else []) ++ sent_by other left) ∧
      box.Perm ((sender, a) :: left) := by
  induction box generalizing left with
  | nil => cases h
  | cons item box ih =>
    rw [take_from] at h
    split at h
    · next hsender =>
      cases h
      subst hsender
      exact ⟨fun other => sent_by_cons other item box, List.Perm.refl _⟩
    · next hsender =>
      obtain ⟨⟨b, rest⟩, hrest, heq⟩ := Option.map_eq_some_iff.mp h
      cases heq
      obtain ⟨hsent, hperm⟩ := ih hrest
      refine ⟨fun other => ?_, (hperm.cons item).trans (List.Perm.swap _ _ _)⟩
      rw [sent_by_cons, sent_by_cons, hsent other]
      by_cases hother : item.1 = other
      · have hdiffers : sender ≠ other := by
          rintro rfl
          exact hsender hother
        simp [hdiffers]
      · simp [hother]

/-- Something can be taken from a box that is not empty. -/
theorem exists_take_from {box : List (τ × α)} (hbox : box ≠ []) :
    ∃ sender a left, take_from sender box = some (a, left) := by
  obtain ⟨item, rest, rfl⟩ := List.exists_cons_of_ne_nil hbox
  exact ⟨item.1, item.2, rest, if_pos rfl⟩

end Mailbox
