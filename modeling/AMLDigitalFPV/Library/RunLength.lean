import Mathlib.Data.List.Basic
import Mathlib.Data.List.SplitBy

namespace amldigitalfpv.run_length

variable {α : Type} [DecidableEq α]

/-- The runs of equal items, each with its length. -/
def runs : List α → List (Nat × α)
  | [] => []
  | item :: rest =>
    match runs rest with
    | [] => [(1, item)]
    | (count, next) :: others =>
      if item = next then (count + 1, next) :: others else (1, item) :: (count, next) :: others

/-- The items that a list of runs stands for. -/
def expand (entries : List (Nat × α)) : List α :=
  entries.flatMap fun entry => List.replicate entry.1 entry.2

omit [DecidableEq α] in
@[simp] theorem expand_cons (entry : Nat × α) (entries : List (Nat × α)) :
    expand (entry :: entries) = List.replicate entry.1 entry.2 ++ expand entries := rfl

omit [DecidableEq α] in
@[simp] theorem expand_nil : expand ([] : List (Nat × α)) = [] := rfl

theorem expand_runs (items : List α) : expand (runs items) = items := by
  induction items with
  | nil => rfl
  | cons item rest ih =>
    rw [runs]
    split
    · next hruns =>
      rw [hruns] at ih
      rw [← ih]
      rfl
    · next count next others hruns =>
      rw [hruns] at ih
      split
      · next heq =>
        rw [← ih, heq]
        rfl
      · rw [expand_cons, ih]
        rfl

theorem runs_eq_nil_iff {items : List α} : runs items = [] ↔ items = [] := by
  constructor
  · intro hruns
    rw [← expand_runs items, hruns, expand_nil]
  · rintro rfl
    rfl

theorem length_runs_le (items : List α) : (runs items).length ≤ items.length := by
  induction items with
  | nil => exact le_rfl
  | cons item rest ih =>
    rw [runs]
    split
    · exact Nat.succ_le_succ (Nat.zero_le _)
    · next hruns =>
      rw [hruns] at ih
      split
      · exact ih.trans (Nat.le_succ _)
      · exact Nat.succ_le_succ ih

section

variable {β : Type} {r : β → β → Bool} {items : List β} {item : β}

/-- An item that does not go with the last one starts a group. -/
theorem splitBy_concat_of_not_rel (hlast : ∀ last ∈ items.getLast?, r last item = false) :
    (items ++ [item]).splitBy r = items.splitBy r ++ [[item]] := by
  rw [List.splitBy_append_cons [] hlast]
  rfl

/-- An item that goes with the last one joins its group. -/
theorem splitBy_concat_of_rel {groups : List (List β)} {group : List β}
    (hgroups : items.splitBy r = groups ++ [group])
    (hlast : ∀ last ∈ items.getLast?, r last item = true) :
    (items ++ [item]).splitBy r = groups ++ [group ++ [item]] := by
  obtain ⟨hflatten, hnil, hchain, hbreaks⟩ := List.splitBy_eq_iff.mp hgroups
  have hgroup : group ≠ [] := fun hempty => hnil (by simp [hempty])
  have hend : items.getLast? = group.getLast? := by
    rw [hflatten, List.flatten_append, List.flatten_singleton,
      List.getLast?_append_of_ne_nil _ hgroup]
  rw [List.splitBy_eq_iff]
  refine ⟨?_, ?_, ?_, ?_⟩
  · rw [hflatten]
    simp
  · rw [List.mem_append, not_or] at hnil ⊢
    exact ⟨hnil.1, by simp⟩
  · intro part hpart
    rw [List.mem_append, List.mem_singleton] at hpart
    obtain hpart | rfl := hpart
    · exact hchain part (List.mem_append_left _ hpart)
    · rw [List.isChain_append]
      refine ⟨hchain group (by simp), List.isChain_singleton _, fun last hmem next hnext => ?_⟩
      cases hnext
      exact hlast last (hend ▸ hmem)
  · rw [List.isChain_append] at hbreaks ⊢
    refine ⟨hbreaks.1, List.isChain_singleton _, fun last hmem next hnext => ?_⟩
    cases hnext
    obtain ⟨hne, hne', hbreak⟩ := hbreaks.2.2 last hmem group rfl
    exact ⟨hne, by simp, by rw [List.head_append_of_ne_nil hne']; exact hbreak⟩

end

end amldigitalfpv.run_length
