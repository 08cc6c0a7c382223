import AMLDigitalFPV.Library.Items
import AMLDigitalFPV.MiniMp4.Index

namespace amldigitalfpv.minimp4

open big_endian items

theorem holds_item_pack {sets : List Bytes} (hsets : ∀ set ∈ sets, Fits set) (mem : Bytes) :
    holds_item mem (pack sets).length (pack sets) = decide (mem ∈ sets) := by
  induction sets with
  | nil => rfl
  | cons set rest ih =>
    have hfits := hsets set List.mem_cons_self
    have hpositive := List.length_pos_iff.mpr hfits.1
    have hlength := length_pack_cons set rest
    rw [holds_item_eq, if_neg (by omega)]
    dsimp only
    rw [size_pack hfits, take_pack, drop_pack, ih fun other hmem =>
      hsets other (List.mem_cons_of_mem _ hmem)]
    by_cases heq : set = mem
    · rw [if_pos ⟨by rw [heq], heq⟩, heq]
      simp
    · rw [if_neg fun hand => heq hand.2]
      simp [Ne.symm heq]

theorem items_count_from_pack {sets : List Bytes} (hsets : ∀ set ∈ sets, Fits set) {fuel : Nat}
    (hfuel : sets.length ≤ fuel) : items_count_from fuel (pack sets) = sets.length := by
  induction sets generalizing fuel with
  | nil => cases fuel <;> rfl
  | cons set rest ih =>
    have hfits := hsets set List.mem_cons_self
    have hpositive := List.length_pos_iff.mpr hfits.1
    have hlength := length_pack_cons set rest
    cases fuel with
    | zero => simp at hfuel
    | succ fuel =>
      rw [items_count_from, if_neg (by omega)]
      dsimp only
      rw [size_pack hfits, drop_pack,
        ih (fun other hmem => hsets other (List.mem_cons_of_mem _ hmem))
        (Nat.le_of_succ_le_succ hfuel), List.length_cons, Nat.add_comm]

theorem length_le_length_pack {sets : List Bytes} : sets.length ≤ (pack sets).length := by
  induction sets with
  | nil => exact le_rfl
  | cons set rest ih =>
    rw [length_pack_cons, List.length_cons]
    omega

/-- The number written before the sets is the number of sets. -/
theorem items_count_pack {sets : List Bytes} (hsets : ∀ set ∈ sets, Fits set) :
    items_count (pack sets) = sets.length :=
  items_count_from_pack hsets length_le_length_pack

/-- With memory at hand a set joins the list unless it is there already. -/
theorem append_mem_pack {σ : Type} (calls : Calls σ) {sets : List Bytes}
    (hsets : ∀ set ∈ sets, Fits set) (mem : Bytes) {s : σ}
    (hsize : (calls.malloc s).1 = true) (hitem : (calls.malloc (calls.malloc s).2).1 = true) :
    append_mem calls mem (pack sets) s =
      (true, pack (adjoin mem sets),
        if mem ∈ sets then s else (calls.malloc (calls.malloc s).2).2) := by
  unfold append_mem adjoin
  rw [holds_item_pack hsets]
  by_cases hmem : mem ∈ sets
  · simp [hmem]
  · simp only [hmem, decide_false, Bool.false_eq_true, if_false, hsize, hitem, not_true_eq_false,
      if_true, pack_concat, encode_two]

end amldigitalfpv.minimp4
