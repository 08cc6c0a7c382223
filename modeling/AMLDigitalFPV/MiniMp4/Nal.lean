import Mathlib.Algebra.Group.Nat.Defs
import Mathlib.Data.List.Basic
import Mathlib.Data.List.DropRight
import Mathlib.Data.List.ReduceOption

namespace amldigitalfpv.minimp4

abbrev Bytes := List UInt8

section

/- The byte behind the data, which the search for a start code reads when the
data end in two zeros or more. -/
variable (past : UInt8)

/-- The search for a start code `00 .. 00 01`, with the number of zeros seen
just before. It returns `zcount`, the length of the start code, and the bytes
after it, or nothing of them when the byte behind the data completes it. -/
def find_start_code (zero_cnt : Nat) : Bytes → Option (Nat × Option Bytes)
  | [] => if past = 1 ∧ zero_cnt ≥ 2 then some (zero_cnt + 1, none) else none
  | byte :: rest =>
    if byte = 0 then
      find_start_code (zero_cnt + 1) rest
    else if byte = 1 ∧ zero_cnt ≥ 2 then
      some (zero_cnt + 1, some rest)
    else
      find_start_code 0 rest

/-- The bytes of the NAL unit that begins with the data: up to the next start
code, or up to the zeros at the end. -/
def nal_unit_bytes (data : Bytes) : Nat :=
  match find_start_code past 0 data with
  | some (zcount, some rest) => data.length - rest.length - zcount
  | some (zcount, none) => data.length + 1 - zcount
  | none => (data.rdropWhile (· = 0)).length

/-- The first NAL unit in the data, and the data from its first byte on. Of a
unit that begins behind the data nothing is known: its length comes to -1. -/
def find_nal_unit (data : Bytes) : Option (Bytes × Bytes) :=
  match find_start_code past 0 data with
  | some (_, some start) => some (start.take (nal_unit_bytes past start), start)
  | some (_, none) => none
  | none => some ([], [])

/-- The NAL units that the loop of `mp4_h26x_write_nal` visits. An empty unit
ends the loop, and each search begins after the first byte of the unit before. -/
def visits_from : Nat → Bytes → List (Option Bytes)
  | 0, _ => []
  | fuel + 1, data =>
    match find_nal_unit past data with
    | none => [none]
    | some found =>
      if found.1 = [] then [] else some found.1 :: visits_from fuel (found.2.drop 1)

def visits (data : Bytes) : List (Option Bytes) := visits_from past data.length data

end

/-- The NAL units of a frame behind which no `01` follows. -/
def nal_units (data : Bytes) : List Bytes := (visits 0 data).reduceOption

/-- The bits of a byte, most significant first. -/
def byte_bits (byte : UInt8) : List Bool :=
  (List.range 8).map fun i => byte.toNat.testBit (7 - i)

/-- The value of an unsigned Golomb code, which begins with `clz` zeros. The
assertion in `show_bits` that `clz` is at most 16 is left out, and bits past the end
count as ones where the source reads on: a slice with `codes_first_mb` meets
neither. -/
def ue_bits_from (clz : Nat) : List Bool → Nat
  | false :: rest => ue_bits_from (clz + 1) rest
  | _ :: rest =>
    2 ^ clz - 1 + (List.range clz).foldl (fun value i => 2 * value + (rest.getD i true).toNat) 0
  | [] => 2 ^ clz - 1 + (2 ^ clz - 1)

def ue_bits (data : Bytes) : Nat := ue_bits_from 0 (data.flatMap byte_bits)

/-- The zeros that `ue_bits` counts. -/
def leading_zeros (data : Bytes) : Nat :=
  ((data.flatMap byte_bits).takeWhile fun bit => ! bit).length

/-- A slice that holds the first one of its `first_mb`, after at most 16 zeros. -/
def codes_first_mb (nal : Bytes) : Bool := true ∈ ((nal.drop 1).flatMap byte_bits).take 17

section

variable {past : UInt8}

theorem find_start_code_length {zero_cnt zcount : Nat} {data rest : Bytes}
    (hfound : find_start_code past zero_cnt data = some (zcount, some rest)) :
    rest.length < data.length := by
  induction data generalizing zero_cnt with
  | nil =>
    rw [find_start_code] at hfound
    split at hfound <;> cases hfound
  | cons byte tail ih =>
    unfold find_start_code at hfound
    split at hfound
    · have hlt := ih hfound
      rw [List.length_cons]
      omega
    · split at hfound
      · cases hfound
        exact Nat.lt_succ_self _
      · have hlt := ih hfound
        rw [List.length_cons]
        omega

theorem find_nal_unit_length {data : Bytes} {found : Bytes × Bytes}
    (hfound : find_nal_unit past data = some found) (hne : found.1 ≠ []) :
    (found.2.drop 1).length < data.length := by
  unfold find_nal_unit at hfound
  split at hfound
  · next zcount start hstart =>
    cases hfound
    have hlt := find_start_code_length hstart
    rw [List.length_drop]
    exact (Nat.sub_le _ _).trans_lt hlt
  · cases hfound
  · cases hfound
    exact absurd rfl hne

theorem visits_from_congr {fuel fuel' : Nat} {data : Bytes} (hfuel : data.length ≤ fuel)
    (hfuel' : data.length ≤ fuel') : visits_from past fuel data = visits_from past fuel' data := by
  have hnil (fuel : Nat) : visits_from past fuel [] = [] := by
    cases fuel with
    | zero => rfl
    | succ fuel =>
      have hfound : find_nal_unit past [] = some ([], []) := by
        unfold find_nal_unit
        rw [find_start_code, if_neg (by omega)]
      rw [visits_from, hfound]
      rfl
  induction fuel generalizing data fuel' with
  | zero =>
    rw [List.eq_nil_of_length_eq_zero (Nat.le_zero.mp hfuel), hnil, hnil]
  | succ fuel ih =>
    cases fuel' with
    | zero => rw [List.eq_nil_of_length_eq_zero (Nat.le_zero.mp hfuel'), hnil, hnil]
    | succ fuel' =>
      rw [visits_from, visits_from]
      cases hfound : find_nal_unit past data with
      | none => rfl
      | some found =>
        dsimp only
        by_cases hne : found.1 = []
        · rw [if_pos hne, if_pos hne]
        · have hlt := find_nal_unit_length hfound hne
          rw [if_neg hne, if_neg hne]
          exact congrArg _ (ih (by omega) (by omega))

/-- The loop of `mp4_h26x_write_nal`, which the length of the data bounds. -/
theorem visits_eq (data : Bytes) :
    visits past data =
      match find_nal_unit past data with
      | none => [none]
      | some found =>
        if found.1 = [] then [] else some found.1 :: visits past (found.2.drop 1) := by
  unfold visits
  rw [visits_from_congr le_rfl (Nat.le_succ _), visits_from]
  cases hfound : find_nal_unit past data with
  | none => rfl
  | some found =>
    dsimp only
    by_cases hne : found.1 = []
    · rw [if_pos hne, if_pos hne]
    · have hlt := find_nal_unit_length hfound hne
      rw [if_neg hne, if_neg hne, visits_from_congr hlt.le le_rfl]

theorem le_ue_bits_from (clz : Nat) (bits : List Bool) : 2 ^ clz - 1 ≤ ue_bits_from clz bits := by
  induction bits generalizing clz with
  | nil => exact Nat.le_add_right _ _
  | cons bit rest ih =>
    cases bit with
    | true => exact Nat.le_add_right _ _
    | false =>
      have hnext := ih (clz + 1)
      have hpow : 2 ^ (clz + 1) = 2 * 2 ^ clz := pow_succ' 2 clz
      rw [ue_bits_from]
      omega

/-- The first bit alone decides whether the value is zero. -/
theorem ue_bits_eq_zero_iff {data : Bytes} :
    ue_bits data = 0 ↔ (data.flatMap byte_bits).head? ≠ some false := by
  unfold ue_bits
  cases data.flatMap byte_bits with
  | nil => simp [ue_bits_from]
  | cons bit rest =>
    cases bit with
    | true => simp [ue_bits_from]
    | false =>
      have hle : 1 ≤ ue_bits_from (0 + 1) rest := le_ue_bits_from (0 + 1) rest
      rw [ue_bits_from]
      simp only [List.head?_cons, ne_eq, not_true_eq_false, iff_false]
      omega

/-- What is behind a slice has no part in the zero test of its `first_mb`. -/
theorem ue_bits_append {nal : Bytes} (hcodes : codes_first_mb nal = true) (behind : Bytes) :
    leading_zeros (nal.drop 1 ++ behind) ≤ 16 ∧
      (ue_bits (nal.drop 1 ++ behind) = 0 ↔ ue_bits (nal.drop 1) = 0) := by
  have hone : true ∈ ((nal.drop 1).flatMap byte_bits).take 17 := of_decide_eq_true hcodes
  have hne : (nal.drop 1).flatMap byte_bits ≠ [] := by
    intro hnil
    rw [hnil] at hone
    cases hone
  rw [ue_bits_eq_zero_iff, ue_bits_eq_zero_iff, leading_zeros, List.flatMap_append,
    List.head?_append_of_ne_nil _ hne]
  refine ⟨?_, Iff.rfl⟩
  by_contra hmany
  -- seventeen zeros in front leave no room for the one
  have hprefix : (((nal.drop 1).flatMap byte_bits ++ behind.flatMap byte_bits).takeWhile
      fun bit => ! bit) <+: (nal.drop 1).flatMap byte_bits ++ behind.flatMap byte_bits :=
    List.takeWhile_prefix _
  have htake := List.prefix_iff_eq_take.mp hprefix
  have hmem : true ∈ ((nal.drop 1).flatMap byte_bits ++ behind.flatMap byte_bits).takeWhile
      fun bit => ! bit := by
    rw [htake]
    apply List.take_subset_take_left _ (show 17 ≤ _ by omega)
    rw [List.take_append]
    exact List.mem_append_left _ hone
  have hzero := List.mem_takeWhile_imp hmem
  cases hzero

/-- Data without zeros hold no start code. -/
theorem find_start_code_of_nonzero {data : Bytes} (hdata : ∀ byte ∈ data, byte ≠ 0) :
    find_start_code past 0 data = none := by
  induction data with
  | nil => exact if_neg (by omega)
  | cons byte tail ih =>
    have hbyte := hdata byte List.mem_cons_self
    rw [find_start_code, if_neg hbyte, if_neg (by omega)]
    exact ih fun other hmem => hdata other (List.mem_cons_of_mem _ hmem)

theorem nal_unit_bytes_of_nonzero {data : Bytes} (hdata : ∀ byte ∈ data, byte ≠ 0) :
    nal_unit_bytes past data = data.length := by
  unfold nal_unit_bytes
  rw [find_start_code_of_nonzero hdata]
  dsimp only
  obtain rfl | ⟨front, last, rfl⟩ := List.eq_nil_or_concat data
  · rfl
  · have hlast : last ≠ 0 := hdata last (by simp)
    rw [List.concat_eq_append, List.rdropWhile_concat_neg _ _ _ (by simpa using hlast)]

end

/-- A frame of one NAL unit behind a four-byte start code. -/
theorem nal_units_single {nal : Bytes} (hne : nal ≠ []) (hnal : ∀ byte ∈ nal, byte ≠ 0) :
    nal_units ([0, 0, 0, 1] ++ nal) = [nal] := by
  have hfound : find_nal_unit 0 ([0, 0, 0, 1] ++ nal) = some (nal, nal) := by
    have hstart : find_start_code 0 0 ([0, 0, 0, 1] ++ nal) = some (4, some nal) := rfl
    unfold find_nal_unit
    rw [hstart]
    dsimp only
    rw [nal_unit_bytes_of_nonzero hnal, List.take_length]
  have hrest : find_nal_unit 0 (nal.drop 1) = some ([], []) := by
    unfold find_nal_unit
    rw [find_start_code_of_nonzero fun byte hmem => hnal byte (List.mem_of_mem_drop hmem)]
  rw [nal_units, visits_eq, hfound]
  dsimp only
  rw [if_neg hne, visits_eq, hrest]
  rfl

end amldigitalfpv.minimp4
