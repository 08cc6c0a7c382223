import Mathlib.Data.Int.Log
import Mathlib.Data.Rat.Floor
import Mathlib.Tactic.FieldSimp
import Mathlib.Tactic.Linarith

namespace floating_point

/-- The whole number nearest to a rational one, the even one of two that are
equally near. -/
def nearest_even (q : ℚ) : ℤ :=
  if Int.fract q < 1 / 2 then ⌊q⌋
  else if 1 / 2 < Int.fract q then ⌊q⌋ + 1
  else if ⌊q⌋ % 2 = 0 then ⌊q⌋
  else ⌊q⌋ + 1

/-- A binary format by its number of significant bits and the exponent of its
smallest unit. There is no largest number. -/
structure Format where
  precision : ℕ
  min_exponent : ℤ
deriving DecidableEq, Repr

def binary64 : Format := { precision := 53, min_exponent := -1074 }

namespace Format

variable (f : Format)

/-- The exponent of the unit in the last place of a number of some size. -/
def exponent (q : ℚ) : ℤ := max (Int.log 2 q - (f.precision - 1)) f.min_exponent

/-- The number of the format nearest to a positive number. -/
def round (q : ℚ) : ℚ := nearest_even (q / 2 ^ f.exponent q) * 2 ^ f.exponent q

/-- Half a unit in the last place. -/
def half_unit (q : ℚ) : ℚ := 2 ^ f.exponent q / 2

end Format

/-- An even number is reached from half a unit below. -/
theorem le_nearest_even_iff {n : ℤ} {q : ℚ} (hn : n % 2 = 0) :
    n ≤ nearest_even q ↔ (n : ℚ) ≤ q + 1 / 2 := by
  have hsplit : (⌊q⌋ : ℚ) + Int.fract q = q := Int.floor_add_fract q
  have hnonneg := Int.fract_nonneg q
  have hlt := Int.fract_lt_one q
  have hbelow (h : n ≤ ⌊q⌋) : (n : ℚ) ≤ q + 1 / 2 := by
    have hcast : (n : ℚ) ≤ ⌊q⌋ := by exact_mod_cast h
    linarith
  have habove (h : ⌊q⌋ + 1 ≤ n) : (⌊q⌋ : ℚ) + 1 ≤ n := by exact_mod_cast h
  unfold nearest_even
  split
  · next hlow =>
    refine ⟨hbelow, fun h => ?_⟩
    by_contra hnot
    have hnext := habove (by omega)
    linarith
  split
  · next hhigh =>
    constructor
    · intro h
      have hcast : (n : ℚ) ≤ ⌊q⌋ + 1 := by exact_mod_cast h
      linarith
    · intro h
      by_contra hnot
      have hnext : (⌊q⌋ : ℚ) + 2 ≤ n := by
        have hle : ⌊q⌋ + 2 ≤ n := by omega
        exact_mod_cast hle
      linarith
  -- halfway between two whole numbers
  have hhalf : Int.fract q = 1 / 2 := le_antisymm (not_lt.mp ‹_›) (not_lt.mp ‹_›)
  have hbetween : (n : ℚ) ≤ q + 1 / 2 ↔ n ≤ ⌊q⌋ + 1 := by
    rw [← hsplit, hhalf, add_assoc]
    norm_num
    exact_mod_cast Iff.rfl
  rw [hbetween]
  split
  · omega
  · rfl

section

variable {f : Format} {q : ℚ}

theorem Format.half_unit_pos : 0 < f.half_unit q := by
  have hunit : (0 : ℚ) < 2 ^ f.exponent q := zpow_pos (by norm_num) _
  exact half_pos hunit

theorem Format.half_unit_le (hfine : f.exponent q < 0) : f.half_unit q ≤ 1 / 4 := by
  have hunit : (2 : ℚ) ^ f.exponent q ≤ 2 ^ (-1 : ℤ) :=
    zpow_le_zpow_right₀ (by norm_num) (by omega)
  unfold half_unit
  rw [zpow_neg_one] at hunit
  linarith

/-- Where the units are small, whole numbers are reached from half a unit
below. -/
theorem Format.le_round_iff (hfine : f.exponent q < 0) {n : ℤ} :
    (n : ℚ) ≤ f.round q ↔ (n : ℚ) ≤ q + f.half_unit q := by
  have hpos : (0 : ℚ) < 2 ^ f.exponent q := zpow_pos (by norm_num) _
  obtain ⟨k, hk⟩ : ∃ k : ℕ, f.exponent q = -(k + 1 : ℕ) := ⟨(-f.exponent q - 1).toNat, by omega⟩
  have hscaled : (n : ℚ) / 2 ^ f.exponent q = ((n * 2 ^ (k + 1) : ℤ) : ℚ) := by
    rw [hk, zpow_neg, zpow_natCast, div_inv_eq_mul]
    push_cast
    rfl
  have heven : n * 2 ^ (k + 1) % 2 = 0 := by
    rw [pow_succ, ← mul_assoc, Int.mul_emod_left]
  rw [round, ← div_le_iff₀ hpos, hscaled, Int.cast_le, le_nearest_even_iff heven, ← hscaled,
    div_le_iff₀ hpos, half_unit]
  have hexpand : (q / 2 ^ f.exponent q + 1 / 2) * 2 ^ f.exponent q =
      q + 2 ^ f.exponent q / 2 := by
    field_simp
  rw [hexpand]

theorem Format.floor_round (hfine : f.exponent q < 0) :
    ⌊f.round q⌋ = ⌊q + f.half_unit q⌋ := by
  apply le_antisymm
  · rw [Int.le_floor, ← le_round_iff hfine]
    exact Int.floor_le _
  · rw [Int.le_floor, le_round_iff hfine]
    exact Int.floor_le _

/-- A number with fewer bits before the point than the format has is rounded to
some places after it. -/
theorem Format.exponent_neg (hq : 0 < q) (hlt : q < 2 ^ (f.precision - 1 : ℤ))
    (hmin : f.min_exponent < 0) : f.exponent q < 0 := by
  have hlog : Int.log 2 q < f.precision - 1 :=
    (Int.lt_zpow_iff_log_lt (by decide) hq).mp (by exact_mod_cast hlt)
  exact max_lt (by omega) hmin

end

end floating_point
