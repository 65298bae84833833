/-
  Galoy.Lib.Rounding

  Integer division with a remainder test, read as a rounding of the exact
  quotient.  For a non-negative numerator `a` and a positive divisor `b`, the
  truncating quotient `a.tdiv b` is the floor of `a / b`; adding one when the
  remainder is positive gives the ceiling; adding one when the remainder is
  above `b.tdiv 2` gives the nearest integer with exact halves rounded down.
  In that last test the parity of `b` matters: an odd `b` leaves no remainder
  exactly at the half, an even one leaves `b / 2`, which stays down.

  Each rounding is characterised once by the bracket its value lies in
  (`*_intCast_div_eq`); the facts about the three roundings (ordering,
  distance, monotonicity) are proved on the exact quotient.
-/

import Mathlib.Algebra.Order.Floor.Ring
import Mathlib.Algebra.Order.Field.Basic
import Mathlib.Data.Int.ConditionallyCompleteOrder

namespace Rounding

variable {K : Type*} [Field K] [LinearOrder K] [IsStrictOrderedRing K] [FloorRing K]

-- ============================================================================
-- Nearest integer, halves rounded down
-- ============================================================================

/-- The integer nearest to `q`; an exact half goes to the smaller one. -/
def roundHalfDown (q : K) : ℤ := ⌈q - 1 / 2⌉

theorem roundHalfDown_eq_iff {q : K} {z : ℤ} :
    roundHalfDown q = z ↔ (z : K) - 1 / 2 < q ∧ q ≤ z + 1 / 2 := by
  unfold roundHalfDown
  rw [Int.ceil_eq_iff]
  constructor
  · rintro ⟨h₁, h₂⟩
    constructor <;> linarith
  · rintro ⟨h₁, h₂⟩
    constructor <;> linarith

theorem roundHalfDown_mono : Monotone (roundHalfDown : K → ℤ) := by
  intro q q' h
  exact Int.ceil_mono (sub_le_sub_right h _)

theorem floor_le_roundHalfDown (q : K) : ⌊q⌋ ≤ roundHalfDown q := by
  unfold roundHalfDown
  rw [Int.le_ceil_iff]
  have := Int.floor_le q
  linarith

theorem roundHalfDown_le_ceil (q : K) : roundHalfDown q ≤ ⌈q⌉ :=
  Int.ceil_mono (by linarith)

/-- A value at most half above `z` rounds to `z` or below. -/
theorem roundHalfDown_le_of_le {q : K} {z : ℤ} (h : q ≤ z + 1 / 2) : roundHalfDown q ≤ z := by
  unfold roundHalfDown
  rw [Int.ceil_le]
  linarith

/-- The rounded value is at most half below the exact one. -/
theorem roundHalfDown_le_add_half (q : K) : (roundHalfDown q : K) ≤ q + 1 / 2 := by
  have := Int.ceil_lt_add_one (q - 1 / 2)
  unfold roundHalfDown
  linarith

theorem roundHalfDown_nonneg {q : K} (hq : 0 ≤ q) : 0 ≤ roundHalfDown q := by
  unfold roundHalfDown
  rw [Int.le_ceil_iff]
  push_cast
  linarith

theorem roundHalfDown_zero : roundHalfDown (0 : K) = 0 :=
  roundHalfDown_eq_iff.mpr ⟨by norm_num, by norm_num⟩

-- ============================================================================
-- Rounding that keeps a positive value positive
-- ============================================================================

/-- `roundHalfDown`, except that a positive value that would round to zero
    rounds to one. -/
def roundHalfDownPos (q : K) : ℤ := if 0 < q ∧ roundHalfDown q = 0 then 1 else roundHalfDown q

theorem roundHalfDownPos_zero : roundHalfDownPos (0 : K) = 0 := by
  unfold roundHalfDownPos
  rw [if_neg (fun h => lt_irrefl _ h.1), roundHalfDown_zero]

theorem roundHalfDownPos_of_pos {q : K} (hq : 0 < q) :
    roundHalfDownPos q = max 1 (roundHalfDown q) := by
  have hNonneg := roundHalfDown_nonneg hq.le
  unfold roundHalfDownPos
  split_ifs with h
  · rw [h.2]
    rfl
  · have hNe : roundHalfDown q ≠ 0 := fun h0 => h ⟨hq, h0⟩
    omega

theorem roundHalfDownPos_nonneg {q : K} (hq : 0 ≤ q) : 0 ≤ roundHalfDownPos q := by
  rcases hq.lt_or_eq with hPos | rfl
  · rw [roundHalfDownPos_of_pos hPos]
    omega
  · rw [roundHalfDownPos_zero]

theorem roundHalfDownPos_pos {q : K} (hq : 0 < q) : 0 < roundHalfDownPos q := by
  rw [roundHalfDownPos_of_pos hq]
  omega

theorem floor_le_roundHalfDownPos (q : K) : ⌊q⌋ ≤ roundHalfDownPos q := by
  have := floor_le_roundHalfDown q
  unfold roundHalfDownPos
  split_ifs with h
  · omega
  · exact this

theorem roundHalfDownPos_le_ceil (q : K) : roundHalfDownPos q ≤ ⌈q⌉ := by
  have := roundHalfDown_le_ceil q
  unfold roundHalfDownPos
  split_ifs with h
  · exact Int.one_le_ceil_iff.mpr h.1
  · exact this

theorem roundHalfDownPos_mono {q q' : K} (hq : 0 ≤ q) (h : q ≤ q') :
    roundHalfDownPos q ≤ roundHalfDownPos q' := by
  rcases hq.lt_or_eq with hPos | rfl
  · -- both positive: the floor of one on each side, and the rounding is monotone
    rw [roundHalfDownPos_of_pos hPos, roundHalfDownPos_of_pos (hPos.trans_le h)]
    exact max_le_max le_rfl (roundHalfDown_mono h)
  · rw [roundHalfDownPos_zero]
    exact roundHalfDownPos_nonneg h

-- ============================================================================
-- The three roundings of a quotient, by the bracket they lie in
-- ============================================================================

section Brackets

variable {a b z : ℤ}

theorem floor_intCast_div_eq (hb : 0 < b) (h₁ : z * b ≤ a) (h₂ : a < (z + 1) * b) :
    ⌊(a : K) / b⌋ = z := by
  have hb' : (0 : K) < b := by exact_mod_cast hb
  rw [Int.floor_eq_iff, le_div_iff₀ hb', div_lt_iff₀ hb']
  exact ⟨by exact_mod_cast h₁, by exact_mod_cast h₂⟩

theorem ceil_intCast_div_eq (hb : 0 < b) (h₁ : (z - 1) * b < a) (h₂ : a ≤ z * b) :
    ⌈(a : K) / b⌉ = z := by
  have hb' : (0 : K) < b := by exact_mod_cast hb
  rw [Int.ceil_eq_iff, lt_div_iff₀ hb', div_le_iff₀ hb']
  exact ⟨by exact_mod_cast h₁, by exact_mod_cast h₂⟩

theorem roundHalfDown_intCast_div_eq (hb : 0 < b) (h₁ : (2 * z - 1) * b < 2 * a)
    (h₂ : 2 * a ≤ (2 * z + 1) * b) : roundHalfDown ((a : K) / b) = z := by
  have hb' : (0 : K) < b := by exact_mod_cast hb
  have h₁' : ((2 * z - 1) * b : K) < 2 * a := by exact_mod_cast h₁
  have h₂' : (2 * a : K) ≤ (2 * z + 1) * b := by exact_mod_cast h₂
  rw [roundHalfDown_eq_iff, lt_div_iff₀ hb', div_le_iff₀ hb']
  constructor <;> linarith

end Brackets

-- ============================================================================
-- Truncating division of a non-negative numerator
-- ============================================================================

section Truncating

variable {a b : ℤ}

/-- The quotient and remainder of `a` by `b`: `a = b * q + r` with `0 ≤ r < b`. -/
theorem tdiv_tmod_bounds (ha : 0 ≤ a) (hb : 0 < b) :
    b * a.tdiv b + a.tmod b = a ∧ 0 ≤ a.tmod b ∧ a.tmod b < b :=
  ⟨Int.mul_tdiv_add_tmod a b, Int.tmod_nonneg b ha, Int.tmod_lt_of_pos a hb⟩

theorem tdiv_eq_floor (ha : 0 ≤ a) (hb : 0 < b) : a.tdiv b = ⌊(a : K) / b⌋ := by
  obtain ⟨hSplit, hr₀, hr₁⟩ := tdiv_tmod_bounds ha hb
  symm
  apply floor_intCast_div_eq hb <;> linarith

/-- One more than the quotient when the remainder is positive: the ceiling. -/
theorem tdiv_up_eq_ceil (ha : 0 ≤ a) (hb : 0 < b) :
    (if a.tmod b > 0 then a.tdiv b + 1 else a.tdiv b) = ⌈(a : K) / b⌉ := by
  obtain ⟨hSplit, hr₀, hr₁⟩ := tdiv_tmod_bounds ha hb
  symm
  split_ifs with hr
  · apply ceil_intCast_div_eq hb <;> linarith
  · have hr0 : a.tmod b = 0 := by omega
    apply ceil_intCast_div_eq hb <;> linarith

/-- One more than the quotient when the remainder is above `b.tdiv 2`: the
    nearest integer, halves rounded down. -/
theorem tdiv_round_eq_roundHalfDown (ha : 0 ≤ a) (hb : 0 < b) :
    (if a.tmod b > b.tdiv 2 then a.tdiv b + 1 else a.tdiv b) = roundHalfDown ((a : K) / b) := by
  obtain ⟨hSplit, hr₀, hr₁⟩ := tdiv_tmod_bounds ha hb
  -- the remainder test against `b.tdiv 2` is a test of `2 * r` against `b`
  have hHalf : b.tdiv 2 = b / 2 := Int.tdiv_eq_ediv_of_nonneg hb.le
  symm
  split_ifs with hr
  · have hAbove : b < 2 * a.tmod b := by omega
    apply roundHalfDown_intCast_div_eq hb <;> linarith
  · have hBelow : 2 * a.tmod b ≤ b := by omega
    apply roundHalfDown_intCast_div_eq hb <;> linarith

/-- A numerator at or below `-b` has a quotient at or below `-1` and a
    remainder that is never positive, so no rounding-up test fires. -/
theorem tdiv_le_neg_one (hb : 0 < b) (ha : a ≤ -b) : a.tdiv b ≤ -1 ∧ a.tmod b ≤ 0 := by
  have hQuot : (-a).tdiv b = -a / b := Int.tdiv_eq_ediv_of_nonneg (by omega)
  have hOne : 1 ≤ -a / b := (Int.le_ediv_iff_mul_le hb).mpr (by omega)
  have hNeg : a.tdiv b = -(-a).tdiv b := by rw [Int.neg_tdiv, neg_neg]
  have hMod : a.tmod b = -(-a).tmod b := by rw [Int.neg_tmod, neg_neg]
  have hModNonneg := Int.tmod_nonneg b (show 0 ≤ -a by omega)
  omega

/-- A non-positive numerator has a non-positive quotient and remainder. -/
theorem tdiv_nonpos_of_nonpos (hb : 0 < b) (ha : a ≤ 0) : a.tdiv b ≤ 0 ∧ a.tmod b ≤ 0 := by
  have hNeg : a.tdiv b = -(-a).tdiv b := by rw [Int.neg_tdiv, neg_neg]
  have hMod : a.tmod b = -(-a).tmod b := by rw [Int.neg_tmod, neg_neg]
  have hQuotNonneg := Int.tdiv_nonneg (show 0 ≤ -a by omega) hb.le
  have hModNonneg := Int.tmod_nonneg b (show 0 ≤ -a by omega)
  omega

end Truncating

end Rounding
