import JsonSchema.Number
import Mathlib.Algebra.Order.Field.Rat
import Mathlib.Algebra.Order.Field.Power
import Mathlib.Tactic.FieldSimp
import Mathlib.Tactic.Linarith
import Mathlib.Tactic.Ring

/-!
# The decimals that doubles are written with

A double is written with a decimal that rounds to it. The reals that round to a double are an
interval, and the intervals of two doubles have nothing in common: where they meet, the end belongs
to the one with the even significand.

* `Decimal.value`: what a decimal stands for.
* `Double.IsNear`: the reals that round to a double, up to the sign.
* `Double.parts_eq_of_isNear`: no real rounds to two doubles.
* `Double.shortest_isNear`: the decimal that a double is written with rounds to it.
-/

namespace JsonSchema

/-! ## Scaled numbers -/

/-- The number that a decimal stands for. -/
def Decimal.value (d : Decimal) : ℚ := d.digits * 10 ^ d.exponent

theorem zpow_eq_div (b : ℚ) (i : ℤ) : b ^ i = b ^ i.toNat / b ^ (-i).toNat := by
  cases i with
  | ofNat n => simp
  | negSucc n => simp [zpow_negSucc]

namespace Decimal

/-- Both sides of a comparison of scaled numbers are scaled further to natural numbers. -/
theorem compareScaled_eq (a : ℕ) (i : ℤ) (n : ℕ) (j : ℤ) :
    compareScaled a i n j = compare (a * 10 ^ i : ℚ) (n * 2 ^ j) := by
  have factor : (0 : ℚ) < 10 ^ (-i).toNat * 2 ^ (-j).toNat := by positivity
  have left : ((a * Nat.pow 10 i.toNat * Nat.pow 2 (-j).toNat : ℕ) : ℚ) =
      a * 10 ^ i * (10 ^ (-i).toNat * 2 ^ (-j).toNat) := by
    rw [zpow_eq_div 10 i]
    simp only [Nat.pow_eq, Nat.cast_mul, Nat.cast_pow, Nat.cast_ofNat]
    field_simp
  have right : ((n * Nat.pow 2 j.toNat * Nat.pow 10 (-i).toNat : ℕ) : ℚ) =
      n * 2 ^ j * (10 ^ (-i).toNat * 2 ^ (-j).toNat) := by
    rw [zpow_eq_div 2 j]
    simp only [Nat.pow_eq, Nat.cast_mul, Nat.cast_pow, Nat.cast_ofNat]
    field_simp
  rw [compareScaled]
  rcases lt_trichotomy (a * 10 ^ i : ℚ) (n * 2 ^ j) with less | same | more
  · rw [compare_lt_iff_lt.2 less, compare_lt_iff_lt, ← Nat.cast_lt (α := ℚ), left, right]
    exact mul_lt_mul_of_pos_right less factor
  · rw [compare_eq_iff_eq.2 same, compare_eq_iff_eq, ← Nat.cast_inj (R := ℚ), left, right, same]
  · rw [compare_gt_iff_gt.2 more, compare_gt_iff_gt, ← Nat.cast_lt (α := ℚ), left, right]
    exact mul_lt_mul_of_pos_right more factor

/-- Zeros at the end of the digits make no difference. -/
theorem stripZeros_value (fuel : ℕ) (d : Decimal) : (d.stripZeros fuel).value = d.value := by
  induction fuel generalizing d with
  | zero => rfl
  | succ fuel ih =>
    rw [stripZeros]
    split
    · next zero =>
      have digits : (d.digits : ℚ) = (d.digits / 10 : ℕ) * 10 := by
        exact_mod_cast (Nat.div_mul_cancel (Nat.dvd_of_mod_eq_zero zero.1)).symm
      rw [ih, value, value, digits, zpow_add₀ (by norm_num : (10 : ℚ) ≠ 0)]
      simp only [zpow_one]
      ring
    · rfl

end Decimal

/-! ## Rounding intervals -/

namespace Double

/-- Four times the significand, less what it takes to the lower end of the rounding interval. -/
def low (x : Double) : ℕ :=
  if x.significand == Nat.pow 2 52 && x.exponent != -1074 then 4 * x.significand - 1
  else 4 * x.significand - 2

/-- Below a power of two the interval is half as wide. -/
theorem low_cases (x : Double) :
    (x.significand = 2 ^ 52 ∧ x.exponent ≠ -1074 ∧ x.low = 2 ^ 54 - 1) ∨
      ((x.significand ≠ 2 ^ 52 ∨ x.exponent = -1074) ∧ x.low = 4 * x.significand - 2) := by
  unfold low
  split
  · next narrow =>
    rw [Bool.and_eq_true, beq_iff_eq, bne_iff_ne] at narrow
    exact .inl ⟨narrow.1, narrow.2, by rw [narrow.1]; norm_num⟩
  · next wide =>
    rw [Bool.and_eq_true, beq_iff_eq, bne_iff_ne, not_and_or, not_not] at wide
    exact .inr ⟨wide, rfl⟩

/-- A number rounds to the absolute value of a double. -/
def IsNear (x : Double) (v : ℚ) : Prop :=
  (x.low * 2 ^ (x.exponent - 2) < v ∨ x.significand % 2 = 0 ∧ x.low * 2 ^ (x.exponent - 2) = v) ∧
    (v < (4 * x.significand + 2 : ℕ) * 2 ^ (x.exponent - 2) ∨
      x.significand % 2 = 0 ∧ v = (4 * x.significand + 2 : ℕ) * 2 ^ (x.exponent - 2))

theorem isNear_of_readsBack {x : Double} {d : Decimal} (h : x.readsBack d = true) :
    x.IsNear d.value := by
  have ends : x.readsBack d =
      ((Decimal.compareScaled d.digits d.exponent x.low (x.exponent - 2) == .gt ||
        (x.significand % 2 == 0 &&
          Decimal.compareScaled d.digits d.exponent x.low (x.exponent - 2) == .eq)) &&
      (Decimal.compareScaled d.digits d.exponent (4 * x.significand + 2) (x.exponent - 2) == .lt ||
        (x.significand % 2 == 0 &&
          Decimal.compareScaled d.digits d.exponent (4 * x.significand + 2) (x.exponent - 2) ==
            .eq))) := rfl
  simp only [ends, Decimal.compareScaled_eq, Bool.and_eq_true, Bool.or_eq_true, beq_iff_eq,
    compare_gt_iff_gt, compare_eq_iff_eq, compare_lt_iff_lt] at h
  obtain ⟨below, above⟩ := h
  exact ⟨below.imp (fun h => h) fun h => ⟨h.1, h.2.symm⟩, above⟩

/-- A double is inside of its own rounding interval. -/
theorem isNear_self {x : Double} (some_ : x.significand ≠ 0) :
    x.IsNear (x.significand * 2 ^ x.exponent) := by
  have unit : (0 : ℚ) < 2 ^ (x.exponent - 2) := by positivity
  have value : (x.significand * 2 ^ x.exponent : ℚ) =
      (4 * x.significand : ℕ) * 2 ^ (x.exponent - 2) := by
    rw [zpow_sub₀ (by norm_num : (2 : ℚ) ≠ 0)]
    push_cast
    ring
  have lower : x.low < 4 * x.significand := by
    rcases x.low_cases with ⟨narrow, -, low⟩ | ⟨-, low⟩
    · rw [low, narrow]
      norm_num
    · omega
  rw [value]
  exact ⟨.inl (mul_lt_mul_of_pos_right (Nat.cast_lt.2 lower) unit),
    .inl (mul_lt_mul_of_pos_right (Nat.cast_lt.2 (by omega)) unit)⟩

/-- Where two rounding intervals have a number in common, the one does not begin behind the end of
    the other, and if it begins there then both ends belong to them. -/
theorem low_le_of_isNear {x y : Double} {v : ℚ} (hx : x.IsNear v) (hy : y.IsNear v) {k : ℕ}
    (apart : y.exponent = x.exponent + k) :
    y.low * 2 ^ k ≤ 4 * x.significand + 2 ∧ (y.low * 2 ^ k = 4 * x.significand + 2 →
      x.significand % 2 = 0 ∧ y.significand % 2 = 0) := by
  have unit : (0 : ℚ) < 2 ^ (x.exponent - 2) := by positivity
  have scaled : (y.low * 2 ^ (y.exponent - 2) : ℚ) = (y.low * 2 ^ k : ℕ) * 2 ^ (x.exponent - 2) := by
    rw [apart, show x.exponent + k - 2 = (k : ℤ) + (x.exponent - 2) by ring,
      zpow_add₀ (by norm_num : (2 : ℚ) ≠ 0), zpow_natCast]
    push_cast
    ring
  have begins := hy.1
  have ends := hx.2
  rw [scaled] at begins
  constructor
  · have le : ((y.low * 2 ^ k : ℕ) * 2 ^ (x.exponent - 2) : ℚ) ≤
        (4 * x.significand + 2 : ℕ) * 2 ^ (x.exponent - 2) :=
      (begins.elim le_of_lt fun h => le_of_eq h.2).trans (ends.elim le_of_lt fun h => le_of_eq h.2)
    exact Nat.cast_le.1 (le_of_mul_le_mul_right le unit)
  · intro same
    rw [same] at begins
    rcases begins with begins | begins
    · rcases ends with ends | ends
      · exact absurd (begins.trans ends) (lt_irrefl _)
      · exact absurd ends.2 (ne_of_gt begins)
    · rcases ends with ends | ends
      · exact absurd begins.2 (ne_of_gt ends)
      · exact ⟨ends.1, begins.1⟩

theorem parts_eq_of_le {x y : Double} {v : ℚ} (hx : x.IsNear v) (hy : y.IsNear v)
    (le : x.exponent ≤ y.exponent) : x.significand = y.significand ∧ x.exponent = y.exponent := by
  obtain ⟨k, apart⟩ : ∃ k : ℕ, y.exponent = x.exponent + k :=
    ⟨(y.exponent - x.exponent).toNat, by omega⟩
  obtain ⟨ends, both⟩ := low_le_of_isNear hx hy apart
  obtain ⟨small, least, -, fullX⟩ := x.canonical
  obtain ⟨-, -, -, fullY⟩ := y.canonical
  have lowX := x.low_cases
  have lowY := y.low_cases
  norm_num at small fullX fullY lowX lowY
  cases k with
  | zero =>
    have apart : y.exponent = x.exponent := by omega
    obtain ⟨ends', both'⟩ := low_le_of_isNear hy hx (k := 0) (by omega)
    rw [pow_zero, mul_one] at ends both ends' both'
    omega
  | succ k =>
    -- the greater exponent is not the least one, so its significand is full
    have greater : y.exponent ≠ -1074 := by omega
    have lower : y.low * 2 ≤ y.low * 2 ^ (k + 1) := by
      have power : 1 ≤ 2 ^ k := Nat.one_le_two_pow
      rw [pow_succ, ← mul_assoc]
      exact Nat.mul_le_mul_right 2 (Nat.le_mul_of_pos_right _ power)
    generalize y.low * 2 ^ (k + 1) = scaled at ends both lower
    omega

/-- No number rounds to the absolute values of two doubles. -/
theorem parts_eq_of_isNear {x y : Double} {v : ℚ} (hx : x.IsNear v) (hy : y.IsNear v) :
    x.significand = y.significand ∧ x.exponent = y.exponent := by
  rcases le_total x.exponent y.exponent with le | le
  · exact parts_eq_of_le hx hy le
  · exact (parts_eq_of_le hy hx le).imp Eq.symm Eq.symm

/-! ## Digits -/

theorem readsBack_of_onGrid? {x : Double} {tieUp : Bool} {exponent : ℤ} {d : Decimal}
    (found : x.onGrid? tieUp exponent = some d) : x.readsBack d = true := by
  simp only [onGrid?] at found
  split at found
  · next lower upper =>
    split at found
    · cases found
      exact lower
    · cases found
      exact upper
    · split at found <;> cases found
      · exact upper
      · exact lower
  · next lower _ => cases found; exact lower
  · next _ upper => cases found; exact upper
  · cases found

/-- The digits that a double has in full. -/
theorem value_exact (x : Double) :
    Decimal.value ⟨x.significand * Nat.pow 2 x.exponent.toNat * Nat.pow 5 (-x.exponent).toNat,
      min x.exponent 0⟩ = x.significand * 2 ^ x.exponent := by
  rw [Decimal.value, zpow_eq_div 2]
  rcases le_total 0 x.exponent with positive | negative
  · have none_ : (-x.exponent).toNat = 0 := by omega
    simp [min_eq_right positive, none_]
  · obtain ⟨n, same⟩ : ∃ n : ℕ, x.exponent = -n := ⟨x.exponent.natAbs, by omega⟩
    have up : x.exponent.toNat = 0 := by omega
    have down : (-x.exponent).toNat = n := by omega
    have ten : (10 : ℚ) ^ (-(n : ℤ)) = 1 / (2 ^ n * 5 ^ n) := by
      rw [zpow_neg, zpow_natCast, ← mul_pow]
      norm_num
    simp only [min_eq_left negative, up, down]
    rw [same, ten]
    simp only [Nat.pow_eq, pow_zero, Nat.cast_mul, Nat.cast_pow, Nat.cast_ofNat, Nat.cast_one]
    field_simp

/-- The decimal that a double is written with rounds to it. -/
theorem shortest_isNear {x : Double} (some_ : x.significand ≠ 0) (tieUp : Bool) :
    x.IsNear (x.shortest tieUp).value := by
  rw [shortest, Decimal.stripZeros_value]
  cases found : (List.range 17).findSome? fun n => x.onGrid? tieUp (x.decimalScale - (n + 1 : ℕ)) with
  | some d =>
    obtain ⟨n, -, onGrid⟩ := List.exists_of_findSome?_eq_some found
    exact isNear_of_readsBack (readsBack_of_onGrid? onGrid)
  | none =>
    rw [Option.getD_none, value_exact]
    exact isNear_self some_

/-- What rounds to a double other than zero is positive. -/
theorem IsNear.pos {x : Double} {v : ℚ} (near : x.IsNear v) (some_ : x.significand ≠ 0) : 0 < v := by
  have lower : 0 < x.low := by
    have cases_ := x.low_cases
    norm_num at cases_
    omega
  have begins : (0 : ℚ) < x.low * 2 ^ (x.exponent - 2) :=
    mul_pos (Nat.cast_pos.2 lower) (by positivity)
  rcases near.1 with less | same
  · exact begins.trans less
  · exact same.2 ▸ begins

end Double

end JsonSchema
