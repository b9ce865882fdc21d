import JsonSchema.Proofs.Json.Decimals
import Mathlib.Algebra.Order.Field.Basic
import Mathlib.Data.Nat.Cast.Order.Field
import Mathlib.Tactic.NormNum.Pow

/-!
# Rounding to doubles

Arithmetic on doubles is exact arithmetic on fractions, rounded once. The rounded number is the
nearest double, and of two doubles at the same distance the one with the even significand.

* `Double.value`: the number that a double stands for.
* `Double.abs_sub_le`: no double is nearer than one in whose rounding interval a number is.
* `Double.even_of_tie`: where another one is as near, the significand is even.
* `Double.size_le_of_isNear`: a greater number is not rounded to a smaller double.
* `Double.isNear_of_nearest`: the rounded quotient of two natural numbers is near to the quotient.
* `Double.exists_nearest`: there is one, unless the quotient is too large.
-/

namespace JsonSchema

namespace Double

/-! ## Values -/

/-- The absolute value of a double. -/
def size (x : Double) : ℚ := x.significand * 2 ^ x.exponent

/-- The number that a double stands for. -/
def value (x : Double) : ℚ := if x.negative then -x.size else x.size

theorem value_zero (negative : Bool) : (zero negative).value = 0 := by
  simp [value, size, zero]

theorem size_nonneg (x : Double) : 0 ≤ x.size :=
  mul_nonneg (Nat.cast_nonneg _) (zpow_nonneg (by norm_num) _)

theorem cast_two_pow (n : ℕ) : ((Nat.pow 2 n : ℕ) : ℚ) = 2 ^ (n : ℤ) := by
  rw [Nat.pow_eq, Nat.cast_pow, zpow_natCast, Nat.cast_ofNat]

theorem unitsPerOne_eq : (unitsPerOne : ℚ) = 2 ^ ((1074 : ℕ) : ℤ) := by
  delta unitsPerOne
  generalize 1074 = n
  exact cast_two_pow n

theorem unitsPerOne_pos : (0 : ℚ) < unitsPerOne := by
  rw [unitsPerOne_eq]
  exact zpow_pos two_pos _

theorem magnitude_eq (x : Double) : (x.magnitude : ℚ) = x.size * unitsPerOne := by
  have least := x.canonical.2.1
  have exponent : ((x.exponent + 1074).toNat : ℤ) = x.exponent + (1074 : ℕ) := by omega
  rw [magnitude, size, Nat.cast_mul, cast_two_pow, exponent, unitsPerOne_eq,
    zpow_add₀ (by norm_num : (2 : ℚ) ≠ 0), mul_assoc]

theorem abs_value (x : Double) : |x.value| = x.size := by
  rw [value]
  split
  · rw [abs_neg, abs_of_nonneg x.size_nonneg]
  · rw [abs_of_nonneg x.size_nonneg]

theorem units_eq (x : Double) : (x.units : ℚ) = x.value * unitsPerOne := by
  rw [units, value]
  split
  · rw [Int.cast_neg, Int.cast_natCast, magnitude_eq, neg_mul]
  · rw [Int.cast_natCast, magnitude_eq]

theorem le_iff {x y : Double} : x.le y = true ↔ x.value ≤ y.value := by
  rw [le, decide_eq_true_eq, ← Int.cast_le (R := ℚ), units_eq, units_eq]
  exact mul_le_mul_iff_left₀ unitsPerOne_pos

theorem lt_iff {x y : Double} : x.lt y = true ↔ x.value < y.value := by
  rw [lt, decide_eq_true_eq, ← Int.cast_lt (R := ℚ), units_eq, units_eq]
  exact mul_lt_mul_iff_left₀ unitsPerOne_pos

theorem eq_iff {x y : Double} : x.eq y = true ↔ x.value = y.value := by
  rw [eq, beq_iff_eq, ← Int.cast_inj (α := ℚ), units_eq, units_eq]
  exact mul_left_inj' unitsPerOne_pos.ne'

/-- A double counts as integral if it stands for an integer. -/
theorem isIntegral_iff {x : Double} : x.isIntegral = true ↔ ∃ k : ℤ, x.value = k := by
  have scaled (k : ℕ) : x.magnitude = unitsPerOne * k ↔ x.size = k := by
    rw [← Nat.cast_inj (R := ℚ), magnitude_eq, Nat.cast_mul, mul_comm]
    exact mul_right_inj' unitsPerOne_pos.ne'
  rw [isIntegral, beq_iff_eq, ← Nat.dvd_iff_mod_eq_zero]
  constructor
  · rintro ⟨k, whole⟩
    rw [value, (scaled k).1 whole]
    split
    · exact ⟨-k, by push_cast; rfl⟩
    · exact ⟨k, by push_cast; rfl⟩
  · rintro ⟨k, whole⟩
    refine ⟨k.natAbs, (scaled _).2 ?_⟩
    rw [Nat.cast_natAbs, Int.cast_abs, ← whole, abs_value]

/-- The last place of a large double is not behind the point. -/
theorem isIntegral_of_le {x : Double} (large : 2 ^ 52 ≤ x.size) : x.isIntegral = true := by
  obtain ⟨k, exponent⟩ : ∃ k : ℕ, x.exponent = k := by
    refine Int.eq_ofNat_of_zero_le (not_lt.1 fun negative => ?_)
    have place : (2 ^ x.exponent : ℚ) ≤ 2 ^ (-1 : ℤ) :=
      zpow_le_zpow_right₀ one_le_two (Int.le_sub_one_of_lt negative)
    have digits : (x.significand : ℚ) < 2 ^ 53 := by exact_mod_cast x.canonical.1
    have less : x.size < 2 ^ 53 * 2 ^ (-1 : ℤ) := by
      refine lt_of_lt_of_le ?_ (mul_le_mul_of_nonneg_left place (by positivity))
      exact mul_lt_mul_of_pos_right digits (by positivity)
    norm_num at less large
    linarith
  have size : x.size = (x.significand * 2 ^ k : ℕ) := by
    rw [Double.size, exponent, zpow_natCast]
    push_cast
    rfl
  rw [isIntegral_iff, value, size]
  split
  · exact ⟨-(x.significand * 2 ^ k : ℕ), by push_cast; rfl⟩
  · exact ⟨(x.significand * 2 ^ k : ℕ), by push_cast; rfl⟩

/-! ## Rounding intervals -/

/-- The ends of the rounding interval are measured in quarters of the last place. -/
theorem size_eq (x : Double) : x.size = 4 * x.significand * 2 ^ (x.exponent - 2) := by
  rw [size, zpow_sub₀ (by norm_num : (2 : ℚ) ≠ 0)]
  ring

/-- The same number in quarters of a lower place. -/
theorem scaled_eq_of_le {x y : Double} {k : ℕ} (apart : y.exponent = x.exponent + k) (n : ℕ) :
    (n * 2 ^ (y.exponent - 2) : ℚ) = (n * 2 ^ k : ℕ) * 2 ^ (x.exponent - 2) := by
  rw [apart, show x.exponent + k - 2 = (k : ℤ) + (x.exponent - 2) by ring,
    zpow_add₀ (by norm_num : (2 : ℚ) ≠ 0), zpow_natCast]
  push_cast
  ring

theorem size_eq_of_le {x y : Double} {k : ℕ} (apart : y.exponent = x.exponent + k) :
    y.size = (4 * y.significand * 2 ^ k : ℕ) * 2 ^ (x.exponent - 2) := by
  rw [size_eq, ← scaled_eq_of_le apart]
  push_cast
  rfl

theorem size_lt_of_exponent_lt {x y : Double} (less : x.exponent < y.exponent) :
    x.size < y.size := by
  obtain ⟨k, apart⟩ : ∃ k : ℕ, y.exponent = x.exponent + (k + 1 : ℕ) :=
    ⟨(y.exponent - x.exponent - 1).toNat, by omega⟩
  obtain ⟨small, least, -, -⟩ := x.canonical
  have full : Nat.pow 2 52 ≤ y.significand := y.canonical.2.2.2.resolve_right (by omega)
  norm_num at small full
  have power := Nat.mul_le_mul_left (4 * y.significand) (Nat.one_le_two_pow (n := k))
  have less : 4 * x.significand < 4 * y.significand * 2 ^ (k + 1) := by
    rw [pow_succ]
    linarith
  rw [size_eq x, size_eq_of_le apart]
  exact mul_lt_mul_of_pos_right (by exact_mod_cast less) (by positivity)

theorem exponent_le_of_size_lt {x y : Double} (less : x.size < y.size) : x.exponent ≤ y.exponent :=
  not_lt.1 fun greater => not_lt.2 (size_lt_of_exponent_lt greater).le less

/-- The lower end of a rounding interval is at least half-way up from any smaller double. -/
theorem size_add_size_le_low {x y : Double} (less : y.size < x.size) :
    x.size + y.size ≤ 2 * (x.low * 2 ^ (x.exponent - 2)) := by
  obtain ⟨k, apart⟩ : ∃ k : ℕ, x.exponent = y.exponent + k :=
    ⟨(x.exponent - y.exponent).toNat, by have := exponent_le_of_size_lt less; omega⟩
  have unit : (0 : ℚ) < 2 ^ (y.exponent - 2) := by positivity
  rw [size_eq_of_le apart, size_eq y] at less ⊢
  rw [scaled_eq_of_le apart]
  have less : y.significand < x.significand * 2 ^ k := by
    have := lt_of_mul_lt_mul_right less unit.le
    norm_cast at this
    linarith
  suffices h : 4 * x.significand * 2 ^ k + 4 * y.significand ≤ 2 * (x.low * 2 ^ k) by
    have := mul_le_mul_of_nonneg_right (Nat.cast_le (α := ℚ).2 h) unit.le
    push_cast at this ⊢
    linarith
  obtain ⟨small, least, -, -⟩ := y.canonical
  have full := x.canonical.2.2.2
  have low := x.low_cases
  norm_num at small full low
  cases k with
  | zero => omega
  | succ k =>
    have power : 1 ≤ 2 ^ k := Nat.one_le_two_pow
    rw [pow_succ]
    generalize 2 ^ k = p at power
    rcases low with ⟨narrow, -, low⟩ | ⟨wide, low⟩
    · rw [low, narrow]
      omega
    · obtain ⟨n, more⟩ : ∃ n, x.significand = n + 1 := ⟨x.significand - 1, by omega⟩
      have product := Nat.mul_le_mul (show 4503599627370496 ≤ n by omega) power
      rw [show x.low = 4 * n + 2 by omega, more]
      linarith

/-- The upper end of a rounding interval is at most half-way up to any greater double. -/
theorem high_le_size_add_size {x y : Double} (less : x.size < y.size) :
    2 * ((4 * x.significand + 2 : ℕ) * 2 ^ (x.exponent - 2)) ≤ x.size + y.size := by
  obtain ⟨k, apart⟩ : ∃ k : ℕ, y.exponent = x.exponent + k :=
    ⟨(y.exponent - x.exponent).toNat, by have := exponent_le_of_size_lt less; omega⟩
  have unit : (0 : ℚ) < 2 ^ (x.exponent - 2) := by positivity
  rw [size_eq_of_le apart, size_eq x] at less ⊢
  have less : x.significand + 1 ≤ y.significand * 2 ^ k := by
    have := lt_of_mul_lt_mul_right less unit.le
    norm_cast at this
    linarith
  have h : 2 * (4 * x.significand + 2) ≤ 4 * x.significand + 4 * y.significand * 2 ^ k := by
    linarith
  have := mul_le_mul_of_nonneg_right (Nat.cast_le (α := ℚ).2 h) unit.le
  push_cast at this ⊢
  linarith

section IsNear

variable {x y : Double} {v w : ℚ}

theorem IsNear.low_le (near : x.IsNear v) : x.low * 2 ^ (x.exponent - 2) ≤ v :=
  near.1.elim le_of_lt fun h => le_of_eq h.2

theorem IsNear.le_high (near : x.IsNear v) :
    v ≤ (4 * x.significand + 2 : ℕ) * 2 ^ (x.exponent - 2) :=
  near.2.elim le_of_lt fun h => le_of_eq h.2

/-- No double is nearer to a number than the one that it rounds to. -/
theorem abs_sub_le (near : x.IsNear v) (y : Double) : |x.size - v| ≤ |y.size - v| := by
  have low := near.low_le
  have high := near.le_high
  rcases lt_trichotomy y.size x.size with less | same | more
  · have half := size_add_size_le_low less
    rw [abs_of_nonpos (by linarith : y.size - v ≤ 0), abs_le]
    constructor <;> linarith
  · rw [same]
  · have half := high_le_size_add_size more
    rw [abs_of_nonneg (by linarith : 0 ≤ y.size - v), abs_le]
    constructor <;> linarith

/-- Of two doubles at the same distance a number rounds to the one with the even significand. -/
theorem even_of_tie (near : x.IsNear v) (ne : y.size ≠ x.size)
    (tie : |x.size - v| = |y.size - v|) : x.significand % 2 = 0 := by
  -- the number is the one half-way between the doubles, which is an end of the interval
  have half : 2 * v = x.size + y.size := by
    rcases abs_eq_abs.1 tie with same | opposite
    · exact absurd (by linarith) ne
    · linarith
  rcases ne.lt_or_gt with less | more
  · have low := size_add_size_le_low less
    exact near.1.elim (fun above => by linarith) And.left
  · have high := high_le_size_add_size more
    exact near.2.elim (fun below => by linarith) And.left

/-- A greater number does not round to a smaller double. -/
theorem size_le_of_isNear (hx : x.IsNear v) (hy : y.IsNear w) (le : v ≤ w) : x.size ≤ y.size := by
  by_contra less
  rw [not_le] at less
  -- both numbers are the one half-way between the doubles
  have low := size_add_size_le_low less
  have high := high_le_size_add_size less
  have same : v = w := le_antisymm le (by linarith [hx.low_le, hy.le_high])
  subst same
  obtain ⟨significand, exponent⟩ := parts_eq_of_isNear hx hy
  rw [size, size, significand, exponent] at less
  exact lt_irrefl _ less

/-- A number that is a double rounds to itself. -/
theorem size_eq_of_isNear (hx : x.IsNear v) (exact_ : y.size = v) : x.size = v := by
  have nearer := abs_sub_le hx y
  rw [exact_, sub_self, abs_zero, abs_nonpos_iff] at nearer
  exact sub_eq_zero.1 nearer

end IsNear

/-! ## Rounding to integers -/

/-- The nearest integer to a fraction is at most one half away, and even if it is as far away as
    that. -/
theorem roundHalfEven_near (num : ℕ) {den : ℕ} (positive : 0 < den) :
    let n := roundHalfEven num den
    (n - 1 / 2 < (num / den : ℚ) ∨ n % 2 = 0 ∧ n - 1 / 2 = (num / den : ℚ)) ∧
      ((num / den : ℚ) < n + 1 / 2 ∨ n % 2 = 0 ∧ (num / den : ℚ) = n + 1 / 2) := by
  have den_pos : (0 : ℚ) < den := Nat.cast_pos.2 positive
  have less : num % den < den := Nat.mod_lt _ positive
  have fraction : (num / den : ℚ) = (num / den : ℕ) + (num % den : ℕ) / den := by
    field_simp
    exact_mod_cast (Nat.div_add_mod num den).symm
  rw [fraction, roundHalfEven]
  generalize num / den = q
  generalize num % den = r at less
  have above : (0 : ℚ) ≤ r / den := by positivity
  have below : (r / den : ℚ) < 1 := (div_lt_one den_pos).2 (Nat.cast_lt.2 less)
  have half : (r / den : ℚ) < 1 / 2 ↔ 2 * r < den := by
    rw [div_lt_div_iff₀ den_pos two_pos, one_mul, mul_comm]
    norm_cast
  have half' : 1 / 2 < (r / den : ℚ) ↔ den < 2 * r := by
    rw [div_lt_div_iff₀ two_pos den_pos, one_mul, mul_comm (r : ℚ)]
    norm_cast
  generalize (r / den : ℚ) = f at above below half half'
  dsimp only
  split
  · next low =>
    have := half.2 low
    exact ⟨.inl (by linarith), .inl (by linarith)⟩
  · next low =>
    split
    · next high =>
      have := half'.2 high
      push_cast
      exact ⟨.inl (by linarith), .inl (by linarith)⟩
    · next high =>
      have tie : f = 1 / 2 :=
        le_antisymm (not_lt.1 fun h => high (half'.1 h)) (not_lt.1 fun h => low (half.1 h))
      subst tie
      split
      · next even => exact ⟨.inl (by linarith), .inr ⟨even, rfl⟩⟩
      · next odd =>
        push_cast
        exact ⟨.inr ⟨by omega, by ring⟩, .inl (by linarith)⟩

/-! ## The exponent -/

/-- What is rounded to an integer when a fraction is rounded to a multiple of a power of two. -/
theorem scaled_eq (num den : ℕ) (e : ℤ) :
    ((num * Nat.pow 2 (-e).toNat : ℕ) / (den * Nat.pow 2 e.toNat : ℕ) : ℚ) = num / den / 2 ^ e := by
  rw [zpow_eq_div 2]
  simp only [Nat.pow_eq, Nat.cast_mul, Nat.cast_pow, Nat.cast_ofNat]
  field_simp

theorem floorScaled_lt_iff (num : ℕ) {den : ℕ} (positive : 0 < den) (e : ℤ) (n : ℕ) :
    floorScaled num den e < n ↔ (num / den : ℚ) < n * 2 ^ e := by
  have scaled_pos : 0 < den * Nat.pow 2 e.toNat := Nat.mul_pos positive (Nat.two_pow_pos _)
  rw [floorScaled, Nat.div_lt_iff_lt_mul scaled_pos, ← div_lt_iff₀ (by positivity), ← scaled_eq,
    div_lt_iff₀ (Nat.cast_pos.2 scaled_pos)]
  norm_cast

/-- The logarithms of numerator and denominator give the exponent of a fraction but for one. -/
theorem estimate_bounds {num den : ℕ} (some_ : 0 < num) (positive : 0 < den) :
    let estimate : ℤ := (Nat.log2 num : ℤ) - (Nat.log2 den : ℤ) - 52
    2 ^ 51 * 2 ^ estimate ≤ (num / den : ℚ) ∧ (num / den : ℚ) < 2 ^ 53 * 2 ^ estimate := by
  have den_pos : (0 : ℚ) < den := Nat.cast_pos.2 positive
  have power (n : ℕ) : (0 : ℚ) < 2 ^ n := by positivity
  have scale (k : ℕ) : (2 ^ k * 2 ^ ((Nat.log2 num : ℤ) - (Nat.log2 den : ℤ) - 52) : ℚ) =
      2 ^ Nat.log2 num * 2 ^ k / (2 ^ Nat.log2 den * 2 ^ 52) := by
    rw [zpow_sub₀ two_ne_zero, zpow_sub₀ two_ne_zero, zpow_natCast, zpow_natCast]
    norm_num
    ring
  have lower : (2 ^ Nat.log2 num : ℚ) ≤ num := by exact_mod_cast Nat.log2_self_le some_.ne'
  have lower' : (2 ^ Nat.log2 den : ℚ) ≤ den := by exact_mod_cast Nat.log2_self_le positive.ne'
  have upper : (num : ℚ) < 2 ^ Nat.log2 num * 2 := by
    rw [← pow_succ]
    exact_mod_cast Nat.lt_log2_self
  have upper' : (den : ℚ) < 2 ^ Nat.log2 den * 2 := by
    rw [← pow_succ]
    exact_mod_cast Nat.lt_log2_self
  have p := power (Nat.log2 num)
  have p' := power (Nat.log2 den)
  dsimp only
  rw [scale, scale]
  generalize (2 ^ Nat.log2 num : ℚ) = n at *
  generalize (2 ^ Nat.log2 den : ℚ) = d at *
  rw [div_le_div_iff₀ (by positivity) den_pos, div_lt_div_iff₀ den_pos (by positivity)]
  constructor
  · have := mul_le_mul lower upper'.le den_pos.le (Nat.cast_nonneg _)
    linarith
  · have := mul_lt_mul upper lower' p' (by positivity)
    linarith

/-- There is an exponent in terms of which a fraction has 53 digits before the point. It is the
    chosen one, unless that would be too small. -/
theorem gridExponent_eq {num den : ℕ} (some_ : 0 < num) (positive : 0 < den) :
    ∃ e : ℤ, gridExponent num den = max e (-1074) ∧ 2 ^ 52 * 2 ^ e ≤ (num / den : ℚ) ∧
      (num / den : ℚ) < 2 ^ 53 * 2 ^ e := by
  obtain ⟨lower, upper⟩ := estimate_bounds some_ positive
  have full := floorScaled_lt_iff num positive
    ((Nat.log2 num : ℤ) - (Nat.log2 den : ℤ) - 52) (Nat.pow 2 52)
  unfold gridExponent
  generalize (Nat.log2 num : ℤ) - (Nat.log2 den : ℤ) - 52 = estimate at *
  rw [Nat.pow_eq, Nat.cast_pow, Nat.cast_ofNat] at full
  refine ⟨_, rfl, ?_⟩
  split
  · next less =>
    have half : (2 ^ (estimate - 1) : ℚ) = 2 ^ estimate / 2 := by
      rw [zpow_sub₀ two_ne_zero, zpow_one]
    have := full.1 less
    rw [half]
    constructor <;> linarith
  · next more => exact ⟨not_lt.1 fun less => more (full.2 less), upper⟩

/-- In terms of the chosen exponent a fraction has 53 digits before the point, or the exponent is
    the least one. -/
theorem gridExponent_bounds {num den : ℕ} (some_ : 0 < num) (positive : 0 < den) :
    let e := gridExponent num den
    (-1074) ≤ e ∧ (num / den : ℚ) < 2 ^ 53 * 2 ^ e ∧
      (e = -1074 ∨ 2 ^ 52 * 2 ^ e ≤ (num / den : ℚ)) := by
  obtain ⟨e, chosen, lower, upper⟩ := gridExponent_eq some_ positive
  have power : (2 ^ e : ℚ) ≤ 2 ^ max e (-1074) :=
    zpow_le_zpow_right₀ one_le_two (le_max_left _ _)
  rw [chosen]
  refine ⟨le_max_right _ _, by linarith, ?_⟩
  rcases le_total e (-1074) with least | greater
  · exact .inl (max_eq_right least)
  · rw [max_eq_left greater]
    exact .inr lower

/-! ## Rounding to doubles -/

/-- A multiple of the last place that is at most one half of it away from a number is what the
    number rounds to. Below a power of two the places are half as wide, so a number there has to be
    nearer. -/
theorem isNear_of_half {x : Double} {v : ℚ} (nonneg : 0 ≤ v)
    (below : x.significand - 1 / 2 < v / 2 ^ x.exponent ∨
      x.significand % 2 = 0 ∧ x.significand - 1 / 2 = v / 2 ^ x.exponent)
    (above : v / 2 ^ x.exponent < x.significand + 1 / 2 ∨
      x.significand % 2 = 0 ∧ v / 2 ^ x.exponent = x.significand + 1 / 2)
    (full : x.significand = 2 ^ 52 → x.exponent ≠ -1074 →
      x.significand - 1 / 4 ≤ v / 2 ^ x.exponent) :
    x.IsNear v := by
  have unit : (0 : ℚ) < 2 ^ (x.exponent - 2) := by positivity
  have scale : v / 2 ^ x.exponent = v / 2 ^ (x.exponent - 2) / 4 := by
    rw [zpow_sub₀ two_ne_zero, div_div, div_mul]
    norm_num
  have scaled : v = v / 2 ^ (x.exponent - 2) * 2 ^ (x.exponent - 2) :=
    (div_mul_cancel₀ _ unit.ne').symm
  have nonneg : 0 ≤ v / 2 ^ (x.exponent - 2) := by positivity
  rw [scale] at below above full
  rw [scaled, IsNear]
  generalize v / 2 ^ (x.exponent - 2) = t at *
  rw [mul_lt_mul_iff_left₀ unit, mul_lt_mul_iff_left₀ unit, mul_left_inj' unit.ne',
    mul_left_inj' unit.ne']
  constructor
  · rcases x.low_cases with ⟨narrow, greater, low⟩ | ⟨-, low⟩
    · have reaches := full narrow greater
      have end_ : (x.low : ℚ) ≤ t := by
        rw [narrow] at reaches
        rw [low]
        norm_num at reaches ⊢
        linarith
      exact end_.lt_or_eq.imp_right fun same => ⟨by rw [narrow]; rfl, same⟩
    · rw [low]
      rcases Nat.eq_zero_or_pos x.significand with zero | some_
      · rw [zero]
        exact nonneg.lt_or_eq.imp (by simpa using ·) fun same => ⟨rfl, by simpa using same⟩
      · rw [Nat.cast_sub (by omega)]
        push_cast
        exact below.imp (fun h => by linarith) fun h => ⟨h.1, by linarith [h.2]⟩
  · push_cast
    exact above.imp (fun h => by linarith) fun h => ⟨h.1, by linarith [h.2]⟩

theorem ofParts?_eq_some {negative : Bool} {significand : ℕ} {exponent : ℤ} {x : Double}
    (h : ofParts? negative significand exponent = some x) :
    x.negative = negative ∧ x.significand = significand ∧ x.exponent = exponent := by
  rw [ofParts?] at h
  split at h <;> cases h
  exact ⟨rfl, rfl, rfl⟩

section Nearest

variable {negative : Bool} {num den : ℕ}

/-- The significand that a fraction is rounded to, before a carry. -/
def roundedSignificand (num den : ℕ) : ℕ :=
  let e := gridExponent num den
  roundHalfEven (num * Nat.pow 2 (-e).toNat) (den * Nat.pow 2 e.toNat)

theorem nearest_eq (some_ : num ≠ 0) :
    nearest negative num den =
      if roundedSignificand num den = Nat.pow 2 53 then
        ofParts? negative (Nat.pow 2 52) (gridExponent num den + 1)
      else ofParts? negative (roundedSignificand num den) (gridExponent num den) :=
  if_neg some_

/-- A fraction lies around its significand, which has 53 digits, or one more if they are all carried
    over. Where it is below a power of two by one place, it was rounded up. -/
theorem roundedSignificand_near (some_ : 0 < num) (positive : 0 < den) :
    let m := roundedSignificand num den
    let t : ℚ := num / den / 2 ^ gridExponent num den
    ((m - 1 / 2 < t ∨ m % 2 = 0 ∧ m - 1 / 2 = t) ∧ (t < m + 1 / 2 ∨ m % 2 = 0 ∧ t = m + 1 / 2)) ∧
      t < 2 ^ 53 ∧ (gridExponent num den = -1074 ∨ 2 ^ 52 ≤ t) := by
  obtain ⟨-, upper, lower⟩ := gridExponent_bounds some_ positive
  have scaled_pos : 0 < den * Nat.pow 2 (gridExponent num den).toNat :=
    Nat.mul_pos positive (Nat.two_pow_pos _)
  have near := roundHalfEven_near (num * Nat.pow 2 (-gridExponent num den).toNat) scaled_pos
  have power : (0 : ℚ) < 2 ^ gridExponent num den := by positivity
  rw [scaled_eq] at near
  exact ⟨near, (div_lt_iff₀ power).2 upper, lower.imp_right (le_div_iff₀ power).2⟩

theorem roundedSignificand_bounds (some_ : 0 < num) (positive : 0 < den) :
    roundedSignificand num den ≤ 2 ^ 53 ∧
      (gridExponent num den = -1074 ∨ 2 ^ 52 ≤ roundedSignificand num den) := by
  obtain ⟨⟨below, above⟩, upper, lower⟩ := roundedSignificand_near some_ positive
  generalize (num / den / 2 ^ gridExponent num den : ℚ) = t at *
  have below : (roundedSignificand num den : ℚ) - 1 / 2 ≤ t := below.elim le_of_lt fun h => h.2.le
  have above : t ≤ roundedSignificand num den + 1 / 2 := above.elim le_of_lt fun h => h.2.le
  constructor
  · have : (roundedSignificand num den : ℚ) < (2 ^ 53 + 1 : ℕ) := by
      push_cast
      linarith
    exact Nat.lt_succ_iff.1 (Nat.cast_lt.1 this)
  · refine lower.imp_right fun full => ?_
    have : ((2 ^ 52 : ℕ) : ℚ) < (roundedSignificand num den + 1 : ℕ) := by
      push_cast
      linarith
    exact Nat.lt_succ_iff.1 (Nat.cast_lt.1 this)

/-- The rounded quotient of two natural numbers is near to the quotient. -/
theorem isNear_of_nearest (positive : 0 < den) {x : Double}
    (h : nearest negative num den = some x) : x.negative = negative ∧ x.IsNear (num / den) := by
  rcases Nat.eq_zero_or_pos num with rfl | some_
  · cases h
    refine ⟨rfl, isNear_of_half ?_ (.inl ?_) (.inl ?_) ?_⟩ <;> simp [zero]
  · have nonneg : (0 : ℚ) ≤ num / den := by positivity
    obtain ⟨⟨below, above⟩, upper, lower⟩ := roundedSignificand_near some_ positive
    rw [nearest_eq some_.ne'] at h
    split at h
    · next carry =>
      obtain ⟨sign, significand, exponent⟩ := ofParts?_eq_some h
      have half : (num / den / 2 ^ x.exponent : ℚ) = num / den / 2 ^ gridExponent num den / 2 := by
        rw [exponent, zpow_add₀ two_ne_zero, zpow_one, div_mul_eq_div_div]
      rw [carry] at below
      have below := below.elim le_of_lt fun h => h.2.le
      refine ⟨sign, isNear_of_half nonneg (.inl ?_) (.inl ?_) fun _ _ => ?_⟩
      all_goals
        rw [half, significand]
        norm_num at below ⊢
        linarith
    · next plain =>
      obtain ⟨sign, significand, exponent⟩ := ofParts?_eq_some h
      rw [← significand, ← exponent] at below above
      refine ⟨sign, isNear_of_half nonneg below above fun narrow greater => ?_⟩
      rw [exponent] at greater ⊢
      have := lower.resolve_left greater
      rw [narrow]
      push_cast
      linarith

/-- A quotient that is not too large can be rounded. -/
theorem exists_nearest (negative : Bool) (positive : 0 < den)
    (small : (num / den : ℚ) < 2 ^ (1023 : ℤ)) :
    ∃ x, nearest negative num den = some x := by
  rcases Nat.eq_zero_or_pos num with rfl | some_
  · exact ⟨zero negative, rfl⟩
  · obtain ⟨least, -, lower⟩ := gridExponent_bounds some_ positive
    obtain ⟨digits, full⟩ := roundedSignificand_bounds some_ positive
    have greatest : gridExponent num den ≤ 970 := by
      rcases lower with least | lower
      · omega
      · have : (2 ^ (52 + gridExponent num den) : ℚ) < 2 ^ (1023 : ℤ) := by
          rw [zpow_add₀ two_ne_zero]
          exact lower.trans_lt small
        have := (zpow_lt_zpow_iff_right₀ one_lt_two).1 this
        omega
    rw [nearest_eq some_.ne']
    split
    · exact ⟨_, dif_pos ⟨by norm_num, by omega, by omega, .inl le_rfl⟩⟩
    · next plain =>
      refine ⟨_, dif_pos ⟨?_, least, by omega, ?_⟩⟩
      · exact lt_of_le_of_ne digits plain
      · exact full.symm

end Nearest

end Double

end JsonSchema
