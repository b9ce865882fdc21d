import JsonSchema.Proofs.Number.Rounding
import Mathlib.Algebra.Order.Group.Unbundled.Int

/-!
# Integers as doubles

Integers of up to 53 binary digits are doubles. A longer one is rounded to the nearest double, which
it may share with its neighbours, but the order of integers is never turned round.

* `Double.Rounds`: a double is what a number is rounded to, with its sign.
* `Double.Rounds.value_le`: a greater number is not rounded to a smaller double.
* `Double.Rounds.value_eq`: a short integer is rounded to itself.
* `Double.Rounds.long_of_value_eq`: different integers that are rounded to one double are long.
* `Number.toDouble_rounds`: the double of an integer is what the integer is rounded to.
* `Number.sameValue_iff`: numbers count as equal if they are rounded to one number, unless they are
  different integers.
-/

namespace JsonSchema

namespace Double

/-! ## Numbers with signs -/

/-- A double is what a number is rounded to. Zero has no sign. -/
structure Rounds (x : Double) (v : ℚ) : Prop where
  near : x.IsNear |v|
  sign : x.negative = decide (v < 0)

namespace Rounds

variable {x y : Double} {v w : ℚ}

theorem value_of_neg (h : x.Rounds v) (negative : v < 0) : x.value = -x.size := by
  rw [value, if_pos (h.sign.trans (decide_eq_true negative))]

theorem value_of_nonneg (h : x.Rounds v) (nonneg : 0 ≤ v) : x.value = x.size := by
  rw [value, if_neg]
  rw [h.sign, decide_eq_true_eq, not_lt]
  exact nonneg

/-- A greater number is not rounded to a smaller double. -/
theorem value_le (hx : x.Rounds v) (hy : y.Rounds w) (le : v ≤ w) : x.value ≤ y.value := by
  rcases lt_or_ge v 0 with negative | nonneg
  · rw [hx.value_of_neg negative]
    rcases lt_or_ge w 0 with negative' | nonneg'
    · rw [hy.value_of_neg negative', neg_le_neg_iff]
      refine size_le_of_isNear hy.near hx.near ?_
      rw [abs_of_neg negative, abs_of_neg negative']
      exact neg_le_neg le
    · rw [hy.value_of_nonneg nonneg']
      exact (neg_nonpos.2 x.size_nonneg).trans y.size_nonneg
  · have nonneg' := nonneg.trans le
    rw [hx.value_of_nonneg nonneg, hy.value_of_nonneg nonneg']
    refine size_le_of_isNear hx.near hy.near ?_
    rwa [abs_of_nonneg nonneg, abs_of_nonneg nonneg']

theorem eq_of_rounds (hx : x.Rounds v) (hy : y.Rounds v) : x = y := by
  obtain ⟨significand, exponent⟩ := parts_eq_of_isNear hx.near hy.near
  have sign := hx.sign.trans hy.sign.symm
  cases x
  cases y
  simp only at significand exponent sign
  subst significand exponent sign
  rfl

/-- No double is nearer to a number than the one that it is rounded to. -/
theorem abs_value_sub_le (h : x.Rounds v) (y : Double) : |x.value - v| ≤ |y.value - v| := by
  have nearest : |x.value - v| = |x.size - (|v|)| := by
    rcases lt_or_ge v 0 with negative | nonneg
    · rw [h.value_of_neg negative, abs_of_neg negative, ← abs_neg]
      congr 1
      ring
    · rw [h.value_of_nonneg nonneg, abs_of_nonneg nonneg]
  rw [nearest]
  refine (abs_sub_le h.near y).trans ?_
  rw [← abs_value]
  exact abs_abs_sub_abs_le _ _

/-- A number is not rounded beyond a double. -/
theorem le_value (h : x.Rounds v) (le : y.value ≤ v) : y.value ≤ x.value := by
  by_contra less
  rw [not_le] at less
  have nearer := h.abs_value_sub_le y
  rw [abs_of_neg (by linarith), abs_of_nonpos (by linarith)] at nearer
  linarith

/-- Zero is nearer than any double of more than twice the size. -/
theorem value_le_two_mul (h : x.Rounds v) (nonneg : 0 ≤ v) : x.value ≤ 2 * v := by
  have nearer := h.abs_value_sub_le (zero false)
  rw [value_zero, zero_sub, abs_neg, abs_of_nonneg nonneg] at nearer
  linarith [le_abs_self (x.value - v)]

end Rounds

/-! ## Short integers -/

/-- Integers of up to 53 binary digits are doubles. -/
theorem exists_size_eq {n : ℕ} (short : n ≤ 2 ^ 53) : ∃ x : Double, x.size = n := by
  rcases Nat.eq_zero_or_pos n with rfl | some_
  · exact ⟨zero false, by simp [size, zero]⟩
  rcases Nat.lt_or_eq_of_le short with short | rfl
  · have lower := Nat.log2_self_le some_.ne'
    have upper := Nat.lt_log2_self (n := n)
    have digits : Nat.log2 n < 53 := (Nat.log2_lt some_.ne').2 short
    obtain ⟨k, more⟩ : ∃ k, Nat.log2 n + k = 52 := ⟨52 - Nat.log2 n, by omega⟩
    have power : 2 ^ Nat.log2 n * 2 ^ k = Nat.pow 2 52 := by
      rw [← pow_add, more]
      rfl
    have least := Nat.mul_le_mul_right (2 ^ k) lower
    have greatest := Nat.mul_lt_mul_of_pos_right upper (Nat.two_pow_pos k)
    rw [pow_succ, mul_right_comm, power] at greatest
    rw [power] at least
    have canonical : Canonical (n * 2 ^ k) (-k) := ⟨greatest, by omega, by omega, .inl least⟩
    refine ⟨⟨false, n * 2 ^ k, -k, canonical⟩, ?_⟩
    rw [size, zpow_neg, zpow_natCast]
    push_cast
    field_simp
  · refine ⟨⟨false, 2 ^ 52, 1, by decide⟩, ?_⟩
    rw [size]
    norm_num

/-- Integers of up to 64 binary digits are rounded to some double. -/
theorem exists_nearestInt {n : ℤ} (small : |n| ≤ 2 ^ 64) :
    ∃ x, nearestInt n = some x ∧ x.Rounds n := by
  have cast : (n.natAbs / (1 : ℕ) : ℚ) = |(n : ℚ)| := by
    rw [Nat.cast_one, div_one, Nat.cast_natAbs, Int.cast_abs]
  have less : (n.natAbs / (1 : ℕ) : ℚ) < 2 ^ (1023 : ℤ) := by
    have small : |(n : ℚ)| ≤ 2 ^ (64 : ℤ) := by exact_mod_cast small
    rw [cast]
    exact small.trans_lt (zpow_lt_zpow_right₀ one_lt_two (by norm_num))
  obtain ⟨x, found⟩ := exists_nearest (decide (n < 0)) one_pos less
  obtain ⟨sign, near⟩ := isNear_of_nearest one_pos found
  refine ⟨x, found, cast ▸ near, sign.trans ?_⟩
  simp only [Int.cast_lt_zero]

variable {x y : Double} {m n : ℤ}

/-- A short integer is rounded to itself. -/
theorem Rounds.value_eq (h : x.Rounds n) (short : |n| ≤ 2 ^ 53) : x.value = n := by
  have short : n.natAbs ≤ 2 ^ 53 := by
    zify
    exact short
  obtain ⟨y, exact_⟩ := exists_size_eq short
  have size : x.size = |(n : ℚ)| := by
    refine size_eq_of_isNear h.near (y := y) ?_
    rw [exact_, Nat.cast_natAbs, Int.cast_abs]
  rcases lt_or_ge n 0 with negative | nonneg
  · have negative : (n : ℚ) < 0 := Int.cast_lt_zero.2 negative
    rw [h.value_of_neg negative, size, abs_of_neg negative, neg_neg]
  · have nonneg : (0 : ℚ) ≤ n := Int.cast_nonneg nonneg
    rw [h.value_of_nonneg nonneg, size, abs_of_nonneg nonneg]

/-- Beside a short integer, doubles are ordered as the integers are. -/
theorem Rounds.value_lt (hx : x.Rounds m) (hy : y.Rounds n) (less : m < n)
    (short : |m| < 2 ^ 53 ∨ |n| < 2 ^ 53) : x.value < y.value := by
  rcases short with short | short
  · have short' : |m + 1| ≤ 2 ^ 53 := by
      rw [abs_lt] at short
      rw [abs_le]
      omega
    obtain ⟨between, -, rounds⟩ := exists_nearestInt (short'.trans (by norm_num))
    have above := rounds.value_le hy (by exact_mod_cast less)
    rw [rounds.value_eq short', Int.cast_add, Int.cast_one] at above
    rw [hx.value_eq short.le]
    linarith
  · have short' : |n - 1| ≤ 2 ^ 53 := by
      rw [abs_lt] at short
      rw [abs_le]
      omega
    obtain ⟨between, -, rounds⟩ := exists_nearestInt (short'.trans (by norm_num))
    have below := hx.value_le rounds (by exact_mod_cast Int.le_sub_one_of_lt less)
    rw [rounds.value_eq short', Int.cast_sub, Int.cast_one] at below
    rw [hy.value_eq short.le]
    linarith

/-- Different integers that are rounded to one double are both long. -/
theorem Rounds.long_of_value_eq (hx : x.Rounds m) (hy : y.Rounds n) (same : x.value = y.value)
    (ne : m ≠ n) : 2 ^ 53 ≤ |m| ∧ 2 ^ 53 ≤ |n| := by
  by_contra short
  rw [not_and_or, not_le, not_le] at short
  rcases lt_or_gt_of_ne ne with less | more
  · exact (hx.value_lt hy less short).ne same
  · exact (hy.value_lt hx more short.symm).ne' same

/-- A long integer is rounded to a long double. -/
theorem Rounds.le_abs_value (h : x.Rounds n) (long : 2 ^ 53 ≤ |n|) : 2 ^ 53 ≤ |x.value| := by
  obtain ⟨least, -, rounds⟩ := exists_nearestInt (n := 2 ^ 53) (by norm_num)
  have le := size_le_of_isNear rounds.near h.near (by exact_mod_cast long)
  rw [← abs_value, rounds.value_eq (by norm_num), ← abs_value] at le
  exact_mod_cast le

end Double

/-! ## Numbers -/

namespace Number

/-- An integer that a document can hold has at most 64 binary digits. -/
theorem abs_le_of_inRange {n : ℤ} (inRange : InRange n) : |n| ≤ 2 ^ 64 := by
  obtain ⟨lower, upper⟩ := inRange
  norm_num at lower upper
  rw [abs_le]
  omega

/-- The double of an integer is what the integer is rounded to. -/
theorem toDouble_rounds (n : ℤ) (inRange : InRange n) : (integer n inRange).toDouble.Rounds n := by
  obtain ⟨x, found, rounds⟩ := Double.exists_nearestInt (abs_le_of_inRange inRange)
  rw [toDouble, found]
  exact rounds

/-- The integer of a number that is kept as one. -/
def integer? : Number → Option ℤ
  | integer n _ => some n
  | double _ => none

/-- Negative integers are rounded to negative doubles, and others are not. -/
theorem value_toDouble_ne {m n : ℤ} (inRange : InRange m) (inRange' : InRange n) (negative : m < 0)
    (nonneg : 0 ≤ n) :
    (integer m inRange).toDouble.value ≠ (integer n inRange').toDouble.value := by
  have zero : |(0 : ℤ)| < 2 ^ 53 := by norm_num
  have rounds := toDouble_rounds 0 (by decide)
  have below := (toDouble_rounds m inRange).value_lt rounds negative (.inr zero)
  have above := rounds.value_le (toDouble_rounds n inRange') (by exact_mod_cast nonneg)
  exact (below.trans_le above).ne

/-- Integers count as equal if they are the same. -/
theorem sameValue_integer {m n : ℤ} (inRange : InRange m) (inRange' : InRange n) :
    (integer m inRange).sameValue (integer n inRange') = true ↔ m = n := by
  have power : Nat.pow 2 63 = 9223372036854775808 := by norm_num
  simp only [sameValue, toSigned?, toUnsigned?, power]
  split
  · next m' n' signed signed' =>
    split at signed <;> cases signed
    split at signed' <;> cases signed'
    exact beq_iff_eq
  · next unsigned =>
    split
    · next natural natural' =>
      split at natural <;> cases natural
      split at natural' <;> cases natural'
      rw [beq_iff_eq]
      omega
    · next negative =>
      -- one of the integers is negative, and the other one has 64 digits
      rcases lt_or_ge m 0 with less | nonneg <;> rcases lt_or_ge n 0 with less' | nonneg'
      · exact (unsigned m n (if_pos (by omega)) (if_pos (by omega))).elim
      · exact iff_of_false (mt Double.eq_iff.1 (value_toDouble_ne inRange inRange' less nonneg'))
          (by omega)
      · exact iff_of_false (mt Double.eq_iff.1 (value_toDouble_ne inRange' inRange less' nonneg).symm)
          (by omega)
      · exact (negative _ _ (if_pos nonneg) (if_pos nonneg')).elim

/-- Numbers count as equal if they are rounded to one number, unless they are different integers. -/
theorem sameValue_iff {a b : Number} : a.sameValue b = true ↔
    a.toDouble.value = b.toDouble.value ∧
      ∀ m n, a.integer? = some m → b.integer? = some n → m = n := by
  cases a with
  | integer m inRange =>
    cases b with
    | integer n inRange' =>
      rw [sameValue_integer]
      constructor
      · rintro rfl
        exact ⟨rfl, fun _ _ h h' => Option.some.inj (h.symm.trans h')⟩
      · exact fun h => h.2 m n rfl rfl
    | double y =>
      have vacuous : ∀ m' n' : ℤ, (integer m inRange).integer? = some m' →
          (double y).integer? = some n' → m' = n' := fun _ _ _ h => nomatch h
      rw [and_iff_left vacuous, ← Double.eq_iff]
      simp only [sameValue, toSigned?, toUnsigned?]
      split
      · next signed => cases signed
      · split
        · next natural => cases natural
        · rfl
  | double x =>
    have vacuous : ∀ m' n' : ℤ, (double x).integer? = some m' → b.integer? = some n' → m' = n' :=
      fun _ _ h => nomatch h
    rw [and_iff_left vacuous, ← Double.eq_iff]
    simp only [sameValue, toSigned?, toUnsigned?]

/-- The double that different integers are rounded to is long. -/
theorem le_abs_value_of_ne {a b : Number} {m n : ℤ} (same : a.toDouble.value = b.toDouble.value)
    (isInteger : a.integer? = some m) (isInteger' : b.integer? = some n) (ne : m ≠ n) :
    2 ^ 53 ≤ |a.toDouble.value| := by
  cases a <;> cases isInteger
  cases b <;> cases isInteger'
  have rounds := toDouble_rounds m (by assumption)
  exact rounds.le_abs_value (rounds.long_of_value_eq (toDouble_rounds n (by assumption)) same ne).1

end Number

end JsonSchema
