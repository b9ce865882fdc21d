import JsonSchema.Proofs.Meaning.Assertions
import JsonSchema.Proofs.Number.Integers

/-!
# Integers against integer limits and divisors

Limits are doubles. Integers of different doubles are ordered as their doubles are, and integers of
one double count as equal to each other. A divisor divides an integer exactly if the integer is less
than `2^63`. A greater one is divided as a double.

* `Bound.Admits`: the order that a bound asks for.
* `Bound.admits_iff`: the order of integers is that of their doubles, where these differ.
* `AssertionKind.compile_bound`: an integer limit.
* `Double.exists_div`: a quotient of doubles is rounded to a double.
* `Number.isMultiple_iff_dvd`: exact division.
* `Number.isMultiple_iff_isIntegral`: division of doubles.
* `AssertionKind.compile_multiple`: an integer divisor.
-/

namespace JsonSchema

open AssertionKind (compile)

/-! ## Bounds -/

namespace Bound

/-- A number keeps to a limit. -/
def Admits {α : Type} [LE α] [LT α] (bound : Bound) (limit n : α) : Prop :=
  match bound with
  | minimum => limit ≤ n
  | maximum => n ≤ limit
  | exclusiveMinimum => limit < n
  | exclusiveMaximum => n < limit

theorem holds_iff (bound : Bound) {x limit : Double} :
    bound.holds x limit = true ↔ bound.Admits limit.value x.value := by
  cases bound with
  | minimum | maximum => exact Double.le_iff
  | exclusiveMinimum | exclusiveMaximum => exact Double.lt_iff

/-- A limit keeps to itself unless it is excluded. -/
theorem admits_self {α : Type} [Preorder α] (bound : Bound) (n : α) :
    bound.Admits n n ↔ bound.isExclusive = false := by
  cases bound with
  | minimum | maximum => exact iff_of_true le_rfl rfl
  | exclusiveMinimum | exclusiveMaximum => exact iff_of_false (lt_irrefl n) (by decide)

/-- A bound goes by which of two different numbers is the smaller one. -/
theorem admits_congr {α β : Type} [LinearOrder α] [LinearOrder β] (bound : Bound) {a b : α}
    {a' b' : β} (ne : a ≠ b) (ne' : a' ≠ b') (same : a < b ↔ a' < b') :
    bound.Admits a b ↔ bound.Admits a' b' := by
  have reverse : b < a ↔ b' < a' := by
    rw [← not_le, ← not_le, ne.le_iff_lt, ne'.le_iff_lt, same]
  cases bound with
  | minimum => exact (ne.le_iff_lt.trans same).trans ne'.le_iff_lt.symm
  | maximum => exact (ne.symm.le_iff_lt.trans reverse).trans ne'.symm.le_iff_lt.symm
  | exclusiveMinimum => exact same
  | exclusiveMaximum => exact reverse

/-- The order of integers is that of their doubles, where these differ. -/
theorem admits_iff (bound : Bound) {x y : Double} {l n : ℤ} (hx : x.Rounds l) (hy : y.Rounds n)
    (ne : x.value ≠ y.value) : bound.Admits x.value y.value ↔ bound.Admits l n := by
  refine bound.admits_congr ne ?_ ⟨fun less => ?_, fun less => ?_⟩
  · rintro rfl
    exact ne (by rw [hx.eq_of_rounds hy])
  · by_contra more
    rw [not_lt] at more
    exact (hy.value_le hx (Int.cast_le.2 more)).not_gt less
  · exact lt_of_le_of_ne (hx.value_le hy (Int.cast_le.2 less.le)) ne

end Bound

theorem Assertion.holds_bound (b : Bound) (limit : Double) (n : Number) :
    (bound b limit).holds (.number n) = b.holds n.toDouble limit :=
  isEmpty_objectionUnless _ _ _

section Bounds

variable {n l : ℤ}

/-- An integer and an integer limit are compared as the doubles they are rounded to. These are in
    the same order as the integers, unless they are equal. Then the integers are equal or long, and
    count as equal. -/
theorem AssertionKind.compile_bound (b : Bound) (data : InRange n) (inRange : InRange l) :
    ∃ (assertion : Assertion) (x y : Double),
      compile (bound b) (.number (.integer l inRange)) = .ok assertion ∧
      x.Rounds l ∧ y.Rounds n ∧
      (x.value ≠ y.value →
        (assertion.holds (.number (.integer n data)) = true ↔ b.Admits l n)) ∧
      (x.value = y.value →
        (assertion.holds (.number (.integer n data)) = true ↔ b.isExclusive = false) ∧
          (n = l ∨ 2 ^ 53 ≤ |n| ∧ 2 ^ 53 ≤ |l|)) := by
  have hx := Number.toDouble_rounds l inRange
  have hy := Number.toDouble_rounds n data
  refine ⟨_, _, _, rfl, hx, hy, fun ne => ?_, fun same => ⟨?_, ?_⟩⟩
  · rw [Assertion.holds_bound, b.holds_iff]
    exact b.admits_iff hx hy ne
  · rw [Assertion.holds_bound, b.holds_iff, same]
    exact b.admits_self _
  · exact or_iff_not_imp_left.2 fun ne => hy.long_of_value_eq hx same.symm ne

/-- A short limit and a long integer. -/
theorem AssertionKind.compile_bound_long :
    ∃ assertion, compile (bound .maximum) (.number (.integer 7 (by decide))) = .ok assertion ∧
      assertion.holds (.number (.integer 18446744073709551615 (by decide))) = false := by
  obtain ⟨assertion, x, y, compiled, -, -, apart, together⟩ :=
    compile_bound (n := 18446744073709551615) (l := 7) .maximum (by decide) (by decide)
  refine ⟨assertion, compiled, Bool.eq_false_iff.2 fun passes => ?_⟩
  have ne : x.value ≠ y.value := fun same => by
    rcases (together same).2 with equal | ⟨-, long⟩
    · exact absurd equal (by decide)
    · exact absurd long (by decide)
  exact absurd ((apart ne).1 passes) (show ¬ (18446744073709551615 : ℤ) ≤ 7 by decide)

/-- An integer passes a maximum that is less by one. -/
theorem AssertionKind.bound_passed :
    let passes (n l : Number) := (compile (bound .maximum) (.number l)).map (·.holds (.number n))
    passes (.integer 9007199254740993 (by decide)) (.integer 9007199254740992 (by decide)) =
      .ok true ∧
    ¬ (9007199254740993 : ℤ) ≤ 9007199254740992 := by
  decide +kernel

end Bounds

/-! ## Division -/

namespace Double

/-- A quotient of doubles without sign is rounded to a double. -/
theorem exists_div {x y : Double} (nonneg : x.negative = false) (nonneg' : y.negative = false)
    (nonzero : y.value ≠ 0) (small : x.value / y.value < 2 ^ (1023 : ℤ)) :
    ∃ q, x.div y = some q ∧ q.Rounds (x.value / y.value) := by
  have size : x.value = x.size := by rw [value, nonneg, if_neg Bool.false_ne_true]
  have size' : y.value = y.size := by rw [value, nonneg', if_neg Bool.false_ne_true]
  have positive : 0 < y.magnitude := by
    rw [← Nat.cast_pos (α := ℚ), magnitude_eq]
    exact mul_pos (lt_of_le_of_ne y.size_nonneg (size' ▸ nonzero.symm)) unitsPerOne_pos
  have quotient : (x.magnitude / y.magnitude : ℚ) = x.value / y.value := by
    rw [magnitude_eq, magnitude_eq, size, size', mul_div_mul_right _ _ unitsPerOne_pos.ne']
  have above : 0 ≤ x.value / y.value := by
    rw [size, size']
    exact div_nonneg x.size_nonneg y.size_nonneg
  rw [div, nonneg, nonneg', bne_self_eq_false]
  obtain ⟨q, found⟩ := exists_nearest false positive (quotient ▸ small)
  obtain ⟨sign, near⟩ := isNear_of_nearest positive found
  refine ⟨q, found, ?_, ?_⟩
  · rwa [abs_of_nonneg above, ← quotient]
  · rw [sign, decide_eq_false above.not_gt]

end Double

namespace Number

/-- Division by a number is not division by zero, be it exact or not. -/
structure IsDivisor (divisor : Number) : Prop where
  exact_ : divisor.toUnsigned? ≠ some 0
  rounded : divisor.toDouble.value ≠ 0

variable {n d : ℤ}

/-- The double of a positive integer is at least one. -/
theorem one_le_value (inRange : InRange d) (positive : 0 < d) :
    1 ≤ (integer d inRange).toDouble.value := by
  have one := toDouble_rounds 1 (by decide)
  have le := one.value_le (toDouble_rounds d inRange) (by exact_mod_cast positive)
  rwa [one.value_eq (by norm_num), Int.cast_one] at le

theorem isDivisor_integer (inRange : InRange d) (positive : 0 < d) :
    (integer d inRange).IsDivisor where
  exact_ := by
    rw [toUnsigned?, if_pos positive.le, Ne, Option.some_inj]
    omega
  rounded := (zero_lt_one.trans_le (one_le_value inRange positive)).ne'

/-- Integers below `2^63` are divided exactly. -/
theorem isMultiple_iff_dvd (data : InRange n) (inRange : InRange d) (positive : 0 < d)
    (signed : n < 2 ^ 63) : (integer n data).isMultiple (integer d inRange) = true ↔ d ∣ n := by
  have signed : n < Nat.pow 2 63 := by exact_mod_cast signed
  have same : d.toNat = d.natAbs := by omega
  rw [isMultiple, toSigned?, toUnsigned?, if_pos signed, if_pos positive.le]
  dsimp only
  rw [beq_iff_eq, ← Nat.dvd_iff_mod_eq_zero, same, Int.natAbs_dvd_natAbs]

/-- Greater integers are divided as doubles. -/
theorem isMultiple_iff_isIntegral (data : InRange n) (inRange : InRange d) (positive : 0 < d)
    (unsigned : 2 ^ 63 ≤ n) :
    ∃ quotient : Double,
      quotient.Rounds ((integer n data).toDouble.value / (integer d inRange).toDouble.value) ∧
      ((integer n data).isMultiple (integer d inRange) = quotient.isIntegral) := by
  have hx := toDouble_rounds n data
  have hy := toDouble_rounds d inRange
  have one := one_le_value inRange positive
  have nonneg : 0 ≤ n := le_trans (by norm_num) unsigned
  have sign : (integer n data).toDouble.negative = false :=
    hx.sign.trans (decide_eq_false (not_lt.2 (Int.cast_nonneg nonneg)))
  have sign' : (integer d inRange).toDouble.negative = false :=
    hy.sign.trans (decide_eq_false (not_lt.2 (Int.cast_nonneg positive.le)))
  have small : (integer n data).toDouble.value / (integer d inRange).toDouble.value <
      2 ^ (1023 : ℤ) := by
    have above : 0 ≤ (integer n data).toDouble.value := by
      rw [hx.value_of_nonneg (Int.cast_nonneg nonneg)]
      exact Double.size_nonneg _
    have most : (n : ℚ) ≤ 2 ^ 64 := by exact_mod_cast (le_abs_self n).trans (abs_le_of_inRange data)
    calc
      _ ≤ (integer n data).toDouble.value := div_le_self above one
      _ ≤ 2 ^ (65 : ℤ) := by
        have := hx.value_le_two_mul (Int.cast_nonneg nonneg)
        norm_num at most ⊢
        linarith
      _ < 2 ^ (1023 : ℤ) := zpow_lt_zpow_right₀ one_lt_two (by norm_num)
  obtain ⟨quotient, found, rounds⟩ := Double.exists_div sign sign' (by linarith) small
  refine ⟨quotient, rounds, ?_⟩
  have unsigned : ¬ n < Nat.pow 2 63 := not_lt.2 (by exact_mod_cast unsigned)
  rw [isMultiple, toSigned?, if_neg unsigned]
  dsimp only
  rw [found]

/-- An integer from `2^63` on counts as a multiple of every divisor up to `2^11`: the quotient is
    so large that it is rounded to an integer. -/
theorem isMultiple_of_le (data : InRange n) (inRange : InRange d) (positive : 0 < d)
    (unsigned : 2 ^ 63 ≤ n) (le : d ≤ 2 ^ 11) :
    (integer n data).isMultiple (integer d inRange) = true := by
  obtain ⟨quotient, rounds, same⟩ := isMultiple_iff_isIntegral data inRange positive unsigned
  have hx := toDouble_rounds n data
  have hy := toDouble_rounds d inRange
  have one := one_le_value inRange positive
  have dividend : 2 ^ 63 ≤ (integer n data).toDouble.value := by
    let power : Double := ⟨false, Nat.pow 2 52, 11, by decide⟩
    have value : power.value = 2 ^ 63 := by norm_num [power, Double.value, Double.size]
    rw [← value]
    refine hx.le_value ?_
    rw [value]
    exact_mod_cast unsigned
  have divisor : (integer d inRange).toDouble.value ≤ 2 ^ 11 := by
    rw [hy.value_eq (by rw [abs_of_pos positive]; exact le.trans (by norm_num))]
    exact_mod_cast le
  have large :
      (2 ^ 52 : ℤ) ≤ (integer n data).toDouble.value / (integer d inRange).toDouble.value := by
    rw [le_div_iff₀ (by linarith)]
    push_cast
    linarith
  obtain ⟨least, -, itself⟩ := Double.exists_nearestInt (n := 2 ^ 52) (by norm_num)
  have le := itself.value_le rounds large
  rw [itself.value_eq (by norm_num)] at le
  rw [same, Double.isIntegral_of_le]
  rw [← Double.abs_value]
  exact le_trans (by norm_num) (le.trans (le_abs_self _))

end Number

theorem Assertion.holds_multiple (divisor n : Number) :
    (multiple divisor).holds (.number n) = n.isMultiple divisor :=
  isEmpty_objectionUnless _ _ _

section Divisors

variable {n d : ℤ}

/-- A positive integer is compiled to a divisor other than zero. An integer below `2^63` passes if
    it is a multiple. A greater one passes if the quotient of the doubles is rounded to an integer,
    which is always so if the divisor is at most `2^11`. -/
theorem AssertionKind.compile_multiple (data : InRange n) (inRange : InRange d) (positive : 0 < d) :
    ∃ divisor : Number,
      compile multiple (.number (.integer d inRange)) = .ok (.multiple divisor) ∧
      divisor.IsDivisor ∧
      let passes := (Assertion.multiple divisor).holds (.number (.integer n data)) = true
      (n < 2 ^ 63 → (passes ↔ d ∣ n)) ∧
      (2 ^ 63 ≤ n →
        (∃ x y quotient : Double, x.Rounds n ∧ y.Rounds d ∧ quotient.Rounds (x.value / y.value) ∧
          (passes ↔ ∃ k : ℤ, quotient.value = k)) ∧
        (d ≤ 2 ^ 11 → passes)) := by
  have divisor := Number.isDivisor_integer inRange positive
  refine ⟨.integer d inRange, ?_, divisor, fun signed => ?_, fun unsigned => ⟨?_, fun le => ?_⟩⟩
  · have refused : (Number.integer d inRange).toDouble.le (Double.zero false) = false := by
      rw [Bool.eq_false_iff, Ne, Double.le_iff, not_le, Double.value_zero]
      exact zero_lt_one.trans_le (Number.one_le_value inRange positive)
    simp only [compile, Value.asNumber?, Shape.expect, bind, Except.bind, refused]
    rfl
  · rw [Assertion.holds_multiple]
    exact Number.isMultiple_iff_dvd data inRange positive signed
  · obtain ⟨quotient, rounds, same⟩ :=
      Number.isMultiple_iff_isIntegral data inRange positive unsigned
    refine ⟨_, _, quotient, Number.toDouble_rounds n data, Number.toDouble_rounds d inRange, rounds,
      ?_⟩
    rw [Assertion.holds_multiple, same, Double.isIntegral_iff]
  · rw [Assertion.holds_multiple]
    exact Number.isMultiple_of_le data inRange positive unsigned le

/-- Ten is a multiple of two. -/
theorem AssertionKind.compile_multiple_ten :
    ∃ divisor, compile multiple (.number (.integer 2 (by decide))) = .ok (.multiple divisor) ∧
      divisor.IsDivisor ∧
      (Assertion.multiple divisor).holds (.number (.integer 10 (by decide))) = true := by
  obtain ⟨divisor, compiled, nonzero, short, -⟩ := compile_multiple (n := 10) (d := 2)
    (by decide) (by decide) (by decide)
  exact ⟨divisor, compiled, nonzero, (short (by decide)).2 (by decide)⟩

/-- An odd number passes as a multiple of two, and a multiple of another divisor does not pass. -/
theorem AssertionKind.multiple_long :
    let passes (n d : Number) := (compile multiple (.number d)).map (·.holds (.number n))
    (passes (.integer 9223372036854775809 (by decide)) (.integer 2 (by decide)) = .ok true ∧
      ¬ (2 : ℤ) ∣ 9223372036854775809) ∧
    (passes (.integer 9223372036854778968 (by decide)) (.integer 4103 (by decide)) = .ok false ∧
      (4103 : ℤ) ∣ 9223372036854778968) := by
  decide +kernel

end Divisors

end JsonSchema
