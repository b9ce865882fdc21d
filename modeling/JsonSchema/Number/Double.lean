/-!
# Finite binary64 numbers

Every finite binary64 number is an integral multiple of `2^-1074`, so its
arithmetic is integer arithmetic followed by one rounding.

* `Double`: a finite number in canonical form, with the sign of zero kept.
* `Double.units`: the number as a multiple of `2^-1074`. Comparison, equality
  and the test for an integral value are stated through it.
* `Double.nearest`: the number nearest to a quotient of naturals, a tie going to
  the even significand; `none` when the quotient is too large.
-/

namespace JsonSchema

/-- The significands and exponents of finite binary64 numbers, each number once:
    either the significand has its full 53 bits or the exponent is the least. -/
def Canonical (significand : Nat) (exponent : Int) : Prop :=
  significand < Nat.pow 2 53 ∧ -1074 ≤ exponent ∧ exponent ≤ 971 ∧
    (Nat.pow 2 52 ≤ significand ∨ exponent = -1074)

instance (m : Nat) (e : Int) : Decidable (Canonical m e) :=
  inferInstanceAs (Decidable (_ ∧ _ ∧ _ ∧ (_ ∨ _)))

/-- The finite binary64 number `± significand · 2^exponent`. -/
structure Double where
  negative : Bool
  significand : Nat
  exponent : Int
  canonical : Canonical significand exponent
deriving DecidableEq

namespace Double

/-- Zero with the given sign. -/
def zero (negative : Bool) : Double := ⟨negative, 0, -1074, by decide⟩

/-- The absolute value as a multiple of `2^-1074`. -/
def magnitude (x : Double) : Nat := x.significand * Nat.pow 2 (x.exponent + 1074).toNat

/-- The value as a multiple of `2^-1074`. Both zeros have none. -/
def units (x : Double) : Int := if x.negative then -x.magnitude else x.magnitude

/-- How many multiples of `2^-1074` make one. -/
def unitsPerOne : Nat := Nat.pow 2 1074

/-! ## Rounding -/

/-- The integer nearest to `num / den`; a tie goes to the even neighbour. -/
def roundHalfEven (num den : Nat) : Nat :=
  let q := num / den
  let r := num % den
  if 2 * r < den then q
  else if den < 2 * r then q + 1
  else if q % 2 = 0 then q else q + 1

/-- `⌊num / (den · 2^e)⌋`. -/
def floorScaled (num den : Nat) (e : Int) : Nat :=
  (num * Nat.pow 2 (-e).toNat) / (den * Nat.pow 2 e.toNat)

/-- The exponent on whose grid `num / den` has 53 significant bits, but not below
    the least exponent. The estimate from the logarithms is off by at most one. -/
def gridExponent (num den : Nat) : Int :=
  let estimate : Int := (Nat.log2 num : Int) - (Nat.log2 den : Int) - 52
  let exact := if floorScaled num den estimate < Nat.pow 2 52 then estimate - 1 else estimate
  max exact (-1074)

/-- The number `± significand · 2^exponent`, if it is one. -/
def ofParts? (negative : Bool) (significand : Nat) (exponent : Int) : Option Double :=
  if h : Canonical significand exponent then some ⟨negative, significand, exponent, h⟩ else none

/-- The number nearest to `± num / den`, ties to the even significand; `none` when
    rounding leaves the finite range. -/
def nearest (negative : Bool) (num den : Nat) : Option Double :=
  if num = 0 then some (zero negative) else
    let e := gridExponent num den
    let m := roundHalfEven (num * Nat.pow 2 (-e).toNat) (den * Nat.pow 2 e.toNat)
    if m = Nat.pow 2 53 then ofParts? negative (Nat.pow 2 52) (e + 1) else ofParts? negative m e

/-- The number nearest to an integer. -/
def nearestInt (n : Int) : Option Double := nearest (n < 0) n.natAbs 1

/-! ## Arithmetic and comparison -/

/-- The rounded product; `none` on overflow. -/
def mul (x y : Double) : Option Double :=
  nearest (x.negative != y.negative) (x.magnitude * y.magnitude) (unitsPerOne * unitsPerOne)

/-- The rounded quotient by a nonzero number; `none` on overflow. -/
def div (x y : Double) : Option Double :=
  nearest (x.negative != y.negative) x.magnitude y.magnitude

/-- Numeric order. -/
def le (x y : Double) : Bool := x.units ≤ y.units

/-- Strict numeric order. -/
def lt (x y : Double) : Bool := x.units < y.units

/-- Numeric equality: both zeros are equal. -/
def eq (x y : Double) : Bool := x.units == y.units

/-- Whether the value is an integer. -/
def isIntegral (x : Double) : Bool := x.magnitude % unitsPerOne == 0

/-- The integer part of the absolute value. -/
def floorMagnitude (x : Double) : Nat := x.magnitude / unitsPerOne

/-- The opposite number. -/
def neg (x : Double) : Double := { x with negative := !x.negative }

@[simp] theorem magnitude_neg (x : Double) : x.neg.magnitude = x.magnitude := rfl

@[simp] theorem units_zero (s : Bool) : (zero s).units = 0 := by
  cases s <;> simp [zero, units, magnitude]

end Double

end JsonSchema
