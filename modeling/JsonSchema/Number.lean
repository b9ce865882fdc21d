import JsonSchema.Number.Double
import JsonSchema.Number.Shortest

/-!
# JSON numbers

A number is a 64-bit integer or a finite double. Integers from `-2^63` to
`2^64 - 1` are kept exactly; every other number is a double. The two are
different values even when they denote the same number.

* `Number.ofInt`: the integer if it is in range, else the nearest double.
* `Number.ofLiteral?`: the number a JSON literal denotes.
* `Number.sameValue`: numeric equality across the two kinds.
-/

namespace JsonSchema

/-- The integers a document can hold exactly. -/
def InRange (n : Int) : Prop := -(Nat.pow 2 63) ≤ n ∧ n < Nat.pow 2 64

instance (n : Int) : Decidable (InRange n) := inferInstanceAs (Decidable (_ ∧ _))

/-- A 64-bit integer or a finite double. -/
inductive Number where
  | integer (value : Int) (inRange : InRange value)
  | double (value : Double)
deriving DecidableEq

namespace Number

/-- The greatest finite double. -/
def greatest : Double := ⟨false, Nat.pow 2 53 - 1, 971, by decide⟩

/-- An integer as a number: itself when it is in range, else the nearest double. -/
def ofInt (n : Int) : Number :=
  if h : InRange n then .integer n h else .double ((Double.nearestInt n).getD greatest)

/-- A natural number as a number. -/
def ofNat (n : Nat) : Number := ofInt n

/-- The nearest double. Integers in range never overflow. -/
def toDouble : Number → Double
  | .integer n _ => (Double.nearestInt n).getD greatest
  | .double x => x

/-- The number as a signed 64-bit integer. -/
def toSigned? : Number → Option Int
  | .integer n _ => if n < Nat.pow 2 63 then some n else none
  | .double _ => none

/-- The number as an unsigned 64-bit integer. -/
def toUnsigned? : Number → Option Nat
  | .integer n _ => if 0 ≤ n then some n.toNat else none
  | .double _ => none

/-- Whether the number has no fractional part. -/
def isIntegral : Number → Bool
  | .integer _ _ => true
  | .double x => x.isIntegral

/-- Numeric equality. Two signed or two unsigned integers are compared exactly, any
    other pair as doubles. -/
def sameValue (a b : Number) : Bool :=
  match a.toSigned?, b.toSigned? with
  | some x, some y => x == y
  | _, _ =>
    match a.toUnsigned?, b.toUnsigned? with
    | some x, some y => x == y
    | _, _ => a.toDouble.eq b.toDouble

/-- The text of a number in a document. -/
def text : Number → String
  | .integer n _ => toString n
  | .double x => x.text .answer

/-! ## Literals -/

/-- The powers of ten a literal is scaled by in one step. -/
def maxPower : Nat := 308

/-- The double nearest to `10^n`, for `n ≤ 308`. -/
def powerOfTen (n : Nat) : Double := (Double.nearest false (Nat.pow 10 n) 1).getD greatest

/-- `x · 10^exponent`, each step rounded: one multiplication for a positive exponent,
    division by `10^308` as long as a negative one is beyond it. `none` on overflow. -/
def scale (x : Double) (exponent : Int) : Option Double :=
  if x.significand = 0 then some x
  else if 0 ≤ exponent then
    if exponent.toNat ≤ maxPower then x.mul (powerOfTen exponent.toNat) else none
  else
    let steps := (exponent.natAbs - 1) / maxPower
    -- three divisions already leave nothing of the largest significand
    let lowered := (List.range (min steps 4)).foldl
      (fun acc _ => acc.bind fun y => y.div (powerOfTen maxPower)) (some x)
    let rest := exponent.natAbs - steps * maxPower
    lowered.bind fun y => y.div (powerOfTen rest)

/-- The leading digits that fit 64 bits, and how many are left over. -/
def significandOf (start : Nat) : List Nat → Nat × Nat
  | [] => (start, 0)
  | d :: rest =>
    if start * 10 + d < Nat.pow 2 64 then significandOf (start * 10 + d) rest
    else (start, rest.length + 1)

/-- The number of a literal with the given sign, integer digits, fraction digits and
    exponent. A literal without fraction and exponent is an integer when it is in
    range, except `-0`. The significand keeps the leading digits that fit 64 bits;
    `none` when the number is too large. -/
def ofLiteral? (negative : Bool) (whole : List Nat) (fraction : Option (List Nat))
    (exponent : Option Int) : Option Number :=
  let (significand, dropped) := significandOf 0 whole
  let signed (x : Double) : Double := if negative then x.neg else x
  let scaled (n : Nat) (e : Int) : Option Number := do
    let x ← Double.nearest false n 1
    return .double (signed (← scale x e))
  match fraction, exponent with
  | none, none =>
    if dropped = 0 then
      let n : Int := if negative then -significand else significand
      if negative && (n == 0 || n < -(Nat.pow 2 63)) then
        (Double.nearest false significand 1).map fun x => .double (signed x)
      else some (ofInt n)
    else scaled significand dropped
  | _, _ =>
    let digits := fraction.getD []
    let (all, unread) := significandOf significand digits
    scaled all (dropped - ((digits.length - unread : Nat) : Int) + exponent.getD 0)

end Number

end JsonSchema
