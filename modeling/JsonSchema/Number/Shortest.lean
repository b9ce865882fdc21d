import JsonSchema.Number.Double

/-!
# Shortest decimals and their layout

A number is written with the fewest significant digits that read back to it, and
of those with the digits nearest to it.

* `Double.readsBack`: whether a decimal lies among the reals that round to a
  number, by cross-multiplication of naturals.
* `Double.shortest`: the digits that are written.
* `Layout`: the decisions of a text format. `Layout.answer` is the format of JSON
  documents, `Layout.message` that of numbers inside messages.
-/

namespace JsonSchema

/-- The decimal `digits · 10^exponent`. -/
structure Decimal where
  digits : Nat
  exponent : Int
deriving DecidableEq, Repr

/-- How many decimal digits a natural number has; zero has none. -/
def decimalLength (n : Nat) : Nat := if n = 0 then 0 else (Nat.toDigits 10 n).length

namespace Decimal

/-- The comparison of `a · 10^i` with `n · 2^j`. -/
def compareScaled (a : Nat) (i : Int) (n : Nat) (j : Int) : Ordering :=
  compare (a * Nat.pow 10 i.toNat * Nat.pow 2 (-j).toNat) (n * Nat.pow 2 j.toNat * Nat.pow 10 (-i).toNat)

/-- The same decimal without trailing zero digits, at most `fuel` of them. -/
def stripZeros (fuel : Nat) (d : Decimal) : Decimal :=
  match fuel with
  | 0 => d
  | fuel + 1 =>
    if d.digits % 10 = 0 ∧ d.digits ≠ 0 then stripZeros fuel ⟨d.digits / 10, d.exponent + 1⟩ else d

end Decimal

namespace Double

/-- Whether the decimal rounds to the number, up to the sign. The ends of the
    rounding interval belong to it exactly when the significand is even, and below
    a power of two the interval is half as wide. -/
def readsBack (x : Double) (d : Decimal) : Bool :=
  let narrow := x.significand == Nat.pow 2 52 && x.exponent != -1074
  let low := if narrow then 4 * x.significand - 1 else 4 * x.significand - 2
  let high := 4 * x.significand + 2
  let closed := x.significand % 2 == 0
  let below := Decimal.compareScaled d.digits d.exponent low (x.exponent - 2)
  let above := Decimal.compareScaled d.digits d.exponent high (x.exponent - 2)
  (below == .gt || (closed && below == .eq)) && (above == .lt || (closed && above == .eq))

/-- The least `k` with `|x| < 10^k`, for a nonzero number. -/
def decimalScale (x : Double) : Int :=
  let num := x.significand * Nat.pow 2 x.exponent.toNat
  let den := Nat.pow 2 (-x.exponent).toNat
  if den ≤ num then decimalLength (num / den)
  else 1 - (decimalLength ((den + num - 1) / num - 1) : Int)

/-- Of the two neighbours of `|x|` on the grid `10^exponent`, the one that reads
    back, the nearer one if both do, and on a tie the one that `tieUp` names. -/
def onGrid? (tieUp : Bool) (x : Double) (exponent : Int) : Option Decimal :=
  let num := x.significand * Nat.pow 2 x.exponent.toNat * Nat.pow 10 (-exponent).toNat
  let den := Nat.pow 2 (-x.exponent).toNat * Nat.pow 10 exponent.toNat
  let lower : Decimal := ⟨num / den, exponent⟩
  let upper : Decimal := ⟨num / den + 1, exponent⟩
  match x.readsBack lower, x.readsBack upper with
  | true, true =>
    match compare (2 * (num % den)) den with
    | .lt => some lower
    | .gt => some upper
    | .eq => if tieUp || lower.digits % 2 == 1 then some upper else some lower
  | true, false => some lower
  | false, true => some upper
  | false, false => none

/-- The digits a nonzero number is written with. Seventeen always suffice; the
    exact value stands behind the search. -/
def shortest (tieUp : Bool) (x : Double) : Decimal :=
  let scale := x.decimalScale
  let found := (List.range 17).findSome? fun n => x.onGrid? tieUp (scale - (n + 1 : Nat))
  let exact : Decimal :=
    ⟨x.significand * Nat.pow 2 x.exponent.toNat * Nat.pow 5 (-x.exponent).toNat, min x.exponent 0⟩
  (found.getD exact).stripZeros 1100

end Double

/-! ## Layout -/

/-- The decisions of a text format for numbers. -/
structure Layout where
  /-- Which exponents of the leading digit are written without an exponent. -/
  positional : Int → Bool
  /-- Whether an integral value ends in `.0`. -/
  pointZero : Bool
  /-- Whether the upper of two equally near candidates is written. -/
  tieUp : Bool

namespace Layout

/-- JSON documents write numbers from `1e-5` to below `1e16` positionally and with
    at least one decimal, all others with a signed exponent. -/
def answer : Layout where
  positional e := -5 ≤ e && e < 16
  pointZero := true
  tieUp := false

/-- Messages write every number positionally, an integral one without a point. -/
def message : Layout where
  positional _ := true
  pointZero := false
  tieUp := true

/-- `n` zeros. -/
def zeros (n : Nat) : String := String.ofList (List.replicate n '0')

/-- The positional form of `0.digits · 10^point`. -/
def plain (l : Layout) (digits : List Char) (point : Int) : String :=
  if point ≤ 0 then
    "0." ++ zeros (-point).toNat ++ String.ofList digits
  else if digits.length ≤ point.toNat then
    String.ofList digits ++ zeros (point.toNat - digits.length) ++ (if l.pointZero then ".0" else "")
  else
    String.ofList (digits.take point.toNat) ++ "." ++ String.ofList (digits.drop point.toNat)

/-- The exponent form with one digit before the point. -/
def scientific (digits : List Char) (exponent : Int) : String :=
  let mantissa := match digits with
    | d :: rest@(_ :: _) => String.singleton d ++ "." ++ String.ofList rest
    | _ => String.ofList digits
  let sign := if exponent < 0 then "-" else "+"
  mantissa ++ "e" ++ sign ++ toString exponent.natAbs

end Layout

/-- The text of a number in a format. -/
def Double.text (l : Layout) (x : Double) : String :=
  let sign := if x.negative then "-" else ""
  if x.significand = 0 then sign ++ (if l.pointZero then "0.0" else "0") else
    let d := x.shortest l.tieUp
    let digits := Nat.toDigits 10 d.digits
    let leading := d.exponent + digits.length - 1
    sign ++ if l.positional leading then l.plain digits (leading + 1)
      else Layout.scientific digits leading

end JsonSchema
