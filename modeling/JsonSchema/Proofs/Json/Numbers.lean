import JsonSchema.Proofs.Json.Decimals
import Mathlib.Data.List.TakeWhile

/-!
# Texts of numbers

No two numbers have one text. The text of an integer has nothing but digits behind its sign; that of
a double has a point or an exponent besides, and can be read back to the decimal it was written with.

* `Layout.valueOf`: the number that a text stands for.
* `Layout.plain_shows`, `Layout.scientific_shows`: the texts of decimals stand for them.
* `Double.text_injective`: of two doubles, the signs or the decimals differ.
* `Number.text_injective`: a text is the text of one number only.
-/

namespace JsonSchema

/-- The characters of numbers. -/
def Json.isNumeric (c : Char) : Bool := c.isDigit || c == '-' || c == '+' || c == '.' || c == 'e'

namespace Layout

/-! ## Reading a text -/

/-- The exponent that a text ends in, with its mark and its sign. -/
def exponentOf : List Char → ℤ
  | 'e' :: '-' :: digits => -(Nat.ofDigitChars 10 digits 0 : ℤ)
  | 'e' :: '+' :: digits => Nat.ofDigitChars 10 digits 0
  | _ => 0

/-- The digits behind a point, and what is behind them. -/
def fractionOf : List Char → List Char × List Char
  | '.' :: rest => (rest.takeWhile Char.isDigit, rest.dropWhile Char.isDigit)
  | rest => ([], rest)

/-- The number that digits stand for, with a fraction and an exponent perhaps. -/
def valueOf (cs : List Char) : ℚ :=
  let (fraction, rest) := fractionOf (cs.dropWhile Char.isDigit)
  Nat.ofDigitChars 10 (cs.takeWhile Char.isDigit ++ fraction) 0 *
    10 ^ (exponentOf rest - fraction.length)

/-- A text begins with a digit, has a point or an exponent, and stands for a number. -/
structure Shows (cs : List Char) (v : ℚ) : Prop where
  value : valueOf cs = v
  digit : ∃ c rest, cs = c :: rest ∧ c.isDigit = true
  marked : '.' ∈ cs ∨ 'e' ∈ cs
  numeric : ∀ c ∈ cs, Json.isNumeric c = true

/-- Nothing but digits. -/
def Digits (cs : List Char) : Prop := ∀ c ∈ cs, c.isDigit = true

theorem digits_toDigits (n : ℕ) : Digits (Nat.toDigits 10 n) :=
  fun _ mem => Nat.isDigit_of_mem_toDigits (by norm_num) (by norm_num) mem

theorem digits_zeros (n : ℕ) : Digits (List.replicate n '0') :=
  fun _ mem => List.eq_of_mem_replicate mem ▸ rfl

theorem Digits.append {cs ds : List Char} (left : Digits cs) (right : Digits ds) :
    Digits (cs ++ ds) :=
  fun c mem => (List.mem_append.1 mem).elim (left c) (right c)

theorem Digits.numeric {cs : List Char} (digits : Digits cs) : ∀ c ∈ cs, Json.isNumeric c = true :=
  fun c mem => by simp [Json.isNumeric, digits c mem]

/-- Digits end where something else begins. -/
theorem Digits.span {cs rest : List Char} (digits : Digits cs)
    (ends : ∀ c ∈ rest.head?, c.isDigit = false) :
    (cs ++ rest).takeWhile Char.isDigit = cs ∧ (cs ++ rest).dropWhile Char.isDigit = rest := by
  rw [List.takeWhile_append_of_pos digits, List.dropWhile_append_of_pos digits]
  cases rest with
  | nil => simp
  | cons c rest => simp [ends c rfl]

/-- The sign and the digits of an exponent. -/
def exponentText (exponent : ℤ) : List Char :=
  'e' :: (if exponent < 0 then '-' else '+') :: Nat.toDigits 10 exponent.natAbs

theorem exponentOf_exponentText (exponent : ℤ) : exponentOf (exponentText exponent) = exponent := by
  rw [exponentText]
  split <;> simp only [exponentOf, Nat.ofDigitChars_ten_toDigits] <;> omega

theorem exponentText_ends (exponent : ℤ) :
    ∀ c ∈ (exponentText exponent).head?, c.isDigit = false := by
  intro c first
  cases first
  rfl

theorem exponentText_numeric (exponent : ℤ) :
    ∀ c ∈ exponentText exponent, Json.isNumeric c = true := by
  intro c mem
  rcases List.mem_cons.1 mem with rfl | mem
  · rfl
  · rcases List.mem_cons.1 mem with rfl | mem
    · split <;> rfl
    · exact (digits_toDigits _).numeric c mem

section Shows

variable {whole fraction : List Char} (some_ : whole ≠ []) (digits : Digits whole)
  (digits' : Digits fraction)

include some_ digits

theorem first_digit (rest : List Char) :
    ∃ c cs, whole ++ rest = c :: cs ∧ c.isDigit = true := by
  obtain ⟨c, cs, rfl⟩ := List.exists_cons_of_ne_nil some_
  exact ⟨c, cs ++ rest, rfl, digits c List.mem_cons_self⟩

/-- Digits with an exponent. -/
theorem shows_exponent (exponent : ℤ) :
    Shows (whole ++ exponentText exponent) (Nat.ofDigitChars 10 whole 0 * 10 ^ exponent) where
  value := by
    obtain ⟨take, drop⟩ := digits.span (exponentText_ends exponent)
    have none_ : fractionOf (exponentText exponent) = ([], exponentText exponent) := rfl
    simp only [valueOf, take, drop, none_, exponentOf_exponentText]
    simp
  digit := first_digit some_ digits _
  marked := .inr (List.mem_append_right _ List.mem_cons_self)
  numeric c mem :=
    (List.mem_append.1 mem).elim (digits.numeric c) (exponentText_numeric exponent c)

include digits'

/-- Digits with a fraction, and with a text behind them that has its exponent. -/
theorem shows_fraction {rest : List Char} (ends : ∀ c ∈ rest.head?, c.isDigit = false)
    (numeric : ∀ c ∈ rest, Json.isNumeric c = true) :
    Shows (whole ++ '.' :: (fraction ++ rest))
      (Nat.ofDigitChars 10 (whole ++ fraction) 0 * 10 ^ (exponentOf rest - fraction.length)) where
  value := by
    have point : ∀ c ∈ ('.' :: (fraction ++ rest)).head?, c.isDigit = false := fun c h => by
      cases h
      rfl
    obtain ⟨take, drop⟩ := digits.span point
    obtain ⟨take', drop'⟩ := digits'.span ends
    simp only [valueOf, take, drop, fractionOf, take', drop']
  digit := first_digit some_ digits _
  marked := .inl (List.mem_append_right _ List.mem_cons_self)
  numeric c mem := by
    rcases List.mem_append.1 mem with mem | mem
    · exact digits.numeric c mem
    · rcases List.mem_cons.1 mem with rfl | mem
      · rfl
      · exact (List.mem_append.1 mem).elim (digits'.numeric c) (numeric c)

/-- Digits with a fraction. -/
theorem shows_point :
    Shows (whole ++ '.' :: fraction)
      (Nat.ofDigitChars 10 (whole ++ fraction) 0 * 10 ^ (-(fraction.length : ℤ))) := by
  have none_ : ∀ c ∈ ([] : List Char).head?, c.isDigit = false := by simp
  simpa [exponentOf] using shows_fraction some_ digits digits' none_ (by simp)

end Shows

/-! ## Writing integers -/

/-- The integer that digits behind a sign stand for. -/
def integerOf : List Char → ℤ
  | '-' :: digits => -(Nat.ofDigitChars 10 digits 0 : ℤ)
  | digits => Nat.ofDigitChars 10 digits 0

theorem integerOf_toString (n : ℤ) : integerOf (toString n).toList = n := by
  rw [Int.toString_eq_repr, Int.repr_eq_if]
  split
  · rw [Nat.toList_repr]
    obtain ⟨c, cs, same, digit⟩ := first_digit (List.ne_nil_of_length_pos Nat.length_toDigits_pos)
      (digits_toDigits n.toNat) []
    have other : c ≠ '-' := by
      rintro rfl
      cases digit
    rw [List.append_nil] at same
    have plain_ : integerOf (c :: cs) = Nat.ofDigitChars 10 (c :: cs) 0 := by
      rw [integerOf]
      intro _ minus
      exact other (List.cons.inj minus).1
    rw [same, plain_, ← same, Nat.ofDigitChars_ten_toDigits]
    omega
  · have text : ("-" ++ (-n).toNat.repr).toList = '-' :: Nat.toDigits 10 (-n).toNat := by
      simp [Nat.toList_repr]
    rw [text, integerOf, Nat.ofDigitChars_ten_toDigits]
    omega

/-! ## Writing decimals -/

section Decimals

variable {digits : List Char} (only : Digits digits)

include only

theorem plain_shows (some_ : digits ≠ []) (point : ℤ) :
    Shows (answer.plain digits point).toList
      (Nat.ofDigitChars 10 digits 0 * 10 ^ (point - digits.length)) := by
  rw [plain]
  split
  · next small =>
    have fraction := (digits_zeros (-point).toNat).append only
    have shows_ := shows_point (by simp) (digits_zeros 1) fraction
    have text : ("0." ++ zeros (-point).toNat ++ String.ofList digits).toList =
        List.replicate 1 '0' ++ '.' :: (List.replicate (-point).toNat '0' ++ digits) := by
      simp [zeros]
    have value : Nat.ofDigitChars 10
          (List.replicate 1 '0' ++ (List.replicate (-point).toNat '0' ++ digits)) 0 =
        Nat.ofDigitChars 10 digits 0 := by
      rw [← List.append_assoc, List.replicate_append_replicate, Nat.ofDigitChars_append,
        Nat.ofDigitChars_replicate_zero, mul_zero]
    have exponent : -((List.replicate (-point).toNat '0' ++ digits).length : ℤ) =
        point - digits.length := by
      rw [List.length_append, List.length_replicate]
      omega
    rw [text, ← value, ← exponent]
    exact shows_
  · next positive =>
    split
    · next long =>
      have whole := only.append (digits_zeros (point.toNat - digits.length))
      have shows_ := shows_point (by simp [some_]) whole (digits_zeros 1)
      have text : (String.ofList digits ++ zeros (point.toNat - digits.length) ++
            if answer.pointZero then ".0" else "").toList =
          (digits ++ List.replicate (point.toNat - digits.length) '0') ++ '.' :: ['0'] := by
        simp [zeros, answer]
      have value : (Nat.ofDigitChars 10 (digits ++ List.replicate (point.toNat - digits.length) '0' ++
            List.replicate 1 '0') 0 * 10 ^ (-((List.replicate 1 '0').length : ℤ)) : ℚ) =
          Nat.ofDigitChars 10 digits 0 * 10 ^ (point - digits.length) := by
        obtain ⟨n, same⟩ : ∃ n : ℕ, point = digits.length + n :=
          ⟨point.toNat - digits.length, by omega⟩
        have count : point.toNat - digits.length = n := by omega
        have power : (10 : ℚ) ^ (point - digits.length) = 10 ^ n := by
          rw [same, add_sub_cancel_left, zpow_natCast]
        rw [count, power, Nat.ofDigitChars_append, Nat.ofDigitChars_append,
          Nat.ofDigitChars_replicate_zero, Nat.ofDigitChars_replicate_zero, List.length_replicate]
        push_cast
        rw [zpow_neg, zpow_one]
        ring
      rw [text, ← value]
      exact shows_
    · next short =>
      have some' : digits.take point.toNat ≠ [] := by
        rw [Ne, List.take_eq_nil_iff, not_or]
        exact ⟨by omega, some_⟩
      have shows_ := shows_point some' (fun c mem => only c (List.mem_of_mem_take mem))
        (fun c mem => only c (List.mem_of_mem_drop mem) : Digits (digits.drop point.toNat))
      have text : (String.ofList (digits.take point.toNat) ++ "." ++
            String.ofList (digits.drop point.toNat)).toList =
          digits.take point.toNat ++ '.' :: digits.drop point.toNat := by
        simp
      have exponent : -((digits.drop point.toNat).length : ℤ) = point - digits.length := by
        rw [List.length_drop]
        omega
      rw [text, ← exponent]
      rw [List.take_append_drop] at shows_
      exact shows_

theorem scientific_shows (some_ : digits ≠ []) (exponent : ℤ) :
    Shows (scientific digits exponent).toList
      (Nat.ofDigitChars 10 digits 0 * 10 ^ (exponent + 1 - digits.length)) := by
  have behind : ("e" ++ (if exponent < 0 then "-" else "+") ++ toString exponent.natAbs).toList =
      exponentText exponent := by
    rw [exponentText]
    split <;> simp [Nat.toString_eq_repr, Nat.toList_repr]
  match digits, some_ with
  | [d], _ =>
    have text : (scientific [d] exponent).toList = [d] ++ exponentText exponent := by
      simp [scientific, ← behind]
    rw [text]
    convert shows_exponent (by simp) only exponent using 3
    simp
  | d :: e :: rest, _ =>
    have text : (scientific (d :: e :: rest) exponent).toList =
        [d] ++ '.' :: ((e :: rest) ++ exponentText exponent) := by
      simp [scientific, ← behind]
    have whole : Digits [d] := fun c mem => only c (List.mem_cons.2 (.inl (List.mem_singleton.1 mem)))
    have fraction : Digits (e :: rest) := fun c mem => only c (List.mem_cons_of_mem _ mem)
    have shows_ := shows_fraction (by simp) whole fraction (exponentText_ends exponent)
      (exponentText_numeric exponent)
    have count : exponent - ((e :: rest).length : ℤ) =
        exponent + 1 - ((d :: e :: rest).length : ℤ) := by
      rw [List.length_cons (a := d)]
      omega
    rw [exponentOf_exponentText, count] at shows_
    rw [text]
    exact shows_

end Decimals

end Layout

/-! ## Doubles -/

namespace Double

/-- The decimal that a double is written with, and zero for zero. -/
def shown (x : Double) : ℚ := if x.significand = 0 then 0 else (x.shortest Layout.answer.tieUp).value

/-- The text of a double without its sign. -/
def unsigned (x : Double) : String :=
  if x.significand = 0 then "0.0" else
    let d := x.shortest Layout.answer.tieUp
    let digits := Nat.toDigits 10 d.digits
    let leading := d.exponent + digits.length - 1
    if Layout.answer.positional leading then Layout.answer.plain digits (leading + 1)
    else Layout.scientific digits leading

theorem text_eq (x : Double) :
    x.text .answer = (if x.negative then "-" else "") ++ x.unsigned := by
  rw [text, unsigned]
  split <;> rfl

theorem unsigned_shows (x : Double) : Layout.Shows x.unsigned.toList x.shown := by
  rw [unsigned, shown]
  split
  · have shows_ := Layout.shows_point (by simp) (Layout.digits_zeros 1) (Layout.digits_zeros 1)
    have zero : Nat.ofDigitChars 10 (List.replicate 1 '0' ++ List.replicate 1 '0') 0 = 0 := rfl
    rw [zero, Nat.cast_zero, zero_mul] at shows_
    exact shows_
  · generalize x.shortest Layout.answer.tieUp = d
    have only := Layout.digits_toDigits d.digits
    have some_ : Nat.toDigits 10 d.digits ≠ [] := List.ne_nil_of_length_pos Nat.length_toDigits_pos
    dsimp only
    rw [Decimal.value]
    split
    · convert Layout.plain_shows only some_ _ using 2
      · rw [Nat.ofDigitChars_ten_toDigits]
      · congr 1
        ring
    · convert Layout.scientific_shows only some_ _ using 2
      · rw [Nat.ofDigitChars_ten_toDigits]
      · congr 1
        ring

/-- The first character tells the sign. -/
theorem head_text (x : Double) : x.negative = true ↔ (x.text .answer).toList.head? = some '-' := by
  obtain ⟨c, rest, cs, digit⟩ := x.unsigned_shows.digit
  rw [text_eq, String.toList_append, cs]
  cases x.negative with
  | true => simp
  | false =>
    have other : c ≠ '-' := by
      rintro rfl
      cases digit
    simp [other]

theorem shown_injective {x y : Double} (signs : x.negative = y.negative) (same : x.shown = y.shown) :
    x = y := by
  have parts : x.significand = y.significand ∧ x.exponent = y.exponent := by
    rw [shown, shown] at same
    by_cases zero : x.significand = 0 <;> by_cases zero' : y.significand = 0
    · have least := x.canonical.2.2.2
      have least' := y.canonical.2.2.2
      norm_num [zero, zero'] at least least'
      exact ⟨zero.trans zero'.symm, least.trans least'.symm⟩
    · rw [if_pos zero, if_neg zero'] at same
      exact absurd same (ne_of_lt ((shortest_isNear zero' _).pos zero'))
    · rw [if_neg zero, if_pos zero'] at same
      exact absurd same.symm (ne_of_lt ((shortest_isNear zero _).pos zero))
    · rw [if_neg zero, if_neg zero'] at same
      have near := shortest_isNear zero Layout.answer.tieUp
      rw [same] at near
      exact parts_eq_of_isNear near (shortest_isNear zero' _)
  obtain ⟨_, _, _, _⟩ := x
  obtain ⟨_, _, _, _⟩ := y
  obtain ⟨rfl, rfl⟩ := parts
  cases signs
  rfl

theorem text_injective {x y : Double} (same : x.text .answer = y.text .answer) : x = y := by
  have signs : x.negative = y.negative := by
    rw [Bool.eq_iff_iff, head_text, head_text, same]
  refine shown_injective signs ?_
  rw [text_eq, text_eq, signs, String.append_right_inj] at same
  rw [← x.unsigned_shows.value, ← y.unsigned_shows.value, same]

end Double

/-! ## Numbers -/

namespace Number

/-- An integer is written with digits behind a sign. -/
theorem int_numeric (n : ℤ) : (toString n).toList ≠ [] ∧
    ∀ c ∈ (toString n).toList, c.isDigit = true ∨ c = '-' := by
  rw [Int.toString_eq_repr, Int.repr_eq_if]
  split
  · rw [Nat.toList_repr]
    exact ⟨List.ne_nil_of_length_pos Nat.length_toDigits_pos,
      fun c mem => .inl (Layout.digits_toDigits _ c mem)⟩
  · rw [String.toList_append, Nat.toList_repr]
    refine ⟨by simp, fun c mem => ?_⟩
    rcases List.mem_append.1 mem with mem | mem
    · exact .inr (by simpa using mem)
    · exact .inl (Layout.digits_toDigits _ c mem)

theorem double_marked (x : Double) :
    '.' ∈ (x.text .answer).toList ∨ 'e' ∈ (x.text .answer).toList := by
  rw [Double.text_eq, String.toList_append]
  exact x.unsigned_shows.marked.imp (List.mem_append_right _) (List.mem_append_right _)

/-- No integer is written like a double. -/
theorem int_ne_double (n : ℤ) (x : Double) : toString n ≠ x.text .answer := by
  intro same
  have digits := (int_numeric n).2
  rw [same] at digits
  rcases double_marked x with mem | mem
  · have := digits _ mem
    simp at this
  · have := digits _ mem
    simp at this

theorem int_injective {m n : ℤ} (same : toString m = toString n) : m = n := by
  rw [← Layout.integerOf_toString m, ← Layout.integerOf_toString n, same]

theorem text_numeric (n : Number) :
    n.text.toList ≠ [] ∧ ∀ c ∈ n.text.toList, Json.isNumeric c = true := by
  cases n with
  | integer n _ =>
    refine ⟨(int_numeric n).1, fun c mem => ?_⟩
    rcases (int_numeric n).2 c mem with digit | rfl
    · simp [Json.isNumeric, digit]
    · rfl
  | double x =>
    rw [text, Double.text_eq, String.toList_append]
    obtain ⟨_, _, cs, _⟩ := x.unsigned_shows.digit
    refine ⟨by simp [cs], fun c mem => ?_⟩
    rcases List.mem_append.1 mem with mem | mem
    · split at mem
      · rw [List.mem_singleton.1 mem]
        rfl
      · simp at mem
    · exact x.unsigned_shows.numeric c mem

theorem text_injective {m n : Number} (same : m.text = n.text) : m = n := by
  cases m with
  | integer m _ =>
    cases n with
    | integer n _ =>
      cases int_injective same
      rfl
    | double y => exact absurd same (int_ne_double m y)
  | double x =>
    cases n with
    | integer n _ => exact absurd same.symm (int_ne_double n x)
    | double y => rw [Double.text_injective same]

end Number

end JsonSchema
