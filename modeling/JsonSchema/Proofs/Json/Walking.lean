import Mathlib.Data.List.Forall2
import Mathlib.Data.List.Induction
import JsonSchema.Proofs.Json.Pointers

/-!
# Walking along pointers

A pointer behind a reference is read with less care than the standard of JSON pointers asks for. The
position of an item may have a plus sign and zeros in front, and a tilde that starts no escape stands
for itself. So several pointers may lead to one part of a value, but only one of them is read by the
standard.

* `Pointer.IsIndex`, `Pointer.index?_eq_some_iff`: how positions of items may be written.
* `Pointer.position?_eq_some_iff`, `Pointer.tokens?_eq_some_iff`: how the standard has them, and
  tokens, written.
* `Pointer.Names`: a pointer without percent signs names turns.
* `Value.walk?_eq_some_iff`, `Value.evaluate?_eq_some_iff`: where pointers lead, and where the
  standard says that they do.
* `Value.evaluate?_of_names`: among the pointers that name turns in a value, the standard reads the
  one that is put together from them.
-/

namespace JsonSchema

namespace Pointer

/-! ## Positions -/

/-- A segment names a position: it is written with the decimal digits of a number below `2^64`, with
    any number of zeros and perhaps a plus sign in front. -/
def IsIndex (segment : String) (position : Nat) : Prop :=
  position < Nat.pow 2 64 ∧ ∃ sign zeros, (sign = [] ∨ sign = ['+']) ∧
    segment.toList = sign ++ (List.replicate zeros '0' ++ Nat.toDigits 10 position)

/-- The way in which digits are read is that of the library. -/
theorem foldl_digits (digits : List Char) (n : Nat) :
    digits.foldl (fun n c => n * 10 + (c.toNat - '0'.toNat)) n = Nat.ofDigitChars 10 digits n := by
  simp only [Nat.ofDigitChars_eq_foldl, Nat.mul_comm]

theorem ofDigitChars_zeros (zeros n : Nat) :
    Nat.ofDigitChars 10 (List.replicate zeros '0' ++ Nat.toDigits 10 n) 0 = n := by
  rw [Nat.ofDigitChars_append, Nat.ofDigitChars_replicate_zero, Nat.mul_zero,
    Nat.ofDigitChars_ten_toDigits]

theorem isDigit_of_mem_zeros {zeros n : Nat} {c : Char}
    (mem : c ∈ List.replicate zeros '0' ++ Nat.toDigits 10 n) : c.isDigit = true := by
  rcases List.mem_append.1 mem with zero | digit
  · rw [List.eq_of_mem_replicate zero]
    rfl
  · exact Nat.isDigit_of_mem_toDigits (by decide) (by decide) digit

/-- A digit is what its value is written with. -/
theorem digitChar_of_isDigit {c : Char} (digit : c.isDigit = true) :
    c.toNat - '0'.toNat < 10 ∧ Nat.digitChar (c.toNat - '0'.toNat) = c := by
  obtain ⟨low, high⟩ : 48 ≤ c.toNat ∧ c.toNat ≤ 57 := Char.isDigit_iff_toNat.1 digit
  have small : c.toNat - '0'.toNat < 10 := by
    show c.toNat - 48 < 10
    omega
  refine ⟨small, Char.toNat_inj.1 ?_⟩
  rw [Nat.toNat_digitChar_of_lt_ten small]
  show 48 + (c.toNat - 48) = c.toNat
  omega

/-- Decimal digits are those of the number that they write, with some zeros in front. -/
theorem exists_zeros {digits : List Char} (written : digits ≠ [])
    (digit : ∀ c ∈ digits, c.isDigit = true) :
    ∃ zeros, digits =
      List.replicate zeros '0' ++ Nat.toDigits 10 (Nat.ofDigitChars 10 digits 0) := by
  induction digits using List.reverseRecOn with
  | nil => exact absurd rfl written
  | append_singleton digits c ih =>
    obtain ⟨small, same⟩ :=
      digitChar_of_isDigit (digit c (List.mem_append_right _ List.mem_cons_self))
    rw [Nat.ofDigitChars_append, Nat.ofDigitChars_cons, Nat.ofDigitChars_nil]
    cases front : Nat.ofDigitChars 10 digits 0 with
    | zero =>
      -- there are only zeros in front of the last digit
      rw [Nat.mul_zero, Nat.zero_add, Nat.toDigits_of_lt_base small, same]
      by_cases none : digits = []
      · exact ⟨0, by rw [none]; rfl⟩
      · obtain ⟨zeros, shape⟩ := ih none fun d mem => digit d (List.mem_append_left _ mem)
        rw [front] at shape
        refine ⟨zeros + 1, ?_⟩
        rw [List.replicate_succ', shape]
        rfl
    | succ n =>
      have none : digits ≠ [] := by
        rintro rfl
        cases front
      obtain ⟨zeros, shape⟩ := ih none fun d mem => digit d (List.mem_append_left _ mem)
      refine ⟨zeros, ?_⟩
      rw [front] at shape
      rw [← Nat.toDigits_append_toDigits (by decide) (Nat.succ_pos n) small,
        Nat.toDigits_of_lt_base small, same, ← List.append_assoc, ← shape]

/-- The number below `2^64` that decimal digits write. -/
def word? (digits : List Char) : Option Nat :=
  if digits.isEmpty || !digits.all Char.isDigit then none
  else
    let n := digits.foldl (fun n c => n * 10 + (c.toNat - '0'.toNat)) 0
    if n < Nat.pow 2 64 then some n else none

theorem word?_eq_some_iff {digits : List Char} {n : Nat} :
    word? digits = some n ↔
      n < Nat.pow 2 64 ∧ ∃ zeros, digits = List.replicate zeros '0' ++ Nat.toDigits 10 n := by
  simp only [word?, foldl_digits]
  constructor
  · intro read
    split at read
    · cases read
    · next shape =>
      rw [Bool.or_eq_true, not_or, List.isEmpty_iff, Bool.not_eq_true, Bool.not_eq_false',
        List.all_eq_true] at shape
      split at read
      · next small =>
        cases read
        exact ⟨small, exists_zeros shape.1 shape.2⟩
      · cases read
  · rintro ⟨small, zeros, rfl⟩
    have written : (List.replicate zeros '0' ++ Nat.toDigits 10 n).isEmpty = false :=
      List.isEmpty_eq_false_iff.2 fun none => Nat.toDigits_ne_nil (List.append_eq_nil_iff.1 none).2
    have digits : (List.replicate zeros '0' ++ Nat.toDigits 10 n).all Char.isDigit = true :=
      List.all_eq_true.2 fun c mem => isDigit_of_mem_zeros mem
    rw [written, digits, ofDigitChars_zeros, if_pos small]
    rfl

/-- What stands behind a plus sign. -/
def unsigned : List Char → List Char
  | '+' :: rest => rest
  | cs => cs

theorem index?_eq_some_iff {segment : String} {position : Nat} :
    index? segment = some position ↔ IsIndex segment position := by
  have read : index? segment = word? (unsigned segment.toList) := rfl
  rw [read, word?_eq_some_iff]
  refine and_congr_right fun _ => ?_
  unfold unsigned
  split
  · next rest plus =>
    rw [plus]
    constructor
    · rintro ⟨zeros, rfl⟩
      exact ⟨['+'], zeros, .inr rfl, rfl⟩
    · rintro ⟨sign, zeros, rfl | rfl, text⟩
      · -- a plus sign is no digit
        have digit := isDigit_of_mem_zeros (c := '+') (text ▸ List.mem_cons_self)
        cases digit
      · exact ⟨zeros, (List.cons.inj text).2⟩
  · next plain =>
    constructor
    · rintro ⟨zeros, text⟩
      exact ⟨[], zeros, .inl rfl, text⟩
    · rintro ⟨sign, zeros, rfl | rfl, text⟩
      · exact ⟨zeros, text⟩
      · exact absurd text (plain _)

/-- The standard has a position written with its digits alone. -/
theorem position?_eq_some_iff {token : String} {position : Nat} :
    position? token = some position ↔ token = toString position := by
  constructor
  · intro read
    rw [position?] at read
    split at read
    · next shape =>
      obtain ⟨written, digits, alone⟩ := shape
      obtain ⟨zeros, same⟩ := exists_zeros written (List.all_eq_true.1 digits)
      rw [Option.some.injEq, foldl_digits] at read
      rw [read] at same
      cases zeros with
      | zero => exact String.toList_injective (same.trans Nat.toList_repr.symm)
      | succ zeros =>
        -- a zero in front stands alone, but digits would follow
        have only := alone (by rw [same]; rfl)
        have long := congrArg List.length (same.symm.trans only)
        have := List.length_pos_iff.2 (Nat.toDigits_ne_nil (b := 10) (n := position))
        simp at long
        omega
    · cases read
  · rintro rfl
    exact position?_toString position

/-! ## Tokens -/

/-- A part is written with the escapes of its token. -/
theorem escape_of_token? {part token : List Char} (clean : '/' ∉ part)
    (read : token? part = some token) : escape token = part := by
  induction part using token?.induct generalizing token with
  | case1 =>
    cases read
    rfl
  | case2 rest ih | case3 rest ih =>
    rw [token?] at read
    obtain ⟨token', inner, rfl⟩ := Option.map_eq_some_iff.1 read
    have rest' := ih (fun mem => clean (by simp [mem])) inner
    rw [escape_cons, rest']
    rfl
  | case4 rest zero one =>
    rw [token?, if_pos rfl] at read
    · cases read
    · exact fun rest' _ => zero rest' rfl
    · exact fun rest' _ => one rest' rfl
  | case5 c rest zero one plain ih =>
    rw [token?, if_neg plain] at read
    · obtain ⟨token', inner, rfl⟩ := Option.map_eq_some_iff.1 read
      have slash : c ≠ '/' := fun same => clean (same ▸ List.mem_cons_self)
      rw [escape_cons, if_neg plain, if_neg slash,
        ih (fun mem => clean (List.mem_cons_of_mem _ mem)) inner]
      rfl
    all_goals exact fun _ same => absurd same plain

theorem map_escape_of_mapM_token? {parts : List (List Char)} {tokens : List String}
    (clean : ∀ part ∈ parts, '/' ∉ part)
    (read : (parts.mapM fun part => (token? part).map String.ofList) = some tokens) :
    (tokens.map fun token => escape token.toList) = parts := by
  induction parts generalizing tokens with
  | nil =>
    cases read
    rfl
  | cons part parts ih =>
    rw [List.mapM_cons] at read
    obtain ⟨first, readFirst, read⟩ := Option.bind_eq_some_iff.1 read
    obtain ⟨others, readOthers, read⟩ := Option.bind_eq_some_iff.1 read
    obtain ⟨token, readToken, rfl⟩ := Option.map_eq_some_iff.1 readFirst
    cases read
    rw [List.map_cons, String.toList_ofList,
      escape_of_token? (clean part List.mem_cons_self) readToken,
      ih (fun p mem => clean p (List.mem_cons_of_mem _ mem)) readOthers]

/-- The standard reads a pointer that is put together from its tokens. -/
theorem tokens?_eq_some_iff {pointer : String} {tokens : List String} :
    tokens? pointer = some tokens ↔ pointer = ofSegments tokens := by
  constructor
  · intro read
    have text : (ofSegments tokens).toList = _ := toList_foldl_child tokens ""
    refine String.toList_injective (Eq.trans ?_ text.symm)
    rw [tokens?] at read
    split at read
    · next empty =>
      cases read
      exact empty
    · next c rest shape =>
      split at read
      · next slash =>
        rw [map_escape_of_mapM_token? (fun part mem => Text.not_mem_of_mem_splitOn mem) read,
          Text.flatMap_splitOn, shape, slash]
        rfl
      · cases read
  · rintro rfl
    exact tokens?_ofSegments tokens

/-! ## Names -/

end Pointer

/-- A segment behind a reference names a turn. -/
def Turn.IsNamed (segment : String) : Turn → Prop
  | .item position => Pointer.IsIndex segment position
  | .member name => segment = name

/-- A pointer without percent signs names turns, one after the other. -/
def Pointer.Names (pointer : String) (turns : List Turn) : Prop :=
  ∃ parts : List (List Char), pointer.toList = parts.flatMap ('/' :: ·) ∧
    (∀ part ∈ parts, '/' ∉ part) ∧
    List.Forall₂ (fun part turn => Turn.IsNamed (String.ofList (Pointer.unescape part)) turn)
      parts turns

/-- A pointer of which nothing is decoded: it is empty or starts with a slash, and has no percent
    sign. -/
def Pointer.IsPlain (pointer : String) : Prop :=
  (∀ c ∈ pointer.toList.head?, c = '/') ∧ '%' ∉ pointer.toList

namespace Pointer

/-- What stands behind the slashes of a pointer. -/
def parts (pointer : String) : List (List Char) := (Text.splitOn '/' pointer.toList).drop 1

theorem segments?_of_isPlain {pointer : String} (plain : IsPlain pointer) :
    segments? pointer = some ((parts pointer).map fun part => String.ofList (unescape part)) := by
  rw [segments?, Percent.decode?_of_not_mem plain.2]
  rfl

theorem flatMap_parts {pointer : String} (plain : IsPlain pointer) :
    (parts pointer).flatMap ('/' :: ·) = pointer.toList := by
  rw [parts]
  cases text : pointer.toList with
  | nil => rfl
  | cons c rest =>
    have slash : c = '/' := plain.1 c (by rw [text]; rfl)
    rw [slash, Text.splitOn, if_pos rfl]
    exact Text.flatMap_splitOn '/' rest

theorem names_iff {pointer : String} (plain : IsPlain pointer) {turns : List Turn} :
    Names pointer turns ↔ List.Forall₂ Turn.IsNamed
      ((parts pointer).map fun part => String.ofList (unescape part)) turns := by
  rw [List.forall₂_map_left_iff]
  constructor
  · rintro ⟨own, text, clean, named⟩
    have same : parts pointer = own := by
      rw [parts, text, Text.splitOn_flatMap clean]
    rw [same]
    exact named
  · intro named
    exact ⟨parts pointer, (flatMap_parts plain).symm,
      fun part mem => Text.not_mem_of_mem_splitOn (List.mem_of_mem_drop mem), named⟩

end Pointer

/-- The part of a document that a pointer behind a reference leads to, with its base. -/
def Value.walk? (document : Value) (base pointer : String) : Option (Value × String) :=
  (Pointer.segments? pointer).bind (document.follow? base)

namespace Value

/-- Steps lead to a part exactly if turns that they name do. -/
theorem foldlM_eq_some_iff {step : Value → String → Option Value} {names : String → Turn → Prop}
    (each : ∀ value segment part,
      step value segment = some part ↔ ∃ turn, value.turn? turn = some part ∧ names segment turn)
    {value part : Value} {segments : List String} :
    segments.foldlM step value = some part ↔
      ∃ turns, value.at? turns = some part ∧ List.Forall₂ names segments turns := by
  induction segments generalizing value with
  | nil =>
    constructor
    · intro here
      exact ⟨[], here, .nil⟩
    · rintro ⟨turns, leads, named⟩
      cases named
      exact leads
  | cons segment segments ih =>
    rw [List.foldlM_cons]
    constructor
    · intro leads
      obtain ⟨next, first, rest⟩ := Option.bind_eq_some_iff.1 leads
      obtain ⟨turn, turned, named⟩ := (each value segment next).1 first
      obtain ⟨turns, leads, others⟩ := ih.1 rest
      refine ⟨turn :: turns, ?_, .cons named others⟩
      rw [at?, List.foldlM_cons, turned]
      exact leads
    · rintro ⟨turns, leads, named⟩
      cases named with
      | cons named others =>
        rw [at?, List.foldlM_cons] at leads
        obtain ⟨next, turned, rest⟩ := Option.bind_eq_some_iff.1 leads
        exact Option.bind_eq_some_iff.2
          ⟨next, (each value segment next).2 ⟨_, turned, named⟩, ih.2 ⟨_, rest, others⟩⟩

theorem step?_eq_some_iff (value : Value) (segment : String) (part : Value) :
    value.step? segment = some part ↔
      ∃ turn, value.turn? turn = some part ∧ Turn.IsNamed segment turn := by
  constructor
  · intro leads
    cases value with
    | object members => exact ⟨.member segment, leads, rfl⟩
    | array items =>
      obtain ⟨position, read, leads⟩ := Option.bind_eq_some_iff.1 leads
      exact ⟨.item position, leads, Pointer.index?_eq_some_iff.1 read⟩
    | _ => cases leads
  · rintro ⟨turn, leads, named⟩
    cases value <;> cases turn <;> try cases leads
    · rw [step?, Pointer.index?_eq_some_iff.2 named]
      exact leads
    · rw [step?, show segment = _ from named]
      exact leads

theorem part?_eq_some_iff (value : Value) (token : String) (part : Value) :
    value.part? token = some part ↔ ∃ turn, value.turn? turn = some part ∧ token = turn.token := by
  constructor
  · intro leads
    cases value with
    | object members => exact ⟨.member token, leads, rfl⟩
    | array items =>
      obtain ⟨position, read, leads⟩ := Option.bind_eq_some_iff.1 leads
      exact ⟨.item position, leads, Pointer.position?_eq_some_iff.1 read⟩
    | _ => cases leads
  · rintro ⟨turn, leads, rfl⟩
    exact part?_token leads

/-- A pointer leads where the turns lead that it names. -/
theorem walk?_eq_some_iff {document part : Value} {base pointer : String}
    (plain : Pointer.IsPlain pointer) :
    (document.walk? base pointer).map Prod.fst = some part ↔
      ∃ turns, document.at? turns = some part ∧ Pointer.Names pointer turns := by
  rw [walk?, Pointer.segments?_of_isPlain plain, Option.bind_some, follow?_eq,
    foldlM_eq_some_iff step?_eq_some_iff]
  simp only [Pointer.names_iff plain]

/-- The standard says that a pointer leads where turns lead if it is put together from these. -/
theorem evaluate?_eq_some_iff {document part : Value} {pointer : String} :
    document.evaluate? pointer = some part ↔
      ∃ turns, document.at? turns = some part ∧ pointer = Pointer.ofTurns turns := by
  have written (tokens : List String) (turns : List Turn) :
      List.Forall₂ (fun token turn => token = Turn.token turn) tokens turns ↔
        tokens = turns.map Turn.token := by
    rw [← List.forall₂_eq_eq_eq, List.forall₂_map_right_iff]
  rw [evaluate?, Option.bind_eq_some_iff]
  simp only [foldlM_eq_some_iff part?_eq_some_iff, Pointer.tokens?_eq_some_iff, written]
  constructor
  · rintro ⟨tokens, rfl, turns, leads, rfl⟩
    exact ⟨turns, leads, rfl⟩
  · rintro ⟨turns, leads, rfl⟩
    exact ⟨turns.map Turn.token, rfl, turns, leads, rfl⟩

/-! ## Several pointers to one part -/

/-- A segment names only one turn from a value. -/
theorem turn_eq_of_isNamed {value part part' : Value} {segment : String} {turn turn' : Turn}
    (leads : value.turn? turn = some part) (leads' : value.turn? turn' = some part')
    (named : Turn.IsNamed segment turn) (named' : Turn.IsNamed segment turn') : turn = turn' := by
  cases value <;> cases turn <;> cases turn' <;> try first | cases leads | cases leads'
  · have read := Pointer.index?_eq_some_iff.2 named
    rw [Pointer.index?_eq_some_iff.2 named', Option.some.injEq] at read
    rw [read]
  · exact congrArg Turn.member (named.symm.trans named')

theorem turns_eq_of_forall₂ {value part part' : Value} {segments : List String}
    {turns turns' : List Turn} (leads : value.at? turns = some part)
    (leads' : value.at? turns' = some part') (named : List.Forall₂ Turn.IsNamed segments turns)
    (named' : List.Forall₂ Turn.IsNamed segments turns') : turns = turns' := by
  induction named generalizing value turns' with
  | nil =>
    cases named'
    rfl
  | cons first others ih =>
    cases named' with
    | cons first' others' =>
      rw [at?, List.foldlM_cons] at leads leads'
      obtain ⟨next, turned, rest⟩ := Option.bind_eq_some_iff.1 leads
      obtain ⟨next', turned', rest'⟩ := Option.bind_eq_some_iff.1 leads'
      obtain rfl := turn_eq_of_isNamed turned turned' first first'
      obtain rfl := Option.some.inj (turned.symm.trans turned')
      rw [ih rest rest' others']

theorem isNamed_token {value part : Value} {turn : Turn} (indexable : value.IsIndexable)
    (leads : value.turn? turn = some part) : Turn.IsNamed turn.token turn := by
  cases value <;> cases turn <;> try cases leads
  · next items position =>
    have inside : position < items.length := (List.getElem?_eq_some_iff.1 leads).1
    have small : position < Nat.pow 2 64 := Nat.lt_of_lt_of_le inside (indexable [] items rfl)
    exact ⟨small, [], 0, .inl rfl, Nat.toList_repr⟩
  · rfl

theorem forall₂_token {value part : Value} {turns : List Turn} (indexable : value.IsIndexable)
    (leads : value.at? turns = some part) :
    List.Forall₂ Turn.IsNamed (turns.map Turn.token) turns := by
  induction turns generalizing value with
  | nil => exact .nil
  | cons turn turns ih =>
    rw [at?, List.foldlM_cons] at leads
    obtain ⟨next, turned, rest⟩ := Option.bind_eq_some_iff.1 leads
    exact .cons (isNamed_token indexable turned) (ih (indexable.part? (part?_token turned)) rest)

/-- Turns in a value are named by the pointer that is put together from them. -/
theorem names_ofTurns {value part : Value} {turns : List Turn} (indexable : value.IsIndexable)
    (leads : value.at? turns = some part) (plain : Pointer.IsPlain (Pointer.ofTurns turns)) :
    Pointer.Names (Pointer.ofTurns turns) turns := by
  rw [Pointer.names_iff plain]
  have read := Pointer.segments?_of_tokens? plain.2 (Pointer.tokens?_ofSegments _)
  rw [Pointer.segments?_of_isPlain plain, Option.some.injEq] at read
  rw [read]
  exact forall₂_token indexable leads

/-- A pointer leads where the standard says that it does. -/
theorem walk?_of_evaluate? {document part : Value} {base pointer : String}
    (indexable : document.IsIndexable) (plain : Pointer.IsPlain pointer)
    (leads : document.evaluate? pointer = some part) :
    (document.walk? base pointer).map Prod.fst = some part := by
  obtain ⟨turns, reached, rfl⟩ := evaluate?_eq_some_iff.1 leads
  exact (walk?_eq_some_iff plain).2 ⟨turns, reached, names_ofTurns indexable reached plain⟩

/-- Of the pointers that name turns in a document the standard reads only the one that is put
    together from them. -/
theorem evaluate?_of_names {document part : Value} {pointer : String} {turns : List Turn}
    (indexable : document.IsIndexable) (plain : Pointer.IsPlain pointer)
    (leads : document.at? turns = some part) (named : Pointer.Names pointer turns) :
    document.evaluate? pointer = if pointer = Pointer.ofTurns turns then some part else none := by
  split
  · next same => rw [same, evaluate?_ofTurns leads]
  · next other =>
    refine Option.eq_none_iff_forall_ne_some.2 fun part' leads' => ?_
    obtain ⟨turns', reached, rfl⟩ := evaluate?_eq_some_iff.1 leads'
    have named' := names_ofTurns indexable reached plain
    rw [Pointer.names_iff plain] at named named'
    rw [turns_eq_of_forall₂ leads reached named named'] at other
    exact other rfl

end Value

end JsonSchema
