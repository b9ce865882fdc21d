import Mathlib.Data.Option.Basic
import JsonSchema.Proofs.Store.Pointers

/-!
# Pointers into values

A part of a value is reached by turns to items and members. Its pointer names them one after the
other, with a slash before each. This module reads pointers as the standard of JSON pointers does:
without percent-decoding, with an escape behind every tilde and without leading zeros in the
positions of items.

* `Value.at?`: the part of a value that turns lead to.
* `Value.evaluate?`: the part of a value that a pointer names.
* `Value.evaluate?_ofTurns`: the pointer of some turns leads where they lead.
* `Value.eq_of_ofTurns_eq`: different turns in a value have different pointers.
* `Pointer.segments?_of_tokens?`, `Value.IsIndexable.foldlM_step?`: a pointer without percent signs
  means the same as the fragment of a reference.
-/

namespace JsonSchema

/-! ## Turns -/

/-- A turn from a value to a part of it. -/
inductive Turn where
  /-- To the item at a position. -/
  | item (position : Nat)
  /-- To the member with a name. -/
  | member (name : String)
deriving DecidableEq, Repr

/-- How a turn is named in a pointer. -/
def Turn.token : Turn → String
  | item position => toString position
  | member name => name

/-- The part of a value that a turn leads to. -/
def Value.turn? : Value → Turn → Option Value
  | .array items, .item position => items[position]?
  | .object members, .member name => Members.get? members name
  | _, _ => none

/-- The part of a value that turns lead to. -/
def Value.at? (value : Value) (turns : List Turn) : Option Value := turns.foldlM Value.turn? value

namespace Pointer

/-- The pointer that names turns. -/
def ofTurns (turns : List Turn) : String := ofSegments (turns.map Turn.token)

/-! ## Reading -/

/-- A token without its escapes. There is none if a tilde starts no escape. -/
def token? : List Char → Option (List Char)
  | [] => some []
  | '~' :: '0' :: rest => (token? rest).map ('~' :: ·)
  | '~' :: '1' :: rest => (token? rest).map ('/' :: ·)
  | c :: rest => if c = '~' then none else (token? rest).map (c :: ·)

/-- The tokens of a pointer, which is empty or starts with a slash. -/
def tokens? (pointer : String) : Option (List String) :=
  match pointer.toList with
  | [] => some []
  | c :: rest =>
    if c = '/' then
      (Text.splitOn '/' rest).mapM fun part => (token? part).map String.ofList
    else none

/-- The position that a token names: its decimal digits, without zeros in front. -/
def position? (token : String) : Option Nat :=
  let digits := token.toList
  if digits ≠ [] ∧ digits.all Char.isDigit ∧ (digits.head? = some '0' → digits = ['0']) then
    some (digits.foldl (fun n c => n * 10 + (c.toNat - '0'.toNat)) 0)
  else none

end Pointer

/-- The part of a value that a token names. -/
def Value.part? (value : Value) (token : String) : Option Value :=
  match value with
  | .object members => Members.get? members token
  | .array items => (Pointer.position? token).bind fun i => items[i]?
  | _ => none

/-- The part of a value that a pointer names. -/
def Value.evaluate? (value : Value) (pointer : String) : Option Value :=
  (Pointer.tokens? pointer).bind fun tokens => tokens.foldlM Value.part? value

namespace Pointer

/-! ## Escapes -/

theorem token?_escape (segment : List Char) : token? (escape segment) = some segment := by
  induction segment with
  | nil => rfl
  | cons c rest ih =>
    rw [escape_cons]
    split
    · next tilde =>
      rw [tilde]
      exact congrArg (Option.map ('~' :: ·)) ih
    · next plain =>
      split
      · next slash =>
        rw [slash]
        exact congrArg (Option.map ('/' :: ·)) ih
      · rw [List.singleton_append, token?, if_neg plain, ih]
        · rfl
        all_goals exact fun _ same => absurd same plain

/-- Where all escapes are in order it does not matter how they are read otherwise. -/
theorem unescape_of_token? {part token : List Char} (read : token? part = some token) :
    unescape part = token := by
  induction part using token?.induct generalizing token with
  | case1 =>
    cases read
    rfl
  | case2 rest ih | case3 rest ih =>
    rw [token?] at read
    obtain ⟨token', inner, rfl⟩ := Option.map_eq_some_iff.1 read
    rw [unescape, ih inner]
  | case4 rest zero one =>
    rw [token?, if_pos rfl] at read
    · cases read
    · exact fun rest' _ => zero rest' rfl
    · exact fun rest' _ => one rest' rfl
  | case5 c rest zero one plain ih =>
    rw [token?, if_neg plain] at read
    · obtain ⟨token', inner, rfl⟩ := Option.map_eq_some_iff.1 read
      rw [unescape, ih inner]
      all_goals exact fun _ same => absurd same plain
    all_goals exact fun _ same => absurd same plain

/-! ## Tokens -/

theorem mapM_token? {parts : List (List Char)} {tokens : List String}
    (read : (parts.mapM fun part => (token? part).map String.ofList) = some tokens) :
    parts.map (fun part => String.ofList (unescape part)) = tokens := by
  induction parts generalizing tokens with
  | nil =>
    cases read
    rfl
  | cons part parts ih =>
    rw [List.mapM_cons] at read
    obtain ⟨first, readFirst, read⟩ := Option.bind_eq_some_iff.1 read
    obtain ⟨others, readOthers, read⟩ := Option.bind_eq_some_iff.1 read
    obtain ⟨token, readToken, rfl⟩ := Option.map_eq_some_iff.1 readFirst
    cases read
    rw [List.map_cons, unescape_of_token? readToken, ih readOthers]

theorem mapM_escape (steps : List String) :
    ((steps.map fun step => escape step.toList).mapM fun part =>
      (token? part).map String.ofList) = some steps := by
  induction steps with
  | nil => rfl
  | cons step steps ih =>
    rw [List.map_cons, List.mapM_cons, ih, token?_escape, Option.map_some, String.ofList_toList]
    rfl

/-- The tokens of a pointer without percent signs are its segments. -/
theorem segments?_of_tokens? {pointer : String} {tokens : List String}
    (plain : '%' ∉ pointer.toList) (read : tokens? pointer = some tokens) :
    segments? pointer = some tokens := by
  rw [segments?, Percent.decode?_of_not_mem plain, Option.map_some]
  rw [tokens?] at read
  split at read
  · next empty =>
    rw [empty]
    exact read
  · next c rest first =>
    split at read
    · next slash =>
      rw [first, Text.splitOn, if_pos slash]
      exact congrArg some (mapM_token? read)
    · cases read

/-- A pointer that was put together from segments has these tokens. -/
theorem tokens?_ofSegments (steps : List String) : tokens? (ofSegments steps) = some steps := by
  have text : (ofSegments steps).toList = _ := toList_foldl_child steps ""
  have clean : ∀ part ∈ steps.map fun step => escape step.toList, '/' ∉ part := by
    intro part mem slash
    obtain ⟨step, -, rfl⟩ := List.mem_map.1 mem
    exact (mem_of_mem_escape slash).1 rfl
  have parts := Text.splitOn_flatMap clean
  rw [tokens?, text]
  cases steps with
  | nil => rfl
  | cons step steps =>
    show (if '/' = '/' then _ else _) = _
    rw [if_pos rfl, ← mapM_escape (step :: steps)]
    exact congrArg (List.mapM _) parts

theorem ofSegments_injective : Function.Injective ofSegments := by
  intro steps steps' same
  have read := tokens?_ofSegments steps
  rw [same, tokens?_ofSegments] at read
  exact (Option.some.inj read).symm

/-! ## Positions -/

/-- Only the number zero starts with a zero where it is written. -/
theorem toDigits_of_head? {n : Nat} (zero : (Nat.toDigits 10 n).head? = some '0') : n = 0 := by
  induction n using Nat.strongRecOn with
  | ind n ih =>
    rw [Nat.toDigits_eq_if (by decide)] at zero
    split at zero
    · next small =>
      have digit : ∀ d, d < 10 → Nat.digitChar d = '0' → d = 0 := by decide
      exact digit n small (Option.some.inj zero)
    · next large =>
      rw [List.head?_append, Option.or_of_isSome (List.isSome_head?.2 Nat.toDigits_ne_nil)] at zero
      have := ih (n / 10) (by omega) zero
      omega

theorem position?_toString (n : Nat) : position? (toString n) = some n := by
  have text : (toString n).toList = Nat.toDigits 10 n := Nat.toList_repr
  have digits : (Nat.toDigits 10 n).all Char.isDigit = true :=
    List.all_eq_true.2 fun c mem => Nat.isDigit_of_mem_toDigits (by decide) (by decide) mem
  have alone (zero : (Nat.toDigits 10 n).head? = some '0') : Nat.toDigits 10 n = ['0'] := by
    rw [toDigits_of_head? zero]
    rfl
  rw [position?, text, if_pos ⟨Nat.toDigits_ne_nil, digits, alone⟩, foldl_toDigits]

/-- A position that fits into a word is read in the same way behind a reference. -/
theorem index?_of_position? {token : String} {n : Nat} (read : position? token = some n)
    (small : n < Nat.pow 2 64) : index? token = some n := by
  rw [position?] at read
  split at read
  · next shape =>
    obtain ⟨written, digits, -⟩ := shape
    have unsigned : ∀ rest, token.toList ≠ '+' :: rest := by
      intro rest sign
      rw [sign] at digits
      cases digits
    cases read
    unfold index?
    split
    · next rest sign => exact absurd sign (unsigned rest)
    · exact (if_neg (by simp [written, digits])).trans (if_pos small)
  · cases read

end Pointer

namespace Value

/-! ## Parts -/

/-- Every item of an array in the value has an index that fits into a word. -/
def IsIndexable (value : Value) : Prop :=
  ∀ turns items, value.at? turns = some (.array items) → items.length ≤ Nat.pow 2 64

/-- A token means the same behind a reference, if all items have indices. -/
theorem step?_of_part? {value part : Value} {token : String}
    (leads : value.part? token = some part) (indexable : value.IsIndexable) :
    value.step? token = some part := by
  cases value with
  | object members => exact leads
  | array items =>
    obtain ⟨n, read, leads⟩ := Option.bind_eq_some_iff.1 leads
    have inside : n < items.length := (List.getElem?_eq_some_iff.1 leads).1
    have small : n < Nat.pow 2 64 := Nat.lt_of_lt_of_le inside (indexable [] items rfl)
    rw [step?, Pointer.index?_of_position? read small]
    exact leads
  | _ => cases leads

/-- A part that a token names is one that a turn leads to. -/
theorem turn?_of_part? {value part : Value} {token : String}
    (leads : value.part? token = some part) : ∃ turn, value.turn? turn = some part := by
  cases value with
  | object members => exact ⟨.member token, leads⟩
  | array items =>
    obtain ⟨n, -, leads⟩ := Option.bind_eq_some_iff.1 leads
    exact ⟨.item n, leads⟩
  | _ => cases leads

theorem IsIndexable.part? {value part : Value} {token : String} (indexable : value.IsIndexable)
    (leads : value.part? token = some part) : part.IsIndexable := by
  obtain ⟨turn, first⟩ := turn?_of_part? leads
  intro turns items rest
  refine indexable (turn :: turns) items ?_
  rw [at?, List.foldlM_cons, first]
  exact rest

theorem isIndexable_of_parts {value : Value}
    (own : ∀ items, value = .array items → items.length ≤ Nat.pow 2 64)
    (parts : ∀ turn part, value.turn? turn = some part → part.IsIndexable) : value.IsIndexable := by
  intro turns items leads
  cases turns with
  | nil => exact own items (Option.some.inj leads)
  | cons turn turns =>
    rw [at?, List.foldlM_cons] at leads
    obtain ⟨part, first, rest⟩ := Option.bind_eq_some_iff.1 leads
    exact parts turn part first turns items rest

theorem isIndexable_object {members : Members}
    (parts : ∀ member ∈ members, member.2.IsIndexable) : (object members).IsIndexable := by
  refine isIndexable_of_parts (fun items same => by cases same) fun turn part leads => ?_
  cases turn with
  | item => cases leads
  | member name => exact parts _ (Members.mem_of_get? leads)

theorem isIndexable_array {items : List Value} (short : items.length ≤ Nat.pow 2 64)
    (parts : ∀ item ∈ items, item.IsIndexable) : (array items).IsIndexable := by
  refine isIndexable_of_parts (fun items' same => by cases same; exact short) fun turn part leads => ?_
  cases turn with
  | item position => exact parts part (List.mem_of_getElem? leads)
  | member => cases leads

/-- Tokens lead behind a reference where they lead, if all items have indices. -/
theorem IsIndexable.foldlM_step? {value part : Value} {tokens : List String}
    (indexable : value.IsIndexable) (leads : tokens.foldlM Value.part? value = some part) :
    tokens.foldlM Value.step? value = some part := by
  induction tokens generalizing value with
  | nil => exact leads
  | cons token tokens ih =>
    rw [List.foldlM_cons] at leads ⊢
    obtain ⟨next, first, rest⟩ := Option.bind_eq_some_iff.1 leads
    rw [step?_of_part? first indexable]
    exact ih (indexable.part? first) rest

theorem part?_token {value part : Value} {turn : Turn} (leads : value.turn? turn = some part) :
    value.part? turn.token = some part := by
  cases value <;> cases turn <;> try cases leads
  · rw [part?, Turn.token, Pointer.position?_toString]
    exact leads
  · exact leads

/-- The pointer of some turns leads where they lead. -/
theorem evaluate?_ofTurns {value part : Value} {turns : List Turn}
    (leads : value.at? turns = some part) :
    value.evaluate? (Pointer.ofTurns turns) = some part := by
  rw [evaluate?, Pointer.ofTurns, Pointer.tokens?_ofSegments]
  show (turns.map Turn.token).foldlM part? value = some part
  induction turns generalizing value with
  | nil => exact leads
  | cons turn turns ih =>
    rw [at?, List.foldlM_cons] at leads
    obtain ⟨next, first, rest⟩ := Option.bind_eq_some_iff.1 leads
    rw [List.map_cons, List.foldlM_cons, part?_token first]
    exact ih rest

/-- Turns from one value that are named alike are the same. -/
theorem turn_eq_of_token_eq {value part part' : Value} {turn turn' : Turn}
    (leads : value.turn? turn = some part) (leads' : value.turn? turn' = some part')
    (same : turn.token = turn'.token) : turn = turn' := by
  cases value <;> cases turn <;> cases turn' <;> try first | cases leads | cases leads'
  · next items position position' =>
    have read := Pointer.position?_toString position
    rw [show toString position = toString position' from same, Pointer.position?_toString] at read
    rw [Option.some.inj read]
  · exact congrArg Turn.member same

/-- Different turns in a value have different pointers. -/
theorem eq_of_ofTurns_eq {value part part' : Value} {turns turns' : List Turn}
    (leads : value.at? turns = some part) (leads' : value.at? turns' = some part')
    (same : Pointer.ofTurns turns = Pointer.ofTurns turns') : turns = turns' := by
  have tokens := Pointer.ofSegments_injective same
  clear same
  induction turns generalizing value turns' with
  | nil => exact (List.map_eq_nil_iff.1 tokens.symm).symm
  | cons turn turns ih =>
    cases turns' with
    | nil => cases tokens
    | cons turn' turns' =>
      obtain ⟨token, others⟩ := List.cons.inj tokens
      obtain ⟨next, first, rest⟩ := Option.bind_eq_some_iff.1 leads
      obtain ⟨next', first', rest'⟩ := Option.bind_eq_some_iff.1 leads'
      obtain rfl := turn_eq_of_token_eq first first' token
      obtain rfl := Option.some.inj (first.symm.trans first')
      rw [ih rest rest' others]

end Value

end JsonSchema
