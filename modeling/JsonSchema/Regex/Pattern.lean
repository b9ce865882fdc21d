import JsonSchema.Unicode.CharSet

/-!
# Patterns

A pattern is built from character sets and assertions by sequence, choice and
counted repetition. Only whether a pattern occurs in a text is of interest, so there
is no difference between greedy and reluctant repetition and groups leave no trace.

* `Pattern`: the pattern.
* `Pattern.ends`: the positions where an occurrence that starts at one of the given
  positions can end.
* `Pattern.occursIn`: whether the pattern occurs in a text.
-/

namespace JsonSchema

/-- What an anchor demands of a position. -/
inductive Anchor where
  | textStart
  | textEnd
  | lineStart (carriageReturns : Bool)
  | lineEnd (carriageReturns : Bool)
  | wordBoundary
  | notWordBoundary
  | wordStart
  | wordEnd
  | wordStartHalf
  | wordEndHalf
deriving DecidableEq, Repr

/-- A pattern. -/
inductive Pattern where
  | empty
  | one (set : CharSet)
  | look (anchor : Anchor) (words : CharSet)
  | seq (first second : Pattern)
  | choice (first second : Pattern)
  | «repeat» (least : Nat) (most : Option Nat) (body : Pattern)

namespace Anchor

/-- Whether the position before index `i` of the text satisfies the anchor, where
    `words` are the characters that words consist of. -/
def holds (words : CharSet) (text : Array Char) (a : Anchor) (i : Nat) : Bool :=
  let before : Option Char := if i = 0 then none else text[i - 1]?
  let after : Option Char := text[i]?
  let wordBefore := before.any words.contains
  let wordAfter := after.any words.contains
  match a with
  | .textStart => before.isNone
  | .textEnd => after.isNone
  | .lineStart false => before.isNone || before == some '\n'
  | .lineEnd false => after.isNone || after == some '\n'
  | .lineStart true =>
    before.isNone || before == some '\n' || (before == some '\r' && after != some '\n')
  | .lineEnd true =>
    after.isNone || after == some '\r' || (after == some '\n' && before != some '\r')
  | .wordBoundary => wordBefore != wordAfter
  | .notWordBoundary => wordBefore == wordAfter
  | .wordStart => !wordBefore && wordAfter
  | .wordEnd => wordBefore && !wordAfter
  | .wordStartHalf => !wordBefore
  | .wordEndHalf => !wordAfter

end Anchor

namespace Pattern

/-- The union of two ascending lists of positions. -/
def mergePositions : List Nat → List Nat → List Nat
  | [], bs => bs
  | as, [] => as
  | a :: as, b :: bs =>
    if a < b then a :: mergePositions as (b :: bs)
    else if b < a then b :: mergePositions (a :: as) bs
    else a :: mergePositions as bs
termination_by as bs => as.length + bs.length

/-- The positions of the first ascending list that are not in the second. -/
def withoutPositions : List Nat → List Nat → List Nat
  | [], _ => []
  | as, [] => as
  | a :: as, b :: bs =>
    if a < b then a :: withoutPositions as (b :: bs)
    else if b < a then withoutPositions (a :: as) bs
    else withoutPositions as bs
termination_by as bs => as.length + bs.length

/-- The positions after exactly `n` steps. -/
def iterate (step : List Nat → List Nat) (n : Nat) (positions : List Nat) : List Nat :=
  match n, positions with
  | _, [] => []
  | 0, _ => positions
  | n + 1, _ => iterate step n (step positions)

/-- The positions after at most `n` steps: `seen` were reached before, and only those of
    `frontier` for the first time by the last step. -/
def closure (step : List Nat → List Nat) (n : Nat) (seen frontier : List Nat) : List Nat :=
  match n, frontier with
  | _, [] => seen
  | 0, _ => seen
  | n + 1, _ =>
    let fresh := withoutPositions (step frontier) seen
    closure step n (mergePositions seen fresh) fresh

/-- The positions where an occurrence that starts at one of `starts` can end. -/
def ends (text : Array Char) (p : Pattern) (starts : List Nat) : List Nat :=
  match p with
  | empty => starts
  | one set => starts.filterMap fun i => if text[i]?.any set.contains then some (i + 1) else none
  | look assertion words => starts.filter (assertion.holds words text)
  | seq first second => ends text second (ends text first starts)
  | choice first second => mergePositions (ends text first starts) (ends text second starts)
  | .repeat least most body =>
    let reached := iterate (ends text body) least starts
    -- beyond the length of the text no new position can be reached
    let more := match most with
      | some most => min (most - least) (text.size + 1)
      | none => text.size + 1
    closure (ends text body) more reached reached

/-- Whether the pattern occurs anywhere in the text. -/
def occursIn (p : Pattern) (text : String) : Bool :=
  let cs := text.toList.toArray
  !(p.ends cs (List.range (cs.size + 1))).isEmpty

end Pattern

end JsonSchema
