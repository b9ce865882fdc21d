import JsonSchema.Regex.Pattern
import JsonSchema.Unicode.CaseFolding
import JsonSchema.Unicode.Property
import JsonSchema.Unicode.Script

/-!
# Pattern syntax

The text form of patterns: literals, classes with nested sets and set operations,
groups, flags, assertions and counted repetition. There are no references to groups
and no assertions about what lies ahead or behind.

* `PatternError`: why a text is no pattern.
* `Pattern.parse`: the pattern of a text.
-/

namespace JsonSchema

/-- Why a text is no pattern. -/
inductive PatternError where
  | malformed
  | tooLarge
deriving DecidableEq, Repr

namespace Regex

/-- The memory that the automaton of a pattern may take. -/
def sizeLimit : Nat := 10 * Nat.pow 2 20

/-- How deep groups, repetitions and classes may nest. -/
def nestLimit : Nat := 250

/-- The settings that a pattern can change from within. -/
structure Flags where
  ignoreCase : Bool := false
  multiLine : Bool := false
  dotAll : Bool := false
  carriageReturns : Bool := false
  unicode : Bool := true
  extended : Bool := false

/-- A part of a pattern with the depth and the size of its automaton. -/
structure Piece where
  pattern : Pattern
  depth : Nat := 0
  size : Nat := 0
  /-- A flag setting, which cannot be repeated. -/
  isSetting : Bool := false

/-- The state of reading: what is left, the settings in force and the group names used. -/
structure Scan where
  rest : List Char
  flags : Flags := {}
  names : List (List Char) := []

/-- A reading step, which fails on malformed text. -/
abbrev Parse := StateT Scan Option

/-! ## Reading characters -/

/-- The next character. -/
def peek? : Parse (Option Char) := do return (← get).rest.head?

/-- Fails at the end of the text. -/
def peek : Parse Char := do
  match (← get).rest with
  | c :: _ => return c
  | [] => failure

/-- Replaces what is left. -/
def setRest (rest : List Char) : Parse Unit := modify fun s => { s with rest := rest }

/-- The text behind a comment. -/
def dropComment (cs : List Char) : List Char :=
  match cs.dropWhile (· ≠ '\n') with
  | _ :: rest => rest
  | [] => []

/-- The text without leading blanks and comments. `fuel` bounds their number. -/
def dropBlanks (fuel : Nat) (cs : List Char) : List Char :=
  match fuel, cs with
  | fuel + 1, c :: rest =>
    if Unicode.space.contains c then dropBlanks fuel rest
    else if c = '#' then dropBlanks fuel (dropComment rest)
    else c :: rest
  | _, cs => cs

/-- What is left without the blanks and comments that the settings say to ignore. -/
def visible (s : Scan) : List Char :=
  if s.flags.extended then dropBlanks s.rest.length s.rest else s.rest

/-- Skips blanks and comments where they are ignored. -/
def skip : Parse Unit := modify fun s => { s with rest := visible s }

/-- Takes the next character. -/
def take : Parse Char := do
  let c ← peek
  setRest ((← get).rest.drop 1)
  return c

/-- Takes the next character and the ignored blanks behind it. -/
def takeSkip : Parse Char := do
  let c ← take
  skip
  return c

/-- Takes the given text if it comes next. -/
def takeIf (expected : List Char) : Parse Bool := do
  let s ← get
  if expected.isPrefixOf s.rest then
    setRest (s.rest.drop expected.length)
    return true
  else return false

/-- Fails unless the condition holds. -/
def require (condition : Bool) : Parse Unit := if condition then pure () else failure

/-! ## Numbers and escapes -/

/-- The characters of a pattern that mean something else than themselves. -/
def isMeta (c : Char) : Bool := "\\.+*?()|[]\x7b\x7d^$#&-~".toList.contains c

/-- The characters that a backslash turns into themselves. -/
def isEscapable (c : Char) : Bool :=
  isMeta c || (c.toNat < 0x80 && !c.isAlphanum && c ≠ '<' && c ≠ '>')

/-- The value of a hexadecimal digit of either case. -/
def hexValue? (c : Char) : Option Nat :=
  if '0' ≤ c ∧ c ≤ '9' then some (c.toNat - '0'.toNat)
  else if 'a' ≤ c ∧ c ≤ 'f' then some (c.toNat - 'a'.toNat + 10)
  else if 'A' ≤ c ∧ c ≤ 'F' then some (c.toNat - 'A'.toNat + 10)
  else none

/-- The character of a code point, if it has one. -/
def charOf? (n : Nat) : Option Char :=
  if n < 0xD800 ∨ (0xDFFF < n ∧ n < 0x110000) then some (Char.ofNat n) else none

/-- The number of hexadecimal digits. -/
def hexNumber (digits : List Char) : Parse Nat :=
  digits.foldlM (fun n c => do
    match hexValue? c with
    | some d => return n * 16 + d
    | none => failure) 0

/-- Exactly `n` hexadecimal digits. -/
def hexDigits (n : Nat) : Parse (List Char) :=
  match n with
  | 0 => return []
  | n + 1 => do
    let c ← takeSkip
    require (hexValue? c).isSome
    return c :: (← hexDigits n)

/-- The characters up to a closing brace, without it. `fuel` bounds their number. -/
def upToBrace (fuel : Nat) : Parse (List Char) :=
  match fuel with
  | 0 => failure
  | fuel + 1 => do
    let c ← takeSkip
    if c = '\x7d' then return [] else return c :: (← upToBrace fuel)

/-- A code point of `n` hexadecimal digits, or of any number of them in braces. -/
def hexEscape (n : Nat) : Parse (Char × Bool) := do
  let c ← peek
  if c = '\x7b' then
    let _ ← takeSkip
    let digits ← upToBrace ((← get).rest.length + 1)
    require !digits.isEmpty
    match charOf? (← hexNumber digits) with
    | some c => return (c, false)
    | none => failure
  else
    let value ← hexNumber (← hexDigits n)
    match charOf? value with
    | some c => return (c, n = 2 && 0x80 ≤ value)
    | none => failure

/-- The digits of a count, with blanks around them. `fuel` bounds the length. -/
def countDigits (fuel : Nat) : Parse (List Char) :=
  match fuel with
  | 0 => return []
  | fuel + 1 => do
    match ← peek? with
    | some c =>
      if '0' ≤ c ∧ c ≤ '9' then
        let _ ← takeSkip
        return c :: (← countDigits fuel)
      else return []
    | none => return []

/-- Skips blanks, whether or not they are ignored elsewhere. -/
def skipSpace : Parse Unit := modify fun s => { s with rest := s.rest.dropWhile Unicode.space.contains }

/-- A count of at most 32 bits. -/
def count : Parse Nat := do
  skipSpace
  let digits ← countDigits ((← get).rest.length + 1)
  skipSpace
  require !digits.isEmpty
  let n := digits.foldl (fun n c => n * 10 + (c.toNat - '0'.toNat)) 0
  require (n < Nat.pow 2 32)
  return n

/-! ## Classes -/

/-- A set as the settings make it: letters of either case, then the complement. -/
def adjusted (flags : Flags) (negated : Bool) (s : CharSet) : CharSet :=
  let folded :=
    if !flags.ignoreCase then s
    else if flags.unicode then s.foldCase
    else s.foldCase.inter ⟨[(0, 0x7F)]⟩
  if negated then folded.complement else folded

/-- A property name without case, blanks, hyphens, underscores and a leading `is`. -/
def plainName (name : List Char) : String :=
  let letters := (name.filter fun c => c ≠ ' ' ∧ c ≠ '_' ∧ c ≠ '-' ∧ c.toNat < 0x80).map Char.toLower
  match letters with
  | 'i' :: 's' :: rest@(_ :: _) => if rest = ['c'] then "isc" else String.ofList rest
  | _ => String.ofList letters

/-- The set of a general category, or of the names that stand beside the categories. -/
def categorySet? (name : String) : Option CharSet :=
  match name with
  | "any" => some CharSet.all
  | "ascii" => some ⟨[(0, 0x7F)]⟩
  | "assigned" => some (Unicode.categoryUnion ["cn"]).complement
  | _ => Unicode.category? name

/-- The set that a property name stands for: a property, a category or a script. -/
def namedSet? (name : List Char) : Option CharSet :=
  let name := plainName name
  let asProperty := if name = "cf" ∨ name = "sc" ∨ name = "lc" then none else Unicode.property? name
  asProperty <|> categorySet? name <|> Unicode.script? name

/-- The set of a property and a value for it. -/
def valueSet? (property value : List Char) : Option CharSet :=
  let value := plainName value
  match plainName property with
  | "gc" | "generalcategory" => categorySet? value
  | "sc" | "script" | "scx" | "scriptextensions" => Unicode.script? value
  | _ => none

/-- Splits at the first occurrence of a character. -/
def splitAt? (c : Char) (cs : List Char) : Option (List Char × List Char) :=
  if cs.contains c then some (cs.takeWhile (· ≠ c), (cs.dropWhile (· ≠ c)).drop 1) else none

/-- Splits at the first occurrence of `!=`. -/
def splitUnequal? : List Char → Option (List Char × List Char)
  | '!' :: '=' :: rest => some ([], rest)
  | c :: rest => (splitUnequal? rest).map fun (a, b) => (c :: a, b)
  | [] => none

/-- A property class behind its letter, which says whether it is negated. -/
def propertyClass (negated : Bool) : Parse CharSet := do
  let flags := (← get).flags
  require flags.unicode
  skip
  let c ← takeSkip
  let (unequal, set?) ←
    if c = '\x7b' then
      let name ← upToBrace ((← get).rest.length + 1)
      match splitUnequal? name with
      | some (property, value) => pure (true, valueSet? property value)
      | none =>
        match splitAt? ':' name <|> splitAt? '=' name with
        | some (property, value) => pure (false, valueSet? property value)
        | none => pure (false, namedSet? name)
    else do
      require (c ≠ '\\')
      pure (false, namedSet? [c])
  match set? with
  | some set => return adjusted flags (negated != unequal) set
  | none => failure

/-- The ASCII part of white space. -/
def asciiSpace : CharSet := ⟨[(9, 13), (32, 32)]⟩

/-- The ASCII characters of words. -/
def asciiWord : CharSet := ⟨[(48, 57), (65, 90), (95, 95), (97, 122)]⟩

/-- The class of a letter behind a backslash. Without the property tables a negated
    class would hold more than characters. -/
def letterClass (c : Char) : Parse CharSet := do
  let unicode := (← get).flags.unicode
  let set (wide ascii : CharSet) := if unicode then wide else ascii
  let positive ← match c.toLower with
    | 'd' => pure (set Unicode.digit ⟨[(48, 57)]⟩)
    | 's' => pure (set Unicode.space asciiSpace)
    | 'w' => pure (set Unicode.word asciiWord)
    | _ => failure
  if c.isUpper then
    require unicode
    return positive.complement
  else return positive

/-- The sets that a class names between colons. -/
def asciiClasses : List (String × CharSet) :=
  [("alnum", ⟨[(48, 57), (65, 90), (97, 122)]⟩), ("alpha", ⟨[(65, 90), (97, 122)]⟩),
   ("ascii", ⟨[(0, 127)]⟩), ("blank", ⟨[(9, 9), (32, 32)]⟩), ("cntrl", ⟨[(0, 31), (127, 127)]⟩),
   ("digit", ⟨[(48, 57)]⟩), ("graph", ⟨[(33, 126)]⟩), ("lower", ⟨[(97, 122)]⟩),
   ("print", ⟨[(32, 126)]⟩), ("punct", ⟨[(33, 47), (58, 64), (91, 96), (123, 126)]⟩),
   ("space", asciiSpace), ("upper", ⟨[(65, 90)]⟩), ("word", asciiWord),
   ("xdigit", ⟨[(48, 57), (65, 70), (97, 102)]⟩)]

/-- A class between colons, if one comes next. -/
def asciiClass? : Parse (Option CharSet) := do
  let s ← get
  match s.rest with
  | '[' :: ':' :: rest =>
    let (negated, rest) := match rest with
      | '^' :: rest => (true, rest)
      | _ => (false, rest)
    let name := rest.takeWhile (· ≠ ':')
    match rest.dropWhile (· ≠ ':'), asciiClasses.lookup (String.ofList name) with
    | ':' :: ']' :: behind, some set =>
      setRest behind
      return some (adjusted s.flags negated set)
    | _, _ => return none
  | _ => return none

/-- What a class holds between its operators. -/
inductive Item where
  | literal (c : Char)
  | set (s : CharSet)

/-- A literal or an escape inside a class. -/
def classItem : Parse Item := do
  let c ← take
  if c ≠ '\\' then
    skip
    require ((← get).flags.unicode || c.toNat < 0x80)
    return .literal c
  let e ← peek
  let literal (c : Char) : Parse Item := do
    let _ ← takeSkip
    return .literal c
  match e with
  | 'x' | 'u' | 'U' =>
    let _ ← takeSkip
    let (c, isByte) ← hexEscape (if e = 'x' then 2 else if e = 'u' then 4 else 8)
    require ((← get).flags.unicode || (!isByte && c.toNat < 0x80))
    return .literal c
  | 'p' | 'P' =>
    let _ ← take
    return .set (← propertyClass (e = 'P'))
  | 'd' | 's' | 'w' | 'D' | 'S' | 'W' =>
    let _ ← takeSkip
    return .set (← letterClass e)
  | 'a' => literal '\x07'
  | 'f' => literal '\x0c'
  | 't' => literal '\t'
  | 'n' => literal '\n'
  | 'r' => literal '\r'
  | 'v' => literal '\x0b'
  | _ =>
    require (isEscapable e)
    literal e

/-- A single item or a range of literals. -/
def classRange : Parse CharSet := do
  let first ← classItem
  skip
  let s ← get
  let single : CharSet := match first with
    | .literal c => CharSet.single c
    | .set set => set
  match s.rest with
  | [] => failure
  | '-' :: behind =>
    let next := (visible { s with rest := behind }).head?
    if next = some ']' ∨ next = some '-' then return single
    let _ ← takeSkip
    match first, ← classItem with
    | .literal a, .literal b =>
      require (a ≤ b)
      return CharSet.range a b
    | _, _ => failure
  | _ => return single

/-- The operators between sets. -/
inductive SetOperator where
  | inter
  | difference
  | symmetricDifference

/-- The set of an operator and its two sides. -/
def SetOperator.apply (flags : Flags) (op : SetOperator) (a b : CharSet) : CharSet :=
  let a := adjusted flags false a
  let b := adjusted flags false b
  match op with
  | inter => a.inter b
  | difference => a.difference b
  | symmetricDifference => a.symmetricDifference b

/-- The left side of an operator joined with the items behind it. -/
def settle (flags : Flags) (left : Option (CharSet × SetOperator)) (items : CharSet) : CharSet :=
  match left with
  | some (set, op) => op.apply flags set items
  | none => items

/-- Whether a class starts with a circumflex, which is taken. -/
def takeNegation : Parse Bool := do
  if (← peek) = '^' then
    let _ ← takeSkip
    return true
  else return false

/-- The hyphens at the start of a class, or the bracket in place of them. `fuel` bounds
    their number. -/
def leadingLiterals (fuel : Nat) (any : Bool) : Parse CharSet :=
  match fuel with
  | 0 => return CharSet.empty
  | fuel + 1 => do
    match ← peek with
    | '-' =>
      let _ ← takeSkip
      return (CharSet.single '-').union (← leadingLiterals fuel true)
    | ']' =>
      if any then return CharSet.empty
      let _ ← takeSkip
      return CharSet.single ']'
    | _ => return CharSet.empty

mutual

/-- A class in brackets, with the depth of its nesting. -/
def bracketed (fuel : Nat) : Parse (CharSet × Nat) :=
  match fuel with
  | 0 => failure
  | fuel + 1 => do
    let _ ← takeSkip
    let negated ← takeNegation
    let start ← leadingLiterals ((← get).rest.length + 1) false
    let _ ← peek
    let (set, depth) ← classBody fuel none start 0
    let flags := (← get).flags
    require (flags.unicode || !negated)
    return (adjusted flags negated set, depth + 1)

/-- The rest of a class: `left` stands before the last operator, `items` behind it. -/
def classBody (fuel : Nat) (left : Option (CharSet × SetOperator)) (items : CharSet)
    (depth : Nat) : Parse (CharSet × Nat) :=
  match fuel with
  | 0 => failure
  | fuel + 1 => do
    skip
    let s ← get
    let operator (op : SetOperator) : Parse (CharSet × Nat) := do
      setRest (s.rest.drop 2)
      classBody fuel (some (settle s.flags left items, op)) CharSet.empty (depth + 1)
    match s.rest with
    | [] => failure
    | '[' :: _ =>
      match ← asciiClass? with
      | some set => classBody fuel left (items.union set) depth
      | none =>
        let (set, inner) ← bracketed fuel
        classBody fuel left (items.union set) (max depth (inner + 1))
    | ']' :: _ =>
      let _ ← take
      return (settle s.flags left items, depth)
    | '&' :: '&' :: _ => operator .inter
    | '-' :: '-' :: _ => operator .difference
    | '~' :: '~' :: _ => operator .symmetricDifference
    | _ =>
      let set ← classRange
      classBody fuel left (items.union set) depth

end

/-! ## Pieces -/

/-- The memory one state of the automaton takes. -/
def stateSize : Nat := 32

/-- A piece for one character of a set. -/
def onePiece (set : CharSet) (depth : Nat) : Piece where
  pattern := .one set
  depth := depth
  size := if set.isAscii then stateSize + 8 * (set.ranges.length - 1) else stateSize * set.ranges.length

/-- A piece for a literal. -/
def literalPiece (c : Char) : Parse Piece := do
  let flags := (← get).flags
  let set := if flags.unicode || c.toNat < 0x80 then adjusted flags false (CharSet.single c)
    else CharSet.single c
  return { onePiece set 0 with size := stateSize * c.utf8Size }

/-- A piece for an assertion. -/
def lookPiece (a : Anchor) : Parse Piece := do
  let words := if (← get).flags.unicode then Unicode.word else asciiWord
  return { pattern := .look a words, size := stateSize }

/-- The assertion of `\b`, possibly with a part of a word in braces behind it. -/
def boundary : Parse Anchor := do
  let s ← get
  let isName (c : Char) : Bool := c.isAlpha || c == '-'
  match s.rest with
  | '\x7b' :: rest =>
    let rest := visible { s with rest := rest }
    match rest with
    | [] => failure
    | c :: _ =>
      if !isName c then return .wordBoundary
      setRest rest
      let name ← upToBrace (rest.length + 1)
      match String.ofList name with
      | "start" => return .wordStart
      | "end" => return .wordEnd
      | "start-half" => return .wordStartHalf
      | "end-half" => return .wordEndHalf
      | _ => failure
  | _ => return .wordBoundary

/-- What stands behind a backslash outside of classes. -/
def escape : Parse Piece := do
  let c ← peek
  match c with
  | 'x' | 'u' | 'U' =>
    let _ ← takeSkip
    let (c, isByte) ← hexEscape (if c = 'x' then 2 else if c = 'u' then 4 else 8)
    require ((← get).flags.unicode || !isByte)
    literalPiece c
  | 'p' | 'P' =>
    let _ ← take
    return onePiece (← propertyClass (c = 'P')) 0
  | 'd' | 's' | 'w' | 'D' | 'S' | 'W' =>
    let _ ← take
    return onePiece (← letterClass c) 0
  | _ =>
    let _ ← take
    match c with
    | 'a' => literalPiece '\x07'
    | 'f' => literalPiece '\x0c'
    | 't' => literalPiece '\t'
    | 'n' => literalPiece '\n'
    | 'r' => literalPiece '\r'
    | 'v' => literalPiece '\x0b'
    | 'A' => lookPiece .textStart
    | 'z' => lookPiece .textEnd
    | 'b' => lookPiece (← boundary)
    | 'B' => lookPiece .notWordBoundary
    | '<' => lookPiece .wordStart
    | '>' => lookPiece .wordEnd
    | _ =>
      require (isEscapable c)
      literalPiece c

/-- Any character, except the ends of lines unless the settings include them. -/
def anyPiece : Parse Piece := do
  let flags := (← get).flags
  require flags.unicode
  let ends := CharSet.ofRanges (if flags.carriageReturns then [(10, 10), (13, 13)] else [(10, 10)])
  return onePiece (if flags.dotAll then CharSet.all else ends.complement) 0

/-- A literal, an escape, a class or an assertion of a single character. -/
def primitive : Parse Piece := do
  let c ← take
  let flags := (← get).flags
  match c with
  | '\\' => escape
  | '.' => anyPiece
  | '^' => lookPiece (if flags.multiLine then .lineStart flags.carriageReturns else .textStart)
  | '$' => lookPiece (if flags.multiLine then .lineEnd flags.carriageReturns else .textEnd)
  | c => literalPiece c

/-- A piece repeated. -/
def repeated (least : Nat) (most : Option Nat) (p : Piece) : Piece where
  pattern := .repeat least most p.pattern
  depth := p.depth + 1
  size := match most with
    | some most => most * p.size + (most - least) * (stateSize + 8)
    | none => (max least 1) * p.size + stateSize + 8

/-- The mark behind a repetition that makes it reluctant. -/
def takeReluctance : Parse Unit := do
  let _ ← takeIf ['?']

/-- Repetition with counts in braces, applied to a piece. -/
def counted (p : Piece) : Parse Piece := do
  let _ ← takeSkip
  let least ← count
  let most ← do
    if (← peek) = ',' then
      let _ ← takeSkip
      if (← peek) = '\x7d' then pure none else some <$> count
    else pure (some least)
  require ((← peek) = '\x7d')
  let _ ← takeSkip
  takeReluctance
  require (most.all (least ≤ ·))
  return repeated least most p

/-- The pieces of a sequence, latest first, joined into one. -/
def sequence (pieces : List Piece) : Piece :=
  match pieces with
  | [] => { pattern := .empty, size := stateSize }
  | [p] => p
  | _ =>
    { pattern := (pieces.map (·.pattern)).foldl (fun acc p => .seq p acc) .empty
      depth := (pieces.map (·.depth)).foldl max 0 + 1
      size := (pieces.map (·.size)).foldl (· + ·) 0 }

/-- The branches of a choice, latest first, joined into one. -/
def choose (branches : List Piece) : Piece :=
  match branches with
  | [] => { pattern := .empty, size := stateSize }
  | [p] => p
  | p :: rest =>
    { pattern := (rest.map (·.pattern)).foldl (fun acc q => .choice q acc) p.pattern
      depth := (branches.map (·.depth)).foldl max 0 + 1
      size := (branches.map (·.size)).foldl (· + ·) 0 + stateSize + 4 * branches.length }

/-! ## Groups -/

/-- The letter of a setting. -/
def flagLetter (c : Char) : Bool := "imsURux".toList.contains c

/-- The settings changed by one letter. -/
def Flags.set (flags : Flags) (c : Char) (value : Bool) : Flags :=
  match c with
  | 'i' => { flags with ignoreCase := value }
  | 'm' => { flags with multiLine := value }
  | 's' => { flags with dotAll := value }
  | 'R' => { flags with carriageReturns := value }
  | 'u' => { flags with unicode := value }
  | 'x' => { flags with extended := value }
  | _ => flags

/-- Letters up to a colon or a closing parenthesis; those behind a hyphen are turned
    off. `seen` holds the letters and the hyphen read so far. `fuel` bounds the length. -/
def settings (fuel : Nat) (seen : List Char) (flags : Flags) : Parse (List Char × Flags) :=
  match fuel with
  | 0 => failure
  | fuel + 1 => do
    let c ← peek
    if c = ':' ∨ c = ')' then
      require (seen.head? ≠ some '-')
      return (seen, flags)
    require ((c = '-' || flagLetter c) && !seen.contains c)
    let _ ← take
    settings fuel (c :: seen) (if c = '-' then flags else flags.set c (!seen.contains '-'))

/-- Whether a character can stand in the name of a group. -/
def isNameChar (first : Bool) (c : Char) : Bool :=
  c == '_' || (Unicode.propertySet "alphabetic").contains c ||
    (!first && (c == '.' || c == '[' || c == ']' ||
      (Unicode.categoryUnion ["nd", "nl", "no"]).contains c))

/-- The name of a group, which no other group may have. -/
def groupName : Parse Unit := do
  let s ← get
  let name := s.rest.takeWhile (· ≠ '>')
  match s.rest.dropWhile (· ≠ '>'), name with
  | _ :: behind, first :: others =>
    require (isNameChar true first && others.all (isNameChar false) && !s.names.contains name)
    set { s with rest := behind, names := name :: s.names }
  | _, _ => failure

/-- The texts that start an assertion about what lies ahead or behind. -/
def startsLookaround (cs : List Char) : Bool :=
  [['?', '='], ['?', '!'], ['?', '<', '='], ['?', '<', '!']].any (·.isPrefixOf cs)

/-- What the start of a group says. -/
inductive Opening where
  | setting (flags : Flags)
  | group (flags : Flags) (captures : Bool)

/-- The start of a group, behind its parenthesis. -/
def opening : Parse Opening := do
  skip
  let s ← get
  require !(startsLookaround s.rest)
  let named ← if ← takeIf ['?', 'P', '<'] then pure true else takeIf ['?', '<']
  if named then
    groupName
    return .group s.flags true
  else if ← takeIf ['?'] then
    let (seen, flags) ← settings (s.rest.length + 1) [] s.flags
    if (← take) = ')' then
      require !seen.isEmpty
      return .setting flags
    else return .group flags false
  else return .group s.flags true

mutual

/-- The branches of a choice up to a closing parenthesis or the end. `pieces` are those
    of the current branch and `branches` the finished ones, latest first. -/
def branches (fuel : Nat) (done pieces : List Piece) : Parse Piece :=
  match fuel with
  | 0 => failure
  | fuel + 1 => do
    skip
    match ← peek? with
    | none | some ')' => return choose (sequence pieces :: done)
    | some '|' =>
      let _ ← take
      branches fuel (sequence pieces :: done) []
    | some '(' =>
      let _ ← take
      let piece ← group fuel
      branches fuel done (piece :: pieces)
    | some '[' =>
      let (set, depth) ← bracketed ((← get).rest.length + 1)
      branches fuel done (onePiece set depth :: pieces)
    | some c =>
      if c = '?' ∨ c = '*' ∨ c = '+' ∨ c = '\x7b' then
        match pieces with
        | p :: rest =>
          require !p.isSetting
          let p ←
            if c = '\x7b' then counted p
            else
              let _ ← take
              takeReluctance
              pure (repeated (if c = '+' then 1 else 0) (if c = '?' then some 1 else none) p)
          branches fuel done (p :: rest)
        | [] => failure
      else
        let p ← primitive
        branches fuel done (p :: pieces)

/-- A group behind its parenthesis, or a change of settings for the rest of the group
    around it. -/
def group (fuel : Nat) : Parse Piece :=
  match fuel with
  | 0 => failure
  | fuel + 1 => do
    let outer := (← get).flags
    match ← opening with
    | .setting flags =>
      modify fun s => { s with flags := flags }
      return { pattern := .empty, isSetting := true }
    | .group flags captures =>
      modify fun s => { s with flags := flags }
      let p ← branches fuel [] []
      require ((← take) = ')')
      modify fun s => { s with flags := outer }
      return { p with
        depth := p.depth + 1
        size := p.size + (if captures then 2 * stateSize else 0)
        isSetting := false }

end

end Regex

/-- The pattern of a text. Every step takes a character, so the length of the text
    bounds the steps. -/
def Pattern.parse (text : String) : Except PatternError Pattern :=
  let cs := text.toList
  match (Regex.branches (2 * cs.length + 2) [] []).run { rest := cs } with
  | some (piece, state) =>
    if !state.rest.isEmpty || Regex.nestLimit < piece.depth then .error .malformed
    else if Regex.sizeLimit < piece.size then .error .tooLarge
    else .ok piece.pattern
  | none => .error .malformed

end JsonSchema
