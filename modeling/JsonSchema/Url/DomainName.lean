import JsonSchema.Text.Split
import JsonSchema.Unicode.Category
import JsonSchema.Unicode.Composition
import JsonSchema.Unicode.Direction
import JsonSchema.Unicode.DomainForm
import JsonSchema.Url.Punycode

/-!
# Domain names

A domain name may hold characters beyond ASCII. It is then stored in ASCII, label by
label, and names that look the same have one form.

* `DomainName.toAscii?`: the stored form of a name; none if a label is not well formed.
* `DomainName.isLabel`: the labels that are well formed.
-/

namespace JsonSchema.DomainName

/-- Whether a character is in ASCII. -/
def isAscii (c : Char) : Bool := c.toNat < 0x80

/-- What the characters of a name stand for, in composed form. In ASCII only case does not
    count. -/
def mapped? (name : List Char) : Option (List Char) :=
  if name.all isAscii then some (name.map Char.toLower)
  else (name.mapM Unicode.domainForm?).map fun forms => Unicode.compose forms.flatten

/-! ## Joiners -/

/-- The marks, with which no label starts. -/
def marks : CharSet := Unicode.categoryUnion ["mn", "mc", "me"]

/-- Whether the next letter that is not joined across is of a set. -/
def nextIn (set : CharSet) (cs : List Char) : Bool :=
  match cs.dropWhile Unicode.joinsThrough.contains with
  | c :: _ => set.contains c
  | [] => false

/-- Whether every joiner stands where it makes a difference: behind a virama, or, if it
    keeps letters apart, between two that would join. `before` holds what stands before,
    latest first. -/
def joinersFit (before : List Char) : List Char → Bool
  | [] => true
  | c :: rest =>
    let behindVirama := match before with
      | last :: _ => Unicode.combiningClass last = 9
      | [] => false
    let fits :=
      if c = '\u200d' then behindVirama
      else if c = '\u200c' then
        behindVirama || (nextIn Unicode.joinsBehind before && nextIn Unicode.joinsBefore rest)
      else true
    fits && joinersFit (c :: before) rest

/-! ## Direction -/

/-- Whether a text holds letters from right to left or numbers of such texts. -/
def hasRightToLeft (cs : List Char) : Bool :=
  cs.any fun c => Unicode.rightToLeft.contains c || Unicode.arabicNumbers.contains c

/-- Whether a letter is written from left to right. -/
def isLeftToRight (c : Char) : Bool :=
  let others := [Unicode.rightToLeft, Unicode.arabicNumbers, Unicode.europeanNumbers,
    Unicode.directionMarks, Unicode.neutral]
  !others.any (·.contains c)

/-- Whether the characters of a label have an order that does not depend on what is
    around it. -/
def hasOwnOrder (label : List Char) : Bool :=
  let last := (label.reverse.dropWhile Unicode.directionMarks.contains).head?
  match label with
  | [] => true
  | first :: _ =>
    if Unicode.rightToLeft.contains first then
      !label.any isLeftToRight &&
        last.any (fun c => [Unicode.rightToLeft, Unicode.europeanNumbers,
          Unicode.arabicNumbers].any (·.contains c)) &&
        !(label.any Unicode.europeanNumbers.contains && label.any Unicode.arabicNumbers.contains)
    else
      isLeftToRight first && !hasRightToLeft label &&
        last.any fun c => isLeftToRight c || Unicode.europeanNumbers.contains c

/-! ## Labels -/

/-- Whether a text beyond ASCII is a label: in its stored form, not starting with a mark,
    and with joiners only where they fit. -/
def isLabel (label : List Char) : Bool :=
  mapped? label = some label && !(label.head?.any marks.contains) && joinersFit [] label

/-- A label that is written in ASCII with this mark in front stands for another one. -/
def asciiMark : List Char := ['x', 'n', '-', '-']

/-- The label in ASCII and the one that it stands for. -/
def readLabel? (label : List Char) : Option (List Char × List Char) :=
  if asciiMark.isPrefixOf label then
    match Punycode.decode? (label.drop asciiMark.length) with
    | some decoded =>
      if !decoded.all isAscii && isLabel decoded then some (label, decoded) else none
    | none => none
  else if label.all isAscii then some (label, label)
  else if isLabel label then some (asciiMark ++ Punycode.encode label, label)
  else none

/-- The stored form of a name. If it goes from right to left anywhere, each label must
    have an order of its own. -/
def toAscii? (name : List Char) : Option (List Char) := do
  let labels ← (Text.splitOn '.' (← mapped? name)).mapM readLabel?
  let texts := labels.map (·.2)
  if texts.any hasRightToLeft && !texts.all hasOwnOrder then none
  else some (['.'].intercalate (labels.map (·.1)))

end JsonSchema.DomainName
