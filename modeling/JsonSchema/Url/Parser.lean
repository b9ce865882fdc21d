import JsonSchema.Url.Host

/-!
# Reading URLs

* `Url.parse?`: the URL of a text that has a scheme.
* `Url.join?`: the URL of a text relative to a base.

Blanks and controls around the text and tabs and line ends anywhere in it are left
out. In URLs of the web a backslash counts as a slash.
-/

namespace JsonSchema.Url

/-! ## Characters that are percent-encoded -/

/-- In a fragment. -/
def encodeInFragment (c : Char) : Bool :=
  Host.isControl c || c == ' ' || c == '"' || c == '<' || c == '>' || c == '\x60'

/-- In a path. -/
def encodeInPath (c : Char) : Bool :=
  encodeInFragment c || c == '#' || c == '?' || c == '\x7b' || c == '\x7d'

/-- In credentials. -/
def encodeInCredentials (c : Char) : Bool :=
  encodeInPath c || "/:;=@[\\]^|".toList.contains c

/-- In a query; for the web also the single quote. -/
def encodeInQuery (special : Bool) (c : Char) : Bool :=
  Host.isControl c || c == ' ' || c == '"' || c == '#' || c == '<' || c == '>' ||
    (special && c == '\'')

/-! ## Paths -/

/-- Whether a character separates segments. -/
def isSlash (special : Bool) (c : Char) : Bool := c == '/' || (special && c == '\\')

/-- Whether a character ends a path. -/
def endsPath (c : Char) : Bool := c == '?' || c == '#'

/-- Whether a segment stands for the segment itself. -/
def isSingleDot (segment : List Char) : Bool :=
  segment == ['.'] || segment.map Char.toLower == "%2e".toList

/-- Whether a segment stands for the one above. -/
def isDoubleDot (segment : List Char) : Bool :=
  ["..", ".%2e", "%2e.", "%2e%2e"].any fun form => segment.map Char.toLower == form.toList

/-- Whether a segment names a drive. -/
def isDriveLetter : List Char → Bool
  | [letter, mark] => letter.isAlpha && (mark == ':' || mark == '|')
  | _ => false

/-- Whether a segment names a drive in its usual form. -/
def isNormalDriveLetter (segment : List Char) : Bool :=
  isDriveLetter segment && segment.getLast? == some ':'

/-- The segments without the last one; a drive at the root of a file path stays. -/
def shorten (file : Bool) (segments : List (List Char)) : List (List Char) :=
  match segments with
  | [drive] => if file && isNormalDriveLetter drive then [drive] else []
  | _ => segments.dropLast

/-- The segments after one more, which a slash follows or not. -/
def addSegment (file : Bool) (segments : List (List Char)) (segment : List Char) (slash : Bool) :
    List (List Char) :=
  if isDoubleDot segment then
    let above := shorten file segments
    if slash then above else above ++ [[]]
  else if isSingleDot segment then
    if slash then segments else segments ++ [[]]
  else if file && segments.isEmpty && isDriveLetter segment then [segment.take 1 ++ [':']]
  else segments ++ [segment]

/-- Reads segments up to a query, a fragment or the end. `current` holds the characters
    of the segment being read, latest first. -/
def readSegments (special file : Bool) (segments : List (List Char)) (current : List Char) :
    List Char → List (List Char) × List Char
  | [] => (addSegment file segments current.reverse false, [])
  | c :: rest =>
    if isSlash special c then
      readSegments special file (addSegment file segments current.reverse true) [] rest
    else if endsPath c then (addSegment file segments current.reverse false, c :: rest)
    else readSegments special file segments ((Percent.encode encodeInPath [c]).reverse ++ current) rest

/-- The segments of a file path without empty ones in front. -/
def trimSegments (file : Bool) (segments : List (List Char)) : List (List Char) :=
  if !file then segments
  else
    match segments.dropWhile List.isEmpty with
    | [] => [[]]
    | trimmed => trimmed

/-- Reads a path that continues some segments. -/
def readPath (scheme : List Char) (segments : List (List Char)) (cs : List Char) :
    Path × List Char :=
  let (list, rest) := readSegments (isSpecial scheme) (isFile scheme) segments [] cs
  (.segments (trimSegments (isFile scheme) list), rest)

/-- Reads the path behind an authority: of the web it is never empty. -/
def readRootedPath (scheme : List Char) (cs : List Char) : Path × List Char :=
  match cs with
  | c :: rest =>
    if isSlash (isSpecial scheme) c then readPath scheme [] rest
    else if isSpecial scheme then readPath scheme [] cs
    else if endsPath c then (.segments [], cs)
    else readPath scheme [] cs
  | [] => if isSpecial scheme then (.segments [[]], []) else (.segments [], [])

/-! ## Query and fragment -/

/-- The fragment that starts with a number sign. -/
def readFragment : List Char → Option (List Char)
  | '#' :: rest => some (Percent.encode encodeInFragment rest)
  | _ => none

/-- The query and the fragment behind a path. -/
def readTail (scheme : List Char) (cs : List Char) : Option (List Char) × Option (List Char) :=
  match cs with
  | '?' :: rest =>
    let query := rest.takeWhile (· ≠ '#')
    (some (Percent.encode (encodeInQuery (isSpecial scheme)) query),
      readFragment (rest.dropWhile (· ≠ '#')))
  | _ => (none, readFragment cs)

/-- The URL of its leading parts and the text behind the path. -/
def finish (scheme : List Char) (authority : Option Authority) (path : Path × List Char) : Url :=
  let (query, fragment) := readTail scheme path.2
  ⟨scheme, authority, path.1, query, fragment⟩

/-! ## Authorities -/

/-- Whether a character ends an authority. -/
def endsAuthority (special : Bool) (c : Char) : Bool :=
  c == '/' || c == '?' || c == '#' || (special && c == '\\')

/-- Splits at the last occurrence of a character. -/
def splitLast? (c : Char) (cs : List Char) : Option (List Char × List Char) :=
  if cs.contains c then
    let after := (cs.reverse.takeWhile (· ≠ c)).reverse
    some (cs.take (cs.length - after.length - 1), after)
  else none

/-- The credentials of an authority. -/
def readCredentials (cs : List Char) : List Char × Option (List Char) :=
  let encode := Percent.encode encodeInCredentials
  match cs.dropWhile (· ≠ ':') with
  | _ :: password@(_ :: _) => (encode (cs.takeWhile (· ≠ ':')), some (encode password))
  | _ => (encode (cs.takeWhile (· ≠ ':')), none)

/-- The length of the host in front of a text: it ends at a colon outside brackets. -/
def hostLength (inBrackets : Bool) : List Char → Nat
  | [] => 0
  | c :: rest =>
    if c = ':' ∧ !inBrackets then 0
    else hostLength (if c = '[' then true else if c = ']' then false else inBrackets) rest + 1

/-- A port of at most 16 bits; nothing for the usual one and for an empty one. -/
def readPort? (scheme : List Char) (cs : List Char) : Option (Option Nat) :=
  match cs with
  | ':' :: digits =>
    if Host.areDigits 10 digits then
      let port := Address.ofDigits 10 digits
      if 65535 < port then none
      else if digits.isEmpty ∨ usualPort? scheme = some port then some none
      else some (some port)
    else none
  | _ => some none

/-- The URL of a scheme and the text behind the two slashes. -/
def readAuthority? (scheme : List Char) (cs : List Char) : Option Url := do
  let special := isSpecial scheme
  let span := cs.takeWhile fun c => !endsAuthority special c
  let rest := cs.drop span.length
  let (before, after) := match splitLast? '@' span with
    | some (before, after) => (some before, after)
    | none => (none, span)
  let (user, password) := readCredentials (before.getD [])
  let hostText := after.take (hostLength false after)
  -- outside the web a backslash behind the port ends the authority, too
  let portText := (after.drop hostText.length).takeWhile (· ≠ '\\')
  let rest := (after.drop hostText.length).drop portText.length ++ rest
  let anonymous := user.isEmpty && password.isNone
  if hostText.isEmpty then
    if special || !anonymous || !portText.isEmpty || (before == some [] && !rest.isEmpty) then none
  let host ← if special then Host.parse? hostText else Host.parseOpaque? hostText
  let port ← readPort? scheme portText
  some (finish scheme (some ⟨user, password, host, port⟩) (readRootedPath scheme rest))

/-! ## Files -/

/-- The rest behind a slash of either kind. -/
def slash? : List Char → Option (List Char)
  | '/' :: rest => some rest
  | '\\' :: rest => some rest
  | _ => none

/-- Whether a text starts with a drive as its first segment. -/
def startsWithDrive : List Char → Bool
  | letter :: mark :: rest =>
    isDriveLetter [letter, mark] &&
      match rest with
      | [] => true
      | c :: _ => c == '/' || c == '\\' || endsPath c
  | _ => false

/-- The scheme of files. -/
def fileScheme : List Char := "file".toList

/-- The URL of a file, behind the two slashes. A drive in place of the host belongs to
    the path, and a drive at the root of the path leaves no host. -/
def readFileHost? (cs : List Char) : Option Url :=
  let text := cs.takeWhile fun c => !(c == '/' || c == '\\' || endsPath c)
  if isDriveLetter text then some (finish fileScheme none (readPath fileScheme [] cs))
  else do
    let rest := cs.drop text.length
    let host ← if text.isEmpty then some none else
      (Host.parse? text).map fun host => if host = .name "localhost".toList then none else some host
    let path := readRootedPath fileScheme rest
    let hasDrive := match path.1 with
      | .segments (first :: _) => isNormalDriveLetter first
      | _ => false
    some (finish fileScheme (if hasDrive then none else host.map .ofHost) path)

/-- The URL of a file, behind the scheme. -/
def readFile? (base : Option Url) (cs : List Char) : Option Url :=
  let base := base.filter fun u => isFile u.scheme
  match slash? cs with
  | some behind =>
    match slash? behind with
    | some behind => readFileHost? behind
    | none =>
      let drive := match base.map (·.path) with
        | some (.segments (first :: _)) => if isNormalDriveLetter first then some first else none
        | _ => none
      if startsWithDrive behind then some (finish fileScheme none (readPath fileScheme [] behind))
      else
        match drive with
        | some drive => some (finish fileScheme none (readPath fileScheme [drive] behind))
        | none => some (finish fileScheme (base.bind (·.authority)) (readPath fileScheme [] behind))
  | none =>
    match base with
    | none => some (finish fileScheme none (readPath fileScheme [] cs))
    | some base =>
      match cs with
      | [] => some { base with fragment := none }
      | '?' :: _ => some (finish fileScheme base.authority (base.path, cs))
      | '#' :: _ => some { base with fragment := readFragment cs }
      | _ =>
        if startsWithDrive cs then some (finish fileScheme none (readPath fileScheme [] cs))
        else
          let segments := match base.path with
            | .segments list => shorten true list
            | .opaqueText _ => []
          some (finish fileScheme base.authority (readPath fileScheme segments cs))

/-! ## Relative references -/

/-- The URL of a text without a scheme, relative to a base with a path of segments. -/
def readRelative? (base : Url) (segments : List (List Char)) (cs : List Char) : Option Url :=
  match cs with
  | [] => some { base with fragment := none }
  | '?' :: _ => some (finish base.scheme base.authority (base.path, cs))
  | '#' :: _ => some { base with fragment := readFragment cs }
  | _ =>
    match slash? cs with
    | some behind =>
      match slash? behind with
      | some _ =>
        match cs with
        | '/' :: '/' :: rest => readAuthority? base.scheme rest
        | _ => readAuthority? base.scheme (cs.dropWhile fun c => c == '/' || c == '\\')
      | none => some (finish base.scheme base.authority (readPath base.scheme [] behind))
    | none => some (finish base.scheme base.authority (readPath base.scheme segments.dropLast cs))

/-! ## Whole URLs -/

/-- The characters of a URL text that count. -/
def trimmed (text : List Char) : List Char :=
  let outer := text.dropWhile fun c => c.toNat ≤ 0x20
  let inner := (outer.reverse.dropWhile fun c => c.toNat ≤ 0x20).reverse
  inner.filter fun c => c ≠ '\t' ∧ c ≠ '\n' ∧ c ≠ '\r'

/-- Whether a character can stand inside a scheme. -/
def isSchemeChar (c : Char) : Bool := c.isAlphanum || c == '+' || c == '-' || c == '.'

/-- The scheme in front of a text, in lower case, and the text behind its colon. -/
def scheme? (cs : List Char) : Option (List Char × List Char) :=
  let scheme := cs.takeWhile isSchemeChar
  match cs.head?, cs.drop scheme.length with
  | some first, ':' :: rest => if first.isAlpha then some (scheme.map Char.toLower, rest) else none
  | _, _ => none

/-- The URL of a scheme and the text behind it. -/
def readScheme? (base : Option Url) (scheme cs : List Char) : Option Url :=
  if isFile scheme then readFile? base cs
  else if isSpecial scheme then
    let slashes := (cs.takeWhile (isSlash true)).length
    match base with
    | some base =>
      if slashes < 2 ∧ base.scheme = scheme then
        match base.path with
        | .segments list => readRelative? base list cs
        | .opaqueText _ => none
      else readAuthority? scheme (cs.drop slashes)
    | none => readAuthority? scheme (cs.drop slashes)
  else
    match cs with
    | '/' :: '/' :: rest => readAuthority? scheme rest
    | '/' :: rest => some (finish scheme none (readPath scheme [] rest))
    | _ =>
      let text := cs.takeWhile fun c => !endsPath c
      some (finish scheme none
        (.opaqueText (Percent.encode Host.isControl text), cs.drop text.length))

/-- The URL of a text, relative to a base if there is one. -/
def read? (base : Option Url) (text : String) : Option Url :=
  let cs := trimmed text.toList
  match scheme? cs with
  | some (scheme, rest) => readScheme? base scheme rest
  | none =>
    match base with
    | none => none
    | some base =>
      match cs, base.path with
      | '#' :: _, _ => some { base with fragment := readFragment cs }
      | _, .opaqueText _ => none
      | _, .segments list =>
        if isFile base.scheme then readFile? (some base) cs else readRelative? base list cs

/-- The URL of a text that has a scheme. -/
def parse? (text : String) : Option Url := read? none text

/-- The URL of a text relative to a base. -/
def join? (base : Url) (reference : String) : Option Url := read? (some base) reference

end JsonSchema.Url
