import JsonSchema.Config.Basic

/-!
# Writing TOML

* `Toml.quoted`: a text as TOML writes it, in the form that needs the fewest escapes.
* `SchemaConfig.toToml`: a configuration as a TOML document.
-/

namespace JsonSchema.Toml

/-- How a text is delimited. -/
inductive Delimiter where
  /-- On one line. -/
  | single
  /-- On one line between triple quotes. -/
  | triple
  /-- On lines of its own between triple quotes. -/
  | lines
deriving DecidableEq, Repr

/-- Whether a character is a control that has no literal form on a line. -/
def isControl (c : Char) : Bool := (c.toNat < 0x20 && c != '\t') || c.toNat == 0x7F

/-- The longest run of single quotes. -/
def quoteRun (current longest : Nat) : List Char → Nat
  | [] => max current longest
  | '\'' :: rest => quoteRun (current + 1) longest rest
  | _ :: rest => quoteRun 0 (max current longest) rest

/-- Whether a text is written without escapes: it holds a character that would need one,
    and none that needs one in any case. -/
def isLiteral (cs : List Char) : Bool :=
  cs.any (fun c => c == '\\' || c == '"') && !cs.any (fun c => isControl c && c != '\n') &&
    quoteRun 0 0 cs < 3 && cs.getLast? != some '\''

/-- The delimiters of a text. -/
def delimiter (cs : List Char) : Delimiter :=
  if cs.contains '\n' then .lines
  else if isLiteral cs && cs.contains '\'' then .triple
  else .single

/-- A number in four hexadecimal digits. -/
def hexQuad (n : Nat) : List Char :=
  let digits := (Nat.toDigits 16 n).map Char.toUpper
  List.replicate (4 - digits.length) '0' ++ digits

/-- The written form of a character between double quotes. -/
def escape (form : Delimiter) (c : Char) : List Char :=
  match c with
  | '\x08' => ['\\', 'b']
  | '\t' => ['\\', 't']
  | '\n' => if form = .single then ['\\', 'n'] else ['\n']
  | '\x0c' => ['\\', 'f']
  | '\r' => ['\\', 'r']
  | '"' => ['\\', '"']
  | '\\' => ['\\', '\\']
  | c => if isControl c then ['\\', 'u'] ++ hexQuad c.toNat else [c]

/-- The characters that open and close a text. -/
def delimit (form : Delimiter) (quote : Char) (body : List Char) : List Char :=
  match form with
  | .single => quote :: body ++ [quote]
  | .triple => [quote, quote, quote] ++ body ++ [quote, quote, quote]
  | .lines => [quote, quote, quote, '\n'] ++ body ++ [quote, quote, quote]

/-- A text as TOML writes it. -/
def quoted (text : String) : String :=
  let cs := text.toList
  let form := delimiter cs
  String.ofList <|
    if isLiteral cs then delimit form '\'' cs
    else delimit form '"' (cs.flatMap (escape form))

/-- A setting as TOML writes it. -/
def written : WrittenSetting → String
  | .flag value => toString value
  | .text value => quoted value

/-- A section as TOML writes it. -/
def sectionText (title : String) (settings : List (String × WrittenSetting)) : String :=
  "[" ++ title ++ "]\n" ++
    String.join (settings.map fun (name, value) => name ++ " = " ++ written value ++ "\n")

end JsonSchema.Toml

namespace JsonSchema

/-- A configuration as a TOML document. -/
def SchemaConfig.toToml (config : SchemaConfig) : String :=
  "\n".intercalate (config.sections.map fun (title, settings) =>
    Toml.sectionText title settings)

end JsonSchema
