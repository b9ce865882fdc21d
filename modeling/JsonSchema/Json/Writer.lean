import JsonSchema.Json.Value

/-!
# The text of a value

Values are written without white space, objects in the order of their members. In the
canonical text of a value the members of every object are sorted: two values have one
canonical text exactly when they are the same value.

* `Value.text`: the text of a value.
* `Value.canonicalText`: its canonical text.
* `Json.quoted`: a string with quotes, backslashes and control characters escaped.
-/

namespace JsonSchema

namespace Json

/-- The escape of a character that does not stand for itself in a string. -/
def escape (c : Char) : List Char :=
  match c with
  | '"' => ['\\', '"']
  | '\\' => ['\\', '\\']
  | '\n' => ['\\', 'n']
  | '\r' => ['\\', 'r']
  | '\t' => ['\\', 't']
  | '\x08' => ['\\', 'b']
  | '\x0c' => ['\\', 'f']
  | c =>
    if c.toNat < 0x20 then
      ['\\', 'u', '0', '0', Nat.digitChar (c.toNat / 16), Nat.digitChar (c.toNat % 16)]
    else [c]

/-- A string between quotes. -/
def quoted (text : String) : String :=
  String.ofList ('"' :: (text.toList.flatMap escape ++ ['"']))

end Json

namespace Value

mutual

/-- The text of a value. -/
def text : Value → String
  | .null => "null"
  | .bool true => "true"
  | .bool false => "false"
  | .number n => n.text
  | .string s => Json.quoted s
  | .array items => "[" ++ itemsText items ++ "]"
  | .object members => "\x7b" ++ membersText members ++ "\x7d"

/-- The texts of the items, with commas between them. -/
def itemsText : List Value → String
  | [] => ""
  | [item] => text item
  | item :: rest => text item ++ "," ++ itemsText rest

/-- The texts of the members, with commas between them. -/
def membersText : List (String × Value) → String
  | [] => ""
  | [(name, value)] => Json.quoted name ++ ":" ++ text value
  | (name, value) :: rest => Json.quoted name ++ ":" ++ text value ++ "," ++ membersText rest

end

/-! ## Canonical text -/

mutual

/-- The value with the members of every object in ascending order. -/
def arranged : Value → Value
  | .array items => .array (arrangedItems items)
  | .object members => .object (arrangedMembers members)
  | value => value

/-- The items, each arranged. -/
def arrangedItems : List Value → List Value
  | [] => []
  | item :: rest => arranged item :: arrangedItems rest

/-- The members in ascending order, each arranged. -/
def arrangedMembers : List (String × Value) → Members
  | [] => []
  | (name, value) :: rest => Members.insert (arrangedMembers rest) name (arranged value)

end

/-- The text of a value with the members of every object in ascending order. -/
def canonicalText (value : Value) : String := value.arranged.text

end Value

end JsonSchema
