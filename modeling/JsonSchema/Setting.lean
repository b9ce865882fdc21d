import JsonSchema.Json.Value
import JsonSchema.Number
import JsonSchema.Text.Split

/-!
# Settings

What a source of settings says, before anything is known of its meaning. Sources that
come later override earlier ones, name by name.

* `Setting`: a setting.
* `Setting.put`: a setting with another one below it.
* `Setting.override`: the settings of a source over those of earlier ones.
-/

namespace JsonSchema

/-- A real number as sources write it. -/
inductive Real where
  | finite (value : Double)
  | infinite (negative : Bool)
  | undefined
deriving DecidableEq

namespace Real

/-- The number nearest to `± digits · 10^exponent`. Beyond the bounds that are tested
    first only the extremes are near. -/
def ofDecimal (negative : Bool) (digits : Nat) (exponent : Int) : Real :=
  let leading := exponent + (Nat.toDigits 10 digits).length
  if digits = 0 || leading < -400 then finite (Double.zero negative)
  else if 400 < leading then infinite negative
  else
    match Double.nearest negative (digits * Nat.pow 10 exponent.toNat) (Nat.pow 10 (-exponent).toNat) with
    | some value => finite value
    | none => infinite negative

/-- The number as text. -/
def text : Real → String
  | finite value => value.text .message
  | infinite negative => if negative then "-inf" else "inf"
  | undefined => "NaN"

/-- Whether the number is zero. -/
def isZero : Real → Bool
  | finite value => value.significand = 0
  | _ => false

end Real

/-- A setting. -/
inductive Setting where
  | null
  | flag (value : Bool)
  | integer (value : Int)
  | real (value : Real)
  | text (value : String)
  | list (items : List Setting)
  | table (members : List (String × Setting))

namespace Setting

/-- The members of a setting; none if it has no names. -/
def members : Setting → List (String × Setting)
  | table members => members
  | _ => []

/-- Binds a name in place, or behind the others if it is new. -/
def bind (name : String) (value : Setting) : List (String × Setting) → List (String × Setting)
  | [] => [(name, value)]
  | (other, old) :: rest =>
    if other = name then (name, value) :: rest else (other, old) :: bind name value rest

mutual

/-- The members with a name set. Tables are united, and anything else is replaced. -/
def set (target : List (String × Setting)) (name : String) :
    Setting → List (String × Setting)
  | table members => bind name (unite ((target.lookup name).getD (table [])) members) target
  | value => bind name value target

/-- A setting with further members set in it. -/
def unite (target : Setting) : List (String × Setting) → Setting
  | [] => target
  | (name, value) :: rest => unite (table (set target.members name value)) rest

end

/-- A setting with another one set below it. What is on the way becomes a table. -/
def put (target : Setting) (value : Setting) : List String → Setting
  | [] => target
  | [name] => table (set target.members name value)
  | name :: path =>
    table (bind name (put ((target.members.lookup name).getD null) value path) target.members)

/-- The characters of the names in a path. -/
def isPathChar (c : Char) : Bool := c.isAlphanum || c == '_' || c == '-' || c == ' '

/-- The names in a path, which points separate; any other text is one name. -/
def path (text : String) : List String :=
  let names := Text.splitOn '.' text.toList
  if names.all fun name => !name.isEmpty && name.all isPathChar then names.map String.ofList
  else [text]

/-- The settings of a source over earlier ones. -/
def override (earlier : Setting) (source : List (String × Setting)) : Setting :=
  source.foldl (fun current (name, value) => current.put value (path name)) earlier

mutual

/-- A document as a setting. -/
def ofValue : Value → Setting
  | .null => null
  | .bool value => flag value
  | .number (.integer value _) => integer value
  | .number (.double value) => real (.finite value)
  | .string value => text value
  | .array items => list (ofValues items)
  | .object members => table (ofMembers members)

/-- The items of a document as settings. -/
def ofValues : List Value → List Setting
  | [] => []
  | value :: rest => ofValue value :: ofValues rest

/-- The members of a document as settings. -/
def ofMembers : List (String × Value) → List (String × Setting)
  | [] => []
  | (name, value) :: rest => (name, ofValue value) :: ofMembers rest

end

/-! ## Readings -/

/-- A setting as a flag. Numbers other than zero are on, and so are some words. -/
def flag? : Setting → Option Bool
  | flag value => some value
  | integer value => some (value ≠ 0)
  | real value => some !value.isZero
  | text value =>
    match value.toLower with
    | "1" | "true" | "on" | "yes" => some true
    | "0" | "false" | "off" | "no" => some false
    | _ => none
  | _ => none

/-- A setting as text. -/
def text? : Setting → Option String
  | text value => some value
  | flag value => some (toString value)
  | integer value => some (toString value)
  | real value => some value.text
  | _ => none

end Setting

end JsonSchema
