import JsonSchema.Regex.Syntax
import JsonSchema.Url.Parser

/-!
# Formats

A format is a named test on strings. The built-in ones are those of draft-07.

* `Format`: a pattern or any other test.
* `FormatTable`: formats by name; a new format takes the place of one of its name.
* `FormatTable.draft07`: the built-in formats.
-/

namespace JsonSchema

/-- A test on strings. -/
inductive Format where
  | pattern (p : Pattern)
  | test (holds : String → Bool)

namespace Format

/-- Whether a string has the format. -/
def accepts : Format → String → Bool
  | pattern p, text => p.occursIn text
  | test holds, text => holds text

/-- A year, a month below 20 and a day below 40. -/
def date : String := "^\\d\\d\\d\\d-[0-1]\\d-[0-3]\\d$"

/-- The time of day, with or without an offset. -/
def time : String :=
  "^(?i)[0-2]\\d:[0-5]\\d:[0-5]\\d(?:\\.\\d+)?(?:z|[+-]\\d\\d(?::?\\d\\d)?)?$"

/-- A date and a time with an offset. -/
def dateTime : String :=
  "^(?i)\\d\\d\\d\\d-[0-1]\\d-[0-3]\\d[t\\s][0-2]\\d:[0-5]\\d:[0-5]\\d(?:\\.\\d+)?" ++
    "(?:z|[+-]\\d\\d(?::?\\d\\d)?)$"

/-- The part of a host name between dots, and the parts behind it. -/
def hostLabels : String :=
  "[a-z0-9](?:[a-z0-9-]\x7b0,61\x7d[a-z0-9])?(?:\\.[a-z0-9](?:[a-z0-9-]\x7b0,61\x7d[a-z0-9])?)*$"

/-- An address with a local part of common characters. -/
def email : String := "^(?i)[a-z0-9.!#$%&'*+/=?^_`\x7b|\x7d~-]+@" ++ hostLabels

/-- A host name. -/
def hostname : String := "^(?i)" ++ hostLabels

/-- Anything without white space. -/
def uriReference : String := "^[^\\s]*$"

/-- Segments with a slash before each. -/
def jsonPointer : String := "^(?:/(?:[^~/]|~0|~1)*)*$"

/-- A number of steps up and a pointer, or a number sign for the name itself. -/
def relativeJsonPointer : String :=
  "^(?:0|[1-9][0-9]*)(?:#|(?:/(?:[^~/]|~0|~1)*)*)$"

/-- A universally unique identifier. -/
def uuid : String :=
  "^(?i)(?:urn:uuid:)?[0-9a-f]\x7b8\x7d-(?:[0-9a-f]\x7b4\x7d-)\x7b3\x7d[0-9a-f]\x7b12\x7d$"

/-- The format of a pattern text. -/
def ofPattern (text : String) : Except PatternError Format := (Pattern.parse text).map .pattern

end Format

/-- Formats by name. -/
abbrev FormatTable := List (String × Format)

namespace FormatTable

/-- The format of a name. -/
def get? (formats : FormatTable) (name : String) : Option Format := formats.lookup name

/-- Adds a format, in place of one of the same name. -/
def insert (formats : FormatTable) (name : String) (format : Format) : FormatTable :=
  (name, format) :: formats.filter (·.1 ≠ name)

/-- The formats that are given by patterns. -/
def patterns : List (String × String) :=
  [("date", Format.date), ("time", Format.time), ("date-time", Format.dateTime),
   ("email", Format.email), ("hostname", Format.hostname),
   ("uri-reference", Format.uriReference), ("json-pointer", Format.jsonPointer),
   ("relative-json-pointer", Format.relativeJsonPointer), ("uuid", Format.uuid)]

/-- The formats that are given by the readers of this library. -/
def readers : FormatTable :=
  [("ipv4", .test fun s => (Address.ipv4? s.toList).isSome),
   ("ipv6", .test fun s => (Address.ipv6? s.toList).isSome),
   ("uri", .test fun s => (Url.parse? s).isSome),
   ("regex", .test fun s => (Pattern.parse s).toOption.isSome)]

/-- The built-in formats. -/
def draft07 : FormatTable :=
  readers ++ patterns.filterMap fun (name, text) =>
    (Format.ofPattern text).toOption.map fun format => (name, format)

end FormatTable

end JsonSchema
