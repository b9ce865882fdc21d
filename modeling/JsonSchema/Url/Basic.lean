import JsonSchema.Url.Address
import JsonSchema.Text.Utf8

/-!
# URLs

A URL in its parts, and its written form.

* `Url`: scheme, authority, path, query and fragment. A path is either opaque text or
  a list of segments.
* `Url.text`: the written form.
* `Url.isSpecial`: the schemes of the web, whose URLs always have a host and a path.
-/

namespace JsonSchema

/-- The host of a URL. -/
inductive Host where
  | name (text : List Char)
  | ipv4 (parts : List Nat)
  | ipv6 (groups : List Nat)
deriving DecidableEq, Repr

/-- Who and where: credentials, host and a port other than the usual one. -/
structure Authority where
  user : List Char
  password : Option (List Char)
  host : Host
  port : Option Nat
deriving DecidableEq, Repr

/-- The path of a URL. -/
inductive Path where
  | opaqueText (text : List Char)
  | segments (list : List (List Char))
deriving DecidableEq, Repr

/-- A URL. -/
structure Url where
  scheme : List Char
  authority : Option Authority
  path : Path
  query : Option (List Char)
  fragment : Option (List Char)
deriving DecidableEq, Repr

namespace Host

/-- The written form of a host. -/
def text : Host → List Char
  | name text => text
  | ipv4 parts => List.intercalate ['.'] (parts.map (Nat.toDigits 10))
  | ipv6 groups => '[' :: Address.ipv6Text groups ++ [']']

end Host

namespace Authority

/-- The authority that names a host only. -/
def ofHost (host : Host) : Authority := ⟨[], none, host, none⟩

/-- The written form of the credentials and the mark behind them. -/
def credentials (a : Authority) : List Char :=
  match a.password with
  | some password => a.user ++ ':' :: password ++ ['@']
  | none => if a.user.isEmpty then [] else a.user ++ ['@']

/-- The written form of an authority. -/
def text (a : Authority) : List Char :=
  a.credentials ++ a.host.text ++
    match a.port with
    | some port => ':' :: Nat.toDigits 10 port
    | none => []

end Authority

namespace Path

/-- The written form of a path: a slash before every segment. -/
def text : Path → List Char
  | opaqueText text => text
  | segments list => list.flatMap fun segment => '/' :: segment

end Path

namespace Url

/-- The schemes of the web. -/
def specialSchemes : List (List Char) :=
  ["http", "https", "ws", "wss", "ftp", "file"].map String.toList

/-- Whether a scheme is one of those of the web. -/
def isSpecial (scheme : List Char) : Bool := specialSchemes.contains scheme

/-- Whether a scheme is that of local files. -/
def isFile (scheme : List Char) : Bool := scheme == "file".toList

/-- The port that a scheme implies. -/
def usualPort? (scheme : List Char) : Option Nat :=
  match String.ofList scheme with
  | "http" | "ws" => some 80
  | "https" | "wss" => some 443
  | "ftp" => some 21
  | _ => none

/-- The part of the written form between the scheme and the path. Two slashes at the
    start of a path without authority would read as one, hence the dot before them. -/
def authorityText (u : Url) : List Char :=
  match u.authority, u.path with
  | some authority, _ => '/' :: '/' :: authority.text
  | none, .segments ([] :: _ :: _) => if isFile u.scheme then ['/', '/'] else ['/', '.']
  | none, _ => if isFile u.scheme then ['/', '/'] else []

/-- The written form of a URL. -/
def characters (u : Url) : List Char :=
  u.scheme ++ ':' :: u.authorityText ++ u.path.text ++
    (match u.query with
      | some query => '?' :: query
      | none => []) ++
    match u.fragment with
      | some fragment => '#' :: fragment
      | none => []

/-- The written form of a URL. -/
def text (u : Url) : String := String.ofList u.characters

end Url

end JsonSchema
