import JsonSchema.Toml.Table
import JsonSchema.Toml.Token

/-!
# Reading TOML

A document is read line by line: headers say which table the keys behind them belong to.

* `Toml.value?`: a value.
* `Toml.parse?`: the table that a document denotes, if it is well formed.
-/

namespace JsonSchema.Toml

/-- Nesting of values that a document may not reach. -/
def depthLimit : Nat := 80

mutual

/-- A value without blanks in front. `fuel` bounds the number of tokens, `depth` the
    nesting still allowed. -/
def value? (fuel depth : Nat) (cs : List Char) : Option (Setting × List Char) :=
  match fuel with
  | 0 => none
  | fuel + 1 =>
    match cs with
    | '"' :: _ | '\'' :: _ => (text? cs).map fun (text, rest) => (.text text, rest)
    | '[' :: rest =>
      if depth = 0 then none
      else (items? fuel (depth - 1) [] rest).map fun (items, rest) => (.list items, rest)
    | '\x7b' :: rest =>
      if depth = 0 then none
      else
        match skipBlanks rest with
        | '\x7d' :: rest => some (.table [], rest)
        | rest =>
          (members? fuel (depth - 1) [] rest).map fun (nodes, rest) =>
            (.table (settings nodes), rest)
    | 't' :: rest => (Json.expect? "rue".toList rest).map fun rest => (.flag true, rest)
    | 'f' :: rest => (Json.expect? "alse".toList rest).map fun rest => (.flag false, rest)
    | cs =>
      match time? cs with
      | some (time, rest) => some (.text time, rest)
      | none => number? cs

/-- The items of a list up to its end. A comma may follow the last one. -/
def items? (fuel depth : Nat) (acc : List Setting) (cs : List Char) :
    Option (List Setting × List Char) :=
  match fuel with
  | 0 => none
  | fuel + 1 =>
    match filler? false cs with
    | none => none
    | some (']' :: rest) => some (acc.reverse, rest)
    | some cs =>
      match value? fuel depth cs with
      | none => none
      | some (item, rest) =>
        match filler? false rest with
        | some (',' :: rest) => items? fuel depth (item :: acc) rest
        | some (']' :: rest) => some ((item :: acc).reverse, rest)
        | _ => none

/-- The remaining members of a table on one line, of which at least one must follow. -/
def members? (fuel depth : Nat) (nodes : Nodes) (cs : List Char) :
    Option (Nodes × List Char) :=
  match fuel with
  | 0 => none
  | fuel + 1 =>
    match key? cs with
    | some (key, '=' :: rest) =>
      match value? fuel depth (skipBlanks rest) with
      | none => none
      | some (value, rest) =>
        match assign [] key value nodes with
        | none => none
        | some nodes =>
          match skipBlanks rest with
          | ',' :: rest => members? fuel depth nodes rest
          | '\x7d' :: rest => some (nodes, rest)
          | _ => none
    | _ => none

end

/-- What was read so far, and the table that the next keys belong to. -/
structure Draft where
  nodes : Nodes := []
  header : List String := []

namespace Draft

/-- A header between as many brackets as said, up to the end of its line. -/
def header? (brackets : List Char) (change : List String → Nodes → Option Nodes)
    (draft : Draft) (cs : List Char) : Option (Draft × List Char) := do
  let (header, cs) ← key? cs
  let rest ← lineEnd? (← Json.expect? brackets cs)
  return ({ nodes := ← change header draft.nodes, header }, rest)

/-- A key and its value, up to the end of the line. -/
def entry? (draft : Draft) (cs : List Char) : Option (Draft × List Char) := do
  let (key, cs) ← key? cs
  let cs ← Json.expect? ['='] cs
  let (value, cs) ← value? (2 * cs.length + 2) depthLimit (skipBlanks cs)
  let rest ← lineEnd? cs
  return ({ draft with nodes := ← assign draft.header key value draft.nodes }, rest)

/-- One line. -/
def line? (draft : Draft) (cs : List Char) : Option (Draft × List Char) :=
  match skipBlanks cs with
  | '[' :: '[' :: rest => header? [']', ']'] openElement draft rest
  | '[' :: rest => header? [']'] openTable draft rest
  | cs =>
    match lineEnd? cs with
    | some rest => some (draft, rest)
    | none => draft.entry? cs

/-- All lines. `fuel` bounds their number. -/
def lines? : Nat → Draft → List Char → Option Draft
  | _, draft, [] => some draft
  | 0, _, _ => none
  | fuel + 1, draft, cs => do
    let (draft, rest) ← draft.line? cs
    lines? fuel draft rest

end Draft

/-- The table that a document denotes. Every line takes a character, so the length of the
    document is fuel enough. A mark of the byte order in front is left out. -/
def parse? (document : String) : Option (List (String × Setting)) :=
  let cs := match document.toList with
    | '\uFEFF' :: rest => rest
    | cs => cs
  (Draft.lines? cs.length {} cs).map fun draft => settings draft.nodes

end JsonSchema.Toml
