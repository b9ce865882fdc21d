import JsonSchema.Setting

/-!
# Tables of TOML documents

A table may be given piece by piece: by its header, by headers of tables below it and by
keys with points. Each name is given once, and a table that is complete in one way
cannot be continued in another one.

* `Toml.Node`: a value, a table or a row of tables.
* `Toml.assign`: sets a key below the table of the last header.
* `Toml.openTable`, `Toml.openElement`: headers.
-/

namespace JsonSchema.Toml

/-- What a name in a table stands for. -/
inductive Node where
  /-- A value, which is complete. -/
  | leaf (value : Setting)
  /-- A table. It is implied as long as it has no header, and pointed if keys with points
      made it. -/
  | table (implied pointed : Bool) (members : List (String × Node))
  /-- Tables in a row, of which the last one may go on. -/
  | row (earlier : List (List (String × Node))) (last : List (String × Node))

/-- What stands under names. -/
abbrev Nodes := List (String × Node)

/-- Changes what stands under a name, or puts something there. -/
def update (name : String) (change : Option Node → Option Node) : Nodes → Option Nodes
  | [] => (change none).map fun node => [(name, node)]
  | (other, node) :: rest =>
    if other = name then (change (some node)).map fun node => (other, node) :: rest
    else (update name change rest).map ((other, node) :: ·)

/-- Changes the table at the end of a path, and makes the tables on the way that are not
    there. A key with points leads through implied tables only. The flag that `change` is
    given says whether the table is pointed. -/
def descend (byKey : Bool) (change : Bool → Nodes → Option Nodes) :
    List String → Bool → Nodes → Option Nodes
  | [], pointed, members => change pointed members
  | name :: path, _, members =>
    members |> update name fun
      | none => (descend byKey change path byKey []).map (.table true byKey)
      | some (.leaf _) => none
      | some (.table implied pointed inner) =>
        if byKey && !implied then none
        else (descend byKey change path pointed inner).map (.table implied pointed)
      | some (.row earlier last) => (descend byKey change path false last).map (.row earlier)

/-- Sets a name that is not there. -/
def setNew (name : String) (value : Setting) : Nodes → Option Nodes :=
  update name fun
    | none => some (.leaf value)
    | some _ => none

/-- Sets a key below a table. If it has points, the table that it leads to must be one
    that such keys made. -/
def assign (header : List String) (key : List String) (value : Setting) (members : Nodes) :
    Option Nodes :=
  match key.getLast? with
  | none => none
  | some name =>
    let path := key.dropLast
    let put (pointed : Bool) (inner : Nodes) : Option Nodes :=
      if pointed = path.isEmpty then none else setNew name value inner
    members |> descend false (fun _ => descend true put path false) header false

/-- Opens the table of a header. It may be there only by implication. -/
def openTable (header : List String) (members : Nodes) : Option Nodes :=
  match header.getLast? with
  | none => none
  | some name =>
    let change (_ : Bool) : Nodes → Option Nodes :=
      update name fun
        | none => some (.table false false [])
        | some (.table true false inner) => some (.table false false inner)
        | some _ => none
    members |> descend false change header.dropLast false

/-- Opens one more table of a row. -/
def openElement (header : List String) (members : Nodes) : Option Nodes :=
  match header.getLast? with
  | none => none
  | some name =>
    let change (_ : Bool) : Nodes → Option Nodes :=
      update name fun
        | none => some (.row [] [])
        | some (.row earlier last) => some (.row (earlier ++ [last]) [])
        | some _ => none
    members |> descend false change header.dropLast false

mutual

/-- What a node says. -/
def Node.setting : Node → Setting
  | .leaf value => value
  | .table _ _ members => .table (settings members)
  | .row earlier last => .list (rowSettings earlier ++ [.table (settings last)])

/-- What stands under names, as settings. -/
def settings : List (String × Node) → List (String × Setting)
  | [] => []
  | (name, node) :: rest => (name, node.setting) :: settings rest

/-- Tables in a row, as settings. -/
def rowSettings : List (List (String × Node)) → List Setting
  | [] => []
  | members :: rest => .table (settings members) :: rowSettings rest

end

end JsonSchema.Toml
