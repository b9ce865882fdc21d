import JsonSchema.Reference
import JsonSchema.Store.Bindings
import JsonSchema.Pointer
import JsonSchema.Vocabulary

/-!
# Local identifiers

A document may declare identifiers for its subschemas. They are found by walking the
document, but only where a keyword has subschemas.

* `Value.findings`: what there is to note while a document is walked, in that order.
* `LocalIndex`: the declared identifiers and the references of a document.
* `LocalIndex.ofDocument`: the index, or why the document is refused.
-/

namespace JsonSchema

/-- Something to note while a document is walked. -/
inductive Finding where
  /-- A subschema declares an identifier. -/
  | declares (id pointer : String)
  /-- A subschema makes a reference. -/
  | refersTo (target : String)
  /-- An identifier is no string. -/
  | malformed (pointer : String)
deriving DecidableEq, Repr

/-- The base inside a schema with these members, and what its identifier gives to note.
    The identifier of a whole document is the base already, unless it is an anchor. -/
def Members.enter (members : Members) (base pointer : String) (isRoot : Bool) :
    String × List Finding :=
  match members.get? "$id" with
  | none => (base, [])
  | some (.string id) =>
    if isRoot && !id.startsWith "#" then (base, [])
    else
      let resolved := resolveUrl base id
      (documentPart resolved, [.declares resolved pointer])
  | some _ => (base, [.malformed pointer])

/-- What the reference of a schema with these members gives to note. -/
def Members.referenceFinding (members : Members) (base : String) : List Finding :=
  match members.get? "$ref" with
  | some (.string reference) => [.refersTo (resolveUrl base reference)]
  | _ => []

mutual

/-- What there is to note in a schema at a pointer. -/
def Value.findings (table : VocabularyTable) (schema : Value) (base pointer : String)
    (isRoot : Bool) : List Finding :=
  match schema with
  | .object members =>
    let entered := Members.enter members base pointer isRoot
    entered.2 ++ Members.referenceFinding members entered.1 ++
      keywordFindings table members entered.1 pointer
  | _ => []

/-- What there is to note in the values of keywords. -/
def Value.keywordFindings (table : VocabularyTable) (members : List (String × Value))
    (base pointer : String) : List Finding :=
  match members with
  | [] => []
  | (keyword, value) :: rest =>
    let place := Pointer.child pointer keyword
    (match table.nesting? keyword, value with
      | some .schema, schema => findings table schema base place false
      | some .array, .array items => itemFindings table items base place 0
      | some .schemaOrArray, .array items => itemFindings table items base place 0
      | some .schemaOrArray, schema => findings table schema base place false
      | some .map, .object members => memberFindings table members base place
      | _, _ => []) ++
      keywordFindings table rest base pointer

/-- What there is to note in the items of a list of schemas, numbered from `index`. -/
def Value.itemFindings (table : VocabularyTable) (items : List Value) (base pointer : String)
    (index : Nat) : List Finding :=
  match items with
  | [] => []
  | item :: rest =>
    findings table item base (Pointer.child pointer (toString index)) false ++
      itemFindings table rest base pointer (index + 1)

/-- What there is to note in the members of an object of schemas. -/
def Value.memberFindings (table : VocabularyTable) (members : List (String × Value))
    (base pointer : String) : List Finding :=
  match members with
  | [] => []
  | (name, schema) :: rest =>
    findings table schema base (Pointer.child pointer name) false ++
      memberFindings table rest base pointer

end

/-- The identifiers that a document declares and the references that it makes. -/
structure LocalIndex where
  /-- The pointers to the subschemas with an identifier. -/
  localRefs : Bindings String String := []
  /-- The absolute references, each once, in the order in which they are met. -/
  refTargets : List String := []
deriving DecidableEq, Repr

namespace LocalIndex

/-- The index with one more finding, of a document with the given identifier. No
    identifier may be declared twice. -/
def note (rootId : String) (index : LocalIndex) : Finding → Except SchemaError LocalIndex
  | .declares id pointer =>
    if id = rootId || index.localRefs.binds id then .error (.duplicate id)
    else .ok { index with localRefs := index.localRefs.bind id pointer }
  | .refersTo target =>
    if index.refTargets.contains target then .ok index
    else .ok { index with refTargets := index.refTargets ++ [target] }
  | .malformed pointer => .error (.malformed (.identifierAt ("#" ++ pointer)))

/-- The index of a document with the given identifier. -/
def ofDocument (table : VocabularyTable) (document : Value) (id : String) :
    Except SchemaError LocalIndex :=
  (document.findings table id "" true).foldlM (note id) {}

end LocalIndex

end JsonSchema
