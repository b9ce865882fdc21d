import JsonSchema.Error
import JsonSchema.Keyword.Draft07
import JsonSchema.Store.Bindings
import JsonSchema.Validation.Validator

/-!
# Tables of keywords

A table holds the keywords that are defined, in the order of their definition, and an
order in which they are applied.

* `Keyword.order`: the order of application. As long as the hints leave a choice, the
  keyword that was defined first comes first.
* `VocabularyTable`: the defined keywords; `addKeyword`, `addVocabulary`,
  `removeKeyword` and `removeVocabulary` either succeed or change nothing.
-/

namespace JsonSchema

/-! ## Order -/

namespace Keyword

/-- Whether a hint puts `j` before `k`. -/
def precedes (j k : Keyword) : Bool := j.before.contains k.name || k.after.contains j.name

/-- The keywords in an order that follows every hint, taking the first that is free each
    time. It ends early when none is free, which happens only if hints form a cycle. -/
def arrange : Nat → List Keyword → List Keyword
  | 0, _ => []
  | n + 1, keywords =>
    match keywords.find? fun k => keywords.all fun j => !j.precedes k with
    | some k => k :: arrange n (keywords.filter (·.name ≠ k.name))
    | none => []

/-- The keywords that come after one of `names`. -/
def successors (keywords : List Keyword) (names : List String) : List String :=
  (keywords.filter fun k => keywords.any fun j => names.contains j.name && j.precedes k).map (·.name)

/-- The names that a chain of `n` or more hints leads to, up to `fuel` hints. -/
def reachable (keywords : List Keyword) : Nat → List String → List String
  | 0, names => names
  | fuel + 1, names =>
    let next := (successors keywords names).filter (!names.contains ·)
    if next.isEmpty then names else reachable keywords fuel (names ++ next)

/-- Whether a chain of hints leads from a keyword back to it. -/
def onCycle (keywords : List Keyword) (k : Keyword) : Bool :=
  (reachable keywords keywords.length (successors keywords [k.name])).contains k.name

/-- The keywords in their order of application, or the names on cycles of hints. -/
def order (keywords : List Keyword) : Except (List String) (List Keyword) :=
  let arranged := arrange keywords.length keywords
  if arranged.length = keywords.length then .ok arranged
  else .error (((keywords.filter (onCycle keywords)).map (·.name)).mergeSort (· ≤ ·))

/-- Whether a text can name a keyword: a letter, `_` or `$`, then letters, digits, `_`,
    `$` and `-`. -/
def isName (name : String) : Bool :=
  match name.toList with
  | [] => false
  | c :: rest =>
    (c.isAlpha || c == '_' || c == '$') &&
      rest.all fun d => d.isAlphanum || d == '_' || d == '$' || d == '-'

end Keyword

/-! ## Tables -/

/-- The defined keywords. -/
structure VocabularyTable where
  /-- Whether a keyword may be defined again. -/
  overwrite : Bool := true
  /-- The keywords in the order of their definition. -/
  keywords : List Keyword := []
  /-- The vocabulary that a keyword belongs to. -/
  owners : List (String × String) := []
  /-- The names of the vocabularies in the order in which they were added. -/
  vocabularies : List String := []
  /-- The keywords that can neither be redefined nor removed. -/
  protectedNames : List String := []
  /-- The keywords in their order of application. -/
  ordered : List Keyword := []
  /-- The validators of the values of keywords. -/
  valueValidators : Bindings String Validator := []

namespace VocabularyTable

/-- The keyword of a name. -/
def get? (table : VocabularyTable) (name : String) : Option Keyword :=
  table.keywords.find? (·.name == name)

/-- Whether a keyword is defined. -/
def contains (table : VocabularyTable) (name : String) : Bool := (table.get? name).isSome

/-- Whether a keyword is protected. -/
def isProtected (table : VocabularyTable) (name : String) : Bool :=
  table.protectedNames.contains name

/-- Where subschemas sit in the value of a keyword. -/
def nesting? (table : VocabularyTable) (name : String) : Option Nesting :=
  (table.get? name).map (·.nesting)

/-- The keywords that a vocabulary added and that were not defined again since. -/
def members (table : VocabularyTable) (vocabulary : String) : List String :=
  (table.owners.filter (·.2 == vocabulary)).map (·.1)

/-- The table with its order of application computed anew. -/
def reorder (table : VocabularyTable) : Except SchemaError VocabularyTable :=
  match Keyword.order table.keywords with
  | .ok ordered => .ok { table with ordered := ordered }
  | .error names => .error (.cycle names)

/-- The table without the keywords of these names. -/
def without (table : VocabularyTable) (names : List String) : VocabularyTable :=
  { table with
    keywords := table.keywords.filter (!names.contains ·.name)
    owners := table.owners.filter (!names.contains ·.1)
    valueValidators := table.valueValidators.filter (!names.contains ·.1) }

/-- The table with one more keyword at the end, its order not yet computed. -/
def stage (table : VocabularyTable) (keyword : Keyword) (owner : Option String) :
    Except SchemaError VocabularyTable :=
  if !Keyword.isName keyword.name then .error (.definition (.name keyword.name))
  else if table.isProtected keyword.name then .error (.conflict (.keyword keyword.name))
  else if table.contains keyword.name && !table.overwrite then
    .error (.conflict (.keyword keyword.name))
  else
    let rest := table.without [keyword.name]
    .ok
      { rest with
        keywords := rest.keywords ++ [keyword]
        owners := rest.owners ++ (owner.map (keyword.name, ·)).toList }

/-- Defines a keyword. -/
def addKeyword (table : VocabularyTable) (keyword : Keyword) :
    Except SchemaError VocabularyTable := do
  (← table.stage keyword none).reorder

/-- The first name that occurred before, given the names already seen. -/
def repeated? (seen : List String) : List String → Option String
  | [] => none
  | name :: rest => if seen.contains name then some name else repeated? (name :: seen) rest

/-- Defines all keywords of a vocabulary. -/
def addVocabulary (table : VocabularyTable) (vocabulary : Vocabulary) :
    Except SchemaError VocabularyTable := do
  if table.vocabularies.contains vocabulary.name then
    throw (.conflict (.vocabulary vocabulary.name))
  let names := vocabulary.keywords.map (·.name)
  if let some name := repeated? [] names then
    throw (.definition (.twice name vocabulary.name))
  let staged ← vocabulary.keywords.foldlM
    (fun table keyword => table.stage keyword (some vocabulary.name)) table
  let guarded := if vocabulary.isProtected then names else []
  reorder
    { staged with
      vocabularies := staged.vocabularies ++ [vocabulary.name]
      protectedNames := staged.protectedNames ++ guarded }

/-- Removes a keyword, and gives its definition if there was one. -/
def removeKeyword (table : VocabularyTable) (name : String) :
    Except SchemaError (Option Keyword × VocabularyTable) := do
  if table.isProtected name then throw (.conflict (.removal name))
  match table.get? name with
  | none => return (none, table)
  | some keyword => return (some keyword, ← (table.without [name]).reorder)

/-- Removes the keywords of a vocabulary; says whether the vocabulary was known. -/
def removeVocabulary (table : VocabularyTable) (vocabulary : String) :
    Except SchemaError (Bool × VocabularyTable) := do
  if !table.vocabularies.contains vocabulary then return (false, table)
  let members := table.members vocabulary
  if let some name := members.find? table.isProtected then
    throw (.conflict (.removal name))
  let rest := table.without members
  return (true, ← reorder { rest with vocabularies := rest.vocabularies.filter (· ≠ vocabulary) })

/-- Gives the values of a keyword a validator. -/
def setValueValidator (table : VocabularyTable) (name : String) (validator : Validator) :
    VocabularyTable :=
  { table with valueValidators := table.valueValidators.bind name validator }

/-- The table of the built-in vocabularies. They have no cycle of hints and share no
    keyword, so none of them is refused. -/
def draft07 (overwrite : Bool) : VocabularyTable :=
  Draft07.vocabularies.foldl (fun table v => (table.addVocabulary v).toOption.getD table)
    { overwrite := overwrite }

end VocabularyTable

end JsonSchema
