import JsonSchema.Compilation.Builtin
import JsonSchema.Proofs.Meaning.Demand
import JsonSchema.Store.Resolve
import JsonSchema.Validation.Run

/-!
# The meaning of draft-07

What a document demands of data, read off the document itself. Nothing is compiled here: each
keyword says what it demands under the schemas in its value, and each reference is resolved and
followed when the data is reached.

* `Applicator.meaning`, `Keyword.meaning`: what a keyword demands.
* `Site`, `World`: a schema in a document, and what it may refer to.
* `World.Judges`, `World.Satisfies`: the verdict on data that follows from the verdicts on its
  parts.
* `World.Within`: no more references have to be followed at one place of the data than validators
  follow.
* `World.Judges.unique`: there is at most one verdict.
-/

namespace JsonSchema

/-! ## Keywords -/

/-- The members of an object; none of anything else. -/
def Value.memberList (value : Value) : Members := value.asObject?.getD []

/-- The items of an array; none of anything else. -/
def Value.itemList (value : Value) : List Value := value.asArray?.getD []

/-- Whether a pattern, given by its text, occurs in a name. -/
def Pattern.matchesName (text name : String) : Bool :=
  match Pattern.parse text with
  | .ok pattern => pattern.occursIn name
  | .error _ => false

/-- The members of the value of another keyword of the schema. -/
def Members.under (siblings : Members) (keyword : String) : Members :=
  ((siblings.get? keyword).map Value.memberList).getD []

/-- What a member of the value of `dependencies` demands of an object that has the property. -/
def Value.dependencyMeaning (value : Value) (members : Members) : Demand (Part Value) :=
  match value with
  | .array names =>
    .settled (names.all (·.asString?.any members.contains))
  | schema => .all [.here schema (.object members)]

/-- What a keyword that applies subschemas demands, from its value and the schema around it. -/
def Applicator.meaning (applicator : Applicator) (siblings : Members) (value data : Value) :
    List (Demand (Part Value)) :=
  match applicator, data with
  | .properties, .object members =>
    [.all (value.memberList.filterMap fun s => (Members.get? members s.1).map (.below s.2))]
  | .patternProperties, .object members =>
    [.all (value.memberList.flatMap fun s =>
      (members.filter fun m => Pattern.matchesName s.1 m.1).map fun m => .below s.2 m.2)]
  | .additionalProperties, .object members =>
    let named (m : String × Value) := (siblings.under "properties").names.contains m.1
    let matched (m : String × Value) :=
      (siblings.under "patternProperties").any fun s => Pattern.matchesName s.1 m.1
    [.all ((members.filter fun m => !named m && !matched m).map fun m => .below value m.2)]
  | .propertyNames, .object members =>
    [.all (members.map fun m => .here value (.string m.1))]
  | .dependencies, .object members =>
    (value.memberList.filter fun d => Members.contains members d.1).map fun d =>
      d.2.dependencyMeaning members
  | .items, .array list =>
    match value with
    | .array schemas => [.all ((schemas.zip list).map fun s => .below s.1 s.2)]
    | schema => [.all (list.map (.below schema))]
  | .additionalItems, .array list =>
    match (siblings.get? "items").bind Value.asArray? with
    | some schemas => [.all ((list.drop schemas.length).map (.below value))]
    | none => []
  | .contains, .array list => [.any (list.map (.below value))]
  | .allOf, data => [.all (value.itemList.map (.here · data))]
  | .anyOf, data => [.any (value.itemList.map (.here · data))]
  | .oneOf, data => [.one (value.itemList.map (.here · data))]
  | .not, data => [.refusal (.here value data)]
  | .conditional, data =>
    match siblings.get? "then", siblings.get? "else" with
    | none, none => []
    | yes, no => [.branch (.here value data) (yes.map (.here · data)) (no.map (.here · data))]
  | _, _ => []

/-- Whether data is of the kind of a name. -/
def Value.isOf (data name : Value) : Bool :=
  (name.asString?.bind Kind.ofName?).any (·.holds data)

/-- What a keyword that looks at data without applying subschemas demands, from its value. -/
def AssertionKind.meaning (kind : AssertionKind) (value data : Value) : Bool :=
  match kind, data with
  | .kinds, data =>
    match value with
    | .array names => names.any data.isOf
    | name => data.isOf name
  | .among, data => value.itemList.any (·.equiv data)
  | .equal, data => value.equiv data
  | .bound b, .number n => value.asNumber?.any fun limit => b.holds n.toDouble limit.toDouble
  | .multiple, .number n => value.asNumber?.any n.isMultiple
  | .least measure, data => (measure.of? data).all fun n => value.asCount?.any (· ≤ n)
  | .most measure, data => (measure.of? data).all fun n => value.asCount?.any (n ≤ ·)
  | .pattern, .string text => value.asString?.any (Pattern.matchesName · text)
  | .unique, .array list =>
    value.asBool? != some true || decide (list.Pairwise fun a b => b.equiv a = false)
  | .required, .object members => value.itemList.all (·.asString?.any (Members.contains members))
  | _, _ => true

/-- What the name of a format demands of data. A format that is not known demands nothing. -/
def FormatTable.meaning (formats : FormatTable) (value data : Value) : Bool :=
  match value.asString?.bind formats.get?, data with
  | some format, .string text => format.accepts text
  | _, _ => true

/-- What a built-in meaning of a keyword demands. -/
def Builtin.meaning (builtin : Builtin) (formats : FormatTable) (siblings : Members)
    (value data : Value) : List (Demand (Part Value)) :=
  match builtin with
  | .asserts kind => [.settled (kind.meaning value data)]
  | .applies applicator => applicator.meaning siblings value data
  | .format => [.settled (formats.meaning value data)]

namespace Keyword

/-- Whether a keyword looks at values of the kind of the data. -/
def appliesTo (keyword : Keyword) (data : Value) : Bool :=
  match keyword.types with
  | some kinds => kinds.any (·.holds data)
  | none => true

/-- What a keyword demands, from its value and the schema around it. Keywords that are put
    together from parts or stand for other schemas are left out. -/
def meaning (keyword : Keyword) (formats : FormatTable) (siblings : Members)
    (value data : Value) : List (Demand (Part Value)) :=
  match keyword.behavior with
  | .builtin builtin => builtin.meaning formats siblings value data
  | .validate test _ | .async test => [.settled (test value data)]
  | _ => []

end Keyword

namespace Draft07

/-- All keywords of draft-07. -/
def keywords : List Keyword := vocabularies.flatMap (·.keywords)

end Draft07

/-- The built-in table has the keywords of draft-07. -/
theorem VocabularyTable.keywords_draft07 (overwrite : Bool) :
    (VocabularyTable.draft07 overwrite).keywords = Draft07.keywords := by
  cases overwrite <;> rfl

/-- The built-in keywords are applied in the order in which they are listed. -/
theorem VocabularyTable.ordered_draft07 (overwrite : Bool) :
    (VocabularyTable.draft07 overwrite).ordered = Draft07.keywords := by
  cases overwrite <;> rfl

/-! ## Schemas in documents -/

/-- A schema in a document. -/
structure Site where
  /-- The entry of the document. -/
  root : EntryId
  /-- The pointer that led into the document; empty if its whole schema was meant. -/
  pointer : String
  /-- The base around the schema, without its own identifier. -/
  base : String
  /-- Whether the identifier of the schema counts; that of a whole document is the base
      already. -/
  applyId : Bool
  schema : Value

namespace Site

/-- The inside of a schema: its own identifier changes the base where it counts. -/
def inside (site : Site) (members : Members) : Site :=
  match members.get? "$id", site.applyId with
  | some (.string id), true =>
    { site with base := documentPart (resolveUrl site.base id), applyId := true }
  | _, _ => { site with applyId := true }

/-- Another schema at the same place of the same document. -/
def holding (site : Site) (schema : Value) : Site := { site with schema }

@[simp] theorem root_inside (site : Site) (members : Members) :
    (site.inside members).root = site.root := by
  unfold inside
  split <;> rfl

@[simp] theorem pointer_inside (site : Site) (members : Members) :
    (site.inside members).pointer = site.pointer := by
  unfold inside
  split <;> rfl

@[simp] theorem applyId_inside (site : Site) (members : Members) :
    (site.inside members).applyId = true := by
  unfold inside
  split <;> rfl

end Site

/-- The document of an entry, or the part of a document that an entry holds. -/
def Entry.site (entry : Entry) : Site where
  root := entry.root
  pointer := entry.pointer
  base := entry.id
  applyId := entry.isFragment
  schema := entry.document

/-- What schemas may refer to. -/
structure World where
  store : Store
  /-- What becomes of the keywords beside a reference. -/
  extendRefs : ReferenceSiblings
  /-- The formats that are known in what a pointer into a document leads to. -/
  formats : EntryId → String → FormatTable

namespace World

variable (w : World)

/-- The schema that a reference denotes. -/
def target? (site : Site) (reference : String) : Option Site :=
  match w.store.resolve site.root (resolveUrl site.base reference) with
  | .entry id => (w.store.entry? id).map Entry.site
  | .fragment root base pointer schema => some { root, pointer, base, applyId := true, schema }
  | .missing => none

/-- What a reference demands. -/
def referenceDemand (site : Site) (reference : String) (data : Value) : Demand (Part Site) :=
  match w.target? site reference with
  | some target => .all [.follow target data]
  | none => .settled false

/-- What a keyword of a schema demands, if it is there and looks at such data. -/
def keywordDemands (site : Site) (members : Members) (data : Value) (keyword : Keyword) :
    List (Demand (Part Site)) :=
  match members.get? keyword.name with
  | some value =>
    if keyword.appliesTo data then
      (keyword.meaning (w.formats site.root site.pointer) members value data).map
        (·.map (·.map site.holding))
    else []
  | none => []

/-- What the keywords of a schema demand. -/
def objectDemands (site : Site) (members : Members) (data : Value) : List (Demand (Part Site)) :=
  Draft07.keywords.flatMap (w.keywordDemands site members data)

/-- What a schema demands. Keywords beside a reference count only if the options say so. -/
def demands (site : Site) (data : Value) : List (Demand (Part Site)) :=
  match site.schema with
  | .bool verdict => [.settled verdict]
  | .object members =>
    let inside := site.inside members
    match Members.get? members "$ref" with
    | none => w.objectDemands inside members data
    | some (.string reference) =>
      w.referenceDemand inside reference data ::
        if w.extendRefs = .apply then w.objectDemands inside members data else []
    | some _ => [.settled false]
  | _ => [.settled false]

theorem not_mem_uses_of_settled {site : Site} {data : Value} {b : Bool}
    (h : w.demands site data = [.settled b]) :
    ∀ d ∈ w.demands site data, ∀ p, p ∉ d.uses fun _ => true := by
  rw [h]
  intro d mem p of
  rw [List.mem_singleton.1 mem] at of
  cases of

/-! ## Verdicts -/

/-- The verdict of a schema on data, from the verdicts on all parts that count. -/
inductive Judges : Site → Value → Bool → Prop
  | intro {site : Site} {data : Value} (verdict : Part Site → Bool)
      (judged : ∀ d ∈ w.demands site data, ∀ p ∈ d.uses verdict,
        Judges p.schema p.data (verdict p)) :
      Judges site data ((w.demands site data).all (·.met verdict verdict))

/-- Data satisfies a schema. -/
def Satisfies (site : Site) (data : Value) : Prop := w.Judges site data true

/-- From a place where some references were followed already, no more of them have to be
    followed at any one place than validators follow. -/
inductive Within : Nat → Site → Value → Prop
  | intro {hops : Nat} {site : Site} {data : Value} (verdict : Part Site → Bool)
      (judged : ∀ d ∈ w.demands site data, ∀ p ∈ d.uses verdict,
        w.Judges p.schema p.data (verdict p))
      (near : ∀ d ∈ w.demands site data, ∀ p ∈ d.uses verdict, p.way = .follow → hops < maxHops)
      (parts : ∀ d ∈ w.demands site data, ∀ p ∈ d.uses verdict,
        Within (p.way.hops hops) p.schema p.data) :
      Within hops site data

variable {w}

/-- A schema whose verdict depends on nothing. -/
theorem Judges.of_settled {site : Site} {data : Value} {b : Bool}
    (h : w.demands site data = [.settled b]) : w.Judges site data b := by
  have judges : w.Judges site data ((w.demands site data).all (·.met _ _)) :=
    .intro (fun _ => true) fun d mem p of => absurd of (w.not_mem_uses_of_settled h d mem p)
  rw [h] at judges
  simpa [Demand.met] using judges

theorem Within.of_settled {hops : Nat} {site : Site} {data : Value} {b : Bool}
    (h : w.demands site data = [.settled b]) : w.Within hops site data := by
  have idle := w.not_mem_uses_of_settled h
  exact .intro (fun _ => true) (fun d mem p of => absurd of (idle d mem p))
    (fun d mem p of => absurd of (idle d mem p)) (fun d mem p of => absurd of (idle d mem p))

/-- There is at most one verdict. -/
theorem Judges.unique {site : Site} {data : Value} {b b' : Bool} (h : w.Judges site data b)
    (h' : w.Judges site data b') : b = b' := by
  induction h generalizing b' with
  | @intro site data verdict judged ih =>
    cases h' with
    | intro verdict' judged' =>
      refine all_eq_of_mem fun d mem => ?_
      have same : d.uses verdict = d.uses verdict' :=
        Demand.uses_eq fun p of of' => ih d mem p of (judged' d mem p of')
      refine (Demand.met_congr fun p of => ?_).1
      have agree := ih d mem p of (judged' d mem p (same ▸ of))
      exact ⟨agree, agree⟩

end World

end JsonSchema
