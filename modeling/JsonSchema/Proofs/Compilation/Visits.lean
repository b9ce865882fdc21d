import JsonSchema.Proofs.Compilation.Regions

/-!
# How often keywords are compiled

A compilation that succeeds comes to no keyword twice. The keywords of a schema and those inside the
parts that they compile are at different paths, and an entry is begun once.

* `Applicator.compile_visits`, `Compiler.watchedRule_visits`: a keyword that applies subschemas comes
  to what is inside the values that it compiles, and any keyword is come to before that.
* `Compiler.schema_visits`: a schema comes to the keywords in it.
* `Compiler.compile_visits`: a whole compilation comes to the keywords of the entries that it begins.
-/

namespace JsonSchema

/-! ## Keywords -/

/-- The keywords in a schema that are where some turns lead, among those at its place. -/
def Occurrence.region (o : Occurrence) (among : Set (List Turn)) : Set Occurrence :=
  (Value.object o.siblings).region o.place.schemaPath among

/-- A keyword is in a schema without two members of one name. -/
structure Occurrence.Stands (o : Occurrence) : Prop where
  sorted : (Value.object o.siblings).Sorted
  found : o.siblings.get? o.keyword.name = some o.value

theorem Occurrence.Stands.sorted_value {o : Occurrence} (stands : o.Stands) : o.value.Sorted :=
  (Value.sorted_object_iff.1 stands.sorted).2 _ (Members.mem_of_get? stands.found)

/-- A function that compiles schemas comes to the keywords inside them. -/
def SchemaCompiler.Visits (schema : SchemaCompiler)
    (watched : (Occurrence → List Event) → SchemaCompiler) : Prop :=
  ∀ value place, value.Sorted →
    CompileM.Visits place.entry (value.region place.schemaPath (Turn.beyond [])) (schema value place)
      (watched · value place)

/-- The names of the members whose insides a keyword compiles. -/
def Keyword.compiled (keyword : Keyword) : List String :=
  match keyword.behavior with
  | .builtin (.applies .conditional) => [keyword.name, "then", "else"]
  | .builtin (.applies _) => [keyword.name]
  | _ => []

/-- The places inside the members that a keyword compiles. -/
def Keyword.insides (keyword : Keyword) : Set (List Turn) :=
  {turns | ∃ name ∈ keyword.compiled, turns ∈ Turn.beyond [.member name]}

/-- The place of a keyword and those inside the members that it compiles. -/
def Keyword.territory (keyword : Keyword) : Set (List Turn) :=
  {turns | turns = [.member keyword.name] ∨ turns ∈ keyword.insides}

section Keywords

open CompileM (Visits Still)

variable {schema : SchemaCompiler} {watched : (Occurrence → List Event) → SchemaCompiler}
  {o : Occurrence} (stands : o.Stands) (visits : SchemaCompiler.Visits schema watched)

include stands visits

namespace Occurrence

/-- A part of the value of a keyword. -/
theorem subschema_visits {turns : List Turn} {part : Value} (leads : o.value.at? turns = some part) :
    Visits o.place.entry (o.region (Turn.beyond (.member o.keyword.name :: turns)))
      (o.subschema schema part (turns.map Turn.token))
      fun marks => o.subschema (watched marks) part (turns.map Turn.token) := by
  have whole : (Value.object o.siblings).at? (.member o.keyword.name :: turns) = some part := by
    rw [Value.at?, List.foldlM_cons]
    exact Option.bind_eq_some_iff.2 ⟨o.value, stands.found, leads⟩
  have inside := visits part (o.partPlace (turns.map Turn.token)) (stands.sorted.at whole)
  exact inside.mono (Value.region_of_part whole)

/-- The value of a keyword. -/
theorem schema_visits : Visits o.place.entry (o.region (Turn.beyond [.member o.keyword.name]))
    (o.schema schema) fun marks => o.schema (watched marks) :=
  @subschema_visits _ _ _ stands visits [] _ rfl

/-- The value of another keyword beside it. -/
theorem sibling_visits (keyword : String) :
    Visits o.place.entry (o.region (Turn.beyond [.member keyword])) (o.sibling schema keyword)
      fun marks => o.sibling (watched marks) keyword := by
  unfold sibling
  cases found : Members.get? o.siblings keyword with
  | none => exact .of_still (.pure none)
  | some part =>
    have whole : (Value.object o.siblings).at? [.member keyword] = some part := by
      rw [Value.at?, List.foldlM_cons]
      exact Option.bind_eq_some_iff.2 ⟨part, found, rfl⟩
    have inside := visits part (o.siblingPlace keyword) (stands.sorted.at whole)
    exact (inside.mono (Value.region_of_part whole)).bind_still fun node => .pure (some node)

/-- The schemas in a list. -/
theorem schemas_visits {values : List Value} (value : o.value = .array values) :
    Visits o.place.entry (o.region (Turn.beyond [.member o.keyword.name]))
      (o.schemas schema values) fun marks => o.schemas (watched marks) values := by
  have indices : values.zipIdx.Pairwise fun v w => v.2 ≠ w.2 := by
    rw [← List.pairwise_map (f := Prod.snd) (R := (· ≠ ·)), List.zipIdx_map_snd]
    exact List.nodup_range'
  refine (Visits.mapM (fun v => o.region (Turn.beyond [.member o.keyword.name, .item v.2]))
    (indices.imp fun other => ?_) fun v mem => ?_).mono ?_
  · exact Value.region_apart (Turn.beyond_disjoint [_] fun same => other (Turn.item.inj same))
  · have leads : o.value.at? [.item v.2] = some v.1 := by
      rw [value, Value.at?, List.foldlM_cons]
      exact Option.bind_eq_some_iff.2 ⟨v.1, List.mem_zipIdx_iff_getElem?.1 mem, rfl⟩
    exact subschema_visits stands visits leads
  · rintro o' ⟨v, -, mem⟩
    exact Value.region_mono (Turn.beyond_mono [_] [_]) mem

/-- A member of an object. -/
theorem member_visits {members : Members} (value : o.value = .object members) {m : String × Value}
    (mem : m ∈ members) :
    Visits o.place.entry (o.region (Turn.beyond [.member o.keyword.name, .member m.1]))
      (o.subschema schema m.2 [m.1]) fun marks => o.subschema (watched marks) m.2 [m.1] := by
  have sorted : (Value.object members).Sorted := value ▸ stands.sorted_value
  have leads : o.value.at? [.member m.1] = some m.2 := by
    rw [value, Value.at?, List.foldlM_cons]
    refine Option.bind_eq_some_iff.2 ⟨m.2, ?_, rfl⟩
    exact (Members.mem_iff_get? (Value.sorted_object_iff.1 sorted).1).1 mem
  exact subschema_visits stands visits leads

omit visits in
/-- Something that is done for the members of an object. -/
theorem members_visits {β : Type} {members : Members} (value : o.value = .object members)
    {f : String × Value → CompileM β} {g : (Occurrence → List Event) → String × Value → CompileM β}
    (step : ∀ m ∈ members, Visits o.place.entry
      (o.region (Turn.beyond [.member o.keyword.name, .member m.1])) (f m) (g · m)) :
    Visits o.place.entry (o.region (Turn.beyond [.member o.keyword.name])) (members.mapM f)
      fun marks => members.mapM (g marks) := by
  have sorted : (Value.object members).Sorted := value ▸ stands.sorted_value
  refine (Visits.mapM (fun m => o.region (Turn.beyond [.member o.keyword.name, .member m.1]))
    ((Value.sorted_object_iff.1 sorted).1.imp fun before => ?_) step).mono ?_
  · exact Value.region_apart (Turn.beyond_disjoint [_] fun same =>
      String.lt_irrefl _ (Turn.member.inj same ▸ before))
  · rintro o' ⟨m, -, mem⟩
    exact Value.region_mono (Turn.beyond_mono [_] [_]) mem

/-- The schemas that the value of a keyword is a list of. -/
theorem alternatives_visits :
    Visits o.place.entry (o.region (Turn.beyond [.member o.keyword.name]))
      (o.alternatives schema) fun marks => o.alternatives (watched marks) := by
  refine .lift_bind fun values shape => schemas_visits stands visits ?_
  have shape := Occurrence.expect_eq_ok shape
  cases value : o.value with
  | array items =>
    rw [value, Value.asArray?, Option.filter_some] at shape
    split at shape
    · cases shape
      rfl
    · cases shape
  | _ =>
    rw [value] at shape
    cases shape

/-- A dependency that a member of the value states. -/
theorem dependency_visits {members : Members} (value : o.value = .object members)
    {m : String × Value} (mem : m ∈ members) :
    Visits o.place.entry (o.region (Turn.beyond [.member o.keyword.name, .member m.1]))
      (o.dependency schema m.1 m.2) fun marks => o.dependency (watched marks) m.1 m.2 := by
  have part := member_visits stands visits value mem
  obtain ⟨property, inner⟩ := m
  cases inner with
  | array values =>
    unfold dependency
    dsimp only
    split
    · exact .of_still (.pure _)
    · exact .of_still (.throw _)
  | _ => exact part.bind_still fun node => .pure _

end Occurrence

open Occurrence

/-- A keyword that applies subschemas comes to what is inside the values that it compiles. -/
theorem Applicator.compile_visits {applicator : Applicator}
    (behavior : o.keyword.behavior = .builtin (.applies applicator))
    (named : applicator = .conditional → o.keyword.name = "if") :
    Visits o.place.entry (o.region o.keyword.insides) (applicator.compile schema o)
      fun marks => applicator.compile (watched marks) o := by
  have inside {name : String} (mem : name ∈ o.keyword.compiled) :
      o.region (Turn.beyond [.member name]) ⊆ o.region o.keyword.insides :=
    Value.region_mono fun turns beyond => ⟨name, mem, beyond⟩
  have own := schema_visits stands visits
  have value_ {members : Members} (shape : Shape.object.expect o.value.asObject? = .ok members) :
      o.value = .object members := by
    cases hv : o.value <;> rw [hv] at shape <;> cases shape
    rfl
  -- all but one of them compile their own value
  have single (same : o.keyword.compiled = [o.keyword.name]) {m : CompileM Check}
      {w : (Occurrence → List Event) → CompileM Check}
      (h : Visits o.place.entry (o.region (Turn.beyond [.member o.keyword.name])) m w) :
      Visits o.place.entry (o.region o.keyword.insides) m w :=
    h.mono (inside (by rw [same]; exact List.mem_cons_self))
  have compiled : applicator ≠ .conditional → o.keyword.compiled = [o.keyword.name] := by
    intro other
    rw [Keyword.compiled, behavior]
    cases applicator <;> first | rfl | exact absurd rfl other
  cases applicator with
  | properties =>
    refine single (compiled (by simp)) (.lift_bind fun members shape => ?_)
    have each := members_visits stands (value_ shape) fun m mem =>
      (member_visits stands visits (value_ shape) mem).bind_still fun node => .pure (m.1, node)
    exact each.bind_still fun schemas => .pure _
  | patternProperties =>
    refine single (compiled (by simp)) (.lift_bind fun members shape => .lift_bind fun patterns _ => ?_)
    have each := members_visits stands (value_ shape) fun m mem =>
      member_visits stands visits (value_ shape) mem
    exact each.bind_still fun schemas => .pure _
  | additionalProperties =>
    refine single (compiled (by simp)) (.lift_bind fun patterns _ => ?_)
    exact own.bind_still fun node => .pure _
  | dependencies =>
    refine single (compiled (by simp)) (.lift_bind fun members shape => ?_)
    have each := members_visits stands (value_ shape) fun m mem =>
      (dependency_visits stands visits (value_ shape) mem).bind_still fun d => .pure (m.1, d)
    exact each.bind_still fun schemas => .pure _
  | items =>
    refine single (compiled (by simp)) ?_
    cases value : o.value with
    | array values =>
      simp only [compile, value]
      exact (schemas_visits stands visits value).bind_still fun nodes => .pure _
    | _ =>
      simp only [compile, value]
      exact own.bind_still fun node => .pure _
  | additionalItems =>
    refine single (compiled (by simp)) ?_
    cases first : (o.siblings.get? "items").bind Value.asArray? with
    | some values =>
      simp only [compile, first]
      exact own.bind_still fun node => .pure _
    | none =>
      simp only [compile, first]
      exact .of_still (.pure _)
  | propertyNames | contains | not =>
    exact single (compiled (by simp)) (own.bind_still fun node => .pure _)
  | allOf | anyOf | oneOf =>
    exact single (compiled (by simp)) ((alternatives_visits stands visits).bind_still fun nodes => .pure _)
  | conditional =>
    have names : o.keyword.compiled = [o.keyword.name, "then", "else"] := by
      rw [Keyword.compiled, behavior]
    have other {name name' : String} (ne : name ≠ name') :
        Occurrence.Apart (o.region (Turn.beyond [.member name]))
          (o.region (Turn.beyond [.member name'])) :=
      Value.region_apart (Turn.beyond_disjoint [] fun same => ne (Turn.member.inj same))
    have yes := sibling_visits stands visits "then"
    have no := sibling_visits stands visits "else"
    have last (condition : Node) (yes? : Option Node) := no.bind_still (f := fun no? : Option Node =>
      (if yes?.isNone && no?.isNone then pure (.apply (.always true))
        else pure (.conditional condition yes? no?) : CompileM Check))
      fun no? => by split <;> exact .pure _
    have behind (condition : Node) := yes.bind (other (by decide)) (last condition)
    refine (own.bind ?_ behind).mono ?_
    · rw [named rfl]
      rintro o₁ mem₁ o₂ (mem₂ | mem₂)
      · exact other (by decide) o₁ mem₁ o₂ mem₂
      · exact other (by decide) o₁ mem₁ o₂ mem₂
    · rw [Set.union_subset_iff, Set.union_subset_iff]
      refine ⟨inside ?_, inside ?_, inside ?_⟩ <;> simp [names]

end Keywords

/-! ### Other keywords -/

/-- Whether a keyword compiles no schemas. -/
def Behavior.isFlat : Behavior → Bool
  | .informative | .validate _ _ | .async _ | .builtin (.asserts _) | .builtin .format => true
  | .extension (.remark _ _ _) | .extension .below | .extension (.refuse _) | .extension .format
  | .extension (.probe false) => true
  | _ => false

/-- A keyword compiles no schemas, or it is one of those that apply subschemas. -/
def Keyword.IsOrderly (keyword : Keyword) : Prop :=
  keyword.behavior.isFlat = true ∨ ∃ applicator, keyword.behavior = .builtin (.applies applicator) ∧
    (applicator = .conditional → keyword.name = "if")

namespace Compiler

open CompileM (Visits Still)

variable {compiler : Compiler} {schema : SchemaCompiler}
  {watched : (Occurrence → List Event) → SchemaCompiler} {o : Occurrence}

theorem refuseValue_still (compiler : Compiler) (o : Occurrence) : Still (compiler.refuseValue o) := by
  have checked (validator : Validator) : Still (do
      let verdict := validator.validate (← get).store.slots o.value
      Compilation.trace verdict.events
      unless verdict.violations.isEmpty do o.fail (.invalidValue verdict.violations)) := by
    refine .get_bind (fun _ _ => rfl) fun c => .bind (.trace _) fun _ => ?_
    split
    · exact .pure _
    · exact .throw _
  unfold refuseValue
  dsimp only
  split
  · refine .bind (.throw _) fun _ => ?_
    split
    · exact checked _
    · exact .pure _
  · split
    · exact checked _
    · exact .pure _

/-- A keyword that compiles no schemas leaves the store alone. -/
theorem check?_still (flat : o.keyword.behavior.isFlat = true) : Still (compiler.check? schema o) := by
  cases behavior : o.keyword.behavior with
  | informative | validate =>
    simp only [check?, behavior]
    exact .pure _
  | async test =>
    simp only [check?, behavior]
    refine .get_bind (fun _ _ => rfl) fun c => ?_
    split
    · exact .pure _
    · exact .throw _
  | expand => rw [behavior] at flat; cases flat
  | builtin meaning =>
    simp only [check?, behavior]
    refine .bind ?_ fun check => .pure _
    cases meaning with
    | applies => rw [behavior] at flat; cases flat
    | asserts kind =>
      show Still (Check.assertion <$> o.lift (kind.compile o.value))
      rw [map_eq_pure_bind]
      exact .bind (.lift o _) fun assertion => .pure _
    | format =>
      refine .bind (.lift o _) fun name => ?_
      split
      · exact .pure _
      · split
        · exact .throw _
        · exact .pure _
  | extension meaning =>
    simp only [check?, behavior]
    refine .bind ?_ fun check => .pure _
    rw [behavior] at flat
    cases meaning with
    | children | verdict | sibling => cases flat
    | remark | below => exact .pure _
    | refuse => exact .throw _
    | format =>
      simp only [Extension.compile]
      split <;> exact .pure _
    | probe preview =>
      cases preview with
      | true => cases flat
      | false => exact .bind (.pure none) fun _ => .bind (.trace _) fun _ => .pure _

/-- A keyword comes to what is inside the values that it compiles. -/
theorem rule?_visits (stands : o.Stands) (orderly : o.keyword.IsOrderly)
    (visits : SchemaCompiler.Visits schema watched) :
    Visits o.place.entry (o.region o.keyword.insides) (compiler.rule? schema o)
      fun marks => compiler.rule? (watched marks) o := by
  refine .still_bind (refuseValue_still compiler o) fun _ => ?_
  refine Visits.bind_still ?_ fun check? => .pure _
  rcases orderly with flat | ⟨applicator, behavior, named⟩
  · have same (marks : Occurrence → List Event) :
        compiler.check? (watched marks) o = compiler.check? schema o := by
      cases behavior : o.keyword.behavior with
      | informative | validate | async => simp only [check?, behavior]
      | expand => rw [behavior] at flat; cases flat
      | builtin meaning =>
        cases meaning with
        | applies => rw [behavior] at flat; cases flat
        | asserts | format => simp only [check?, behavior]; rfl
      | extension meaning =>
        rw [behavior] at flat
        simp only [check?, behavior]
        cases meaning with
        | children | verdict | sibling => cases flat
        | remark | below | refuse | format => rfl
        | probe preview =>
          cases preview with
          | true => cases flat
          | false => rfl
    simp only [same]
    exact .of_still (check?_still flat)
  · simp only [check?, behavior]
    exact (Applicator.compile_visits stands visits behavior named).bind_still fun check => .pure _

/-- What is said before and after every keyword. -/
def saying (marks : Occurrence → List Event) (o : Occurrence) : CompileM Unit :=
  Compilation.trace (marks o)

/-- A keyword is come to once before what is inside the values that it compiles. -/
theorem watchedRule_visits (stands : o.Stands) (orderly : o.keyword.IsOrderly)
    (visits : SchemaCompiler.Visits schema watched) :
    Visits o.place.entry (o.region o.keyword.territory) (compiler.rule? schema o)
      fun marks => compiler.watchedRule (saying marks) (watched marks) o := by
  have own : o ∈ o.region {[.member o.keyword.name]} := by
    refine ⟨_, rfl, ?_, rfl⟩
    rw [Value.at?, List.foldlM_cons]
    exact Option.bind_eq_some_iff.2 ⟨o.value, stands.found, rfl⟩
  have outside : Occurrence.Apart (o.region {[.member o.keyword.name]})
      (o.region o.keyword.insides) := by
    refine Value.region_apart ?_
    rintro _ rfl ⟨name, -, turn, more, same⟩
    cases same
  intro c rule? c' started sorted ran
  obtain ⟨continues, sorted', visits, added, once, inside, again⟩ :=
    rule?_visits stands orderly visits c rule? c' started sorted ran
  refine ⟨continues, sorted', o :: visits, added, ?_, ?_, fun marks events => ?_⟩
  · have first : ([o].map Occurrence.position).Nodup := List.nodup_singleton o.position
    refine Occurrence.nodup_append first once fun o₁ mem o' memO entry path => ?_
    obtain rfl := List.mem_singleton.1 mem
    rcases inside o' memO with ⟨-, at_⟩ | begins
    · exact outside o₁ own o' at_ path
    · exact begins.1 (entry ▸ started)
  · intro o' mem
    rcases List.mem_cons.1 mem with rfl | mem
    · exact .inl ⟨rfl, Value.region_mono (fun turns same => .inl same) own⟩
    · refine (inside o' mem).imp_left (And.imp_right fun in_ => ?_)
      exact Value.region_mono (fun turns within => .inr within) in_
  · obtain ⟨new, perm, run⟩ := again marks (events ++ marks o)
    refine ⟨marks o ++ (new ++ marks o), ?_, ?_⟩
    · rw [List.flatMap_cons, List.append_assoc]
      refine (List.Perm.append_left _ (List.perm_append_comm.trans (perm.append_left _))).trans ?_
      refine (List.Perm.append_left _ (List.perm_append_comm_assoc _ _ _)).trans ?_
      exact List.perm_append_comm_assoc _ _ _
    · have before : saying marks o (c.withEvents events) = .ok () (c.withEvents (events ++ marks o)) :=
        rfl
      have after : saying marks o (c'.withEvents (events ++ marks o ++ new)) =
          .ok () (c'.withEvents (events ++ marks o ++ new ++ marks o)) := rfl
      rw [watchedRule, CompileM.bind_ok before, CompileM.bind_ok run, CompileM.bind_ok after]
      simp only [List.append_assoc]
      rfl

end Compiler

/-! ## Schemas -/

/-- Keywords of a table have different names, and no two of them compile what is inside the same
    member of a schema. -/
structure VocabularyTable.IsParted (table : VocabularyTable) : Prop where
  distinct : (table.ordered.map (·.name)).Nodup
  orderly : ∀ keyword ∈ table.ordered, keyword.IsOrderly
  parted : ∀ keyword ∈ table.ordered, ∀ other ∈ table.ordered, keyword.name ≠ other.name →
    ∀ name ∈ keyword.compiled, name ∉ other.compiled

namespace Compiler

open CompileM (Visits Visited Still)

variable {compiler : Compiler} {schema : SchemaCompiler}
  {watched : (Occurrence → List Event) → SchemaCompiler}

theorem mem_occurrences {members : Members} {place : Place} {o : Occurrence}
    (mem : o ∈ compiler.occurrences members place) : ∃ keyword ∈ compiler.vocabulary.ordered, ∃ value,
      members.get? keyword.name = some value ∧ o = ⟨keyword, value, members, place⟩ := by
  obtain ⟨keyword, own, eq⟩ := List.mem_filterMap.1 mem
  split at eq
  · cases eq
  · obtain ⟨value, found, same⟩ := Option.map_eq_some_iff.1 eq
    exact ⟨keyword, own, value, found, same.symm⟩

/-- The keywords of a schema are apart from each other, with what is inside the values that they
    compile. -/
theorem occurrences_apart (parted : compiler.vocabulary.IsParted) (members : Members) (place : Place) :
    (compiler.occurrences members place).Pairwise fun o o' =>
      Occurrence.Apart (o.region o.keyword.territory) (o'.region o'.keyword.territory) := by
  have names : compiler.vocabulary.ordered.Pairwise fun k k' => k.name ≠ k'.name :=
    List.pairwise_map.1 parted.distinct
  refine List.Pairwise.filterMap _ (fun k k' ⟨mem, mem', other⟩ o eq o' eq' => ?_)
    (List.Pairwise.and_mem.1 names)
  split at eq
  · cases eq
  split at eq'
  · cases eq'
  obtain ⟨value, -, rfl⟩ := Option.map_eq_some_iff.1 eq
  obtain ⟨value', -, rfl⟩ := Option.map_eq_some_iff.1 eq'
  refine Value.region_apart ?_
  rintro turns (rfl | ⟨name, in_, turn, more, rfl⟩) (same | ⟨name', in_', turn', more', same⟩)
  · exact other (Turn.member.inj (List.cons.inj same).1)
  · cases (List.cons.inj same).2
  · cases (List.cons.inj same).2
  · have same : name = name' := Turn.member.inj (List.cons.inj same).1
    exact parted.parted k mem k' mem' other name in_ (same ▸ in_')

/-- The keywords of a schema are come to one after the other. -/
theorem rulesWith_visits (parted : compiler.vocabulary.IsParted)
    (visits : SchemaCompiler.Visits schema watched) {members : Members}
    (sorted : (Value.object members).Sorted) (place : Place) :
    Visits place.entry ((Value.object members).region place.schemaPath (Turn.beyond []))
      (compiler.rulesWith (compiler.rule? schema) members place) fun marks =>
        compiler.rulesWith (compiler.watchedRule (saying marks) (watched marks)) members place := by
  have unknown : Still (compiler.refuseUnknown members place) := by
    unfold refuseUnknown
    split
    · split
      · exact .throw _
      · exact .pure _
    · exact .pure _
  refine .still_bind unknown fun _ => Visits.bind_still ?_ fun rules => .pure _
  refine (Visits.mapM (fun o => o.region o.keyword.territory)
    (occurrences_apart parted members place) fun o mem => ?_).mono ?_
  · obtain ⟨keyword, own, value, found, rfl⟩ := mem_occurrences mem
    have stands : (Occurrence.mk keyword value members place).Stands := ⟨sorted, found⟩
    exact watchedRule_visits stands (parted.orderly keyword own) visits
  · rintro o' ⟨o, mem, turns, among, leads⟩
    obtain ⟨keyword, own, value, found, rfl⟩ := mem_occurrences mem
    refine ⟨turns, ?_, leads⟩
    rcases among with rfl | ⟨name, -, turn, more, rfl⟩
    · exact ⟨_, [], rfl⟩
    · exact ⟨_, turn :: more, rfl⟩

end Compiler

/-! ## References and entries -/

namespace Compiler

open CompileM (Visits Visited Still)

variable {compiler : Compiler} {schema : SchemaCompiler} {source : EntryId}
  {watched : (Occurrence → List Event) → SchemaCompiler}

/-- Following a reference keeps documents sorted, and does not look at the trace. -/
theorem resolve_quiet {base reference : String} {c c' : Compilation} {found : EntryId × String}
    (ran : resolve source base reference c = .ok found c') :
    (c.store.Sorted → c'.store.Sorted) ∧
      ∀ events, resolve source base reference (c.withEvents events) =
        .ok found (c'.withEvents events) := by
  have remembered {s : Store} (sorted : s.Sorted) (target : EntryId) :
      (s.modify source (·.remember (resolveUrl base reference) target)).Sorted :=
    sorted.modify source fun e => (congrArg Entry.document (e.remember_reset _ target) :)
  simp only [resolve_run, Compilation.withEvents] at ran ⊢
  split at ran
  · cases ran
    exact ⟨id, fun _ => rfl⟩
  · split at ran
    · cases ran
    · cases ran
      exact ⟨(remembered · _), fun _ => rfl⟩
    · next leads =>
      cases ran
      exact ⟨fun sorted => remembered (sorted.fragment leads) _, fun _ => rfl⟩

theorem resolve_visits (base reference : String) :
    Visits source ∅ (resolve source base reference) fun _ => resolve source base reference := by
  intro c found c' _ sorted ran
  have continues : c.store.Continues c'.store := by
    rcases resolve_looks source base reference c with ⟨-, run⟩ | ⟨target, d, run, looks⟩
    · cases run.symm.trans ran
    · cases run.symm.trans ran
      exact looks.continues
  obtain ⟨keeps, again⟩ := resolve_quiet ran
  refine ⟨continues, keeps sorted, [], [], List.nodup_nil, ?_, fun marks events => ⟨[], .refl _, ?_⟩⟩
  · exact fun o mem => absurd mem List.not_mem_nil
  · rw [List.append_nil]
    exact again events

/-- An entry that is begun comes to the keywords in its document. -/
theorem entry_visits (visits : SchemaCompiler.Visits schema watched) {id : EntryId} {underMeta : Bool}
    {c c' : Compilation} {a : Unit} (sorted : c.store.Sorted)
    (ran : entry schema id underMeta c = .ok a c') :
    Visited source ∅ (fun marks => entry (watched marks) id underMeta) c a c' := by
  rw [entry_run] at ran
  cases found : c.store.entry? id with
  | none =>
    rw [found] at ran
    cases ran
  | some e =>
    rw [found] at ran
    dsimp only at ran
    split at ran
    · next started =>
      cases ran
      refine ⟨.refl _, sorted, [], [], List.nodup_nil, ?_, fun marks events => ⟨[], .refl _, ?_⟩⟩
      · exact fun o mem => absurd mem List.not_mem_nil
      · rw [List.append_nil]
        exact entry_of_started found started
    · next idle =>
      have idle : e.progress.isStarted = false := Bool.eq_false_iff.2 idle
      cases run : schema e.document (e.place id underMeta) (begun c id) with
      | error error d =>
        rw [run] at ran
        cases ran
      | ok node d =>
        rw [run] at ran
        cases ran
        have first : c.store.Continues (begun c id).store := .modify _ id (fun _ => rfl) fun _ _ => rfl
        have last : d.store.Continues (finished d id node).store :=
          .modify _ id (fun _ => rfl) fun _ _ => rfl
        have begins : (begun c id).store.entry? id = some e.begin := by
          show Store.entry? (c.store.modify id Entry.begin) id = _
          rw [Store.entry?_modify_self, found]
          rfl
        obtain ⟨continues, sorted', visits, added, once, inside, again⟩ :=
          visits e.document (e.place id underMeta) (sorted id e found) _ _ _ ⟨_, begins, rfl⟩
            (sorted.modify id fun _ => rfl) run
        refine ⟨first.trans (continues.trans last), sorted'.modify id fun _ => rfl, visits, added, once,
          fun o mem => .inr ?_, fun marks events => ?_⟩
        · rcases inside o mem with ⟨own, at_⟩ | begins'
          · obtain ⟨e', found', document, started⟩ := continues.trans last id _ begins
            refine ⟨?_, e', own ▸ found', started rfl, document ▸ at_⟩
            rintro ⟨f, foundF, startedF⟩
            cases (own ▸ foundF).symm.trans found
            rw [idle] at startedF
            cases startedF
          · exact (begins'.earlier first).later last
        · obtain ⟨new, perm, run'⟩ := again marks events
          refine ⟨new, perm, ?_⟩
          have apart : begun (c.withEvents events) id = (begun c id).withEvents events := rfl
          rw [entry_of_idle (c := c.withEvents events) found idle, apart, run']
          rfl

/-- A reference comes to the keywords of the entry that it denotes. -/
theorem reference_visits (visits : SchemaCompiler.Visits schema watched) (value : Value)
    (place : Place) :
    Visits place.entry ∅ (reference (entry schema) value place)
      fun marks => reference (entry (watched marks)) value place := by
  have nothing {S : Set Occurrence} : Occurrence.Apart ∅ S := fun _ mem => mem.elim
  have arrives (found : EntryId × String) : Still (arrive place found) := by
    refine .get_bind (fun _ _ => rfl) fun c => ?_
    dsimp only
    split
    · exact .bind (.throw _) fun _ => .pure _
    · exact .pure _
  cases value with
  | string text =>
    simp only [reference_eq]
    refine (Visits.bind nothing (resolve_visits place.base text) fun found => ?_).mono
      (Set.empty_union ∅).subset
    have begins : Visits place.entry ∅ (entry schema found.1 place.underMeta) fun marks =>
        entry (watched marks) found.1 place.underMeta := fun _ _ _ _ => entry_visits visits
    exact begins.bind_still fun _ => arrives found
  | _ => exact .of_still (.throw _)

/-- A schema comes to the keywords in it. -/
theorem nodeWith_visits (parted : compiler.vocabulary.IsParted)
    (visits : SchemaCompiler.Visits schema watched) :
    SchemaCompiler.Visits
      (compiler.nodeWith (compiler.rulesWith (compiler.rule? schema)) (entry schema))
      fun marks => compiler.nodeWith
        (compiler.rulesWith (compiler.watchedRule (saying marks) (watched marks)))
        (entry (watched marks)) := by
  intro value outside sorted
  cases value with
  | bool verdict => exact .of_still (.pure _)
  | object members =>
    have inside : Still (baseInside members outside) := by
      unfold baseInside
      split
      · exact .pure _
      · split
        · exact .pure _
        · split
          · exact .pure _
          · exact .throw _
    refine .still_bind inside fun base => ?_
    let place : Place := { outside with base, applyId := true }
    have rules := rulesWith_visits parted visits sorted place
    dsimp only
    cases Members.get? members "$ref" with
    | none => exact rules.bind_still fun _ => .pure _
    | some text =>
      have nothing {S : Set Occurrence} : Occurrence.Apart ∅ S := fun _ mem => mem.elim
      refine (Visits.bind nothing (reference_visits visits text place) fun target => ?_).mono
        (Set.empty_union _).subset
      split
      · exact .of_still (.pure _)
      · split
        · exact .of_still (.bind (.throw _) fun _ => .pure _)
        · exact .of_still (.pure _)
      · exact rules.bind_still fun _ => .pure _
  | _ => exact .of_still (.throw _)

theorem schema_visits (parted : compiler.vocabulary.IsParted) (fuel : Nat) :
    SchemaCompiler.Visits (compiler.schema fuel) fun marks =>
      compiler.watchedSchema (saying marks) fuel := by
  induction fuel with
  | zero => exact fun value place _ => .of_still (.throw _)
  | succ fuel ih => exact nodeWith_visits parted ih

/-! ## Whole compilations -/

/-- A compilation that succeeds comes to keywords of the entries that it begins only, and to none of
    them twice: what is said before and after every keyword is said of each of these once. -/
theorem compile_visits (parted : compiler.vocabulary.IsParted) {s : Store} (sorted : s.Sorted)
    {id : EntryId} (ok : (compiler.compile id s).1 = .ok ()) :
    s.Continues (compiler.compile id s).2.1 ∧ Store.Sorted (compiler.compile id s).2.1 ∧
      ∃ visits : List Occurrence, (visits.map Occurrence.position).Nodup ∧
        (∀ o ∈ visits, s.Begins (compiler.compile id s).2.1 o) ∧
        ∀ marks : Occurrence → List Event, ∃ events,
          events.Perm ((compiler.compile id s).2.2 ++ visits.flatMap fun o => marks o ++ marks o) ∧
            compiler.watchedCompile (saying marks) id s =
              (.ok (), (compiler.compile id s).2.1, events) := by
  unfold compile at ok ⊢
  unfold watchedCompile
  unfold EStateM.run at ok ⊢
  have all := schema_visits parted (depthOf s)
  cases run : entry (compiler.schema (depthOf s)) id false { store := s } with
  | error e c =>
    rw [run] at ok
    cases ok
  | ok u c =>
    have came : Visited id ∅ (fun marks =>
        entry (compiler.watchedSchema (saying marks) (depthOf s)) id false) { store := s } u c :=
      entry_visits all sorted run
    obtain ⟨continues, sorted', visits, added, once, inside, again⟩ := came
    have quiet : saying (fun _ => []) = fun _ => pure () := by
      funext o c
      show EStateM.Result.ok () { c with events := c.events ++ [] } = .ok () c
      rw [List.append_nil]
    -- with nothing to say, the trace is what a compilation leaves anyway
    have same : added.Perm c.events := by
      obtain ⟨new, perm, run'⟩ := again (fun _ => []) []
      rw [quiet, watchedSchema_nothing] at run'
      have same := run.symm.trans run'
      have same : c = c.withEvents new := (EStateM.Result.ok.inj same).2
      have same : c.events = new := congrArg Compilation.events same
      have silent : visits.flatMap (fun _ => ([] : List Event) ++ []) = [] :=
        List.flatMap_eq_nil_iff.2 fun _ _ => rfl
      rw [silent, List.append_nil] at perm
      exact same ▸ perm.symm
    refine ⟨continues, sorted', visits, once, fun o mem => ?_, fun marks => ?_⟩
    · exact (inside o mem).resolve_left fun ⟨_, in_⟩ => in_
    · obtain ⟨new, perm, run'⟩ := again marks []
      refine ⟨new, perm.trans (same.append_right _), ?_⟩
      have run' :
          entry (compiler.watchedSchema (saying marks) (depthOf s)) id false { store := s } = _ := run'
      rw [run']
      rfl

end Compiler

end JsonSchema
