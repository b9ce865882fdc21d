import JsonSchema.Keyword.Draft07
import JsonSchema.Proofs.Compilation.Fragments
import JsonSchema.Proofs.Compilation.Parts
import JsonSchema.Proofs.Meaning.Draft07
import JsonSchema.Proofs.Url.Anchors

/-!
# References made inline

The index of a document notes every reference that is made where a keyword has subschemas. If
keywords compile nothing else, the references that are followed while a document is compiled are
among those that were noted.

* `VocabularyTable.Declares`: keywords compile no schemas but those that they declare.
* `Compiler.Inlines`: the schemas that are compiled together with a schema, each at its place.
* `Value.IsNoted`: the references in a schema are among those that were noted.
* `Compiler.entry_maintains`: the references that are followed from a document are noted.
-/

namespace JsonSchema

/-! ## Declared subschemas -/

/-- Whether a keyword compiles no schemas but those that its value is said to consist of. -/
def Keyword.isDeclared (keyword : Keyword) : Bool :=
  match keyword.behavior with
  | .builtin (.applies applicator) => keyword.nesting = applicator.nesting
  | .extension _ => false
  | .expand _ => false
  | _ => true

/-- Keywords compile no schemas but those that they declare. -/
structure VocabularyTable.Declares (table : VocabularyTable) : Prop where
  ordered : ∀ keyword ∈ table.ordered,
    table.nesting? keyword.name = some keyword.nesting ∧ keyword.isDeclared = true
  branches : ∀ name, name = "then" ∨ name = "else" → table.nesting? name = some .schema

/-- The keywords of draft-07 have their subschemas where their definitions say. -/
theorem VocabularyTable.nesting?_draft07 (overwrite : Bool) (name : String) :
    (draft07 overwrite).nesting? name =
      (Draft07.keywords.find? (·.name == name)).map (·.nesting) := by
  rw [nesting?, get?, keywords_draft07]

theorem VocabularyTable.declares_draft07 (overwrite : Bool) : (draft07 overwrite).Declares := by
  have all_ : (Draft07.keywords.all fun keyword => keyword.isDeclared &&
      decide ((Draft07.keywords.find? (·.name == keyword.name)).map (·.nesting) =
        some keyword.nesting)) = true := by decide
  refine ⟨fun keyword mem => ?_, ?_⟩
  · rw [ordered_draft07] at mem
    have own := List.all_eq_true.1 all_ keyword mem
    rw [Bool.and_eq_true, decide_eq_true_eq] at own
    rw [nesting?_draft07]
    exact ⟨own.2, own.1⟩
  · rintro name (rfl | rfl) <;>
    · rw [nesting?_draft07]
      rfl

variable {compiler : Compiler}

/-- A schema that a keyword compiles is one of those that the keyword declares, and it is compiled
    with the base inside the schema around. -/
theorem Occurrence.Applies.declared (declares : compiler.vocabulary.Declares) {members : Members}
    {place at_ : Place} {o : Occurrence} (occurs : o ∈ compiler.occurrences members place)
    {keyword : String} {inner : List String} {part : Value}
    (applies : o.Applies keyword inner part at_) :
    (∃ value kind, members.get? keyword = some value ∧
      compiler.vocabulary.nesting? keyword = some kind ∧ kind.Offers value inner part) ∧
    at_.base = place.base ∧ at_.applyId = true ∧ at_.entry = place.entry := by
  obtain ⟨own, mem, eq⟩ := List.mem_filterMap.1 occurs
  split at eq
  · cases eq
  · obtain ⟨value, found, rfl⟩ := Option.map_eq_some_iff.1 eq
    obtain ⟨nests, declared⟩ := declares.ordered own mem
    cases applies with
    | part behavior offers =>
      have behavior : own.behavior = _ := behavior
      rw [Keyword.isDeclared, behavior] at declared
      have same : own.nesting = _ := of_decide_eq_true declared
      exact ⟨⟨value, _, found, nests, same ▸ offers⟩, rfl, rfl, rfl⟩
    | branch behavior named there =>
      exact ⟨⟨part, _, there, declares.branches keyword named, .schema part⟩, rfl, rfl, rfl⟩
    | extended steps behavior =>
      have behavior : own.behavior = _ := behavior
      rw [Keyword.isDeclared, behavior] at declared
      cases declared
    | sibling behavior =>
      have behavior : own.behavior = _ := behavior
      rw [Keyword.isDeclared, behavior] at declared
      cases declared
    | expanded behavior =>
      have behavior : own.behavior = _ := behavior
      rw [Keyword.isDeclared, behavior] at declared
      cases declared

/-- The schemas that are compiled together with a schema at a place, each with the steps to it and
    with its own place. -/
inductive Compiler.Inlines (compiler : Compiler) :
    Value → Place → List String → Value → Place → Prop
  | here (schema : Value) (place : Place) : Inlines compiler schema place [] schema place
  | inside {members : Members} {outside at_ place : Place} {o : Occurrence} {keyword : String}
      {inner steps : List String} {part target : Value}
      (occurs : o ∈ compiler.occurrences members (outside.inner members))
      (applies : o.Applies keyword inner part at_)
      (leads : (keyword :: inner).foldlM Value.step? (.object members) = some part)
      (rest : Inlines compiler part at_ steps target place) :
      Inlines compiler (.object members) outside (keyword :: inner ++ steps) target place

/-! ## Noted references -/

/-- The references in a schema at a place are among those that were noted. -/
structure Value.IsNoted (table : VocabularyTable) (targets : List String) (schema : Value)
    (place : Place) : Prop where
  noted : ∃ pointer, ∀ target,
    .refersTo target ∈ schema.findings table place.base pointer (!place.applyId) → target ∈ targets
  /-- The identifier of a whole document is no anchor. -/
  whole : place.applyId = false → ∀ text, schema.member? "$id" = some (.string text) →
    text.startsWith "#" = false

/-- The base inside a schema is the same for the index and for the compiler. -/
theorem Members.enter_eq_inner {members : Members} {place : Place} {pointer : String}
    (whole : place.applyId = false → ∀ text, members.get? "$id" = some (.string text) →
      text.startsWith "#" = false) :
    (members.enter place.base pointer (!place.applyId)).1 = (place.inner members).base := by
  unfold enter Place.inner Compiler.innerBase
  cases own : members.get? "$id" with
  | none => rfl
  | some value =>
    cases value with
    | string text =>
      cases applies : place.applyId with
      | true => rfl
      | false =>
        dsimp only
        rw [whole applies text own]
        rfl
    | _ => rfl

namespace Value.IsNoted

variable {table : VocabularyTable} {targets : List String} {members : Members} {place : Place}

theorem inside (noted : (object members).IsNoted table targets place) (pointer : String) :
    (members.enter place.base pointer (!place.applyId)).1 = (place.inner members).base :=
  Members.enter_eq_inner noted.whole

/-- The reference of a schema is among those that were noted. -/
theorem reference (noted : (object members).IsNoted table targets place) {text : String}
    (refers : members.get? "$ref" = some (.string text)) :
    resolveUrl (place.inner members).base text ∈ targets := by
  obtain ⟨pointer, within⟩ := noted.noted
  refine within _ ?_
  rw [findings, noted.inside]
  refine List.mem_append_left _ (List.mem_append_right _ ?_)
  rw [Members.referenceFinding, refers]
  exact List.mem_singleton.2 rfl

/-- The references in the parts of a schema are among those that were noted. -/
theorem part (noted : (object members).IsNoted compiler.vocabulary targets place)
    (declares : compiler.vocabulary.Declares) {o : Occurrence}
    (occurs : o ∈ compiler.occurrences members (place.inner members)) {keyword : String}
    {inner : List String} {part : Value} {at_ : Place}
    (applies : o.Applies keyword inner part at_) :
    part.IsNoted compiler.vocabulary targets at_ := by
  obtain ⟨⟨value, kind, found, nests, offers⟩, base, applied, -⟩ := applies.declared declares occurs
  refine ⟨?_, fun unapplied => ?_⟩
  · obtain ⟨pointer, within⟩ := noted.noted
    refine ⟨inner.foldl Pointer.child (Pointer.child pointer keyword), fun target mem => ?_⟩
    refine within _ ?_
    rw [findings, noted.inside]
    rw [base, applied] at mem
    exact List.mem_append_right _
      (offers.mem_keywordFindings (Members.mem_of_get? found) nests mem)
  · rw [applied] at unapplied
    cases unapplied

/-- The references in the schemas that are compiled together with a schema are among those that
    were noted. -/
theorem inlines {schema target : Value} {place at_ : Place} {steps : List String}
    (noted : schema.IsNoted compiler.vocabulary targets place)
    (declares : compiler.vocabulary.Declares)
    (inlined : compiler.Inlines schema place steps target at_) :
    target.IsNoted compiler.vocabulary targets at_ := by
  induction inlined with
  | here => exact noted
  | inside occurs applies leads rest ih => exact ih (noted.part declares occurs applies)

end Value.IsNoted

/-- The references that are found in a document are noted. -/
theorem LocalIndex.mem_refTargets_of_foldlM {rootId target : String} {found : List Finding}
    {index index' : LocalIndex} (noted : found.foldlM (note rootId) index = .ok index')
    (mem : .refersTo target ∈ found ∨ target ∈ index.refTargets) : target ∈ index'.refTargets := by
  induction found generalizing index with
  | nil =>
    cases noted
    exact mem.resolve_left List.not_mem_nil
  | cons f rest ih =>
    rw [List.foldlM_cons] at noted
    cases first : note rootId index f with
    | error e =>
      rw [first] at noted
      cases noted
    | ok next =>
      rw [first] at noted
      refine ih noted ?_
      cases f with
      | declares id pointer =>
        rw [note] at first
        split at first
        · cases first
        · cases first
          refine mem.imp_left fun mem => ?_
          rcases List.mem_cons.1 mem with same | mem
          · cases same
          · exact mem
      | refersTo own =>
        rw [note] at first
        split at first
        · rename_i known
          cases first
          refine mem.elim (fun mem => ?_) .inr
          rcases List.mem_cons.1 mem with same | mem
          · cases same
            exact .inr (List.contains_iff_mem.1 known)
          · exact .inl mem
        · cases first
          refine mem.elim (fun mem => ?_) fun old => .inr (List.mem_append_left _ old)
          rcases List.mem_cons.1 mem with same | mem
          · cases same
            exact .inr (List.mem_append_right _ (List.mem_singleton.2 rfl))
          · exact .inl mem
      | malformed => cases first

/-! ## Runs -/

/-- A compilation ends in some state, whether it succeeds or fails. -/
def CompileM.Ends {α : Type} (m : CompileM α) (c c' : Compilation) : Prop :=
  (∃ a, m c = .ok a c') ∨ ∃ e, m c = .error e c'

/-- A compilation keeps what holds of the state. -/
def CompileM.Maintains (I : Compilation → Prop) {α : Type} (m : CompileM α) : Prop :=
  ∀ c c', I c → m.Ends c c' → I c'

namespace CompileM.Maintains

variable {I : Compilation → Prop} {α β : Type}

theorem pure (a : α) : Maintains I (Pure.pure a) := by
  rintro c c' good (⟨a, ran⟩ | ⟨e, ran⟩) <;> cases ran
  exact good

theorem throw (e : SchemaError) : Maintains I (MonadExcept.throw e : CompileM α) := by
  rintro c c' good (⟨a, ran⟩ | ⟨e, ran⟩) <;> cases ran
  exact good

theorem get : Maintains I MonadState.get := by
  rintro c c' good (⟨a, ran⟩ | ⟨e, ran⟩) <;> cases ran
  exact good

theorem modify {change : Compilation → Compilation} (step : ∀ c, I c → I (change c)) :
    Maintains I (modify change) := by
  rintro c c' good (⟨a, ran⟩ | ⟨e, ran⟩) <;> cases ran
  exact step c good

/-- What comes behind a look at the state may use what holds of the state. -/
theorem get_bind {f : Compilation → CompileM β}
    (step : ∀ c c', I c → (f c).Ends c c' → I c') : Maintains I (MonadState.get >>= f) :=
  fun c c' good ends => step c c' good ends

theorem bind {m : CompileM α} {f : α → CompileM β} (first : Maintains I m)
    (second : ∀ a, Maintains I (f a)) : Maintains I (m >>= f) := by
  intro c c' good ends
  change Ends (EStateM.bind m f) c c' at ends
  unfold Ends EStateM.bind at ends
  cases ran : m c with
  | ok a c₁ =>
    rw [ran] at ends
    exact second a c₁ c' (first c c₁ good (.inl ⟨a, ran⟩)) ends
  | error e c₁ =>
    rw [ran] at ends
    have good₁ := first c c₁ good (.inr ⟨e, ran⟩)
    obtain ⟨b, done⟩ | ⟨e', failed⟩ := ends
    · cases done
    · cases failed
      exact good₁

/-- What does not depend on the trace is kept when steps are put together. -/
theorem congruent (untraced : ∀ (c : Compilation) (more : List Event), I c →
    I { c with events := c.events ++ more }) :
    Congruent fun _ m _ => Maintains I m where
  pure := pure
  throw _ := throw _
  get := get
  trace more := modify fun c good => untraced c more good
  bind := bind

end CompileM.Maintains

open CompileM (Maintains)

/-- An entry is still there, with the same document, and only noted references were followed from
    it. -/
def Compilation.Follows (id : EntryId) (d : Entry) (targets : List String) (c : Compilation) :
    Prop :=
  ∃ e, c.store.entry? id = some e ∧ e.document = d.document ∧ e.id = d.id ∧ e.pointer = d.pointer ∧
    ∀ ref ∈ e.refs, ref.1 ∈ targets

namespace Compilation.Follows

variable {id : EntryId} {d : Entry} {targets : List String} {c : Compilation}

/-- An entry changes by a step of a compilation. -/
theorem modify (follows : c.Follows id d targets) {j : EntryId} {change : Entry → Entry}
    (keep : ∀ e, (change e).reset = e.reset)
    (refs : ∀ e, (j = id → ∀ ref ∈ e.refs, ref.1 ∈ targets) →
      j = id → ∀ ref ∈ (change e).refs, ref.1 ∈ targets) :
    Compilation.Follows id d targets { c with store := c.store.modify j change } := by
  obtain ⟨e, found, document, own, pointer, noted⟩ := follows
  by_cases same : j = id
  · subst same
    have kept := keep e
    refine ⟨change e, ?_, ?_, ?_, ?_, refs e (fun _ => noted) rfl⟩
    · show Store.entry? (c.store.modify j change) j = _
      rw [Store.entry?_modify_self, found]
      rfl
    · exact (congrArg Entry.document kept).trans document
    · exact (congrArg Entry.id kept).trans own
    · exact (congrArg Entry.pointer kept).trans pointer
  · refine ⟨e, ?_, document, own, pointer, noted⟩
    exact (Store.entry?_modify_of_ne (Ne.symm same) change).trans found

theorem fragment (follows : c.Follows id d targets) (root : EntryId) (base pointer : String)
    (part : Value) (created : List EntryId) :
    Compilation.Follows id d targets
      { c with store := (c.store.fragment root base pointer part).2.2, created } := by
  obtain ⟨e, found, rest⟩ := follows
  have kept (make : EntryId → Entry) : Store.entry? (c.store.insert make).2 id = some e := by
    rw [Store.entry?_insert, if_neg, found]
    rintro rfl
    rw [Store.entry?_next] at found
    cases found
  refine ⟨e, ?_, rest⟩
  unfold Store.fragment
  split
  · exact found
  · exact kept fun _ =>
      { id := base, document := part, isMeta := ((c.store.entry? root).map (·.isMeta)).getD false
        root := root, pointer := pointer }

end Compilation.Follows

namespace Compiler

variable {id : EntryId} {d : Entry} {targets : List String}

/-- Following a reference keeps what was noted, if the reference was noted. -/
theorem resolve_maintains {source : EntryId} {base text : String}
    (noted : source = id → resolveUrl base text ∈ targets) :
    Maintains (Compilation.Follows id d targets) (resolve source base text) := by
  have remember : ∀ target : EntryId, Maintains (Compilation.Follows id d targets) (do
      modify fun c =>
        { c with store := c.store.modify source (·.remember (resolveUrl base text) target) }
      return (target, resolveUrl base text) : CompileM (EntryId × String)) := by
    refine fun target => .bind (.modify fun c follows => ?_) fun _ => .pure _
    refine follows.modify (fun e => e.remember_reset _ _) fun e old same ref mem => ?_
    rw [Entry.remember] at mem
    split at mem
    · rename_i refs pending
      have old := old same
      rw [Entry.refs, pending] at old
      rcases Bindings.mem_bind mem with rfl | known
      · exact noted same
      · exact old ref known
    · exact old same ref mem
  refine .get_bind fun c c' follows => ?_
  dsimp only
  split
  · exact fun ends => Maintains.pure _ c c' follows ends
  · split
    · exact fun ends => remember _ c c' follows ends
    · exact fun ends => remember _ _ c' (follows.fragment _ _ _ _ _) ends
    · exact fun ends => Maintains.bind (.throw _) (fun _ => remember _) c c' follows ends

theorem reference_maintains {begin : EntryId → Bool → CompileM Unit}
    (begins : ∀ j underMeta, Maintains (Compilation.Follows id d targets) (begin j underMeta))
    {value : Value} {place : Place}
    (noted : place.entry = id → ∀ text, value = .string text →
      resolveUrl place.base text ∈ targets) :
    Maintains (Compilation.Follows id d targets) (reference begin value place) := by
  unfold reference
  cases value with
  | string text =>
    refine .bind (resolve_maintains fun own => noted own text rfl) fun found => ?_
    refine .bind (begins _ _) fun _ => .bind .get fun c => ?_
    dsimp only
    split
    · exact .bind (.throw _) fun _ => .pure _
    · exact .pure _
  | _ => exact .throw _

/-- A function compiles schemas and follows only noted references from an entry. -/
def MaintainsTo (schema : SchemaCompiler) (table : VocabularyTable)
    (id : EntryId) (d : Entry) (targets : List String) : Prop :=
  ∀ value place, (place.entry = id → value.IsNoted table targets place) →
    Maintains (Compilation.Follows id d targets) (schema value place)

theorem entry_maintains {schema : SchemaCompiler} {table : VocabularyTable}
    (schemas : MaintainsTo schema table id d targets)
    (document : ∀ place, place.base = d.id → place.applyId = d.isFragment →
      d.document.IsNoted table targets place) (j : EntryId) (underMeta : Bool) :
    Maintains (Compilation.Follows id d targets) (entry schema j underMeta) := by
  refine .get_bind fun c c' follows => ?_
  cases found : c.store.entry? j with
  | none => exact fun ends => Maintains.throw _ c c' follows ends
  | some e =>
    dsimp only
    split
    · exact fun ends => Maintains.pure _ c c' follows ends
    · have begin : Maintains (Compilation.Follows id d targets) (modify fun c =>
          { c with store := c.store.modify j Entry.begin, started := j :: c.started }) := by
        refine .modify fun c follows => ?_
        exact follows.modify (fun e => e.begin_reset) fun e old same ref mem => by cases mem
      have own : j = id → e.document.IsNoted table targets
          { entry := j, base := e.id, schemaPath := "#", applyId := e.isFragment,
            underMeta := underMeta || e.isMeta } := by
        rintro rfl
        obtain ⟨e', found', same, base, pointer, -⟩ := follows
        cases found.symm.trans found'
        rw [same]
        refine document _ base ?_
        show (!e.pointer.isEmpty) = !d.pointer.isEmpty
        rw [pointer]
      refine fun ends => Maintains.bind begin (fun _ => ?_) c c' follows ends
      refine .bind (schemas _ _ own) fun compiled => .modify fun c follows => ?_
      exact follows.modify (fun e => e.finish_reset compiled) fun e old same => old same

theorem node_maintains {schema : SchemaCompiler} {begin : EntryId → Bool → CompileM Unit}
    (declares : compiler.vocabulary.Declares)
    (schemas : MaintainsTo schema compiler.vocabulary id d targets)
    (begins : ∀ j underMeta, Maintains (Compilation.Follows id d targets) (begin j underMeta))
    {value : Value} {place : Place}
    (noted : place.entry = id → value.IsNoted compiler.vocabulary targets place) :
    Maintains (Compilation.Follows id d targets) (compiler.node schema begin value place) := by
  refine node_of_parts compiler (Maintains.congruent fun _ _ follows => follows) ?_ ?_
  · rintro members rfl o occurs keyword inner part at_ applies
    refine schemas _ _ fun own => ?_
    have inside := (applies.declared declares occurs).2.2.2
    exact (noted (inside.symm.trans own)).part declares occurs applies
  · rintro members text rfl refers
    refine reference_maintains begins ?_
    rintro own text rfl
    exact (noted own).reference refers

theorem schema_maintains (declares : compiler.vocabulary.Declares)
    (document : ∀ place, place.base = d.id → place.applyId = d.isFragment →
      d.document.IsNoted compiler.vocabulary targets place) (fuel : Nat) :
    MaintainsTo (compiler.schema fuel) compiler.vocabulary id d targets := by
  induction fuel with
  | zero => exact fun value place noted => .throw _
  | succ fuel ih =>
    exact fun value place noted => node_maintains declares ih (entry_maintains ih document) noted

end Compiler

end JsonSchema
