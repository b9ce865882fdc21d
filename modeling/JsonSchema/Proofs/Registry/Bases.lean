import JsonSchema.Proofs.Compilation.Inline
import JsonSchema.Registry.Basic

/-!
# The base of a reference

The base of a reference is kept track of three times: when a document is indexed, when a schema is
compiled, and when a pointer is followed to a part of a document. The three agree, as long as no
anchor stands where the document part of the base would read differently.

* `Value.Position.sameBase`: the base of a schema that is compiled inline is that of the index.
* `Value.Passable`: what a pointer may pass on its way.
* `Value.Position.follow?`: the base at the end of a pointer is that of the index.
* `Value.Position.reference_agrees`: so a reference is resolved to the same text everywhere, and
  what is followed from a document was noted when it was indexed.
* `Value.Position.reference_differs`: an anchor may come between.
-/

namespace JsonSchema

/-! ## Bases -/

namespace SameBase

variable {base base' : String}

theorem refl (base : String) : SameBase base base := fun _ => rfl

theorem symm (same : SameBase base base') : SameBase base' base :=
  fun reference => (same reference).symm

theorem trans {base'' : String} (same : SameBase base base') (same' : SameBase base' base'') :
    SameBase base base'' := fun reference => (same reference).trans (same' reference)

/-- Bases that are the same around a schema are the same inside. -/
theorem inside {place : Place} {isRoot : Bool} {members : Members} (same : SameBase place.base base)
    (applied : place.applyId = !isRoot)
    (whole : isRoot = true → ∀ text, members.get? "$id" = some (.string text) →
      text.startsWith "#" = false) :
    SameBase (place.inner members).base (members.enter base "" isRoot).1 := by
  have here : { place with base }.applyId = !isRoot := applied
  have agree : (members.enter base "" isRoot).1 = ({ place with base }.inner members).base := by
    have entered : (members.enter base "" (!{ place with base }.applyId)).1 =
        ({ place with base }.inner members).base := Members.enter_eq_inner fun unapplied => by
      refine whole ?_
      rw [here] at unapplied
      simpa using unapplied
    rw [← entered, here, Bool.not_not]
  rw [agree]
  unfold Place.inner Compiler.innerBase
  dsimp only
  split
  · rw [same]
    exact refl _
  · exact same

end SameBase

/-! ## Schemas that are compiled inline -/

/-- Two ways to a schema in the value of a keyword have the same length. -/
theorem Nesting.Offers.length_eq {kind : Nesting} {value part part' : Value}
    {inner inner' : List String} (offers : kind.Offers value inner part)
    (offers' : kind.Offers value inner' part') : inner.length = inner'.length := by
  cases offers with
  | schema =>
    cases offers' with
    | schema => rfl
    | item listed => rcases listed with h | h <;> cases h
  | single alone =>
    cases offers' with
    | single => rfl
    | item => exact absurd rfl (alone _)
  | item listed =>
    cases offers' with
    | schema => rcases listed with h | h <;> cases h
    | single alone => exact absurd rfl (alone _)
    | item => rfl
  | member =>
    cases offers' with
    | member => rfl

/-- A schema that is compiled inline is the one at its position, and has the base that the index
    gives it. -/
theorem Value.Position.sameBase {compiler : Compiler} (declares : compiler.vocabulary.Declares)
    {schema target target' : Value} {base around : String} {isRoot whole : Bool}
    {steps : List String} {outside place : Place}
    (position : schema.Position compiler.vocabulary base isRoot steps target around whole)
    (inlined : compiler.Inlines schema outside steps target' place)
    (same : SameBase outside.base base) (applied : outside.applyId = !isRoot)
    (plain : isRoot = true → ∀ text, schema.member? "$id" = some (.string text) →
      text.startsWith "#" = false) :
    SameBase place.base around ∧ place.applyId = !whole := by
  induction position generalizing outside with
  | here =>
    cases inlined with
    | here => exact ⟨same, applied⟩
  | @inside members base keyword isRoot value kind inner part steps target around whole found nests
      holds rest ih =>
    generalize all_ : keyword :: inner ++ steps = all at inlined
    cases inlined with
    | here => cases all_
    | @inside _ _ at_ _ o keyword' inner' steps' part' _ occurs applies leads rest' =>
      obtain ⟨rfl, tail⟩ := List.cons.inj all_
      obtain ⟨⟨value', kind', found', nests', offers⟩, base_, applied', -⟩ :=
        applies.declared declares occurs
      cases found.symm.trans found'
      cases nests.symm.trans nests'
      obtain ⟨rfl, rfl⟩ := List.append_inj tail (holds.offers.length_eq offers)
      have follows : (keyword :: inner).foldlM Value.step? (object members) = some part := by
        rw [List.foldlM_cons, step?, found]
        exact holds.follows
      cases follows.symm.trans leads
      refine ih rest' ?_ applied' fun root => absurd root Bool.false_ne_true
      rw [base_]
      exact same.inside applied plain

/-- A schema inside a schema is one inside the schemas around. -/
theorem Value.Position.append {table : VocabularyTable} {schema cut target : Value}
    {base at_ around : String} {isRoot passing whole : Bool} {above below : List String}
    (first : schema.Position table base isRoot above cut at_ passing)
    (rest : cut.Position table at_ passing below target around whole) :
    schema.Position table base isRoot (above ++ below) target around whole := by
  induction first with
  | here => exact rest
  | inside found nests holds _ ih =>
    rw [List.append_assoc]
    exact .inside found nests holds (ih rest)

/-- Nothing but a whole document is one. -/
theorem Value.Position.not_whole {table : VocabularyTable} {schema target : Value}
    {base around : String} {steps : List String} {whole : Bool}
    (position : schema.Position table base false steps target around whole) : whole = false := by
  generalize start : false = isRoot at position
  induction position with
  | here => rfl
  | inside found nests holds rest ih => exact (ih rfl).trans start

/-- The way to a schema goes on from each schema on it. -/
theorem Value.Position.split {table : VocabularyTable} {schema cut target : Value}
    {base at_ around : String} {isRoot passing whole : Bool} {above below : List String}
    (first : schema.Position table base isRoot above cut at_ passing)
    (all_ : schema.Position table base isRoot (above ++ below) target around whole) :
    cut.Position table at_ passing below target around whole := by
  induction first with
  | here => exact all_
  | @inside members base keyword isRoot value kind inner part above cut at_ passing found nests
      holds rest ih =>
    generalize same : keyword :: inner ++ above ++ below = steps at all_
    cases all_ with
    | here => cases same
    | @inside _ _ _ _ _ _ inner' _ steps' _ _ _ found' nests' holds' rest' =>
      obtain ⟨rfl, tail⟩ := List.cons.inj same
      have tail : inner ++ above ++ below = inner' ++ steps' := tail
      cases found.symm.trans found'
      cases nests.symm.trans nests'
      rw [List.append_assoc] at tail
      obtain ⟨rfl, rfl⟩ := List.append_inj tail (holds.offers.length_eq holds'.offers)
      cases holds.follows.symm.trans holds'.follows
      exact ih rest'

/-! ## Schemas at the end of a pointer -/

/-- A value that a map of schemas may have as a member: a schema, or a list of names. -/
def Value.IsPart : Value → Prop
  | .bool _ | .array _ | .object _ => True
  | _ => False

/-- The maps of schemas on the way to a place have no members but schemas and lists. -/
def Value.MapsParts (table : VocabularyTable) (schema : Value) (base : String) (isRoot : Bool)
    (steps : List String) : Prop :=
  ∀ (above below : List String) (keyword : String) (members parts : Members) (around : String)
    (whole : Bool), steps = above ++ keyword :: below →
    schema.Position table base isRoot above (.object members) around whole →
    table.nesting? keyword = some .map → members.get? keyword = some (.object parts) →
    ∀ part ∈ parts, part.2.IsPart

/-- What a pointer may pass on its way from a schema, with the base around the schema: no maps with
    other members, and no anchors where the base is not settled. -/
structure Value.Passable (table : VocabularyTable) (schema : Value) (base : String) (isRoot : Bool)
    (steps : List String) : Prop where
  maps : schema.MapsParts table base isRoot steps
  anchors : ∀ (above below : List String) (members : Members) (around : String) (whole : Bool)
    (text : String), steps = above ++ below → below ≠ [] →
    schema.Position table base isRoot above (.object members) around whole →
    members.get? "$id" = some (.string text) → text.startsWith "#" = true → IsSettled around

variable {table : VocabularyTable}

/-- What may be passed from a schema may be passed from its parts. -/
theorem Value.Passable.rest {members : Members} {base keyword : String} {isRoot : Bool}
    {value part : Value} {kind : Nesting} {inner steps : List String}
    (passable : (object members).Passable table base isRoot (keyword :: inner ++ steps))
    (found : members.get? keyword = some value) (nests : table.nesting? keyword = some kind)
    (holds : kind.Holds value inner part) :
    part.Passable table (members.enter base "" isRoot).1 false steps where
  maps above below keyword' members' parts around whole split position :=
    passable.maps (keyword :: inner ++ above) below keyword' members' parts around whole
      (by rw [split, List.append_assoc]) (.inside found nests holds position)
  anchors above below members' around whole text split more position :=
    passable.anchors (keyword :: inner ++ above) below members' around whole text
      (by rw [split, List.append_assoc]) more (.inside found nests holds position)

namespace Value

theorem follow?_cons {value : Value} {base step : String} {steps : List String} (more : steps ≠ []) :
    value.follow? base (step :: steps) =
      (value.step? step).bind fun part => part.follow? (part.baseOf base) steps := by
  cases steps with
  | nil => exact absurd rfl more
  | cons => rw [follow?]; simp

/-- The members of a map of schemas do not change the base. -/
theorem baseOf_map {parts : Members} (plain : ∀ part ∈ parts, part.2.IsPart) (base : String) :
    (object parts).baseOf base = base := by
  unfold baseOf
  split
  · rename_i text found
    exact (plain _ (Members.mem_of_get? found)).elim
  · rfl

/-- The base does not change between a keyword and the subschemas in its value. -/
theorem follow?_keyword {members : Members} {keyword : String} {value part : Value}
    {kind : Nesting} {inner : List String} (found : members.get? keyword = some value)
    (holds : kind.Holds value inner part)
    (plain : ∀ parts, kind = .map → value = .object parts → ∀ part ∈ parts, part.2.IsPart)
    (base : String) :
    (object members).follow? base (keyword :: inner) = some (part, base) ∧
      ∀ steps, steps ≠ [] → (object members).follow? base (keyword :: inner ++ steps) =
        part.follow? (part.baseOf base) steps := by
  have first : (object members).step? keyword = some value := found
  have single {items : Value} {step : String} (unchanged : items.baseOf base = base)
      (second : items.step? step = some part) (there : value = items) :
      (object members).follow? base [keyword, step] = some (part, base) ∧
        ∀ steps, steps ≠ [] → (object members).follow? base (keyword :: [step] ++ steps) =
          part.follow? (part.baseOf base) steps := by
    subst there
    refine ⟨?_, fun steps more => ?_⟩
    · rw [follow?_cons (List.cons_ne_nil _ _), first, Option.bind_some, unchanged, follow?, second]
      rfl
    · rw [List.cons_append, follow?_cons (by simp), first, Option.bind_some, unchanged,
        List.singleton_append, follow?_cons more, second, Option.bind_some]
  cases holds with
  | schema | single =>
    refine ⟨?_, fun steps more => ?_⟩
    · rw [follow?, first]
      rfl
    · rw [List.singleton_append, follow?_cons more, first, Option.bind_some]
  | item listed there small =>
    refine single rfl ?_ rfl
    rw [step?, Pointer.index?_toString small]
    exact there
  | member there => exact single (baseOf_map (plain _ rfl rfl) base) there rfl

/-- A pointer to a schema leads there with the base that the index gives it. -/
theorem Position.follow? {schema target : Value} {base around inside : String} {isRoot whole : Bool}
    {steps : List String} (position : schema.Position table base isRoot steps target around whole)
    (passable : schema.Passable table base isRoot steps) (more : steps ≠ [])
    (same : ∀ members : Members, schema = .object members →
      SameBase inside (members.enter base "" isRoot).1) :
    ∃ base', schema.follow? inside steps = some (target, base') ∧ SameBase base' around := by
  induction position generalizing inside with
  | here => exact absurd rfl more
  | @inside members base keyword isRoot value kind inner part steps target around whole found nests
      holds rest ih =>
    have same := same members rfl
    obtain ⟨last, passing⟩ := follow?_keyword found holds
      (fun parts map there => passable.maps [] _ keyword members parts base isRoot rfl
        (.here _ _ _) (map ▸ nests) (there ▸ found)) inside
    by_cases end_ : steps = []
    · subst end_
      cases rest with
      | here =>
        rw [List.append_nil]
        exact ⟨inside, last, same⟩
    · rw [passing steps end_]
      refine ih (passable.rest found nests holds) end_ ?_
      rintro members' rfl
      have member : (object members').member? "$id" = Members.get? members' "$id" := rfl
      rw [baseOf, member, Members.enter]
      cases own : Members.get? members' "$id" with
      | none => exact same
      | some value' =>
        cases value' with
        | string text =>
          dsimp only
          rw [Bool.false_and, if_neg Bool.false_ne_true]
          split
          · -- the index takes the anchor for a new base, the pointer passes it
            rename_i anchor
            have passed : Position table (object members) base isRoot (keyword :: inner ++ [])
                (object members') _ false := .inside found nests holds (.here _ _ _)
            rw [List.append_nil] at passed
            have settled := passable.anchors (keyword :: inner) steps members' _ false text rfl end_
              passed own anchor
            rw [resolveUrl_anchor settled anchor]
            exact same.trans settled.sameBase.symm
          · rw [same]
            exact .refl _
        | _ => exact same

end Value

/-! ## References -/

/-- The absolute form of the reference of a schema that is compiled at a place. -/
def Place.absolute (place : Place) (members : Members) (text : String) : String :=
  resolveUrl (place.inner members).base text

/-- The identifier of a document that is indexed is no anchor. -/
theorem LocalIndex.not_anchor {document : Value} {id text : String} {index : LocalIndex}
    (identified : document.schemaId = .ok id) (indexed : ofDocument table document id = .ok index)
    (own : document.member? "$id" = some (.string text)) : text.startsWith "#" = false := by
  cases document with
  | object members =>
    have own : Members.get? members "$id" = some (.string text) := own
    have normal : normalizeId text = id := by
      simp only [Value.schemaId, own, Except.ok.injEq] at identified
      exact identified
    rw [Bool.eq_false_iff]
    intro anchor
    -- the anchor would be declared inside the document that it names
    suffices declared : .declares id "" ∈ Value.findings table (.object members) id "" true from
      ne_of_foldlM indexed declared rfl
    rw [Value.findings]
    refine List.mem_append_left _ (List.mem_append_left _ ?_)
    rw [Members.enter, own]
    dsimp only
    rw [anchor, Bool.not_true, Bool.and_false, if_neg Bool.false_ne_true]
    rw [← normal, resolveUrl_own anchor]
    exact List.mem_singleton.2 rfl
  | _ => cases own

/-- The base inside a document is its identifier. -/
theorem Members.enter_root {members : Members} {base pointer : String}
    (plain : ∀ text, members.get? "$id" = some (.string text) → text.startsWith "#" = false) :
    (members.enter base pointer true).1 = base := by
  unfold enter
  split
  · rfl
  · rename_i text own
    rw [plain text own]
    rfl
  · rfl

/-- The references in a document that is indexed are noted. -/
theorem LocalIndex.isNoted {document : Value} {id : String} {index : LocalIndex}
    (identified : document.schemaId = .ok id) (indexed : ofDocument table document id = .ok index)
    {place : Place} (base : place.base = id) (applied : place.applyId = false) :
    document.IsNoted table index.refTargets place where
  noted := by
    rw [base, applied]
    exact ⟨"", fun target mem => mem_refTargets_of_foldlM indexed (.inl mem)⟩
  whole _ text own := not_anchor identified indexed own

/-- A reference is resolved to the same text when it is indexed, when it is compiled inline and
    when it is compiled in a fragment, if no anchor above the fragment comes between. What is
    followed from a document is among what was noted when it was indexed. -/
theorem Value.Position.reference_agrees {compiler : Compiler} {overwrite : Bool}
    (draft : compiler.vocabulary = VocabularyTable.draft07 overwrite) {document : Value}
    {id : String} {index : LocalIndex} (identified : document.schemaId = .ok id)
    (indexed : LocalIndex.ofDocument compiler.vocabulary document id = .ok index) :
    (∀ (steps : List String) (members : Members) (around : String) (whole : Bool) (text : String),
      document.Position compiler.vocabulary id true steps (.object members) around whole →
      (∀ step ∈ steps, '%' ∉ step.toList) → members.get? "$ref" = some (.string text) →
      let absolute := resolveUrl (members.enter around "" whole).1 text
      absolute ∈ index.refTargets ∧
      (∀ outside place, outside.base = id → outside.applyId = false →
        compiler.Inlines document outside steps (.object members) place →
        place.absolute members text = absolute) ∧
      ∀ above below cut base, steps = above ++ below →
        document.Position compiler.vocabulary id true above cut base false →
        document.Passable compiler.vocabulary id true above →
        ∃ base', (Pointer.segments? (Pointer.ofSegments above)).bind (document.follow? id) =
            some (cut, base') ∧
          ∀ outside place, outside.base = base' → outside.applyId = true →
            compiler.Inlines cut outside below (.object members) place →
            place.absolute members text = absolute) ∧
    (∀ (outside place : Place) (steps : List String) (members : Members) (text : String),
      outside.base = id → outside.applyId = false →
      compiler.Inlines document outside steps (.object members) place →
      members.get? "$ref" = some (.string text) →
      place.absolute members text ∈ index.refTargets) ∧
    ∀ (c c' : Compilation) (root other : EntryId) (d : Entry) (fuel : Nat) (underMeta : Bool),
      c.store.entry? root = some d → d.document = document → d.id = id → d.isFragment = false →
      (∀ ref ∈ d.refs, ref.1 ∈ index.refTargets) →
      (Compiler.entry (compiler.schema fuel) other underMeta).Ends c c' →
      ∃ e, c'.store.entry? root = some e ∧ ∀ ref ∈ e.refs, ref.1 ∈ index.refTargets := by
  have declares : compiler.vocabulary.Declares := draft ▸ VocabularyTable.declares_draft07 overwrite
  refine ⟨fun steps members around whole text position plain refers => ?_,
    fun outside place steps members text base applied inlined refers => ?_, ?_⟩
  · refine ⟨?_, ?_, ?_⟩
    · refine LocalIndex.mem_refTargets_of_foldlM indexed (.inl (position.mem_findings_of_part "" ?_))
      rw [findings, Members.enter_fst _ _ _ ""]
      refine List.mem_append_left _ (List.mem_append_right _ ?_)
      rw [Members.referenceFinding, refers]
      exact List.mem_singleton.2 rfl
    · intro outside place base applied inlined
      have noted := LocalIndex.isNoted identified indexed base applied
      obtain ⟨same, applied'⟩ := position.sameBase declares inlined (base ▸ .refl _)
        (by rw [applied]; rfl) fun _ text => noted.whole applied text
      refine same.inside applied' (fun root => ?_) text
      exact (noted.inlines declares inlined).whole (by rw [applied', root]; rfl)
    · rintro above below cut base rfl cutting passable
      have more : above ≠ [] := cutting.steps_ne_nil
      have whole_ : whole = false := (cutting.split position).not_whole
      have start (members' : Members) (shape : document = .object members') :
          SameBase id (members'.enter id "" true).1 := by
        subst shape
        rw [Members.enter_root fun text own => LocalIndex.not_anchor identified indexed own]
        exact .refl id
      obtain ⟨base', leads, same⟩ := cutting.follow? passable more start
      refine ⟨base', ?_, ?_⟩
      · rw [Pointer.segments?_ofSegments fun step mem => plain step (List.mem_append_left _ mem)]
        exact leads
      · intro outside place inside applied inlined
        obtain ⟨same', applied'⟩ := (cutting.split position).sameBase declares inlined
          (inside ▸ same) applied fun root => absurd root Bool.false_ne_true
        refine same'.inside applied' (fun root => ?_) text
        rw [whole_] at root
        cases root
  · have noted := LocalIndex.isNoted identified indexed base applied
    exact (noted.inlines declares inlined).reference refers
  · intro c c' root other d fuel underMeta found document_ id_ whole_ known ends
    have document' (place : Place) (base : place.base = d.id)
        (applied : place.applyId = d.isFragment) :
        d.document.IsNoted compiler.vocabulary index.refTargets place :=
      document_ ▸ LocalIndex.isNoted identified indexed (base.trans id_) (applied.trans whole_)
    have maintains : CompileM.Maintains (Compilation.Follows root d index.refTargets)
        (Compiler.entry (compiler.schema fuel) other underMeta) :=
      Compiler.entry_maintains (Compiler.schema_maintains declares document' fuel) document' other
        underMeta
    obtain ⟨e, found', -, -, -, noted⟩ := maintains c c' ⟨d, found, rfl, rfl, rfl, known⟩ ends
    exact ⟨e, found', noted⟩

namespace Anchored

/-- The members of a schema with a reference. -/
def referring : Members := [("$ref", .string "x")]

/-- The members of a schema with an anchor, which holds one with a reference. -/
def anchored : Members :=
  [("$id", .string "#a"), ("definitions", .object [("b", .object referring)])]

/-- The members of a document that holds a schema with an anchor. -/
def members (id : String) : Members :=
  [("$id", .string id), ("definitions", .object [("a", .object anchored)])]

/-- The way to the reference. -/
def steps : List String := ["definitions", "a", "definitions", "b"]

/-- Schemas of draft-07 are compiled, with no formats. -/
def compiler : Compiler where
  vocabulary := .draft07 true
  formats := []
  options := {}

/-- The base inside the schema with the anchor. -/
def anchorBase (id : String) : String := (Members.enter anchored id "" false).1

theorem vocabulary_compiler : compiler.vocabulary = .draft07 true := by
  rw [compiler]

theorem nests : compiler.vocabulary.nesting? "definitions" = some .map := by
  rw [vocabulary_compiler, VocabularyTable.nesting?_draft07]
  decide

theorem nests_none {name : String} (named : name = "a" ∨ name = "b") :
    compiler.vocabulary.nesting? name = none := by
  rw [vocabulary_compiler, VocabularyTable.nesting?_draft07]
  rcases named with rfl | rfl <;> decide

/-- A document that is accepted has an index. -/
theorem indexed (id : String) (index : LocalIndex)
    (found : (LocalIndex.ofDocument compiler.vocabulary (.object (members id)) id).toOption =
      some index) :
    LocalIndex.ofDocument compiler.vocabulary (.object (members id)) id = .ok index := by
  cases read : LocalIndex.ofDocument compiler.vocabulary (.object (members id)) id with
  | ok own =>
    rw [read] at found
    exact congrArg Except.ok (Option.some.inj found)
  | error e =>
    rw [read] at found
    cases found

variable {id : String}

theorem position_anchored (plain : id.startsWith "#" = false) :
    (Value.object (members id)).Position compiler.vocabulary id true ["definitions", "a"]
      (.object anchored) id false := by
  have base : (Members.enter (members id) id "" true).1 = id :=
    Members.enter_root fun text own => by cases own; exact plain
  have here : (Value.object anchored).Position compiler.vocabulary
      (Members.enter (members id) id "" true).1 false [] (.object anchored) id false := by
    rw [base]
    exact .here _ _ _
  have found : Members.get? (members id) "definitions" = some (.object [("a", .object anchored)]) :=
    rfl
  exact .inside found nests (.member rfl) here

theorem position_referring (plain : id.startsWith "#" = false) :
    (Value.object (members id)).Position compiler.vocabulary id true steps
      (.object referring) (anchorBase id) false := by
  have found : Members.get? anchored "definitions" = some (.object [("b", .object referring)]) := rfl
  have rest : (Value.object anchored).Position compiler.vocabulary id false ["definitions", "b"]
      (.object referring) (anchorBase id) false :=
    .inside found nests (.member rfl) (.here _ _ _)
  exact (position_anchored plain).append rest

/-- The schemas above the reference. -/
theorem above_cases {above below : List String} {members' : Members}
    (split : steps = above ++ below) (more : below ≠ [])
    (leads : above.foldlM Value.step? (.object (members id)) = some (.object members')) :
    above = [] ∧ members' = members id ∨
      above = ["definitions"] ∧ members' = [("a", .object anchored)] ∨
      above = ["definitions", "a"] ∧ members' = anchored ∨
      above = ["definitions", "a", "definitions"] ∧ members' = [("b", .object referring)] := by
  rcases above with _ | ⟨s₁, _ | ⟨s₂, _ | ⟨s₃, _ | ⟨s₄, rest⟩⟩⟩⟩
  · cases leads
    exact .inl ⟨rfl, rfl⟩
  · cases split
    cases leads
    exact .inr (.inl ⟨rfl, rfl⟩)
  · cases split
    cases leads
    exact .inr (.inr (.inl ⟨rfl, rfl⟩))
  · cases split
    cases leads
    exact .inr (.inr (.inr ⟨rfl, rfl⟩))
  · have short : rest ++ below = [] := (congrArg (List.drop 4) split).symm
    exact absurd (List.append_eq_nil_iff.1 short).2 more

/-- The maps of schemas on the way hold schemas only. -/
theorem mapsParts (id base : String) :
    (Value.object (members id)).MapsParts compiler.vocabulary base true steps := by
  intro above below keyword members' parts around whole split position nests found
  obtain ⟨rfl, rfl⟩ | ⟨rfl, rfl⟩ | ⟨rfl, rfl⟩ | ⟨rfl, rfl⟩ :=
    above_cases split (List.cons_ne_nil _ _) position.follows
  · cases split
    cases found
    intro part mem
    cases List.mem_singleton.1 mem
    trivial
  · cases split
    rw [nests_none (.inl rfl)] at nests
    cases nests
  · cases split
    cases found
    intro part mem
    cases List.mem_singleton.1 mem
    trivial
  · cases split
    rw [nests_none (.inr rfl)] at nests
    cases nests

/-- On the way to the reference there is one anchor. -/
theorem passable (plain : id.startsWith "#" = false) (settled : IsSettled id) :
    (Value.object (members id)).Passable compiler.vocabulary id true steps where
  maps := mapsParts id id
  anchors above below members' around whole text split more position own anchor := by
    obtain ⟨rfl, rfl⟩ | ⟨rfl, rfl⟩ | ⟨rfl, rfl⟩ | ⟨rfl, rfl⟩ :=
      above_cases split more position.follows
    · cases own
      rw [plain] at anchor
      cases anchor
    · cases own
    · cases split
      have rest : (Value.object anchored).Position compiler.vocabulary id false []
          (.object anchored) around whole :=
        (position_anchored plain).split position
      cases rest
      exact settled
    · cases own

end Anchored

open Anchored in
/-- The reference below the anchor is resolved to the same text everywhere. -/
theorem Value.Position.reference_agrees_anchored : ∃ index,
    LocalIndex.ofDocument compiler.vocabulary (.object (members "dir/a.json")) "dir/a.json" =
      .ok index ∧ "dir/x" ∈ index.refTargets ∧
    ∃ base', (Pointer.segments? (Pointer.ofSegments steps)).bind
        (Value.follow? (.object (members "dir/a.json")) "dir/a.json") =
          some (.object referring, base') ∧
      ∀ place : Place, place.base = base' → place.applyId = true →
        place.absolute referring "x" = "dir/x" := by
  have found := indexed "dir/a.json" ⟨[("dir/a.json#a", "/definitions/a")], ["dir/x"]⟩
    (by decide +kernel)
  have settled : IsSettled "dir/a.json" := by
    refine ⟨by decide +kernel, ?_⟩
    have last : (documentPart "dir/a.json").toList.getLast? = some 'n' := by decide +kernel
    intro c found
    rw [last] at found
    cases found
    decide
  have normal : normalizeId "dir/a.json" = "dir/a.json" := by decide +kernel
  have identified : Value.schemaId (.object (members "dir/a.json")) = .ok "dir/a.json" :=
    congrArg Except.ok normal
  have plain : "dir/a.json".startsWith "#" = false := by decide +kernel
  have absolute : resolveUrl (Members.enter referring (anchorBase "dir/a.json") "" false).1 "x" =
      "dir/x" := by decide +kernel
  have agrees := (Value.Position.reference_agrees vocabulary_compiler identified found).1
    steps referring _ _ "x" (position_referring plain) (by decide) rfl
  dsimp only at agrees
  rw [absolute] at agrees
  obtain ⟨mem, -, cut⟩ := agrees
  obtain ⟨base', leads, agree⟩ := cut steps [] _ _ rfl (position_referring plain)
    (passable plain settled)
  exact ⟨_, found, mem, base', leads, fun place base applied =>
    agree place place base applied (.here _ _)⟩

open Anchored in
/-- The anchor does not end the user part of the base, and the rest of it has none: the reference
    below is noted relative to the one, and resolved in a fragment relative to the other. -/
theorem Value.Position.reference_differs : ∃ index base',
    Value.schemaId (.object (members "foo://@#f")) = .ok "foo://@#f" ∧
    LocalIndex.ofDocument compiler.vocabulary (.object (members "foo://@#f")) "foo://@#f" =
      .ok index ∧
    (Value.object (members "foo://@#f")).MapsParts compiler.vocabulary "foo://@#f" true steps ∧
    (∀ step ∈ steps, '%' ∉ step.toList) ∧
    (Value.object (members "foo://@#f")).Position compiler.vocabulary "foo://@#f" true steps
      (.object referring) (anchorBase "foo://@#f") false ∧
    (Pointer.segments? (Pointer.ofSegments steps)).bind
      (Value.follow? (.object (members "foo://@#f")) "foo://@#f") =
        some (.object referring, base') ∧
    resolveUrl (Members.enter referring (anchorBase "foo://@#f") "" false).1 "x" = "foo:///x" ∧
    index.refTargets = ["foo:///x"] ∧
    ∀ place : Place, place.base = base' → place.applyId = true →
      place.absolute referring "x" = "foo://x" := by
  have found := indexed "foo://@#f" ⟨[("foo://@#a", "/definitions/a")], ["foo:///x"]⟩
    (by decide +kernel)
  have normal : normalizeId "foo://@#f" = "foo://@#f" := by decide +kernel
  have plain : "foo://@#f".startsWith "#" = false := by decide +kernel
  have leads : (Pointer.segments? (Pointer.ofSegments steps)).bind
      (Value.follow? (.object (members "foo://@#f")) "foo://@#f") =
        some (.object referring, "foo://@#f") := by
    rw [Pointer.segments?_ofSegments (by decide)]
    decide +kernel
  have cut : resolveUrl "foo://@#f" "x" = "foo://x" := by decide +kernel
  refine ⟨_, _, congrArg Except.ok normal, found, mapsParts _ _, by decide, position_referring plain,
    leads, by decide +kernel, rfl, fun place base applied => ?_⟩
  rw [← cut, ← base, Place.absolute, Place.inner, applied]
  rfl

end JsonSchema
