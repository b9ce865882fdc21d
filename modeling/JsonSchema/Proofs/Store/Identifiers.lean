import JsonSchema.Proofs.Store.Bindings
import JsonSchema.Proofs.Store.Denotation
import JsonSchema.Proofs.Store.Pointers
import JsonSchema.Store.Index
import Mathlib.Data.List.TakeWhile

/-!
# Declared identifiers

An identifier that is declared inside a document is noted with the pointer to the subschema
that declares it, and a reference to it is resolved through that pointer.

* `Value.Position`: the subschemas at places where keywords have subschemas.
* `LocalIndex.ofDocument_declares`: the identifier of such a subschema is noted with the pointer
  to it.
* `Store.resolve_declared`: a reference to the identifier leads to the subschema again, if no
  step to it has a percent sign and the document part of an anchor is known in the document.
* `Store.resolve_declared_percent`: a percent sign makes it lead elsewhere.
-/

namespace JsonSchema

/-! ## Positions -/

/-- The subschemas in the value of a keyword that has its subschemas in some way, each with the
    steps to it. An item has an index that fits into 64 bits. -/
inductive Nesting.Holds : Nesting → Value → List String → Value → Prop
  | schema (part : Value) : Holds .schema part [] part
  | single {part : Value} (alone : ∀ items, part ≠ .array items) : Holds .schemaOrArray part [] part
  | item {items : List Value} {i : Nat} {part : Value} {kind : Nesting}
      (listed : kind = .array ∨ kind = .schemaOrArray) (found : items[i]? = some part)
      (small : i < Nat.pow 2 64) : Holds kind (.array items) [toString i] part
  | member {members : Members} {name : String} {part : Value}
      (found : members.get? name = some part) : Holds .map (.object members) [name] part

/-- The schemas that the value of a keyword consists of, each with the steps to it, however many
    items and however many members of one name there are. -/
inductive Nesting.Offers : Nesting → Value → List String → Value → Prop
  | schema (part : Value) : Offers .schema part [] part
  | single {part : Value} (alone : ∀ items, part ≠ .array items) : Offers .schemaOrArray part [] part
  | item {items : List Value} {i : Nat} {part : Value} {kind : Nesting}
      (listed : kind = .array ∨ kind = .schemaOrArray) (found : items[i]? = some part) :
      Offers kind (.array items) [toString i] part
  | member {members : Members} {name : String} {part : Value} (found : (name, part) ∈ members) :
      Offers .map (.object members) [name] part

/-- A subschema of a schema, with the steps to it, the base around it and whether it is the
    whole document. The base around the schema and whether it is the document are given. -/
inductive Value.Position (table : VocabularyTable) :
    Value → String → Bool → List String → Value → String → Bool → Prop
  | here (schema : Value) (base : String) (isRoot : Bool) :
      Position table schema base isRoot [] schema base isRoot
  | inside {members : Members} {base keyword : String} {isRoot : Bool} {value : Value}
      {kind : Nesting} {inner : List String} {part : Value} {steps : List String}
      {target : Value} {around : String} {whole : Bool}
      (found : members.get? keyword = some value) (nests : table.nesting? keyword = some kind)
      (holds : kind.Holds value inner part)
      (rest : Position table part (members.enter base "" isRoot).1 false steps target around whole) :
      Position table (.object members) base isRoot (keyword :: inner ++ steps) target around whole

variable {table : VocabularyTable}

theorem Members.enter_fst (members : Members) (base pointer pointer' : String) (isRoot : Bool) :
    (members.enter base pointer isRoot).1 = (members.enter base pointer' isRoot).1 := by
  unfold enter
  split
  · rfl
  · split <;> rfl
  · rfl

theorem Nesting.Holds.offers {kind : Nesting} {value part : Value} {steps : List String}
    (holds : kind.Holds value steps part) : kind.Offers value steps part := by
  cases holds with
  | schema => exact .schema _
  | single alone => exact .single alone
  | item listed found => exact .item listed found
  | member found => exact .member (Members.mem_of_get? found)

/-! ### What the steps lead to -/

theorem Nesting.Holds.follows {kind : Nesting} {value part : Value} {steps : List String}
    (holds : kind.Holds value steps part) : steps.foldlM Value.step? value = some part := by
  cases holds with
  | schema | single => rfl
  | item _ found small =>
    rw [List.foldlM_cons, Value.step?, Pointer.index?_toString small]
    show (Option.bind _ _).bind _ = _
    rw [Option.bind_some, found]
    rfl
  | member found =>
    rw [List.foldlM_cons, Value.step?, found]
    rfl

theorem Value.Position.follows {schema target : Value} {base around : String}
    {isRoot whole : Bool} {steps : List String}
    (position : schema.Position table base isRoot steps target around whole) :
    steps.foldlM Value.step? schema = some target := by
  induction position with
  | here => rfl
  | inside found nests holds rest ih =>
    rw [List.cons_append, List.foldlM_cons, step?, found]
    show List.foldlM step? _ _ = _
    rw [List.foldlM_append, holds.follows]
    exact ih

theorem Value.Position.steps_ne_nil {schema target : Value} {base around : String}
    {steps : List String} (position : schema.Position table base true steps target around false) :
    steps ≠ [] := by
  cases position with
  | inside => exact List.cons_ne_nil _ _

/-! ### What is noted there -/

/-- What is noted in an item is noted in the array. -/
theorem Value.mem_itemFindings {items : List Value} {base pointer : String} {i offset : Nat}
    {part : Value} {f : Finding} (found : items[i]? = some part)
    (mem : f ∈ part.findings table base (Pointer.child pointer (toString (offset + i))) false) :
    f ∈ itemFindings table items base pointer offset := by
  induction items generalizing i offset with
  | nil => cases found
  | cons item rest ih =>
    rw [itemFindings, List.mem_append]
    cases i with
    | zero =>
      cases found
      exact .inl mem
    | succ i =>
      refine .inr (ih (i := i) found ?_)
      rw [Nat.add_assoc, Nat.add_comm 1 i]
      exact mem

/-- What is noted in a member is noted in the object. -/
theorem Value.mem_memberFindings {members : Members} {base pointer name : String} {part : Value}
    {f : Finding} (found : (name, part) ∈ members)
    (mem : f ∈ part.findings table base (Pointer.child pointer name) false) :
    f ∈ memberFindings table members base pointer := by
  induction members with
  | nil => cases found
  | cons member rest ih =>
    obtain ⟨name', schema⟩ := member
    rw [memberFindings, List.mem_append]
    rcases List.mem_cons.1 found with same | found
    · cases same
      exact .inl mem
    · exact .inr (ih found)

/-- What is noted in a subschema in the value of a keyword is noted in the values of keywords. -/
theorem Nesting.Offers.mem_keywordFindings {kind : Nesting} {value part : Value}
    {inner : List String} (offers : kind.Offers value inner part) {members : Members}
    {keyword base pointer : String} {f : Finding} (found : (keyword, value) ∈ members)
    (nests : table.nesting? keyword = some kind)
    (mem : f ∈ part.findings table base (inner.foldl Pointer.child (Pointer.child pointer keyword))
      false) :
    f ∈ Value.keywordFindings table members base pointer := by
  induction members with
  | nil => cases found
  | cons member rest ih =>
    unfold Value.keywordFindings
    rcases List.mem_cons.1 found with rfl | found
    · refine List.mem_append_left _ ?_
      simp only [nests]
      cases offers with
      | schema => exact mem
      | single alone =>
        cases value with
        | array items => exact absurd rfl (alone items)
        | _ => exact mem
      | item listed found =>
        have here : f ∈ Value.itemFindings table _ base (Pointer.child pointer keyword) 0 :=
          Value.mem_itemFindings found (by rwa [Nat.zero_add])
        rcases listed with rfl | rfl
        all_goals exact here
      | member found => exact Value.mem_memberFindings found mem
    · exact List.mem_append_right _ (ih found)

/-- What is noted in a subschema is noted in the whole schema, at the pointer that the steps to the
    subschema make. -/
theorem Value.Position.mem_findings_of_part {schema target : Value} {base around : String}
    {isRoot whole : Bool} {steps : List String}
    (position : schema.Position table base isRoot steps target around whole) {f : Finding}
    (pointer : String)
    (mem : f ∈ target.findings table around (steps.foldl Pointer.child pointer) whole) :
    f ∈ schema.findings table base pointer isRoot := by
  induction position generalizing pointer with
  | here => exact mem
  | inside found nests holds rest ih =>
    rw [findings]
    refine List.mem_append_right _
      (holds.offers.mem_keywordFindings (Members.mem_of_get? found) nests ?_)
    rw [Members.enter_fst _ _ pointer ""]
    refine ih _ ?_
    rwa [List.cons_append, List.foldl_cons, List.foldl_append] at mem

/-- What the identifier of a subschema gives to note is noted in the whole schema. -/
theorem Value.Position.mem_findings {schema target : Value} {base around : String}
    {isRoot whole : Bool} {steps : List String} {members : Members}
    (position : schema.Position table base isRoot steps target around whole)
    (shape : target = .object members) {f : Finding} (pointer : String)
    (mem : f ∈ (members.enter around (steps.foldl Pointer.child pointer) whole).2) :
    f ∈ schema.findings table base pointer isRoot := by
  refine position.mem_findings_of_part pointer ?_
  rw [shape, findings]
  exact List.mem_append_left _ (List.mem_append_left _ mem)

/-! ## The index -/

namespace LocalIndex

/-- What is noted already stays as it is. -/
theorem find?_of_note {rootId id pointer : String} {index index' : LocalIndex} {f : Finding}
    (noted : note rootId index f = .ok index') (found : index.localRefs.find? id = some pointer) :
    index'.localRefs.find? id = some pointer := by
  cases f with
  | declares id' pointer' =>
    rw [note] at noted
    split at noted
    · cases noted
    · rename_i fresh
      cases noted
      rw [Bindings.find?_bind, if_neg]
      · exact found
      · rintro rfl
        rw [Bindings.binds, found] at fresh
        exact fresh (Bool.or_true _)
  | refersTo target =>
    rw [note] at noted
    split at noted <;>
    · cases noted
      exact found
  | malformed => cases noted

/-- What is found while a document is walked is noted, each identifier with the one pointer at
    which it is declared. -/
theorem find?_of_foldlM {rootId id pointer : String} {found : List Finding}
    {index index' : LocalIndex} (noted : found.foldlM (note rootId) index = .ok index')
    (mem : .declares id pointer ∈ found ∨ index.localRefs.find? id = some pointer) :
    index'.localRefs.find? id = some pointer := by
  induction found generalizing index with
  | nil =>
    cases noted
    exact mem.resolve_left List.not_mem_nil
  | cons f rest ih =>
    rw [List.foldlM_cons] at noted
    cases first : note rootId index f with
    | error e =>
      rw [first] at noted
      cases noted
    | ok next =>
      rw [first] at noted
      refine ih noted ?_
      rcases mem with mem | before
      · rcases List.mem_cons.1 mem with rfl | mem
        · rw [note] at first
          split at first
          · cases first
          · cases first
            exact .inr (by rw [Bindings.find?_bind, if_pos rfl])
        · exact .inl mem
      · exact .inr (find?_of_note first before)

/-- No identifier is declared that is the one of the document. -/
theorem ne_of_foldlM {rootId id pointer : String} {found : List Finding}
    {index index' : LocalIndex} (noted : found.foldlM (note rootId) index = .ok index')
    (mem : .declares id pointer ∈ found) : id ≠ rootId := by
  induction found generalizing index with
  | nil => cases mem
  | cons f rest ih =>
    rw [List.foldlM_cons] at noted
    cases first : note rootId index f with
    | error e =>
      rw [first] at noted
      cases noted
    | ok next =>
      rw [first] at noted
      rcases List.mem_cons.1 mem with rfl | mem
      · rintro rfl
        rw [note, decide_eq_true rfl] at first
        cases first
      · exact ih noted mem

end LocalIndex

/-! ## Resolution -/

/-- A text is what stands before its first mark, the mark, and what stands behind it. -/
theorem Reference.splitAtMark_append {cs : List Char} (marked : '#' ∈ cs) :
    (splitAtMark cs).1 ++ '#' :: (splitAtMark cs).2 = cs := by
  unfold splitAtMark
  induction cs with
  | nil => cases marked
  | cons c rest ih =>
    by_cases mark : c = '#'
    · subst mark
      rfl
    · have marked := (List.mem_cons.1 marked).resolve_left (Ne.symm mark)
      rw [List.takeWhile_cons_of_pos (by simpa using mark),
        List.dropWhile_cons_of_pos (by simpa using mark), List.cons_append, ih marked]

/-- The document part and the fragment part make up an identifier with a mark. -/
theorem documentPart_append_fragmentPart {reference : String} (marked : '#' ∈ reference.toList) :
    documentPart reference ++ "#" ++ fragmentPart reference = reference := by
  rw [← String.toList_inj, String.append_assoc]
  simp only [documentPart, fragmentPart, String.toList_append, String.toList_ofList]
  exact Reference.splitAtMark_append marked

/-- An identifier without a mark is its document part, and has no fragment. -/
theorem documentPart_of_not_mem {reference : String} (plain : '#' ∉ reference.toList) :
    documentPart reference = reference ∧ fragmentPart reference = "" := by
  have all : ∀ c ∈ reference.toList, (decide (c ≠ '#')) = true := fun c mem =>
    decide_eq_true fun same => plain (same ▸ mem)
  rw [documentPart, fragmentPart, Reference.splitAtMark, List.takeWhile_eq_self_iff.2 all]
  refine ⟨String.ofList_toList, ?_⟩
  rw [List.dropWhile_eq_nil_iff.2 all]
  rfl

/-- A name without a mark and what stands behind the mark are the two parts. -/
theorem documentPart_append {name : String} (unmarked : '#' ∉ name.toList) (fragment : String) :
    documentPart (name ++ "#" ++ fragment) = name ∧
      fragmentPart (name ++ "#" ++ fragment) = fragment := by
  have all : ∀ c ∈ name.toList, (decide (c ≠ '#')) = true := fun c mem =>
    decide_eq_true fun same => unmarked (same ▸ mem)
  have text : (name ++ "#" ++ fragment).toList = name.toList ++ '#' :: fragment.toList := by simp
  rw [documentPart, fragmentPart, text, Reference.splitAtMark, List.takeWhile_append_of_pos all,
    List.dropWhile_append_of_pos all]
  refine ⟨?_, ?_⟩
  · simp
  · simp

/-- The local identifiers of an entry are those that its document declares. -/
def Entry.IsIndexed (table : VocabularyTable) (d : Entry) : Prop :=
  LocalIndex.ofDocument table d.document d.id =
    .ok { localRefs := d.localRefs, refTargets := d.refTargets }

/-- An identifier is resolved without a look at other documents: it has no mark, or it is an
    anchor and its document part is an identifier of the document. -/
def Entry.IsLocal (d : Entry) (id : String) : Prop :=
  '#' ∉ id.toList ∨
    ('#' ∈ id.toList ∧ fragmentPart id ≠ "" ∧ (fragmentPart id).startsWith "/" = false ∧
      (documentPart id = d.id ∨ d.localRefs.binds (documentPart id)))

section Declared

variable {d : Entry} {steps : List String} {members : Members} {base text : String}

/-- The identifier of a subschema is noted with the pointer to it, and is not the one of the
    document. -/
theorem Entry.IsIndexed.declares (indexed : d.IsIndexed table)
    (position : d.document.Position table d.id true steps (.object members) base false)
    (identified : members.get? "$id" = some (.string text)) :
    d.localRefs.find? (resolveUrl base text) = some (Pointer.ofSegments steps) ∧
      resolveUrl base text ≠ d.id := by
  have mem : Finding.declares (resolveUrl base text) (Pointer.ofSegments steps) ∈
      d.document.findings table d.id "" true := by
    refine position.mem_findings rfl "" ?_
    rw [Members.enter, identified]
    exact List.mem_singleton.2 rfl
  exact ⟨LocalIndex.find?_of_foldlM indexed (.inl mem), LocalIndex.ne_of_foldlM indexed mem⟩

/-- A reference from any entry of a document to an identifier that a subschema declares leads to
    that subschema, if the identifier is resolved inside the document and no step to the subschema
    has a percent sign. -/
theorem Store.resolve_declared {s : Store} {source : EntryId} {e : Entry}
    (found : s.entry? source = some e) (document : s.entry? e.root = some d)
    (indexed : d.IsIndexed table)
    (position : d.document.Position table d.id true steps (.object members) base false)
    (identified : members.get? "$id" = some (.string text))
    (plain : ∀ step ∈ steps, '%' ∉ step.toList) (closed : d.IsLocal (resolveUrl base text)) :
    ∃ around, s.resolve source (resolveUrl base text) =
      .fragment e.root around (Pointer.ofSegments steps) (.object members) := by
  obtain ⟨noted, ne⟩ := indexed.declares position identified
  have reaches : s.Reaches source (resolveUrl base text) e.root (Pointer.ofSegments steps) := by
    rcases closed with unmarked | ⟨marked, nonempty, anchor, known⟩
    · obtain ⟨whole, none⟩ := documentPart_of_not_mem unmarked
      refine ⟨e, d, Pointer.ofSegments steps, d, found, document, ?_, document, ?_⟩
      · rw [targetOf?, whole, if_neg ne, noted]
      · rw [pointerOf?, none]
        rfl
    · have target : ∃ start, s.targetOf? e.root d (documentPart (resolveUrl base text)) =
          some (e.root, start) := by
        unfold targetOf?
        split
        · exact ⟨_, rfl⟩
        · rename_i other
          obtain ⟨pointer, bound⟩ := Option.isSome_iff_exists.1 (known.resolve_left other)
          exact ⟨pointer, by rw [bound]⟩
      obtain ⟨start, target⟩ := target
      refine ⟨e, d, start, d, found, document, target, document, ?_⟩
      rw [pointerOf?, if_neg (by simpa using nonempty), if_neg (by simp [anchor]),
        documentPart_append_fragmentPart marked]
      exact noted
  have leads := Value.follow?_eq d.document d.id steps
  rw [position.follows] at leads
  obtain ⟨⟨part, around⟩, follows, same⟩ := Option.map_eq_some_iff.1 leads
  cases same
  exact ⟨around, resolve_of_reaches_part reaches
    (Pointer.ofSegments_ne_empty position.steps_ne_nil)
    ⟨d, steps, document, Pointer.segments?_ofSegments plain, follows⟩⟩

end Declared

/-! ### Documents with one identifier -/

namespace Identifiers

/-- A schema for strings that declares an identifier. -/
def declaring (id : String) : Members := [("$id", .string id), ("type", .string "string")]

/-- A schema for numbers. -/
def numbers : Value := .object [("type", .string "number")]

/-- A document with two definitions, of which the first one declares an identifier. -/
def document (name id other : String) : Value :=
  .object [("definitions", .object [(name, .object (declaring id)), (other, numbers)])]

/-- A table with nothing but the keyword that holds definitions. -/
def keywords : VocabularyTable := { keywords := [.informative "definitions" .map] }

/-- The entry of such a document. -/
def entry (name id other : String) : Entry where
  id := ""
  document := document name id other
  localRefs := [(id, Pointer.ofSegments ["definitions", name])]
  isMeta := false
  root := ⟨0⟩

/-- A store with nothing but such a document. -/
def store (name id other : String) : Store where
  entries := #[some (entry name id other)]

theorem indexed_anchor : (entry "a~b" "#leaf" "a").IsIndexed keywords := rfl

theorem indexed_percent : (entry "a%25" "item.json" "a%").IsIndexed keywords := rfl

theorem position (name id other : String) :
    (document name id other).Position keywords "" true ["definitions", name]
      (.object (declaring id)) "" false := by
  have member : Nesting.Holds .map (.object [(name, .object (declaring id)), (other, numbers)])
      [name] (.object (declaring id)) := .member (by rw [Members.get?, if_pos rfl])
  exact .inside rfl rfl member (.here _ _ _)

end Identifiers

open Identifiers in
/-- An anchor below a name without percent signs leads to the subschema that declares it. -/
theorem Store.resolve_declared_anchor :
    ∃ around, (store "a~b" "#leaf" "a").resolve ⟨0⟩ (resolveUrl "" "#leaf") =
      .fragment ⟨0⟩ around "/definitions/a~0b" (.object (declaring "#leaf")) := by
  have fragment : fragmentPart (resolveUrl "" "#leaf") = "leaf" := rfl
  have found : Store.entry? (store "a~b" "#leaf" "a") ⟨0⟩ = some (entry "a~b" "#leaf" "a") := rfl
  refine Store.resolve_declared found found indexed_anchor (position "a~b" "#leaf" "a") rfl
    (by decide) (.inr ⟨by decide +kernel, ?_, ?_, .inl rfl⟩)
  · rw [fragment]
    decide
  · rw [fragment]
    simp

open Identifiers in
/-- An identifier below a name with a percent sign leads to another subschema. -/
theorem Store.resolve_declared_percent :
    (entry "a%25" "item.json" "a%").IsIndexed keywords ∧
      (document "a%25" "item.json" "a%").Position keywords "" true ["definitions", "a%25"]
        (.object (declaring "item.json")) "" false ∧
      (store "a%25" "item.json" "a%").resolve ⟨0⟩ (resolveUrl "" "item.json") =
        .fragment ⟨0⟩ "" "/definitions/a%25" numbers := by
  have segments : Pointer.segments? "/definitions/a%25" = some ["definitions", "a%"] := by
    decide +kernel
  refine ⟨indexed_percent, position _ _ _, Store.resolve_of_reaches_part ?_ (by decide) ?_⟩
  · exact ⟨_, _, _, _, rfl, rfl, rfl, rfl, rfl⟩
  · exact ⟨_, _, rfl, segments, rfl⟩

end JsonSchema
