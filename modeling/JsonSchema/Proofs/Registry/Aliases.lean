import JsonSchema.Proofs.Registry.Targets
import JsonSchema.Proofs.Store.Denotation
import JsonSchema.Proofs.Store.Identifiers

/-!
# Documents with two names

A document that was added under a name and has an identifier of its own is found by both. Behind
the one and the other a reference names the same part of it, unless it names the part by an anchor:
an anchor is noted with the identifier of the document, and looked up with the name in the
reference.

* `Store.declares`: a name that an entry takes for a part of its own document.
* `Store.partAt`: the part of a document at a pointer.
* `Store.resolve_named`: what references to a document by one of its names denote.
* `Registry.run_aliases`: they denote the same under both names, anchors apart.
* `Registry.run_aliases_anchor`: anchors are missing under the other name.
-/

namespace JsonSchema

/-- Whether a fragment is an anchor: it is neither empty nor a pointer. -/
def Reference.isAnchor (fragment : String) : Bool := !fragment.isEmpty && !fragment.startsWith "/"

deriving instance DecidableEq for Resolved

namespace Store

variable {s : Store} {id source : EntryId} {e : Entry} {name name' : String}

/-- Whether a name stands for the own document of an entry or for a schema that this document
    declares. -/
def declares (s : Store) (source : EntryId) (name : String) : Bool :=
  (s.rootEntry? source).any fun owner => name = owner.id || owner.localRefs.binds name

/-- The part of a document at a pointer. -/
def partAt (s : Store) (id : EntryId) (pointer : String) : Resolved :=
  if pointer.isEmpty then .entry id
  else
    let part? : Option Resolved := do
      let target ← s.entry? id
      let (schema, base) ← target.document.follow? target.id (← Pointer.segments? pointer)
      return .fragment id base pointer schema
    part?.getD .missing

/-- The name in a reference counts for anchors only. -/
theorem pointerOf?_eq (e : Entry) (name fragment : String) :
    pointerOf? e "" name fragment =
      if Reference.isAnchor fragment then e.localRefs.find? (name ++ "#" ++ fragment)
      else some fragment := by
  unfold pointerOf? Reference.isAnchor
  by_cases empty : fragment.isEmpty
  · rw [String.isEmpty_iff.1 empty]
    rfl
  · cases pointer : fragment.startsWith "/" with
    | true => simp [empty]
    | false => simp [empty]

/-- A name that an entry does not take for a part of its own document leads to the document that
    is found by it. -/
theorem targetOf?_named (linked : s.Linked) (found : s.entry? id = some e)
    (named : s.lookup name = some id) {owner : EntryId} {d : Entry}
    (foreign : (name = d.id || d.localRefs.binds name) = false) :
    s.targetOf? owner d name = some (id, "") := by
  obtain ⟨other, undeclared⟩ := Bool.or_eq_false_iff.1 foreign
  obtain ⟨e', found', doc⟩ := linked.lookup_document named
  cases found.symm.trans found'
  rw [targetOf?, if_neg (of_decide_eq_false other), Bindings.binds_eq_false_iff.1 undeclared]
  simp only [named, Option.map_some, found, Option.getD_some, linked.document_root found doc]

/-- A reference to a document by one of its names denotes the part of it that the fragment names. -/
theorem resolve_named (linked : s.Linked) (found : s.entry? id = some e)
    (named : s.lookup name = some id) (unmarked : '#' ∉ name.toList)
    (live : s.isLive source = true) (foreign : s.declares source name = false)
    (fragment : String) :
    s.resolve source (name ++ "#" ++ fragment) =
      ((pointerOf? e "" name fragment).map (s.partAt id)).getD .missing := by
  obtain ⟨whole, rest⟩ := documentPart_append unmarked fragment
  obtain ⟨from_, foundF⟩ := Option.isSome_iff_exists.1 live
  obtain ⟨owner, foundO, -⟩ := linked.root_entry foundF
  have foreign : (name = owner.id || owner.localRefs.binds name) = false := by
    rw [declares, rootEntry?, foundF, Option.bind_some, foundO] at foreign
    exact foreign
  have target : s.targetOf? from_.root owner name = some (id, "") :=
    targetOf?_named linked found named foreign
  rw [resolve, whole, rest]
  simp only [foundF, foundO, target, found, Option.bind_eq_bind, Option.bind_some]
  cases pointer : pointerOf? e "" name fragment with
  | none => rfl
  | some at_ =>
    rw [Option.map_some, Option.getD_some, partAt, Option.bind_some]
    split
    · rfl
    · rw [found]
      rfl

/-- A reference to a name that is not known denotes nothing. -/
theorem resolve_unnamed (unnamed : s.lookup name = none) (unmarked : '#' ∉ name.toList)
    (foreign : s.declares source name = false) (fragment : String) :
    s.resolve source (name ++ "#" ++ fragment) = .missing := by
  rw [resolve, (documentPart_append unmarked fragment).1]
  cases foundF : s.entry? source with
  | none => rfl
  | some from_ =>
    cases foundO : s.entry? from_.root with
    | none => simp [foundO]
    | some owner =>
      rw [declares, rootEntry?, foundF, Option.bind_some, foundO] at foreign
      obtain ⟨other, undeclared⟩ := Bool.or_eq_false_iff.1 foreign
      have nowhere : s.targetOf? from_.root owner name = none := by
        rw [targetOf?, if_neg (of_decide_eq_false other), Bindings.binds_eq_false_iff.1 undeclared]
        simp only [unnamed, Option.map_none]
      simp only [foundO, nowhere, Option.bind_eq_bind, Option.bind_some, Option.bind_none]
      rfl

/-! ## Two names -/

/-- A document that was added under a name and has an identifier, where an entry takes neither of
    them for a part of its own document, so that it belongs to another one. -/
structure Aliases (s : Store) (source id : EntryId) (e : Entry) (key : String) : Prop where
  found : s.entry? id = some e
  named : s.schemas.find? key = some id
  identified : e.id ≠ ""
  unmarked : '#' ∉ key.toList ∧ '#' ∉ e.id.toList
  live : s.isLive source = true
  foreign : s.declares source key = false ∧ s.declares source e.id = false

namespace Aliases

variable {key : String}

theorem resolve_key (aliases : s.Aliases source id e key) (linked : s.Linked) (fragment : String) :
    s.resolve source (key ++ "#" ++ fragment) =
      ((pointerOf? e "" key fragment).map (s.partAt id)).getD .missing :=
  resolve_named linked aliases.found (linked.lookup_eq_some_iff.2 (.inl aliases.named))
    aliases.unmarked.1 aliases.live aliases.foreign.1 fragment

theorem resolve_id (aliases : s.Aliases source id e key) (linked : s.Linked)
    (listed : s.lookup e.id = some id) (fragment : String) :
    s.resolve source (e.id ++ "#" ++ fragment) =
      ((pointerOf? e "" e.id fragment).map (s.partAt id)).getD .missing :=
  resolve_named linked aliases.found listed aliases.unmarked.2 aliases.live aliases.foreign.2
    fragment

/-- The names are as good as each other for fragments that are no anchors, and for anchors that are
    noted alike with both. -/
theorem resolve_eq (aliases : s.Aliases source id e key) (linked : s.Linked)
    (listed : s.lookup e.id = some id) {fragment : String}
    (alike : Reference.isAnchor fragment = true →
      e.localRefs.find? (key ++ "#" ++ fragment) = e.localRefs.find? (e.id ++ "#" ++ fragment)) :
    s.resolve source (key ++ "#" ++ fragment) = s.resolve source (e.id ++ "#" ++ fragment) := by
  rw [aliases.resolve_key linked, aliases.resolve_id linked listed, pointerOf?_eq, pointerOf?_eq]
  split
  · next anchor => rw [alike anchor]
  · rfl

end Aliases

end Store

namespace Registry

/-- After any operations, a document that was added under a name and has an identifier is named
    alike by both in the references of other documents, if it is found by its identifier: as long
    as compilations list what they take in, it is unless it is a meta-schema. Anchors are apart.
    They denote what is noted in the document with the very name that the reference has, so they
    are missing under the other name unless they are noted with both. -/
theorem run_aliases (options : Options) (operations : List Operation) {source id : EntryId}
    {e : Entry} {key : String}
    (aliases : ((create options).run operations).store.Aliases source id e key) :
    let s := ((create options).run operations).store
    (options.addUsedSchema = true → e.isMeta = false → s.lookup e.id = some id) ∧
      (s.lookup e.id = none → ∀ fragment,
        s.resolve source (e.id ++ "#" ++ fragment) = .missing) ∧
      (s.lookup e.id = some id → ∀ fragment,
        (Reference.isAnchor fragment = false →
          s.resolve source (key ++ "#" ++ fragment) = s.resolve source (e.id ++ "#" ++ fragment)) ∧
        (Reference.isAnchor fragment = true →
          s.resolve source (key ++ "#" ++ fragment) =
            ((e.localRefs.find? (key ++ "#" ++ fragment)).map (s.partAt id)).getD .missing ∧
          s.resolve source (e.id ++ "#" ++ fragment) =
            ((e.localRefs.find? (e.id ++ "#" ++ fragment)).map (s.partAt id)).getD .missing)) := by
  intro s
  have linked : s.Linked := (reached_good options operations).settled.linked
  have steps := (reached_steps options operations).2
  refine ⟨fun all plain => ?_, fun unlisted => ?_, fun listed fragment => ⟨fun other => ?_, ?_⟩⟩
  · have listed : s.IsListed := steps.isListed all
    obtain ⟨e', found, doc⟩ := linked.lookup_document
      (linked.lookup_eq_some_iff.2 (.inl aliases.named))
    cases aliases.found.symm.trans found
    exact linked.lookup_eq_some_iff.2 (.inr (listed id e found doc plain aliases.identified))
  · exact Store.resolve_unnamed unlisted aliases.unmarked.2 aliases.foreign.2
  · exact aliases.resolve_eq linked listed fun anchor => by rw [other] at anchor; cases anchor
  · intro anchor
    rw [aliases.resolve_key linked, aliases.resolve_id linked listed, Store.pointerOf?_eq,
      Store.pointerOf?_eq, if_pos anchor, if_pos anchor]
    exact ⟨rfl, rfl⟩

/-! ### A document with an anchor -/

/-- A document with a definition that is named by an anchor. -/
def anchored : Document where
  value := .object [("$id", .string "i"), ("definitions", .object
    [("a", .object [("$id", .string "#name"), ("type", .string "string")])])]
  identity := .given 0

/-- A registry in which this document was added under another name, and one beside it. -/
def aliased : List Operation :=
  [.add anchored { key := some "k" }, .add ⟨.object [("$id", .string "b")], .given 1⟩ {}]

theorem aliased_facts :
    let s := ((create { serialize := .disabled, installMeta := false }).run aliased).store
    (s.entry? ⟨0⟩).map (fun e => (e.id, e.isMeta)) = some ("i", false) ∧
      s.schemas.find? "k" = some ⟨0⟩ ∧ s.isLive ⟨1⟩ = true ∧
      s.declares ⟨1⟩ "k" = false ∧ s.declares ⟨1⟩ "i" = false := by
  decide +kernel

/-- The definition is named alike by a pointer behind both names. -/
theorem run_aliases_pointer :
    let s := ((create { serialize := .disabled, installMeta := false }).run aliased).store
    s.resolve ⟨1⟩ ("k" ++ "#" ++ "/definitions/a") =
      s.resolve ⟨1⟩ ("i" ++ "#" ++ "/definitions/a") := by
  intro s
  obtain ⟨entry, named, live, foreign⟩ := aliased_facts
  obtain ⟨e, found, same⟩ := Option.map_eq_some_iff.1 entry
  obtain ⟨own, plain⟩ := Prod.mk.inj same
  have aliases : s.Aliases ⟨1⟩ ⟨0⟩ e "k" :=
    { found, named, live, identified := own ▸ by decide
      unmarked := own ▸ by decide, foreign := own ▸ foreign }
  obtain ⟨all, -, alike⟩ := run_aliases _ _ aliases
  have alike := (alike (all rfl plain) "/definitions/a").1 (by decide +kernel)
  rw [own] at alike
  exact alike

/-- The anchor denotes the definition behind the identifier of the document, and nothing behind the
    name that the document was added under. -/
theorem run_aliases_anchor :
    let s := ((create { serialize := .disabled, installMeta := false }).run aliased).store
    s.resolve ⟨1⟩ "i#name" = .fragment ⟨0⟩ "i" "/definitions/a"
        (.object [("$id", .string "#name"), ("type", .string "string")]) ∧
      s.resolve ⟨1⟩ "k#name" = .missing := by
  decide +kernel

end Registry

end JsonSchema
