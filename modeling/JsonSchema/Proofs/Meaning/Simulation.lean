import JsonSchema.Proofs.Compilation.Sound
import JsonSchema.Proofs.Meaning.Keywords
import JsonSchema.Proofs.Registry.References

/-!
# Compiled schemas mean what their documents mean

In a settled store whose entries were compiled with the keywords of draft-07, a compiled schema
accepts data exactly if the verdict on it is that the data satisfies the document, as long as no
reference is left out for being too deep.

* `World.Forms`: a compiled schema is the compiled form of a schema in a document.
* `World.Forms.follow`: references lead to compiled forms of what they denote.
* `World.all_keywordDemands`: the rules of a schema demand what its keywords demand.
* `World.accepts_of_within`: the verdict of a compiled schema.
-/

namespace JsonSchema

open Demand (Reads)

/-- A reference inside a document denotes the same in the whole document. -/
theorem Store.Linked.resolve_root {s : Store} (linked : s.Linked) {id : EntryId} {e : Entry}
    (found : s.entry? id = some e) (reference : String) :
    s.resolve e.root reference = s.resolve id reference := by
  obtain ⟨d, foundD, -, root⟩ := linked.root_entry found
  simp only [resolve, found, foundD, root, Option.bind_eq_bind, Option.bind_some]

/-- Every keyword of draft-07 is simple, and `$ref` only informs. -/
theorem Draft07.plain (keyword : Keyword) (mem : keyword ∈ Draft07.keywords) :
    keyword.isSimple = true ∧ (keyword.name = "$ref" → keyword.behavior = .informative) := by
  have all_ : (Draft07.keywords.all fun keyword =>
      keyword.isSimple && (decide (keyword.name ≠ "$ref") || keyword.behavior.isInformative)) =
      true := by decide
  obtain ⟨simple, informs⟩ := Bool.and_eq_true_iff.1 (List.all_eq_true.1 all_ keyword mem)
  refine ⟨simple, fun reference => ?_⟩
  rw [decide_eq_false (not_not_intro reference), Bool.false_or] at informs
  cases behavior : keyword.behavior with
  | informative => rfl
  | _ =>
    rw [behavior] at informs
    cases informs

theorem Site.base_inside (site : Site) (members : Members) :
    (site.inside members).base = Compiler.innerBase members site.base site.applyId := by
  unfold inside Compiler.innerBase
  cases members.get? "$id" with
  | none => rfl
  | some id => cases id <;> cases site.applyId <;> rfl

/-! ## Compiled forms -/

namespace World

/-- How the entry `id` of a world was compiled. -/
structure Compiles (w : World) (id : EntryId) (e : Entry) (compiler : Compiler) : Prop where
  found : w.store.entry? id = some e
  extendRefs : compiler.options.extendRefs = w.extendRefs
  formats : compiler.formats = w.formats e.root e.pointer
  ordered : compiler.vocabulary.ordered = Draft07.keywords

/-- Everything in a world that is compiled was compiled from its own document. -/
structure IsCompiled (w : World) (K : EntryId → Compiler → Prop) : Prop where
  settled : w.store.Settled K
  forms : ∀ id e node refs, w.store.entry? id = some e → e.progress = .done node refs →
    ∃ compiler fuel underMeta, w.Compiles id e compiler ∧
      compiler.Compiled refs fuel e.document (e.place id underMeta) node

/-- A compiled schema is the compiled form of a schema in a document. -/
def Forms (w : World) (site : Site) (node : Node) : Prop :=
  ∃ id e compiler fuel place, w.Compiles id e compiler ∧ e.root = site.root ∧
    e.pointer = site.pointer ∧ place.base = site.base ∧ place.applyId = site.applyId ∧
    compiler.Compiled e.refs fuel site.schema place node

variable {w : World} {K : EntryId → Compiler → Prop} (compiled : w.IsCompiled K)

include compiled

/-- What is compiled is the compiled form of its document. -/
theorem IsCompiled.forms_entry {id : EntryId} {e : Entry} {node : Node}
    {refs : Bindings String EntryId} (found : w.store.entry? id = some e)
    (done : e.progress = .done node refs) : w.Forms e.site node := by
  obtain ⟨compiler, fuel, underMeta, compiles, shape⟩ := compiled.forms id e node refs found done
  refine ⟨id, e, compiler, fuel, e.place id underMeta, compiles, rfl, rfl, rfl, rfl, ?_⟩
  rw [Entry.refs, done]
  exact shape

/-! ## References -/

/-- What a bound reference denotes in the document is the document, or the part of one, that the
    entry it is bound to holds. -/
theorem IsCompiled.target?_eq {id target : EntryId} {e t : Entry} {site : Site} {reference : String}
    (found : w.store.entry? id = some e) (root : e.root = site.root)
    (denotes : w.store.Denotes id (resolveUrl site.base reference) target)
    (foundT : w.store.entry? target = some t) : w.target? site reference = some t.site := by
  have linked := compiled.settled.linked
  rw [target?, ← root, linked.resolve_root found]
  unfold Store.Denotes at denotes
  split at denotes
  · next resolved =>
    subst denotes
    simp only [resolved, foundT, Option.map_some]
  · next root base pointer part resolved =>
    obtain ⟨t', foundT', rootT, pointerT, nonempty, cuts⟩ := linked.fragment_cuts denotes
    rw [foundT] at foundT'
    cases foundT'
    obtain ⟨rfl, rfl⟩ := cuts.unique (Store.resolve_eq_fragment_iff.1 resolved).2.2
    have part : t.isFragment = true := Store.isFragment_eq_true_iff.2 (pointerT ▸ nonempty)
    simp only [resolved, Entry.site, rootT, pointerT, part]
  · exact denotes.elim

/-- A bound reference leads to the compiled form of what it denotes. -/
theorem IsCompiled.follow {id target : EntryId} {e : Entry} {site : Site} {reference : String}
    (found : w.store.entry? id = some e) (root : e.root = site.root)
    (bound : e.refs.find? (resolveUrl site.base reference) = some target) :
    ∃ place schema, w.target? site reference = some place ∧ w.store.slots target = some schema ∧
      w.Forms place schema := by
  have settled := compiled.settled
  have mem := Bindings.mem_of_find? bound
  have denotes := settled.current id e found _ mem
  obtain ⟨node, done⟩ := settled.done_of_mem_refs found mem
  obtain ⟨t, schema, refs, foundT, doneT⟩ :=
    settled.started_done (settled.leads id e node e.refs found done _ mem)
  refine ⟨t.site, schema, compiled.target?_eq found root denotes foundT, ?_,
    compiled.forms_entry foundT doneT⟩
  rw [Store.slots, foundT, Option.bind_some, doneT]
  rfl

omit compiled

/-! ## Keywords -/

section Rules

variable {site : Site} {members : Members} {data : Value} {place : Place} {N : NodeRelation}
  {compiler : Compiler} {verdict : Part Site → Bool} {accept : Part Node → Bool}

/-- The compiled forms of the parts of a schema are related to the parts by some relation. -/
structure Around (w : World) (N : NodeRelation) (compiler : Compiler) (site : Site)
    (place : Place) : Prop where
  base : place.base = site.base
  ordered : compiler.vocabulary.ordered = Draft07.keywords
  formats : compiler.formats = w.formats site.root site.pointer
  forms : ∀ value node, N.Inside site.base value node → w.Forms (site.holding value) node

variable (around : w.Around N compiler site place)
  (idle : ∀ q : Part Node, q.IsIdle → accept q = true)

include around idle

/-- A rule demands what its keyword demands. -/
theorem all_keywordDemands {keyword : Keyword} {value : Value} {rule? : Option (Rule Check)}
    (simple : keyword.isSimple = true) (present : members.get? keyword.name = some value)
    (shape : compiler.RuleShape N { keyword, value, siblings := members, place } rule?)
    (agree : ∀ d ∈ w.keywordDemands site members data keyword, ∀ p ∈ d.uses verdict, ∀ q,
      p.Matches w.Forms q → verdict p = accept q) :
    rule?.all (Rule.holds (fun _ => false) true accept accept data) =
      (w.keywordDemands site members data keyword).all (·.met verdict verdict) := by
  let holding (p : Part Value) : Bool := verdict (p.map site.holding)
  rw [keywordDemands, present] at agree ⊢
  have holds : rule?.all (Rule.holds (fun _ => false) true accept accept data) =
      keyword.holds compiler.formats (fun _ => false) true holding holding members data value := by
    refine shape.holds_eq simple (fun applies d mem p of q hq => ?_) idle
    simp only at applies
    simp only [applies, if_true] at agree
    rw [around.formats] at mem
    have same : holding p = accept q := by
      refine agree _ (List.mem_map_of_mem mem) _ ?_ q ⟨hq.way, hq.data, ?_⟩
      · rw [Demand.uses_map]
        exact List.mem_map_of_mem of
      · exact around.forms _ _ (around.base ▸ hq.schema)
    exact ⟨same, same⟩
  rw [holds, Keyword.holds, around.formats]
  simp only
  cases keyword.appliesTo data with
  | false => rfl
  | true =>
    rw [if_pos rfl, List.all_map]
    exact all_eq_of_mem fun d _ => (Demand.met_map _ verdict verdict d).symm

/-- The rules of a schema demand what its keywords demand. -/
theorem all_objectDemands {rules : List (Rule Check)}
    (shape : compiler.RulesShape N members place rules)
    (agree : ∀ d ∈ w.objectDemands site members data, ∀ p ∈ d.uses verdict, ∀ q,
      p.Matches w.Forms q → verdict p = accept q) :
    (w.objectDemands site members data).all (·.met verdict verdict) =
      rules.all (Rule.holds (fun _ => false) true accept accept data) := by
  let met (keyword : Keyword) : Bool :=
    (w.keywordDemands site members data keyword).all (·.met verdict verdict)
  rw [shape.all_eq (g := fun keyword _ => met keyword) ?_, objectDemands, List.all_flatMap,
    around.ordered]
  · refine all_eq_of_mem fun keyword mem => ?_
    by_cases reference : keyword.name = "$ref"
    · have informs := (Draft07.plain keyword mem).2 reference
      rw [decide_eq_true reference, Bool.true_or, keywordDemands]
      cases members.get? keyword.name with
      | none => rfl
      | some value => simp [Keyword.meaning, informs]
    · rw [decide_eq_false reference, Bool.false_or]
      cases present : members.get? keyword.name with
      | none => simp [keywordDemands, present]
      | some value => rfl
  · rw [around.ordered]
    intro keyword mem _ value rule? present shape
    exact all_keywordDemands around idle (Draft07.plain keyword mem).1 present shape fun d memD =>
      agree d (List.mem_flatMap.2 ⟨keyword, mem, memD⟩)

end Rules

/-! ## Schemas -/

section Schemas

variable (compiled : w.IsCompiled K) {hops : Nat}

/-- Whether a compiled schema accepts data, if all outcomes are known at once. -/
abbrev accepts (w : World) (node : Node) (data : Value) (hops : Nat) : Bool :=
  node.accepts w.store.slots (fun _ => false) true data hops

/-- Whether the compiled form of a part accepts what it is applied to. -/
abbrev acceptsPart (w : World) (hops : Nat) (q : Part Node) : Bool :=
  Node.acceptsPart w.store.slots (fun _ => false) true hops q

include compiled

/-- A reference demands what its proxy in a compiled schema demands. -/
theorem met_referenceDemand {id target : EntryId} {e : Entry} {site : Site} {reference : String}
    {data : Value} {verdict : Part Site → Bool} (found : w.store.entry? id = some e)
    (root : e.root = site.root)
    (bound : e.refs.find? (resolveUrl site.base reference) = some target)
    (near : ∀ p ∈ (w.referenceDemand site reference data).uses verdict, p.way = .follow →
      hops < maxHops)
    (agree : ∀ p ∈ (w.referenceDemand site reference data).uses verdict, ∀ q : Part Node,
      p.Matches w.Forms q → verdict p = w.acceptsPart hops q) :
    (w.referenceDemand site reference data).met verdict verdict =
      w.accepts (.ref target (resolveUrl site.base reference)) data hops := by
  obtain ⟨place, schema, denoted, slot, forms⟩ := compiled.follow found root bound
  rw [referenceDemand, denoted] at near agree ⊢
  have hop := near _ List.mem_cons_self rfl
  rw [accepts, Node.accepts_ref _ _ _ _ _ hop slot]
  exact (Bool.and_true _).trans (agree _ List.mem_cons_self (.follow schema data) ⟨rfl, rfl, forms⟩)

/-- A compiled schema accepts data exactly if the verdict on the data is that it satisfies the
    schema, within the number of references that are followed. -/
theorem accepts_of_within {site : Site} {data : Value} (within : w.Within hops site data)
    {node : Node} (forms : w.Forms site node) :
    w.Judges site data (w.accepts node data hops) := by
  induction within generalizing node with
  | @intro hops site data verdict judged near parts ih =>
    have agree : ∀ d ∈ w.demands site data, ∀ p ∈ d.uses verdict, ∀ q : Part Node,
        p.Matches w.Forms q → verdict p = w.acceptsPart hops q := by
      intro d mem p of q hq
      have judges := ih d mem p of hq.schema
      rw [acceptsPart, Node.acceptsPart, ← hq.way, ← hq.data]
      exact (judged d mem p of).unique judges
    have idle : ∀ q : Part Node, q.IsIdle → w.acceptsPart hops q = true := by
      intro q hq
      rw [acceptsPart, Node.acceptsPart, show q.schema = .always true from hq, Node.accepts_always]
    suffices same : (w.demands site data).all (·.met verdict verdict) = w.accepts node data hops from
      same ▸ .intro verdict judged
    obtain ⟨id, e, compiler, fuel, place, compiles, root, pointer, base, applyId, shape⟩ := forms
    cases fuel with
    | zero => exact shape.elim
    | succ fuel =>
      unfold demands at agree near ⊢
      cases hs : site.schema with
      | bool b =>
        rw [hs] at shape
        rw [show node = .always b from shape]
        exact (Bool.and_true b).trans (Node.accepts_always _ _ _ _ _ b).symm
      | object members =>
        rw [hs] at agree near shape
        simp only [Compiler.Compiled, Compiler.NodeShape] at agree near shape ⊢
        have inner : Compiler.innerBase members place.base place.applyId =
            (site.inside members).base := by
          rw [Site.base_inside, base, applyId]
        have around : w.Around (compiler.Compiled e.refs fuel) compiler (site.inside members)
            { place with
              base := Compiler.innerBase members place.base place.applyId, applyId := true } :=
          { base := inner, ordered := compiles.ordered
            formats := by simpa [← root, ← pointer] using compiles.formats
            forms := by
              rintro value node ⟨place, base, applyId, shape⟩
              exact ⟨id, e, compiler, fuel, place, compiles, root.trans (Site.root_inside _ _).symm,
                pointer.trans (Site.pointer_inside _ _).symm, base,
                applyId.trans (Site.applyId_inside _ _).symm, shape⟩ }
        split at shape
        · next missing =>
          obtain ⟨rules, shape, rfl⟩ := shape
          rw [missing] at agree near ⊢
          rw [accepts, Compiler.accepts_ofRules]
          exact all_objectDemands around idle shape agree
        · next text present =>
          obtain ⟨reference, target, rfl, bound, shape⟩ := shape
          rw [present] at agree near ⊢
          simp only at agree near ⊢
          rw [inner] at bound
          have followed := met_referenceDemand compiled compiles.found
            (root.trans (Site.root_inside _ _).symm) bound
            (near _ List.mem_cons_self) (agree _ List.mem_cons_self)
          rw [compiles.extendRefs] at shape
          split at shape
          · next applies =>
            obtain ⟨rules, shape, rfl⟩ := shape
            rw [if_pos applies] at agree ⊢
            rw [accepts, Compiler.accepts_ofRules, List.all_cons, List.all_cons, followed,
              all_objectDemands around idle shape fun d mem => agree d (List.mem_cons_of_mem _ mem),
              Compiler.holds_referenceRule _ _ _ _ _ rfl, inner]
          · next other =>
            rw [if_neg other, List.all_cons, List.all_nil, Bool.and_true, followed, shape, inner]
      | _ =>
        rw [hs] at shape
        exact shape.elim

end Schemas

end World

end JsonSchema
