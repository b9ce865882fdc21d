import JsonSchema.Proofs.Validation.Acceptance
import JsonSchema.Proofs.Validation.Mirroring

/-!
# Mirrored schemas accept the same data

Two compiled schemas that mirror each other accept the same data, even if the outcomes of some
tests are known at once in one of them and only later in the other one: acceptance asks when the
outcome of a keyword is known of the name of the keyword, and not of the test.

* `Check.Mirrors.demands`: mirrored keywords demand the same of related schemas.
* `Rule.Mirrors.holds_eq`: mirrored keywords hold together.
* `Mirroring.accepts_eq`: related schemas accept the same data.
-/

namespace JsonSchema

/-- Two parts of the same data, with related schemas. -/
structure Part.Mirrors (Q : Node → Node → Prop) (p q : Part Node) : Prop where
  way : p.way = q.way
  data : p.data = q.data
  schema : Q p.schema q.schema

section Demands

variable {Q : Node → Node → Prop}

/-- Related schemas, one by one, are related wherever they are applied. -/
theorem Part.Mirrors.heres {as bs : List Node} (h : List.Forall₂ Q as bs) (data : Value) :
    List.Forall₂ (Part.Mirrors Q) (as.map (.here · data)) (bs.map (.here · data)) := by
  rw [List.forall₂_map_left_iff, List.forall₂_map_right_iff]
  exact h.imp fun a b r => ⟨rfl, rfl, r⟩

/-- Two schemas that are related are related at every place below. -/
theorem Part.Mirrors.belows {α : Type} {a b : Node} (h : Q a b) (list : List α) (data : α → Value) :
    List.Forall₂ (Part.Mirrors Q) (list.map fun x => .below a (data x))
      (list.map fun x => .below b (data x)) := by
  rw [List.forall₂_map_left_iff, List.forall₂_map_right_iff]
  exact List.forall₂_same.2 fun x _ => ⟨rfl, rfl, h⟩

theorem Part.Mirrors.optional {a? b? : Option Node} (h : Option.Rel Q a? b?) (data : Value) :
    Option.Rel (Part.Mirrors Q) (a?.map (.here · data)) (b?.map (.here · data)) := by
  cases h with
  | none => exact .none
  | some h => exact .some ⟨rfl, rfl, h⟩

theorem Dependency.Mirrors.demand {d d' : Dependency Node} (h : d.Mirrors Q d') (members : Members) :
    (d.demand members).Related (Part.Mirrors Q) (d'.demand members) := by
  cases h with
  | names required => exact .settled _
  | schema h => exact .all (.cons ⟨rfl, rfl, h⟩ .nil)

/-- Mirrored keywords demand the same of related schemas. -/
theorem Check.Mirrors.demands {settled : Bool} {check check' : Check}
    (mirrors : check.Mirrors Q settled check') (data : Value) :
    List.Forall₂ (Demand.Related (Part.Mirrors Q)) (check.demands data) (check'.demands data) := by
  have single {d d' : Demand (Part Node)} (h : d.Related (Part.Mirrors Q) d') :
      List.Forall₂ (Demand.Related (Part.Mirrors Q)) [d] [d'] := .cons h .nil
  cases mirrors with
  | assertion | predicate | deferred | awaited => exact single (.settled _)
  | remark objection verdict => exact single (.settled verdict)
  | beneath steps message => exact single (.settled false)
  | probe => exact .nil
  | apply h => exact single (.all (.cons ⟨rfl, rfl, h⟩ .nil))
  | verdict h => exact single (.any (.cons ⟨rfl, rfl, h⟩ .nil))
  | not h => exact single (.refusal ⟨rfl, rfl, h⟩)
  | allOf h => exact single (.all (Part.Mirrors.heres h data))
  | anyOf h => exact single (.any (Part.Mirrors.heres h data))
  | oneOf h => exact single (.one (Part.Mirrors.heres h data))
  | conditional h hy hn =>
    exact single (.branch ⟨rfl, rfl, h⟩ (Part.Mirrors.optional hy data) (Part.Mirrors.optional hn data))
  | children h => exact single (.all (Part.Mirrors.belows h data.children (·.2)))
  | @properties as bs h =>
    cases data with
    | object members =>
      refine single (.all (List.rel_filterMap (fun a b r => ?_) h))
      obtain ⟨name, related⟩ := r
      rw [← name]
      cases Members.get? members a.1 with
      | none => exact .none
      | some value => exact .some ⟨rfl, rfl, related⟩
    | _ => exact .nil
  | patternProperties h =>
    cases data with
    | object members =>
      refine single (.all (List.rel_flatMap h fun a b r => ?_))
      obtain ⟨pattern, related⟩ := r
      rw [← pattern]
      exact Part.Mirrors.belows related _ _
    | _ => exact .nil
  | additionalProperties known patterns h =>
    cases data with
    | object members => exact single (.all (Part.Mirrors.belows h (extra known patterns members) (·.2)))
    | _ => exact .nil
  | propertyNames h =>
    cases data with
    | object members =>
      refine single (.all ?_)
      rw [List.forall₂_map_left_iff, List.forall₂_map_right_iff]
      exact List.forall₂_same.2 fun m _ => ⟨rfl, rfl, h⟩
    | _ => exact .nil
  | dependencies h =>
    cases data with
    | object members =>
      have kept := List.rel_filter (p := fun d => Members.contains members d.1)
        (q := fun d => Members.contains members d.1) (fun a b r => by simp only [r.1]) h
      show List.Forall₂ _ (List.map _ _) (List.map _ _)
      rw [List.forall₂_map_left_iff, List.forall₂_map_right_iff]
      exact kept.imp fun a b r => r.2.demand members
    | _ => exact .nil
  | eachItem h =>
    cases data with
    | array items => exact single (.all (Part.Mirrors.belows h items id))
    | _ => exact .nil
  | tuple h =>
    cases data with
    | array items =>
      refine single (.all ?_)
      rw [List.forall₂_map_left_iff, List.forall₂_map_right_iff]
      induction h generalizing items with
      | nil => exact .nil
      | cons head tail ih =>
        cases items with
        | nil => exact .nil
        | cons item items => exact .cons ⟨rfl, rfl, head⟩ (ih items)
    | _ => exact .nil
  | additionalItems offset h =>
    cases data with
    | array items => exact single (.all (Part.Mirrors.belows h (items.drop offset) id))
    | _ => exact .nil
  | contains h =>
    cases data with
    | array items => exact single (.any (Part.Mirrors.belows h items id))
    | _ => exact .nil

/-- Mirrored keywords hold together if the verdicts on related parts agree. -/
theorem Rule.Mirrors.holds_eq {settled : Bool} {a b : Rule Check} (mirrors : a.Mirrors Q settled b)
    {later : String → Bool} {tried : Bool} {data : Value} {kept granted kept' granted' : Part Node → Bool}
    (same : ∀ p q, a.check.Applies data p → p.Mirrors Q q →
      kept p = kept' q ∧ granted p = granted' q) :
    a.holds later tried kept granted data = b.holds later tried kept' granted' data := by
  have applies : a.appliesTo data = b.appliesTo data := by
    rw [appliesTo, appliesTo, mirrors.types]
  have demands : (a.check.demands data).all (·.met kept granted) =
      (b.check.demands data).all (·.met kept' granted') :=
    Demand.all_eq_of_forall₂ (mirrors.check.demands data) fun d d' mem related =>
      related.met_eq fun p q uses => same p q <|
        Check.applies_of_mem_demands mem (d.uses_subset granted p uses)
  rw [holds, holds, applies, mirrors.keyword, demands]

end Demands

/-! ## Schemas -/

/-- If all outcomes are known at once, it makes no difference whether a schema is only tried. -/
theorem Node.accepts_tried {table : SlotTable} (tried : Bool) (node : Node) (data : Value) (hops : Nat) :
    node.accepts table (fun _ => false) tried data hops =
      node.accepts table (fun _ => false) true data hops := by
  induction node, data, hops using Node.induction with
  | always verdict data hops => rw [accepts_always, accepts_always]
  | ref target reference data hops ih =>
    by_cases hop : hops < maxHops
    · cases found : table target with
      | none =>
        rw [accepts_ref_missing _ _ _ _ _ found, accepts_ref_missing _ _ _ _ _ found]
      | some schema =>
        rw [accepts_ref _ _ _ _ _ hop found, accepts_ref _ _ _ _ _ hop found]
        exact ih hop schema
    · rw [accepts_ref_deep _ _ _ _ _ hop, accepts_ref_deep _ _ _ _ _ hop]
  | rules rules data hops here below =>
    rw [accepts_rules, accepts_rules]
    refine all_eq_of_mem fun rule mem => ?_
    have demands : (rule.check.demands data).all (·.met
        (acceptsPart table (fun _ => false) tried hops) (acceptsPart table (fun _ => false) true hops)) =
        (rule.check.demands data).all (·.met
          (acceptsPart table (fun _ => false) true hops) (acceptsPart table (fun _ => false) true hops)) := by
      refine all_eq_of_mem fun d memD => (Demand.met_congr fun p uses => ⟨?_, rfl⟩).1
      obtain ⟨part, ⟨way, same⟩ | lt⟩ :=
        Check.applies_of_mem_demands memD (d.uses_subset _ p uses)
      · rw [acceptsPart, acceptsPart, way, same]
        exact here rule mem p.schema part
      · exact below p.schema p.data (p.way.hops hops) lt
    rw [Rule.holds, Rule.holds, demands, Bool.and_false, Bool.and_false]

/-- Related schemas accept the same data. -/
theorem Mirroring.accepts_eq {settled : Bool} {T : EntryId → EntryId → Prop} {Q : Node → Node → Prop}
    {t t' : SlotTable} (mirroring : Mirroring settled T Q t t') (later : String → Bool) (tried : Bool)
    {a b : Node} (h : Q a b) (data : Value) (hops : Nat) :
    a.accepts t later tried data hops = b.accepts t' later tried data hops := by
  induction a, data, hops using Node.induction generalizing b tried with
  | always verdict data hops =>
    cases mirroring.nodes _ _ h
    rw [Node.accepts_always, Node.accepts_always]
  | ref target reference data hops ih =>
    cases mirroring.nodes _ _ h with
    | @ref _ target' reached =>
      by_cases hop : hops < maxHops
      · rcases option_rel_cases (mirroring.slots _ _ reached) with
          ⟨slot, slot'⟩ | ⟨a, b, slot, slot', related⟩
        · rw [Node.accepts_ref_missing _ _ _ _ _ slot, Node.accepts_ref_missing _ _ _ _ _ slot']
        · rw [Node.accepts_ref _ _ _ _ _ hop slot, Node.accepts_ref _ _ _ _ _ hop slot']
          exact ih hop a tried related
      · rw [Node.accepts_ref_deep _ _ _ _ _ hop, Node.accepts_ref_deep _ _ _ _ _ hop]
  | rules as data hops here below =>
    cases mirroring.nodes _ _ h with
    | @rules _ bs list =>
      rw [Node.accepts_rules, Node.accepts_rules]
      refine Demand.all_eq_of_forall₂ list fun a b mem mirrors => mirrors.holds_eq ?_
      intro p q applies related
      have accepts (tried : Bool) : Node.acceptsPart t later tried hops p =
          Node.acceptsPart t' later tried hops q := by
        rw [Node.acceptsPart, Node.acceptsPart, ← related.way, ← related.data]
        obtain ⟨part, ⟨way, same⟩ | lt⟩ := applies
        · rw [way, same]
          exact here a mem p.schema part tried related.schema
        · exact below p.schema p.data (p.way.hops hops) lt tried related.schema
      exact ⟨accepts tried, accepts true⟩

end JsonSchema
