import JsonSchema.Proofs.Validation.Calls

/-!
# Validations end

A validation in place ends under every table, also one with loops of references, and what it writes
is the report of the schema. The counter of references never goes below zero, and at the end of a
call it is what it was at its beginning.

* `Node.Completes`: a validation in place with some fuel writes the report of a schema.
* `Check.inPlace_writes`: a keyword does so if the schemas do that it applies.
* `Node.inPlace_completes`: so every schema does with enough fuel, by induction along its application.
* `Validator.inPlace_ends`: what a validation ends with, and how its calls are nested.
* `Validator.fails_of_stuck`: it fails if a reference is met that may not be followed any more,
  unless only a schema that is tried meets it.
-/

namespace JsonSchema

/-- The names of the members of an object, as values. -/
def Value.names : Value → List Value
  | object members => members.map fun m => string m.1
  | _ => []

/-- With some fuel, a validation in place of a part writes the report of its schema, wherever the
    counter of references is at `hops`. There is a fault if the schema refuses, unless it is only
    tried. -/
def Node.Completes (short : Prop) (table : SlotTable) (fuel hops : Nat) (part : Part Node) : Prop :=
  ∀ (tried : Bool) (calls : List Call) (scope : Scope), scope.hops = hops →
    Call.Open table (⟨part, hops, tried⟩ :: calls) →
    Course.Writes short table calls scope
      (tried = false ∧ (part.schema.run table part.data scope).valid = false)
      (Node.inPlace table fuel tried part) (part.schema.run table part.data scope).valid
      (part.schema.run table part.data scope)

/-! ## Keywords -/

section Keywords

open Course (Writes)
open Course.InPlace

variable {short : Prop} {table : SlotTable} {calls : List Call} {scope : Scope} {data : Value}

/-! ### Several verdicts -/

theorem Report.runUntil_discard {α : Type} (n : Nat) (parts : List α) (run : α → Report) :
    runUntil (·.valid) n parts (fun part => (run part).discard) =
      (runUntil (·.valid) n parts run).map discard := by
  induction parts generalizing n with
  | nil => cases n <;> rfl
  | cons part rest ih =>
    cases n with
    | zero => rfl
    | succ n => exact congrArg (List.cons _) (ih _)

theorem Report.concat_map_discard (reports : List Report) :
    concat (reports.map discard) = (concat reports).discard := by
  induction reports with
  | nil => rfl
  | cons report rest ih =>
    show report.discard ++ concat (rest.map discard) = _
    rw [ih]
    rfl

theorem Report.any_map_discard (reports : List Report) :
    (reports.map discard).any (·.valid) = reports.any (·.valid) := List.any_map

namespace Course.Writes

variable {α : Type} {parts : List α} {step : α → Course.InPlace Bool} {run : α → Report}
  {m : Course.InPlace Bool} {fault : Prop} {report : Report}

theorem ofName (name : String)
    (h : Writes short table calls scope (report.valid = false) m report.valid report) :
    Writes short table calls scope ((Report.ofName scope name report).valid = false)
      (InPlace.orRefuse (InPlace.because ("property name '" ++ name ++ "' is invalid")
        [("propertyName", .string name)]) m)
      (Report.ofName scope name report).valid (Report.ofName scope name report) := by
  rw [Report.ofName]
  cases accepted : report.valid with
  | true =>
    rw [accepted] at h
    rw [if_pos rfl, accepted]
    exact h.orRefuse _
  | false =>
    rw [accepted] at h
    exact h.orRefuse _

/-- Items of which only the verdicts are kept. -/
theorem ofContains (h : ∀ part ∈ parts,
      Writes short table calls scope fault (step part) (run part).valid (run part).discard) :
    Writes short table calls scope fault
      (InPlace.orRefuse (InPlace.because "should contain a valid item" [])
        (InPlace.seek parts step))
      (Report.ofContains scope (Report.runUntil (·.valid) 1 parts run)).valid
      (Report.ofContains scope (Report.runUntil (·.valid) 1 parts run)) := by
  let quiet (part : α) : Report := (run part).discard
  have all := (seek (show ∀ part ∈ parts, Writes short table calls scope fault (step part)
    (quiet part).valid (quiet part) from h)).orRefuse
    (InPlace.because "should contain a valid item" [])
  rw [Report.runUntil_discard, Report.any_map_discard, Report.concat_map_discard] at all
  generalize Report.runUntil (·.valid) 1 parts run = reports at all ⊢
  rw [Report.ofContains]
  cases accepted : reports.any (·.valid) <;> rw [accepted] at all <;>
  · refine all.congr ?_
    rfl

theorem ofAnyOf (h : ∀ part ∈ parts,
      Writes short table calls scope fault (step part) (run part).valid (run part)) :
    Writes short table calls scope fault
      (InPlace.orRefuse (InPlace.because "should match some schema in anyOf" [])
        (InPlace.attempt id (InPlace.seek parts step)))
      (Report.ofAnyOf scope (Report.runUntil (·.valid) 1 parts run)).valid
      (Report.ofAnyOf scope (Report.runUntil (·.valid) 1 parts run)) := by
  have all := ((seek h).attempt id).orRefuse
    (InPlace.because "should match some schema in anyOf" [])
  generalize Report.runUntil (·.valid) 1 parts run = reports at all ⊢
  rw [Report.ofAnyOf]
  cases accepted : reports.any (·.valid) <;> rw [accepted] at all <;>
  · refine all.congr ?_
    rfl

/-- One more thing is said, whatever the verdict was. -/
theorem thenRefuse {α : Type} {a : α} {m : Course.InPlace α} {f : α → Course.InPlace Bool}
    {violation : Scope → Violation} (h : Writes short table calls scope fault m a report)
    (last : f a = InPlace.refuse violation) :
    Writes short table calls scope fault (m >>= f) false (report.refuse (violation scope)) := by
  have refused : Writes short table calls scope fault (f a) false (.fail (violation scope)) :=
    last ▸ refuse violation
  exact (h.bind refused).congr (report.append_fail _)

theorem ofOneOf (h : ∀ part ∈ parts,
      Writes short table calls scope fault (step part) (run part).valid (run part))
    {conclude : List Nat → Course.InPlace Bool}
    (none_ : conclude [] = InPlace.refuse
      (InPlace.because "should match exactly one schema in oneOf" [("passingSchemas", .null)]))
    (one : ∀ i, conclude [i] = Pure.pure true)
    (many : ∀ i j rest, conclude (i :: j :: rest) = InPlace.refuse
      (InPlace.because "should match exactly one schema in oneOf"
        [("passingSchemas", .array ((i :: j :: rest).map .ofNat))])) :
    Writes short table calls scope fault
      (InPlace.attempt (!·.isEmpty) (InPlace.gather 2 0 parts step) >>= conclude)
      (Report.ofOneOf scope (Report.runUntil (·.valid) 2 parts run)).valid
      (Report.ofOneOf scope (Report.runUntil (·.valid) 2 parts run)) := by
  have all := (gather (n := 2) (i := 0) h).attempt (!·.isEmpty)
  generalize Report.runUntil (·.valid) 2 parts run = reports at all ⊢
  change Writes _ _ _ _ _ _ (Report.passing reports) _ at all
  rw [Report.ofOneOf]
  change Writes _ _ _ _ _ _ _ (if !(Report.passing reports).isEmpty then _ else _) at all
  cases found : Report.passing reports with
  | nil =>
    rw [found] at all
    exact all.thenRefuse none_
  | cons i rest =>
    rw [found] at all
    cases rest with
    | nil =>
      refine (all.last (one i)).congr ?_
      rfl
    | cons j rest =>
      refine (all.thenRefuse (many i j rest)).congr ?_
      rfl

theorem ofNot (h : Writes short table calls scope fault m report.valid report) :
    Writes short table calls scope fault
      (do if ← InPlace.test m then InPlace.refuse (InPlace.because "should NOT be valid" [])
          else return true)
      (Report.ofNot scope report).valid (Report.ofNot scope report) := by
  rw [Report.ofNot]
  cases accepted : report.valid with
  | true =>
    rw [accepted] at h
    refine h.test.thenRefuse (?_ : _ = InPlace.refuse (InPlace.because "should NOT be valid" []))
    rfl
  | false =>
    rw [accepted] at h
    refine (h.test.last ?_).congr ?_ <;> rfl

/-- A branch that has to hold, behind a condition of which only the verdict is kept. -/
theorem ofBranch {condition : Report} {α : Type} {a : α} {test : Course.InPlace α}
    {f : α → Course.InPlace Bool} (name : String)
    (first : Writes short table calls scope False test a condition.discard)
    (h : Writes short table calls scope (report.valid = false) m report.valid report)
    (last : f a = InPlace.orRefuse (InPlace.because ("should match \"" ++ name ++ "\" schema")
      [("failingKeyword", .string name)]) m) :
    Writes short table calls scope ((Report.ofBranch scope condition name report).valid = false)
      (test >>= f) (Report.ofBranch scope condition name report).valid
      (Report.ofBranch scope condition name report) := by
  have branch := h.orRefuse (InPlace.because ("should match \"" ++ name ++ "\" schema")
    [("failingKeyword", .string name)])
  rw [← last] at branch
  have all := (first.weaken False.elim).bind branch
  have whole : Report.ofBranch scope condition name report =
      if report.valid then { condition.discard with valid := true } ++ report
      else ({ condition.discard with valid := true } ++ report).refuse (InPlace.because
        ("should match \"" ++ name ++ "\" schema") [("failingKeyword", .string name)] scope) := rfl
  rw [whole]
  cases accepted : report.valid with
  | true =>
    have joined : ({ condition.discard with valid := true } ++ report).valid = true := accepted
    rw [accepted] at all
    rw [if_pos rfl, joined]
    refine (all.weaken nofun).congr ?_
    rfl
  | false =>
    rw [accepted] at all
    refine (all.weaken fun _ => rfl).congr ?_
    rfl

theorem beneath {violation : Scope → Violation} (steps : List String) :
    Writes short table calls scope fault (steps.foldr InPlace.descend (InPlace.refuse violation)) false
      (.fail (violation (steps.foldl Scope.below scope))) := by
  induction steps generalizing scope with
  | nil => exact refuse violation
  | cons step rest ih => exact ih.descend

/-- A keyword that says something if it refuses. -/
theorem explain {rule : Rule Check}
    (h : Writes short table calls (scope.within rule) (report.valid = false) m report.valid report) :
    Writes short table calls scope (((scope.within rule).explain report).valid = false)
      (InPlace.within rule (InPlace.explaining (InPlace.because
        ("should pass \"" ++ rule.keyword ++ "\" keyword validation")
        [("keyword", .string rule.keyword)]) m))
      ((scope.within rule).explain report).valid ((scope.within rule).explain report) := by
  have all := (h.explaining (InPlace.because
    ("should pass \"" ++ rule.keyword ++ "\" keyword validation")
    [("keyword", .string rule.keyword)])).within
  have same : ((scope.within rule).explain report).valid = report.valid := by
    rw [Scope.explain]
    split
    · next silent =>
      simp only [Bool.and_eq_true, Bool.not_eq_true'] at silent
      exact silent.1.symm
    · rfl
  rw [same]
  exact all

end Course.Writes

theorem Check.inPlace_writes {check : Check} {apply : Bool → Part Node → Course.InPlace Bool}
    (here : ∀ schema ∈ check.parts, ∀ value ∈ data :: data.names, ∀ tried,
      Writes short table calls scope (tried = false ∧ (schema.run table value scope).valid = false)
        (apply tried (.here schema value)) (schema.run table value scope).valid
        (schema.run table value scope))
    (below : ∀ schema ∈ check.parts, ∀ v ∈ data.children, ∀ tried,
      Writes short table calls (scope.below v.1)
        (tried = false ∧ (schema.run table v.2 (scope.below v.1)).valid = false)
        (apply tried (.below schema v.2)) (schema.run table v.2 (scope.below v.1)).valid
        (schema.run table v.2 (scope.below v.1))) :
    Writes short table calls scope ((check.run table data scope).valid = false)
      (check.inPlace apply data) (check.run table data scope).valid
      (check.run table data scope) := by
  have here_ (schema) (mem : schema ∈ check.parts) (value) (of : value ∈ data :: data.names) :=
    (here schema mem value of false).of_kept
  have trial {fault : Prop} (schema) (mem : schema ∈ check.parts) :
      Writes short table calls scope fault (apply true (.here schema data))
        (schema.run table data scope).valid (schema.run table data scope) :=
    (here schema mem data List.mem_cons_self true).of_tried
  have child (schema) (mem : schema ∈ check.parts) (v) (of : v ∈ data.children) :=
    (below schema mem v of false).of_kept.descend
  cases check with
  | assertion a =>
    rw [run_assertion]
    exact .object _
  | apply schema =>
    rw [run_apply]
    exact here_ schema List.mem_cons_self data List.mem_cons_self
  | properties schemas =>
    cases data with
    | object members =>
      rw [run_properties]
      refine .each fun s mem => ?_
      cases found : Members.get? members s.1 with
      | some value =>
        exact child s.2 (List.mem_map_of_mem mem) (s.1, value) (Members.mem_of_get? found)
      | none => exact .pure true
    | _ => simp only [run]; exact .pure true
  | patternProperties schemas =>
    cases data with
    | object members =>
      rw [run_patternProperties]
      refine .each fun s mem => .each fun m of => ?_
      exact child s.2 (List.mem_map_of_mem mem) m (List.mem_filter.1 of).1
    | _ => simp only [run]; exact .pure true
  | additionalProperties known patterns schema =>
    cases data with
    | object members =>
      rw [run_additionalProperties]
      refine .each fun m of => ?_
      split
      · exact (Writes.refuse _).descend
      · exact child schema List.mem_cons_self m (List.mem_filter.1 of).1
    | _ => simp only [run]; exact .pure true
  | propertyNames schema =>
    cases data with
    | object members =>
      rw [run_propertyNames]
      refine .each fun m of => .ofName m.1 ?_
      exact here_ schema List.mem_cons_self (.string m.1)
        (List.mem_cons_of_mem _ (List.mem_map_of_mem of))
    | _ => simp only [run]; exact .pure true
  | dependencies ds =>
    cases data with
    | object members =>
      rw [run_dependencies]
      refine .each fun d mem => ?_
      obtain ⟨property, dependency⟩ := d
      cases dependency with
      | names names => exact .object _
      | schema schema =>
        exact here_ schema (mem_parts_dependencies.2 ⟨_, (List.mem_filter.1 mem).1⟩) _
          List.mem_cons_self
    | _ => simp only [run]; exact .pure true
  | eachItem schema =>
    cases data with
    | array items =>
      rw [run_eachItem]
      refine .each fun v mem => ?_
      exact child schema List.mem_cons_self (toString v.2, v.1) (List.mem_map_of_mem mem)
    | _ => simp only [run]; exact .pure true
  | tuple schemas =>
    cases data with
    | array items =>
      rw [run_tuple]
      refine .each fun v mem => ?_
      have both := List.getElem?_zip_eq_some.1 (List.mem_zipIdx_iff_getElem?.1 mem)
      refine child v.1.1 (List.mem_of_getElem? both.1) (toString v.2, v.1.2) ?_
      exact List.mem_map.2 ⟨(v.1.2, v.2), List.mem_zipIdx_iff_getElem?.2 both.2, rfl⟩
    | _ => simp only [run]; exact .pure true
  | additionalItems offset schema =>
    cases data with
    | array items =>
      rw [run_additionalItems]
      simp only [inPlace]
      split
      · exact .refuse _
      · refine .each fun v mem => ?_
        exact child schema List.mem_cons_self (toString v.2, v.1)
          (List.mem_map_of_mem (List.mem_of_mem_drop mem))
    | _ => simp only [run]; exact .pure true
  | contains schema =>
    cases data with
    | array items =>
      rw [run_contains]
      refine .ofContains fun v mem => ?_
      exact (below schema List.mem_cons_self (toString v.2, v.1) (List.mem_map_of_mem mem)
        true).of_tried.test.descend
    | _ => simp only [run]; exact .pure true
  | allOf schemas =>
    rw [run_allOf]
    exact .each fun schema mem => here_ schema mem data List.mem_cons_self
  | anyOf schemas =>
    rw [run_anyOf]
    exact .ofAnyOf trial
  | oneOf schemas =>
    rw [run_oneOf]
    exact .ofOneOf trial rfl (fun _ => rfl) fun _ _ _ => rfl
  | not schema =>
    rw [run_not]
    exact (trial schema List.mem_cons_self).ofNot
  | conditional condition yes no =>
    have test : Writes short table calls scope False _ _ _ :=
      (trial condition List.mem_cons_self).test
    have branch (schema) (mem : schema ∈ yes.toList ++ no.toList) :=
      here_ schema (List.mem_cons_of_mem _ mem) data List.mem_cons_self
    rw [run_conditional]
    cases holds : (condition.run table data scope).valid with
    | true =>
      rw [holds] at test
      cases yes with
      | none =>
        rw [if_pos rfl]
        show Writes short table calls scope ((condition.run table data scope).valid = false) _
          (condition.run table data scope).valid _
        rw [holds]
        exact (test.weaken False.elim).last rfl
      | some schema =>
        refine .ofBranch "then" test (branch schema ?_) rfl
        exact List.mem_append_left _ List.mem_cons_self
    | false =>
      rw [holds] at test
      cases no with
      | none =>
        refine ((test.weaken False.elim).last ?_).congr ?_ <;> rfl
      | some schema =>
        refine .ofBranch "else" test (branch schema ?_) rfl
        exact List.mem_append_right _ List.mem_cons_self
  | children schema =>
    rw [run_children]
    exact .each fun v mem => child schema List.mem_cons_self v mem
  | verdict schema =>
    rw [run_verdict]
    exact (trial schema List.mem_cons_self).test
  | predicate test traced =>
    rw [run]
    cases traced with
    | true =>
      refine .get fun c at_ _ => at_ ▸ ((Writes.trace (.tested c.keyword data)).last ?_).congr ?_ <;>
        rfl
    | false => exact (Writes.pure (test data)).congr rfl
  | deferred test =>
    rw [run]
    refine .get fun c at_ _ => at_ ▸ ((Writes.defer _).last ?_).congr ?_ <;> rfl
  | probe =>
    rw [run]
    refine .get fun c at_ _ =>
      at_ ▸ ((Writes.trace (.ran c.keyword c.dataPath data)).last ?_).congr ?_ <;> rfl
  | remark objection verdict =>
    rw [run]
    refine ((Writes.say (·.violation objection)).last ?_).congr ?_ <;> rfl
  | beneath steps message =>
    rw [run]
    exact .beneath steps

end Keywords

/-! ## Schemas -/

/-- A bound for each of finitely many things has a common one. -/
theorem exists_bound {α : Type} {Q : α → Nat → Prop} {list : List α}
    (each : ∀ a ∈ list, ∃ enough, ∀ fuel ≥ enough, Q a fuel) :
    ∃ enough, ∀ fuel ≥ enough, ∀ a ∈ list, Q a fuel := by
  induction list with
  | nil => exact ⟨0, fun _ _ _ mem => nomatch mem⟩
  | cons a rest ih =>
    obtain ⟨n, first⟩ := each a List.mem_cons_self
    obtain ⟨m, others⟩ := ih fun b mem => each b (List.mem_cons_of_mem _ mem)
    refine ⟨max n m, fun fuel enough b mem => ?_⟩
    rcases List.mem_cons.1 mem with rfl | mem
    · exact first fuel (Nat.le_trans (Nat.le_max_left n m) enough)
    · exact others fuel (Nat.le_trans (Nat.le_max_right n m) enough) b mem

theorem exists_bound_of_succ {Q : Nat → Prop} (h : ∃ enough, ∀ fuel ≥ enough, Q (fuel + 1)) :
    ∃ enough, ∀ fuel ≥ enough, Q fuel := by
  obtain ⟨n, h⟩ := h
  refine ⟨n + 1, fun fuel enough => ?_⟩
  cases fuel with
  | zero => exact absurd enough (Nat.not_succ_le_zero n)
  | succ fuel => exact h fuel (Nat.le_of_succ_le_succ enough)

theorem Value.near_of_mem_names {data value : Value} (mem : value ∈ data :: data.names) :
    value = data ∨ value.weight < data.weight := by
  rcases List.mem_cons.1 mem with rfl | mem
  · exact .inl rfl
  · cases data with
    | object members =>
      obtain ⟨m, of, rfl⟩ := List.mem_map.1 mem
      exact .inr (weight_string_lt of m.1)
    | _ => cases mem

namespace Node

variable {short : Prop} {table : SlotTable}

theorem always_completes (verdict : Bool) (data : Value) {fuel hops : Nat} (way : Way) :
    Completes short table (fuel + 1) hops ⟨way, .always verdict, data⟩ := by
  rintro tried calls scope rfl open_
  cases verdict with
  | true =>
    rw [run_true]
    exact .call open_ nofun (.pure true)
  | false =>
    rw [run_false]
    exact .call open_ nofun (.refuse _)

/-- A reference is followed if it leads to a schema and the limit is not reached. -/
theorem ref_completes {target : EntryId} {reference : String} {data : Value} {fuel hops : Nat}
    (inner : hops < maxHops → ∀ schema, table target = some schema →
      Completes short table fuel (hops + 1) (.follow schema data)) (way : Way) :
    Completes short table (fuel + 1) hops ⟨way, .ref target reference, data⟩ := by
  rintro tried calls scope rfl open_
  by_cases hop : scope.hops < maxHops
  · have stuck : maxHops ≤ scope.hops → ∀ id text, (Node.ref target reference) = .ref id text →
        ((Node.ref target reference).run table data scope).valid = false :=
      fun reached => absurd hop (Nat.not_lt.2 reached)
    refine .call open_ stuck (.get fun c at_ _ => ?_)
    rw [if_neg (Nat.not_le.2 (at_ ▸ hop : c.hops < maxHops))]
    cases found : table target with
    | none =>
      rw [run_ref_missing table data scope hop found]
      exact .refuse _
    | some schema =>
      have makes : Call.Makes table ⟨⟨way, .ref target reference, data⟩, scope.hops, tried⟩
          ⟨.follow schema data, scope.hops + 1, false⟩ := .follow rfl found hop
      have followed := inner hop schema found false _ scope.hop rfl (.next makes open_)
      rw [run_ref table data scope hop found]
      exact (followed.weaken And.right).follow
  · rw [run_ref_deep table data scope hop]
    refine .call open_ (fun _ _ _ _ => rfl) (.get fun c at_ _ => ?_)
    rw [if_pos (at_ ▸ Nat.not_lt.1 hop : maxHops ≤ c.hops)]
    exact .refuse _

theorem rules_completes {rules : List (Rule Check)} {data : Value} {fuel hops : Nat}
    (inner : ∀ rule ∈ rules, ∀ schema ∈ rule.check.parts,
      (∀ value ∈ data :: data.names, Completes short table fuel hops (.here schema value)) ∧
        ∀ v ∈ data.children, Completes short table fuel 0 (.below schema v.2)) (way : Way) :
    Completes short table (fuel + 1) hops ⟨way, .rules rules, data⟩ := by
  rintro tried calls scope rfl open_
  rw [run_rules]
  refine .call open_ nofun (.each fun rule mem => ?_)
  cases applies : rule.appliesTo data with
  | false => exact .pure true
  | true =>
    rw [if_pos rfl]
    refine .explain (Check.inPlace_writes (fun schema of value near tried' => ?_)
      fun schema of v child tried' => ?_)
    · refine (inner rule mem schema of).1 value near tried' _ _ rfl (.next (.here ?_ ?_) open_)
      · exact sizeOf_lt_of_mem_parts mem of
      · exact Value.near_of_mem_names near
    · refine (inner rule mem schema of).2 v child tried' _ _ rfl (.next (.below ?_ ?_) open_)
      · exact sizeOf_lt_of_mem_parts mem of
      · exact Value.weight_lt_of_mem_children child

/-- With any fuel, a validation in place writes the report of the schema or breaks off. -/
theorem inPlace_completes_or (table : SlotTable) (fuel : Nat) (part : Part Node) (hops : Nat) :
    Completes True table fuel hops part := by
  induction fuel generalizing part hops with
  | zero => exact fun _ _ _ _ _ => .exhausted
  | succ fuel ih =>
    obtain ⟨way, node, data⟩ := part
    cases node with
    | always verdict => exact always_completes verdict data way
    | ref target reference => exact ref_completes (fun _ _ _ => ih _ _) way
    | rules rules =>
      exact rules_completes (fun _ _ _ _ => ⟨fun _ _ => ih _ _, fun _ _ => ih _ _⟩) way

/-- What takes one more fuel for a schema than for those that it applies holds with enough fuel. -/
theorem exists_fuel {P : Nat → Nat → Node → Value → Prop}
    (always : ∀ fuel hops verdict data, P (fuel + 1) hops (.always verdict) data)
    (ref : ∀ fuel hops target reference data,
      (hops < maxHops → ∀ schema, table target = some schema → P fuel (hops + 1) schema data) →
      P (fuel + 1) hops (.ref target reference) data)
    (rules : ∀ fuel hops rules data,
      (∀ rule ∈ rules, ∀ schema ∈ rule.check.parts,
        (∀ value ∈ data :: data.names, P fuel hops schema value) ∧
          ∀ v ∈ data.children, P fuel 0 schema v.2) → P (fuel + 1) hops (.rules rules) data)
    (node : Node) (data : Value) (hops : Nat) : ∃ enough, ∀ fuel ≥ enough, P fuel hops node data := by
  induction node, data, hops using Node.induction with
  | always verdict data hops =>
    exact exists_bound_of_succ ⟨0, fun fuel _ => always fuel hops verdict data⟩
  | ref target reference data hops ih =>
    refine exists_bound_of_succ ?_
    by_cases hop : hops < maxHops
    · cases found : table target with
      | none =>
        exact ⟨0, fun fuel _ => ref _ _ _ _ _ fun _ schema other => by cases found ▸ other⟩
      | some schema =>
        obtain ⟨n, inner⟩ := ih hop schema
        refine ⟨n, fun fuel enough => ref _ _ _ _ _ fun _ other same => ?_⟩
        cases found.symm.trans same
        exact inner fuel enough
    · exact ⟨0, fun fuel _ => ref _ _ _ _ _ fun reached => absurd reached hop⟩
  | rules list data hops here below =>
    have near : ∃ enough, ∀ fuel ≥ enough, ∀ rule ∈ list, ∀ schema ∈ rule.check.parts,
        ∀ p ∈ (data :: data.names).map (·, hops) ++ data.children.map fun v => (v.2, 0),
          P fuel p.2 schema p.1 := by
      refine exists_bound fun rule mem => exists_bound fun schema of => exists_bound fun p place => ?_
      rcases List.mem_append.1 place with place | place
      · obtain ⟨value, near, rfl⟩ := List.mem_map.1 place
        rcases Value.near_of_mem_names near with rfl | lighter
        · exact here rule mem schema of
        · exact below schema value hops lighter
      · obtain ⟨v, child, rfl⟩ := List.mem_map.1 place
        exact below schema v.2 0 (Value.weight_lt_of_mem_children child)
    obtain ⟨n, near⟩ := near
    refine exists_bound_of_succ ⟨n, fun fuel enough => rules _ _ _ _ fun rule mem schema of => ?_⟩
    have near := near fuel enough rule mem schema of
    exact ⟨fun value place => near _ (List.mem_append_left _ (List.mem_map_of_mem place)),
      fun v child => near _ (List.mem_append_right _ (List.mem_map_of_mem child))⟩

/-- With enough fuel, a validation in place of any schema writes its report. -/
theorem inPlace_completes (table : SlotTable) (node : Node) (data : Value) (hops : Nat) :
    ∃ enough, ∀ fuel ≥ enough, ∀ way, Completes False table fuel hops ⟨way, node, data⟩ :=
  exists_fuel (P := fun fuel hops node data => ∀ way, Completes False table fuel hops ⟨way, node, data⟩)
    (fun _ _ verdict data => always_completes verdict data)
    (fun _ _ _ _ _ inner => ref_completes fun hop schema found => inner hop schema found .follow)
    (fun _ _ _ _ inner => rules_completes fun rule mem schema of =>
      ⟨fun value near => (inner rule mem schema of).1 value near .here,
        fun v child => (inner rule mem schema of).2 v child .below⟩) node data hops

end Node

/-! ## Validators -/

namespace Validator

variable (validator : Validator) (table : SlotTable) (data : Value)

/-- A validation in place ends, under every table: with enough fuel it says what the report says, and
    leaves the place as it was. At the beginning and at the end of every call each of the open calls
    is made by the one before and smaller than it, the counter is that of the innermost one, and no
    more references are followed between two steps into the data than the limit allows. -/
theorem inPlace_ends :
    ∃ enough, ∀ fuel ≥ enough, ∃ moments,
      validator.inPlace table fuel data = .ok (validator.run table data).valid
        (Course.after { allErrors := validator.allErrors } (validator.run table data) moments) ∧
      ∀ moment ∈ moments, moment.InOrder table ∧ moment.hops ≤ maxHops ∧
        moment.calls.IsChain Call.IsSmaller ∧ ∀ segment, segment <:+: moment.calls → (∀ call ∈ segment, call.part.way ≠ .below) →
          segment.countP (·.part.way = .follow) ≤ maxHops := by
  obtain ⟨enough, ends⟩ :=
    Node.inPlace_completes table (.ref validator.entry "#") data 0
  refine ⟨enough, fun fuel le => ?_⟩
  have writes := ends fuel le .here false [] { allErrors := validator.allErrors } rfl (.first _ _)
  obtain ⟨⟨⟩, -⟩ | ⟨moments, run, fits⟩ := writes { allErrors := validator.allErrors } rfl rfl
  refine ⟨moments, run, fun moment mem => ?_⟩
  have order := (fits moment mem).toInOrder
  exact ⟨order, order.hops_le, order.open_.isChain, fun segment => order.open_.countP_le⟩

end Validator

end JsonSchema
