import JsonSchema.Validation.Validator

/-!
# Equations of reports

What `Node.run` and `Check.run` give, without the memberships that their termination needs.

* `Report.all_attach`, `Report.runUntil_attach`: memberships do not matter.
* `Node.run_rules`, `Check.run_properties` and the others: one equation for each keyword and
  each kind of data it looks at.
-/

namespace JsonSchema

/-! ## Memberships -/

namespace Report

variable {α β : Type}

theorem runUntil_map (stop : Report → Bool) (n : Nat) (list : List α) (g : α → β)
    (f : β → Report) : runUntil stop n (list.map g) f = runUntil stop n list (f ∘ g) := by
  induction list generalizing n with
  | nil => cases n <;> rfl
  | cons a rest ih =>
    cases n with
    | zero => rfl
    | succ n =>
      simp only [List.map_cons, runUntil, Function.comp_apply]
      rw [ih]

theorem all_map (allErrors : Bool) (list : List α) (g : α → β) (f : β → Report) :
    all allErrors (list.map g) f = all allErrors list (f ∘ g) := by
  unfold all
  rw [List.map_map, runUntil_map]

theorem runUntil_attach (stop : Report → Bool) (n : Nat) (list : List α) (f : α → Report) :
    runUntil stop n list.attach (fun a => f a.1) = runUntil stop n list f := by
  have := runUntil_map stop n list.attach Subtype.val f
  rw [List.attach_map_subtype_val] at this
  exact this.symm

theorem all_attach (allErrors : Bool) (list : List α) (f : α → Report) :
    all allErrors list.attach (fun a => f a.1) = all allErrors list f := by
  have := all_map allErrors list.attach Subtype.val f
  rw [List.attach_map_subtype_val] at this
  exact this.symm

theorem all_attach_filter (allErrors : Bool) (list : List α) (p : α → Bool) (f : α → Report) :
    all allErrors (list.attach.filter fun a => p a.1) (fun a => f a.1) =
      all allErrors (list.filter p) f := by
  have kept : (list.attach.filter fun a => p a.1).map Subtype.val = list.filter p := by
    rw [show (fun a : { a // a ∈ list } => p a.1) = p ∘ Subtype.val from rfl, ← List.filter_map,
      List.attach_map_subtype_val]
  rw [← kept, all_map]
  rfl

end Report

/-! ## Schemas -/

variable (table : SlotTable) (data : Value) (scope : Scope)

@[simp] theorem Node.run_true : (Node.always true).run table data scope = .pass := by
  rw [Node.run]

@[simp] theorem Node.run_false : (Node.always false).run table data scope = scope.forbidden := by
  rw [Node.run]

theorem Node.run_ref {target : EntryId} {reference : String} {schema : Node}
    (hop : scope.hops < maxHops) (found : table target = some schema) :
    (Node.ref target reference).run table data scope = schema.run table data scope.hop := by
  rw [Node.run, dif_pos hop]
  simp only [found]

theorem Node.run_ref_missing {target : EntryId} {reference : String}
    (hop : scope.hops < maxHops) (missing : table target = none) :
    (Node.ref target reference).run table data scope =
      scope.brokenReference "can't resolve reference" reference := by
  rw [Node.run, dif_pos hop]
  simp only [missing]

theorem Node.run_ref_deep {target : EntryId} {reference : String} (deep : ¬ scope.hops < maxHops) :
    (Node.ref target reference).run table data scope =
      scope.brokenReference "maximum reference depth exceeded at" reference := by
  rw [Node.run, dif_neg deep]

theorem Node.run_rules (rules : List (Rule Check)) :
    (Node.rules rules).run table data scope = .all scope.allErrors rules fun rule =>
      if rule.appliesTo data then
        (scope.within rule).explain (rule.check.run table data (scope.within rule))
      else .pass := by
  rw [Node.run]
  exact Report.all_attach scope.allErrors rules fun rule =>
    if rule.appliesTo data then
      (scope.within rule).explain (rule.check.run table data (scope.within rule))
    else .pass

/-! ## Keywords -/

namespace Check

theorem run_assertion (a : Assertion) :
    (assertion a).run table data scope =
      .ofObjections scope (a.objections data) := by
  rw [run]

theorem run_apply (schema : Node) :
    (apply schema).run table data scope = schema.run table data scope := by
  rw [run]

theorem run_properties (schemas : List (String × Node)) (members : Members) :
    (properties schemas).run table (.object members) scope =
      .all scope.allErrors schemas fun s =>
        match members.get? s.1 with
        | some value => s.2.run table value (scope.below s.1)
        | none => .pass := by
  rw [run]
  conv => rhs; rw [← Report.all_attach]
  congr 1
  funext s
  obtain ⟨⟨name, schema⟩, mem⟩ := s
  simp only
  split
  · next h => rw [h]
  · next h => rw [h]

theorem run_patternProperties (schemas : List (Pattern × Node)) (members : Members) :
    (patternProperties schemas).run table (.object members) scope =
      .all scope.allErrors schemas fun s =>
        .all scope.allErrors (members.filter fun m => s.1.occursIn m.1) fun m =>
          s.2.run table m.2 (scope.below m.1) := by
  rw [run]
  conv => rhs; rw [← Report.all_attach]
  congr 1
  funext s
  obtain ⟨⟨pattern, schema⟩, mem⟩ := s
  exact Report.all_attach_filter scope.allErrors members (fun m => pattern.occursIn m.1) fun m =>
    schema.run table m.2 (scope.below m.1)

/-- The members that are neither named nor matched. -/
def extra (known : List String) (patterns : List Pattern) (members : Members) : Members :=
  members.filter fun m => !known.contains m.1 && !patterns.any fun p => p.occursIn m.1

theorem run_additionalProperties (known : List String) (patterns : List Pattern) (schema : Node)
    (members : Members) :
    (additionalProperties known patterns schema).run table (.object members) scope =
      .all scope.allErrors (extra known patterns members) fun m =>
        if schema.isForbidding then
          .fail ((scope.below m.1).violation
            ⟨"should NOT have additional properties",
              .ofMembers [("additionalProperty", .string m.1)]⟩)
        else schema.run table m.2 (scope.below m.1) := by
  rw [run]
  exact Report.all_attach_filter scope.allErrors members
    (fun m => !known.contains m.1 && !patterns.any fun p => p.occursIn m.1) fun m =>
      if schema.isForbidding then
        .fail ((scope.below m.1).violation
          ⟨"should NOT have additional properties",
            .ofMembers [("additionalProperty", .string m.1)]⟩)
      else schema.run table m.2 (scope.below m.1)

theorem run_propertyNames (schema : Node) (members : Members) :
    (propertyNames schema).run table (.object members) scope =
      .all scope.allErrors members fun m =>
        .ofName scope m.1 (schema.run table (.string m.1) scope) := by
  rw [run]
  exact Report.all_attach scope.allErrors members fun m =>
    .ofName scope m.1 (schema.run table (.string m.1) scope)

theorem run_dependencies (ds : List (String × Dependency Node)) (members : Members) :
    (dependencies ds).run table (.object members) scope =
      .all scope.allErrors (ds.filter fun d => members.contains d.1) fun d =>
        match d.2 with
        | .names names => .ofObjections scope (Dependency.objections d.1 names members)
        | .schema schema => schema.run table (.object members) scope := by
  rw [run]
  conv => rhs; rw [← Report.all_attach_filter]
  congr 1
  funext d
  obtain ⟨⟨property, dependency⟩, mem⟩ := d
  cases dependency <;> rfl

theorem run_eachItem (schema : Node) (items : List Value) :
    (eachItem schema).run table (.array items) scope =
      .all scope.allErrors items.zipIdx fun v =>
        schema.run table v.1 (scope.below (toString v.2)) := by
  rw [run]
  exact Report.all_attach scope.allErrors items.zipIdx fun v =>
    schema.run table v.1 (scope.below (toString v.2))

theorem run_tuple (schemas : List Node) (items : List Value) :
    (tuple schemas).run table (.array items) scope =
      .all scope.allErrors (schemas.zip items).zipIdx fun v =>
        v.1.1.run table v.1.2 (scope.below (toString v.2)) := by
  rw [run]
  exact Report.all_attach scope.allErrors (schemas.zip items).zipIdx fun v =>
    v.1.1.run table v.1.2 (scope.below (toString v.2))

theorem run_additionalItems (offset : Nat) (schema : Node) (items : List Value) :
    (additionalItems offset schema).run table (.array items) scope =
      if schema.isForbidding && offset < items.length then
        .fail (scope.violation
          ⟨"should NOT have more than " ++ toString offset ++ " items",
            .ofMembers [("limit", .ofNat offset)]⟩)
      else
        .all scope.allErrors (items.zipIdx.drop offset) fun v =>
          schema.run table v.1 (scope.below (toString v.2)) := by
  rw [run]
  congr 1
  exact Report.all_attach scope.allErrors (items.zipIdx.drop offset) fun v =>
    schema.run table v.1 (scope.below (toString v.2))

theorem run_contains (schema : Node) (items : List Value) :
    (contains schema).run table (.array items) scope =
      .ofContains scope (Report.runUntil (·.valid) 1 items.zipIdx fun v =>
        schema.run table v.1 (scope.below (toString v.2))) := by
  rw [run]
  congr 1
  exact Report.runUntil_attach (·.valid) 1 items.zipIdx fun v =>
    schema.run table v.1 (scope.below (toString v.2))

theorem run_allOf (schemas : List Node) :
    (allOf schemas).run table data scope =
      .all scope.allErrors schemas fun schema => schema.run table data scope := by
  rw [run]
  exact Report.all_attach scope.allErrors schemas fun schema => schema.run table data scope

theorem run_anyOf (schemas : List Node) :
    (anyOf schemas).run table data scope =
      .ofAnyOf scope (Report.runUntil (·.valid) 1 schemas fun schema =>
        schema.run table data scope) := by
  rw [run]
  congr 1
  exact Report.runUntil_attach (·.valid) 1 schemas fun schema => schema.run table data scope

theorem run_oneOf (schemas : List Node) :
    (oneOf schemas).run table data scope =
      .ofOneOf scope (Report.runUntil (·.valid) 2 schemas fun schema =>
        schema.run table data scope) := by
  rw [run]
  congr 1
  exact Report.runUntil_attach (·.valid) 2 schemas fun schema => schema.run table data scope

theorem run_not (schema : Node) :
    (not schema).run table data scope = .ofNot scope (schema.run table data scope) := by
  rw [run]

theorem run_conditional (condition : Node) (yes no : Option Node) :
    (conditional condition yes no).run table data scope =
      if (condition.run table data scope).valid then
        match yes with
        | some schema =>
          .ofBranch scope (condition.run table data scope) "then" (schema.run table data scope)
        | none => (condition.run table data scope).discard
      else
        match no with
        | some schema =>
          .ofBranch scope (condition.run table data scope) "else" (schema.run table data scope)
        | none => { (condition.run table data scope).discard with valid := true } := by
  exact run.eq_def table (conditional condition yes no) data scope

theorem run_children (schema : Node) :
    (children schema).run table data scope =
      .all scope.allErrors data.children fun v => schema.run table v.2 (scope.below v.1) := by
  rw [run]
  exact Report.all_attach scope.allErrors data.children fun v =>
    schema.run table v.2 (scope.below v.1)

theorem run_verdict (schema : Node) :
    (verdict schema).run table data scope = (schema.run table data scope).discard := by
  rw [run]

end Check

end JsonSchema
