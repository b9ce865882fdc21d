import JsonSchema.Proofs.Validation.Abridging
import JsonSchema.Proofs.Validation.Ending
import JsonSchema.Registry.Documents

/-!
# Loops of references

A reference that may not be followed any more refuses the data, and says so. So does everything
around it, up to a schema that is only tried: what such a schema refuses may be accepted all the
same.

* `Validator.refuses_of_stuck`: a validation in which a reference may not be followed any more fails,
  unless only a schema that is tried meets it.
* `Validator.accepts_stuck`: if it is only tried, the validation may succeed.
-/

namespace JsonSchema

namespace Validator

variable {validator : Validator} {table : SlotTable} {data : Value}

/-- A report that refuses says something. -/
theorem violations_ne_nil (refuses : (validator.run table data).valid = false) :
    (validator.run table data).violations ≠ [] := by
  have both := validator.run_summarizes table data
  have short (h : ((validator.reporting false).run table data).valid = false) := both.refuses h
  obtain ⟨entry, isAsync, allErrors⟩ := validator
  cases allErrors with
  | false => exact short refuses
  | true => exact fun silent => short (both.valid.trans refuses) (both.violations.eq_nil_iff.2 silent)

theorem validate_ne_nil (refuses : (validator.run table data).valid = false) :
    (validator.validate table data).violations ≠ [] := by
  rw [validate]
  split
  · exact List.cons_ne_nil _ _
  · exact violations_ne_nil refuses

theorem resolve_ne_nil (refuses : (validator.run table data).valid = false) :
    (validator.resolve table data).violations ≠ [] := by
  rw [resolve]
  simp only
  split
  · exact List.append_ne_nil_of_left_ne_nil (violations_ne_nil refuses) _
  · exact violations_ne_nil refuses

/-- A validation in place that ends gives the verdict and says what the report says. Nothing else was
    said at its beginning. -/
theorem inPlace_ended {fuel : Nat} {verdict : Bool} {c : Course}
    (run : validator.inPlace table fuel data = .ok verdict c) :
    verdict = (validator.run table data).valid ∧
      c.violations = (validator.run table data).violations ∧
      ∀ moment ∈ c.moments, moment.Fits table []
        (false = false ∧ (validator.run table data).valid = false) := by
  have writes := Node.inPlace_completes_or table fuel
    (.here (.ref validator.entry "#") data) 0 false [] { allErrors := validator.allErrors } rfl
    (.first _ _)
  obtain ⟨-, left, short⟩ | ⟨moments, ended, fits⟩ :=
    writes { allErrors := validator.allErrors } rfl rfl
  · cases run.symm.trans short
  · cases run.symm.trans ended
    exact ⟨rfl, rfl, fits⟩

/-- If a reference is met in a validation when as many were followed as the limit allows, and none of
    the open calls is only tried, the validation fails. -/
theorem refuses_of_stuck {fuel : Nat} {verdict : Bool} {c : Course} {moment : Moment}
    (run : validator.inPlace table fuel data = .ok verdict c) (mem : moment ∈ c.moments)
    (stuck : moment.IsStuck) (kept : ∀ call ∈ moment.calls, call.tried = false) :
    (validator.validate table data).violations ≠ [] ∧
      (validator.resolve table data).violations ≠ [] := by
  obtain ⟨-, -, fits⟩ := inPlace_ended run
  have refuses := ((fits moment mem).fault ⟨stuck, moment.calls, (List.append_nil _).symm, kept⟩).2
  exact ⟨validate_ne_nil refuses, resolve_ne_nil refuses⟩

end Validator

/-! ## A reference to itself -/

namespace Course.InPlace

variable {α β : Type} {c c' : Course} {a : α} {part : Part Node} {tried verdict : Bool}

theorem bind_ok {m : InPlace α} {f : α → InPlace β} (run : m c = .ok a c') :
    EStateM.bind m f c = f a c' := by
  rw [EStateM.bind, run]

theorem follow_ok {body : InPlace α} {hops : Nat}
    (run : body { c with hops := c.hops + 1 } = .ok a c') (back : c'.hops = hops + 1) :
    follow body c = .ok a { c' with hops } := by
  refine (bind_ok run).trans ?_
  obtain ⟨⟨_, _, _, _⟩, _, _, _, _, _⟩ := c'
  subst back
  rfl

theorem within_ok (rule : Rule Check) {body : InPlace α}
    (run : body { c with current := some (rule.keyword, rule.schemaPath) } = .ok a c') :
    within rule body c = .ok a { c' with current := c.current } := bind_ok run

theorem test_ok {body : InPlace Bool} (run : body c = .ok verdict c') :
    test body c = .ok verdict { c' with
      violations := c'.violations.take c.violations.length
      deferred := c'.deferred.take c.deferred.length } := bind_ok run

theorem explaining_ok {violation : Scope → Violation} {body : InPlace Bool}
    (run : body c = .ok true c') : explaining violation body c = .ok true c' := bind_ok run

theorem each_ok {step : α → InPlace Bool} (run : step a c = .ok true c') :
    each [a] step c = .ok true c' := bind_ok run

/-- The state inside a call. -/
def inside (c : Course) (part : Part Node) (tried : Bool) : Course :=
  let calls := ⟨part, c.hops, tried⟩ :: c.calls
  { c with calls, moments := c.moments ++ [⟨calls, c.hops⟩] }

theorem call_congr {body other : InPlace Bool}
    (same : body (inside c part tried) = other (inside c part tried)) :
    call tried part body c = call tried part other c := by
  show EStateM.bind body _ (inside c part tried) = EStateM.bind other _ (inside c part tried)
  rw [EStateM.bind, EStateM.bind, same]

theorem call_ok {body : InPlace Bool} (run : body (inside c part tried) = .ok verdict c') :
    call tried part body c = .ok verdict
      { c' with calls := c'.calls.tail, moments := c'.moments ++ [⟨c'.calls, c'.hops⟩] } :=
  bind_ok run

end Course.InPlace

namespace Node

open Course.InPlace

variable {table : SlotTable} {id : EntryId} {c : Course} (way : Way) (reference : String)
  (data : Value) (tried : Bool)

theorem inPlace_ref_deep (fuel : Nat) (deep : maxHops ≤ c.hops) :
    Node.inPlace table (fuel + 1) tried ⟨way, .ref id reference, data⟩ c =
      call tried ⟨way, .ref id reference, data⟩
        (refuseReference "maximum reference depth exceeded at" reference) c := by
  refine call_congr ?_
  show (if maxHops ≤ c.hops then _ else _ : Course.InPlace Bool) _ = _
  rw [if_pos deep]

theorem inPlace_ref (fuel : Nat) {schema : Node} (found : table id = some schema)
    (hop : c.hops < maxHops) :
    Node.inPlace table (fuel + 1) tried ⟨way, .ref id reference, data⟩ c =
      call tried ⟨way, .ref id reference, data⟩
        (follow (Node.inPlace table fuel false (.follow schema data))) c := by
  refine call_congr ?_
  show (if maxHops ≤ c.hops then _ else _ : Course.InPlace Bool) _ = _
  rw [if_neg (Nat.not_le.2 hop), found]

/-- A reference to itself is followed until it may not be followed any more. -/
theorem inPlace_self {text : String} (self : table id = some (.ref id text)) {k : Nat}
    (left : c.hops + k = maxHops) :
    ∃ c', Node.inPlace table (k + 1) tried ⟨way, .ref id reference, data⟩ c = .ok false c' ∧
      c'.hops = c.hops ∧ ∃ moment ∈ c'.moments, moment.IsStuck ∧
        ((∀ call ∈ c.calls, call.tried = false) → tried = false →
          ∀ call ∈ moment.calls, call.tried = false) := by
  induction k generalizing way reference tried c with
  | zero =>
    have deep : maxHops ≤ c.hops := Nat.le_of_eq left.symm
    rw [inPlace_ref_deep way reference data tried 0 deep]
    refine ⟨_, call_ok rfl, rfl, ⟨_, c.hops⟩, List.mem_append_left _
      (List.mem_append_right _ List.mem_cons_self), ⟨deep, _, rfl, id, reference, rfl⟩, ?_⟩
    intro outer own call mem
    rcases List.mem_cons.1 mem with rfl | mem
    · exact own
    · exact outer call mem
  | succ k ih =>
    have hop : c.hops < maxHops := by omega
    let part : Part Node := ⟨way, .ref id reference, data⟩
    have inner := fun c' : Course => @ih c' .follow text false
    obtain ⟨c', run, back, moment, mem, stuck, kept⟩ :=
      inner { inside c part tried with hops := c.hops + 1 } (by show c.hops + 1 + k = _; omega)
    rw [inPlace_ref way reference data tried (k + 1) self hop]
    refine ⟨_, call_ok (follow_ok run back), rfl, moment, List.mem_append_left _ mem, stuck, ?_⟩
    intro outer own
    refine kept (fun call mem => ?_) rfl
    rcases List.mem_cons.1 mem with rfl | mem
    · exact own
    · exact outer call mem

/-- A schema that asks that such a reference does not hold accepts the data, and says nothing. -/
theorem inPlace_not_self (keyword schemaPath text' : String) {text : String}
    (self : table id = some (.ref id text)) {k : Nat} (left : c.hops + k = maxHops) :
    ∃ c', Node.inPlace table (k + 2) tried
        ⟨way, .rules [⟨keyword, schemaPath, none, .not (.ref id text')⟩], data⟩ c = .ok true c' ∧
      c'.hops = c.hops ∧ c'.violations.length ≤ c.violations.length ∧
      ∃ moment ∈ c'.moments, moment.IsStuck := by
  let rule : Rule Check := ⟨keyword, schemaPath, none, .not (.ref id text')⟩
  let place : Course :=
    { inside c ⟨way, .rules [rule], data⟩ tried with current := some (keyword, schemaPath) }
  obtain ⟨c', run, back, moment, mem, stuck, -⟩ :=
    inPlace_self .here text' data true self (show place.hops + k = maxHops from left)
  have refused : rule.check.inPlace (Node.inPlace table (k + 1)) data _ = .ok true _ :=
    bind_ok (test_ok run)
  exact ⟨_, call_ok (each_ok (within_ok rule (explaining_ok refused))), back,
    List.length_take_le _ _, moment, List.mem_append_left _ mem, stuck⟩

/-- The entry that a compiled schema refers to. -/
def target? : Node → Option EntryId
  | .ref id _ => some id
  | _ => none

/-- The entry that a compiled schema refers to, if all it asks for is that this does not hold. -/
def negated? : Node → Option EntryId
  | .rules [⟨_, _, none, .not (.ref id _)⟩] => some id
  | _ => none

theorem eq_ref_of_target? {node : Node} (h : node.target? = some id) :
    ∃ text, node = .ref id text := by
  cases node with
  | ref other text =>
    cases h
    exact ⟨text, rfl⟩
  | _ => cases h

theorem eq_not_of_negated? {node : Node} (h : node.negated? = some id) :
    ∃ keyword schemaPath text, node = .rules [⟨keyword, schemaPath, none, .not (.ref id text)⟩] := by
  unfold negated? at h
  split at h
  · next keyword schemaPath other text =>
    cases h
    exact ⟨keyword, schemaPath, text, rfl⟩
  · cases h

end Node

namespace Registry

/-- A registry without the meta-schema, in which every document is a document of its own. -/
def plain : Registry := create { serialize := .disabled, installMeta := false }

/-- A document that asks for what it asks for. -/
def cyclic : Document := ⟨.object [("$ref", .string "#")], .given 0⟩

/-- A document that asks that something does not hold that asks for itself. -/
def anticyclic : Document :=
  ⟨.object [("definitions", .object [("a", .object [("$ref", .string "#/definitions/a")])]),
    ("not", .object [("$ref", .string "#/definitions/a")])], .given 0⟩

theorem compile_cyclic :
    ∃ r text, compile cyclic plain = .ok ⟨⟨0⟩, false, false⟩ r ∧
      r.store.slots ⟨0⟩ = some (.ref ⟨0⟩ text) := by
  have compiled : (match compile cyclic plain with
      | .ok v r => some (v, (r.store.slots ⟨0⟩).bind Node.target?)
      | .error _ _ => none) = some (⟨⟨0⟩, false, false⟩, some ⟨0⟩) := by decide +kernel
  split at compiled
  · next v r ok =>
    simp only [Option.some.injEq, Prod.mk.injEq, Option.bind_eq_some_iff] at compiled
    obtain ⟨rfl, node, slot, target⟩ := compiled
    obtain ⟨text, rfl⟩ := Node.eq_ref_of_target? target
    exact ⟨r, text, ok, slot⟩
  · cases compiled

theorem compile_anticyclic :
    ∃ r keyword schemaPath text text', compile anticyclic plain = .ok ⟨⟨0⟩, false, false⟩ r ∧
      r.store.slots ⟨0⟩ = some (.rules [⟨keyword, schemaPath, none, .not (.ref ⟨1⟩ text)⟩]) ∧
      r.store.slots ⟨1⟩ = some (.ref ⟨1⟩ text') := by
  have compiled : (match compile anticyclic plain with
      | .ok v r =>
        some (v, (r.store.slots ⟨0⟩).bind Node.negated?, (r.store.slots ⟨1⟩).bind Node.target?)
      | .error _ _ => none) = some (⟨⟨0⟩, false, false⟩, some ⟨1⟩, some ⟨1⟩) := by decide +kernel
  split at compiled
  · next v r ok =>
    simp only [Option.some.injEq, Prod.mk.injEq, Option.bind_eq_some_iff] at compiled
    obtain ⟨rfl, ⟨root, slot, negated⟩, node, slot', target⟩ := compiled
    obtain ⟨keyword, schemaPath, text, rfl⟩ := Node.eq_not_of_negated? negated
    obtain ⟨text', rfl⟩ := Node.eq_ref_of_target? target
    exact ⟨r, keyword, schemaPath, text, text', ok, slot, slot'⟩
  · cases compiled

end Registry

namespace Validator

open Registry

/-- The validator of a document that asks for what it asks for refuses everything. -/
theorem refuses_of_stuck_cyclic :
    ∃ v r fuel verdict c moment, compile cyclic plain = .ok v r ∧
      v.inPlace r.store.slots fuel .null = .ok verdict c ∧ moment ∈ c.moments ∧ moment.IsStuck ∧
      (∀ call ∈ moment.calls, call.tried = false) ∧
      (v.validate r.store.slots .null).violations ≠ [] ∧
      (v.resolve r.store.slots .null).violations ≠ [] := by
  obtain ⟨r, text, ok, slot⟩ := compile_cyclic
  let start : Course := { allErrors := false }
  obtain ⟨c, run, -, moment, mem, stuck, kept⟩ :=
    Node.inPlace_self .here "#" .null false slot (show start.hops + 512 = maxHops from rfl)
  have kept := kept nofun rfl
  have run : (⟨⟨0⟩, false, false⟩ : Validator).inPlace r.store.slots 513 .null = .ok false c := run
  exact ⟨_, r, _, _, c, moment, ok, run, mem, stuck, kept, refuses_of_stuck run mem stuck kept⟩

/-- The validator of a document that asks that a loop does not hold accepts everything, although a
    reference is met that may not be followed any more. -/
theorem accepts_stuck :
    ∃ v r, compile anticyclic plain = .ok v r ∧ ∀ data, ∃ fuel verdict c,
      v.inPlace r.store.slots fuel data = .ok verdict c ∧ (∃ moment ∈ c.moments, moment.IsStuck) ∧
      (v.validate r.store.slots data).violations = [] := by
  obtain ⟨r, keyword, schemaPath, text, text', ok, root, self⟩ := compile_anticyclic
  refine ⟨_, r, ok, fun data => ?_⟩
  let start : Course := { allErrors := false }
  let inner : Course :=
    { Course.InPlace.inside start (.here (.ref ⟨0⟩ "#") data) false with hops := 1 }
  obtain ⟨c, run, back, quiet, moment, mem, stuck⟩ :=
    Node.inPlace_not_self .follow data false keyword schemaPath text self
      (show inner.hops + 511 = maxHops from rfl)
  have ended : (⟨⟨0⟩, false, false⟩ : Validator).inPlace r.store.slots 514 data = .ok true _ :=
    (Node.inPlace_ref .here "#" data false 513 root (show start.hops < maxHops by decide)).trans
      (Course.InPlace.call_ok (Course.InPlace.follow_ok run back))
  refine ⟨514, _, _, ended, ⟨moment, List.mem_append_left _ mem, stuck⟩, ?_⟩
  exact (inPlace_ended ended).2.1.symm.trans (List.eq_nil_of_length_eq_zero (Nat.le_zero.1 quiet))

end Validator

end JsonSchema
