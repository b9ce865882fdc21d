import JsonSchema.Proofs.Validation.Acceptance
import JsonSchema.Validation.Validator

/-!
# Verdicts of reports

A report says whether the schema accepts the data: by its verdict, by what it says, and by the
tests that are still to be done.

* `Report.Means`, `Report.Tells`: what a report means for the acceptance of data.
* `Check.run_means`: the report of a keyword means what the keyword demands.
* `Node.run_tells`: the report of a schema tells whether the schema accepts the data.
* `Validator.validate_eq_nil_iff`, `Validator.resolve_eq_nil_iff`: so does what a validator says.
-/

namespace JsonSchema

/-! ## Reports -/

namespace Report

/-- A report gives the verdict of a schema that is only tried, says nothing if it accepts, and
    leaves the rest of the verdict to tests that are done later. -/
structure Means (report : Report) (tried final : Bool) : Prop where
  valid : report.valid = tried
  quiet : tried = true → report.violations = []
  passes : tried = true → (report.deferred.all fun t => t.test t.data) = final
  bound : final = true → tried = true

/-- A report that also says something if it refuses. -/
structure Tells (report : Report) (tried final : Bool) : Prop extends Means report tried final where
  refuses : tried = false → report.violations ≠ []

namespace Means

variable {report : Report} {tried final : Bool}

/-- A report without tests to be done later. -/
theorem of_quiet (valid : report.valid = tried) (quiet : tried = true → report.violations = [])
    (deferred : tried = true → report.deferred = []) : report.Means tried tried where
  valid := valid
  quiet := quiet
  passes h := by rw [deferred h, h]; rfl
  bound h := h

theorem traces (verdict : Bool) (reports : List Report) :
    (Report.traces verdict reports).Means verdict verdict :=
  of_quiet rfl (fun _ => rfl) fun _ => rfl

theorem final_eq_false (h : report.Means false final) : final = false :=
  Bool.eq_false_iff.2 fun e => Bool.false_ne_true (h.bound e)

end Means

namespace Tells

variable {report a b : Report} {tried final t f t' f' : Bool}

theorem pass : Report.pass.Tells true true :=
  ⟨.of_quiet rfl (fun _ => rfl) fun _ => rfl, fun h => nomatch h⟩

theorem refuse (report : Report) (v : Violation) : (report.refuse v).Tells false false :=
  ⟨.of_quiet rfl (fun h => nomatch h) (fun h => nomatch h),
    fun _ => List.append_ne_nil_of_right_ne_nil _ (List.cons_ne_nil _ _)⟩

theorem fail (v : Violation) : (Report.fail v).Tells false false :=
  ⟨.of_quiet rfl (fun h => nomatch h) (fun h => nomatch h), fun _ => List.cons_ne_nil _ _⟩

theorem append (ha : a.Tells t f) (hb : b.Tells t' f') : (a ++ b).Tells (t && t') (f && f') where
  valid := congrArg₂ (· && ·) ha.valid hb.valid
  quiet h := by
    obtain ⟨h, h'⟩ := Bool.and_eq_true_iff.1 h
    show a.violations ++ b.violations = []
    rw [ha.quiet h, hb.quiet h', List.append_nil]
  passes h := by
    obtain ⟨h, h'⟩ := Bool.and_eq_true_iff.1 h
    show (a.deferred ++ b.deferred).all _ = _
    rw [List.all_append, ha.passes h, hb.passes h']
  bound h := by
    obtain ⟨h, h'⟩ := Bool.and_eq_true_iff.1 h
    rw [ha.bound h, hb.bound h']
    rfl
  refuses h := by
    show a.violations ++ b.violations ≠ []
    rcases Bool.and_eq_false_iff.1 h with h | h
    · exact List.append_ne_nil_of_left_ne_nil (ha.refuses h) _
    · exact List.append_ne_nil_of_right_ne_nil _ (hb.refuses h)

/-- What comes after a report that refuses does not matter. -/
theorem of_refused (h : a.Tells false f) (t' f' : Bool) :
    (a ++ Report.pass).Tells (false && t') (f && f') := by
  have both := h.append pass
  rw [h.final_eq_false] at both ⊢
  exact both

end Tells

/-! ## Several reports -/

theorem runUntil_zero {α : Type} (stop : Report → Bool) (parts : List α) (run : α → Report) :
    runUntil stop 0 parts run = [] := by
  cases parts <;> rfl

theorem all_cons {α : Type} (allErrors : Bool) (a : α) (rest : List α) (run : α → Report) :
    all allErrors (a :: rest) run =
      run a ++ if allErrors || (run a).valid then all allErrors rest run else pass := by
  cases allErrors with
  | true => rfl
  | false =>
    simp only [all, runUntil, Bool.false_or]
    cases (run a).valid with
    | true => rfl
    | false =>
      show concat (run a :: runUntil (!·.valid) 0 rest run) = _
      rw [runUntil_zero]
      rfl

variable {α : Type} {parts : List α} {run : α → Report} {t f : α → Bool}

theorem Tells.all {allErrors : Bool} (tells : ∀ a ∈ parts, (run a).Tells (t a) (f a)) :
    (Report.all allErrors parts run).Tells (parts.all t) (parts.all f) := by
  induction parts with
  | nil => cases allErrors <;> exact pass
  | cons a rest ih =>
    have first := tells a List.mem_cons_self
    have ih := ih fun a mem => tells a (List.mem_cons_of_mem _ mem)
    rw [all_cons, List.all_cons, List.all_cons]
    split
    · exact first.append ih
    · next stop =>
      rw [Bool.or_eq_true, not_or, first.valid] at stop
      rw [Bool.eq_false_iff.2 stop.2] at first ⊢
      exact first.of_refused _ _

/-- How many reports satisfy what the run stops at. -/
theorem countP_runUntil (stop : Report → Bool) (n : Nat) (parts : List α) (run : α → Report) :
    (runUntil stop n parts run).countP stop = min n (parts.countP fun a => stop (run a)) := by
  induction parts generalizing n with
  | nil => cases n <;> simp [runUntil]
  | cons a rest ih =>
    cases n with
    | zero => simp [runUntil]
    | succ n =>
      rw [runUntil, List.countP_cons, List.countP_cons, ih]
      split <;> omega

theorem any_runUntil (valid : ∀ a ∈ parts, (run a).valid = t a) :
    (runUntil (·.valid) 1 parts run).any (·.valid) = parts.any t := by
  have count := countP_runUntil (·.valid) 1 parts run
  rw [← any_eq_of_mem valid, Bool.eq_iff_iff, List.any_eq_true, List.any_eq_true,
    ← List.countP_pos_iff, ← List.countP_pos_iff, count]
  omega

theorem length_passing (reports : List Report) :
    (passing reports).length = reports.countP (·.valid) := by
  rw [passing, List.length_map, ← List.countP_eq_length_filter]
  conv => rhs; rw [← List.zipIdx_map_fst 0 reports, List.countP_map]
  rfl

theorem Means.ofContains {scope : Scope} (valid : ∀ a ∈ parts, (run a).valid = t a) :
    (Report.ofContains scope (runUntil (·.valid) 1 parts run)).Means (parts.any t)
      (parts.any t) := by
  rw [Report.ofContains, ← any_runUntil valid]
  split
  · next h => rw [h]; exact .traces _ _
  · next h => rw [Bool.not_eq_true] at h; rw [h]; exact (Tells.refuse _ _).toMeans

theorem Means.ofAnyOf {scope : Scope} (valid : ∀ a ∈ parts, (run a).valid = t a) :
    (Report.ofAnyOf scope (runUntil (·.valid) 1 parts run)).Means (parts.any t) (parts.any t) := by
  rw [Report.ofAnyOf, ← any_runUntil valid]
  split
  · next h => rw [h]; exact .traces _ _
  · next h => rw [Bool.not_eq_true] at h; rw [h]; exact (Tells.refuse _ _).toMeans

theorem Means.ofOneOf {scope : Scope} (valid : ∀ a ∈ parts, (run a).valid = t a) :
    (Report.ofOneOf scope (runUntil (·.valid) 2 parts run)).Means (parts.countP t == 1)
      (parts.countP t == 1) := by
  have count := countP_runUntil (·.valid) 2 parts run
  rw [List.countP_congr (q := t) fun a mem => by rw [valid a mem], ← length_passing] at count
  rw [Report.ofOneOf]
  split
  · next h =>
    rw [h, List.length_nil] at count
    rw [show (parts.countP t == 1) = false from beq_false_of_ne (by omega)]
    exact (Tells.refuse _ _).toMeans
  · next h =>
    rw [h, List.length_singleton] at count
    rw [show parts.countP t = 1 by omega]
    exact .traces _ _
  · next none single =>
    have many : (passing (runUntil (·.valid) 2 parts run)).length ≠ 0 ∧
        (passing (runUntil (·.valid) 2 parts run)).length ≠ 1 := by
      constructor
      · exact fun h => none (List.length_eq_zero_iff.1 h)
      · intro h
        obtain ⟨i, hi⟩ := List.length_eq_one_iff.1 h
        exact single i hi
    rw [show (parts.countP t == 1) = false from beq_false_of_ne (by omega)]
    exact (Tells.refuse _ _).toMeans

variable {report : Report} {tried final : Bool}

theorem Means.ofNot {scope : Scope} (valid : report.valid = tried) :
    (Report.ofNot scope report).Means (!tried) (!tried) := by
  rw [Report.ofNot, ← valid]
  split
  · next h => rw [h]; exact (Tells.refuse _ _).toMeans
  · next h => rw [Bool.not_eq_true] at h; rw [h]; exact .of_quiet rfl (fun _ => rfl) fun _ => rfl

theorem Means.ofBranch {scope : Scope} (condition : Report) (name : String)
    (tells : report.Tells tried final) :
    (Report.ofBranch scope condition name report).Means tried final := by
  have joined := (Tells.append (a := { condition.discard with valid := true })
    ⟨.of_quiet rfl (fun _ => rfl) fun _ => rfl, fun h => nomatch h⟩ tells).toMeans
  rw [Bool.true_and, Bool.true_and] at joined
  rw [Report.ofBranch]
  split
  · exact joined
  · next h =>
    rw [tells.valid, Bool.not_eq_true] at h
    subst h
    rw [tells.final_eq_false]
    exact (Tells.refuse _ _).toMeans

theorem Tells.ofName {scope : Scope} (name : String) (tells : report.Tells tried final) :
    (Report.ofName scope name report).Tells tried final := by
  rw [Report.ofName]
  split
  · exact tells
  · next h =>
    rw [tells.valid, Bool.not_eq_true] at h
    subst h
    rw [tells.final_eq_false]
    exact .refuse _ _

theorem Tells.ofObjections (scope : Scope) (objections : List Objection) :
    (Report.ofObjections scope objections).Tells objections.isEmpty objections.isEmpty where
  valid := rfl
  quiet h := by
    rw [List.isEmpty_iff.1 h]
    simp [Report.ofObjections]
  passes h := h.symm
  bound h := h
  refuses h := by
    cases objections with
    | nil => cases h
    | cons o rest => cases h : scope.allErrors <;> simp [Report.ofObjections, h]

/-- A keyword that refuses says so. -/
theorem Means.explain {scope : Scope} (means : report.Means tried final) :
    (scope.explain report).Tells tried final := by
  rw [Scope.explain]
  split
  · next h =>
    obtain ⟨h, -⟩ := Bool.and_eq_true_iff.1 h
    rw [means.valid, Bool.not_eq_true'] at h
    subst h
    rw [means.final_eq_false]
    exact .refuse _ _
  · next h =>
    refine ⟨means, fun refused => ?_⟩
    rw [means.valid, refused, Bool.not_false, Bool.true_and, List.isEmpty_iff] at h
    exact h

end Report

/-! ## Keywords -/

section Check

open Report (Means Tells)

variable {table : SlotTable} {t f : Part Node → Bool}

theorem all_single {α : Type} (a : α) (p : α → Bool) : [a].all p = p a := by
  rw [List.all_cons, List.all_nil, Bool.and_true]

/-- Verdicts on items do not depend on their positions. -/
theorem all_of_map_fst {α β : Type} {pairs : List (α × β)} {list : List α}
    (same : pairs.map (·.1) = list) (p : α → Bool) : (pairs.all fun v => p v.1) = list.all p := by
  rw [← same, List.all_map]
  rfl

theorem any_of_map_fst {α β : Type} {pairs : List (α × β)} {list : List α}
    (same : pairs.map (·.1) = list) (p : α → Bool) : (pairs.any fun v => p v.1) = list.any p := by
  rw [← same, List.any_map]
  rfl

theorem Dependency.isEmpty_objections (property : String) (required : List String)
    (members : Members) :
    (objections property required members).isEmpty = required.all members.contains := by
  induction required with
  | nil => rfl
  | cons name rest ih =>
    simp only [objections, List.isEmpty_map] at ih ⊢
    rw [List.filter_cons, List.all_cons]
    cases Members.contains members name with
    | true => exact ih
    | false => rfl

/-- A schema that accepts nothing is told to refuse. -/
theorem Report.Tells.of_isForbidding {schema : Node} {data : Value} {scope : Scope}
    {tried final : Bool} (h : schema.isForbidding = true)
    (tells : (schema.run table data scope).Tells tried final) : tried = false ∧ final = false := by
  cases schema with
  | always verdict =>
    cases verdict with
    | true => cases h
    | false =>
      rw [Node.run_false] at tells
      have refused : tried = false := tells.valid.symm
      subst refused
      exact ⟨rfl, tells.final_eq_false⟩
  | _ => cases h

/-- The report of a keyword means what the keyword demands, if the reports of the schemas that
    it applies tell whether these accept. -/
theorem Check.run_means {check : Check} {data : Value} {scope : Scope}
    (loud : ∀ objection, check ≠ .remark objection true) (now : ∀ test, check ≠ .deferred test)
    (parts : ∀ p, check.Applies data p → ∀ at_ : Scope, at_.hops = p.way.hops scope.hops →
      (p.schema.run table p.data at_).Tells (t p) (f p)) :
    (check.run table data scope).Means ((check.demands data).all (·.met t t))
      ((check.demands data).all (·.met f t)) := by
  -- what the demands of the keyword apply is applied by the keyword
  have applied : ∀ {d : Demand (Part Node)} {p : Part Node}, d ∈ check.demands data →
      p ∈ d.parts → ∀ at_ : Scope, at_.hops = p.way.hops scope.hops →
      (p.schema.run table p.data at_).Tells (t p) (f p) :=
    fun mem of => parts _ (applies_of_mem_demands mem of)
  cases check with
  | assertion a =>
    rw [run_assertion]
    simp only [demands, all_single, Demand.met]
    exact (Tells.ofObjections scope _).toMeans
  | apply schema =>
    rw [run_apply]
    simp only [demands, all_single, Demand.met]
    exact (applied List.mem_cons_self List.mem_cons_self scope rfl).toMeans
  | properties schemas =>
    cases data with
    | object members =>
      rw [run_properties]
      simp only [demands, all_single, Demand.met, List.all_filterMap]
      refine (Tells.all fun s mem => ?_).toMeans
      cases found : Members.get? members s.1 with
      | none => exact .pass
      | some value =>
        refine applied List.mem_cons_self (p := .below s.2 value) ?_ _ rfl
        exact List.mem_filterMap.2 ⟨s, mem, by rw [found]; rfl⟩
    | _ =>
      rw [run]
      exact Tells.pass.toMeans
      all_goals simp
  | patternProperties schemas =>
    cases data with
    | object members =>
      rw [run_patternProperties]
      simp only [demands, all_single, Demand.met, List.all_flatMap, List.all_map]
      refine (Tells.all fun s mem => Tells.all fun m memM => ?_).toMeans
      refine applied List.mem_cons_self (p := .below s.2 m.2) ?_ _ rfl
      exact List.mem_flatMap.2 ⟨s, mem, List.mem_map_of_mem memM⟩
    | _ =>
      rw [run]
      exact Tells.pass.toMeans
      all_goals simp
  | additionalProperties known patterns schema =>
    cases data with
    | object members =>
      rw [run_additionalProperties]
      simp only [demands, all_single, Demand.met, List.all_map]
      refine (Tells.all fun m mem => ?_).toMeans
      have tells := applied List.mem_cons_self (p := .below schema m.2) (List.mem_map_of_mem mem)
        (scope.below m.1) rfl
      split
      · next forbids =>
        obtain ⟨ht, hf⟩ := tells.of_isForbidding forbids
        simp only [Function.comp_apply, ht, hf]
        exact .fail _
      · exact tells
    | _ =>
      rw [run]
      exact Tells.pass.toMeans
      all_goals simp
  | propertyNames schema =>
    cases data with
    | object members =>
      rw [run_propertyNames]
      simp only [demands, all_single, Demand.met, List.all_map]
      refine (Tells.all fun m mem => .ofName _ ?_).toMeans
      exact applied List.mem_cons_self (p := .here schema (.string m.1)) (List.mem_map_of_mem mem)
        scope rfl
    | _ =>
      rw [run]
      exact Tells.pass.toMeans
      all_goals simp
  | dependencies ds =>
    cases data with
    | object members =>
      rw [run_dependencies]
      simp only [demands, List.all_map]
      refine (Tells.all fun d mem => ?_).toMeans
      obtain ⟨property, dependency⟩ := d
      cases dependency with
      | names required =>
        simp only [Function.comp_apply, Dependency.demand, Demand.met]
        rw [← Dependency.isEmpty_objections property]
        exact .ofObjections _ _
      | schema schema =>
        simp only [Function.comp_apply, Dependency.demand, Demand.met, all_single]
        exact applied (List.mem_map_of_mem mem) List.mem_cons_self scope rfl
    | _ =>
      rw [run]
      exact Tells.pass.toMeans
      all_goals simp
  | eachItem schema =>
    cases data with
    | array items =>
      rw [run_eachItem]
      simp only [demands, all_single, Demand.met, List.all_map]
      have items_ := List.zipIdx_map_fst 0 items
      rw [← all_of_map_fst items_, ← all_of_map_fst items_]
      refine (Tells.all fun v mem => ?_).toMeans
      exact applied List.mem_cons_self (p := .below schema v.1)
        (List.mem_map_of_mem (List.fst_mem_of_mem_zipIdx mem)) _ rfl
    | _ =>
      rw [run]
      exact Tells.pass.toMeans
      all_goals simp
  | tuple schemas =>
    cases data with
    | array items =>
      rw [run_tuple]
      simp only [demands, all_single, Demand.met, List.all_map]
      have pairs := List.zipIdx_map_fst 0 (schemas.zip items)
      rw [← all_of_map_fst pairs, ← all_of_map_fst pairs]
      refine (Tells.all fun v mem => ?_).toMeans
      exact applied List.mem_cons_self (p := .below v.1.1 v.1.2)
        (List.mem_map_of_mem (List.fst_mem_of_mem_zipIdx mem)) _ rfl
    | _ =>
      rw [run]
      exact Tells.pass.toMeans
      all_goals simp
  | additionalItems offset schema =>
    cases data with
    | array items =>
      have tells : ∀ v ∈ items.zipIdx.drop offset, ∀ at_ : Scope, at_.hops = 0 →
          (schema.run table v.1 at_).Tells (t (.below schema v.1)) (f (.below schema v.1)) := by
        intro v mem at_ hops
        refine applied List.mem_cons_self (p := .below schema v.1) (List.mem_map_of_mem ?_) at_ hops
        have mem := List.mem_map_of_mem (f := (·.1)) mem
        rwa [List.map_drop, List.zipIdx_map_fst] at mem
      have items_ : (items.zipIdx.drop offset).map (·.1) = items.drop offset := by
        rw [List.map_drop, List.zipIdx_map_fst]
      rw [run_additionalItems]
      simp only [demands, all_single, Demand.met, List.all_map]
      rw [← all_of_map_fst items_, ← all_of_map_fst items_]
      split
      · next forbids =>
        rw [Bool.and_eq_true, decide_eq_true_eq] at forbids
        have some_ : 0 < (items.zipIdx.drop offset).length := by
          rw [List.length_drop, List.length_zipIdx]
          omega
        obtain ⟨v, mem⟩ := List.exists_mem_of_length_pos some_
        obtain ⟨ht, hf⟩ := (tells v mem (scope.below "") rfl).of_isForbidding forbids.1
        rw [List.all_eq_false.2 ⟨v, mem, Bool.eq_false_iff.1 ht⟩,
          List.all_eq_false.2 ⟨v, mem, Bool.eq_false_iff.1 hf⟩]
        exact (Tells.fail _).toMeans
      · exact (Tells.all fun v mem => tells v mem _ rfl).toMeans
    | _ =>
      rw [run]
      exact Tells.pass.toMeans
      all_goals simp
  | contains schema =>
    cases data with
    | array items =>
      rw [run_contains]
      simp only [demands, all_single, Demand.met, List.any_map]
      rw [← any_of_map_fst (List.zipIdx_map_fst 0 items)]
      refine .ofContains fun v mem => ?_
      exact (applied List.mem_cons_self (p := .below schema v.1)
        (List.mem_map_of_mem (List.fst_mem_of_mem_zipIdx mem)) _ rfl).valid
    | _ =>
      rw [run]
      exact Tells.pass.toMeans
      all_goals simp
  | allOf schemas =>
    rw [run_allOf]
    simp only [demands, all_single, Demand.met, List.all_map]
    refine (Tells.all fun schema mem => ?_).toMeans
    exact applied List.mem_cons_self (p := .here schema data) (List.mem_map_of_mem mem) scope rfl
  | anyOf schemas =>
    rw [run_anyOf]
    simp only [demands, all_single, Demand.met, List.any_map]
    refine .ofAnyOf fun schema mem => ?_
    exact (applied List.mem_cons_self (p := .here schema data) (List.mem_map_of_mem mem) scope
      rfl).valid
  | oneOf schemas =>
    rw [run_oneOf]
    simp only [demands, all_single, Demand.met, List.countP_map]
    refine .ofOneOf fun schema mem => ?_
    exact (applied List.mem_cons_self (p := .here schema data) (List.mem_map_of_mem mem) scope
      rfl).valid
  | not schema =>
    rw [run_not]
    simp only [demands, all_single, Demand.met]
    exact .ofNot (applied List.mem_cons_self List.mem_cons_self scope rfl).valid
  | conditional condition yes no =>
    rw [run_conditional]
    simp only [demands, all_single, Demand.met]
    have test : (condition.run table data scope).valid = t (.here condition data) :=
      (applied List.mem_cons_self (p := .here condition data) List.mem_cons_self scope rfl).valid
    rw [test]
    split
    · next holds =>
      cases yes with
      | none => exact .of_quiet (test.trans holds) (fun _ => rfl) fun _ => rfl
      | some schema =>
        refine .ofBranch _ _ (applied List.mem_cons_self (p := .here schema data) ?_ scope rfl)
        simp [Demand.parts]
    · cases no with
      | none => exact .of_quiet rfl (fun _ => rfl) fun _ => rfl
      | some schema =>
        refine .ofBranch _ _ (applied List.mem_cons_self (p := .here schema data) ?_ scope rfl)
        simp [Demand.parts]
  | children schema =>
    rw [run_children]
    simp only [demands, all_single, Demand.met, List.all_map]
    refine (Tells.all fun v mem => ?_).toMeans
    exact applied List.mem_cons_self (p := .below schema v.2) (List.mem_map_of_mem mem) _ rfl
  | verdict schema =>
    rw [run_verdict]
    simp only [demands, all_single, Demand.met, List.any_cons, List.any_nil, Bool.or_false]
    exact .of_quiet (applied List.mem_cons_self List.mem_cons_self scope rfl).valid (fun _ => rfl)
      fun _ => rfl
  | predicate test traced =>
    rw [run]
    simp only [demands, all_single, Demand.met]
    exact .of_quiet rfl (fun _ => rfl) fun _ => rfl
  | deferred test => exact absurd rfl (now test)
  | probe =>
    rw [run]
    exact .of_quiet rfl (fun _ => rfl) fun _ => rfl
  | remark objection accepted =>
    cases accepted with
    | true => exact absurd rfl (loud objection)
    | false =>
      rw [run]
      exact .of_quiet rfl (fun h => by cases h) fun h => by cases h
  | beneath steps message =>
    rw [run]
    exact (Tells.fail _).toMeans

end Check

/-! ## Schemas -/

/-- A compiled keyword refuses what it says something about, and its outcome is known later
    exactly if it is one of the keywords that are known `later`. -/
structure Rule.Heeds (later : String → Bool) (rule : Rule Check) : Prop where
  loud : ∀ objection, rule.check ≠ .remark objection true
  waits : ∀ test, rule.check = .deferred test → later rule.keyword = true
  now : later rule.keyword = true → ∃ test, rule.check = .deferred test

/-- All keywords that occur in a compiled schema are of this kind. -/
def Node.Heeds (later : String → Bool) (node : Node) : Prop :=
  ∀ rules, node.Contains (.rules rules) → ∀ rule ∈ rules, rule.Heeds later

section Run

open Report (Means Tells)

variable {table : SlotTable} {later : String → Bool}

theorem Node.Heeds.part {rules : List (Rule Check)} (heeds : (Node.rules rules).Heeds later)
    {rule : Rule Check} (mem : rule ∈ rules) {part : Node} (of : part ∈ rule.check.parts) :
    part.Heeds later := fun list inner => heeds list (.part mem of inner)

/-- The report of a keyword tells what the keyword demands where it is known later. -/
theorem Rule.run_tells {rule : Rule Check} {data : Value} {scope : Scope}
    (heeds : rule.Heeds later) {t f : Part Node → Bool}
    (parts : ∀ p, rule.check.Applies data p → ∀ at_ : Scope,
      at_.hops = p.way.hops scope.hops → (p.schema.run table p.data at_).Tells (t p) (f p)) :
    (scope.explain (rule.check.run table data scope)).Tells
      (later rule.keyword || (rule.check.demands data).all (·.met t t))
      ((rule.check.demands data).all (·.met f t)) := by
  cases known : later rule.keyword with
  | true =>
    obtain ⟨test, check⟩ := heeds.now known
    rw [check, Bool.true_or, Check.demands, all_single, Demand.met, Check.run]
    refine Means.explain ⟨rfl, fun _ => rfl, fun _ => all_single _ _, fun _ => rfl⟩
  | false =>
    rw [Bool.false_or]
    refine Means.explain (Check.run_means heeds.loud (fun test check => ?_) parts)
    rw [heeds.waits test check] at known
    cases known

/-- The report of a compiled schema tells whether it accepts the data. -/
theorem Node.run_tells (heeds : ∀ id node, table id = some node → node.Heeds later)
    (node : Node) (data : Value) (scope : Scope) (h : node.Heeds later) :
    (node.run table data scope).Tells (node.accepts table later true data scope.hops)
      (node.accepts table later false data scope.hops) := by
  induction node, data, scope using Node.run_induction with
  | always verdict data scope =>
    rw [accepts_always, accepts_always]
    cases verdict with
    | true =>
      rw [run_true]
      exact .pass
    | false =>
      rw [run_false]
      exact .fail _
  | ref target reference data scope ih =>
    by_cases hop : scope.hops < maxHops
    · cases found : table target with
      | none =>
        rw [run_ref_missing table data scope hop found, accepts_ref_missing table later _ _ _ found,
          accepts_ref_missing table later _ _ _ found]
        exact .fail _
      | some schema =>
        rw [run_ref table data scope hop found, accepts_ref table later _ _ _ hop found,
          accepts_ref table later _ _ _ hop found]
        exact ih hop schema (heeds target schema found)
    · rw [run_ref_deep table data scope hop, accepts_ref_deep table later _ _ _ hop,
        accepts_ref_deep table later _ _ _ hop]
      exact .fail _
  | rules rules data scope here below =>
    rw [run_rules, accepts_rules, accepts_rules]
    refine .all fun rule mem => ?_
    simp only [Rule.holds]
    cases applies : rule.appliesTo data with
    | false => exact .pass
    | true =>
      simp only [if_true, Bool.not_true, Bool.false_or, Bool.true_and, Bool.false_and]
      refine Rule.run_tells (h rules (.self _) rule mem) fun p of at_ hops => ?_
      have tells : (p.schema.run table p.data at_).Tells
          (p.schema.accepts table later true p.data at_.hops)
          (p.schema.accepts table later false p.data at_.hops) := by
        obtain ⟨memP, ⟨way, same⟩ | lt⟩ := of
        · rw [way] at hops
          rw [same]
          exact here rule mem p.schema memP at_ hops (h.part mem memP)
        · exact below p.schema p.data at_ lt (h.part mem memP)
      rw [hops] at tells
      exact tells

/-! ## Validators -/

theorem DeferredTest.settle_eq_nil_iff (allErrors : Bool) (tests : List DeferredTest) :
    (settle allErrors tests).violations = [] ↔ (tests.all fun t => t.test t.data) = true := by
  induction tests with
  | nil => exact ⟨fun _ => rfl, fun _ => rfl⟩
  | cons t rest ih =>
    rw [List.all_cons, settle]
    cases t.test t.data with
    | true => exact ih
    | false => cases allErrors <;> exact ⟨fun h => (nomatch h), fun h => (nomatch h)⟩

variable (heeds : ∀ id node, table id = some node → node.Heeds later)

include heeds

theorem Validator.run_tells (validator : Validator) (data : Value) :
    (validator.run table data).Tells
      ((Node.ref validator.entry "#").accepts table later true data 0)
      ((Node.ref validator.entry "#").accepts table later false data 0) :=
  Node.run_tells heeds _ data { allErrors := validator.allErrors }
    fun rules occurs => by cases occurs

/-- A synchronous validator says nothing exactly if the schema accepts the data as a schema that
    is only tried. -/
theorem Validator.validate_eq_nil_iff (validator : Validator) (sync : validator.isAsync = false)
    (data : Value) :
    (validator.validate table data).violations = [] ↔
      (Node.ref validator.entry "#").accepts table later true data 0 = true := by
  have tells := validator.run_tells heeds data
  rw [validate, sync]
  constructor
  · exact fun silent => Bool.not_eq_false _ ▸ fun refused => tells.refuses refused silent
  · exact tells.quiet

/-- With deferred tests a validator says nothing exactly if the schema accepts the data. -/
theorem Validator.resolve_eq_nil_iff (validator : Validator) (data : Value) :
    (validator.resolve table data).violations = [] ↔
      (Node.ref validator.entry "#").accepts table later false data 0 = true := by
  have tells := validator.run_tells heeds data
  rw [resolve]
  cases tried : (Node.ref validator.entry "#").accepts table later true data 0 with
  | true =>
    simp only [tells.quiet tried, List.isEmpty_nil, Bool.or_true, if_true, List.nil_append]
    rw [DeferredTest.settle_eq_nil_iff, tells.passes tried]
  | false =>
    have refused := tells.refuses tried
    rw [tried] at tells
    rw [tells.final_eq_false]
    refine ⟨fun silent => absurd ?_ refused, fun h => (nomatch h)⟩
    simp only at silent
    split at silent
    · exact (List.append_eq_nil_iff.1 silent).1
    · exact silent

end Run

end JsonSchema
