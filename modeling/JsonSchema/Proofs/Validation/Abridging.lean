import JsonSchema.Proofs.Validation.Equations
import JsonSchema.Proofs.Validation.Parts
import JsonSchema.Proofs.Validation.Verdicts
import JsonSchema.Validation.Validator

/-!
# Stopping at the first violation

A compiled schema is applied twice to the same data: once so that a conjunction ends at the first
part that refuses, and once so that everything is found. The first report abridges the second one.

* `Violations.Abridges`: a list of violations that leaves out some of another one, but not its
  first.
* `Report.Abridges`, `Report.Summarizes`: reports with the same verdict, of which one says less.
* `Report.Summarizes.all`: this is so of a conjunction if it is so of its parts.
* `Node.run_summarizes`: this is so of every compiled schema under every table.
* `Validator.validate_abridges`, `Validator.resolve_abridges`: this is so of every validator.
-/

namespace JsonSchema

/-! ## Violations -/

/-- A list that leaves out some violations of another one, but not the first of them. -/
structure Violations.Abridges (short full : Violations) : Prop where
  sublist : short.Sublist full
  first : short.head? = full.head?

namespace Violations.Abridges

variable {short full short' full' : Violations}

theorem refl (violations : Violations) : Abridges violations violations := ⟨.refl _, rfl⟩

theorem eq_nil_iff (h : Abridges short full) : short = [] ↔ full = [] := by
  rw [← List.head?_eq_none_iff, ← List.head?_eq_none_iff, h.first]

theorem isEmpty_eq (h : Abridges short full) : short.isEmpty = full.isEmpty := by
  rw [Bool.eq_iff_iff, List.isEmpty_iff, List.isEmpty_iff, h.eq_nil_iff]

theorem append (h : Abridges short full) (h' : Abridges short' full') :
    Abridges (short ++ short') (full ++ full') where
  sublist := h.sublist.append h'.sublist
  first := by rw [List.head?_append, List.head?_append, h.first, h'.first]

/-- What comes after the first violation may be left out. -/
theorem append_right (h : Abridges short full) (some_ : short ≠ []) (rest : Violations) :
    Abridges short (full ++ rest) where
  sublist := h.sublist.trans (List.sublist_append_left full rest)
  first := by
    obtain ⟨v, tail, rfl⟩ := List.exists_cons_of_ne_nil some_
    rw [List.head?_append, ← h.first]
    rfl

/-- The first violation stands for all. -/
theorem take_one (violations : Violations) : Abridges (violations.take 1) violations where
  sublist := List.take_sublist 1 violations
  first := by cases violations <;> rfl

end Violations.Abridges

/-! ## Reports -/

/-- The same place, where everything is to be found or only the first violation. -/
def Scope.reporting (scope : Scope) (allErrors : Bool) : Scope := { scope with allErrors }

theorem Scope.foldl_below_reporting (steps : List String) (scope : Scope) (allErrors : Bool) :
    steps.foldl below (scope.reporting allErrors) = (steps.foldl below scope).reporting allErrors := by
  induction steps generalizing scope with
  | nil => rfl
  | cons step rest ih => exact ih (scope.below step)

namespace Report

/-- A report with the verdict of another one that says less. Nothing is left out of what is
    still to be tested if the data is accepted. -/
structure Abridges (short full : Report) : Prop where
  valid : short.valid = full.valid
  violations : Violations.Abridges short.violations full.violations
  deferred : short.valid = true → short.deferred = full.deferred

/-- A report that also says something if it refuses. -/
structure Summarizes (short full : Report) : Prop extends Abridges short full where
  refuses : short.valid = false → short.violations ≠ []

variable {a b c d : Report}

section Verdicts

variable {R : Report → Report → Prop} (valid : ∀ a b, R a b → a.valid = b.valid)

include valid

/-- Reports with the same verdicts stop a run at the same part. -/
theorem forall₂_runUntil {α β : Type} (stop : Bool → Bool) {as : List α} {bs : List β}
    {f : α → Report} {g : β → Report} (h : List.Forall₂ (fun a b => R (f a) (g b)) as bs) (n : Nat) :
    List.Forall₂ R (runUntil (stop ·.valid) n as f) (runUntil (stop ·.valid) n bs g) := by
  induction h generalizing n with
  | nil => cases n <;> exact .nil
  | cons head tail ih =>
    cases n with
    | zero => exact .nil
    | succ n =>
      rw [Report.runUntil, Report.runUntil, valid _ _ head]
      exact .cons head (ih _)

theorem any_valid_eq {as bs : List Report} (h : List.Forall₂ R as bs) :
    as.any (·.valid) = bs.any (·.valid) := by
  induction h with
  | nil => rfl
  | cons head tail ih => rw [List.any_cons, List.any_cons, valid _ _ head, ih]

theorem passing_eq {as bs : List Report} (h : List.Forall₂ R as bs) : passing as = passing bs := by
  have numbered (n : Nat) : ((as.zipIdx n).filter (·.1.valid)).map (·.2) =
      ((bs.zipIdx n).filter (·.1.valid)).map (·.2) := by
    induction h generalizing n with
    | nil => rfl
    | cons head tail ih =>
      rw [List.zipIdx_cons, List.zipIdx_cons, List.filter_cons, List.filter_cons, valid _ _ head]
      split
      · rw [List.map_cons, List.map_cons, ih]
      · exact ih _
  exact numbered 0

end Verdicts

namespace Abridges

/-- Reports that say nothing, and leave nothing to be tested. -/
theorem of_quiet (valid : a.valid = b.valid) (quiet : a.violations = [] ∧ b.violations = [])
    (settled : a.deferred = [] ∧ b.deferred = []) : a.Abridges b where
  valid := valid
  violations := by rw [quiet.1, quiet.2]; exact .refl _
  deferred _ := settled.1.trans settled.2.symm

theorem discard (h : a.Abridges b) : a.discard.Abridges b.discard :=
  of_quiet h.valid ⟨rfl, rfl⟩ ⟨rfl, rfl⟩

theorem append (h : a.Abridges b) (h' : c.Abridges d) : (a ++ c).Abridges (b ++ d) where
  valid := congrArg₂ (· && ·) h.valid h'.valid
  violations := h.violations.append h'.violations
  deferred valid := by
    obtain ⟨hv, hv'⟩ := Bool.and_eq_true_iff.1 valid
    exact congrArg₂ (· ++ ·) (h.deferred hv) (h'.deferred hv')

theorem refuse (h : a.Abridges b) (v : Violation) : (a.refuse v).Summarizes (b.refuse v) where
  valid := rfl
  violations := h.violations.append (.refl [v])
  deferred valid := nomatch valid
  refuses _ := List.append_ne_nil_of_right_ne_nil _ (List.cons_ne_nil _ _)

theorem concat {short full : List Report} (h : List.Forall₂ Abridges short full) :
    (Report.concat short).Abridges (Report.concat full) := by
  induction h with
  | nil => exact of_quiet rfl ⟨rfl, rfl⟩ ⟨rfl, rfl⟩
  | cons head tail ih => exact head.append ih

theorem traces (verdict : Bool) (short full : List Report) :
    (Report.traces verdict short).Abridges (Report.traces verdict full) :=
  of_quiet rfl ⟨rfl, rfl⟩ ⟨rfl, rfl⟩

theorem runUntil {α : Type} (stop : Bool → Bool) {parts : List α} {f g : α → Report}
    (h : ∀ part ∈ parts, (f part).Abridges (g part)) (n : Nat) :
    List.Forall₂ Abridges (runUntil (stop ·.valid) n parts f)
      (runUntil (stop ·.valid) n parts g) :=
  forall₂_runUntil (fun _ _ r => r.valid) stop (List.forall₂_same.2 h) n

end Abridges

namespace Summarizes

theorem pass : Report.pass.Summarizes Report.pass where
  toAbridges := .of_quiet rfl ⟨rfl, rfl⟩ ⟨rfl, rfl⟩
  refuses h := nomatch h

theorem fail (v : Violation) : (Report.fail v).Summarizes (Report.fail v) where
  valid := rfl
  violations := .refl _
  deferred _ := rfl
  refuses _ := List.cons_ne_nil _ _

theorem append (h : a.Summarizes b) (h' : c.Summarizes d) : (a ++ c).Summarizes (b ++ d) where
  toAbridges := h.toAbridges.append h'.toAbridges
  refuses refused := by
    rcases Bool.and_eq_false_iff.1 refused with refused | refused
    · exact List.append_ne_nil_of_left_ne_nil (h.refuses refused) _
    · exact List.append_ne_nil_of_right_ne_nil _ (h'.refuses refused)

/-- What comes after a report that refuses may be left out. -/
theorem append_right (h : a.Summarizes b) (refused : a.valid = false) (rest : Report) :
    (a ++ Report.pass).Summarizes (b ++ rest) where
  valid := by
    show (a.valid && true) = (b.valid && rest.valid)
    rw [← h.valid, refused]
    rfl
  violations := by
    show Violations.Abridges (a.violations ++ []) (b.violations ++ rest.violations)
    rw [List.append_nil]
    exact h.violations.append_right (h.refuses refused) _
  deferred valid := by
    rw [show (a ++ Report.pass).valid = (a.valid && true) from rfl, refused] at valid
    cases valid
  refuses _ := List.append_ne_nil_of_left_ne_nil (h.refuses refused) _

/-- A conjunction that ends at the first part that refuses, and one that does not. -/
theorem all {α : Type} {parts : List α} {f g : α → Report}
    (h : ∀ part ∈ parts, (f part).Summarizes (g part)) :
    (Report.all false parts f).Summarizes (Report.all true parts g) := by
  induction parts with
  | nil => exact .pass
  | cons part rest ih =>
    have first := h part List.mem_cons_self
    have ih := ih fun part mem => h part (List.mem_cons_of_mem _ mem)
    rw [all_cons, all_cons, Bool.false_or, Bool.true_or, if_pos rfl]
    split
    · exact first.append ih
    · next refused => exact first.append_right (Bool.eq_false_iff.2 refused) _

end Summarizes

variable (scope : Scope)

/-- Objections are counted in full, or the first one stands for all. -/
theorem Summarizes.ofObjections (objections : List Objection) :
    (Report.ofObjections (scope.reporting false) objections).Summarizes
      (Report.ofObjections (scope.reporting true) objections) where
  valid := rfl
  violations := by
    show Violations.Abridges ((objections.take 1).map _) (objections.map _)
    rw [List.map_take]
    exact .take_one _
  deferred _ := rfl
  refuses refused := by
    cases objections with
    | nil => cases refused
    | cons o rest => exact List.cons_ne_nil _ _

variable {scope} {short full : List Report}

theorem Abridges.ofContains (h : List.Forall₂ Abridges short full) :
    (Report.ofContains (scope.reporting false) short).Abridges
      (Report.ofContains (scope.reporting true) full) := by
  rw [Report.ofContains, Report.ofContains, any_valid_eq (fun _ _ r => r.valid) h]
  split
  · exact .traces _ _ _
  · exact ((Abridges.traces _ _ _).refuse _).toAbridges

theorem Abridges.ofAnyOf (h : List.Forall₂ Abridges short full) :
    (Report.ofAnyOf (scope.reporting false) short).Abridges
      (Report.ofAnyOf (scope.reporting true) full) := by
  rw [Report.ofAnyOf, Report.ofAnyOf, any_valid_eq (fun _ _ r => r.valid) h]
  split
  · exact .traces _ _ _
  · exact ((Abridges.concat h).refuse _).toAbridges

theorem Abridges.ofOneOf (h : List.Forall₂ Abridges short full) :
    (Report.ofOneOf (scope.reporting false) short).Abridges
      (Report.ofOneOf (scope.reporting true) full) := by
  rw [Report.ofOneOf, Report.ofOneOf, passing_eq (fun _ _ r => r.valid) h]
  split
  · exact ((Abridges.concat h).refuse _).toAbridges
  · exact .traces _ _ _
  · exact ((Abridges.traces _ _ _).refuse _).toAbridges

theorem Abridges.ofNot (h : a.Abridges b) :
    (Report.ofNot (scope.reporting false) a).Abridges (Report.ofNot (scope.reporting true) b) := by
  rw [Report.ofNot, Report.ofNot, h.valid]
  split
  · exact (h.discard.refuse _).toAbridges
  · exact .of_quiet rfl ⟨rfl, rfl⟩ ⟨rfl, rfl⟩

theorem Abridges.ofBranch (test test' : Report) (name : String) (h : a.Abridges b) :
    (Report.ofBranch (scope.reporting false) test name a).Abridges
      (Report.ofBranch (scope.reporting true) test' name b) := by
  have joined := (Abridges.of_quiet (a := { test.discard with valid := true })
    (b := { test'.discard with valid := true }) rfl ⟨rfl, rfl⟩ ⟨rfl, rfl⟩).append h
  rw [Report.ofBranch, Report.ofBranch, h.valid]
  split
  · exact joined
  · exact (joined.refuse _).toAbridges

theorem Summarizes.ofName (name : String) (h : a.Summarizes b) :
    (Report.ofName (scope.reporting false) name a).Summarizes
      (Report.ofName (scope.reporting true) name b) := by
  rw [Report.ofName, Report.ofName, h.valid]
  split
  · exact h
  · exact h.toAbridges.refuse _

/-- A keyword that refuses says so. -/
theorem Abridges.explain (h : a.Abridges b) :
    ((scope.reporting false).explain a).Summarizes ((scope.reporting true).explain b) := by
  rw [Scope.explain, Scope.explain, h.valid, ← h.violations.isEmpty_eq]
  split
  · exact h.refuse _
  · next said =>
    refine ⟨h, fun refused silent => said ?_⟩
    rw [← h.valid, refused, silent]
    rfl

end Report

/-! ## Keywords -/

section Run

open Report (Abridges Summarizes)

variable {table : SlotTable} {data : Value} {scope : Scope}

/-- The shorter report of a keyword abridges the full one if the reports of the schemas that it
    applies do. -/
theorem Check.run_abridges {check : Check}
    (here : ∀ part ∈ check.parts, ∀ at_ : Scope, at_.hops = scope.hops →
      (part.run table data (at_.reporting false)).Summarizes
        (part.run table data (at_.reporting true)))
    (below : ∀ (part : Node) (value : Value) (at_ : Scope), value.weight < data.weight →
      (part.run table value (at_.reporting false)).Summarizes
        (part.run table value (at_.reporting true))) :
    (check.run table data (scope.reporting false)).Abridges
      (check.run table data (scope.reporting true)) := by
  cases check with
  | assertion a =>
    rw [run_assertion, run_assertion]
    exact (Summarizes.ofObjections scope _).toAbridges
  | apply schema =>
    rw [run_apply, run_apply]
    exact (here _ List.mem_cons_self scope rfl).toAbridges
  | properties schemas =>
    cases data with
    | object members =>
      rw [run_properties, run_properties]
      refine (Summarizes.all fun s _ => ?_).toAbridges
      split
      · next found => exact below _ _ (scope.below s.1) (Value.weight_lt_of_get? found)
      · exact .pass
    | _ => simp only [run]; exact Summarizes.pass.toAbridges
  | patternProperties schemas =>
    cases data with
    | object members =>
      rw [run_patternProperties, run_patternProperties]
      refine (Summarizes.all fun s _ => Summarizes.all fun m mem => ?_).toAbridges
      exact below _ _ (scope.below m.1)
        (Value.weight_lt_of_mem_members (List.mem_filter.1 mem).1)
    | _ => simp only [run]; exact Summarizes.pass.toAbridges
  | additionalProperties known patterns schema =>
    cases data with
    | object members =>
      rw [run_additionalProperties, run_additionalProperties]
      refine (Summarizes.all fun m mem => ?_).toAbridges
      split
      · exact .fail _
      · exact below _ _ (scope.below m.1)
          (Value.weight_lt_of_mem_members (List.mem_filter.1 mem).1)
    | _ => simp only [run]; exact Summarizes.pass.toAbridges
  | propertyNames schema =>
    cases data with
    | object members =>
      rw [run_propertyNames, run_propertyNames]
      refine (Summarizes.all fun m mem => .ofName _ ?_).toAbridges
      exact below _ _ scope (Value.weight_string_lt mem m.1)
    | _ => simp only [run]; exact Summarizes.pass.toAbridges
  | dependencies ds =>
    cases data with
    | object members =>
      rw [run_dependencies, run_dependencies]
      refine (Summarizes.all fun d mem => ?_).toAbridges
      obtain ⟨property, dependency⟩ := d
      cases dependency with
      | names names => exact .ofObjections scope _
      | schema schema =>
        exact here _ (mem_parts_dependencies.2 ⟨_, (List.mem_filter.1 mem).1⟩) scope rfl
    | _ => simp only [run]; exact Summarizes.pass.toAbridges
  | eachItem schema =>
    cases data with
    | array items =>
      rw [run_eachItem, run_eachItem]
      refine (Summarizes.all fun v mem => ?_).toAbridges
      exact below _ _ (scope.below (toString v.2)) (Value.weight_lt_of_mem_zipIdx mem)
    | _ => simp only [run]; exact Summarizes.pass.toAbridges
  | tuple schemas =>
    cases data with
    | array items =>
      rw [run_tuple, run_tuple]
      refine (Summarizes.all fun v mem => ?_).toAbridges
      exact below _ _ (scope.below (toString v.2)) (Value.weight_lt_of_mem_zip_zipIdx mem)
    | _ => simp only [run]; exact Summarizes.pass.toAbridges
  | additionalItems offset schema =>
    cases data with
    | array items =>
      rw [run_additionalItems, run_additionalItems]
      split
      · exact (Summarizes.fail _).toAbridges
      · refine (Summarizes.all fun v mem => ?_).toAbridges
        exact below _ _ (scope.below (toString v.2)) (Value.weight_lt_of_mem_drop_zipIdx mem)
    | _ => simp only [run]; exact Summarizes.pass.toAbridges
  | contains schema =>
    cases data with
    | array items =>
      rw [run_contains, run_contains]
      refine .ofContains (Abridges.runUntil id (fun v mem => ?_) 1)
      exact (below _ _ (scope.below (toString v.2)) (Value.weight_lt_of_mem_zipIdx mem)).toAbridges
    | _ => simp only [run]; exact Summarizes.pass.toAbridges
  | allOf schemas =>
    rw [run_allOf, run_allOf]
    exact (Summarizes.all fun schema mem => here schema mem scope rfl).toAbridges
  | anyOf schemas =>
    rw [run_anyOf, run_anyOf]
    exact .ofAnyOf (Abridges.runUntil id
      (fun schema mem => (here schema mem scope rfl).toAbridges) 1)
  | oneOf schemas =>
    rw [run_oneOf, run_oneOf]
    exact .ofOneOf (Abridges.runUntil id
      (fun schema mem => (here schema mem scope rfl).toAbridges) 2)
  | not schema =>
    rw [run_not, run_not]
    exact (here _ List.mem_cons_self scope rfl).toAbridges.ofNot
  | conditional condition yes no =>
    have test := (here condition List.mem_cons_self scope rfl).toAbridges
    rw [run_conditional, run_conditional, test.valid]
    split
    · cases yes with
      | none => exact test.discard
      | some schema =>
        refine (here schema ?_ scope rfl).toAbridges.ofBranch _ _ "then"
        exact List.mem_cons_of_mem _ (List.mem_append_left _ List.mem_cons_self)
    · cases no with
      | none => exact .of_quiet rfl ⟨rfl, rfl⟩ ⟨rfl, rfl⟩
      | some schema =>
        refine (here schema ?_ scope rfl).toAbridges.ofBranch _ _ "else"
        exact List.mem_cons_of_mem _ (List.mem_append_right _ List.mem_cons_self)
  | children schema =>
    rw [run_children, run_children]
    refine (Summarizes.all fun v mem => ?_).toAbridges
    exact below _ _ (scope.below v.1) (Value.weight_lt_of_mem_children mem)
  | verdict schema =>
    rw [run_verdict, run_verdict]
    exact (here _ List.mem_cons_self scope rfl).toAbridges.discard
  | predicate test traced =>
    rw [run, run]
    exact .of_quiet rfl ⟨rfl, rfl⟩ ⟨rfl, rfl⟩
  | deferred test =>
    rw [run, run]
    exact ⟨rfl, .refl _, fun _ => rfl⟩
  | probe =>
    rw [run, run]
    exact .of_quiet rfl ⟨rfl, rfl⟩ ⟨rfl, rfl⟩
  | remark objection verdict =>
    rw [run, run]
    exact ⟨rfl, .refl _, fun _ => rfl⟩
  | beneath steps message =>
    rw [run, run]
    simp only [Scope.foldl_below_reporting]
    exact (Summarizes.fail _).toAbridges

/-! ## Schemas -/

/-- The shorter report of a compiled schema abridges the full one, and says something if the
    schema refuses. -/
theorem Node.run_summarizes (table : SlotTable) (node : Node) (data : Value) (scope : Scope) :
    (node.run table data (scope.reporting false)).Summarizes
      (node.run table data (scope.reporting true)) := by
  induction node, data, scope using Node.run_induction with
  | always verdict data scope =>
    cases verdict with
    | true =>
      rw [run_true, run_true]
      exact .pass
    | false =>
      rw [run_false, run_false]
      exact .fail _
  | ref target reference data scope ih =>
    by_cases hop : scope.hops < maxHops
    · have hop_ (b : Bool) : (scope.reporting b).hops < maxHops := hop
      cases found : table target with
      | none =>
        rw [run_ref_missing table data _ (hop_ _) found, run_ref_missing table data _ (hop_ _) found]
        exact .fail _
      | some schema =>
        rw [run_ref table data _ (hop_ _) found, run_ref table data _ (hop_ _) found]
        exact ih hop schema
    · have deep (b : Bool) : ¬ (scope.reporting b).hops < maxHops := hop
      rw [run_ref_deep table data _ (deep _), run_ref_deep table data _ (deep _)]
      exact .fail _
  | rules rules data scope here below =>
    rw [run_rules, run_rules]
    refine .all fun rule mem => ?_
    split
    · let place := scope.within rule
      have abridges : (rule.check.run table data (place.reporting false)).Abridges
          (rule.check.run table data (place.reporting true)) :=
        Check.run_abridges (fun part of at_ hops => here rule mem part of at_ hops) below
      show ((place.reporting false).explain _).Summarizes ((place.reporting true).explain _)
      exact abridges.explain
    · exact .pass

end Run

/-! ## Validators -/

namespace Validator

/-- The validator that finds everything, or only the first violation. -/
def reporting (v : Validator) (allErrors : Bool) : Validator := { v with allErrors }

variable (v : Validator) (table : SlotTable) (data : Value)

theorem run_summarizes :
    ((v.reporting false).run table data).Summarizes ((v.reporting true).run table data) :=
  Node.run_summarizes table (.ref v.entry "#") data { allErrors := v.allErrors }

/-- What a validator says that stops at the first violation abridges what it says if it finds
    everything. -/
theorem validate_abridges :
    Violations.Abridges ((v.reporting false).validate table data).violations
      ((v.reporting true).validate table data).violations := by
  rw [validate, validate, show (v.reporting true).isAsync = (v.reporting false).isAsync from rfl]
  split
  · exact .refl _
  · exact (v.run_summarizes table data).violations

/-- Deferred tests that stop at the first failure. -/
theorem settle_abridges (tests : List DeferredTest) :
    Violations.Abridges (DeferredTest.settle false tests).violations
      (DeferredTest.settle true tests).violations := by
  induction tests with
  | nil => exact .refl _
  | cons t rest ih =>
    rw [DeferredTest.settle, DeferredTest.settle]
    split
    · exact ih
    · exact Violations.Abridges.append_right (.refl [t.violation]) (List.cons_ne_nil _ _) _

/-- The same with deferred tests, which are not begun if there is a violation already. -/
theorem resolve_abridges :
    Violations.Abridges ((v.reporting false).resolve table data).violations
      ((v.reporting true).resolve table data).violations := by
  have reports := v.run_summarizes table data
  rw [resolve, resolve]
  simp only [show (v.reporting false).allErrors = false from rfl,
    show (v.reporting true).allErrors = true from rfl, Bool.false_or, Bool.true_or, if_true]
  split
  · next silent =>
    have accepted : ((v.reporting false).run table data).valid = true :=
      Bool.not_eq_false _ ▸ fun refused => reports.refuses refused (List.isEmpty_iff.1 silent)
    rw [reports.deferred accepted]
    exact reports.violations.append (settle_abridges _)
  · next said => exact reports.violations.append_right (fun silent => said (by rw [silent]; rfl)) _

end Validator

end JsonSchema
