import JsonSchema.Proofs.Validation.Abridging
import JsonSchema.Proofs.Validation.Mirroring

/-!
# References in rules of their own

A reference is compiled to a proxy that stands alone, or to a proxy in a rule beside those of other
keywords. Which of the two it is changes what is said about data, but not whether data is accepted.

* `Report.Concurs`, `Report.Confirms`: reports that differ only in what they say.
* `Node.Wrapped`: the same schema, with some of its references in rules of their own.
* `Node.Wrapped.run_confirms`: such schemas refuse the same data.
* `Validator.validate_wrapped`: so do validators, before and after deferred tests are done.
-/

namespace JsonSchema

/-! ## Reports -/

/-- The same test on the same data. -/
structure DeferredTest.Like (a b : DeferredTest) : Prop where
  test : a.test = b.test
  data : a.data = b.data

/-- Two scopes at which the same is found, though it may be said in other words. -/
structure Scope.Like (a b : Scope) : Prop where
  allErrors : a.allErrors = b.allErrors
  hops : a.hops = b.hops

namespace Report

/-- Reports with the same verdict and the same deferred tests that both say something, or both say
    nothing. -/
structure Concurs (a b : Report) : Prop where
  valid : a.valid = b.valid
  silent : a.violations = [] ↔ b.violations = []
  deferred : List.Forall₂ DeferredTest.Like a.deferred b.deferred

/-- Such reports that say something if they refuse. -/
structure Confirms (a b : Report) : Prop extends Concurs a b where
  refuses : a.valid = false → a.violations ≠ []

variable {a b c d : Report}

namespace Concurs

/-- Reports that say nothing, and leave nothing to be tested. -/
theorem of_quiet (valid : a.valid = b.valid) (quiet : a.violations = [] ∧ b.violations = [])
    (settled : a.deferred = [] ∧ b.deferred = []) : a.Concurs b where
  valid := valid
  silent := iff_of_true quiet.1 quiet.2
  deferred := by rw [settled.1, settled.2]; exact .nil

theorem discard (h : a.Concurs b) : a.discard.Concurs b.discard :=
  of_quiet h.valid ⟨rfl, rfl⟩ ⟨rfl, rfl⟩

theorem append (h : a.Concurs b) (h' : c.Concurs d) : (a ++ c).Concurs (b ++ d) where
  valid := congrArg₂ (· && ·) h.valid h'.valid
  silent := by
    show a.violations ++ c.violations = [] ↔ b.violations ++ d.violations = []
    rw [List.append_eq_nil_iff, List.append_eq_nil_iff, h.silent, h'.silent]
  deferred := List.rel_append h.deferred h'.deferred

theorem refuse (h : a.Concurs b) (v w : Violation) : (a.refuse v).Confirms (b.refuse w) where
  valid := rfl
  silent := iff_of_false (List.append_ne_nil_of_right_ne_nil _ (List.cons_ne_nil v _))
    (List.append_ne_nil_of_right_ne_nil _ (List.cons_ne_nil w _))
  deferred := h.deferred
  refuses _ := List.append_ne_nil_of_right_ne_nil _ (List.cons_ne_nil _ _)

theorem concat {as bs : List Report} (h : List.Forall₂ Concurs as bs) :
    (Report.concat as).Concurs (Report.concat bs) := by
  induction h with
  | nil => exact of_quiet rfl ⟨rfl, rfl⟩ ⟨rfl, rfl⟩
  | cons head tail ih => exact head.append ih

theorem traces (verdict : Bool) (as bs : List Report) :
    (Report.traces verdict as).Concurs (Report.traces verdict bs) :=
  of_quiet rfl ⟨rfl, rfl⟩ ⟨rfl, rfl⟩

end Concurs

namespace Confirms

theorem pass : Report.pass.Confirms Report.pass where
  toConcurs := .of_quiet rfl ⟨rfl, rfl⟩ ⟨rfl, rfl⟩
  refuses h := nomatch h

theorem fail (v w : Violation) : (Report.fail v).Confirms (Report.fail w) where
  valid := rfl
  silent := iff_of_false (List.cons_ne_nil _ _) (List.cons_ne_nil _ _)
  deferred := .nil
  refuses _ := List.cons_ne_nil _ _

theorem append (h : a.Confirms b) (h' : c.Confirms d) : (a ++ c).Confirms (b ++ d) where
  toConcurs := h.toConcurs.append h'.toConcurs
  refuses refused := by
    rcases Bool.and_eq_false_iff.1 refused with refused | refused
    · exact List.append_ne_nil_of_left_ne_nil (h.refuses refused) _
    · exact List.append_ne_nil_of_right_ne_nil _ (h'.refuses refused)

/-- Conjunctions of such reports, one by one. -/
theorem all {α β : Type} {allErrors : Bool} {as : List α} {bs : List β} {f : α → Report}
    {g : β → Report} (h : List.Forall₂ (fun a b => (f a).Confirms (g b)) as bs) :
    (Report.all allErrors as f).Confirms (Report.all allErrors bs g) := by
  induction h with
  | nil => cases allErrors <;> exact pass
  | cons head tail ih =>
    rw [all_cons, all_cons, head.valid]
    split
    · exact head.append ih
    · exact head.append pass

/-- The same of parts of one list. -/
theorem all_self {α : Type} {allErrors : Bool} {as : List α} {f g : α → Report}
    (h : ∀ a ∈ as, (f a).Confirms (g a)) :
    (Report.all allErrors as f).Confirms (Report.all allErrors as g) :=
  all (List.forall₂_same.2 h)

end Confirms

variable {scope scope' : Scope} {as bs : List Report}

theorem Confirms.ofObjections (objections : List Objection) :
    (Report.ofObjections scope objections).Confirms (Report.ofObjections scope' objections) := by
  have some_ (at_ : Scope) : (Report.ofObjections at_ objections).violations = [] ↔ objections = [] := by
    unfold Report.ofObjections
    cases objections with
    | nil => simp
    | cons o rest => cases at_.allErrors <;> simp
  refine ⟨⟨rfl, (some_ scope).trans (some_ scope').symm, .nil⟩, fun refused silent => ?_⟩
  rw [show (Report.ofObjections scope objections).valid = objections.isEmpty from rfl,
    (some_ scope).1 silent] at refused
  cases refused

theorem Concurs.ofContains (h : List.Forall₂ Concurs as bs) :
    (Report.ofContains scope as).Concurs (Report.ofContains scope' bs) := by
  rw [Report.ofContains, Report.ofContains, any_valid_eq (fun _ _ r => r.valid) h]
  split
  · exact .traces _ _ _
  · exact ((Concurs.traces _ _ _).refuse _ _).toConcurs

theorem Concurs.ofAnyOf (h : List.Forall₂ Concurs as bs) :
    (Report.ofAnyOf scope as).Concurs (Report.ofAnyOf scope' bs) := by
  rw [Report.ofAnyOf, Report.ofAnyOf, any_valid_eq (fun _ _ r => r.valid) h]
  split
  · exact .traces _ _ _
  · exact ((Concurs.concat h).refuse _ _).toConcurs

theorem Concurs.ofOneOf (h : List.Forall₂ Concurs as bs) :
    (Report.ofOneOf scope as).Concurs (Report.ofOneOf scope' bs) := by
  rw [Report.ofOneOf, Report.ofOneOf, passing_eq (fun _ _ r => r.valid) h]
  split
  · exact ((Concurs.concat h).refuse _ _).toConcurs
  · exact .traces _ _ _
  · exact ((Concurs.traces _ _ _).refuse _ _).toConcurs

theorem Concurs.ofNot (h : a.Concurs b) :
    (Report.ofNot scope a).Concurs (Report.ofNot scope' b) := by
  rw [Report.ofNot, Report.ofNot, h.valid]
  split
  · exact (h.discard.refuse _ _).toConcurs
  · exact .of_quiet rfl ⟨rfl, rfl⟩ ⟨rfl, rfl⟩

theorem Concurs.ofBranch (test test' : Report) (name : String) (h : a.Concurs b) :
    (Report.ofBranch scope test name a).Concurs (Report.ofBranch scope' test' name b) := by
  have joined := (Concurs.of_quiet (a := { test.discard with valid := true })
    (b := { test'.discard with valid := true }) rfl ⟨rfl, rfl⟩ ⟨rfl, rfl⟩).append h
  rw [Report.ofBranch, Report.ofBranch, h.valid]
  split
  · exact joined
  · exact (joined.refuse _ _).toConcurs

theorem Confirms.ofName (name : String) (h : a.Confirms b) :
    (Report.ofName scope name a).Confirms (Report.ofName scope' name b) := by
  rw [Report.ofName, Report.ofName, h.valid]
  split
  · exact h
  · exact h.toConcurs.refuse _ _

/-- A keyword that refuses says so. -/
theorem Concurs.explain (h : a.Concurs b) : (scope.explain a).Confirms (scope'.explain b) := by
  have same : (!a.valid && a.violations.isEmpty) = (!b.valid && b.violations.isEmpty) := by
    rw [h.valid, Bool.eq_iff_iff.2 (List.isEmpty_iff.trans (h.silent.trans List.isEmpty_iff.symm))]
  rw [Scope.explain, Scope.explain, ← same]
  split
  · exact h.refuse _ _
  · next said =>
    refine ⟨h, fun refused silent => said ?_⟩
    rw [refused, silent]
    rfl

/-- It makes no difference whether a report that says why it refuses is explained. -/
theorem Confirms.explain_right (h : a.Confirms b) : a.Confirms (scope.explain b) := by
  have said : ¬ (!b.valid && b.violations.isEmpty) = true := by
    rw [Bool.and_eq_true, Bool.not_eq_true', List.isEmpty_iff]
    exact fun ⟨refused, silent⟩ => h.refuses (h.valid.trans refused) (h.silent.2 silent)
  rw [Scope.explain, if_neg said]
  exact h

/-- A conjunction of one part. -/
theorem all_single {α : Type} (allErrors : Bool) (part : α) (run : α → Report) :
    Report.all allErrors [part] run = run part := by
  have nothing : Report.all allErrors [] run = pass := by cases allErrors <;> rfl
  rw [all_cons, nothing, ite_self]
  show append (run part) pass = run part
  simp [append, pass]

end Report

/-! ## Keywords -/

section Run

open Report (Concurs Confirms)

variable {Q : Node → Node → Prop} {t t' : SlotTable} {data : Value} {scope scope' : Scope}

theorem Scope.Like.below (like : scope.Like scope') (step : String) :
    (scope.below step).Like (scope'.below step) := ⟨like.allErrors, rfl⟩

theorem Scope.Like.within {α : Type} (like : scope.Like scope') (a b : Rule α) :
    (scope.within a).Like (scope'.within b) := ⟨like.allErrors, like.hops⟩

/-- Compiled keywords with related schemas give concurring reports if the schemas do so where they
    are applied. -/
theorem Check.Mirrors.run_concurs {check check' : Check} (mirrors : check.Mirrors Q false check')
    (like : scope.Like scope') (forbids : ∀ a b, Q a b → a.isForbidding = b.isForbidding)
    (here : ∀ a ∈ check.parts, ∀ b, Q a b → (a.run t data scope).Confirms (b.run t' data scope'))
    (below : ∀ a b value, Q a b → ∀ at_ at' : Scope, at_.Like at' → Value.weight value < data.weight →
      (a.run t value at_).Confirms (b.run t' value at')) :
    (check.run t data scope).Concurs (check'.run t' data scope') := by
  cases mirrors with
  | assertion a =>
    rw [run_assertion, run_assertion]
    exact (Confirms.ofObjections _).toConcurs
  | apply h =>
    rw [run_apply, run_apply]
    exact (here _ List.mem_cons_self _ h).toConcurs
  | @properties as bs h =>
    cases data with
    | object members =>
      rw [run_properties, run_properties, like.allErrors]
      refine (Confirms.all (h.imp fun a b r => ?_)).toConcurs
      obtain ⟨name, related⟩ := r
      rw [← name]
      split
      · next found =>
        exact below _ _ _ related _ _ (like.below a.1) (Value.weight_lt_of_get? found)
      · exact .pass
    | _ => simp only [run]; exact Confirms.pass.toConcurs
  | patternProperties h =>
    cases data with
    | object members =>
      rw [run_patternProperties, run_patternProperties, like.allErrors]
      refine (Confirms.all (h.imp fun a b r => ?_)).toConcurs
      obtain ⟨pattern, related⟩ := r
      rw [← pattern]
      refine Confirms.all_self fun m mem => below _ _ _ related _ _ (like.below m.1) ?_
      exact Value.weight_lt_of_mem_members (List.mem_filter.1 mem).1
    | _ => simp only [run]; exact Confirms.pass.toConcurs
  | additionalProperties known patterns h =>
    cases data with
    | object members =>
      rw [run_additionalProperties, run_additionalProperties, like.allErrors]
      refine (Confirms.all_self fun m mem => ?_).toConcurs
      rw [forbids _ _ h]
      split
      · exact .fail _ _
      · exact below _ _ _ h _ _ (like.below m.1)
          (Value.weight_lt_of_mem_members (List.mem_filter.1 mem).1)
    | _ => simp only [run]; exact Confirms.pass.toConcurs
  | propertyNames h =>
    cases data with
    | object members =>
      rw [run_propertyNames, run_propertyNames, like.allErrors]
      refine (Confirms.all_self fun m mem => .ofName _ ?_).toConcurs
      exact below _ _ _ h _ _ like (Value.weight_string_lt mem m.1)
    | _ => simp only [run]; exact Confirms.pass.toConcurs
  | @dependencies as bs h =>
    cases data with
    | object members =>
      rw [run_dependencies, run_dependencies, like.allErrors]
      have listed : List.Forall₂
          (fun a b => a.1 = b.1 ∧ a ∈ as ∧ Dependency.Mirrors Q a.2 b.2) as bs :=
        forall₂_of_mem h fun a mem b r => ⟨r.1, mem, r.2⟩
      have kept := List.rel_filter (p := fun d => Members.contains members d.1)
        (q := fun d => Members.contains members d.1) (fun a b r => by simp only [r.1]) listed
      refine (Confirms.all (kept.imp fun a b r => ?_)).toConcurs
      obtain ⟨property, d⟩ := a
      obtain ⟨property', d'⟩ := b
      obtain ⟨name, mem, related⟩ := r
      simp only at name related
      subst name
      cases related with
      | names required => exact .ofObjections _
      | schema h => exact here _ (mem_parts_dependencies.2 ⟨_, mem⟩) _ h
    | _ => simp only [run]; exact Confirms.pass.toConcurs
  | eachItem h =>
    cases data with
    | array items =>
      rw [run_eachItem, run_eachItem, like.allErrors]
      refine (Confirms.all_self fun v mem => ?_).toConcurs
      exact below _ _ _ h _ _ (like.below _) (Value.weight_lt_of_mem_zipIdx mem)
    | _ => simp only [run]; exact Confirms.pass.toConcurs
  | tuple h =>
    cases data with
    | array items =>
      rw [run_tuple, run_tuple, like.allErrors]
      refine (Confirms.all (forall₂_of_mem (forall₂_zip_zipIdx h items 0) fun a mem b r => ?_)).toConcurs
      obtain ⟨related, item, index⟩ := r
      rw [← item, ← index]
      exact below _ _ _ related _ _ (like.below _) (Value.weight_lt_of_mem_zip_zipIdx mem)
    | _ => simp only [run]; exact Confirms.pass.toConcurs
  | additionalItems offset h =>
    cases data with
    | array items =>
      rw [run_additionalItems, run_additionalItems, forbids _ _ h, like.allErrors]
      split
      · exact (Confirms.fail _ _).toConcurs
      · refine (Confirms.all_self fun v mem => ?_).toConcurs
        exact below _ _ _ h _ _ (like.below _) (Value.weight_lt_of_mem_drop_zipIdx mem)
    | _ => simp only [run]; exact Confirms.pass.toConcurs
  | contains h =>
    cases data with
    | array items =>
      rw [run_contains, run_contains]
      refine .ofContains (Report.forall₂_runUntil (fun _ _ r => r.valid) id
        (List.forall₂_same.2 fun v mem => Confirms.toConcurs ?_) 1)
      exact below _ _ _ h _ _ (like.below _) (Value.weight_lt_of_mem_zipIdx mem)
    | _ => simp only [run]; exact Confirms.pass.toConcurs
  | allOf h =>
    rw [run_allOf, run_allOf, like.allErrors]
    exact (Confirms.all (forall₂_of_mem h fun a mem b r => here a mem b r)).toConcurs
  | anyOf h =>
    rw [run_anyOf, run_anyOf]
    exact .ofAnyOf (Report.forall₂_runUntil (fun _ _ r => r.valid) id
      (forall₂_of_mem h fun a mem b r => (here a mem b r).toConcurs) 1)
  | oneOf h =>
    rw [run_oneOf, run_oneOf]
    exact .ofOneOf (Report.forall₂_runUntil (fun _ _ r => r.valid) id
      (forall₂_of_mem h fun a mem b r => (here a mem b r).toConcurs) 2)
  | not h =>
    rw [run_not, run_not]
    exact (here _ List.mem_cons_self _ h).toConcurs.ofNot
  | conditional h hy hn =>
    have test := (here _ List.mem_cons_self _ h).toConcurs
    rw [run_conditional, run_conditional, test.valid]
    split
    · cases hy with
      | none => exact test.discard
      | some h => exact (here _ (by simp [parts]) _ h).toConcurs.ofBranch _ _ "then"
    · cases hn with
      | none => exact .of_quiet rfl ⟨rfl, rfl⟩ ⟨rfl, rfl⟩
      | some h => exact (here _ (by simp [parts]) _ h).toConcurs.ofBranch _ _ "else"
  | children h =>
    rw [run_children, run_children, like.allErrors]
    refine (Confirms.all_self fun v mem => ?_).toConcurs
    exact below _ _ _ h _ _ (like.below _) (Value.weight_lt_of_mem_children mem)
  | verdict h =>
    rw [run_verdict, run_verdict]
    exact (here _ List.mem_cons_self _ h).toConcurs.discard
  | predicate | probe =>
    rw [run, run]
    exact .of_quiet rfl ⟨rfl, rfl⟩ ⟨rfl, rfl⟩
  | deferred test =>
    rw [run, run]
    exact ⟨rfl, .rfl, .cons ⟨rfl, rfl⟩ .nil⟩
  | remark objection verdict =>
    rw [run, run]
    exact ⟨rfl, iff_of_false (List.cons_ne_nil _ _) (List.cons_ne_nil _ _), .nil⟩
  | beneath steps message =>
    rw [run, run]
    exact (Confirms.fail _ _).toConcurs
  | awaited test h => cases h

/-! ## Schemas -/

/-- The same schema, except that its reference may stand in a rule of its own, and that the schemas in
    its rules are related. -/
inductive Node.WrapsIn (Q : Node → Node → Prop) : Node → Node → Prop
  | always (verdict : Bool) : WrapsIn Q (.always verdict) (.always verdict)
  | ref (target : EntryId) (reference : String) :
      WrapsIn Q (.ref target reference) (.ref target reference)
  | proxy (path : String) (target : EntryId) (reference : String) :
      WrapsIn Q (.ref target reference)
        (.rules [{ keyword := "$ref", schemaPath := path, types := none
                   check := .apply (.ref target reference) }])
  | rules {as bs : List (Rule Check)} (h : List.Forall₂ (Rule.Mirrors Q false) as bs) :
      WrapsIn Q (.rules as) (.rules bs)

/-- The same schema, except that references anywhere in it may stand in rules of their own. -/
def Node.Wrapped (a b : Node) : Prop :=
  ∃ Q : Node → Node → Prop, (∀ a b, Q a b → a.WrapsIn Q b) ∧ Q a b

namespace Node.WrapsIn

variable {a b : Node}

theorem imp {Q' : Node → Node → Prop} (wider : ∀ a b, Q a b → Q' a b) (h : a.WrapsIn Q b) :
    a.WrapsIn Q' b := by
  cases h with
  | always verdict => exact .always verdict
  | ref target reference => exact .ref target reference
  | proxy path target reference => exact .proxy path target reference
  | rules h => exact .rules (h.imp fun _ _ m => m.imp wider)

theorem isForbidding_eq (h : a.WrapsIn Q b) : a.isForbidding = b.isForbidding := by
  cases h <;> rfl

theorem isTrivial_eq (h : a.WrapsIn Q b) : a.isTrivial = b.isTrivial := by
  cases h <;> rfl

end Node.WrapsIn

namespace Node.Wrapped

variable {a b : Node}

theorem wrapsIn (h : a.Wrapped b) : a.WrapsIn Wrapped b := by
  obtain ⟨Q, wraps, h⟩ := h
  exact (wraps a b h).imp fun a b h => ⟨Q, wraps, h⟩

theorem of_wrapsIn (h : a.WrapsIn Wrapped b) : a.Wrapped b :=
  ⟨WrapsIn Wrapped, fun _ _ h => h.imp fun _ _ => wrapsIn, h⟩

/-- A schema with every reference as it is. -/
theorem refl (node : Node) : node.Wrapped node := by
  refine ⟨Eq, ?_, rfl⟩
  rintro a _ rfl
  cases a with
  | always verdict => exact .always verdict
  | ref target reference => exact .ref target reference
  | rules rules =>
    exact .rules (List.forall₂_same.2 fun rule _ =>
      ⟨rfl, rfl, rfl, Check.mirrors_self fun _ _ => rfl⟩)

theorem isForbidding_eq (h : a.Wrapped b) : a.isForbidding = b.isForbidding :=
  h.wrapsIn.isForbidding_eq

theorem isTrivial_eq (h : a.Wrapped b) : a.isTrivial = b.isTrivial := h.wrapsIn.isTrivial_eq

variable (slots : ∀ id, Option.Rel Wrapped (t id) (t' id))

include slots

/-- A reference confirms what the same reference says in the other table, if what it leads to
    does. -/
theorem ref_confirms {target : EntryId} {reference : String} (like : scope.Like scope')
    (inside : scope.hops < maxHops → ∀ a b, Wrapped a b →
      (a.run t data scope.hop).Confirms (b.run t' data scope'.hop)) :
    ((Node.ref target reference).run t data scope).Confirms
      ((Node.ref target reference).run t' data scope') := by
  by_cases hop : scope.hops < maxHops
  · have hop' : scope'.hops < maxHops := like.hops ▸ hop
    rcases option_rel_cases (slots target) with ⟨slot, slot'⟩ | ⟨a, b, slot, slot', related⟩
    · rw [Node.run_ref_missing _ _ _ hop slot, Node.run_ref_missing _ _ _ hop' slot']
      exact .fail _ _
    · rw [Node.run_ref _ _ _ hop slot, Node.run_ref _ _ _ hop' slot']
      exact inside hop a b related
  · rw [Node.run_ref_deep _ _ _ hop, Node.run_ref_deep _ _ _ (like.hops ▸ hop)]
    exact .fail _ _

/-- Schemas that differ only in rules around references refuse the same data. -/
theorem run_confirms (h : a.Wrapped b) (data : Value) (like : scope.Like scope') :
    (a.run t data scope).Confirms (b.run t' data scope') := by
  induction a, data, scope using Node.run_induction generalizing b scope' with
  | always verdict data scope =>
    cases h.wrapsIn
    cases verdict with
    | true =>
      rw [Node.run_true, Node.run_true]
      exact .pass
    | false =>
      rw [Node.run_false, Node.run_false]
      exact .fail _ _
  | ref target reference data scope ih =>
    have bare (inner : Scope) (like : scope.Like inner) :
        ((Node.ref target reference).run t data scope).Confirms
          ((Node.ref target reference).run t' data inner) :=
      ref_confirms slots like fun hop a b h => ih hop a h ⟨like.allErrors, congrArg (· + 1) like.hops⟩
    cases h.wrapsIn with
    | ref => exact bare scope' like
    | proxy path =>
      rw [Node.run_rules, Report.all_single, if_pos (by rfl), Check.run_apply]
      exact (bare (scope'.within _) ⟨like.allErrors, like.hops⟩).explain_right
  | rules as data scope here below =>
    cases h.wrapsIn with
    | @rules _ bs list =>
      rw [Node.run_rules, Node.run_rules, like.allErrors]
      refine .all (forall₂_of_mem list fun a mem b m => ?_)
      have applies : a.appliesTo data = b.appliesTo data := by
        rw [Rule.appliesTo, Rule.appliesTo, m.types]
      rw [applies]
      split
      · refine (m.check.run_concurs (like.within a b) (fun a b h => h.isForbidding_eq) ?_ ?_).explain
        · exact fun part of b' h => here a mem part of (scope.within a) rfl h (like.within a b)
        · exact fun a b value h at_ at' like lt => below a value at_ lt h like
      · exact .pass

end Node.Wrapped

end Run

/-! ## Validators -/

/-- The same tests all pass, or some of them fail in both lists. -/
theorem DeferredTest.settle_like {tests tests' : List DeferredTest}
    (like : List.Forall₂ Like tests tests') (allErrors : Bool) :
    (settle allErrors tests).violations = [] ↔ (settle allErrors tests').violations = [] := by
  rw [settle_eq_nil_iff, settle_eq_nil_iff]
  induction like with
  | nil => exact .rfl
  | cons head tail ih =>
    rw [List.all_cons, List.all_cons, head.test, head.data, Bool.and_eq_true, Bool.and_eq_true, ih]

namespace Validator

variable {t t' : SlotTable} (slots : ∀ id, Option.Rel Node.Wrapped (t id) (t' id)) (v : Validator)
  (data : Value)

include slots

theorem run_confirms : (v.run t data).Confirms (v.run t' data) :=
  (Node.Wrapped.refl (.ref v.entry "#")).run_confirms slots data ⟨rfl, rfl⟩

/-- A validator accepts the same data under tables that differ only in rules around references. -/
theorem validate_wrapped :
    (v.validate t data).violations = [] ↔ (v.validate t' data).violations = [] := by
  rw [validate, validate]
  split
  · exact .rfl
  · exact (v.run_confirms slots data).silent

/-- The same after deferred tests are done. -/
theorem resolve_wrapped :
    (v.resolve t data).violations = [] ↔ (v.resolve t' data).violations = [] := by
  have reports := v.run_confirms slots data
  have settled := DeferredTest.settle_like reports.deferred v.allErrors
  have same : (v.run t data).violations.isEmpty = (v.run t' data).violations.isEmpty := by
    rw [Bool.eq_iff_iff, List.isEmpty_iff, List.isEmpty_iff, reports.silent]
  rw [resolve, resolve]
  simp only [same]
  split
  · rw [List.append_eq_nil_iff, List.append_eq_nil_iff, reports.silent, settled]
  · exact reports.silent

end Validator

end JsonSchema
