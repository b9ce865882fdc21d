import JsonSchema.Proofs.Validation.Equations
import JsonSchema.Proofs.Validation.Parts
import JsonSchema.Validation.Validator
import Mathlib.Data.List.Forall2

/-!
# Compiled schemas that mirror each other

Two compiled schemas that differ only in the entries their references name say the same about
all data, if what those entries hold differs only in that way, too.

* `Check.Mirrors`, `Node.Mirrors`: the parts of one compiled schema are related to those of
  another one, and all else is the same.
* `Mirroring`: a relation between compiled schemas that is kept when they are taken apart, and
  when references are followed.
* `Mirroring.run_eq`, `Mirroring.validate_eq`: related schemas give the same reports.
-/

namespace JsonSchema

/-! ## Schemas with related parts -/

section Mirrors

variable (Q : Node → Node → Prop)

/-- Dependencies with related schemas. -/
inductive Dependency.Mirrors : Dependency Node → Dependency Node → Prop
  | names (required : List String) : Mirrors (.names required) (.names required)
  | schema {a b : Node} (h : Q a b) : Mirrors (.schema a) (.schema b)

/-- Compiled keywords with related schemas. In the second one the outcome of a test may be known
    at once that is known later in the first one, if tests are `settled`. -/
inductive Check.Mirrors (settled : Bool) : Check → Check → Prop
  | assertion (a : Assertion) : Mirrors settled (.assertion a) (.assertion a)
  | apply {a b : Node} (h : Q a b) : Mirrors settled (.apply a) (.apply b)
  | properties {as bs : List (String × Node)}
      (h : List.Forall₂ (fun a b => a.1 = b.1 ∧ Q a.2 b.2) as bs) :
      Mirrors settled (.properties as) (.properties bs)
  | patternProperties {as bs : List (Pattern × Node)}
      (h : List.Forall₂ (fun a b => a.1 = b.1 ∧ Q a.2 b.2) as bs) :
      Mirrors settled (.patternProperties as) (.patternProperties bs)
  | additionalProperties (known : List String) (patterns : List Pattern) {a b : Node} (h : Q a b) :
      Mirrors settled (.additionalProperties known patterns a) (.additionalProperties known patterns b)
  | propertyNames {a b : Node} (h : Q a b) : Mirrors settled (.propertyNames a) (.propertyNames b)
  | dependencies {as bs : List (String × Dependency Node)}
      (h : List.Forall₂ (fun a b => a.1 = b.1 ∧ Dependency.Mirrors Q a.2 b.2) as bs) :
      Mirrors settled (.dependencies as) (.dependencies bs)
  | eachItem {a b : Node} (h : Q a b) : Mirrors settled (.eachItem a) (.eachItem b)
  | tuple {as bs : List Node} (h : List.Forall₂ Q as bs) : Mirrors settled (.tuple as) (.tuple bs)
  | additionalItems (offset : Nat) {a b : Node} (h : Q a b) :
      Mirrors settled (.additionalItems offset a) (.additionalItems offset b)
  | contains {a b : Node} (h : Q a b) : Mirrors settled (.contains a) (.contains b)
  | allOf {as bs : List Node} (h : List.Forall₂ Q as bs) : Mirrors settled (.allOf as) (.allOf bs)
  | anyOf {as bs : List Node} (h : List.Forall₂ Q as bs) : Mirrors settled (.anyOf as) (.anyOf bs)
  | oneOf {as bs : List Node} (h : List.Forall₂ Q as bs) : Mirrors settled (.oneOf as) (.oneOf bs)
  | not {a b : Node} (h : Q a b) : Mirrors settled (.not a) (.not b)
  | conditional {a b : Node} {yes yes' no no' : Option Node} (h : Q a b)
      (hy : Option.Rel Q yes yes') (hn : Option.Rel Q no no') :
      Mirrors settled (.conditional a yes no) (.conditional b yes' no')
  | children {a b : Node} (h : Q a b) : Mirrors settled (.children a) (.children b)
  | verdict {a b : Node} (h : Q a b) : Mirrors settled (.verdict a) (.verdict b)
  | predicate (test : Value → Bool) (traced : Bool) :
      Mirrors settled (.predicate test traced) (.predicate test traced)
  | deferred (test : Value → Bool) : Mirrors settled (.deferred test) (.deferred test)
  | awaited (test : Value → Bool) (h : settled = true) :
      Mirrors settled (.deferred test) (.predicate test false)
  | probe : Mirrors settled .probe .probe
  | remark (objection : Objection) (verdict : Bool) :
      Mirrors settled (.remark objection verdict) (.remark objection verdict)
  | beneath (steps : List String) (message : String) :
      Mirrors settled (.beneath steps message) (.beneath steps message)

/-- Rules at one place for one keyword, with related schemas. -/
structure Rule.Mirrors (settled : Bool) (a b : Rule Check) : Prop where
  keyword : a.keyword = b.keyword
  schemaPath : a.schemaPath = b.schemaPath
  types : a.types = b.types
  check : Check.Mirrors Q settled a.check b.check

end Mirrors

/-- Schemas with related rules, whose references lead to related entries. -/
inductive Node.Mirrors (R : Rule Check → Rule Check → Prop) (T : EntryId → EntryId → Prop) :
    Node → Node → Prop
  | always (verdict : Bool) : Mirrors R T (.always verdict) (.always verdict)
  | ref {target target' : EntryId} (h : T target target') (reference : String) :
      Mirrors R T (.ref target reference) (.ref target' reference)
  | rules {as bs : List (Rule Check)} (h : List.Forall₂ R as bs) : Mirrors R T (.rules as) (.rules bs)

namespace Node.Mirrors

variable {R : Rule Check → Rule Check → Prop} {T : EntryId → EntryId → Prop} {a b : Node}

theorem isForbidding_eq (h : a.Mirrors R T b) : a.isForbidding = b.isForbidding := by
  cases h <;> rfl

end Node.Mirrors

section Wider

variable {Q Q' : Node → Node → Prop} (wider : ∀ a b, Q a b → Q' a b)

include wider

theorem Dependency.Mirrors.imp {a b : Dependency Node} (h : Mirrors Q a b) : Mirrors Q' a b := by
  cases h with
  | names required => exact .names required
  | schema h => exact .schema (wider _ _ h)

/-- Schemas that are related are related in a wider relation. -/
theorem Check.Mirrors.imp {settled : Bool} {a b : Check} (h : a.Mirrors Q settled b) :
    a.Mirrors Q' settled b := by
  have list {as bs : List Node} (h : List.Forall₂ Q as bs) : List.Forall₂ Q' as bs := h.imp wider
  have option {a b : Option Node} (h : Option.Rel Q a b) : Option.Rel Q' a b := by
    cases h with
    | none => exact .none
    | some h => exact .some (wider _ _ h)
  cases h with
  | properties h => exact .properties (h.imp fun _ _ r => ⟨r.1, wider _ _ r.2⟩)
  | patternProperties h => exact .patternProperties (h.imp fun _ _ r => ⟨r.1, wider _ _ r.2⟩)
  | dependencies h => exact .dependencies (h.imp fun _ _ r => ⟨r.1, r.2.imp wider⟩)
  | tuple h => exact .tuple (list h)
  | allOf h => exact .allOf (list h)
  | anyOf h => exact .anyOf (list h)
  | oneOf h => exact .oneOf (list h)
  | conditional h yes no => exact .conditional (wider _ _ h) (option yes) (option no)
  | awaited test h => exact .awaited test h
  | _ => constructor <;> exact wider _ _ ‹_›

theorem Rule.Mirrors.imp {settled : Bool} {a b : Rule Check} (h : Mirrors Q settled a b) :
    Mirrors Q' settled a b :=
  ⟨h.keyword, h.schemaPath, h.types, h.check.imp wider⟩

end Wider

theorem Node.Mirrors.imp {R R' : Rule Check → Rule Check → Prop} {T : EntryId → EntryId → Prop}
    {a b : Node} (wider : ∀ a b, R a b → R' a b) (h : a.Mirrors R T b) : a.Mirrors R' T b := by
  cases h with
  | always verdict => exact .always verdict
  | ref h reference => exact .ref h reference
  | rules h => exact .rules (h.imp wider)

section Same

variable {Q : Node → Node → Prop}

theorem forall₂_same_of {α : Type} {R : α → α → Prop} {l : List α} (h : ∀ a ∈ l, R a a) :
    List.Forall₂ R l l := List.forall₂_same.2 h

theorem option_rel_self {node? : Option Node} (h : ∀ node ∈ node?.toList, Q node node) :
    Option.Rel Q node? node? := by
  cases node? with
  | none => exact .none
  | some node => exact .some (h node List.mem_cons_self)

/-- A compiled keyword mirrors itself if its schemas are related to themselves. -/
theorem Check.mirrors_self {settled : Bool} {check : Check} (h : ∀ part ∈ check.parts, Q part part) :
    check.Mirrors Q settled check := by
  cases check with
  | properties schemas =>
    exact .properties (forall₂_same_of fun s mem => ⟨rfl, h _ (List.mem_map_of_mem mem)⟩)
  | patternProperties schemas =>
    exact .patternProperties (forall₂_same_of fun s mem => ⟨rfl, h _ (List.mem_map_of_mem mem)⟩)
  | dependencies ds =>
    refine .dependencies (forall₂_same_of fun d mem => ⟨rfl, ?_⟩)
    obtain ⟨property, dependency⟩ := d
    cases dependency with
    | names required => exact .names required
    | schema schema => exact .schema (h schema (mem_parts_dependencies.2 ⟨property, mem⟩))
  | tuple schemas => exact .tuple (forall₂_same_of h)
  | allOf schemas => exact .allOf (forall₂_same_of h)
  | anyOf schemas => exact .anyOf (forall₂_same_of h)
  | oneOf schemas => exact .oneOf (forall₂_same_of h)
  | conditional condition yes no =>
    refine .conditional (h _ List.mem_cons_self) (option_rel_self fun node mem => ?_)
      (option_rel_self fun node mem => ?_)
    · exact h node (List.mem_cons_of_mem _ (List.mem_append_left _ mem))
    · exact h node (List.mem_cons_of_mem _ (List.mem_append_right _ mem))
  | _ => constructor <;> exact h _ List.mem_cons_self

end Same

/-! ## Reports -/

namespace Report

/-- Parts that give the same reports one by one give the same reports until enough of them stop
    the run. -/
theorem runUntil_congr {α β : Type} {stop : Report → Bool} {n : Nat} {as : List α} {bs : List β}
    {f : α → Report} {g : β → Report} (same : List.Forall₂ (fun a b => f a = g b) as bs) :
    runUntil stop n as f = runUntil stop n bs g := by
  induction same generalizing n with
  | nil => cases n <;> rfl
  | cons head tail ih =>
    cases n with
    | zero => rfl
    | succ n =>
      simp only [runUntil, head]
      rw [ih]

theorem all_congr {α β : Type} {allErrors : Bool} {as : List α} {bs : List β} {f : α → Report}
    {g : β → Report} (same : List.Forall₂ (fun a b => f a = g b) as bs) :
    all allErrors as f = all allErrors bs g := by
  unfold all
  have mapped : as.map f = bs.map g := by
    induction same with
    | nil => rfl
    | cons head tail ih => rw [List.map_cons, List.map_cons, head, ih]
  rw [mapped, runUntil_congr same]

/-- The same of parts of one list. -/
theorem all_congr_self {α : Type} {allErrors : Bool} {as : List α} {f g : α → Report}
    (same : ∀ a ∈ as, f a = g a) : all allErrors as f = all allErrors as g :=
  all_congr (List.forall₂_same.2 same)

end Report

/-- The related elements of two lists are elements of them. -/
theorem forall₂_of_mem {α β : Type} {R S : α → β → Prop} {as : List α} {bs : List β}
    (h : List.Forall₂ R as bs) (imp : ∀ a ∈ as, ∀ b, R a b → S a b) : List.Forall₂ S as bs := by
  induction h with
  | nil => exact .nil
  | cons head tail ih =>
    exact .cons (imp _ List.mem_cons_self _ head)
      (ih fun a mem => imp a (List.mem_cons_of_mem _ mem))

/-- Related elements stand beside the same third elements, with the same numbers. -/
theorem forall₂_zip_zipIdx {α β γ : Type} {R : α → β → Prop} {as : List α} {bs : List β}
    (h : List.Forall₂ R as bs) (cs : List γ) (n : Nat) :
    List.Forall₂ (fun a b => R a.1.1 b.1.1 ∧ a.1.2 = b.1.2 ∧ a.2 = b.2)
      ((as.zip cs).zipIdx n) ((bs.zip cs).zipIdx n) := by
  induction h generalizing cs n with
  | nil => exact .nil
  | cons head tail ih =>
    cases cs with
    | nil => exact .nil
    | cons c cs => exact .cons ⟨head, rfl, rfl⟩ (ih cs (n + 1))

section Run

variable {Q : Node → Node → Prop} {t t' : SlotTable} {data : Value} {scope : Scope}

/-- Compiled keywords with related schemas give the same reports if the schemas give the same
    reports at the places where they are applied. -/
theorem Check.Mirrors.run_eq {check check' : Check} (mirrors : check.Mirrors Q false check')
    (forbids : ∀ a b, Q a b → a.isForbidding = b.isForbidding)
    (here : ∀ a ∈ check.parts, ∀ b, Q a b → ∀ at_ : Scope, at_.hops = scope.hops →
      a.run t data at_ = b.run t' data at_)
    (below : ∀ a b value, Q a b → ∀ at_ : Scope, Value.weight value < data.weight →
      a.run t value at_ = b.run t' value at_) :
    check.run t data scope = check'.run t' data scope := by
  cases mirrors with
  | assertion a => rw [run_assertion, run_assertion]
  | apply h =>
    rw [run_apply, run_apply]
    exact here _ List.mem_cons_self _ h _ rfl
  | properties h =>
    cases data with
    | object members =>
      rw [run_properties, run_properties]
      refine Report.all_congr (h.imp fun a b r => ?_)
      obtain ⟨name, related⟩ := r
      rw [← name]
      split
      · next found => exact below _ _ _ related _ (Value.weight_lt_of_get? found)
      · rfl
    | _ => simp [run]
  | patternProperties h =>
    cases data with
    | object members =>
      rw [run_patternProperties, run_patternProperties]
      refine Report.all_congr (h.imp fun a b r => ?_)
      obtain ⟨pattern, related⟩ := r
      rw [← pattern]
      refine Report.all_congr_self fun m mem => ?_
      exact below _ _ _ related _ (Value.weight_lt_of_mem_members (List.mem_filter.1 mem).1)
    | _ => simp [run]
  | additionalProperties known patterns h =>
    cases data with
    | object members =>
      rw [run_additionalProperties, run_additionalProperties]
      refine Report.all_congr_self fun m mem => ?_
      rw [forbids _ _ h]
      split
      · rfl
      · exact below _ _ _ h _ (Value.weight_lt_of_mem_members (List.mem_filter.1 mem).1)
    | _ => simp [run]
  | propertyNames h =>
    cases data with
    | object members =>
      rw [run_propertyNames, run_propertyNames]
      refine Report.all_congr_self fun m mem => ?_
      rw [below _ _ _ h _ (Value.weight_string_lt mem m.1)]
    | _ => simp [run]
  | @dependencies as bs h =>
    cases data with
    | object members =>
      rw [run_dependencies, run_dependencies]
      have listed : List.Forall₂
          (fun a b => a.1 = b.1 ∧ a ∈ as ∧ Dependency.Mirrors Q a.2 b.2) as bs :=
        forall₂_of_mem h fun a mem b r => ⟨r.1, mem, r.2⟩
      have kept := List.rel_filter (p := fun d => Members.contains members d.1)
        (q := fun d => Members.contains members d.1) (fun a b r => by simp only [r.1]) listed
      refine Report.all_congr (kept.imp fun a b r => ?_)
      obtain ⟨property, d⟩ := a
      obtain ⟨property', d'⟩ := b
      obtain ⟨name, mem, related⟩ := r
      simp only at name related
      subst name
      cases related with
      | names required => rfl
      | schema h => exact here _ (mem_parts_dependencies.2 ⟨_, mem⟩) _ h _ rfl
    | _ => simp [run]
  | eachItem h =>
    cases data with
    | array items =>
      rw [run_eachItem, run_eachItem]
      refine Report.all_congr_self fun v mem => ?_
      exact below _ _ _ h _ (Value.weight_lt_of_mem_zipIdx mem)
    | _ => simp [run]
  | tuple h =>
    cases data with
    | array items =>
      rw [run_tuple, run_tuple]
      refine Report.all_congr (forall₂_of_mem (forall₂_zip_zipIdx h items 0) fun a mem b r => ?_)
      obtain ⟨related, item, index⟩ := r
      rw [← item, ← index]
      exact below _ _ _ related _ (Value.weight_lt_of_mem_zip_zipIdx mem)
    | _ => simp [run]
  | additionalItems offset h =>
    cases data with
    | array items =>
      rw [run_additionalItems, run_additionalItems, forbids _ _ h]
      split
      · rfl
      · refine Report.all_congr_self fun v mem => ?_
        exact below _ _ _ h _ (Value.weight_lt_of_mem_drop_zipIdx mem)
    | _ => simp [run]
  | contains h =>
    cases data with
    | array items =>
      rw [run_contains, run_contains]
      refine congrArg _ (Report.runUntil_congr (List.forall₂_same.2 fun v mem => ?_))
      exact below _ _ _ h _ (Value.weight_lt_of_mem_zipIdx mem)
    | _ => simp [run]
  | allOf h =>
    rw [run_allOf, run_allOf]
    exact Report.all_congr (forall₂_of_mem h fun a mem b r => here a mem b r _ rfl)
  | anyOf h =>
    rw [run_anyOf, run_anyOf]
    exact congrArg _ (Report.runUntil_congr (forall₂_of_mem h fun a mem b r => here a mem b r _ rfl))
  | oneOf h =>
    rw [run_oneOf, run_oneOf]
    exact congrArg _ (Report.runUntil_congr (forall₂_of_mem h fun a mem b r => here a mem b r _ rfl))
  | not h =>
    rw [run_not, run_not, here _ List.mem_cons_self _ h _ rfl]
  | conditional h hy hn =>
    rw [run_conditional, run_conditional, here _ List.mem_cons_self _ h _ rfl]
    split
    · cases hy with
      | none => rfl
      | some h =>
        simp only
        rw [here _ (by simp [parts]) _ h _ rfl]
    · cases hn with
      | none => rfl
      | some h =>
        simp only
        rw [here _ (by simp [parts]) _ h _ rfl]
  | children h =>
    rw [run_children, run_children]
    refine Report.all_congr_self fun v mem => ?_
    exact below _ _ _ h _ (Value.weight_lt_of_mem_children mem)
  | verdict h =>
    rw [run_verdict, run_verdict, here _ List.mem_cons_self _ h _ rfl]
  | predicate | deferred | probe | remark | beneath => simp [run]
  | awaited test h => cases h

end Run

/-! ## Tables -/

theorem option_rel_cases {α β : Type} {R : α → β → Prop} {a? : Option α} {b? : Option β}
    (h : Option.Rel R a? b?) :
    (a? = none ∧ b? = none) ∨ ∃ a b, a? = some a ∧ b? = some b ∧ R a b := by
  cases h with
  | none => exact .inl ⟨rfl, rfl⟩
  | some related => exact .inr ⟨_, _, rfl, rfl, related⟩

/-- A relation between the schemas of two tables, and one between their entries, that are kept
    when schemas are taken apart and when references are followed. -/
structure Mirroring (settled : Bool) (T : EntryId → EntryId → Prop) (Q : Node → Node → Prop)
    (t t' : SlotTable) : Prop where
  nodes : ∀ a b, Q a b → a.Mirrors (Rule.Mirrors Q settled) T b
  slots : ∀ id id', T id id' → Option.Rel Q (t id) (t' id')

namespace Mirroring

variable {T : EntryId → EntryId → Prop} {Q : Node → Node → Prop} {t t' : SlotTable}

/-- References to related entries give the same reports if this is so for what the entries
    hold. -/
theorem ref_eq (mirroring : Mirroring false T Q t t') {id id' : EntryId} (h : T id id')
    (reference : String) (data : Value) (scope : Scope)
    (inside : scope.hops < maxHops → ∀ a b, Q a b →
      a.run t data scope.hop = b.run t' data scope.hop) :
    (Node.ref id reference).run t data scope = (Node.ref id' reference).run t' data scope := by
  by_cases hop : scope.hops < maxHops
  · rcases option_rel_cases (mirroring.slots id id' h) with ⟨slot, slot'⟩ | ⟨a, b, slot, slot', related⟩
    · rw [Node.run_ref_missing _ _ _ hop slot, Node.run_ref_missing _ _ _ hop slot']
    · rw [Node.run_ref _ _ _ hop slot, Node.run_ref _ _ _ hop slot']
      exact inside hop a b related
  · rw [Node.run_ref_deep _ _ _ hop, Node.run_ref_deep _ _ _ hop]

/-- Related schemas give the same reports. -/
theorem run_eq (mirroring : Mirroring false T Q t t') {a b : Node} (h : Q a b) (data : Value)
    (scope : Scope) : a.run t data scope = b.run t' data scope := by
  induction a, data, scope using Node.run_induction generalizing b with
  | always verdict data scope =>
    cases mirroring.nodes _ _ h
    cases verdict with
    | true => rw [Node.run_true, Node.run_true]
    | false => rw [Node.run_false, Node.run_false]
  | ref target reference data scope ih =>
    cases mirroring.nodes _ _ h with
    | ref reached =>
      exact mirroring.ref_eq reached reference data scope fun hop schema schema' related =>
        ih hop schema related
  | rules as data scope here below =>
    cases mirroring.nodes _ _ h with
    | @rules _ bs list =>
      rw [Node.run_rules, Node.run_rules]
      refine Report.all_congr (forall₂_of_mem list fun a mem b m => ?_)
      have place : scope.within a = scope.within b := by
        rw [Scope.within, Scope.within, m.keyword, m.schemaPath]
      have applies : a.appliesTo data = b.appliesTo data := by
        rw [Rule.appliesTo, Rule.appliesTo, m.types]
      rw [place, applies]
      split
      · refine congrArg _ (m.check.run_eq (fun a b h => (mirroring.nodes a b h).isForbidding_eq)
          ?_ ?_)
        · exact fun part of b h at_ hops => here a mem part of at_ hops h
        · exact fun a b value h at_ lt => below a value at_ lt h
      · rfl

/-- Two tables that agree on entries which lead to nothing but each other. -/
theorem of_agree {D : EntryId → Prop} (agree : ∀ id, D id → t id = t' id)
    (inside : ∀ id node, D id → t id = some node →
      ∀ target reference, node.Contains (.ref target reference) → D target) {settled : Bool} :
    Mirroring settled (fun a b => a = b ∧ D a)
      (fun a b => a = b ∧ ∀ target reference, a.Contains (.ref target reference) → D target)
      t t' where
  nodes a b h := by
    obtain ⟨rfl, refs⟩ := h
    cases a with
    | always verdict => exact .always verdict
    | ref target reference => exact .ref ⟨rfl, refs target reference (.self _)⟩ reference
    | rules rules =>
      refine .rules (List.forall₂_same.2 fun rule mem => ⟨rfl, rfl, rfl, ?_⟩)
      exact Check.mirrors_self fun part of =>
        ⟨rfl, fun target reference occurs => refs target reference (.part mem of occurs)⟩
  slots id id' h := by
    obtain ⟨rfl, known⟩ := h
    rw [← agree id known]
    cases slot : t id with
    | none => exact .none
    | some node => exact .some ⟨rfl, inside id node known slot⟩

/-- Validators of related entries give the same verdicts. -/
theorem validate_eq (mirroring : Mirroring false T Q t t') {v v' : Validator}
    (entry : T v.entry v'.entry) (isAsync : v.isAsync = v'.isAsync)
    (allErrors : v.allErrors = v'.allErrors) (data : Value) :
    v.validate t data = v'.validate t' data ∧ v.resolve t data = v'.resolve t' data := by
  have run : v.run t data = v'.run t' data := by
    rw [Validator.run, Validator.run, allErrors]
    exact mirroring.ref_eq entry "#" data _ fun _ a b related => mirroring.run_eq related data _
  rw [Validator.validate, Validator.validate, Validator.resolve, Validator.resolve, isAsync,
    allErrors, run]
  exact ⟨rfl, rfl⟩

end Mirroring

end JsonSchema
