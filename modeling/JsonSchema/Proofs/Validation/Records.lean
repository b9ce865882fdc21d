import JsonSchema.Proofs.Compilation.Outcomes
import JsonSchema.Proofs.Validation.Loops

/-!
# Verdicts and what is said

A validation in place gives a verdict and says things, and the two are kept in step by hand: by
taking back what a schema says that was only tried, by saying something more, and by stopping early.

* `Course.Agrees`: something is said exactly if the verdict is a refusal, and the place is the same.
* `Course.Ends`: something ends at the place where it began; its rules, one for every step.
* `Check.inPlace_quiet`: a keyword says nothing if it accepts, given that the schemas agree.
* `Check.Discards`: what is left of schemas that are only tried.
* `Validator.inPlace_agrees`: verdicts agree with what is said, in every schema of plain keywords.
-/

namespace JsonSchema

/-- All keywords that occur in a compiled schema are plain. -/
def Node.IsPlain (node : Node) : Prop :=
  ∀ rules, node.Contains (.rules rules) → ∀ rule ∈ rules, rule.check.isPlain = true

theorem Node.IsPlain.part {rules : List (Rule Check)} (plain : (Node.rules rules).IsPlain)
    {rule : Rule Check} (mem : rule ∈ rules) {part : Node} (of : part ∈ rule.check.parts) :
    part.IsPlain := fun list inner => plain list (.part mem of inner)

theorem Node.isPlain_ref (target : EntryId) (reference : String) : (ref target reference).IsPlain :=
  fun _ inner => nomatch inner

theorem Node.isPlain_rules {list : List (Rule Check)} (own : ∀ rule ∈ list, rule.check.isPlain = true)
    (parts : ∀ rule ∈ list, ∀ part ∈ rule.check.parts, part.IsPlain) : (rules list).IsPlain := by
  intro other inner
  cases inner with
  | self => exact own
  | part mem of inner => exact parts _ mem _ of other inner

namespace Course

/-! ## Agreement -/

/-- A state, and a later one with a verdict: the place is the same, and something more was said
    exactly if the verdict is a refusal. -/
structure Agrees (c : Course) (verdict : Bool) (c' : Course) : Prop where
  place : c'.toScope = c.toScope
  accepts : verdict = true ↔ c'.violations = c.violations
  refuses : verdict = false ↔ ∃ first rest, c'.violations = c.violations ++ first :: rest

/-- A later state at the same place, where all still stands that was said or left for later. -/
structure Extends (c c' : Course) : Prop where
  place : c'.toScope = c.toScope
  said : c.violations <+: c'.violations
  waiting : c.deferred <+: c'.deferred

/-- A state, and a later one at the same place: nothing was said in between, or left for later. -/
structure Silent (c c' : Course) : Prop where
  place : c'.toScope = c.toScope
  said : c'.violations = c.violations
  waiting : c'.deferred = c.deferred

/-- Nothing was said if the verdict is an acceptance. -/
def Quiet (c : Course) (verdict : Bool) (c' : Course) : Prop :=
  verdict = true → c'.violations = c.violations

/-- Something was said exactly if the verdict is a refusal. -/
def Telling (c : Course) (verdict : Bool) (c' : Course) : Prop :=
  verdict = true ↔ c'.violations = c.violations

namespace Extends

variable {c c' c'' : Course} {verdict : Bool}

theorem refl (c : Course) : c.Extends c := ⟨rfl, List.prefix_rfl, List.prefix_rfl⟩

theorem trans (first : c.Extends c') (rest : c'.Extends c'') : c.Extends c'' :=
  ⟨rest.place.trans first.place, first.said.trans rest.said, first.waiting.trans rest.waiting⟩

/-- What was said is not taken back later. -/
theorem eq_of_eq (first : c.Extends c') (rest : c'.Extends c'')
    (same : c''.violations = c.violations) : c'.violations = c.violations :=
  (first.said.eq_of_length_le (same ▸ rest.said.length_le)).symm

theorem agrees (h : c.Extends c') (tells : c.Telling verdict c') : c.Agrees verdict c' where
  place := h.place
  accepts := tells
  refuses := by
    obtain ⟨more, said⟩ := h.said
    rw [← Bool.not_eq_true, show verdict = true ↔ _ from tells, ← said]
    cases more with
    | nil => simp
    | cons first rest => simp

end Extends

namespace Silent

variable {c c' c'' : Course}

theorem refl (c : Course) : c.Silent c := ⟨rfl, rfl, rfl⟩

theorem trans (first : c.Silent c') (rest : c'.Silent c'') : c.Silent c'' :=
  ⟨rest.place.trans first.place, rest.said.trans first.said, rest.waiting.trans first.waiting⟩

end Silent

/-- Something that is done in a state ends at the same place, and something is known of its outcome.
    It may also run out of fuel, if this is `short`. -/
def Ends {α : Type} (short : Prop) (c : Course) (m : InPlace α) (Q : α → Course → Prop) : Prop :=
  (short ∧ ∃ left, m c = .error .exhausted left) ∨
    ∃ a c', m c = .ok a c' ∧ c.Extends c' ∧ Q a c'

namespace Ends

open InPlace

variable {α β : Type} {short : Prop} {c : Course} {m : InPlace α} {body : InPlace Bool}
  {Q Q' : α → Course → Prop} {R : β → Course → Prop}

theorem imp (h : Ends short c m Q) (weaker : ∀ a c', c.Extends c' → Q a c' → Q' a c') :
    Ends short c m Q' := by
  refine h.imp_right ?_
  rintro ⟨a, c', run, extends_, outcome⟩
  exact ⟨a, c', run, extends_, weaker a c' extends_ outcome⟩

theorem of_ok (h : Ends short c m Q) {c' : Course} {a : α} (run : m c = .ok a c') :
    c.Extends c' ∧ Q a c' := by
  rcases h with ⟨-, left, other⟩ | ⟨_, _, other, ended⟩
  · cases run.symm.trans other
  · cases run.symm.trans other
    exact ended

/-! ## Steps -/

theorem exhausted : Ends True c (throw .exhausted : InPlace α) Q := .inl ⟨trivial, c, rfl⟩

theorem pure (a : α) (outcome : Q a c) : Ends short c (pure a) Q :=
  .inr ⟨a, c, rfl, .refl c, outcome⟩

theorem bind {f : α → InPlace β} (first : Ends short c m Q)
    (rest : ∀ a c', m c = .ok a c' → c.Extends c' → Q a c' →
      Ends short c' (f a) fun b c'' => c'.Extends c'' → R b c'') :
    Ends short c (m >>= f) R := by
  have run_bind : (m >>= f) c = EStateM.bind m f c := rfl
  rw [Ends, run_bind, EStateM.bind]
  rcases first with ⟨lacking, left, run⟩ | ⟨a, c', run, extends_, outcome⟩
  · exact .inl ⟨lacking, left, by rw [run]⟩
  rw [run]
  refine (rest a c' run extends_ outcome).imp_right ?_
  rintro ⟨b, c'', run', extends_', outcome'⟩
  exact ⟨b, c'', run', extends_.trans extends_', outcome' extends_'⟩

theorem get {f : Course → InPlace α} (rest : Ends short c (f c) Q) : Ends short c (get >>= f) Q :=
  rest

theorem say (violation : Scope → Violation) : Ends short c (say violation) fun _ c' =>
    c'.violations = c.violations ++ [violation c.toScope] ∧ c'.deferred = c.deferred :=
  .inr ⟨(), _, rfl, ⟨rfl, List.prefix_append _ _, List.prefix_rfl⟩, rfl, rfl⟩

theorem refuse (violation : Scope → Violation) : Ends short c (refuse violation) fun verdict c' =>
    verdict = false ∧ c'.violations = c.violations ++ [violation c.toScope] ∧
      c'.deferred = c.deferred :=
  (say violation).bind fun _ _ _ _ said => pure false fun _ => ⟨rfl, said⟩

theorem refuse_telling (violation : Scope → Violation) :
    Ends short c (InPlace.refuse violation) c.Telling := by
  refine (refuse violation).imp fun verdict c' _ ⟨refused, said, _⟩ => ?_
  rw [Telling, refused, said]
  simp

theorem sayAll (objections : List Objection) :
    Ends short c (forM objections fun objection => InPlace.say (·.violation objection))
      fun _ c' => objections = [] ↔ c'.violations = c.violations := by
  induction objections generalizing c with
  | nil => exact pure () ⟨fun _ => rfl, fun _ => rfl⟩
  | cons objection rest ih =>
    rw [List.forM_cons]
    refine (say (·.violation objection)).bind fun _ c' _ before said => ih.imp ?_
    refine fun _ c'' _ _ after => ⟨nofun, fun same => ?_⟩
    have none_ := before.eq_of_eq after same
    simp [said.1] at none_

theorem object (objections : List Objection) :
    Ends short c (object objections) c.Telling := by
  refine get ((sayAll _).bind fun _ c' _ _ said => pure _ fun _ => ?_)
  rw [Telling, ← said, List.isEmpty_iff]
  split
  · rfl
  · rw [List.take_eq_nil_iff]
    simp

theorem trace (event : Event) : Ends short c (trace event) fun _ => c.Silent :=
  .inr ⟨(), _, rfl, ⟨rfl, List.prefix_rfl, List.prefix_rfl⟩, rfl, rfl, rfl⟩

/-- Something is done at another place, and then what is needed to come back. -/
theorem around {p : InPlace β} {enter : Course} {leave : α → InPlace β} (h : Ends short enter m Q)
    (run : p c = EStateM.bind m leave enter)
    (comes : ∀ a c', enter.Extends c' → Q a c' →
      ∃ b c'', leave a c' = .ok b c'' ∧ c.Extends c'' ∧ R b c'') :
    Ends short c p R := by
  rw [Ends, run, EStateM.bind]
  rcases h with ⟨lacking, left, run⟩ | ⟨a, c', run, extends_, outcome⟩
  · exact .inl ⟨lacking, left, by rw [run]⟩
  · rw [run]
    exact .inr (comes a c' extends_ outcome)

theorem descend {step : String}
    (h : Ends short { c with path := step :: c.path, hops := 0 } m Q)
    (same : ∀ a c', Q a c' → Q' a { c' with path := c'.path.tail, hops := c.hops }) :
    Ends short c (descend step m) Q' := by
  refine h.around rfl fun a c' extends_ outcome =>
    ⟨a, _, rfl, ⟨?_, extends_.said, extends_.waiting⟩, same a c' outcome⟩
  simp [extends_.place]

theorem follow (h : Ends short { c with hops := c.hops + 1 } body c.Telling) :
    Ends short c (follow body) c.Telling := by
  refine h.around rfl fun a c' extends_ tells => ?_
  obtain ⟨⟨path, hops, current, allErrors⟩, violations, deferred, events, calls, moments⟩ := c'
  cases extends_.place
  exact ⟨a, _, rfl, ⟨rfl, extends_.said, extends_.waiting⟩, tells⟩

theorem within {rule : Rule Check}
    (h : Ends short { c with current := some (rule.keyword, rule.schemaPath) } body c.Telling) :
    Ends short c (within rule body) c.Telling := by
  refine h.around rfl fun a c' extends_ tells =>
    ⟨a, _, rfl, ⟨?_, extends_.said, extends_.waiting⟩, tells⟩
  simp [extends_.place]

theorem beneath {violation : Scope → Violation} (steps : List String) :
    Ends short c (steps.foldr InPlace.descend (InPlace.refuse violation)) c.Telling := by
  induction steps generalizing c with
  | nil => exact refuse_telling violation
  | cons step rest ih => exact ih.descend fun _ _ tells => tells

/-- What is taken back leaves nothing. -/
theorem attempt (back : α → Bool) (h : Ends short c m fun _ _ => True) :
    Ends short c (attempt back m) fun a c' => back a = true → c.Silent c' := by
  refine h.around rfl fun a c' extends_ _ => ?_
  have said : c.violations = c'.violations.take c.violations.length :=
    List.prefix_iff_eq_take.1 extends_.said
  have waiting : c.deferred = c'.deferred.take c.deferred.length :=
    List.prefix_iff_eq_take.1 extends_.waiting
  cases taken : back a with
  | true =>
    refine ⟨a, _, rfl, ⟨extends_.place, ?_, ?_⟩, fun _ => ⟨extends_.place, said.symm, waiting.symm⟩⟩
    · exact ⟨[], (List.append_nil _).trans said⟩
    · exact ⟨[], (List.append_nil _).trans waiting⟩
  | false => exact ⟨a, c', rfl, extends_, fun taken' => nomatch taken.symm.trans taken'⟩

theorem test (h : Ends short c body fun _ _ => True) :
    Ends short c (test body) fun _ => c.Silent :=
  (h.attempt _).imp fun _ _ _ silent => silent rfl

theorem orRefuse (violation : Scope → Violation) (h : Ends short c body c.Quiet) :
    Ends short c (orRefuse violation body) c.Telling := by
  refine h.bind fun accepted c' _ before quiet => ?_
  cases accepted with
  | true => exact pure true fun _ => ⟨fun _ => quiet rfl, fun _ => rfl⟩
  | false =>
    refine (refuse violation).imp fun verdict c'' _ ⟨refused, said, _⟩ after => ?_
    refine ⟨fun accepted => (nomatch refused.symm.trans accepted), fun same => ?_⟩
    have none_ := before.eq_of_eq after same
    rw [same, ← none_] at said
    simp at said

theorem explaining (violation : Scope → Violation) (h : Ends short c body c.Quiet) :
    Ends short c (explaining violation body) c.Telling := by
  refine h.around rfl fun verdict c' before quiet => ?_
  show ∃ b c'', (if !verdict && c'.violations.length == c.violations.length
    then _ else _ : InPlace Bool) c' = _ ∧ _
  cases verdict with
  | true => exact ⟨true, c', rfl, before, fun _ => quiet rfl, fun _ => rfl⟩
  | false =>
    by_cases silent : c'.violations.length = c.violations.length
    · rw [if_pos (by simpa using silent)]
      refine ⟨false, _, rfl, ⟨before.place, ?_, before.waiting⟩, nofun, fun same => ?_⟩
      · exact before.said.trans (List.prefix_append _ _)
      · have longer := congrArg List.length same
        simp [silent] at longer
    · rw [if_neg (by simpa using silent)]
      exact ⟨false, c', rfl, before, nofun, fun same => absurd (congrArg List.length same) silent⟩

theorem call {part : Part Node} {tried : Bool}
    (h : Ends short (InPlace.inside c part tried) body c.Telling) :
    Ends short c (call tried part body) c.Telling :=
  h.around rfl fun verdict _ before tells =>
    ⟨verdict, _, rfl, ⟨before.place, before.said, before.waiting⟩, tells⟩

/-! ## Loops -/

variable {parts : List α} {step : α → InPlace Bool}

/-- Parts that all have to hold. -/
theorem each (h : ∀ part ∈ parts, ∀ c' : Course, c'.hops = c.hops →
      Ends short c' (step part) c'.Telling) :
    Ends short c (each parts step) c.Telling := by
  induction parts generalizing c with
  | nil => exact pure true ⟨fun _ => rfl, fun _ => rfl⟩
  | cons part rest ih =>
    refine (h part List.mem_cons_self c rfl).bind fun verdict c' _ before tells => ?_
    have later : Ends short c' (InPlace.each rest step) c'.Telling :=
      ih fun other mem c'' same => h other (List.mem_cons_of_mem _ mem) c''
        (same.trans (congrArg Scope.hops before.place))
    cases verdict with
    | true =>
      refine later.imp fun _ c'' _ others _ => ?_
      rw [Telling, ← tells.1 rfl]
      exact others
    | false =>
      -- something was said already, and it stays
      have refused {c'' : Course} (after : c'.Extends c'') : c.Telling false c'' :=
        ⟨nofun, fun same => tells.2 (before.eq_of_eq after same)⟩
      refine get ?_
      split
      · exact later.bind fun _ _ _ all _ => pure false fun _ after => refused after
      · exact pure false refused

/-- Parts up to the first one that accepts, if nothing is said about any. -/
theorem seek_silent (h : ∀ part ∈ parts, ∀ c' : Course, c'.hops = c.hops →
      Ends short c' (step part) fun _ => c'.Silent) :
    Ends short c (seek parts step) fun _ => c.Silent := by
  induction parts generalizing c with
  | nil => exact pure false (.refl c)
  | cons part rest ih =>
    refine (h part List.mem_cons_self c rfl).bind fun verdict c' _ before silent => ?_
    cases verdict with
    | true => exact pure true fun _ => silent
    | false =>
      refine (ih fun other mem c'' same => h other (List.mem_cons_of_mem _ mem) c''
        (same.trans (congrArg Scope.hops before.place))).imp fun _ c'' _ others _ => ?_
      exact silent.trans others

theorem seek (h : ∀ part ∈ parts, ∀ c' : Course, c'.hops = c.hops →
      Ends short c' (step part) fun _ _ => True) :
    Ends short c (seek parts step) fun _ _ => True := by
  induction parts generalizing c with
  | nil => exact pure false trivial
  | cons part rest ih =>
    refine (h part List.mem_cons_self c rfl).bind fun verdict c' _ before _ => ?_
    cases verdict with
    | true => exact pure true fun _ => trivial
    | false =>
      exact (ih fun other mem c'' same => h other (List.mem_cons_of_mem _ mem) c''
        (same.trans (congrArg Scope.hops before.place))).imp fun _ _ _ _ _ => trivial

theorem gather {n i : Nat} (h : ∀ part ∈ parts, ∀ c' : Course, c'.hops = c.hops →
      Ends short c' (step part) fun _ _ => True) :
    Ends short c (gather n i parts step) fun _ _ => True := by
  induction parts generalizing c n i with
  | nil => cases n <;> exact pure [] trivial
  | cons part rest ih =>
    cases n with
    | zero => exact pure [] trivial
    | succ n =>
      refine (h part List.mem_cons_self c rfl).bind fun verdict c' _ before _ => ?_
      have later {n i : Nat} : Ends short c' (InPlace.gather n i rest step) fun _ _ => True :=
        ih fun other mem c'' same => h other (List.mem_cons_of_mem _ mem) c''
          (same.trans (congrArg Scope.hops before.place))
      cases verdict with
      | true => exact later.bind fun _ _ _ _ _ => pure _ fun _ _ => trivial
      | false => exact later.imp fun _ _ _ _ _ => trivial

end Ends

end Course

/-! ## Keywords -/

section Keywords

open Course (Ends)
open Course.InPlace

variable {short : Prop} {table : SlotTable} {c : Course} {data : Value}
  {apply : Bool → Part Node → Course.InPlace Bool}

/-- What a keyword is left with that tries schemas, at the end of a run: nothing of those that it
    only tried. What it says of its own, it says if it refuses. -/
def Check.Discards (apply : Bool → Part Node → Course.InPlace Bool) (check : Check) (data : Value)
    (c : Course) (verdict : Bool) (c' : Course) : Prop :=
  let own (text : String) (params : List (String × Value)) : Violations :=
    if verdict then [] else [because text params c.toScope]
  match check, data with
  | .contains _, .array _ =>
    c'.violations = c.violations ++ own "should contain a valid item" [] ∧ c'.deferred = c.deferred
  | .anyOf _, _ => verdict = true → c.Silent c'
  | .oneOf schemas, data =>
    ∃ indices between, attempt (!·.isEmpty)
        (gather 2 0 schemas fun schema => apply true (.here schema data)) c = .ok indices between ∧
      (verdict = true ↔ indices.length = 1) ∧
      (indices ≠ [] → c'.violations = c.violations ++ own "should match exactly one schema in oneOf"
          [("passingSchemas", .array (indices.map .ofNat))] ∧ c'.deferred = c.deferred)
  | .not _, _ =>
    c'.violations = c.violations ++ own "should NOT be valid" [] ∧ c'.deferred = c.deferred
  | .conditional condition yes no, data =>
    ∃ holds between, test (apply true (.here condition data)) c = .ok holds between ∧
      c.Silent between ∧
      let name := if holds then "then" else "else"
      match if holds then yes else no with
      | some schema => ∃ c₁, apply false (.here schema data) between = .ok verdict c₁ ∧
          c'.violations = c₁.violations ++ own ("should match \"" ++ name ++ "\" schema")
            [("failingKeyword", .string name)]
      | none => verdict = true ∧ c.Silent c'
  | _, _ => True

namespace Course.Ends

variable {α : Type} {m : Course.InPlace α} {body : Course.InPlace Bool}

/-- A refusal after nothing was said. -/
theorem refuse_after (violation : Scope → Violation) {c₁ : Course} (silent : c.Silent c₁)
    {Q : Bool → Course → Prop} (said : ∀ c', c'.violations = c.violations ++ [violation c.toScope] →
      c'.deferred = c.deferred → Q false c') :
    Ends short c₁ (InPlace.refuse violation) fun verdict c' => c₁.Extends c' → Q verdict c' := by
  refine (refuse violation).imp fun verdict c' _ ⟨refused, said_, waiting⟩ _ => ?_
  rw [silent.said, silent.place] at said_
  exact refused ▸ said c' said_ (waiting.trans silent.waiting)

/-- Something of which nothing is left but the verdict, and what is said if this is a refusal. -/
theorem orRefuse_own (violation : Scope → Violation) (h : Ends short c body fun _ => c.Silent) :
    Ends short c (InPlace.orRefuse violation body) fun verdict c' =>
      c'.violations = c.violations ++ (if verdict then [] else [violation c.toScope]) ∧
        c'.deferred = c.deferred := by
  refine h.bind fun accepted c₁ _ _ silent => ?_
  cases accepted with
  | true => exact pure true fun _ => ⟨silent.said.trans (List.append_nil _).symm, silent.waiting⟩
  | false => exact refuse_after violation silent fun c' said waiting => ⟨said, waiting⟩

/-- What is said in the end if a branch refuses. -/
theorem orRefuse_after (violation : Scope → Violation) (h : Ends short c body c.Telling) :
    Ends short c (InPlace.orRefuse violation body) fun verdict c' => c.Telling verdict c' ∧
      ∃ c₁, body c = .ok verdict c₁ ∧
        c'.violations = c₁.violations ++ (if verdict then [] else [violation c.toScope]) := by
  refine h.bind fun accepted c₁ run before tells => ?_
  cases accepted with
  | true => exact pure true fun _ => ⟨tells, c₁, run, (List.append_nil _).symm⟩
  | false =>
    refine (refuse violation).imp fun verdict c' _ ⟨refused, said, _⟩ after => ?_
    subst refused
    rw [before.place] at said
    exact ⟨⟨nofun, fun same => tells.2 (before.eq_of_eq after same)⟩, c₁, run, said⟩

end Course.Ends

/-! ### Keywords that try schemas -/

namespace Check

theorem contains_quiet {schema : Node} {items : List Value}
    (below : ∀ v ∈ (Value.array items).children, ∀ c' : Course, c'.hops = 0 →
      Ends short c' (apply true (.below schema v.2)) fun _ _ => True) :
    Ends short c ((contains schema).inPlace apply (.array items)) fun verdict c' =>
      c.Quiet verdict c' ∧ (contains schema).Discards apply (.array items) c verdict c' := by
  have tried : Ends short c (seek items.zipIdx fun v =>
      descend (toString v.2) (test (apply true (.below schema v.1)))) fun _ => c.Silent := by
    refine .seek_silent fun v mem c' _ => ?_
    have item := below (toString v.2, v.1) (List.mem_map_of_mem mem)
      { c' with path := toString v.2 :: c'.path, hops := 0 } rfl
    refine (Ends.test item).descend fun _ c'' silent => ?_
    exact ⟨by simp [silent.place], silent.said, silent.waiting⟩
  refine (tried.orRefuse_own _).imp fun verdict c' _ said => ⟨fun accepted => ?_, said⟩
  rw [said.1, accepted]
  exact List.append_nil _

theorem anyOf_quiet {schemas : List Node}
    (trial : ∀ schema ∈ schemas, ∀ c' : Course, c'.hops = c.hops →
      Ends short c' (apply true (.here schema data)) fun _ _ => True) :
    Ends short c ((anyOf schemas).inPlace apply data) fun verdict c' =>
      c.Quiet verdict c' ∧ (anyOf schemas).Discards apply data c verdict c' := by
  refine ((Ends.seek trial).attempt id).bind fun accepted c₁ _ before silent => ?_
  cases accepted with
  | true => exact .pure true fun _ => ⟨fun _ => (silent rfl).said, fun _ => silent rfl⟩
  | false =>
    refine (Ends.refuse _).imp fun verdict c' _ refusal _ => ?_
    exact ⟨fun accepted => absurd (refusal.1.symm.trans accepted) Bool.false_ne_true,
      fun accepted => absurd (refusal.1.symm.trans accepted) Bool.false_ne_true⟩

theorem oneOf_quiet {schemas : List Node}
    (trial : ∀ schema ∈ schemas, ∀ c' : Course, c'.hops = c.hops →
      Ends short c' (apply true (.here schema data)) fun _ _ => True) :
    Ends short c ((oneOf schemas).inPlace apply data) fun verdict c' =>
      c.Quiet verdict c' ∧ (oneOf schemas).Discards apply data c verdict c' := by
  refine ((Ends.gather (n := 2) (i := 0) trial).attempt (!·.isEmpty)).bind
    fun indices c₁ run before silent => ?_
  rcases indices with _ | ⟨i, _ | ⟨j, rest⟩⟩
  · refine (Ends.refuse _).imp fun verdict c' _ refusal _ => ?_
    obtain ⟨rfl, -⟩ := refusal
    exact ⟨fun accepted => absurd accepted Bool.false_ne_true, [], c₁, run, by simp,
      fun some_ => absurd rfl some_⟩
  · have silent := silent rfl
    refine .pure true fun _ => ⟨fun _ => silent.said, [i], c₁, run, by simp, fun _ => ?_⟩
    exact ⟨silent.said.trans (List.append_nil _).symm, silent.waiting⟩
  · refine .refuse_after _ (silent rfl) fun c' said waiting => ?_
    exact ⟨fun accepted => absurd accepted Bool.false_ne_true, i :: j :: rest, c₁, run, by simp,
      fun _ => ⟨said, waiting⟩⟩

theorem not_quiet {schema : Node}
    (trial : Ends short c (apply true (.here schema data)) fun _ _ => True) :
    Ends short c ((Check.not schema).inPlace apply data) fun verdict c' =>
      c.Quiet verdict c' ∧ (Check.not schema).Discards apply data c verdict c' := by
  refine (Ends.test trial).bind fun accepted c₁ _ _ silent => ?_
  cases accepted with
  | true =>
    refine .refuse_after _ silent fun c' said waiting => ?_
    exact ⟨fun accepted => absurd accepted Bool.false_ne_true, said, waiting⟩
  | false =>
    exact .pure true fun _ =>
      ⟨fun _ => silent.said, silent.said.trans (List.append_nil _).symm, silent.waiting⟩

theorem conditional_quiet {condition : Node} {yes no : Option Node}
    (trial : Ends short c (apply true (.here condition data)) fun _ _ => True)
    (branch : ∀ schema ∈ yes.toList ++ no.toList, ∀ c' : Course, c'.hops = c.hops →
      Ends short c' (apply false (.here schema data)) c'.Telling) :
    Ends short c ((conditional condition yes no).inPlace apply data) fun verdict c' =>
      c.Quiet verdict c' ∧ (conditional condition yes no).Discards apply data c verdict c' := by
  refine (Ends.test trial).bind fun holds c₁ run _ silent => ?_
  have among : ∀ schema, (if holds then yes else no) = some schema →
      schema ∈ yes.toList ++ no.toList := by
    cases holds with
    | true => exact fun schema same => List.mem_append_left _ (by simpa using same)
    | false => exact fun schema same => List.mem_append_right _ (by simpa using same)
  simp only
  cases taken : (if holds then yes else no) with
  | none =>
    refine .pure true fun _ => ⟨fun _ => silent.said, holds, c₁, run, silent, ?_⟩
    simp only [taken]
    exact ⟨trivial, silent⟩
  | some schema =>
    have chosen := branch schema (among schema taken) c₁ (congrArg Scope.hops silent.place)
    refine (chosen.orRefuse_after _).imp
      fun verdict c' _ answer _ => ⟨fun accepted => ?_, holds, c₁, run, silent, ?_⟩
    · exact (answer.1.1 accepted).trans silent.said
    · obtain ⟨-, c₂, run', said⟩ := answer
      simp only [taken]
      exact ⟨c₂, run', silent.place ▸ said⟩

end Check

/-! ### All keywords -/

/-- A keyword says nothing if it accepts, and nothing is left of schemas that are only tried, given
    that the schemas it applies say something exactly if they refuse. -/
theorem Check.inPlace_quiet {check : Check} (plain : check.isPlain = true)
    (here : ∀ schema ∈ check.parts, ∀ value ∈ data :: data.names, ∀ tried, ∀ c' : Course,
      c'.hops = c.hops → Ends short c' (apply tried (.here schema value)) c'.Telling)
    (below : ∀ schema ∈ check.parts, ∀ v ∈ data.children, ∀ tried, ∀ c' : Course,
      c'.hops = 0 → Ends short c' (apply tried (.below schema v.2)) c'.Telling) :
    Ends short c (check.inPlace apply data) fun verdict c' =>
      c.Quiet verdict c' ∧ check.Discards apply data c verdict c' := by
  have quiet {m : Course.InPlace Bool} (h : Ends short c m c.Telling) :
      Ends short c m fun verdict c' => c.Quiet verdict c' ∧ True :=
    h.imp fun _ _ _ tells => ⟨tells.1, trivial⟩
  have accept : Ends short c (pure true) fun verdict c' => c.Quiet verdict c' ∧ True :=
    .pure true ⟨fun _ => rfl, trivial⟩
  have silent {α : Type} {m : Course.InPlace α} (verdict : α → Bool)
      (h : Ends short c m fun _ => c.Silent) :
      Ends short c (verdict <$> m) fun verdict c' => c.Quiet verdict c' ∧ True :=
    h.bind fun a c' _ _ silent => .pure (verdict a) fun _ => ⟨fun _ => silent.said, trivial⟩
  have here_ (schema) (mem : schema ∈ check.parts) (c' : Course) (same : c'.hops = c.hops) (tried) :
      Ends short c' (apply tried (.here schema data)) c'.Telling :=
    here schema mem data List.mem_cons_self tried c' same
  have trial (schema) (mem : schema ∈ check.parts) (c' : Course) (same : c'.hops = c.hops) :
      Ends short c' (apply true (.here schema data)) fun _ _ => True :=
    (here_ schema mem c' same true).imp fun _ _ _ _ => trivial
  have child (schema) (mem : schema ∈ check.parts) (v) (of : v ∈ data.children) (c' : Course) :
      Ends short c' (descend v.1 (apply false (.below schema v.2))) c'.Telling :=
    (below schema mem v of false _ rfl).descend fun _ _ tells => tells
  cases check with
  | assertion a => exact quiet (.object _)
  | apply schema => exact quiet (here_ schema List.mem_cons_self c rfl false)
  | properties schemas =>
    cases data with
    | object members =>
      refine quiet (.each fun s mem c' _ => ?_)
      cases found : Members.get? members s.1 with
      | some value =>
        exact child s.2 (List.mem_map_of_mem mem) (s.1, value) (Members.mem_of_get? found) c'
      | none => exact .pure true ⟨fun _ => rfl, fun _ => rfl⟩
    | _ => exact accept
  | patternProperties schemas =>
    cases data with
    | object members =>
      refine quiet (.each fun s mem c' _ => .each fun m of c'' _ => ?_)
      exact child s.2 (List.mem_map_of_mem mem) m (List.mem_filter.1 of).1 c''
    | _ => exact accept
  | additionalProperties known patterns schema =>
    cases data with
    | object members =>
      refine quiet (.each fun m of c' _ => ?_)
      split
      · exact (Ends.refuse_telling _).descend fun _ _ tells => tells
      · exact child schema List.mem_cons_self m (List.mem_filter.1 of).1 c'
    | _ => exact accept
  | propertyNames schema =>
    cases data with
    | object members =>
      refine quiet (.each fun m of c' same => .orRefuse _ ?_)
      refine (here schema List.mem_cons_self (.string m.1) ?_ false c' same).imp fun _ _ _ tells =>
        tells.1
      exact List.mem_cons_of_mem _ (List.mem_map_of_mem of)
    | _ => exact accept
  | dependencies ds =>
    cases data with
    | object members =>
      refine quiet (.each fun d mem c' same => ?_)
      obtain ⟨property, dependency⟩ := d
      cases dependency with
      | names names => exact .object _
      | schema schema =>
        exact here_ schema (mem_parts_dependencies.2 ⟨_, (List.mem_filter.1 mem).1⟩) c' same false
    | _ => exact accept
  | eachItem schema =>
    cases data with
    | array items =>
      refine quiet (.each fun v mem c' _ => ?_)
      exact child schema List.mem_cons_self (toString v.2, v.1) (List.mem_map_of_mem mem) c'
    | _ => exact accept
  | tuple schemas =>
    cases data with
    | array items =>
      refine quiet (.each fun v mem c' _ => ?_)
      have both := List.getElem?_zip_eq_some.1 (List.mem_zipIdx_iff_getElem?.1 mem)
      refine child v.1.1 (List.mem_of_getElem? both.1) (toString v.2, v.1.2) ?_ c'
      exact List.mem_map.2 ⟨(v.1.2, v.2), List.mem_zipIdx_iff_getElem?.2 both.2, rfl⟩
    | _ => exact accept
  | additionalItems offset schema =>
    cases data with
    | array items =>
      simp only [inPlace]
      split
      · exact quiet (.refuse_telling _)
      · refine quiet (.each fun v mem c' _ => ?_)
        exact child schema List.mem_cons_self (toString v.2, v.1)
          (List.mem_map_of_mem (List.mem_of_mem_drop mem)) c'
    | _ => exact accept
  | contains schema =>
    cases data with
    | array items =>
      refine contains_quiet fun v of c' fresh => ?_
      exact (below schema List.mem_cons_self v of true c' fresh).imp fun _ _ _ _ => trivial
    | _ => exact accept
  | allOf schemas => exact quiet (.each fun schema mem c' same => here_ schema mem c' same false)
  | anyOf schemas => exact anyOf_quiet trial
  | oneOf schemas => exact oneOf_quiet trial
  | not schema => exact not_quiet (trial schema List.mem_cons_self c rfl)
  | conditional condition yes no =>
    refine conditional_quiet (trial condition List.mem_cons_self c rfl) fun schema mem c' same => ?_
    exact here_ schema (List.mem_cons_of_mem _ mem) c' same false
  | children schema =>
    exact quiet (.each fun v mem c' _ => child schema List.mem_cons_self v mem c')
  | verdict schema =>
    exact (Ends.test (trial schema List.mem_cons_self c rfl)).imp fun _ _ _ silent =>
      ⟨fun _ => silent.said, trivial⟩
  | predicate test traced =>
    cases traced with
    | true => exact .get (silent (fun _ => test data) (.trace _))
    | false => exact .pure (test data) ⟨fun _ => rfl, trivial⟩
  | deferred test => cases plain
  | probe => exact .get (silent (fun _ => true) (.trace _))
  | remark objection verdict => cases plain
  | beneath steps message => exact quiet (.beneath steps)

end Keywords

/-! ## Schemas -/

/-- With some fuel, a validation in place gives a verdict that agrees with what is said, wherever the
    counter of references is at `hops`. -/
def Node.Answers (short : Prop) (table : SlotTable) (fuel hops : Nat) (node : Node) (data : Value) :
    Prop :=
  node.IsPlain → ∀ (tried : Bool) (way : Way) (c : Course), c.hops = hops →
    c.Ends short (Node.inPlace table fuel tried ⟨way, node, data⟩) c.Telling

namespace Node

open Course (Ends)
open Course.InPlace

variable {short : Prop} {table : SlotTable} {fuel hops : Nat}

theorem always_answers (verdict : Bool) (data : Value) :
    Answers short table (fuel + 1) hops (.always verdict) data := by
  rintro - tried way c rfl
  refine .call ?_
  cases verdict with
  | true => exact .pure true ⟨fun _ => rfl, fun _ => rfl⟩
  | false => exact .refuse_telling _

theorem ref_answers (plain : ∀ id node, table id = some node → node.IsPlain) (target : EntryId)
    (reference : String) (data : Value)
    (inner : hops < maxHops → ∀ schema, table target = some schema →
      Answers short table fuel (hops + 1) schema data) :
    Answers short table (fuel + 1) hops (.ref target reference) data := by
  rintro - tried way c rfl
  refine .call (.get ?_)
  split
  · exact .refuse_telling _
  · next allowed =>
    cases found : table target with
    | none => exact .refuse_telling _
    | some schema =>
      exact .follow (inner (Nat.not_le.1 allowed) schema found (plain target schema found) false
        .follow _ rfl)

/-- A keyword that is met in a run answers, given that its parts do. -/
theorem check_answers {rules : List (Rule Check)} {data : Value} (plain : IsPlain (.rules rules))
    {rule : Rule Check} (mem : rule ∈ rules) {c : Course}
    (inner : ∀ schema ∈ rule.check.parts,
      (∀ value ∈ data :: data.names, Answers short table fuel c.hops schema value) ∧
        ∀ v ∈ data.children, Answers short table fuel 0 schema v.2) :
    Ends short c (rule.check.inPlace (Node.inPlace table fuel) data) fun verdict c' =>
      c.Quiet verdict c' ∧ rule.check.Discards (Node.inPlace table fuel) data c verdict c' := by
  refine Check.inPlace_quiet (plain rules (.self _) rule mem)
    (fun schema of value near tried c' same => ?_) fun schema of v child tried c' same => ?_
  · exact (inner schema of).1 value near (plain.part mem of) tried .here c' same
  · exact (inner schema of).2 v child (plain.part mem of) tried .below c' same

theorem rules_answers (rules : List (Rule Check)) (data : Value)
    (inner : ∀ rule ∈ rules, ∀ schema ∈ rule.check.parts,
      (∀ value ∈ data :: data.names, Answers short table fuel hops schema value) ∧
        ∀ v ∈ data.children, Answers short table fuel 0 schema v.2) :
    Answers short table (fuel + 1) hops (.rules rules) data := by
  rintro plain tried way c rfl
  refine .call (.each fun rule mem c' same => ?_)
  split
  · refine .within (.explaining _ ?_)
    exact (check_answers plain mem (same ▸ inner rule mem)).imp fun _ _ _ outcome => outcome.1
  · exact .pure true ⟨fun _ => rfl, fun _ => rfl⟩

/-- With any fuel, a verdict agrees with what is said. -/
theorem answers_or (plain : ∀ id node, table id = some node → node.IsPlain) (fuel hops : Nat)
    (node : Node) (data : Value) : Answers True table fuel hops node data := by
  induction fuel generalizing hops node data with
  | zero => exact fun _ _ _ _ _ => .exhausted
  | succ fuel ih =>
    cases node with
    | always verdict => exact always_answers verdict data
    | ref target reference => exact ref_answers plain target reference data fun _ _ _ => ih _ _ _
    | rules rules =>
      exact rules_answers rules data fun _ _ _ _ => ⟨fun _ _ => ih _ _ _, fun _ _ => ih _ _ _⟩

/-- With enough fuel there is a verdict. -/
theorem answers (plain : ∀ id node, table id = some node → node.IsPlain) (node : Node)
    (data : Value) (hops : Nat) :
    ∃ enough, ∀ fuel ≥ enough, Answers False table fuel hops node data :=
  exists_fuel (fun _ _ => always_answers) (fun _ _ => ref_answers plain)
    (fun _ _ => rules_answers) node data hops

end Node

/-! ## Validators -/

namespace Validator

/-- In schemas of plain keywords, verdicts agree with what is said: from any state, with enough fuel
    there is a verdict, and with any fuel that gives one the place is the same at the end and
    something more was said exactly if the verdict is a refusal. A keyword is left with nothing of the
    schemas that it only tried. So a validator, which goes by what was said, says nothing exactly if
    the verdict is an acceptance. -/
theorem inPlace_agrees {table : SlotTable} (plain : ∀ id node, table id = some node → node.IsPlain) :
    (∀ node data (c : Course), node.IsPlain →
      (∃ enough, ∀ fuel ≥ enough, ∀ tried way, ∃ verdict c',
        Node.inPlace table fuel tried ⟨way, node, data⟩ c = .ok verdict c') ∧
      ∀ fuel tried way verdict c',
        Node.inPlace table fuel tried ⟨way, node, data⟩ c = .ok verdict c' → c.Agrees verdict c') ∧
    (∀ rules, (Node.rules rules).IsPlain → ∀ rule ∈ rules, ∀ fuel data c verdict c',
      rule.check.inPlace (Node.inPlace table fuel) data c = .ok verdict c' →
        rule.check.Discards (Node.inPlace table fuel) data c verdict c') ∧
    ∀ validator : Validator, validator.isAsync = false → ∀ data,
      ∃ enough, ∀ fuel ≥ enough, ∃ verdict c', validator.inPlace table fuel data = .ok verdict c' ∧
        ((validator.validate table data).violations = [] ↔ verdict = true) := by
  refine ⟨fun node data c of => ⟨?_, fun fuel tried way verdict c' run => ?_⟩,
    fun rules of rule mem fuel data c verdict c' run => ?_, fun validator sync data => ?_⟩
  · obtain ⟨enough, answers⟩ := Node.answers plain node data c.hops
    refine ⟨enough, fun fuel le tried way => ?_⟩
    obtain ⟨⟨⟩, -⟩ | ⟨verdict, c', run, -, -⟩ := answers fuel le of tried way c rfl
    exact ⟨verdict, c', run⟩
  · have ended := (Node.answers_or plain fuel c.hops node data of tried way c rfl).of_ok run
    exact ended.1.agrees ended.2
  · have inner := fun schema (_ : schema ∈ rule.check.parts) =>
      And.intro (fun value (_ : value ∈ data :: data.names) =>
        Node.answers_or plain fuel c.hops schema value)
        fun v (_ : v ∈ data.children) => Node.answers_or plain fuel 0 schema v.2
    exact ((Node.check_answers of mem inner).of_ok run).2.2
  · have root := Node.isPlain_ref validator.entry "#"
    obtain ⟨enough, answers⟩ := Node.answers plain (.ref validator.entry "#") data 0
    refine ⟨enough, fun fuel le => ?_⟩
    obtain ⟨⟨⟩, -⟩ | ⟨verdict, c', run, -, tells⟩ :=
      answers fuel le root false .here { allErrors := validator.allErrors } rfl
    refine ⟨verdict, c', run, ?_⟩
    rw [validate, if_neg (Bool.eq_false_iff.1 sync)]
    show (validator.run table data).violations = [] ↔ verdict = true
    rw [← (inPlace_ended run).2.1]
    exact tells.symm

/-- A schema that asks that one of two schemas does not hold, where the first one holds. -/
def doubting : Node :=
  .rules [⟨"anyOf", "#/anyOf", none, .anyOf
    [.rules [⟨"not", "#/anyOf/0/not", none, .not (.ref ⟨0⟩ "#/a")⟩], .ref ⟨1⟩ "#/b"]⟩]

/-- The compiled schema that the references of `doubting` lead to. -/
def doubtingTable : SlotTable := fun id => if id = ⟨0⟩ then some (.always true) else none

/-- The first branch is refused, and so is the second one, which leads to nothing. -/
theorem inPlace_agrees_doubting :
    ∃ c', Node.inPlace doubtingTable 4 false (.here doubting .null) { allErrors := true } =
        .ok false c' ∧
      c'.violations.map (·.message) = ["should NOT be valid", "can't resolve reference #/b",
        "should match some schema in anyOf"] ∧
      Course.Agrees { allErrors := true } false c' := by
  have plain : ∀ id node, doubtingTable id = some node → node.IsPlain := by
    intro id node found rules inner
    rw [doubtingTable] at found
    split at found <;> cases found
    cases inner
  have own : doubting.IsPlain := by
    refine Node.isPlain_rules (by simp [Check.isPlain]) ?_
    simp only [forall_eq, Check.parts, List.mem_cons, List.not_mem_nil, or_false, forall_eq_or_imp]
    refine ⟨Node.isPlain_rules (by simp [Check.isPlain]) ?_, Node.isPlain_ref _ _⟩
    simp only [List.mem_singleton, forall_eq, Check.parts]
    exact Node.isPlain_ref _ _
  exact ⟨_, rfl, rfl, ((inPlace_agrees plain).1 doubting .null { allErrors := true } own).2 4 false
    .here false _ rfl⟩

end Validator

end JsonSchema
