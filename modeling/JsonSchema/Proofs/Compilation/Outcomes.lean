import JsonSchema.Proofs.Compilation.References
import JsonSchema.Proofs.Validation.Verdicts

/-!
# Outcomes of compiled keywords

The outcome of a compiled keyword is known later exactly if this is so for the keyword, and a
compiled keyword refuses what it says something about unless the keyword was defined otherwise.

* `Keyword.Heeds`: when the outcome of a keyword is known.
* `Builtin.Shapes.isOrdinary`: built-in keywords are plain and speak only of what is there.
* `Compiler.Compiled.heeds`: a compiled schema follows the keywords that are defined.
-/

namespace JsonSchema

/-! ## Keywords -/

/-- A compiled keyword says something only if it refuses, and its outcome is known at once. -/
def Check.isPlain : Check → Bool
  | .remark _ _ | .deferred _ => false
  | _ => true

/-- A compiled keyword is plain and speaks only of what is there. -/
def Check.isOrdinary : Check → Bool
  | .remark _ _ | .deferred _ | .beneath _ _ => false
  | _ => true

theorem Check.isPlain_of_isOrdinary {check : Check} (ordinary : check.isOrdinary = true) :
    check.isPlain = true := by
  cases check with
  | remark | deferred => cases ordinary
  | _ => rfl

/-- A keyword refuses what it says something about, and its outcome is known later exactly if it
    is one of those that are known `later`. -/
structure Keyword.Heeds (later : String → Bool) (keyword : Keyword) : Prop where
  loud : ∀ message params, keyword.behavior ≠ .extension (.remark message params true)
  waits : later keyword.name = true ↔ ∃ test, keyword.behavior = .async test

/-- Whether a keyword is neither put together from parts nor stands for another schema. -/
def Keyword.isSimple (keyword : Keyword) : Bool :=
  match keyword.behavior with
  | .extension _ | .expand _ => false
  | _ => true

theorem Behavior.isAsync_iff {behavior : Behavior} :
    behavior.isAsync = true ↔ ∃ test, behavior = .async test := by
  cases behavior with
  | async test => exact ⟨fun _ => ⟨test, rfl⟩, fun _ => rfl⟩
  | _ => exact ⟨fun h => (nomatch h), fun ⟨_, h⟩ => (nomatch h)⟩

theorem Keyword.heeds_of_isSimple {keyword : Keyword} {later : String → Bool}
    (simple : keyword.isSimple = true) (waits : later keyword.name = keyword.behavior.isAsync) :
    keyword.Heeds later where
  loud message params h := by
    rw [isSimple, h] at simple
    cases simple
  waits := by rw [waits, Behavior.isAsync_iff]

section Shapes

variable {N : NodeRelation} {o : Occurrence} {check : Check}

theorem Applicator.Shapes.isOrdinary {applicator : Applicator}
    (shape : applicator.Shapes N o check) : check.isOrdinary = true := by
  cases applicator with
  | properties =>
    obtain ⟨_, _, _, _, rfl⟩ := shape
    rfl
  | patternProperties =>
    obtain ⟨_, _, _, _, _, _, rfl⟩ := shape
    rfl
  | additionalProperties =>
    obtain ⟨_, _, _, _, rfl⟩ := shape
    rfl
  | dependencies =>
    obtain ⟨_, _, _, _, rfl⟩ := shape
    rfl
  | items =>
    simp only [Shapes] at shape
    split at shape <;> obtain ⟨_, _, rfl⟩ := shape <;> rfl
  | additionalItems =>
    simp only [Shapes] at shape
    split at shape
    · obtain ⟨_, _, rfl⟩ := shape
      rfl
    · rw [shape]
      rfl
  | propertyNames | contains | not | allOf | anyOf | oneOf =>
    obtain ⟨_, _, rfl⟩ := shape
    rfl
  | conditional =>
    obtain ⟨_, _, _, _, _, _, rfl⟩ := shape
    split <;> rfl

theorem Builtin.Shapes.isOrdinary {builtin : Builtin} {compiler : Compiler}
    (shape : builtin.Shapes compiler N o check) : check.isOrdinary = true := by
  cases builtin with
  | asserts kind =>
    obtain ⟨_, _, rfl⟩ := shape
    rfl
  | applies applicator => exact Applicator.Shapes.isOrdinary shape
  | format =>
    obtain ⟨_, _, shape⟩ := shape
    split at shape <;> rw [shape] <;> rfl

theorem Builtin.Shapes.isPlain {builtin : Builtin} {compiler : Compiler}
    (shape : builtin.Shapes compiler N o check) : check.isPlain = true :=
  Check.isPlain_of_isOrdinary shape.isOrdinary

/-- Of the keywords that are put together from parts only one kind speaks. -/
theorem Extension.Shapes.isPlain {extension : Extension} {compiler : Compiler}
    (shape : extension.Shapes compiler N o check) :
    check.isPlain = true ∨ ∃ message params verdict,
      extension = .remark message params verdict ∧ check = .remark ⟨message, params⟩ verdict := by
  cases extension with
  | remark message params verdict => exact .inr ⟨message, params, verdict, rfl, shape⟩
  | children | verdict =>
    obtain ⟨_, _, rfl⟩ := shape
    exact .inl rfl
  | sibling keyword =>
    obtain ⟨_, _, rfl⟩ := shape
    exact .inl rfl
  | refuse => exact shape.elim
  | below | format | probe =>
    rw [shape]
    exact .inl rfl

/-- Only a keyword whose outcome is known later is compiled to such a check. -/
theorem Compiler.CheckShape.waits {compiler : Compiler} {test : Value → Bool}
    (shape : compiler.CheckShape N o (some (.deferred test))) : o.keyword.behavior.isAsync = true := by
  rw [CheckShape] at shape
  split at shape
  · cases shape
  · cases shape
  · obtain ⟨check, shape, e⟩ := shape
    cases e
    cases shape.isPlain
  · obtain ⟨check, shape, e⟩ := shape
    cases e
    rcases shape.isPlain with plain | ⟨_, _, _, -, e⟩
    · cases plain
    · cases e
  · obtain ⟨node, -, e⟩ := shape
    cases e
  · next behavior =>
    rw [behavior]
    rfl

/-- A keyword that is not put together from parts speaks only of what is there. -/
theorem Compiler.CheckShape.ne_beneath {compiler : Compiler} (simple : o.keyword.isSimple = true)
    (shape : compiler.CheckShape N o (some check)) (steps : List String) (message : String) :
    check ≠ .beneath steps message := by
  rintro rfl
  rw [CheckShape] at shape
  rw [Keyword.isSimple] at simple
  split at shape
  · cases shape
  · cases shape
  · obtain ⟨check, shape, same⟩ := shape
    cases same
    cases shape.isOrdinary
  · next behavior =>
    rw [behavior] at simple
    cases simple
  · next behavior =>
    rw [behavior] at simple
    cases simple
  · cases shape

end Shapes

/-! ## Compiled schemas -/

section Heeds

variable {later : String → Bool} {rule : Rule Check}

theorem Rule.Heeds.of_isPlain (plain : rule.check.isPlain = true)
    (now : later rule.keyword = false) : rule.Heeds later where
  loud objection check := by
    rw [check] at plain
    cases plain
  waits test check := by
    rw [check] at plain
    cases plain
  now known := by
    rw [now] at known
    cases known

/-- A rule heeds what its keyword heeds. -/
theorem Compiler.CheckShape.heeds {compiler : Compiler} {N : NodeRelation} {o : Occurrence}
    (shape : compiler.CheckShape N o (some rule.check)) (name : rule.keyword = o.keyword.name)
    (heeds : o.keyword.Heeds later) : rule.Heeds later := by
  have now : (∀ test, o.keyword.behavior ≠ .async test) → later rule.keyword = false := by
    intro other
    rw [name, Bool.eq_false_iff]
    exact fun known => (heeds.waits.1 known).elim other
  rw [CheckShape] at shape
  split at shape
  · cases shape
  · next behavior =>
    refine .of_isPlain ?_ (now fun test h => ?_)
    · rw [Option.some.inj shape]
      rfl
    · rw [behavior] at h
      cases h
  · next behavior =>
    obtain ⟨check, shape, e⟩ := shape
    refine .of_isPlain ?_ (now fun test h => ?_)
    · rw [Option.some.inj e]
      exact shape.isPlain
    · rw [behavior] at h
      cases h
  · next extension behavior =>
    obtain ⟨check, shape, e⟩ := shape
    have now := now fun test h => by
      rw [behavior] at h
      cases h
    rcases shape.isPlain with plain | ⟨message, params, verdict, rfl, rfl⟩
    · refine .of_isPlain ?_ now
      rw [Option.some.inj e]
      exact plain
    · have e := Option.some.inj e
      refine ⟨fun objection check => ?_, fun test check => ?_, fun known => ?_⟩
      · rw [e] at check
        cases check
        exact heeds.loud message params behavior
      · rw [e] at check
        cases check
      · rw [now] at known
        cases known
  · next behavior =>
    obtain ⟨node, -, e⟩ := shape
    refine .of_isPlain ?_ (now fun test h => ?_)
    · rw [Option.some.inj e]
      rfl
    · rw [behavior] at h
      cases h
  · next test behavior =>
    have e := Option.some.inj shape
    refine ⟨fun objection check => ?_, fun _ _ => ?_, fun _ => ⟨_, e⟩⟩
    · rw [e] at check
      cases check
    · rw [name]
      exact heeds.waits.2 ⟨test, behavior⟩

/-- A compiled schema heeds what the keywords that are defined heed. -/
theorem Compiler.Compiled.heeds {compiler : Compiler} {refs : Bindings String EntryId}
    (defined : ∀ keyword ∈ compiler.vocabulary.ordered, keyword.Heeds later)
    (now : later "$ref" = false) {fuel : Nat} {value : Value} {place : Place} {node : Node}
    (shape : compiler.Compiled refs fuel value place node) : node.Heeds later := by
  refine Compiled.induction (P := Node.Heeds later) ?_ ?_ ?_ shape
  · intro verdict rules occurs
    cases occurs
  · intro target reference found rules occurs
    cases occurs
  · intro rules ih list occurs rule mem
    cases occurs with
    | self =>
      cases (ih rule mem).2.1 with
      | reference place target h =>
        rw [h]
        exact .of_isPlain rfl now
      | keyword N o member shape name => exact shape.heeds name (defined _ member)
    | part mem' of inner => exact (ih _ mem').2.2 _ of list inner rule mem

end Heeds

end JsonSchema
