import JsonSchema.Proofs.Registry.Loading

/-!
# Rounds of a compilation with a loader

A compilation with a loader goes on in rounds. A round returns, or loads what the document lacks
and leaves the rest to the next round.

* `Loading.Round`: a round that does not return.
* `Loading.Final`: a round that returns, with what it gives.
* `Loading.compile_cases`: every round is one or the other.
* `Loading.compile_of_final`, `Loading.compile_of_round`: a compilation from its rounds.
-/

namespace JsonSchema

namespace Loading

variable {σ : Type} (loader : Loader σ) (document : Document)

/-- A round that does not return: the document refers to one that is not known, and this and
    others are loaded. -/
inductive Round (l : Loading σ) (missing : String) (l' : Loading σ) : Prop
  | intro (reference : String) (l₁ : Loading σ)
      (lacks : onRegistry (Registry.compile document) l = .error (.missing reference missing) l₁)
      (named : missing.isEmpty = false)
      (unknown : (l₁.registry.schemaEntry? missing).isSome = false)
      (supplied : supply loader document.value missing l₁ = .ok () l')

/-- A round that returns: the document compiles, or it fails for another reason, or it refers to a
    part that a known document lacks, or what it lacks cannot be loaded and taken in. -/
inductive Final (l : Loading σ) : EStateM.Result SchemaError (Loading σ) Validator → Prop
  | compiles {v : Validator} {l' : Loading σ}
      (ok : onRegistry (Registry.compile document) l = .ok v l') : Final l (.ok v l')
  | fails {e : SchemaError} {l' : Loading σ}
      (error : onRegistry (Registry.compile document) l = .error e l')
      (other : ∀ reference missing, e ≠ .missing reference missing) : Final l (.error e l')
  | lacksPart {reference missing : String} {l' : Loading σ}
      (lacks : onRegistry (Registry.compile document) l = .error (.missing reference missing) l')
      (known : missing.isEmpty = true ∨ (l'.registry.schemaEntry? missing).isSome = true) :
      Final l (.error (.missing reference missing) l')
  | lacksLoad {reference missing : String} {e : SchemaError} {l₁ l' : Loading σ}
      (lacks : onRegistry (Registry.compile document) l = .error (.missing reference missing) l₁)
      (named : missing.isEmpty = false)
      (unknown : (l₁.registry.schemaEntry? missing).isSome = false)
      (refused : supply loader document.value missing l₁ = .error e l') : Final l (.error e l')

/-- What follows on a compilation of the document that failed. -/
def retry (rounds : Nat) (e : SchemaError) : LoadM σ Validator := do
  match e with
  | .missing _ missing =>
    if missing.isEmpty || (← isKnown missing) then throw e
    supply loader document.value missing
    compile loader document rounds
  | _ => throw e

variable {loader document} {l l' : Loading σ} {rounds : Nat}

theorem compile_of_ok {v : Validator}
    (ok : onRegistry (Registry.compile document) l = .ok v l') :
    compile loader document (rounds + 1) l = .ok v l' := by
  show EStateM.tryCatch (onRegistry (Registry.compile document)) (retry loader document rounds) l = _
  unfold EStateM.tryCatch
  rw [ok]

theorem compile_of_error {e : SchemaError}
    (error : onRegistry (Registry.compile document) l = .error e l') :
    compile loader document (rounds + 1) l = retry loader document rounds e l' := by
  show EStateM.tryCatch (onRegistry (Registry.compile document)) (retry loader document rounds) l = _
  unfold EStateM.tryCatch
  rw [error]
  rfl

/-- A round after which the document lacks a document that is not known. -/
theorem compile_of_lacks {reference missing : String} {l₁ : Loading σ}
    (lacks : onRegistry (Registry.compile document) l = .error (.missing reference missing) l₁)
    (named : missing.isEmpty = false) (unknown : (l₁.registry.schemaEntry? missing).isSome = false) :
    compile loader document (rounds + 1) l =
      (supply loader document.value missing >>= fun _ => compile loader document rounds) l₁ := by
  rw [compile_of_error lacks]
  simp only [retry, named, Bool.false_or]
  show EStateM.bind (isKnown missing) _ l₁ = _
  rw [EStateM.bind, show (isKnown missing : LoadM σ Bool) l₁ = .ok false l₁ from by
    rw [← unknown]; rfl]
  rfl

/-- A round after which the document lacks a part of one that is known. -/
theorem compile_of_lacksPart {reference missing : String} {l₁ : Loading σ}
    (lacks : onRegistry (Registry.compile document) l = .error (.missing reference missing) l₁)
    (known : missing.isEmpty = true ∨ (l₁.registry.schemaEntry? missing).isSome = true) :
    compile loader document (rounds + 1) l = .error (.missing reference missing) l₁ := by
  rw [compile_of_error lacks]
  have known : (missing.isEmpty || (l₁.registry.schemaEntry? missing).isSome) = true := by
    rcases known with known | known <;> simp [known]
  unfold retry
  show EStateM.bind (isKnown missing) _ l₁ = _
  rw [EStateM.bind, show (isKnown missing : LoadM σ Bool) l₁ =
    .ok (l₁.registry.schemaEntry? missing).isSome l₁ from rfl]
  simp only [known, if_true]
  rfl

theorem compile_of_round {missing : String} (round : Round loader document l missing l') :
    compile loader document (rounds + 1) l = compile loader document rounds l' := by
  obtain ⟨reference, l₁, lacks, named, unknown, supplied⟩ := round
  rw [compile_of_lacks lacks named unknown]
  show EStateM.bind _ _ l₁ = _
  rw [EStateM.bind, supplied]

theorem compile_of_final {result : EStateM.Result SchemaError (Loading σ) Validator}
    (final : Final loader document l result) :
    compile loader document (rounds + 1) l = result := by
  cases final with
  | compiles ok => exact compile_of_ok ok
  | @fails e l' error other =>
    rw [compile_of_error error]
    cases e with
    | missing reference missing => exact absurd rfl (other reference missing)
    | _ => rfl
  | lacksPart lacks known => exact compile_of_lacksPart lacks known
  | lacksLoad lacks named unknown refused =>
    rw [compile_of_lacks lacks named unknown]
    show EStateM.bind _ _ _ = _
    rw [EStateM.bind, refused]

variable (loader document l) in
/-- Every round returns, or leaves the rest to the next one. -/
theorem compile_cases : (∃ result, Final loader document l result) ∨
    ∃ missing l', Round loader document l missing l' := by
  cases run : onRegistry (Registry.compile document) l with
  | ok v l₁ => exact .inl ⟨_, .compiles run⟩
  | error e l₁ =>
    by_cases lacks : ∃ reference missing, e = .missing reference missing
    · obtain ⟨reference, missing, rfl⟩ := lacks
      by_cases known : missing.isEmpty = true ∨ (l₁.registry.schemaEntry? missing).isSome = true
      · exact .inl ⟨_, .lacksPart run known⟩
      · rw [not_or, Bool.not_eq_true, Bool.not_eq_true] at known
        cases supplied : supply loader document.value missing l₁ with
        | ok _ l₂ => exact .inr ⟨missing, l₂, reference, l₁, run, known.1, known.2, supplied⟩
        | error e l₂ => exact .inl ⟨_, .lacksLoad run known.1 known.2 supplied⟩
    · exact .inl ⟨_, .fails run fun reference missing same => lacks ⟨reference, missing, same⟩⟩

/-- What a compilation returns, its last compilation without a loader returned. -/
theorem compile_eq_ok {K : EntryId → Compiler → Prop} {v : Validator} (good : l.registry.Good K)
    (ok : compile loader document rounds l = .ok v l') :
    ∃ r, r.Good K ∧ Registry.compile document r = .ok v l'.registry := by
  have direct : ∀ {l : Loading σ}, onRegistry (Registry.compile document) l = .ok v l' →
      Registry.compile document l.registry = .ok v l'.registry := by
    intro l ok
    unfold onRegistry EStateM.run at ok
    cases first : Registry.compile document l.registry with
    | ok a r =>
      rw [first] at ok
      cases ok
      rfl
    | error e r =>
      rw [first] at ok
      cases ok
  induction rounds generalizing l with
  | zero => exact ⟨_, good, direct ok⟩
  | succ rounds ih =>
    rcases compile_cases loader document l with ⟨result, final⟩ | ⟨missing, l₂, round⟩
    · rw [compile_of_final final] at ok
      subst ok
      cases final with
      | compiles ok => exact ⟨_, good, direct ok⟩
    · rw [compile_of_round round] at ok
      obtain ⟨reference, l₁, lacks, -, -, supplied⟩ := round
      have first := (LoadM.Keeps.onRegistry (σ := σ) (fun _ good =>
        Registry.compile_ensures (K := K) good document)) l good
      have second := supply_keeps loader document.value missing l₁ (K := K)
      unfold LoadM.after at first second
      rw [lacks] at first
      rw [supplied] at second
      exact ih (second first.1).1 ok

end Loading

end JsonSchema
