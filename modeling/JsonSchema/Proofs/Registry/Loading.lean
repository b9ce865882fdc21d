import JsonSchema.Loader.Loading
import JsonSchema.Proofs.Registry.Operations

/-!
# Operations that load documents

A compilation with a loader is made of operations of the registry. Whatever the loader
gives, and whether the compilation succeeds or fails, it leaves a settled store.

* `LoadM.Keeps`: the rule by which operations that may load are put together.
* `Loading.compile_keeps`: a compilation with a loader follows it.
-/

namespace JsonSchema

variable {σ α β : Type} {K : EntryId → Compiler → Prop}

namespace LoadM

/-- What an operation leaves, whatever its outcome. -/
def after (m : LoadM σ α) (l : Loading σ) : Loading σ :=
  match m l with
  | .ok _ l' | .error _ l' => l'

theorem get_bind (f : Loading σ → LoadM σ α) (l : Loading σ) :
    ((get : LoadM σ (Loading σ)) >>= f) l = f l l := rfl

/-- An operation that may load leaves a good registry, and gives no place out twice. -/
def Keeps (K : EntryId → Compiler → Prop) (m : LoadM σ α) : Prop :=
  ∀ l, l.registry.Good K → (m.after l).registry.Good K ∧
    l.registry.store.Succeeds (m.after l).registry.store

namespace Keeps

theorem pure (a : α) : Keeps K (pure a : LoadM σ α) := fun _ good => ⟨good, .refl _⟩

theorem throw (e : SchemaError) : Keeps K (MonadExcept.throw e : LoadM σ α) :=
  fun _ good => ⟨good, .refl _⟩

/-- A step that leaves the registry alone. -/
theorem modify {change : Loading σ → Loading σ} (same : ∀ l, (change l).registry = l.registry) :
    Keeps K (modify change : LoadM σ PUnit) := by
  intro l good
  show (change l).registry.Good K ∧ l.registry.store.Succeeds (change l).registry.store
  rw [same]
  exact ⟨good, .refl _⟩

theorem bind {m : LoadM σ α} {f : α → LoadM σ β} (first : Keeps K m)
    (second : ∀ a, Keeps K (f a)) : Keeps K (m >>= f) := by
  intro l good
  obtain ⟨good', succeeds⟩ := first l good
  have run : (m >>= f).after l = match m l with
      | .ok a l' => (f a).after l'
      | .error _ l' => l' := by
    show after (EStateM.bind m f) l = _
    unfold after EStateM.bind
    cases m l <;> rfl
  rw [run]
  unfold after at good' succeeds
  cases hm : m l with
  | error e l' =>
    rw [hm] at good' succeeds
    exact ⟨good', succeeds⟩
  | ok a l' =>
    rw [hm] at good' succeeds
    obtain ⟨good'', succeeds'⟩ := second a l' good'
    exact ⟨good'', succeeds.trans succeeds'⟩

theorem get_bind {f : Loading σ → LoadM σ α} (rest : ∀ l, Keeps K (f l)) :
    Keeps K (get >>= f) := fun l good => rest l l good

theorem tryCatch {m : LoadM σ α} {f : SchemaError → LoadM σ α} (first : Keeps K m)
    (second : ∀ e, Keeps K (f e)) : Keeps K (tryCatch m f) := by
  intro l good
  obtain ⟨good', succeeds⟩ := first l good
  have run : after (MonadExcept.tryCatch m f) l = match m l with
      | .ok _ l' => l'
      | .error e l' => (f e).after l' := by
    show after (EStateM.tryCatch m f) l = _
    unfold after EStateM.tryCatch
    cases m l <;> rfl
  show (after (MonadExcept.tryCatch m f) l).registry.Good K ∧ _
  rw [show (MonadExcept.tryCatch m f : LoadM σ α).after l = _ from run]
  unfold after at good' succeeds
  cases hm : m l with
  | ok a l' =>
    rw [hm] at good' succeeds
    exact ⟨good', succeeds⟩
  | error e l' =>
    rw [hm] at good' succeeds
    obtain ⟨good'', succeeds'⟩ := second e l' good'
    exact ⟨good'', succeeds.trans succeeds'⟩

theorem mapM {f : α → LoadM σ β} (step : ∀ a, Keeps K (f a)) (list : List α) :
    Keeps K (list.mapM f) := by
  induction list with
  | nil =>
    rw [List.mapM_nil]
    exact pure _
  | cons a rest ih =>
    rw [List.mapM_cons]
    exact (step a).bind fun _ => ih.bind fun _ => pure _

theorem foldlM {f : β → α → LoadM σ β} (step : ∀ b a, Keeps K (f b a)) (list : List α) (b : β) :
    Keeps K (list.foldlM f b) := by
  induction list generalizing b with
  | nil => exact pure b
  | cons a rest ih =>
    rw [List.foldlM_cons]
    exact (step b a).bind ih

theorem forM {f : α → LoadM σ PUnit} (step : ∀ a, Keeps K (f a)) (list : List α) :
    Keeps K (list.forM f) := by
  induction list with
  | nil => exact pure _
  | cons a rest ih =>
    exact (step a).bind fun _ => ih

/-- An operation of the registry. -/
theorem onRegistry {m : RegistryM α} {post : Registry → α → Registry → Prop}
    (ensured : ∀ r, r.Good K → RegistryM.Ensures K r m (post r)) :
    Keeps K (Loading.onRegistry m : LoadM σ α) := by
  intro l good
  have run : ((Loading.onRegistry m : LoadM σ α).after l).registry = m.after l.registry := by
    unfold after Loading.onRegistry EStateM.run RegistryM.after
    cases m l.registry <;> rfl
  rw [run]
  exact (ensured l.registry good).after

end Keeps

end LoadM

namespace Loading

open LoadM (Keeps)

theorem requestAll_keeps (uris : List String) :
    Keeps K (requestAll uris : LoadM σ (List Ticket × List Ticket)) := by
  refine Keeps.foldlM (fun b uri => Keeps.get_bind fun l => ?_) uris _
  generalize l.fetcher.request uri = asked
  obtain ⟨ticket, starts, fetcher⟩ := asked
  refine Keeps.bind (Keeps.modify fun _ => rfl) fun _ => ?_
  cases starts with
  | false => exact Keeps.pure _
  | true =>
    exact Keeps.bind (Keeps.onRegistry fun _ good => Registry.trace_ensures good _)
      fun _ => Keeps.pure _

theorem runLoad_keeps (loader : Loader σ) (ticket : Ticket) : Keeps K (runLoad loader ticket) :=
  Keeps.modify fun _ => rfl

theorem collect_keeps (ticket : Ticket) :
    Keeps K (collect ticket : LoadM σ (Except SchemaError Document)) := by
  refine Keeps.get_bind fun l => ?_
  cases l.fetcher.collect ticket with
  | none => exact Keeps.pure _
  | some found => exact Keeps.bind (Keeps.modify fun _ => rfl) fun _ => Keeps.pure _

theorem fetchAll_keeps (loader : Loader σ) (uris : List String) :
    Keeps K (fetchAll loader uris) := by
  refine Keeps.bind (requestAll_keeps uris) fun found => ?_
  refine Keeps.bind (Keeps.forM (runLoad_keeps loader) _) fun _ => ?_
  exact Keeps.mapM collect_keeps _

theorem fetch_keeps (loader : Loader σ) (uri : String) : Keeps K (fetch loader uri) := by
  refine Keeps.bind (fetchAll_keeps loader [uri]) fun results => ?_
  split
  · exact Keeps.pure _
  · exact Keeps.throw _
  · exact Keeps.throw _

theorem isKnown_keeps (name : String) : Keeps K (isKnown name : LoadM σ Bool) :=
  Keeps.get_bind fun _ => Keeps.pure _

theorem add_keeps (document : Document) (options : Registry.AddOptions) :
    Keeps K (onRegistry (Registry.addSchemaWith document options) : LoadM σ EntryId) :=
  Keeps.onRegistry fun _ good => Registry.addSchemaWith_ensures good document options

theorem addLoaded_keeps (loader : Loader σ) (uri : String) (document : Document) :
    Keeps K (addLoaded loader uri document) := by
  have last : Keeps K (do
      let _ ← onRegistry (Registry.addSchema document (some uri))
      pure PUnit.unit : LoadM σ PUnit) := (add_keeps document _).bind fun _ => Keeps.pure _
  unfold addLoaded
  refine Keeps.bind (isKnown_keeps uri) fun known => ?_
  cases known with
  | true => exact Keeps.pure _
  | false =>
    cases document.value.metaSchemaId? with
    | none => exact last
    | some metaId =>
      refine Keeps.bind (isKnown_keeps metaId) fun known => ?_
      by_cases absent : (decide (metaId ≠ uri) && !known) = true
      · rw [if_pos absent]
        refine Keeps.bind (fetch_keeps loader metaId) fun metaSchema => ?_
        exact Keeps.bind (add_keeps metaSchema _) fun _ => last
      · rw [if_neg absent]
        exact last

theorem supply_keeps (loader : Loader σ) (document : Value) (missing : String) :
    Keeps K (supply loader document missing) := by
  unfold supply
  refine Keeps.bind (Keeps.onRegistry fun _ good =>
    Registry.missingDocuments_ensures good document) fun others => ?_
  refine Keeps.bind (fetchAll_keeps loader _) fun results => ?_
  refine Keeps.forM (fun loaded => ?_) _
  obtain ⟨uri, result⟩ := loaded
  cases result with
  | ok loaded => exact addLoaded_keeps loader uri loaded
  | error e => exact Keeps.throw e

/-- A compilation with a loader keeps a good registry, whatever its outcome. -/
theorem compile_keeps (loader : Loader σ) (document : Document) (rounds : Nat) :
    Keeps K (compile loader document rounds) := by
  have direct : Keeps K (onRegistry (Registry.compile document) : LoadM σ Validator) :=
    Keeps.onRegistry fun _ good => Registry.compile_ensures good document
  induction rounds with
  | zero => exact direct
  | succ rounds ih =>
    refine Keeps.tryCatch direct fun e => ?_
    cases e with
    | missing reference missing =>
      have retry : Keeps K (do
          supply loader document.value missing
          compile loader document rounds) := (supply_keeps loader document.value missing).bind fun _ => ih
      refine Keeps.bind (isKnown_keeps missing) fun known => ?_
      by_cases final : (missing.isEmpty || known) = true
      · rw [if_pos final]
        exact (Keeps.throw (α := PUnit) _).bind fun _ => retry
      · rw [if_neg final]
        exact retry
    | _ => exact Keeps.throw _

end Loading

end JsonSchema
