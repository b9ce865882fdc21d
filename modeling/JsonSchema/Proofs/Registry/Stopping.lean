import JsonSchema.Proofs.Registry.Abreast

/-!
# Validators that stop at the first violation

Whether a validation stops at the first violation is an option of the registry. It changes only how
much is reported. A loader gives the same documents to two registries that differ only in this.

* `Loading.Beside`: the same loads beside such registries.
* `Loading.compile_abreast`: compiling with a loader.
* `Registry.run_beside`: after operations that leave the keywords as they are, two registries with
  and without this option differ in nothing but their reports.
* `Registry.run_stops_early`: a document compiles in both or in none, the validators accept the
  same data, and what the first one reports of other data abridges what the second one does.
-/

namespace JsonSchema

/-! ## Loads -/

namespace Loading

variable {σ α α' : Type} {R : α → α' → Prop}

/-- The same loads, and registries that differ in what they report. -/
inductive Beside : Loading σ → Loading σ → Prop
  | intro {r r' : Registry} (h : r.Beside r') (fetcher : Fetcher) (source : σ) :
      Beside { registry := r, fetcher, source } { registry := r', fetcher, source }

theorem Beside.registry {l l' : Loading σ} (beside : Beside l l') :
    l.registry.Beside l'.registry := by
  cases beside
  assumption

theorem Beside.after {m : LoadM σ α} {m' : LoadM σ α'} {l l' : Loading σ} (beside : Beside l l')
    (h : Abreast Beside R m m') : Beside (m.after l) (m'.after l') := by
  rcases h.cases beside with ⟨a, t, a', t', run, run', -, next⟩ | ⟨e, t, e', t', run, run', -, next⟩
  · rw [LoadM.after, LoadM.after, run, run']
    exact next
  · rw [LoadM.after, LoadM.after, run, run']
    exact next

theorem get_abreast {f : Loading σ → LoadM σ α} {f' : Loading σ → LoadM σ α'}
    (rest : ∀ (r r' : Registry) fetcher source, r.Beside r' →
      Abreast Beside R (f { registry := r, fetcher, source })
        (f' { registry := r', fetcher, source })) :
    Abreast Beside R (get >>= f) (get >>= f') := by
  refine .get_bind ?_
  rintro _ _ ⟨beside, fetcher, source⟩
  exact rest _ _ fetcher source beside

/-- A step that leaves the registry alone. -/
theorem modify_abreast (change : Fetcher → σ → Fetcher × σ) :
    Abreast Beside Eq
      (modify fun l => { l with
        fetcher := (change l.fetcher l.source).1, source := (change l.fetcher l.source).2 } :
        LoadM σ PUnit)
      (modify fun l => { l with
        fetcher := (change l.fetcher l.source).1, source := (change l.fetcher l.source).2 }) := by
  refine .modify ?_
  rintro _ _ ⟨beside, fetcher, source⟩
  exact .intro beside _ _

theorem onRegistry_abreast {m : RegistryM α} {m' : RegistryM α'}
    (h : Abreast Registry.Beside R m m') :
    Abreast Beside R (onRegistry m : LoadM σ α) (onRegistry m') := by
  refine .of_outcomes ?_
  rintro _ _ ⟨beside, fetcher, source⟩
  unfold onRegistry EStateM.run
  rcases h.cases beside with ⟨a, t, a', t', run, run', related, next⟩ |
    ⟨e, t, e', t', run, run', related, next⟩
  · simp only [run, run']
    exact ⟨related, .intro next _ _⟩
  · simp only [run, run']
    exact ⟨related, .intro next _ _⟩

/-! ## Loading -/

theorem requestAll_abreast (uris : List String) :
    Abreast Beside Eq (requestAll uris : LoadM σ (List Ticket × List Ticket)) (requestAll uris) := by
  refine .foldlM (fun b uri => get_abreast fun r r' fetcher source beside => ?_) uris _
  dsimp only
  refine .bindEq (modify_abreast fun _ source => (_, source)) fun _ => ?_
  exact .ite (.bindEq (onRegistry_abreast (Registry.trace_abreast _ _)) fun _ => .pure rfl)
    (.pure rfl)

theorem runLoad_abreast (loader : Loader σ) (ticket : Ticket) :
    Abreast Beside Eq (runLoad loader ticket) (runLoad loader ticket) :=
  modify_abreast fun fetcher source =>
    (fetcher.complete ticket (loader.load ticket.uri source).1, (loader.load ticket.uri source).2)

theorem collect_abreast (ticket : Ticket) :
    Abreast Beside Eq (collect ticket : LoadM σ (Except SchemaError Document)) (collect ticket) := by
  refine get_abreast fun r r' fetcher source beside => ?_
  dsimp only
  split
  · exact .bindEq (modify_abreast fun _ source => (_, source)) fun _ => .pure rfl
  · exact .pure rfl

theorem fetchAll_abreast (loader : Loader σ) (uris : List String) :
    Abreast Beside Eq (fetchAll loader uris) (fetchAll loader uris) :=
  (requestAll_abreast uris).bindEq fun _ => (Abreast.forM (runLoad_abreast loader) _).bindEq fun _ =>
    .mapM collect_abreast _

theorem fetch_abreast (loader : Loader σ) (uri : String) :
    Abreast Beside Eq (fetch loader uri) (fetch loader uri) := by
  refine (fetchAll_abreast loader [uri]).bindEq fun results => ?_
  split
  · exact .pure rfl
  · exact .throw (.same _)
  · exact .throw (.same _)

theorem isKnown_abreast (name : String) :
    Abreast Beside Eq (isKnown name : LoadM σ Bool) (isKnown name) := by
  refine get_abreast fun r r' fetcher source beside => .pure ?_
  cases beside
  rfl

theorem add_abreast (document : Document) (add : Registry.AddOptions) :
    Abreast Beside Eq (onRegistry (Registry.addSchemaWith document add) : LoadM σ EntryId)
      (onRegistry (Registry.addSchemaWith document add)) :=
  onRegistry_abreast (Registry.addSchemaWith_abreast document add)

theorem addLoaded_abreast (loader : Loader σ) (uri : String) (document : Document) :
    Abreast Beside Eq (addLoaded loader uri document) (addLoaded loader uri document) := by
  have last : Abreast Beside Eq (do
      let _ ← onRegistry (Registry.addSchema document (some uri))
      pure PUnit.unit : LoadM σ PUnit) (do
      let _ ← onRegistry (Registry.addSchema document (some uri))
      pure PUnit.unit) := (add_abreast document _).bindEq fun _ => .pure rfl
  unfold addLoaded
  refine (isKnown_abreast uri).bindEq fun known => .ite (.pure rfl) ?_
  cases document.value.metaSchemaId? with
  | none => exact last
  | some metaId =>
    refine (isKnown_abreast metaId).bindEq fun known => .ite ?_ last
    exact (fetch_abreast loader metaId).bindEq fun metaSchema =>
      (add_abreast metaSchema _).bindEq fun _ => last

theorem supply_abreast (loader : Loader σ) (document : Value) (missing : String) :
    Abreast Beside Eq (supply loader document missing) (supply loader document missing) := by
  unfold supply
  refine (onRegistry_abreast (Registry.missingDocuments_abreast document)).bindEq fun others => ?_
  refine (fetchAll_abreast loader _).bindEq fun results => .forM (fun loaded => ?_) _
  obtain ⟨uri, result⟩ := loaded
  cases result with
  | ok loaded => exact addLoaded_abreast loader uri loaded
  | error e => exact .throw (.same e)

theorem compile_abreast (loader : Loader σ) (document : Document) (rounds : Nat) :
    Abreast Beside Validator.Beside (compile loader document rounds)
      (compile loader document rounds) := by
  have direct : Abreast Beside Validator.Beside
      (onRegistry (Registry.compile document) : LoadM σ Validator)
      (onRegistry (Registry.compile document)) :=
    onRegistry_abreast (Registry.compile_abreast document)
  induction rounds with
  | zero => exact direct
  | succ rounds ih =>
    refine direct.tryCatch fun e e' abridges => ?_
    cases abridges with
    | refused h => exact .throw (.refused h)
    | same e =>
      cases e with
      | missing reference missing =>
        have retry := (supply_abreast loader document.value missing).bindEq fun _ => ih
        exact (isKnown_abreast missing).bindEq fun known => .ite (.throw_bind (.same _)) retry
      | _ => exact .throw (.same _)

end Loading

/-! ## Validators -/

/-- A validator that reports less than another one, beginning with the same violation, and accepts
    the same data, whether deferred tests are waited for or not. -/
structure Validator.Abridges (v : Validator) (slots : SlotTable) (v' : Validator)
    (slots' : SlotTable) (data : Value) : Prop where
  valid : (v.validate slots data).violations = [] ↔ (v'.validate slots' data).violations = []
  violations : (v.validate slots data).violations.Abridges (v'.validate slots' data).violations
  resolved : (v.resolve slots data).violations = [] ↔ (v'.resolve slots' data).violations = []
  resolves : (v.resolve slots data).violations.Abridges (v'.resolve slots' data).violations

theorem Validator.Beside.abridges {v v' : Validator} (beside : v.Beside v') (slots : SlotTable)
    (data : Value) : v.Abridges slots v' slots data := by
  obtain ⟨w, rfl, rfl⟩ := beside
  have now := w.validate_abridges slots data
  have then_ := w.resolve_abridges slots data
  exact ⟨now.eq_nil_iff, now, then_.eq_nil_iff, then_⟩

/-! ## Operations -/

/-- An operation that leaves the keywords as they are does the same on registries that differ in
    what they report. -/
theorem Operation.after_beside {operation : Operation} (fixed : operation.redefines = false)
    {r r' : Registry} (beside : r.Beside r') : (operation.after r).Beside (operation.after r') := by
  cases operation with
  | add document add => exact beside.after (Registry.addSchemaWith_abreast document add)
  | addAll documents => exact beside.after (Registry.addSchemas_abreast documents)
  | compile document => exact beside.after (Registry.compile_abreast document)
  | compileWith loader source fetcher document rounds =>
    have loads : Loading.Beside { registry := r, fetcher, source } { registry := r', fetcher, source } :=
      .intro beside fetcher source
    exact (loads.after (Loading.compile_abreast loader document rounds)).registry
  | get name => exact beside.after (Registry.getSchema_abreast name)
  | check document refuse => exact beside.after (Registry.validateSchema_abreast document refuse)
  | validate name data => exact beside.after (Registry.validate_abreast name data)
  | validateValue document data => exact beside.after (Registry.validateValue_abreast document data)
  | remove target => exact beside.after (Registry.removeSchema_abreast target)
  | addFormat name format => exact beside.after (Registry.addFormat_abreast name format)
  | addKeyword | addVocabulary | removeKeyword | removeVocabulary => cases fixed

namespace Registry

theorem run_beside {operations : List Operation}
    (fixed : ∀ operation ∈ operations, operation.redefines = false) {r r' : Registry}
    (beside : r.Beside r') : (r.run operations).Beside (r'.run operations) := by
  induction operations generalizing r r' with
  | nil => exact beside
  | cons operation rest ih =>
    exact ih (fun other mem => fixed other (List.mem_cons_of_mem _ mem))
      (Operation.after_beside (fixed operation List.mem_cons_self) beside)

/-- After the same operations with the built-in keywords, whether or not everything is to be found
    makes no difference to what compiles. The validators accept the same data, and the one that
    stops at the first violation leaves out some violations, but not the first one. -/
theorem run_stops_early (options : Options) (operations : List Operation)
    (fixed : ∀ operation ∈ operations, operation.redefines = false) (document : Document) :
    let r := (create { options with allErrors := false }).run operations
    let r' := (create { options with allErrors := true }).run operations
    (∃ v s v' s', compile document r = .ok v s ∧ compile document r' = .ok v' s' ∧
      ∀ data, v.Abridges s.store.slots v' s'.store.slots data) ∨
    ∃ e s e' s', compile document r = .error e s ∧ compile document r' = .error e' s' ∧
      e.Abridges e' := by
  intro r r'
  have beside : r.Beside r' := run_beside fixed (create_beside options)
  rcases (compile_abreast document).cases beside with
    ⟨v, s, v', s', run, run', validators, next⟩ | ⟨e, s, e', s', run, run', related, -⟩
  · refine .inl ⟨v, s, v', s', run, run', fun data => ?_⟩
    rw [← next.store_eq]
    exact validators.abridges s.store.slots data
  · exact .inr ⟨e, s, e', s', run, run', related⟩

/-- A document that asks for two members. -/
def requiring : Document where
  value := .object [("required", .array [.string "a", .string "b"])]
  identity := .given 0

/-- Nothing is known at first. -/
def unassuming : Options := { serialize := .disabled, installMeta := false }

theorem compiles_requiring : ∃ v s, compile requiring
    ((create { unassuming with allErrors := false }).run [.add requiring {}]) = .ok v s :=
  RegistryM.exists_ok_of_run' (by decide +kernel)

/-- The document compiles, whether or not everything is to be found. -/
theorem run_stops_early_requiring :
    ∃ v s v' s',
      compile requiring ((create { unassuming with allErrors := false }).run
        [.add requiring {}]) = .ok v s ∧
      compile requiring ((create { unassuming with allErrors := true }).run
        [.add requiring {}]) = .ok v' s' ∧
      ∀ data, v.Abridges s.store.slots v' s'.store.slots data := by
  rcases run_stops_early unassuming [.add requiring {}] (by decide) requiring with
    compiles | ⟨e, s, -, -, failed, -⟩
  · exact compiles
  · obtain ⟨v, t, compiled⟩ := compiles_requiring
    cases compiled.symm.trans failed

end Registry

end JsonSchema
