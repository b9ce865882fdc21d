import JsonSchema.Proofs.Compilation.Failing
import Mathlib.Data.Set.Basic

/-!
# The options that keywords are compiled under

A keyword is compiled under the options for meta-schemas exactly while a meta-schema is being
compiled, be it the one with the keyword or one that led there.

* `Compiler.watchedCompile`: a compilation with something done before and after every keyword.
* `Compiler.Always`: what holds at every keyword, so that nothing is done where it does not hold.
* `Compiler.always_agrees`: the options agree with the entries that are being compiled.
* `Compiler.always_shielded`: the keywords of what is a meta-schema in the end.
-/

namespace JsonSchema

namespace Compiler

/-! ## Watching -/

section Watch

variable (compiler : Compiler) (watch : Occurrence → CompileM Unit)

/-- Compiles a keyword, with something done before and after. -/
def watchedRule (schema : SchemaCompiler) (o : Occurrence) : CompileM (Option (Rule Check)) := do
  watch o
  let rule? ← compiler.rule? schema o
  watch o
  return rule?

/-- Compiles a schema, with something done before and after every keyword. -/
def watchedSchema : Nat → SchemaCompiler
  | 0, _, place => throw (.malformed (.nestingAt place.schemaPath))
  | fuel + 1, value, place =>
    compiler.nodeWith (compiler.rulesWith (compiler.watchedRule watch (watchedSchema fuel)))
      (entry (watchedSchema fuel)) value place

/-- Compiles an entry, with something done before and after every keyword. -/
def watchedCompile (id : EntryId) (store : Store) : Except SchemaError Unit × Store × List Event :=
  match (entry (compiler.watchedSchema watch (depthOf store)) id false).run { store } with
  | .ok _ c => (.ok (), c.store, c.events)
  | .error e c => (.error e, rollback id c, c.events)

/-- If nothing is done, schemas are compiled as always. -/
theorem watchedSchema_nothing (fuel : Nat) :
    compiler.watchedSchema (fun _ => pure ()) fuel = compiler.schema fuel := by
  induction fuel with
  | zero => rfl
  | succ fuel ih =>
    have rule : compiler.watchedRule (fun _ => pure ()) (compiler.schema fuel) =
        compiler.rule? (compiler.schema fuel) := by
      funext o
      simp only [watchedRule, pure_bind, bind_pure]
    funext value place
    rw [watchedSchema, ih, rule, rulesWith_rule?]
    rfl

/-- If nothing is done, this is a compilation. -/
theorem watchedCompile_nothing (id : EntryId) (store : Store) :
    compiler.watchedCompile (fun _ => pure ()) id store = compiler.compile id store := by
  rw [watchedCompile, watchedSchema_nothing]
  rfl

/-- Something holds before and after every keyword that is compiled: whatever is done where it does
    not hold, a failure with an error of one's own choice among it, makes no difference. -/
def Always (id : EntryId) (store : Store) (P : Occurrence → Compilation → Prop) : Prop :=
  ∀ watch : Occurrence → CompileM Unit, (∀ o c, P o c → watch o c = .ok () c) →
    compiler.watchedCompile watch id store = compiler.compile id store

end Watch

/-- References are followed by related functions to related results. -/
theorem reference_related {R : (α : Type) → CompileM α → CompileM α → Prop}
    (congruent : CompileM.Congruent R) {begin begin' : EntryId → Bool → CompileM Unit}
    {value : Value} {place : Place}
    (resolves : ∀ text, R _ (resolve place.entry place.base text) (resolve place.entry place.base text))
    (begins : ∀ id, R Unit (begin id place.underMeta) (begin' id place.underMeta)) :
    R Node (reference begin value place) (reference begin' value place) := by
  cases value with
  | string text =>
    rw [reference_eq, reference_eq]
    refine congruent.bind (resolves text) fun found => congruent.bind (begins _) fun _ => ?_
    refine congruent.bind congruent.get fun c => ?_
    dsimp only
    split
    · exact congruent.bind (congruent.throw rfl) fun _ => congruent.pure _
    · exact congruent.pure _
  | _ => exact congruent.throw rfl

end Compiler

/-- The schemas that a keyword compiles are compiled while the same meta-schemas are. -/
theorem Occurrence.Applies.underMeta_eq {o : Occurrence} {keyword : String} {steps : List String}
    {part : Value} {inner : Place} (applies : o.Applies keyword steps part inner) :
    inner.underMeta = o.place.underMeta := by
  cases applies <;> rfl

/-! ## Meta-schemas that are being compiled -/

namespace Compilation

variable {c c' : Compilation} {id : EntryId} {e : Entry}

/-- The meta-schemas that are being compiled. -/
def metas (c : Compilation) : Set EntryId :=
  {id | ∃ e, c.store.entry? id = some e ∧ e.isMeta = true ∧ e.progress.isPending = true}

theorem Looks.metas_eq (looks : Looks c c') : c'.metas = c.metas := by
  ext id
  constructor
  · rintro ⟨e', found', meta', pending⟩
    rcases looks.adds id e' found' with ⟨e, found⟩ | idle
    · obtain ⟨f, foundF, reset, -, same⟩ := looks.stays id e found
      cases found'.symm.trans foundF
      exact ⟨e, found, (congrArg Entry.isMeta reset.symm :).trans meta', same.symm.trans pending⟩
    · rw [Progress.isStarted_of_isPending pending] at idle
      cases idle
  · rintro ⟨e, found, meta', pending⟩
    obtain ⟨e', found', reset, -, same⟩ := looks.stays id e found
    exact ⟨e', found', (congrArg Entry.isMeta reset :).trans meta', same.trans pending⟩

/-- An entry that is begun is one more that is being compiled. -/
theorem mem_metas_begun (found : c.store.entry? id = some e) {j : EntryId} :
    j ∈ (Compiler.begun c id).metas ↔ if j = id then e.isMeta = true else j ∈ c.metas := by
  show (∃ e', Store.entry? (c.store.modify id Entry.begin) j = some e' ∧ _) ↔ _
  split
  · next same =>
    subst same
    rw [Store.entry?_modify_self, found]
    exact ⟨fun ⟨_, same, isMeta, _⟩ => by cases same; exact isMeta, fun isMeta => ⟨_, rfl, isMeta, rfl⟩⟩
  · next other =>
    rw [Store.entry?_modify_of_ne other]
    rfl

/-- An entry that is finished is no longer being compiled. -/
theorem mem_metas_finished {node : Node} {j : EntryId} :
    j ∈ (Compiler.finished c id node).metas ↔ j ≠ id ∧ j ∈ c.metas := by
  show (∃ e', Store.entry? (c.store.modify id (·.finish node)) j = some e' ∧ _) ↔ _
  by_cases same : j = id
  · subst same
    rw [Store.entry?_modify_self]
    refine iff_of_false ?_ fun other => other.1 rfl
    rintro ⟨e', found', -, pending⟩
    obtain ⟨e, -, rfl⟩ := Option.map_eq_some_iff.1 found'
    cases pending
  · rw [Store.entry?_modify_of_ne same]
    exact (and_iff_right same).symm

theorem not_mem_metas (found : c.store.entry? id = some e) (idle : e.progress.isStarted = false) :
    id ∉ c.metas := by
  rintro ⟨e', found', -, pending⟩
  cases found.symm.trans found'
  rw [Progress.isStarted_of_isPending pending] at idle
  cases idle

/-- An entry that was begun and is finished makes no difference. -/
theorem metas_finished_of_begun (found : c.store.entry? id = some e)
    (idle : e.progress.isStarted = false) (kept : c'.metas = (Compiler.begun c id).metas)
    (node : Node) : (Compiler.finished c' id node).metas = c.metas := by
  have out := not_mem_metas found idle
  ext j
  rw [mem_metas_finished, kept, mem_metas_begun found]
  by_cases same : j = id
  · subst same
    exact iff_of_false (fun h => h.1 rfl) out
  · rw [if_neg same]
    exact and_iff_right same

end Compilation

/-! ## The options agree -/

/-- While the meta-schemas that are being compiled are as given, two steps do the same, and if they
    succeed they leave it so. -/
def CompileM.Agrees (metas : Set EntryId) (α : Type) (m m' : CompileM α) : Prop :=
  ∀ c : Compilation, c.metas = metas → m' c = m c ∧ ∀ a c', m c = .ok a c' → c'.metas = metas

namespace CompileM.Agrees

variable {metas : Set EntryId} {α β : Type}

/-- A step that leaves the store alone. -/
theorem of_store {m : CompileM α} (same : ∀ c a c', m c = .ok a c' → c'.store = c.store) :
    Agrees metas α m m := by
  rintro c rfl
  refine ⟨rfl, fun a c' ran => ?_⟩
  rw [Compilation.metas, same c a c' ran]
  rfl

theorem bind {m m' : CompileM α} {f f' : α → CompileM β} (first : Agrees metas α m m')
    (second : ∀ a, Agrees metas β (f a) (f' a)) : Agrees metas β (m >>= f) (m' >>= f') := by
  intro c same
  obtain ⟨eq, kept⟩ := first c same
  show EStateM.bind m' f' c = EStateM.bind m f c ∧ ∀ b c', EStateM.bind m f c = .ok b c' → _
  unfold EStateM.bind
  rw [eq]
  cases ran : m c with
  | ok a c₁ => exact second a c₁ (kept a c₁ ran)
  | error e c₁ => exact ⟨rfl, fun _ _ ran => by cases ran⟩

theorem congruent (metas : Set EntryId) : Congruent (Agrees metas) where
  pure a := of_store fun c b c' ran => by cases ran; rfl
  throw _ := of_store fun c b c' ran => by cases ran
  get := of_store fun c b c' ran => by cases ran; rfl
  trace events := of_store fun c b c' ran => by cases ran; rfl
  bind := bind

end CompileM.Agrees

namespace Compiler

open CompileM (Agrees)

variable {compiler : Compiler} {watch : Occurrence → CompileM Unit}

theorem resolve_agrees (metas : Set EntryId) (source : EntryId) (base text : String) :
    Agrees metas _ (resolve source base text) (resolve source base text) := by
  rintro c rfl
  refine ⟨rfl, fun found c' ran => ?_⟩
  rcases resolve_looks source base text c with ⟨-, run⟩ | ⟨target, c₁, run, looks⟩
  · rw [run] at ran
    cases ran
  · rw [run] at ran
    cases ran
    exact looks.metas_eq

theorem entry_agrees {schema schema' : SchemaCompiler}
    (schemas : ∀ metas value place, (place.underMeta = true ↔ metas.Nonempty) →
      Agrees metas Node (schema value place) (schema' value place))
    {metas : Set EntryId} {underMeta : Bool} (under : underMeta = true ↔ metas.Nonempty)
    (id : EntryId) : Agrees metas Unit (entry schema id underMeta) (entry schema' id underMeta) := by
  rintro c rfl
  rw [entry_run, entry_run]
  cases found : c.store.entry? id with
  | none => exact ⟨rfl, fun _ _ ran => by cases ran⟩
  | some e =>
    dsimp only
    split
    · exact ⟨rfl, fun _ _ ran => by cases ran; rfl⟩
    · next idle =>
      have idle : e.progress.isStarted = false := Bool.eq_false_iff.2 idle
      have out := Compilation.not_mem_metas found idle
      have within : (e.place id underMeta).underMeta = true ↔ (begun c id).metas.Nonempty := by
        show (underMeta || e.isMeta) = true ↔ _
        rw [Bool.or_eq_true, under]
        constructor
        · rintro (⟨j, mem⟩ | isMeta)
          · refine ⟨j, (Compilation.mem_metas_begun found).2 ?_⟩
            rw [if_neg fun same : j = id => out (same ▸ mem)]
            exact mem
          · exact ⟨id, (Compilation.mem_metas_begun found).2 (by rw [if_pos rfl]; exact isMeta)⟩
        · rintro ⟨j, mem⟩
          have mem := (Compilation.mem_metas_begun found).1 mem
          split at mem
          · exact .inr mem
          · exact .inl ⟨j, mem⟩
      obtain ⟨eq, kept⟩ := schemas _ e.document (e.place id underMeta) within (begun c id) rfl
      rw [eq]
      cases run : schema e.document (e.place id underMeta) (begun c id) with
      | error error d => exact ⟨rfl, fun _ _ ran => by cases ran⟩
      | ok node d =>
        refine ⟨rfl, fun _ _ ran => ?_⟩
        cases ran
        exact Compilation.metas_finished_of_begun found idle (kept node d run) node

/-- The options at a keyword are those for meta-schemas exactly if one is being compiled. -/
def OptionsAgree (compiler : Compiler) (o : Occurrence) (c : Compilation) : Prop :=
  (c.metas.Nonempty → compiler.optionsAt o.place = compiler.options.forMeta) ∧
    (c.metas = ∅ → compiler.optionsAt o.place = compiler.options)

theorem watchedRule_agrees {metas : Set EntryId}
    (silent : ∀ o c, compiler.OptionsAgree o c → watch o c = .ok () c)
    {schema schema' : SchemaCompiler} {o : Occurrence}
    (under : o.place.underMeta = true ↔ metas.Nonempty)
    (relates : o.Relates (Agrees metas) schema schema') :
    Agrees metas _ (compiler.rule? schema o) (compiler.watchedRule watch schema' o) := by
  have quiet : ∀ c : Compilation, c.metas = metas → watch o c = .ok () c := by
    rintro c rfl
    refine silent o c ⟨fun some_ => ?_, fun none_ => ?_⟩
    · rw [optionsAt, if_pos (under.2 some_)]
    · rw [optionsAt, if_neg fun isUnder => Set.not_nonempty_empty (none_ ▸ under.1 isUnder)]
  intro c same
  obtain ⟨eq, kept⟩ := rule?_related (Agrees.congruent metas) relates compiler c same
  refine ⟨?_, kept⟩
  show EStateM.bind (watch o) _ c = _
  rw [EStateM.bind, quiet c same]
  show EStateM.bind (compiler.rule? schema' o) _ c = _
  rw [EStateM.bind, eq]
  cases ran : compiler.rule? schema o c with
  | error e d => rfl
  | ok rule? d =>
    show EStateM.bind (watch o) _ d = _
    rw [EStateM.bind, quiet d (kept rule? d ran)]
    rfl

theorem schema_agrees (silent : ∀ o c, compiler.OptionsAgree o c → watch o c = .ok () c) (fuel : Nat)
    (metas : Set EntryId) (value : Value) (place : Place)
    (under : place.underMeta = true ↔ metas.Nonempty) :
    Agrees metas Node (compiler.schema fuel value place) (compiler.watchedSchema watch fuel value place) := by
  induction fuel generalizing metas value place with
  | zero => exact Agrees.of_store fun _ _ _ ran => by cases ran
  | succ fuel ih =>
    refine nodeWith_related (Agrees.congruent metas) compiler (fun members _ => ?_)
      fun members text _ _ => ?_
    · refine rulesWith_related (Agrees.congruent metas) compiler fun o mem => ?_
      have at_ := place_of_mem_occurrences mem
      refine watchedRule_agrees silent (by rw [at_]; exact under) ?_
      intro keyword steps part inner applies
      exact ih metas part inner (by rw [applies.underMeta_eq, at_]; exact under)
    · exact reference_related (Agrees.congruent metas) (fun _ => resolve_agrees metas _ _ _)
        fun id => entry_agrees ih under id

/-- Between compilations nothing is being compiled; so at every keyword the options are those for
    meta-schemas exactly if a meta-schema is being compiled. -/
theorem always_agrees {s : Store}
    (idle : ∀ id e, s.entry? id = some e → e.progress.isPending = false) (id : EntryId) :
    compiler.Always id s compiler.OptionsAgree := by
  intro watch silent
  have none_ : ({ store := s } : Compilation).metas = ∅ := by
    refine Set.eq_empty_iff_forall_notMem.2 ?_
    rintro j ⟨e, found, -, pending⟩
    rw [idle j e found] at pending
    cases pending
  have under : false = true ↔ (∅ : Set EntryId).Nonempty :=
    iff_of_false Bool.false_ne_true Set.not_nonempty_empty
  have agrees := entry_agrees (schema_agrees silent (depthOf s)) under id
  have same : (entry (compiler.watchedSchema watch (depthOf s)) id false).run { store := s } =
      (entry (compiler.schema (depthOf s)) id false).run { store := s } :=
    (agrees { store := s } none_).1
  unfold watchedCompile compile
  cases run : (entry (compiler.schema (depthOf s)) id false).run { store := s } with
  | ok u c => simp only [same, run]
  | error e c => simp only [same, run]

end Compiler

/-! ## The keywords of meta-schemas -/

namespace Compilation

/-- Entries stay, and stay meta-schemas or not. -/
def KeepsMeta (c c' : Compilation) : Prop :=
  ∀ id e, c.store.entry? id = some e → ∃ e', c'.store.entry? id = some e' ∧ e'.isMeta = e.isMeta

variable {asked : String → Prop} {c c' c'' : Compilation} {id : EntryId}

theorem KeepsMeta.refl (c : Compilation) : KeepsMeta c c := fun _ e found => ⟨e, found, rfl⟩

theorem KeepsMeta.trans (h : KeepsMeta c c') (h' : KeepsMeta c' c'') : KeepsMeta c c'' := by
  intro id e found
  obtain ⟨e', found', same⟩ := h id e found
  obtain ⟨e'', found'', same'⟩ := h' id e' found'
  exact ⟨e'', found'', same'.trans same⟩

theorem Looks.keepsMeta (looks : Looks c c') : KeepsMeta c c' := by
  intro id e found
  obtain ⟨e', found', reset, -⟩ := looks.stays id e found
  exact ⟨e', found', (congrArg Entry.isMeta reset :)⟩

theorem keepsMeta_modify (c : Compilation) (id : EntryId) {change : Entry → Entry}
    (keep : ∀ e, (change e).reset = e.reset) (started : List EntryId) :
    KeepsMeta c { c with store := c.store.modify id change, started } := by
  intro j e found
  by_cases same : j = id
  · subst same
    exact ⟨change e, by rw [Store.entry?_modify_self, found]; rfl, (congrArg Entry.isMeta (keep e) :)⟩
  · exact ⟨e, by rw [Store.entry?_modify_of_ne same]; exact found, rfl⟩

theorem Moves.keepsMeta (moves : Moves asked c c') : KeepsMeta c c' := by
  induction moves with
  | refl => exact .refl c
  | @tail c₁ c₂ _ move ih =>
    refine ih.trans ?_
    cases move with
    | trace => exact fun _ e found => ⟨e, found, rfl⟩
    | cut => exact (Looks.fragment c₁ _ _ _ _ _).keepsMeta
    | remember _ reference target => exact (Looks.remember c₁ _ reference target).keepsMeta
    | begin => exact keepsMeta_modify c₁ _ (fun e => e.begin_reset) _
    | finish _ node => exact keepsMeta_modify c₁ _ (fun e => e.finish_reset node) _

/-- The entry, if there is one, is a meta-schema. -/
def OnlyMeta (id : EntryId) (c : Compilation) : Prop :=
  ∀ e, c.store.entry? id = some e → e.isMeta = true

/-- What is a meta-schema in the end was one before. -/
theorem OnlyMeta.before (keeps : KeepsMeta c c') (only : OnlyMeta id c') : OnlyMeta id c := by
  intro e found
  obtain ⟨e', found', same⟩ := keeps id e found
  exact same.symm.trans (only e' found')

end Compilation

open Compilation (KeepsMeta OnlyMeta)

/-- A step that succeeds keeps the meta-schemas; and if the entry is a meta-schema in the end, the
    other step does the same. -/
def CompileM.Shielded (id : EntryId) (α : Type) (m m' : CompileM α) : Prop :=
  ∀ (c : Compilation) (a : α) (c' : Compilation), m c = .ok a c' →
    KeepsMeta c c' ∧ (OnlyMeta id c' → m' c = .ok a c')

namespace CompileM.Shielded

variable {id : EntryId} {α β : Type}

theorem of_keeps {m : CompileM α} (keeps : ∀ c a c', m c = .ok a c' → KeepsMeta c c') :
    Shielded id α m m := fun c a c' ran => ⟨keeps c a c' ran, fun _ => ran⟩

theorem bind {m m' : CompileM α} {f f' : α → CompileM β} (first : Shielded id α m m')
    (second : ∀ a, Shielded id β (f a) (f' a)) : Shielded id β (m >>= f) (m' >>= f') := by
  intro c b c' ran
  change EStateM.bind m f c = _ at ran
  show _ ∧ (_ → EStateM.bind m' f' c = _)
  unfold EStateM.bind at ran ⊢
  cases ran₁ : m c with
  | error e c₁ =>
    rw [ran₁] at ran
    cases ran
  | ok a c₁ =>
    rw [ran₁] at ran
    obtain ⟨keeps, same⟩ := first c a c₁ ran₁
    obtain ⟨keeps', same'⟩ := second a c₁ b c' ran
    refine ⟨keeps.trans keeps', fun only => ?_⟩
    rw [same (only.before keeps')]
    exact same' only

theorem congruent (id : EntryId) : Congruent (Shielded id) where
  pure a := of_keeps fun c b c' ran => by cases ran; exact .refl c
  throw _ := of_keeps fun c b c' ran => by cases ran
  get := of_keeps fun c b c' ran => by cases ran; exact .refl c
  trace events := of_keeps fun c b c' ran => by cases ran; exact fun _ e found => ⟨e, found, rfl⟩
  bind := bind

end CompileM.Shielded

namespace Compiler

open CompileM (Shielded)

variable {compiler : Compiler} {watch : Occurrence → CompileM Unit} {id : EntryId}

theorem entry_shielded {schema schema' : SchemaCompiler}
    (keeps : ∀ value place c a c', place.entry ∈ c.started → schema value place c = .ok a c' →
      KeepsMeta c c')
    (schemas : ∀ value place, (place.entry = id → place.underMeta = true) →
      Shielded id Node (schema value place) (schema' value place)) (j : EntryId) (underMeta : Bool) :
    Shielded id Unit (entry schema j underMeta) (entry schema' j underMeta) := by
  intro c a c' ran
  rw [entry_run] at ran ⊢
  cases found : c.store.entry? j with
  | none =>
    rw [found] at ran
    cases ran
  | some e =>
    rw [found] at ran
    dsimp only at ran ⊢
    split at ran
    · next started =>
      cases ran
      exact ⟨.refl c, fun _ => by rw [if_pos started]⟩
    · next idle =>
      rw [if_neg idle]
      cases run : schema e.document (e.place j underMeta) (begun c j) with
      | error error d =>
        rw [run] at ran
        cases ran
      | ok node d =>
        rw [run] at ran
        cases ran
        have first : KeepsMeta c (begun c j) :=
          Compilation.keepsMeta_modify c j (fun e => e.begin_reset) _
        have inner := keeps _ (e.place j underMeta) _ _ _ List.mem_cons_self run
        have last : KeepsMeta d (finished d j node) :=
          Compilation.keepsMeta_modify d j (fun e => e.finish_reset node) _
        refine ⟨first.trans (inner.trans last), fun only => ?_⟩
        have isMeta : j = id → e.isMeta = true := by
          rintro rfl
          exact (only.before (first.trans (inner.trans last))) e found
        have under : (e.place j underMeta).entry = id → (e.place j underMeta).underMeta = true :=
          fun same => by
            show (underMeta || e.isMeta) = true
            rw [isMeta same, Bool.or_true]
        have same := (schemas _ _ under _ _ _ run).2 (only.before last)
        rw [same]

theorem resolve_keepsMeta (source : EntryId) (base text : String) (c : Compilation)
    (found : EntryId × String) (c' : Compilation) (ran : resolve source base text c = .ok found c') :
    KeepsMeta c c' := by
  rcases resolve_looks source base text c with ⟨-, run⟩ | ⟨target, c₁, run, looks⟩
  · rw [run] at ran
    cases ran
  · rw [run] at ran
    cases ran
    exact looks.keepsMeta

theorem watchedRule_shielded
    (silent : ∀ o c, (o.place.entry = id → compiler.optionsAt o.place = compiler.options.forMeta) →
      watch o c = .ok () c)
    {schema schema' : SchemaCompiler} {o : Occurrence}
    (under : o.place.entry = id → o.place.underMeta = true)
    (relates : o.Relates (Shielded id) schema schema') :
    Shielded id _ (compiler.rule? schema o) (compiler.watchedRule watch schema' o) := by
  have quiet (c : Compilation) : watch o c = .ok () c :=
    silent o c fun same => by rw [optionsAt, if_pos (under same)]
  intro c rule? c' ran
  obtain ⟨keeps, same⟩ := rule?_related (Shielded.congruent id) relates compiler c rule? c' ran
  refine ⟨keeps, fun only => ?_⟩
  show EStateM.bind (watch o) _ c = _
  rw [EStateM.bind, quiet c]
  show EStateM.bind (compiler.rule? schema' o) _ c = _
  rw [EStateM.bind, same only]
  show EStateM.bind (watch o) _ c' = _
  rw [EStateM.bind, quiet c']
  rfl

theorem schema_keepsMeta (fuel : Nat) (value : Value) (place : Place) (c : Compilation) (node : Node)
    (c' : Compilation) (begun : place.entry ∈ c.started)
    (ran : compiler.schema fuel value place c = .ok node c') : KeepsMeta c c' :=
  (schema_travels (Hears.all compiler) fuel value place trivial c c' begun trivial
    (.inl ⟨node, ran⟩)).keepsMeta

theorem schema_shielded
    (silent : ∀ o c, (o.place.entry = id → compiler.optionsAt o.place = compiler.options.forMeta) →
      watch o c = .ok () c)
    (fuel : Nat) (value : Value) (place : Place) (under : place.entry = id → place.underMeta = true) :
    Shielded id Node (compiler.schema fuel value place)
      (compiler.watchedSchema watch fuel value place) := by
  induction fuel generalizing value place with
  | zero => exact fun c node c' ran => by cases ran
  | succ fuel ih =>
    refine nodeWith_related (Shielded.congruent id) compiler (fun members _ => ?_)
      fun members text _ _ => ?_
    · refine rulesWith_related (Shielded.congruent id) compiler fun o mem => ?_
      have at_ := place_of_mem_occurrences mem
      refine watchedRule_shielded silent (by rw [at_]; exact under) ?_
      intro keyword steps part inner applies
      refine ih part inner ?_
      rw [applies.entry_eq, applies.underMeta_eq, at_]
      exact under
    · exact reference_related (Shielded.congruent id)
        (fun text => .of_keeps (resolve_keepsMeta _ _ text))
        fun j => entry_shielded (schema_keepsMeta fuel) ih j _

/-- After a compilation that succeeded, the keywords of an entry that is a meta-schema were compiled
    under the options for meta-schemas. -/
theorem always_shielded {s : Store} {root : EntryId}
    (ok : (compiler.compile root s).1 = .ok ()) {e : Entry}
    (found : Store.entry? (compiler.compile root s).2.1 id = some e) (isMeta : e.isMeta = true) :
    compiler.Always root s fun o _ =>
      o.place.entry = id → compiler.optionsAt o.place = compiler.options.forMeta := by
  intro watch silent
  rw [compile] at ok found
  rw [watchedCompile, compile]
  unfold EStateM.run at ok found ⊢
  cases run : entry (compiler.schema (depthOf s)) root false { store := s } with
  | error error c =>
    rw [run] at ok
    cases ok
  | ok u c =>
    rw [run] at found
    have only : OnlyMeta id c := fun e' found' => by
      cases found'.symm.trans found
      exact isMeta
    rw [(entry_shielded (schema_keepsMeta _) (schema_shielded silent _) root false _ _ _ run).2 only]

end Compiler

end JsonSchema
