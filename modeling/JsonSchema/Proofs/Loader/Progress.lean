import JsonSchema.Proofs.Loader.Rounds
import JsonSchema.Proofs.Loader.Serving
import JsonSchema.Proofs.Registry.Failures
import JsonSchema.Proofs.Registry.Missing
import Mathlib.Data.List.Perm.Subperm

/-!
# Progress of a compilation with a loader

In each round that does not return, the document that was missing becomes known and stays known.
So no document is missing twice, and where the loader serves finitely many documents a round
returns in the end.

* `Loading.Round.progress`: what one round does.
* `Loading.Rounds`: rounds one after another, with what was missing in each.
* `Loading.Rounds.exists_final`: they come to an end.
* `Loading.compile_ends`: a compilation with a loader returns what its last round does.
-/

namespace JsonSchema

variable {σ : Type} {K : EntryId → Compiler → Prop}

namespace Loading

open LoadM (Gives)
open RegistryM (Undoes)
open Registry (Knows)

variable {S : Set String} {loader : Loader σ} {document : Document} {l l' l'' : Loading σ}

/-! ## Taking documents in -/

theorem onRegistry_gives {α : Type} {s : Store} {m : RegistryM α} {post : α → Registry → Prop}
    (undoes : Undoes K s l.registry m post) :
    Gives (onRegistry m : LoadM σ α) l fun a l' =>
      l'.registry.Good K ∧ l'.fetcher = l.fetcher ∧ post a l'.registry := by
  intro a l' ran
  unfold onRegistry EStateM.run at ran
  cases h : m l.registry with
  | ok b r =>
    rw [h] at ran
    cases ran
    obtain ⟨good, holds⟩ := undoes.of_ok h
    exact ⟨good, rfl, holds⟩
  | error e r =>
    rw [h] at ran
    cases ran

theorem eq_error_of_onRegistry {α : Type} {m : RegistryM α} {e : SchemaError}
    (failed : (onRegistry m : LoadM σ α) l = .error e l') :
    m l.registry = .error e l'.registry ∧ l'.fetcher = l.fetcher := by
  unfold onRegistry EStateM.run at failed
  cases h : m l.registry with
  | ok a r =>
    rw [h] at failed
    cases failed
  | error e r =>
    rw [h] at failed
    cases failed
    exact ⟨rfl, rfl⟩

/-- The registry is good, names are kept, and the fetcher serves no more than before. -/
structure Grows (K : EntryId → Compiler → Prop) (S : Set String) (l l' : Loading σ) : Prop where
  good : l'.registry.Good K
  names : l.registry.store.KeepsNames l'.registry.store
  serves : l'.fetcher.Serves S [] []

theorem Grows.refl (good : l.registry.Good K) (serves : l.fetcher.Serves S [] []) : Grows K S l l :=
  ⟨good, .refl _, serves⟩

theorem Grows.trans (h : Grows K S l l') (h' : Grows K S l' l'') : Grows K S l l'' :=
  ⟨h'.good, h.names.trans h'.names, h'.serves⟩

theorem Grows.knows (h : Grows K S l l') (good : l.registry.Good K) {name : String}
    (known : l.registry.Knows name) : l'.registry.Knows name :=
  (Registry.knows_iff h.good).2 (h.names _ ((Registry.knows_iff good).1 known))

theorem isKnown_gives (name : String) : Gives (isKnown name : LoadM σ Bool) l fun known l' =>
    l' = l ∧ (known = true ↔ l.registry.Knows name) := by
  rintro _ _ ⟨⟩
  exact ⟨rfl, Iff.rfl⟩

theorem Serving.grows (serving : Serving S [] [] l l') (good : l.registry.Good K) : Grows K S l l' where
  good := ⟨by rw [serving.idle.store]; exact good.settled,
    by rw [serving.idle.compiler]; exact good.current⟩
  names := by rw [serving.idle.store]; exact .refl _
  serves := serving.serves

/-- A document that is taken in under a name. -/
theorem addSchemaWith_gives (good : l.registry.Good K) (serves : l.fetcher.Serves S [] [])
    (loaded : Document) {name : String} (isMeta : Bool) :
    Gives (onRegistry (Registry.addSchemaWith loaded { key := some name, isMeta }) : LoadM σ EntryId) l
      fun _ l' => Grows K S l l' ∧
        ((normalizeId name).isEmpty = false → l'.registry.Knows name) := by
  refine (onRegistry_gives (Registry.addSchemaWith_undoes good loaded _)).imp
    fun _ l' ⟨good', same, keeps, names⟩ => ⟨⟨good', keeps, by rw [same]; exact serves⟩, fun named => ?_⟩
  exact (Registry.knows_iff good').2 (names name rfl named)

/-- Loading a document leaves the store. -/
theorem fetch_gives (only : loader.GivesOnly S) (good : l.registry.Good K)
    (serves : l.fetcher.Serves S [] []) (uri : String) :
    Gives (fetch loader uri) l fun _ l' => Grows K S l l' := by
  refine (fetchAll_gives only serves [uri]).bind fun results l₁ ⟨serving, _⟩ => ?_
  have grows : Grows K S l l₁ := serving.grows good
  split
  · exact .pure grows
  · exact .throw _
  · exact .throw _

/-- A document that is loaded is known under its address afterwards. -/
theorem addLoaded_gives (only : loader.GivesOnly S) (good : l.registry.Good K)
    (serves : l.fetcher.Serves S [] []) (uri : String) (loaded : Document) :
    Gives (addLoaded loader uri loaded) l fun _ l' =>
      Grows K S l l' ∧ ((normalizeId uri).isEmpty = false → l'.registry.Knows uri) := by
  have takeIn : ∀ l₁, Grows K S l l₁ → Gives (do
      let _ ← onRegistry (Registry.addSchema loaded (some uri))) l₁ fun _ l' =>
        Grows K S l l' ∧ ((normalizeId uri).isEmpty = false → l'.registry.Knows uri) := by
    intro l₁ grows
    exact (addSchemaWith_gives grows.good grows.serves loaded false).bind fun _ l₂ ⟨grows', named⟩ =>
      .pure ⟨grows.trans grows', named⟩
  refine (isKnown_gives uri).bind fun known l₁ ⟨same, known_iff⟩ => ?_
  subst same
  have start : Grows K S l₁ l₁ := .refl good serves
  cases known with
  | true => exact .pure ⟨start, fun _ => known_iff.1 rfl⟩
  | false =>
    simp only [Bool.false_eq_true, if_false]
    cases loaded.value.metaSchemaId? with
    | none => exact takeIn l₁ start
    | some metaId =>
      simp only
      refine (isKnown_gives metaId).bind fun metaKnown l₂ ⟨same, _⟩ => ?_
      subst same
      by_cases lacks : (decide (metaId ≠ uri) && !metaKnown) = true
      · rw [if_pos lacks]
        refine (fetch_gives only good serves metaId).bind fun metaSchema l₃ fetched => ?_
        refine (addSchemaWith_gives fetched.good fetched.serves metaSchema true).bind
          fun _ l₄ ⟨took, _⟩ => ?_
        exact takeIn l₄ (fetched.trans took)
      · rw [if_neg lacks]
        exact takeIn l₂ start

/-- What a document lacks is known once it was supplied. -/
theorem supply_gives (only : loader.GivesOnly S) (good : l.registry.Good K)
    (serves : l.fetcher.Serves S [] []) (value : Value) {missing : String}
    (named : (normalizeId missing).isEmpty = false) :
    Gives (supply loader value missing) l fun _ l' =>
      Grows K S l l' ∧ l'.registry.Knows missing ∧ missing ∈ S := by
  have others : Undoes K l.registry.store l.registry (Registry.missingDocuments value)
      fun _ r' => r' = l.registry := by
    refine .get_bind ((Undoes.lift good (.refl _) _).bind fun _ r₁ good₁ ⟨_, same⟩ => ?_)
    subst same
    refine (Undoes.lift good₁ (.refl _) _).bind fun _ r₂ good₂ ⟨_, same⟩ => ?_
    subst same
    exact .pure good₂ rfl
  refine (onRegistry_gives others).bind fun others l₁ ⟨good₁, fetcher₁, same⟩ => ?_
  have start : Grows K S l l₁ := ⟨good₁, by rw [same]; exact .refl _, by rw [fetcher₁]; exact serves⟩
  generalize wantedEq : (if others.contains missing then others else others ++ [missing]) = wanted
  have mem : missing ∈ wanted := by
    subst wantedEq
    split
    · next listed => exact List.contains_iff_mem.1 listed
    · exact List.mem_append_right _ List.mem_cons_self
  refine (fetchAll_gives only start.serves wanted).bind fun results l₂ ⟨serving, given⟩ => ?_
  have loaded : Grows K S l l₂ := start.trans (serving.grows good₁)
  -- As long as the missing document is not taken in, it is among those that are left.
  refine (Gives.forM (fun rest l' => rest ⊆ wanted.zip results ∧ Grows K S l l' ∧
      ((∃ result, (missing, result) ∈ rest) ∨ l'.registry.Knows missing ∧ missing ∈ S))
    ?_ _ ⟨fun _ h => h, loaded, .inl ?_⟩).imp fun _ l' ⟨_, grows, supplied⟩ => ⟨grows, ?_⟩
  · rintro ⟨uri, result⟩ rest l₃ ⟨among, grows, waits⟩
    have rest_among := (List.cons_subset.1 among).2
    cases result with
    | error e => exact .throw e
    | ok document =>
      refine (addLoaded_gives only grows.good grows.serves uri document).imp
        fun _ l₄ ⟨grows', known⟩ => ⟨rest_among, grows.trans grows', ?_⟩
      rcases waits with ⟨result, mem⟩ | ⟨known', mem⟩
      · rcases List.mem_cons.1 mem with same | mem
        · cases same
          exact .inr ⟨known named,
            List.forall₂_zip given (List.cons_subset.1 among).1 document rfl⟩
        · exact .inl ⟨result, mem⟩
      · exact .inr ⟨grows'.knows grows.good known', mem⟩
  · obtain ⟨i, lt, same⟩ := List.getElem_of_mem mem
    have lt' : i < results.length := by rw [← given.length_eq]; exact lt
    refine ⟨results.get ⟨i, lt'⟩, List.mem_iff_get.2 ⟨⟨i, ?_⟩, ?_⟩⟩
    · rw [List.length_zip]
      exact Nat.lt_min.2 ⟨lt, lt'⟩
    · rw [List.get_eq_getElem, List.getElem_zip, same, List.get_eq_getElem]
  · rcases supplied with ⟨result, mem⟩ | supplied
    · cases mem
    · exact supplied

/-! ## Rounds -/

/-- The document that is missing in a round was not known before, is known afterwards, and is one
    that the loader serves. -/
theorem Round.progress {missing : String} (round : Round loader document l missing l')
    (only : loader.GivesOnly S) (good : l.registry.Good K) (serves : l.fetcher.Serves S [] []) :
    Grows K S l l' ∧ ¬ l.registry.Knows missing ∧ l'.registry.Knows missing ∧ missing ∈ S := by
  obtain ⟨reference, l₁, lacks, named, unknown, supplied⟩ := round
  obtain ⟨failed, fetcher₁⟩ := eq_error_of_onRegistry lacks
  obtain ⟨good₁, spares⟩ := (Registry.compile_undoes good document).of_error failed
  have part := Registry.compile_raises document _ _ _ failed reference missing rfl
  have named : (normalizeId missing).isEmpty = false := by
    rw [part] at named ⊢
    exact normalizeId_documentPart_isEmpty named
  have start : Grows K S l l₁ := ⟨good₁, spares.keepsNames, by rw [fetcher₁]; exact serves⟩
  obtain ⟨grows, known, mem⟩ := supply_gives only good₁ start.serves document.value named _ _ supplied
  refine ⟨start.trans grows, fun known => ?_, known, mem⟩
  have known := start.knows good known
  rw [Knows, unknown] at known
  cases known

/-- Rounds one after another, with the document that is missing in each. -/
inductive Rounds (loader : Loader σ) (document : Document) :
    Loading σ → List String → Loading σ → Prop
  | nil (l : Loading σ) : Rounds loader document l [] l
  | cons {l l' l'' : Loading σ} {missing : String} {names : List String}
      (round : Round loader document l missing l') (rest : Rounds loader document l' names l'') :
      Rounds loader document l (missing :: names) l''

theorem Rounds.snoc {missing : String} {names : List String}
    (rounds : Rounds loader document l names l') (round : Round loader document l' missing l'') :
    Rounds loader document l (names ++ [missing]) l'' := by
  induction rounds with
  | nil l => exact .cons round (.nil _)
  | cons first _ ih => exact .cons first (ih round)

/-- No document is missing twice. -/
theorem Rounds.progress {names : List String} (rounds : Rounds loader document l names l')
    (only : loader.GivesOnly S) (good : l.registry.Good K) (serves : l.fetcher.Serves S [] []) :
    Grows K S l l' ∧ names.Nodup ∧
      ∀ name ∈ names, ¬ l.registry.Knows name ∧ l'.registry.Knows name ∧ name ∈ S := by
  induction rounds with
  | nil l => exact ⟨.refl good serves, .nil, nofun⟩
  | cons round rest ih =>
    obtain ⟨grows, unknown, known, mem⟩ := round.progress only good serves
    obtain ⟨grows', nodup, others⟩ := ih grows.good grows.serves
    refine ⟨grows.trans grows', List.nodup_cons.2 ⟨fun again => ?_, nodup⟩, fun name mem' => ?_⟩
    · exact (others _ again).1 known
    · rcases List.mem_cons.1 mem' with rfl | mem'
      · exact ⟨unknown, grows'.knows grows.good known, mem⟩
      · obtain ⟨unknown', known', mem'⟩ := others name mem'
        exact ⟨fun known => unknown' (grows.knows good known), known', mem'⟩

/-- Where the loader serves finitely many documents, a round returns in the end. -/
theorem Rounds.exists_final (only : loader.GivesOnly S) (good : l.registry.Good K)
    (serves : l.fetcher.Serves S [] []) {served : List String} (finite : ∀ uri ∈ S, uri ∈ served) :
    ∃ names l' result, Rounds loader document l names l' ∧ Final loader document l' result := by
  by_contra endless
  have goesOn : ∀ n, ∃ names l', Rounds loader document l names l' ∧ names.length = n := by
    intro n
    induction n with
    | zero => exact ⟨[], l, .nil l, rfl⟩
    | succ n ih =>
      obtain ⟨names, l', rounds, length⟩ := ih
      rcases compile_cases loader document l' with ⟨result, final⟩ | ⟨missing, l'', round⟩
      · exact absurd ⟨names, l', result, rounds, final⟩ endless
      · exact ⟨names ++ [missing], l'', rounds.snoc round, by rw [List.length_append, length]; rfl⟩
  obtain ⟨names, l', rounds, length⟩ := goesOn (served.length + 1)
  obtain ⟨-, nodup, each⟩ := rounds.progress only good serves
  have bound := (List.subperm_of_subset nodup fun name mem =>
    finite name (each name mem).2.2).length_le
  rw [length] at bound
  exact absurd bound (Nat.not_succ_le_self _)

/-- What follows on several rounds is what the rest of the compilation gives. -/
theorem Rounds.compile {names : List String} (rounds : Rounds loader document l names l')
    (more : Nat) :
    compile loader document (names.length + more) l = compile loader document more l' := by
  induction rounds with
  | nil l => rw [List.length_nil, Nat.zero_add]
  | cons round rest ih =>
    rw [List.length_cons, Nat.add_right_comm, compile_of_round round]
    exact ih

/-- After any operations, whatever the loader and the fetcher: the document that is missing in a
    round was not known before it and is known in every later round, so no document is missing
    twice. What a known document lacks is said at once. And if the loader serves finitely many
    addresses, there are finitely many rounds, and the compilation returns what the last one
    does. -/
theorem compile_ends (options : Options) (operations : List Operation) (loader : Loader σ)
    (source : σ) (fetcher : Fetcher) (document : Document) :
    let l : Loading σ := { registry := (Registry.create options).run operations, fetcher, source }
    (∀ names l', Rounds loader document l names l' → names.Nodup ∧
      (∀ missing l'', Round loader document l' missing l'' →
        ¬ l'.registry.Knows missing ∧
          ∀ more l₃, Rounds loader document l'' more l₃ → l₃.registry.Knows missing) ∧
      ∀ reference missing l'',
        onRegistry (Registry.compile document) l' = .error (.missing reference missing) l'' →
        missing.isEmpty = true ∨ l'.registry.Knows missing →
        ∀ more, compile loader document (names.length + more) l =
          .error (.missing reference missing) l'') ∧
    ∀ served : List String, loader.GivesOnly {uri | uri ∈ served} →
      ∃ names l' result, Rounds loader document l names l' ∧ Final loader document l' result ∧
        ∀ more, compile loader document (names.length + 1 + more) l = result := by
  intro l
  have good : l.registry.Good fun _ _ => True := Registry.reached_good options operations
  refine ⟨fun names l' rounds => ?_, fun served only => ?_⟩
  · have only : loader.GivesOnly Set.univ := fun _ _ _ _ => trivial
    have serves : l.fetcher.Serves Set.univ [] [] := Fetcher.serves_shared fun _ _ => trivial
    obtain ⟨grows, nodup, -⟩ := rounds.progress only good serves
    refine ⟨nodup, fun missing l'' round => ?_, fun reference missing l'' lacks known more => ?_⟩
    · obtain ⟨grows', unknown, known, -⟩ := round.progress only grows.good grows.serves
      refine ⟨unknown, fun more l₃ rest => ?_⟩
      exact (rest.progress only grows'.good grows'.serves).1.knows grows'.good known
    · rw [rounds.compile]
      cases more with
      | zero => exact lacks
      | succ more =>
        obtain ⟨good'', spares⟩ :=
          (Registry.compile_undoes grows.good document).of_error (eq_error_of_onRegistry lacks).1
        refine compile_of_lacksPart lacks (known.imp_right fun known => ?_)
        exact (Registry.knows_iff good'').2
          (spares.keepsNames _ ((Registry.knows_iff grows.good).1 known))
  · have only : loader.GivesOnly {uri | uri ∈ served ++ fetcher.shared.map (·.1)} :=
      fun uri source value given => List.mem_append_left _ (only uri source value given)
    have serves : l.fetcher.Serves {uri | uri ∈ served ++ fetcher.shared.map (·.1)} [] [] :=
      Fetcher.serves_shared fun b mem => List.mem_append_right _ (List.mem_map_of_mem mem)
    obtain ⟨names, l', result, rounds, final⟩ :=
      Rounds.exists_final only good serves fun _ mem => mem
    refine ⟨names, l', result, rounds, final, fun more => ?_⟩
    rw [Nat.add_assoc, Nat.add_comm 1 more, rounds.compile, compile_of_final final]

end Loading

end JsonSchema
