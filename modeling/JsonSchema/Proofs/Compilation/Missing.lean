import JsonSchema.Proofs.Compilation.Parts

/-!
# How compilations fail

A compilation that fails for want of a document names the document part of the reference that it
could not resolve. Nothing but the resolution of a reference says that something is missing, and no
compilation refuses a document.

* `Raises`: the rule by which operations with such failures are put together.
* `SchemaError.NamesPart`: an error names the document part of what is missing.
* `SchemaError.Suits`, `Compiler.compile_raises`: what may be said of all errors of compilations.
-/

namespace JsonSchema

/-- Every failure of an operation is as described. -/
def Raises {ε σ α : Type} (P : ε → Prop) (m : EStateM ε σ α) : Prop :=
  ∀ s e s', m s = .error e s' → P e

namespace Raises

variable {ε σ α β : Type} {P : ε → Prop} {m : EStateM ε σ α}

theorem pure (a : α) : Raises P (Pure.pure a : EStateM ε σ α) := by
  intro s e s' failed
  cases failed

theorem throw {e : ε} (h : P e) : Raises P (MonadExcept.throw e : EStateM ε σ α) := by
  intro s e' s' failed
  cases failed
  exact h

theorem get : Raises P (MonadState.get : EStateM ε σ σ) := by
  intro s e s' failed
  cases failed

theorem modify (change : σ → σ) : Raises P (modify change : EStateM ε σ PUnit) := by
  intro s e s' failed
  cases failed

theorem bind {f : α → EStateM ε σ β} (first : Raises P m) (second : ∀ a, Raises P (f a)) :
    Raises P (m >>= f) := by
  intro s e s' failed
  change EStateM.bind m f s = .error e s' at failed
  unfold EStateM.bind at failed
  cases h : m s with
  | ok a s₁ =>
    rw [h] at failed
    exact second a s₁ e s' failed
  | error e₁ s₁ =>
    rw [h] at failed
    cases failed
    exact first s e s' h

theorem ite {c : Prop} [Decidable c] {m' : EStateM ε σ α} (yes : Raises P m) (no : Raises P m') :
    Raises P (if c then m else m') := by
  split
  · exact yes
  · exact no

end Raises

/-- What may be said of the errors of a compilation: of all that speak of the schema itself, and of
    those that name the document part of what is missing. -/
structure SchemaError.Suits (P : SchemaError → Prop) : Prop where
  plain : ∀ {e}, isPlain e = true → P e
  missing : ∀ reference, P (.missing reference (documentPart reference))

/-- If an error says that something is missing, it names the document part of the reference. -/
def SchemaError.NamesPart (e : SchemaError) : Prop :=
  ∀ reference document, e = .missing reference document → document = documentPart reference

theorem SchemaError.suits_namesPart : Suits NamesPart where
  plain h reference document same := by
    subst same
    cases h
  missing reference reference' document same := by
    cases same
    rfl

/-! ## Schemas -/

variable {P : SchemaError → Prop}

/-- A compilation fails as described if this is so of its steps. -/
theorem SchemaError.Suits.congruent (suits : SchemaError.Suits P) :
    CompileM.Congruent fun _ m _ => Raises P m where
  pure := .pure
  throw fault := .throw (suits.plain (isPlain_of_isFault fault))
  get := .get
  trace _ := .modify _
  bind := .bind

namespace Compiler

/-- Nothing is missing but what a reference does not lead to. -/
theorem resolve_misses (source : EntryId) (base reference : String) :
    Raises (fun e => e =
        .missing (resolveUrl base reference) (documentPart (resolveUrl base reference)))
      (resolve source base reference) := by
  let absolute := resolveUrl base reference
  have remember {Q : SchemaError → Prop} : ∀ target : EntryId, Raises Q (do
      modify fun c => { c with store := c.store.modify source (·.remember absolute target) }
      return (target, absolute) : CompileM (EntryId × String)) :=
    fun _ => .bind (.modify _) fun _ => .pure _
  refine .bind .get fun c => ?_
  simp only
  split
  · exact .pure _
  · split
    · exact remember _
    · exact .bind (.modify _) fun _ => remember _
    · exact .bind (.throw rfl) fun _ => remember _

variable {schema : SchemaCompiler} {begin : EntryId → Bool → CompileM Unit} (compiler : Compiler)
  (suits : SchemaError.Suits P)

include suits

theorem resolve_raises (source : EntryId) (base reference : String) :
    Raises P (resolve source base reference) := by
  intro c e c' failed
  rw [resolve_misses source base reference c e c' failed]
  exact suits.missing _

theorem reference_raises (begins : ∀ id underMeta, Raises P (begin id underMeta)) (value : Value)
    (place : Place) : Raises P (reference begin value place) := by
  unfold reference
  split
  · refine .bind (resolve_raises suits _ _ _) fun target => .bind (begins _ _) fun _ => ?_
    exact .bind .get fun c => .ite (.bind (.throw (suits.plain rfl)) fun _ => .pure _) (.pure _)
  · exact .throw (suits.plain rfl)

theorem node_raises (parts : ∀ value place, Raises P (schema value place))
    (begins : ∀ id underMeta, Raises P (begin id underMeta)) (value : Value) (place : Place) :
    Raises P (compiler.node schema begin value place) :=
  node_of_parts compiler suits.congruent (fun _ _ _ _ _ _ _ _ _ => parts _ _)
    fun _ _ _ _ => reference_raises suits begins _ _

theorem entry_raises (parts : ∀ value place, Raises P (schema value place)) (id : EntryId)
    (underMeta : Bool) : Raises P (entry schema id underMeta) := by
  refine .bind .get fun c => ?_
  split
  · refine .ite (.pure _) (.bind (.modify _) fun _ => .bind (parts _ _) fun _ => .modify _)
  · exact .throw (suits.plain rfl)

theorem schema_raises (fuel : Nat) (value : Value) (place : Place) :
    Raises P (compiler.schema fuel value place) := by
  induction fuel generalizing value place with
  | zero => exact .throw (suits.plain rfl)
  | succ fuel ih => exact node_raises compiler suits ih (entry_raises suits ih) value place

/-- A compilation that fails because something is missing names the document part of the
    reference, and refuses no document. -/
theorem compile_raises (id : EntryId) (store : Store) (e : SchemaError)
    (failed : (compiler.compile id store).1 = .error e) : P e := by
  unfold compile EStateM.run at failed
  cases h : entry (compiler.schema (depthOf store)) id false { store } with
  | ok a c =>
    rw [h] at failed
    cases failed
  | error e' c =>
    rw [h] at failed
    cases failed
    exact entry_raises suits (schema_raises compiler suits _) id false _ _ _ h

end Compiler

end JsonSchema
