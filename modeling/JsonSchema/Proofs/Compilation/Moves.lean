import JsonSchema.Proofs.Compilation.Inline
import JsonSchema.Proofs.Order.Steps
import Mathlib.Logic.Relation

/-!
# What a compilation does, step by step

Whatever its keywords are and however it ends, a compilation does nothing to the store but to cut
fragments out of documents, to remember where references led, and to begin and to finish entries.

* `Compilation.Move`, `Compilation.Moves`: these steps, and any number of them.
* `Compiler.Hears`: the schemas that a compilation comes across, and the references in them.
* `Compiler.schema_travels`, `Compiler.compile_moves`: a compilation is made of such steps.
-/

namespace JsonSchema

open Relation (ReflTransGen)

/-! ## Steps -/

namespace Compilation

/-- The compilation after it asked for a fragment. -/
def cut (c : Compilation) (root : EntryId) (base pointer : String) (part : Value) : Compilation :=
  let made := c.store.fragment root base pointer part
  { c with store := made.2.2, created := if made.2.1 then made.1 :: c.created else c.created }

/-- A step of a compilation. References are followed from entries that were begun, and fragments are
    cut out only for absolute ones that are among those `asked` for. -/
inductive Move (asked : String → Prop) : Compilation → Compilation → Prop
  | trace (c : Compilation) (events : List Event) :
      Move asked c { c with events := c.events ++ events }
  | cut {c : Compilation} {source root : EntryId} {reference inner pointer : String} {part : Value}
      (begun : source ∈ c.started) (among : asked reference)
      (found : c.store.resolve source reference = .fragment root inner pointer part) :
      Move asked c (c.cut root inner pointer part)
  | remember {c : Compilation} {source : EntryId} (begun : source ∈ c.started) (reference : String)
      (target : EntryId) : Move asked c (c.remember source reference target)
  | begin {c : Compilation} {id : EntryId} {e : Entry} (found : c.store.entry? id = some e)
      (idle : e.progress.isStarted = false) : Move asked c (Compiler.begun c id)
  | finish {c : Compilation} {id : EntryId} (begun : id ∈ c.started) (node : Node) :
      Move asked c (Compiler.finished c id node)

/-- Any number of steps. -/
abbrev Moves (asked : String → Prop) : Compilation → Compilation → Prop := ReflTransGen (Move asked)

variable {asked : String → Prop} {c c' : Compilation}

theorem Move.started (step : Move asked c c') : ∃ more, c'.started = more ++ c.started := by
  cases step with
  | begin found idle => exact ⟨[_], rfl⟩
  | _ => exact ⟨[], rfl⟩

theorem Moves.started (moves : Moves asked c c') : ∃ more, c'.started = more ++ c.started := by
  induction moves with
  | refl => exact ⟨[], rfl⟩
  | tail _ step ih =>
    obtain ⟨more, before⟩ := ih
    obtain ⟨last, after⟩ := step.started
    exact ⟨last ++ more, by rw [after, before, List.append_assoc]⟩

theorem Moves.mem_started (moves : Moves asked c c') {id : EntryId} (mem : id ∈ c.started) :
    id ∈ c'.started := by
  obtain ⟨more, eq⟩ := moves.started
  exact eq ▸ List.mem_append_right more mem

/-- The entries after a fragment was asked for: it is new at most. -/
theorem entry?_of_fragment {s : Store} {root : EntryId} {base pointer : String} {part : Value}
    {j : EntryId} {e : Entry} (found : Store.entry? (s.fragment root base pointer part).2.2 j = some e) :
    s.entry? j = some e ∨
      (e.document = part ∧ e.root = root ∧ e.pointer = pointer) ∧ e.progress = .notStarted := by
  rw [Store.fragment] at found
  split at found
  · exact .inl found
  · have at_ := Store.entry?_insert s (fun _ : EntryId =>
      ({ id := base, document := part, isMeta := ((s.entry? root).map (·.isMeta)).getD false
         root := root, pointer := pointer } : Entry)) j
    have found := at_.symm.trans found
    split at found
    · cases found
      exact .inr ⟨⟨rfl, rfl, rfl⟩, rfl⟩
    · exact .inl found

end Compilation

/-! ## What a compilation comes across -/

/-- The schemas that a keyword compiles stand in the same entry. -/
theorem Occurrence.Applies.entry_eq {o : Occurrence} {keyword : String} {steps : List String}
    {part : Value} {at_ : Place} (applies : o.Applies keyword steps part at_) :
    at_.entry = o.place.entry := by
  cases applies <;> rfl

/-- The schemas that a compilation may come across, with the bases there, are closed under everything
    that it compiles of them, and their references are among the ones asked for. Of the store there is
    used what holds at every `moment` of the compilation. -/
structure Compiler.Hears (compiler : Compiler) (asked : String → Prop)
    (heard : Value → String → Bool → Prop) (moment : Compilation → Prop) : Prop where
  move : ∀ {c c' : Compilation}, moment c → Compilation.Move asked c c' → moment c'
  enter : ∀ {c : Compilation} {id : EntryId} {e : Entry}, moment c → c.store.entry? id = some e →
    heard e.document e.id e.isFragment
  apply : ∀ {members : Members} {outside at_ : Place} {o : Occurrence} {keyword : String}
    {steps : List String} {part : Value}, heard (.object members) outside.base outside.applyId →
    o ∈ compiler.occurrences members (outside.inner members) → o.Applies keyword steps part at_ →
    heard part at_.base at_.applyId
  ask : ∀ {members : Members} {outside : Place} {text : String},
    heard (.object members) outside.base outside.applyId →
    members.get? "$ref" = some (.string text) → asked (resolveUrl (outside.inner members).base text)

/-- Every compilation comes across some schemas, and asks for some references. -/
theorem Compiler.Hears.all (compiler : Compiler) :
    compiler.Hears (fun _ => True) (fun _ _ _ => True) fun _ => True :=
  ⟨fun _ _ => trivial, fun _ _ => trivial, fun _ _ _ => trivial, fun _ _ => trivial⟩

/-- What holds at every moment holds after any number of steps. -/
theorem Compiler.Hears.moves {compiler : Compiler} {asked : String → Prop}
    {heard : Value → String → Bool → Prop} {moment : Compilation → Prop}
    (hears : compiler.Hears asked heard moment) {c c' : Compilation} (start : moment c)
    (moves : Compilation.Moves asked c c') : moment c' := by
  induction moves with
  | refl => exact start
  | tail _ step ih => exact hears.move ih step

/-! ## Compilations -/

/-- Whatever its outcome, something moves from a compilation to another one, if the entry of the
    schema at hand was begun. -/
def CompileM.Travels (asked : String → Prop) (moment : Compilation → Prop) (source : EntryId)
    {α : Type} (m : CompileM α) : Prop :=
  ∀ c c', source ∈ c.started → moment c → m.Ends c c' → Compilation.Moves asked c c'

namespace CompileM.Travels

open Compilation (Move Moves)

variable {compiler : Compiler} {asked : String → Prop} {heard : Value → String → Bool → Prop}
  {moment : Compilation → Prop} {source : EntryId} {α β : Type}

theorem pure (a : α) : Travels asked moment source (Pure.pure a) := by
  rintro c c' - - (⟨a, ran⟩ | ⟨e, ran⟩) <;> cases ran
  exact .refl

theorem throw (e : SchemaError) :
    Travels asked moment source (MonadExcept.throw e : CompileM α) := by
  rintro c c' - - (⟨a, ran⟩ | ⟨e, ran⟩) <;> cases ran
  exact .refl

/-- A step that may look at what it starts from. -/
theorem modify {change : Compilation → Compilation}
    (step : ∀ c, source ∈ c.started → Move asked c (change c)) :
    Travels asked moment source (modify change) := by
  rintro c c' begun - (⟨a, ran⟩ | ⟨e, ran⟩) <;> cases ran
  exact .single (step c begun)

theorem get_bind {f : Compilation → CompileM β}
    (rest : ∀ c c', source ∈ c.started → moment c → (f c).Ends c c' → Moves asked c c') :
    Travels asked moment source (MonadState.get >>= f) := rest

variable (hears : compiler.Hears asked heard moment)

include hears

theorem bind {m : CompileM α} {f : α → CompileM β} (first : Travels asked moment source m)
    (second : ∀ a, Travels asked moment source (f a)) :
    Travels asked moment source (m >>= f) := by
  intro c c' begun holds ends
  change Ends (EStateM.bind m f) c c' at ends
  unfold Ends EStateM.bind at ends
  cases ran : m c with
  | ok a c₁ =>
    rw [ran] at ends
    have moves := first c c₁ begun holds (.inl ⟨a, ran⟩)
    exact moves.trans (second a c₁ c' (moves.mem_started begun) (hears.moves holds moves) ends)
  | error e c₁ =>
    rw [ran] at ends
    have moves := first c c₁ begun holds (.inr ⟨e, ran⟩)
    obtain ⟨b, done⟩ | ⟨e', failed⟩ := ends
    · cases done
    · cases failed
      exact moves

theorem congruent : Congruent fun _ m _ => Travels asked moment source m where
  pure := pure
  throw _ := throw _
  get := by
    rintro c c' - - (⟨a, ran⟩ | ⟨e, ran⟩) <;> cases ran
    exact .refl
  trace events := modify fun c _ => .trace c events
  bind := bind hears

end CompileM.Travels

namespace Compiler

open CompileM (Travels)
open Compilation (Move Moves)

variable {compiler : Compiler} {asked : String → Prop} {heard : Value → String → Bool → Prop}
  {moment : Compilation → Prop}

/-- Following a reference asks for a fragment at most, and remembers where it led. -/
theorem resolve_travels {source : EntryId} {base text : String}
    (among : asked (resolveUrl base text)) : Travels asked moment source (resolve source base text) := by
  have remember (target : EntryId) {c c' : Compilation} (begun : source ∈ c.started)
      (ends : CompileM.Ends (do
        modify fun c => { c with
          store := c.store.modify source (·.remember (resolveUrl base text) target) }
        return (target, resolveUrl base text) : CompileM (EntryId × String)) c c') :
      Moves asked c c' := by
    rcases ends with ⟨_, ran⟩ | ⟨_, ran⟩ <;> cases ran
    exact .single (.remember begun _ _)
  refine .get_bind fun c c' begun holds => ?_
  dsimp only
  split
  · exact fun ends => Travels.pure _ c c' begun holds ends
  · split
    · exact fun ends => remember _ begun ends
    · next root inner pointer part found =>
      intro ends
      have cut : Move asked c (c.cut root inner pointer part) := .cut begun among found
      exact .trans (.single cut) (remember _ begun ends)
    · rintro (⟨_, ran⟩ | ⟨_, ran⟩) <;> cases ran
      exact .refl

variable (hears : compiler.Hears asked heard moment)

include hears

theorem reference_travels {begin : EntryId → Bool → CompileM Unit} {place : Place} {value : Value}
    (begins : ∀ id underMeta, Travels asked moment place.entry (begin id underMeta))
    (among : ∀ text, value = .string text → asked (resolveUrl place.base text)) :
    Travels asked moment place.entry (reference begin value place) := by
  cases value with
  | string text =>
    rw [reference_eq]
    refine .bind hears (resolve_travels (among text rfl)) fun found => ?_
    refine .bind hears (begins _ _) fun _ => .get_bind fun c c' begun holds => ?_
    dsimp only
    split
    · exact fun ends => Travels.bind hears (.throw _) (fun _ => .pure _) c c' begun holds ends
    · exact fun ends => Travels.pure _ c c' begun holds ends
  | _ => exact .throw _

/-- Whatever other entries were begun, an entry is compiled step by step. -/
theorem entry_travels {schema : SchemaCompiler}
    (schemas : ∀ value place, heard value place.base place.applyId →
      Travels asked moment place.entry (schema value place))
    (id : EntryId) (underMeta : Bool) {c c' : Compilation} (holds : moment c)
    (ends : (entry schema id underMeta).Ends c c') : Moves asked c c' := by
  rw [CompileM.Ends, entry_run] at ends
  cases found : c.store.entry? id with
  | none =>
    rw [found] at ends
    obtain ⟨_, ran⟩ | ⟨_, ran⟩ := ends <;> cases ran
    exact .refl
  | some e =>
    rw [found] at ends
    dsimp only at ends
    split at ends
    · obtain ⟨_, ran⟩ | ⟨_, ran⟩ := ends <;> cases ran
      exact .refl
    · next idle =>
      have first : Move asked c (begun c id) := .begin found (Bool.eq_false_iff.2 idle)
      have own : id ∈ (begun c id).started := List.mem_cons_self
      have inner {d : Compilation}
          (ran : (schema e.document (e.place id underMeta)).Ends (begun c id) d) :
          Moves asked (begun c id) d :=
        schemas _ _ (hears.enter holds found) _ d own (hears.move holds first) ran
      cases run : schema e.document (e.place id underMeta) (begun c id) with
      | ok node d =>
        rw [run] at ends
        have moves := inner (.inl ⟨node, run⟩)
        obtain ⟨_, ran⟩ | ⟨_, ran⟩ := ends <;> cases ran
        exact .trans (.single first) (moves.tail (.finish (moves.mem_started own) node))
      | error error d =>
        rw [run] at ends
        have moves := inner (.inr ⟨error, run⟩)
        obtain ⟨_, ran⟩ | ⟨_, ran⟩ := ends <;> cases ran
        exact .trans (.single first) moves

theorem schema_travels (fuel : Nat) (value : Value) (place : Place)
    (of : heard value place.base place.applyId) :
    Travels asked moment place.entry (compiler.schema fuel value place) := by
  induction fuel generalizing value place with
  | zero => exact .throw _
  | succ fuel ih =>
    refine node_of_parts compiler (Travels.congruent hears) ?_ ?_
    · rintro members rfl o occurs keyword inner part at_ applies
      have inside : at_.entry = place.entry :=
        applies.entry_eq.trans (congrArg Place.entry (place_of_mem_occurrences occurs) :)
      exact inside ▸ ih part at_ (hears.apply of occurs applies)
    · rintro members text rfl refers
      have inside : (place.inner members).entry = place.entry := rfl
      rw [← inside]
      refine reference_travels hears (fun id underMeta => ?_) ?_
      · exact fun c c' begun holds ends => entry_travels hears ih id underMeta holds ends
      · rintro text rfl
        exact hears.ask of refers

/-- A compilation moves step by step, whatever its outcome. -/
theorem entry_moves {s : Store} (start : moment { store := s }) (fuel : Nat) (id : EntryId)
    (underMeta : Bool) {c : Compilation}
    (ends : (entry (compiler.schema fuel) id underMeta).Ends { store := s } c) :
    Moves asked { store := s } c :=
  entry_travels hears (schema_travels hears fuel) id underMeta start ends

end Compiler

end JsonSchema
