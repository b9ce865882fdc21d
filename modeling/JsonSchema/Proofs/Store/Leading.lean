import JsonSchema.Proofs.Store.Entries
import Mathlib.Data.List.Nodup
import Mathlib.Logic.Relation

/-!
# Where followed references lead

References that were followed lead from entry to entry, in circles at times. An entry has to be
compiled again when they lead from it to something that is gone.

* `Store.LeadsTo`: a chain of references leads from an entry to something of a kind.
* `Store.LeadsTo.cut`: what is left of such chains when some entries have forgotten theirs.
* `Store.mem_dependents_iff`: the dependents of some entries are these and what leads to them.
* `Store.drain`: the worklist by which they are reset, one target after the other, with
  `Store.drain_eq`: it ends, and in the meantime forgets no chain that is still needed.
-/

namespace JsonSchema

namespace Store

variable {s s' : Store} {id target : EntryId} {e : Entry} {P Q C : EntryId → Prop}

/-! ## Chains of references -/

/-- A reference from an entry to another was followed. -/
def Follows (s : Store) (id target : EntryId) : Prop :=
  ∃ e, s.entry? id = some e ∧ ∃ ref ∈ e.refs, ref.2 = target

/-- One or more references that were followed lead from an entry to one of which `P` holds. -/
def LeadsTo (s : Store) (P : EntryId → Prop) (id : EntryId) : Prop :=
  ∃ target, Relation.TransGen s.Follows id target ∧ P target

theorem Follows.refersTo {targets : List EntryId} (found : s.entry? id = some e) :
    e.refersTo targets = true ↔ ∃ target ∈ targets, s.Follows id target := by
  rw [Entry.refersTo_iff]
  constructor
  · rintro ⟨ref, mem, target⟩
    exact ⟨ref.2, target, e, found, ref, mem, rfl⟩
  · rintro ⟨target, mem, e', found', ref, here, rfl⟩
    rw [found] at found'
    cases found'
    exact ⟨ref, here, mem⟩

/-- An entry that follows a reference has it. -/
theorem Follows.refs_ne_nil (follows : s.Follows id target) (found : s.entry? id = some e) :
    e.refs ≠ [] := by
  obtain ⟨e', found', ref, mem, -⟩ := follows
  rw [found] at found'
  cases found'
  exact List.ne_nil_of_mem mem

/-- Where an entry is the same, the references that were followed are the same. -/
theorem Follows.of_eq (follows : s.Follows id target) (same : s'.entry? id = s.entry? id) :
    s'.Follows id target := by
  obtain ⟨e, found, follows⟩ := follows
  exact ⟨e, same.trans found, follows⟩

namespace LeadsTo

theorem single (follows : s.Follows id target) (h : P target) : s.LeadsTo P id :=
  ⟨target, .single follows, h⟩

theorem head (follows : s.Follows id target) (leads : s.LeadsTo P target) : s.LeadsTo P id := by
  obtain ⟨last, chain, h⟩ := leads
  exact ⟨last, .head follows chain, h⟩

/-- What leads somewhere follows a first reference. -/
theorem exists_follows (leads : s.LeadsTo P id) : ∃ target, s.Follows id target := by
  obtain ⟨last, chain, -⟩ := leads
  obtain ⟨target, follows, -⟩ := Relation.TransGen.head'_iff.1 chain
  exact ⟨target, follows⟩

theorem refs_ne_nil (leads : s.LeadsTo P id) (found : s.entry? id = some e) : e.refs ≠ [] := by
  obtain ⟨target, follows⟩ := leads.exists_follows
  exact follows.refs_ne_nil found

/-- A property of everything that refers to what is of a kind, or has the property itself, is one
    of everything that leads there. -/
theorem induction (start : ∀ id target, s.Follows id target → P target → Q id)
    (step : ∀ id target, s.Follows id target → Q target → Q id) (leads : s.LeadsTo P id) : Q id := by
  obtain ⟨last, chain, h⟩ := leads
  induction chain using Relation.TransGen.head_induction_on with
  | single follows => exact start _ _ follows h
  | head follows _ ih => exact step _ _ follows ih

theorem mono (more : ∀ id target, s.Follows id target → s'.Follows id target)
    (weaken : ∀ id, P id → Q id) (leads : s.LeadsTo P id) : s'.LeadsTo Q id :=
  leads.induction (fun id target follows h => .single (more id target follows) (weaken target h))
    fun id target follows h => .head (more id target follows) h

/-- Chains when some entries, those of which `C` holds, have forgotten what they followed. A chain
    that is broken there still has its beginning, and that has to be a chain to where `Q` holds
    unless its first entry has forgotten as well. -/
theorem cut (kept : ∀ id target, s.Follows id target → C id ∨ s'.Follows id target)
    (ends : ∀ id target, s.Follows id target → P target → C id ∨ Q target)
    (breaks : ∀ id target, s.Follows id target → C target → C id ∨ Q target)
    (leads : s.LeadsTo P id) : C id ∨ s'.LeadsTo Q id := by
  have single : ∀ id target, s.Follows id target → C id ∨ Q target → C id ∨ s'.LeadsTo Q id := by
    intro id target follows h
    rcases kept id target follows with forgot | follows'
    · exact .inl forgot
    · exact h.imp_right (.single follows')
  refine leads.induction (Q := fun id => C id ∨ s'.LeadsTo Q id)
    (fun id target follows h => single id target follows (ends id target follows h))
    fun id target follows ih => ?_
  rcases ih with forgot | leads'
  · exact single id target follows (breaks id target follows forgot)
  · exact (kept id target follows).imp_right fun follows' => .head follows' leads'

end LeadsTo

/-! ## Dependents -/

/-- The dependents of some entries are these and what leads to them. -/
theorem mem_dependents_iff {targets : List EntryId} :
    id ∈ s.dependents s.entries.size targets ↔ id ∈ targets ∨ s.LeadsTo (· ∈ targets) id := by
  constructor
  · refine dependents_subset (S := fun id => id ∈ targets ∨ s.LeadsTo (· ∈ targets) id) ?_
      (fun _ mem => .inl mem) id
    rintro id e found ⟨ref, mem, target⟩
    have follows : s.Follows id ref.2 := ⟨e, found, ref, mem, rfl⟩
    exact .inr (target.elim (.single follows) (.head follows))
  · have closed : ∀ id target, s.Follows id target →
        target ∈ s.dependents s.entries.size targets → id ∈ s.dependents s.entries.size targets := by
      rintro id _ ⟨e, found, ref, mem, rfl⟩ target
      exact dependents_closed found ⟨ref, mem, target⟩
    rintro (mem | leads)
    · exact subset_dependents s _ targets id mem
    · exact leads.induction
        (fun id target follows mem => closed id target follows (subset_dependents s _ _ _ mem)) closed

/-- Resetting resets the targets and what leads to them, and nothing else. -/
theorem entry?_invalidate_of_leadsTo {targets : List EntryId}
    (leads : id ∈ targets ∨ s.LeadsTo (· ∈ targets) id) :
    Store.entry? (s.invalidate targets) id = (s.entry? id).map Entry.reset := by
  rw [entry?_invalidate, if_pos (mem_dependents_iff.2 leads)]

theorem entry?_invalidate_of_not_leadsTo {targets : List EntryId} (out : id ∉ targets)
    (leads : ¬ s.LeadsTo (· ∈ targets) id) :
    Store.entry? (s.invalidate targets) id = s.entry? id := by
  rw [entry?_invalidate, if_neg fun mem => (mem_dependents_iff.1 mem).elim out leads]

/-! ## The worklist -/

/-- The entries that refer to an entry, in the order of their places. -/
def referrers (s : Store) (target : EntryId) : List EntryId :=
  s.live.filter fun id => ((s.entry? id).map (·.refersTo [target])).getD false

/-- The store in which the entries that refer to an entry are reset. -/
def resetReferrers (s : Store) (target : EntryId) : Store :=
  (s.referrers target).foldl (·.modify · Entry.reset) s

/-- The loop that resets what leads to the targets that are pending, the first of which came
    last: whatever refers to it is reset at once, and is pending then. There is no result if some
    target is pending after so many rounds. -/
def drain : Nat → Store → List EntryId → Option Store
  | _, s, [] => some s
  | 0, _, _ :: _ => none
  | rounds + 1, s, target :: pending =>
    drain rounds (s.resetReferrers target) ((s.referrers target).reverse ++ pending)

theorem mem_referrers : id ∈ s.referrers target ↔ s.Follows id target := by
  rw [referrers, List.mem_filter, mem_live]
  constructor
  · rintro ⟨⟨e, found⟩, refers⟩
    rw [found, Option.map_some, Option.getD_some, Follows.refersTo found] at refers
    obtain ⟨t, mem, follows⟩ := refers
    rwa [List.mem_singleton.1 mem] at follows
  · intro follows
    have ⟨e, found, _⟩ := follows
    refine ⟨⟨e, found⟩, ?_⟩
    rw [found, Option.map_some, Option.getD_some, Follows.refersTo found]
    exact ⟨target, List.mem_singleton_self _, follows⟩

theorem entry?_resetReferrers (s : Store) (target j : EntryId) :
    Store.entry? (s.resetReferrers target) j =
      if j ∈ s.referrers target then (s.entry? j).map Entry.reset else s.entry? j :=
  entry?_foldl_modify (fun _ => Entry.reset) (fun _ _ => rfl) _ s j

/-- What refers to the target has forgotten everything, and the others nothing. -/
theorem follows_resetReferrers {j : EntryId} :
    (s.resetReferrers target).Follows id j ↔ s.Follows id j ∧ ¬ s.Follows id target := by
  rw [← @mem_referrers s id target]
  by_cases mem : id ∈ s.referrers target
  · refine iff_of_false ?_ fun h => h.2 mem
    rintro ⟨e, found, ref, here, -⟩
    rw [entry?_resetReferrers, if_pos mem, Option.map_eq_some_iff] at found
    obtain ⟨e, -, rfl⟩ := found
    cases here
  · have same : Store.entry? (s.resetReferrers target) id = s.entry? id := by
      rw [entry?_resetReferrers, if_neg mem]
    exact ⟨fun h => ⟨h.of_eq same.symm, mem⟩, fun h => h.1.of_eq same⟩

/-- The entries that still have references. -/
def referring (s : Store) : List EntryId :=
  s.live.filter fun id => ((s.entry? id).map fun e => !e.refs.isEmpty).getD false

theorem mem_referring : id ∈ s.referring ↔ ∃ target, s.Follows id target := by
  rw [referring, List.mem_filter, mem_live]
  constructor
  · rintro ⟨⟨e, found⟩, some_⟩
    rw [found, Option.map_some, Option.getD_some, Bool.not_eq_true'] at some_
    cases refs : e.refs with
    | nil => rw [refs] at some_; cases some_
    | cons ref rest => exact ⟨ref.2, e, found, ref, refs ▸ List.mem_cons_self, rfl⟩
  · rintro ⟨target, e, found, ref, mem, -⟩
    refine ⟨⟨e, found⟩, ?_⟩
    rw [found, Option.map_some, Option.getD_some, Bool.not_eq_true', List.isEmpty_eq_false_iff]
    exact List.ne_nil_of_mem mem

theorem nodup_referring (s : Store) : s.referring.Nodup :=
  s.nodup_live.sublist List.filter_sublist

/-- A round takes the references of as many entries as it makes pending. -/
theorem length_referring_resetReferrers (s : Store) (target : EntryId) :
    (s.referrers target).length + (s.resetReferrers target).referring.length =
      s.referring.length := by
  have disjoint : (s.referrers target).Disjoint (s.resetReferrers target).referring := by
    intro id mem left
    obtain ⟨_, follows⟩ := mem_referring.1 left
    exact (follows_resetReferrers.1 follows).2 (mem_referrers.1 mem)
  have nodup : (s.referrers target ++ (s.resetReferrers target).referring).Nodup :=
    (s.nodup_live.sublist List.filter_sublist).append (nodup_referring _) disjoint
  rw [← List.length_append]
  refine ((List.perm_ext_iff_of_nodup nodup s.nodup_referring).2 fun id => ?_).length_eq
  rw [List.mem_append, mem_referrers, mem_referring, mem_referring]
  constructor
  · rintro (follows | ⟨t, follows⟩)
    · exact ⟨target, follows⟩
    · exact ⟨t, (follows_resetReferrers.1 follows).1⟩
  · rintro ⟨t, follows⟩
    by_cases reset : s.Follows id target
    · exact .inl reset
    · exact .inr ⟨t, follows_resetReferrers.2 ⟨follows, reset⟩⟩

/-- What leads to what is pending is what the next round resets and what leads, afterwards, to
    what is pending then. -/
theorem leadsTo_cons_iff {pending : List EntryId} :
    s.LeadsTo (· ∈ target :: pending) id ↔ id ∈ s.referrers target ∨
      (s.resetReferrers target).LeadsTo (· ∈ (s.referrers target).reverse ++ pending) id := by
  constructor
  · intro leads
    have kept : ∀ id j, s.Follows id j →
        id ∈ s.referrers target ∨ (s.resetReferrers target).Follows id j := by
      intro id j follows
      by_cases reset : s.Follows id target
      · exact .inl (mem_referrers.2 reset)
      · exact .inr (follows_resetReferrers.2 ⟨follows, reset⟩)
    refine leads.cut kept (fun id j follows mem => ?_) fun id j follows mem => .inr ?_
    · rcases List.mem_cons.1 mem with rfl | mem
      · exact .inl (mem_referrers.2 follows)
      · exact .inr (List.mem_append_right _ mem)
    · exact List.mem_append_left _ (List.mem_reverse.2 mem)
  · rintro (mem | leads)
    · exact .single (mem_referrers.1 mem) List.mem_cons_self
    · refine leads.induction (fun id j follows mem => ?_)
        fun id j follows ih => .head (follows_resetReferrers.1 follows).1 ih
      have follows := (follows_resetReferrers.1 follows).1
      rw [List.mem_append, List.mem_reverse] at mem
      rcases mem with mem | mem
      · exact .head follows (.single (mem_referrers.1 mem) List.mem_cons_self)
      · exact .single follows (List.mem_cons_of_mem _ mem)

theorem resetReferrers_tables (s : Store) (target : EntryId) :
    (s.resetReferrers target).schemas = s.schemas ∧ (s.resetReferrers target).refs = s.refs ∧
      (s.resetReferrers target).fragments = s.fragments ∧
      (s.resetReferrers target).cache = s.cache ∧
      (s.resetReferrers target).entries.size = s.entries.size :=
  foldl_modify_tables (fun _ => Entry.reset) _ s

/-- Stores with the same tables and the same entries are the same. -/
theorem ext_entry? (schemas : s'.schemas = s.schemas) (refs : s'.refs = s.refs)
    (fragments : s'.fragments = s.fragments) (cache : s'.cache = s.cache)
    (size : s'.entries.size = s.entries.size) (entry : ∀ id, s'.entry? id = s.entry? id) :
    s' = s := by
  have entries : s'.entries = s.entries := by
    refine Array.ext size fun i h' h => ?_
    have same := entry ⟨i⟩
    rwa [ entry?, entry?, Array.getElem?_eq_getElem h', Array.getElem?_eq_getElem h] at same
  cases s
  cases s'
  cases schemas
  cases refs
  cases fragments
  cases cache
  cases entries
  rfl

/-- Where the targets have nothing to be reset, an entry is reset if it leads to one of them. -/
theorem entry?_invalidate_of_idle {targets : List EntryId}
    (idle : ∀ target ∈ targets, (s.entry? target).map Entry.reset = s.entry? target) (id : EntryId) :
    (s.LeadsTo (· ∈ targets) id →
        Store.entry? (s.invalidate targets) id = (s.entry? id).map Entry.reset) ∧
      (¬ s.LeadsTo (· ∈ targets) id → Store.entry? (s.invalidate targets) id = s.entry? id) := by
  refine ⟨fun leads => entry?_invalidate_of_leadsTo (.inr leads), fun leads => ?_⟩
  by_cases mem : id ∈ targets
  · rw [entry?_invalidate_of_leadsTo (.inl mem), idle id mem]
  · exact entry?_invalidate_of_not_leadsTo mem leads

/-- Nothing has to be reset for no targets. -/
theorem invalidate_nil (s : Store) : s.invalidate [] = s := by
  obtain ⟨schemas, refs, fragments, cache, size⟩ := s.invalidate_tables []
  refine ext_entry? schemas refs fragments cache size fun id => ?_
  refine (entry?_invalidate_of_idle (fun _ mem => (List.not_mem_nil mem).elim) id).2 ?_
  rintro ⟨_, -, mem⟩
  exact List.not_mem_nil mem

/-- A round of the loop changes nothing about what is to be reset. -/
theorem invalidate_cons {pending : List EntryId}
    (idle : ∀ t ∈ target :: pending, (s.entry? t).map Entry.reset = s.entry? t) :
    (∀ t ∈ (s.referrers target).reverse ++ pending,
        (Store.entry? (s.resetReferrers target) t).map Entry.reset =
          Store.entry? (s.resetReferrers target) t) ∧
      (s.resetReferrers target).invalidate ((s.referrers target).reverse ++ pending) =
        s.invalidate (target :: pending) := by
  have twice : ∀ e? : Option Entry, (e?.map Entry.reset).map Entry.reset = e?.map Entry.reset := by
    rintro (_ | e) <;> rfl
  have idle' : ∀ t ∈ (s.referrers target).reverse ++ pending,
      (Store.entry? (s.resetReferrers target) t).map Entry.reset =
        Store.entry? (s.resetReferrers target) t := by
    intro t mem
    rw [entry?_resetReferrers]
    split
    · exact twice _
    · next out =>
      rw [List.mem_append, List.mem_reverse] at mem
      exact idle t (List.mem_cons_of_mem _ (mem.resolve_left out))
  refine ⟨idle', ?_⟩
  obtain ⟨schemas, refs, fragments, cache, size⟩ := s.invalidate_tables (target :: pending)
  obtain ⟨schemas₁, refs₁, fragments₁, cache₁, size₁⟩ := s.resetReferrers_tables target
  obtain ⟨schemas₂, refs₂, fragments₂, cache₂, size₂⟩ :=
    (s.resetReferrers target).invalidate_tables ((s.referrers target).reverse ++ pending)
  refine ext_entry? ((schemas₂.trans schemas₁).trans schemas.symm)
    ((refs₂.trans refs₁).trans refs.symm) ((fragments₂.trans fragments₁).trans fragments.symm)
    ((cache₂.trans cache₁).trans cache.symm) ((size₂.trans size₁).trans size.symm) fun id => ?_
  obtain ⟨reset, same⟩ := entry?_invalidate_of_idle idle id
  obtain ⟨reset', same'⟩ := entry?_invalidate_of_idle idle' id
  by_cases leads : (s.resetReferrers target).LeadsTo
      (· ∈ (s.referrers target).reverse ++ pending) id
  · rw [reset' leads, reset (leadsTo_cons_iff.2 (.inr leads)), entry?_resetReferrers]
    split
    · exact twice _
    · rfl
  · rw [same' leads, entry?_resetReferrers]
    split
    · next refers => rw [reset (leadsTo_cons_iff.2 (.inl refers))]
    · next out => rw [same fun h => (leadsTo_cons_iff.1 h).elim out leads]

/-- The loop ends, whatever the references are: each round takes one target, and makes as many
    entries pending as it takes the references from. In the end it has reset what leads to the
    targets, and nothing else. -/
theorem drain_eq {rounds : Nat} {targets : List EntryId}
    (enough : targets.length + s.referring.length ≤ rounds)
    (idle : ∀ target ∈ targets, (s.entry? target).map Entry.reset = s.entry? target) :
    drain rounds s targets = some (s.invalidate targets) := by
  induction rounds generalizing s targets with
  | zero =>
    cases targets with
    | nil => rw [drain, invalidate_nil]
    | cons target pending => exact absurd enough (by simp)
  | succ rounds ih =>
    cases targets with
    | nil => rw [drain, invalidate_nil]
    | cons target pending =>
      obtain ⟨idle', same⟩ := invalidate_cons idle
      have taken := s.length_referring_resetReferrers target
      rw [drain, ih ?_ idle', same]
      rw [List.length_append, List.length_reverse]
      rw [List.length_cons] at enough
      omega

/-- The targets may be pending in any order, and more than once. -/
theorem invalidate_congr {targets targets' : List EntryId}
    (same : ∀ id, id ∈ targets' ↔ id ∈ targets) : s.invalidate targets' = s.invalidate targets := by
  obtain ⟨schemas, refs, fragments, cache, size⟩ := s.invalidate_tables targets
  obtain ⟨schemas', refs', fragments', cache', size'⟩ := s.invalidate_tables targets'
  refine ext_entry? (schemas'.trans schemas.symm) (refs'.trans refs.symm)
    (fragments'.trans fragments.symm) (cache'.trans cache.symm) (size'.trans size.symm) fun id => ?_
  have members : (· ∈ targets') = (· ∈ targets) := funext fun id => propext (same id)
  have dependents : id ∈ s.dependents s.entries.size targets' ↔
      id ∈ s.dependents s.entries.size targets := by
    rw [mem_dependents_iff, mem_dependents_iff, same, members]
  rw [entry?_invalidate, entry?_invalidate]
  exact if_congr dependents rfl rfl

/-- A removal can reset by this loop what led to what is gone, in whatever order that is pending. -/
theorem drain_eq_remove (live : s.isLive id = true) {targets : List EntryId}
    (same : ∀ target, target ∈ targets ↔ target ∈ s.family id) :
    let left := s.without (s.family id)
    drain (targets.length + left.referring.length) left targets = some (s.remove id) := by
  intro left
  have idle : ∀ target ∈ targets, (left.entry? target).map Entry.reset = left.entry? target := by
    intro target mem
    have gone : left.entry? target = none := by
      rw [entry?_without, if_pos ((same target).1 mem)]
    rw [gone, Option.map_none]
  rw [drain_eq (Nat.le_refl _) idle, invalidate_congr same, remove_of_isLive live]

end Store

end JsonSchema
