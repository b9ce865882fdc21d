import JsonSchema.Proofs.Vocabulary.Changes
import JsonSchema.Proofs.Vocabulary.Counting

/-!
# Changes in place

A table can also be changed by writing to it. What is added is written to a copy, keyword by
keyword, and the copy takes the place of the table once its order was found. What is removed is
taken out of the table itself, and the order found after that: if this failed, the table would be
left without the keywords and with its old order.

* `VocabularyTable.InPlace`: the changes as they write to a table. The order is found by counting.
* `VocabularyTable.Change.inPlace_eq`: a change in place gives what `VocabularyTable.Change.apply`
  gives, and leaves the table as it was if it fails.
* `VocabularyTable.runInPlace_eq`: so do several changes.
* `VocabularyTable.runInPlace_ordered`: the order after any changes.
-/

namespace JsonSchema

namespace VocabularyTable

/-- Something that writes to a table. It may fail with an error, or, without one, because a counter
    would go below zero; what was written until then stays. -/
abbrev InPlace := EStateM (Option SchemaError) VocabularyTable

namespace InPlace

/-- Fails with an error. -/
def refuse {α : Type} (e : SchemaError) : InPlace α := throw (some e)

/-- Finds the order anew. -/
def reorder : InPlace Unit := do
  match Keyword.orderByCounting (← get).keywords with
  | some (.ok ordered) => modify fun table => { table with ordered := ordered }
  | some (.error names) => refuse (.cycle names)
  | none => throw none

/-- Runs something on a copy, which takes the place of the table if that succeeds. -/
def onCopy {α : Type} (change : InPlace α) : InPlace α := fun table =>
  match change table with
  | .ok a copy => .ok a copy
  | .error e _ => .error e table

/-- Writes a keyword at the end. -/
def stage (keyword : Keyword) (owner : Option String) : InPlace Unit := do
  match (← get).stage keyword owner with
  | .ok staged => set staged
  | .error e => refuse e

/-- Writes a keyword of a vocabulary at the end, and protects it if the vocabulary is protected. -/
def stageMember (vocabulary : Vocabulary) (keyword : Keyword) : InPlace Unit := do
  stage keyword (some vocabulary.name)
  if vocabulary.isProtected then
    modify fun table => { table with protectedNames := table.protectedNames ++ [keyword.name] }

/-- Defines a keyword. -/
def addKeyword (keyword : Keyword) : InPlace Unit := onCopy do
  stage keyword none
  reorder

/-- Defines all keywords of a vocabulary. -/
def addVocabulary (vocabulary : Vocabulary) : InPlace Unit := do
  if (← get).vocabularies.contains vocabulary.name then
    refuse (.conflict (.vocabulary vocabulary.name))
  else
    match repeated? [] (vocabulary.keywords.map (·.name)) with
    | some name => refuse (.definition (.twice name vocabulary.name))
    | none => onCopy do
      forM vocabulary.keywords (stageMember vocabulary)
      modify fun table => { table with vocabularies := table.vocabularies ++ [vocabulary.name] }
      reorder

/-- Removes a keyword, and gives its definition if there was one. -/
def removeKeyword (name : String) : InPlace (Option Keyword) := do
  let table ← get
  if table.isProtected name then
    refuse (.conflict (.removal name))
  else
    match table.get? name with
    | none => return none
    | some keyword =>
      set (table.without [name])
      reorder
      return some keyword

/-- Removes the keywords of a vocabulary; says whether the vocabulary was known. -/
def removeVocabulary (vocabulary : String) : InPlace Bool := do
  let table ← get
  if !table.vocabularies.contains vocabulary then
    return false
  else
    match (table.members vocabulary).find? table.isProtected with
    | some name => refuse (.conflict (.removal name))
    | none =>
      set (table.without (table.members vocabulary))
      modify fun table => { table with vocabularies := table.vocabularies.filter (· ≠ vocabulary) }
      reorder
      return true

end InPlace

/-- A change as it writes to a table. -/
def Change.inPlace : Change → InPlace Unit
  | addKeyword keyword => InPlace.addKeyword keyword
  | addVocabulary vocabulary => InPlace.addVocabulary vocabulary
  | removeKeyword name => discard (InPlace.removeKeyword name)
  | removeVocabulary name => discard (InPlace.removeVocabulary name)
  | setValueValidator name validator => modify (·.setValueValidator name validator)

/-- The table after several changes in place, those that fail with what they leave. -/
def runInPlace (table : VocabularyTable) (changes : List Change) : VocabularyTable :=
  changes.foldl (fun table change =>
    match change.inPlace table with
    | .ok _ next => next
    | .error _ left => left) table

/-! ## Agreement -/

/-- A result with a new table, or with an error and the old one. -/
def settle {α : Type} (table : VocabularyTable) :
    Except SchemaError (α × VocabularyTable) → EStateM.Result (Option SchemaError) VocabularyTable α
  | .ok (a, next) => .ok a next
  | .error e => .error (some e) table

variable {table next : VocabularyTable} {keyword : Keyword} {keywords : List Keyword}
  {vocabulary : Vocabulary}

namespace InPlace

theorem reorder_eq (distinct : (table.keywords.map (·.name)).Nodup) :
    reorder table = settle table (table.reorder.map ((), ·)) := by
  have counted := Keyword.orderByCounting_eq distinct
  show (match Keyword.orderByCounting table.keywords with
    | some (.ok ordered) => modify fun table => { table with ordered := ordered }
    | some (.error names) => refuse (.cycle names)
    | none => throw none : InPlace Unit) table = _
  rw [counted, VocabularyTable.reorder]
  cases Keyword.order table.keywords <;> rfl

theorem stage_eq (table : VocabularyTable) (keyword : Keyword) (owner : Option String) :
    stage keyword owner table = settle table ((table.stage keyword owner).map ((), ·)) := by
  show (match table.stage keyword owner with
    | .ok staged => set staged
    | .error e => refuse e : InPlace Unit) table = _
  cases table.stage keyword owner <;> rfl

theorem bind_ok {α β : Type} {first : InPlace α} {rest : α → InPlace β} {a : α}
    (h : first table = .ok a next) : (first >>= rest) table = rest a next := by
  show EStateM.bind first rest table = _
  rw [EStateM.bind, h]

theorem bind_error {α β : Type} {first : InPlace α} {rest : α → InPlace β} {e : Option SchemaError}
    (h : first table = .error e next) : (first >>= rest) table = .error e next := by
  show EStateM.bind first rest table = _
  rw [EStateM.bind, h]

/-- What succeeds on a copy succeeds on the table. -/
theorem onCopy_ok {α : Type} {change : InPlace α} {a : α} (h : change table = .ok a next) :
    onCopy change table = .ok a next := by
  rw [onCopy, h]

/-- What fails on a copy leaves the table. -/
theorem onCopy_error {α : Type} {change : InPlace α} {e : Option SchemaError}
    (h : change table = .error e next) : onCopy change table = .error e table := by
  rw [onCopy, h]

theorem onCopy_settle {α : Type} {change : InPlace α}
    {result : Except SchemaError (α × VocabularyTable)} (h : change table = settle next result) :
    onCopy change table = settle table result := by
  cases result with
  | ok made => exact onCopy_ok h
  | error e => exact onCopy_error h

/-- A change of which the result does not matter. -/
theorem discard_settle {α : Type} {change : InPlace α}
    {result : Except SchemaError (α × VocabularyTable)} (h : change table = settle table result) :
    (discard change : InPlace Unit) table = settle table (result.map fun made => ((), made.2)) := by
  cases result with
  | ok made => exact bind_ok h
  | error e => exact bind_error h

/-- A keyword is added in place as it is to a table. -/
theorem addKeyword_agrees (distinct : (table.keywords.map (·.name)).Nodup) :
    addKeyword keyword table = settle table ((table.addKeyword keyword).map ((), ·)) := by
  rw [addKeyword, VocabularyTable.addKeyword]
  have staged := stage_eq table keyword none
  cases made : table.stage keyword none with
  | error e =>
    rw [made] at staged
    exact onCopy_error (bind_error staged)
  | ok copy =>
    rw [made] at staged
    have own : (copy.keywords.map (·.name)).Nodup := by
      rcases table.stage_cases keyword none with ⟨-, eq⟩ | ⟨-, e, failed, -⟩
      · cases made.symm.trans eq
        exact distinct_extend distinct (by simp) none
      · cases made.symm.trans failed
    exact onCopy_settle ((bind_ok staged).trans (reorder_eq own))

/-- The table with some more names protected. -/
def guard (table : VocabularyTable) (names : List String) : VocabularyTable :=
  { table with protectedNames := table.protectedNames ++ names }

/-- Protecting other names does not change how a keyword is staged. -/
theorem stage_guard {names : List String} (out : keyword.name ∉ names) (owner : Option String) :
    (guard table names).stage keyword owner =
      (table.stage keyword owner).map (guard · names) := by
  have same : (guard table names).isProtected keyword.name = table.isProtected keyword.name := by
    simp [guard, isProtected, out]
  rw [VocabularyTable.stage, VocabularyTable.stage, same]
  show (if _ then _ else if _ then _ else if (table.contains keyword.name && !table.overwrite) = true
    then _ else _) = _
  split
  · rfl
  split
  · rfl
  split <;> rfl

theorem guard_guard (table : VocabularyTable) (names names' : List String) :
    guard (guard table names) names' = guard table (names ++ names') := by
  simp [guard, List.append_assoc]

/-- The names that a vocabulary with these members protects. -/
def guarded (vocabulary : Vocabulary) (keywords : List Keyword) : List String :=
  if vocabulary.isProtected then keywords.map (·.name) else []

theorem guarded_cons (vocabulary : Vocabulary) (keyword : Keyword) (keywords : List Keyword) :
    guarded vocabulary (keyword :: keywords) =
      guarded vocabulary [keyword] ++ guarded vocabulary keywords := by
  unfold guarded
  split <;> rfl

theorem stageMember_ok (h : stage keyword (some vocabulary.name) table = .ok () next) :
    stageMember vocabulary keyword table = .ok () (guard next (guarded vocabulary [keyword])) := by
  rw [stageMember, bind_ok h, guarded]
  split
  · rfl
  · show EStateM.Result.ok () next = _
    simp [guard]

/-- The members of a vocabulary are staged in place as they are in a table, and protected on the
    way. -/
theorem forM_stageMember (distinct : (keywords.map (·.name)).Nodup) {names : List String}
    (apart : ∀ k ∈ keywords, k.name ∉ names) :
    match keywords.foldlM (fun t k => t.stage k (some vocabulary.name)) table with
    | .ok staged => forM keywords (stageMember vocabulary) (guard table names) =
        .ok () (guard staged (names ++ guarded vocabulary keywords))
    | .error e => ∃ left,
        forM keywords (stageMember vocabulary) (guard table names) = .error (some e) left := by
  induction keywords generalizing table names with
  | nil =>
    have none : guarded vocabulary [] = [] := ite_self _
    rw [none, List.append_nil]
    rfl
  | cons first rest ih =>
    obtain ⟨fresh, distinct⟩ := List.nodup_cons.1 distinct
    have staged := stage_eq (guard table names) first (some vocabulary.name)
    rw [stage_guard (apart first List.mem_cons_self)] at staged
    rw [List.foldlM_cons, List.forM_cons]
    cases made : table.stage first (some vocabulary.name) with
    | error e =>
      rw [made] at staged
      exact ⟨_, bind_error (bind_error staged)⟩
    | ok middle =>
      rw [made] at staged
      have others : ∀ k ∈ rest, k.name ∉ names ++ guarded vocabulary [first] := by
        intro k mem
        have other : k.name ≠ first.name := fun same => fresh (List.mem_map.2 ⟨k, mem, same⟩)
        have := apart k (List.mem_cons_of_mem _ mem)
        unfold guarded
        split <;> simp_all
      rw [bind_ok (stageMember_ok staged), guard_guard, guarded_cons vocabulary first rest, ← List.append_assoc]
      exact ih distinct others

/-- A vocabulary is added in place as it is to a table. -/
theorem addVocabulary_agrees (distinct : (table.keywords.map (·.name)).Nodup) :
    addVocabulary vocabulary table =
      settle table ((table.addVocabulary vocabulary).map ((), ·)) := by
  have got : (get : InPlace VocabularyTable) table = .ok table table := rfl
  rw [addVocabulary, addVocabulary_eq, bind_ok got]
  split
  · rfl
  cases twice : repeated? [] (vocabulary.keywords.map (·.name)) with
  | some name => rfl
  | none =>
    have own := (nodup_of_repeated? twice).1
    have staged := @forM_stageMember table _ vocabulary own [] fun _ _ => List.not_mem_nil
    have same : guard table [] = table := by simp [guard]
    rw [same, List.nil_append] at staged
    cases made : vocabulary.keywords.foldlM
        (fun t k => VocabularyTable.stage t k (some vocabulary.name)) table with
    | error e =>
      rw [made] at staged
      obtain ⟨left, failed⟩ := staged
      exact onCopy_error (bind_error failed)
    | ok copy =>
      rw [made] at staged
      have distinct' : ((copy.enroll vocabulary).keywords.map (·.name)).Nodup := by
        rcases table.stageAll_cases own (some vocabulary.name) with ⟨-, eq⟩ | ⟨-, e, failed, -⟩
        · cases made.symm.trans eq
          exact distinct_join distinct own
        · cases made.symm.trans failed
      exact onCopy_settle ((bind_ok staged).trans (reorder_eq distinct'))

/-- A keyword is removed in place as it is from a table, where finding the order does not fail. -/
theorem removeKeyword_agrees (ordered : table.IsOrdered) (name : String) :
    removeKeyword name table = settle table (table.removeKeyword name) := by
  have got : (get : InPlace VocabularyTable) table = .ok table table := rfl
  rw [removeKeyword, bind_ok got]
  rcases table.removeKeyword_cases name with ⟨guarded, eq⟩ | ⟨free, missing, eq⟩ | ⟨free, keyword, found, eq⟩
  · rw [eq, if_pos guarded]
    rfl
  · rw [eq, if_neg (by simp [free]), missing]
    rfl
  · rw [eq, if_neg (by simp [free]), found]
    have found := reorder_eq (distinct_without ordered.distinct [name])
    rw [ordered.reorder_without] at found ⊢
    exact bind_ok found

/-- A vocabulary is removed in place as it is from a table, where finding the order does not
    fail. -/
theorem removeVocabulary_agrees (ordered : table.IsOrdered) (name : String) :
    removeVocabulary name table = settle table (table.removeVocabulary name) := by
  have got : (get : InPlace VocabularyTable) table = .ok table table := rfl
  rw [removeVocabulary, bind_ok got]
  rcases table.removeVocabulary_cases name with
    ⟨unknown, eq⟩ | ⟨known, member, guarded, eq⟩ | ⟨known, free, eq⟩
  · rw [eq, unknown]
    rfl
  · rw [eq, known, guarded]
    rfl
  · rw [eq, known, free]
    have found := reorder_eq (distinct_leave ordered.distinct name)
    rw [ordered.reorder_leave] at found ⊢
    exact bind_ok found

end InPlace

/-- A change in place gives what it gives of a table, and leaves the table if it fails. -/
theorem Change.inPlace_eq (ordered : table.IsOrdered) (change : Change) :
    change.inPlace table = settle table ((change.apply table).map ((), ·)) := by
  cases change with
  | addKeyword keyword => exact InPlace.addKeyword_agrees ordered.distinct
  | addVocabulary vocabulary => exact InPlace.addVocabulary_agrees ordered.distinct
  | removeKeyword name =>
    have agrees := InPlace.discard_settle (InPlace.removeKeyword_agrees ordered name)
    rw [inPlace, agrees, apply]
    cases table.removeKeyword name <;> rfl
  | removeVocabulary name =>
    have agrees := InPlace.discard_settle (InPlace.removeVocabulary_agrees ordered name)
    rw [inPlace, agrees, apply]
    cases table.removeVocabulary name <;> rfl
  | setValueValidator name validator => rfl

/-- So do several changes, one after the other. -/
theorem runInPlace_eq (ordered : table.IsOrdered) (changes : List Change) :
    table.runInPlace changes = table.run changes := by
  induction changes generalizing table with
  | nil => rfl
  | cons change rest ih =>
    have agrees := change.inPlace_eq ordered
    rw [runInPlace, List.foldl_cons, run, List.foldl_cons, after, agrees]
    cases applied : change.apply table with
    | ok next => exact ih (ordered.apply table next change applied)
    | error e => exact ih ordered

/-- A removal is not refused for cycles. -/
theorem IsOrdered.removeKeyword_ne_cycle (ordered : table.IsOrdered) (name : String)
    (names : List String) : table.removeKeyword name ≠ .error (.cycle names) := by
  intro failed
  rcases table.removeKeyword_cases name with ⟨-, eq⟩ | ⟨-, -, eq⟩ | ⟨-, keyword, -, eq⟩
  · cases eq.symm.trans failed
  · cases eq.symm.trans failed
  · rw [eq, ordered.reorder_without] at failed
    cases failed

theorem IsOrdered.removeVocabulary_ne_cycle (ordered : table.IsOrdered) (name : String)
    (names : List String) : table.removeVocabulary name ≠ .error (.cycle names) := by
  intro failed
  rcases table.removeVocabulary_cases name with ⟨-, eq⟩ | ⟨-, member, -, eq⟩ | ⟨-, -, eq⟩
  · cases eq.symm.trans failed
  · cases eq.symm.trans failed
  · rw [eq, ordered.reorder_leave] at failed
    cases failed

/-- After any changes every keyword that is defined is listed once, the hints have no cycle, and the
    order is the least one that follows them. An addition that nothing else stands against is
    refused exactly if there would be a cycle, with the names on cycles. A removal is not refused
    for that. In place all changes give the same, and no counter would ever go below zero. -/
theorem runInPlace_ordered (overwrite : Bool) (changes : List Change) :
    let table := runInPlace { overwrite := overwrite } changes
    (∀ name, (table.keywords.map (·.name)).count name = if table.contains name then 1 else 0) ∧
      Keyword.IsAcyclic table.keywords ∧
      Keyword.IsLeastOrder table.keywords table.ordered ∧
      (∀ keyword names, table.addKeyword keyword = .error (.cycle names) ↔
        table.Admits keyword ∧
          Keyword.IsCycleReport (table.extend [keyword] none).keywords names) ∧
      (∀ vocabulary names, table.addVocabulary vocabulary = .error (.cycle names) ↔
        table.Accepts vocabulary ∧
          Keyword.IsCycleReport (table.join vocabulary).keywords names) ∧
      (∀ name names, table.removeKeyword name ≠ .error (.cycle names)) ∧
      (∀ name names, table.removeVocabulary name ≠ .error (.cycle names)) ∧
      (∀ change : Change, change.inPlace table = settle table ((change.apply table).map ((), ·))) ∧
      ∀ (change : Change) (left : VocabularyTable), change.inPlace table ≠ .error none left := by
  intro table
  have ordered : table.IsOrdered := by
    have start := IsOrdered.empty overwrite
    have same : table = run { overwrite := overwrite } changes := runInPlace_eq start changes
    exact same ▸ run_isOrdered start changes
  refine ⟨ordered.count_eq, ordered.acyclic, ordered.isLeastOrder,
    fun _ _ => ordered.addKeyword_eq_cycle_iff, fun _ _ => ordered.addVocabulary_eq_cycle_iff,
    ordered.removeKeyword_ne_cycle, ordered.removeVocabulary_ne_cycle, Change.inPlace_eq ordered,
    fun change left failed => ?_⟩
  rw [change.inPlace_eq ordered] at failed
  cases applied : change.apply table <;> rw [applied] at failed <;> cases failed

end VocabularyTable

end JsonSchema
