import JsonSchema.Proofs.Vocabulary.InPlace

/-!
# The order of definition

A table lists its keywords in the order in which they were last defined. A keyword that is defined
again goes to the end of the list, wherever it was.

* `VocabularyTable.Occurrence`, `VocabularyTable.history`: what happens to keywords during changes.
* `VocabularyTable.IsFirst`: the first definition of a keyword since it was last removed.
* `VocabularyTable.IsLast`: the last definition of a keyword that was not removed after it.
* `VocabularyTable.Lists`: the names of the defined keywords in the order of their last definitions.
* `VocabularyTable.Lists.concat`, `VocabularyTable.Lists.runInPlace`: an occurrence keeps a list to
  its history, and so do changes.
* `VocabularyTable.Lists.pairwise_isFirst_iff`: when this is also the order of first definitions.
* `VocabularyTable.runInPlace_lists`: the list of a table after any changes.
-/

namespace JsonSchema

namespace VocabularyTable

/-! ## Histories -/

/-- What happens to a keyword. -/
inductive Occurrence where
  | defines (name : String)
  | removes (name : String)
deriving DecidableEq, Repr

/-- The keyword that something happens to. -/
def Occurrence.name : Occurrence → String
  | defines name => name
  | removes name => name

/-- What happens to keywords in a change that succeeds. -/
def Change.occurrences (table : VocabularyTable) : Change → List Occurrence
  | addKeyword keyword => [.defines keyword.name]
  | addVocabulary vocabulary => (vocabulary.keywords.map (·.name)).map .defines
  | removeKeyword name => [.removes name]
  | removeVocabulary name =>
    if table.vocabularies.contains name then (table.members name).map .removes else []
  | setValueValidator _ _ => []

/-- What happens to keywords in several changes, of which those that fail do nothing. -/
def history (table : VocabularyTable) : List Change → List Occurrence
  | [] => []
  | change :: rest =>
    match change.inPlace table with
    | .ok _ next => change.occurrences table ++ history next rest
    | .error _ left => history left rest

variable {table next : VocabularyTable} {name other : String} {names : List String}

/-- At this position a keyword is defined for the first time since it was last removed. -/
structure IsFirst (past : List Occurrence) (name : String) (i : Nat) : Prop where
  defines : past[i]? = some (.defines name)
  stays : ∀ j, i < j → past[j]? ≠ some (.removes name)
  fresh : ∀ j < i, past[j]? = some (.defines name) → ∃ k, j < k ∧ k < i ∧ past[k]? = some (.removes name)

/-- At this position a keyword is defined, and nothing happens to it later. -/
structure IsLast (past : List Occurrence) (name : String) (i : Nat) : Prop where
  defines : past[i]? = some (.defines name)
  stays : ∀ j occurrence, i < j → past[j]? = some occurrence → occurrence.name ≠ name

/-- The names of the defined keywords in the order of their last definitions. -/
structure Lists (past : List Occurrence) (names : List String) : Prop where
  distinct : names.Nodup
  mem_iff : ∀ name, name ∈ names ↔ ∃ i, IsLast past name i
  ordered : names.Pairwise fun a b => ∀ i j, IsLast past a i → IsLast past b j → i < j

variable {past : List Occurrence} {occurrence : Occurrence} {i j : Nat}

theorem IsLast.lt_length (last : IsLast past name i) : i < past.length :=
  (List.getElem?_eq_some_iff.1 last.defines).1

/-- A position is that of one keyword only. -/
theorem IsFirst.name_eq (first : IsFirst past name i) (first' : IsFirst past other i) :
    name = other :=
  Occurrence.defines.inj (Option.some.inj (first.defines.symm.trans first'.defines))

/-- A keyword has one first definition only. -/
theorem IsFirst.unique (first : IsFirst past name i) (first' : IsFirst past name j) : i = j := by
  have notBefore {i j} (first : IsFirst past name i) (first' : IsFirst past name j) : ¬ i < j := by
    intro before
    obtain ⟨k, behind, -, removed⟩ := first'.fresh i before first.defines
    exact first.stays k behind removed
  exact Nat.le_antisymm (Nat.le_of_not_lt (notBefore first' first))
    (Nat.le_of_not_lt (notBefore first first'))

/-! ## One occurrence more -/

/-- The names that are listed after an occurrence. -/
def Occurrence.apply (names : List String) : Occurrence → List String
  | defines name => names.filter (· ≠ name) ++ [name]
  | removes name => names.filter (· ≠ name)

theorem isLast_concat : IsLast (past ++ [occurrence]) name i ↔
    occurrence = .defines name ∧ i = past.length ∨ occurrence.name ≠ name ∧ IsLast past name i := by
  have newest : (past ++ [occurrence])[past.length]? = some occurrence := by simp
  have older {k : Nat} (inside : k < past.length) : (past ++ [occurrence])[k]? = past[k]? :=
    List.getElem?_append_left inside
  constructor
  · intro last
    have inside := last.lt_length
    rw [List.length_append, List.length_singleton] at inside
    rcases Nat.lt_or_eq_of_le (Nat.le_of_lt_succ inside) with inside | rfl
    · refine .inr ⟨last.stays past.length occurrence inside newest, older inside ▸ last.defines, ?_⟩
      intro k o later there
      refine last.stays k o later ?_
      rw [older (List.getElem?_eq_some_iff.1 there).1, there]
    · exact .inl ⟨Option.some.inj (newest.symm.trans last.defines), rfl⟩
  · rintro (⟨rfl, rfl⟩ | ⟨apart, last⟩)
    · refine ⟨newest, fun k o later there => ?_⟩
      have inside := (List.getElem?_eq_some_iff.1 there).1
      rw [List.length_append, List.length_singleton] at inside
      omega
    · refine ⟨(older last.lt_length).trans last.defines, fun k o later there => ?_⟩
      have inside := (List.getElem?_eq_some_iff.1 there).1
      rw [List.length_append, List.length_singleton] at inside
      rcases Nat.lt_or_eq_of_le (Nat.le_of_lt_succ inside) with inside | rfl
      · exact last.stays k o later (older inside ▸ there)
      · rwa [← Option.some.inj (newest.symm.trans there)]

namespace Lists

theorem nil : Lists [] [] where
  distinct := List.nodup_nil
  mem_iff _ := by
    refine ⟨fun mem => (List.not_mem_nil mem).elim, ?_⟩
    rintro ⟨i, last⟩
    exact absurd last.lt_length (Nat.not_lt_zero i)
  ordered := List.Pairwise.nil

theorem ne_defines_of_mem (mem : name ∈ names.filter (· ≠ occurrence.name)) :
    occurrence ≠ .defines name := by
  rintro rfl
  exact (of_decide_eq_true (List.mem_filter.1 mem).2) rfl

/-- The keywords that an occurrence is not about have the last definitions that they had. -/
theorem mem_others_iff (lists : Lists past names) (occurrence : Occurrence) (name : String) :
    name ∈ names.filter (· ≠ occurrence.name) ↔
      ∃ i, occurrence.name ≠ name ∧ IsLast past name i := by
  rw [List.mem_filter, decide_eq_true_iff, lists.mem_iff, exists_and_left, and_comm, ne_comm]

theorem pairwise_others (lists : Lists past names) (occurrence : Occurrence) :
    (names.filter (· ≠ occurrence.name)).Pairwise fun a b => ∀ i j,
      IsLast (past ++ [occurrence]) a i → IsLast (past ++ [occurrence]) b j → i < j := by
  refine (lists.ordered.filter _).imp_of_mem fun {a b} memA memB lt i j lastA lastB => ?_
  rcases isLast_concat.1 lastA with ⟨same, -⟩ | ⟨-, lastA⟩
  · exact absurd same (ne_defines_of_mem memA)
  rcases isLast_concat.1 lastB with ⟨same, -⟩ | ⟨-, lastB⟩
  · exact absurd same (ne_defines_of_mem memB)
  exact lt i j lastA lastB

/-- An occurrence keeps the list to the history. -/
theorem concat (lists : Lists past names) (occurrence : Occurrence) :
    Lists (past ++ [occurrence]) (occurrence.apply names) := by
  have others := lists.mem_others_iff occurrence
  have before := lists.pairwise_others occurrence
  cases occurrence with
  | defines name =>
    refine ⟨?_, fun other => ?_, ?_⟩
    · refine List.nodup_append.2 ⟨lists.distinct.filter _, List.nodup_singleton name, ?_⟩
      intro a memA b memB same
      rw [same, List.mem_singleton.1 memB] at memA
      exact ne_defines_of_mem memA rfl
    · rw [Occurrence.apply, List.mem_append, List.mem_singleton]
      simp only [isLast_concat, exists_or]
      rw [or_comm]
      refine or_congr ?_ (others other)
      rw [Occurrence.defines.injEq, exists_and_left, eq_comm]
      simp
    · -- the new definition is the last one of all
      refine List.pairwise_append.2 ⟨before, List.pairwise_singleton _ _, ?_⟩
      intro a memA b memB i j lastA lastB
      rw [List.mem_singleton.1 memB] at lastB
      rcases isLast_concat.1 lastB with ⟨-, rfl⟩ | ⟨apart, -⟩
      · rcases isLast_concat.1 lastA with ⟨same, -⟩ | ⟨-, lastA⟩
        · exact absurd same (ne_defines_of_mem memA)
        · exact lastA.lt_length
      · exact absurd rfl apart
  | removes name =>
    refine ⟨lists.distinct.filter _, fun other => ?_, before⟩
    simp only [isLast_concat, reduceCtorEq, false_and, false_or]
    exact others other

theorem append (lists : Lists past names) (more : List Occurrence) :
    Lists (past ++ more) (more.foldl Occurrence.apply names) := by
  induction more generalizing past names with
  | nil =>
    rw [List.append_nil]
    exact lists
  | cons occurrence more ih =>
    have := ih (lists.concat occurrence)
    rwa [List.append_assoc] at this

/-- The list is that of first definitions exactly if the last definitions of keywords follow each
    other as the first ones do. -/
theorem pairwise_isFirst_iff (lists : Lists past names) :
    (names.Pairwise fun a b => ∀ i j, IsFirst past a i → IsFirst past b j → i < j) ↔
      ∀ a b i j i' j', IsFirst past a i → IsFirst past b j → IsLast past a i' → IsLast past b j' →
        i < j → i' < j' := by
  constructor
  · intro sorted a b i j i' j' firstA firstB lastA lastB before
    have apart : a ≠ b := by
      rintro rfl
      exact absurd (firstA.unique firstB) (Nat.ne_of_lt before)
    have memA := (lists.mem_iff a).2 ⟨i', lastA⟩
    have memB := (lists.mem_iff b).2 ⟨j', lastB⟩
    have both := lists.ordered.and sorted
    -- one of the two names stands before the other in the list
    rcases List.Pairwise.forall_of_forall_of_flip (R := fun a b => a ≠ b →
        ((∀ i j, IsLast past a i → IsLast past b j → i < j) ∧
          ∀ i j, IsFirst past a i → IsFirst past b j → i < j) ∨
        ((∀ i j, IsLast past b i → IsLast past a j → i < j) ∧
          ∀ i j, IsFirst past b i → IsFirst past a j → i < j))
      (fun _ _ ne => absurd rfl ne) (both.imp fun h _ => .inl h)
      (both.imp fun h _ => .inr h) memA memB apart with ⟨lt, -⟩ | ⟨-, gt⟩
    · exact lt i' j' lastA lastB
    · exact absurd before (Nat.lt_asymm (gt j i firstB firstA))
  · intro agree
    refine (lists.ordered.and lists.distinct).imp_of_mem ?_
    rintro a b memA memB ⟨lt, apart⟩ i j firstA firstB
    obtain ⟨i', lastA⟩ := (lists.mem_iff a).1 memA
    obtain ⟨j', lastB⟩ := (lists.mem_iff b).1 memB
    rcases Nat.lt_trichotomy i j with before | rfl | behind
    · exact before
    · exact absurd (firstA.name_eq firstB) apart
    · exact absurd (lt i' j' lastA lastB)
        (Nat.lt_asymm (agree b a j i j' i' firstB firstA lastB lastA behind))

end Lists

/-! ## Changes -/

theorem foldl_defines (names : List String) {added : List String} (distinct : added.Nodup) :
    (added.map Occurrence.defines).foldl Occurrence.apply names =
      names.filter (· ∉ added) ++ added := by
  induction added generalizing names with
  | nil => simp
  | cons first rest ih =>
    obtain ⟨fresh, distinct⟩ := List.nodup_cons.1 distinct
    have stays : [first].filter (· ∉ rest) = [first] := by simpa using fresh
    rw [List.map_cons, List.foldl_cons, ih _ distinct, Occurrence.apply, List.filter_append, stays,
      List.filter_filter, List.append_assoc, List.singleton_append]
    refine congrArg (· ++ first :: rest) (List.filter_congr fun name _ => ?_)
    simp [Bool.and_comm]

theorem foldl_removes (names removed : List String) :
    (removed.map Occurrence.removes).foldl Occurrence.apply names = names.filter (· ∉ removed) := by
  induction removed generalizing names with
  | nil => simp
  | cons first rest ih =>
    rw [List.map_cons, List.foldl_cons, ih, Occurrence.apply, List.filter_filter]
    refine List.filter_congr fun name _ => ?_
    simp [Bool.and_comm]

theorem names_without (table : VocabularyTable) (removed : List String) :
    (table.without removed).keywords.map (·.name) =
      (table.keywords.map (·.name)).filter (· ∉ removed) := by
  rw [List.filter_map]
  refine congrArg _ (List.filter_congr fun k _ => ?_)
  simp

theorem names_extend (table : VocabularyTable) (keywords : List Keyword) (owner : Option String) :
    (table.extend keywords owner).keywords.map (·.name) =
      (table.keywords.map (·.name)).filter (· ∉ keywords.map (·.name)) ++
        keywords.map (·.name) := by
  rw [← names_without]
  exact List.map_append

theorem names_reorder (h : table.reorder = .ok next) :
    next.keywords.map (·.name) = table.keywords.map (·.name) := by
  rw [reorder_ok h]

theorem exists_of_map_eq_ok {ε α β : Type} {x : Except ε α} {f : α → β} {b : β}
    (h : x.map f = .ok b) : ∃ a, x = .ok a ∧ f a = b := by
  cases x with
  | ok a => exact ⟨a, rfl, Except.ok.inj h⟩
  | error e => cases h

theorem names_addKeyword {keyword : Keyword} (h : table.addKeyword keyword = .ok next) :
    next.keywords.map (·.name) =
      (table.keywords.map (·.name)).filter (· ≠ keyword.name) ++ [keyword.name] := by
  rcases table.addKeyword_cases keyword with ⟨-, eq⟩ | ⟨-, e, failed, -⟩
  · rw [names_reorder (eq.symm.trans h), names_extend]
    exact (foldl_defines _ (List.nodup_singleton keyword.name)).symm
  · cases failed.symm.trans h

theorem names_addVocabulary {vocabulary : Vocabulary}
    (h : table.addVocabulary vocabulary = .ok next) :
    (vocabulary.keywords.map (·.name)).Nodup ∧ next.keywords.map (·.name) =
      (table.keywords.map (·.name)).filter (· ∉ vocabulary.keywords.map (·.name)) ++
        vocabulary.keywords.map (·.name) := by
  rcases table.addVocabulary_cases vocabulary with ⟨accepts, eq⟩ | ⟨-, e, failed, -⟩
  · rw [names_reorder (eq.symm.trans h)]
    exact ⟨accepts.distinct, names_extend table vocabulary.keywords (some vocabulary.name)⟩
  · cases failed.symm.trans h

theorem names_removeKeyword {removed : Option Keyword}
    (h : table.removeKeyword name = .ok (removed, next)) :
    next.keywords.map (·.name) = (table.keywords.map (·.name)).filter (· ≠ name) := by
  rcases table.removeKeyword_cases name with ⟨-, eq⟩ | ⟨-, missing, eq⟩ | ⟨-, keyword, -, eq⟩
  · cases eq.symm.trans h
  · cases eq.symm.trans h
    refine (List.filter_eq_self.2 fun other mem => ?_).symm
    obtain ⟨k, memK, rfl⟩ := List.mem_map.1 mem
    have apart := List.find?_eq_none.1 missing k memK
    simpa using apart
  · obtain ⟨rest, found, same⟩ := exists_of_map_eq_ok (eq.symm.trans h)
    cases same
    rw [names_reorder found, names_without]
    simp

theorem names_removeVocabulary {removed : Bool}
    (h : table.removeVocabulary name = .ok (removed, next)) :
    next.keywords.map (·.name) = if table.vocabularies.contains name then
      (table.keywords.map (·.name)).filter (· ∉ table.members name)
    else table.keywords.map (·.name) := by
  rcases table.removeVocabulary_cases name with ⟨unknown, eq⟩ | ⟨-, _, -, eq⟩ | ⟨known, -, eq⟩
  · cases eq.symm.trans h
    rw [unknown, if_neg Bool.false_ne_true]
  · cases eq.symm.trans h
  · obtain ⟨rest, found, same⟩ := exists_of_map_eq_ok (eq.symm.trans h)
    cases same
    have left : next.keywords.map (·.name) = (table.leave name).keywords.map (·.name) :=
      names_reorder found
    rw [left, if_pos known, ← names_without]
    rfl

/-- A change lists the names that its occurrences list. -/
theorem Change.names_apply {change : Change} (h : change.apply table = .ok next) :
    next.keywords.map (·.name) =
      (change.occurrences table).foldl Occurrence.apply (table.keywords.map (·.name)) := by
  cases change with
  | addKeyword keyword => exact names_addKeyword h
  | addVocabulary vocabulary =>
    obtain ⟨distinct, names⟩ := names_addVocabulary h
    rw [occurrences, foldl_defines _ distinct, names]
  | removeKeyword name =>
    obtain ⟨⟨removed, rest⟩, ok, same⟩ := exists_of_map_eq_ok h
    cases same
    exact names_removeKeyword ok
  | removeVocabulary name =>
    obtain ⟨⟨removed, rest⟩, ok, same⟩ := exists_of_map_eq_ok h
    cases same
    rw [occurrences, names_removeVocabulary ok]
    split
    · rw [foldl_removes]
    · rfl
  | setValueValidator name validator =>
    cases h
    rfl

theorem Change.apply_of_inPlace (change : Change) (ordered : table.IsOrdered)
    (h : change.inPlace table = .ok () next) : change.apply table = .ok next := by
  rw [change.inPlace_eq ordered] at h
  cases applied : change.apply table with
  | ok made =>
    rw [applied] at h
    cases h
    rfl
  | error e =>
    rw [applied] at h
    cases h

/-- Changes keep the list of a table to its history. -/
theorem Lists.runInPlace (ordered : table.IsOrdered)
    (lists : Lists past (table.keywords.map (·.name))) (changes : List Change) :
    Lists (past ++ history table changes) ((table.runInPlace changes).keywords.map (·.name)) := by
  induction changes generalizing table past with
  | nil =>
    rw [history, List.append_nil]
    exact lists
  | cons change rest ih =>
    rw [VocabularyTable.runInPlace, List.foldl_cons, history]
    cases made : change.inPlace table with
    | ok u next =>
      have applied := change.apply_of_inPlace ordered made
      dsimp only
      rw [← List.append_assoc]
      refine ih (ordered.apply table next change applied) ?_
      rw [Change.names_apply applied]
      exact lists.append _
    | error e left =>
      have same : left = table := by
        rw [change.inPlace_eq ordered] at made
        cases applied : change.apply table <;> rw [applied] at made <;> cases made
        rfl
      subst same
      exact ih ordered lists

/-- After any changes a table lists each defined keyword once, in the order of their last
    definitions, and this order decides where hints leave a choice. It is the order of first
    definitions exactly if first and last definitions follow each other alike. What is defined again,
    alone or with a vocabulary, goes to the end, and the others stay as they are. -/
theorem runInPlace_lists (overwrite : Bool) (changes : List Change) :
    let start : VocabularyTable := { overwrite := overwrite }
    let table := start.runInPlace changes
    let past := start.history changes
    let names := table.keywords.map (·.name)
    (∀ name, names.count name = if table.contains name then 1 else 0) ∧
      (∀ name, table.contains name = true ↔ ∃ i, IsLast past name i) ∧
      (names.Pairwise fun a b => ∀ i j, IsLast past a i → IsLast past b j → i < j) ∧
      Keyword.IsLeastOrder table.keywords table.ordered ∧
      ((names.Pairwise fun a b => ∀ i j, IsFirst past a i → IsFirst past b j → i < j) ↔
        ∀ a b i j i' j', IsFirst past a i → IsFirst past b j → IsLast past a i' →
          IsLast past b j' → i < j → i' < j') ∧
      (∀ keyword next, InPlace.addKeyword keyword table = .ok () next →
        next.keywords.map (·.name) = names.filter (· ≠ keyword.name) ++ [keyword.name]) ∧
      ∀ vocabulary next, InPlace.addVocabulary vocabulary table = .ok () next →
        next.keywords.map (·.name) = names.filter (· ∉ vocabulary.keywords.map (·.name)) ++
          vocabulary.keywords.map (·.name) := by
  intro start table past names
  have begins : start.IsOrdered := IsOrdered.empty overwrite
  have ordered : table.IsOrdered := by
    have same : table = start.run changes := runInPlace_eq begins changes
    exact same ▸ run_isOrdered begins changes
  have lists : Lists past names := Lists.nil.runInPlace begins changes
  refine ⟨ordered.count_eq, fun name => ?_, lists.ordered, ordered.isLeastOrder,
    lists.pairwise_isFirst_iff, fun keyword next made => ?_, fun vocabulary next made => ?_⟩
  · rw [← lists.mem_iff, ← List.count_pos_iff, ordered.count_eq]
    split <;> simp_all
  · have applied : table.addKeyword keyword = .ok next :=
      (Change.addKeyword keyword).apply_of_inPlace ordered made
    exact names_addKeyword applied
  · have applied : table.addVocabulary vocabulary = .ok next :=
      (Change.addVocabulary vocabulary).apply_of_inPlace ordered made
    exact (names_addVocabulary applied).2

/-- A keyword that is defined again behind another one does not keep its place. -/
theorem runInPlace_moves_redefined :
    let start : VocabularyTable := {}
    let changes := ["a", "b", "a"].map fun name => Change.addKeyword { name := name }
    let past := start.history changes
    IsFirst past "a" 0 ∧ IsFirst past "b" 1 ∧
      (start.runInPlace changes).keywords.map (·.name) = ["b", "a"] := by
  intro start changes past
  have happened : past = [.defines "a", .defines "b", .defines "a"] := by
    show history {} (["a", "b", "a"].map fun name => Change.addKeyword { name := name }) = _
    decide +kernel
  have unremoved (name : String) (j : Nat) : past[j]? ≠ some (.removes name) := fun there => by
    have mem := List.mem_of_getElem? there
    simp [happened] at mem
  refine ⟨⟨by rw [happened]; rfl, fun j _ => unremoved _ j, fun j before => ?_⟩,
    ⟨by rw [happened]; rfl, fun j _ => unremoved _ j, fun j before there => ?_⟩, by decide +kernel⟩
  · exact absurd before (Nat.not_lt_zero j)
  · rw [Nat.lt_one_iff.1 before, happened] at there
    have same : "a" = "b" := Occurrence.defines.inj (Option.some.inj there)
    exact absurd same (by decide)

end VocabularyTable

end JsonSchema
