import JsonSchema.Proofs.Vocabulary.InPlace

/-!
# Protected keywords

The keywords of a protected vocabulary stay what they are, whatever is added or removed after that,
and a change that fails leaves the table as it was.

* `VocabularyTable.owner?`: the vocabulary that a keyword belongs to.
* `VocabularyTable.Keeps`: a keyword has the same definition and owner in a later table.
* `VocabularyTable.apply_keeps`: a change keeps what is protected.
* `VocabularyTable.Belongs`, `VocabularyTable.IsGuarded`: a keyword is defined, and belongs to a
  vocabulary that was not removed; this is so of all that is protected.
* `VocabularyTable.runInPlace_protected`: all this after any changes.
-/

namespace JsonSchema

namespace VocabularyTable

variable {table next later : VocabularyTable} {keywords : List Keyword} {owner : Option String}
  {name : String} {vocabulary : Vocabulary}

/-! ## Owners -/

/-- The vocabulary that a keyword belongs to. -/
def owner? (table : VocabularyTable) (name : String) : Option String :=
  Bindings.find? table.owners name

theorem owner?_without (table : VocabularyTable) (names : List String) (name : String) :
    (table.without names).owner? name = if name ∈ names then none else table.owner? name := by
  have filtered : ∀ owners : Bindings String String,
      Bindings.find? (owners.filter (!names.contains ·.1)) name =
        if name ∈ names then none else owners.find? name := by
    intro owners
    induction owners with
    | nil => exact (ite_self _).symm
    | cons first rest ih =>
      obtain ⟨key, value⟩ := first
      rw [List.filter_cons, Bindings.find?_cons]
      by_cases same : key = name
      · subst same
        by_cases mem : key ∈ names
        · rw [if_neg (by simpa using mem), ih, if_pos mem, if_pos mem]
        · rw [if_pos (by simpa using mem), Bindings.find?_cons, if_pos rfl, if_pos rfl, if_neg mem]
      · rw [if_neg same, ← ih]
        split
        · rw [Bindings.find?_cons, if_neg same]
        · rfl
  exact filtered table.owners

theorem owner?_extend (table : VocabularyTable) (keywords : List Keyword) (owner : Option String)
    (name : String) :
    (table.extend keywords owner).owner? name = if name ∈ keywords.map (·.name)
      then owner else table.owner? name := by
  have added : Bindings.find? (keywords.flatMap fun k => (owner.map (k.name, ·)).toList) name =
      if name ∈ keywords.map (·.name) then owner else none := by
    cases owner with
    | none =>
      have nothing : (keywords.flatMap fun k => ((none : Option String).map (k.name, ·)).toList) = [] :=
        List.flatMap_eq_nil_iff.2 fun _ _ => rfl
      rw [nothing, ite_self]
      rfl
    | some owner =>
      induction keywords with
      | nil => rfl
      | cons first rest ih =>
        show Bindings.find? ((first.name, owner) :: rest.flatMap fun k => [(k.name, owner)]) name = _
        rw [Bindings.find?_cons]
        by_cases same : first.name = name
        · simp [same]
        · rw [if_neg same]
          refine ih.trans (if_congr ?_ rfl rfl)
          rw [List.map_cons, List.mem_cons, or_iff_right (Ne.symm same)]
  have split : (table.extend keywords owner).owner? name =
      ((table.without (keywords.map (·.name))).owner? name).or
        (Bindings.find? (keywords.flatMap fun k => (owner.map (k.name, ·)).toList) name) :=
    Bindings.find?_append _ _ name
  rw [split, owner?_without, added]
  split
  · rw [Option.none_or]
  · rw [Option.or_none]

theorem mem_members {vocabulary : String} (owned : table.owner? name = some vocabulary) :
    name ∈ table.members vocabulary :=
  List.mem_map.2 ⟨_, List.mem_filter.2 ⟨Bindings.mem_of_find? owned, by simp⟩, rfl⟩

/-! ## What is kept -/

/-- A keyword has the definition and the owner that it had, and is protected. -/
structure Keeps (table later : VocabularyTable) (name : String) : Prop where
  get?_eq : later.get? name = table.get? name
  owner?_eq : later.owner? name = table.owner? name
  isProtected : later.isProtected name = true

theorem Keeps.trans (first : Keeps table next name) (second : Keeps next later name) :
    Keeps table later name :=
  ⟨second.get?_eq.trans first.get?_eq, second.owner?_eq.trans first.owner?_eq, second.isProtected⟩

theorem without_keeps (guarded : table.isProtected name = true) {names : List String}
    (out : name ∉ names) : Keeps table (table.without names) name where
  get?_eq := by rw [get?_without, if_neg out]
  owner?_eq := by rw [owner?_without, if_neg out]
  isProtected := guarded

theorem extend_keeps (guarded : table.isProtected name = true) (out : name ∉ keywords.map (·.name))
    (owner : Option String) : Keeps table (table.extend keywords owner) name where
  get?_eq := by rw [get?_extend, if_neg out]
  owner?_eq := by rw [owner?_extend, if_neg out]
  isProtected := guarded

theorem enroll_keeps (guarded : table.isProtected name = true) (vocabulary : Vocabulary) :
    Keeps table (table.enroll vocabulary) name where
  get?_eq := rfl
  owner?_eq := rfl
  isProtected := List.contains_iff_mem.2 (List.mem_append_left _ (List.contains_iff_mem.1 guarded))

theorem leave_keeps (guarded : table.isProtected name = true) {vocabulary : String}
    (out : name ∉ table.members vocabulary) : Keeps table (table.leave vocabulary) name :=
  have kept := without_keeps guarded out
  ⟨kept.get?_eq, kept.owner?_eq, kept.isProtected⟩

theorem reorder_keeps (kept : Keeps table next name) (h : next.reorder = .ok later) :
    Keeps table later name := by
  obtain rfl := reorder_ok h
  exact ⟨kept.get?_eq, kept.owner?_eq, kept.isProtected⟩

/-- A change keeps what is protected. -/
theorem apply_keeps (guarded : table.isProtected name = true) {change : Change}
    (h : change.apply table = .ok next) : Keeps table next name := by
  have other : ∀ {name'}, table.isProtected name' = false → name ≠ name' := by
    rintro _ free rfl
    rw [guarded] at free
    cases free
  rcases Change.apply_ok h with rfl | ⟨_, _, rfl⟩ | ⟨keyword, admits, h⟩ |
    ⟨vocabulary, accepts, h⟩ | ⟨name', free, h⟩ | ⟨vocabulary, free, h⟩
  · exact ⟨rfl, rfl, guarded⟩
  · exact ⟨rfl, rfl, guarded⟩
  · have out : name ∉ [keyword].map (·.name) := by simpa using other admits.unprotected
    exact reorder_keeps (extend_keeps guarded out none) h
  · have out : name ∉ vocabulary.keywords.map (·.name) := by
      intro mem
      obtain ⟨k, memK, same⟩ := List.mem_map.1 mem
      exact other (accepts.admits k memK).unprotected same.symm
    have kept := extend_keeps guarded out (some vocabulary.name)
    exact reorder_keeps (kept.trans (enroll_keeps kept.isProtected vocabulary)) h
  · have out : name ∉ [name'] := by simpa using other free
    exact reorder_keeps (without_keeps guarded out) h
  · exact reorder_keeps (leave_keeps guarded fun mem => other (free name mem) rfl) h

/-! ## What is protected -/

/-- A keyword is defined, and belongs to a vocabulary that was not removed. -/
structure Belongs (table : VocabularyTable) (name : String) (keyword : Keyword)
    (vocabulary : String) : Prop where
  get?_eq : table.get? name = some keyword
  owner?_eq : table.owner? name = some vocabulary
  known : vocabulary ∈ table.vocabularies

/-- What is protected is defined, and belongs to a vocabulary that was not removed. -/
def IsGuarded (table : VocabularyTable) : Prop :=
  ∀ name, table.isProtected name = true → ∃ keyword vocabulary, table.Belongs name keyword vocabulary

/-- A vocabulary that a protected keyword belongs to is not removed. -/
theorem Belongs.apply {keyword : Keyword} {owner : String} {change : Change}
    (belongs : table.Belongs name keyword owner) (guarded : table.isProtected name = true)
    (h : change.apply table = .ok next) : next.Belongs name keyword owner := by
  have kept := apply_keeps guarded h
  refine ⟨kept.get?_eq.trans belongs.get?_eq, kept.owner?_eq.trans belongs.owner?_eq, ?_⟩
  rcases Change.apply_ok h with rfl | ⟨_, _, rfl⟩ | ⟨keyword, -, h⟩ | ⟨added, -, h⟩ | ⟨_, -, h⟩ |
    ⟨removed, free, h⟩
  · exact belongs.known
  · exact belongs.known
  all_goals obtain rfl := reorder_ok h
  · exact belongs.known
  · exact List.mem_append_left _ belongs.known
  · exact belongs.known
  · refine List.mem_filter.2 ⟨belongs.known, decide_eq_true fun same => ?_⟩
    subst same
    rw [free name (mem_members belongs.owner?_eq)] at guarded
    cases guarded

theorem Belongs.reorder {keyword : Keyword} {owner : String}
    (belongs : table.Belongs name keyword owner) (h : table.reorder = .ok next) :
    next.Belongs name keyword owner := by
  obtain rfl := reorder_ok h
  exact ⟨belongs.get?_eq, belongs.owner?_eq, belongs.known⟩

/-- The keywords of a vocabulary that is added belong to it. -/
theorem join_belongs (distinct : (vocabulary.keywords.map (·.name)).Nodup) {keyword : Keyword}
    (mem : keyword ∈ vocabulary.keywords) :
    (table.join vocabulary).Belongs keyword.name keyword vocabulary.name := by
  have named : keyword.name ∈ vocabulary.keywords.map (·.name) := List.mem_map.2 ⟨_, mem, rfl⟩
  refine ⟨?_, ?_, List.mem_append_right _ (List.mem_singleton_self _)⟩
  · show (table.extend vocabulary.keywords (some vocabulary.name)).get? keyword.name = _
    rw [get?_extend, if_pos named]
    cases found : vocabulary.keywords.find? (·.name == keyword.name) with
    | none => simpa using List.find?_eq_none.1 found keyword mem
    | some other =>
      have same := beq_iff_eq.1 (List.find?_some found :)
      rw [List.inj_on_of_nodup_map distinct (List.mem_of_find?_eq_some found) mem same]
  · show (table.extend vocabulary.keywords (some vocabulary.name)).owner? keyword.name = _
    rw [owner?_extend, if_pos named]

theorem isProtected_join : (table.join vocabulary).isProtected name = true ↔
    table.isProtected name = true ∨
      vocabulary.isProtected = true ∧ ∃ keyword ∈ vocabulary.keywords, keyword.name = name := by
  have names : (table.join vocabulary).protectedNames = table.protectedNames ++
      if vocabulary.isProtected then vocabulary.keywords.map (·.name) else [] := rfl
  rw [isProtected, isProtected, names, List.contains_iff_mem, List.contains_iff_mem, List.mem_append]
  refine or_congr_right ?_
  split
  · next guarded => rw [List.mem_map, and_iff_right guarded]
  · next open_ => exact ⟨fun mem => (List.not_mem_nil mem).elim, fun h => absurd h.1 open_⟩

theorem isProtected_of_reorder (h : table.reorder = .ok next) (name : String) :
    next.isProtected name = table.isProtected name := by
  obtain rfl := reorder_ok h
  rfl

namespace IsGuarded

theorem empty (overwrite : Bool) : IsGuarded { overwrite := overwrite } :=
  fun name guarded => by cases (List.contains_iff_mem.1 guarded : name ∈ [])

/-- A change keeps it so. -/
theorem apply (table next : VocabularyTable) (change : Change) (all : table.IsGuarded)
    (h : change.apply table = .ok next) : next.IsGuarded := by
  intro name guarded
  by_cases old : table.isProtected name = true
  · obtain ⟨keyword, owner, belongs⟩ := all name old
    exact ⟨keyword, owner, belongs.apply old h⟩
  · rcases Change.apply_ok h with rfl | ⟨_, _, rfl⟩ | ⟨keyword, -, h⟩ | ⟨vocabulary, accepts, h⟩ |
      ⟨_, -, h⟩ | ⟨_, -, h⟩
    · exact absurd guarded old
    · exact absurd guarded old
    all_goals rw [isProtected_of_reorder h] at guarded
    · exact absurd guarded old
    · rcases isProtected_join.1 guarded with there | ⟨-, keyword, mem, rfl⟩
      · exact absurd there old
      · exact ⟨keyword, vocabulary.name, (join_belongs accepts.distinct mem).reorder h⟩
    · exact absurd guarded old
    · exact absurd guarded old

end IsGuarded

/-- What is protected belongs where it belongs after any changes. -/
theorem Belongs.run {keyword : Keyword} {owner : String} (belongs : table.Belongs name keyword owner)
    (guarded : table.isProtected name = true) (changes : List Change) :
    (table.run changes).Belongs name keyword owner ∧
      (table.run changes).isProtected name = true :=
  run_induction (P := fun later => later.Belongs name keyword owner ∧ later.isProtected name = true)
    (fun _ _ _ now h => ⟨now.1.apply now.2 h, (apply_keeps now.2 h).isProtected⟩)
    ⟨belongs, guarded⟩ changes

/-- The keywords of a protected vocabulary belong to it when it was added, and are protected. -/
theorem addVocabulary_guards (guarded : vocabulary.isProtected = true)
    (added : table.addVocabulary vocabulary = .ok next) {keyword : Keyword}
    (mem : keyword ∈ vocabulary.keywords) :
    next.Belongs keyword.name keyword vocabulary.name ∧ next.isProtected keyword.name = true := by
  rcases table.addVocabulary_cases vocabulary with ⟨accepts, eq⟩ | ⟨-, e, failed, -⟩
  · have reordered := eq.symm.trans added
    refine ⟨(join_belongs accepts.distinct mem).reorder reordered, ?_⟩
    rw [isProtected_of_reorder reordered, isProtected_join]
    exact .inr ⟨guarded, keyword, mem, rfl⟩
  · cases failed.symm.trans added

/-- After any changes, a change that fails leaves everything in the table as it was. What is
    protected is defined and belongs to a vocabulary, and the definition and the vocabulary stay the
    same, whatever follows. So do those of the keywords of a protected vocabulary from when it is
    added. -/
theorem runInPlace_protected (overwrite : Bool) (changes : List Change) :
    let table := runInPlace { overwrite := overwrite } changes
    (∀ change : Change, change.inPlace table = settle table ((change.apply table).map ((), ·))) ∧
      (∀ (change : Change) (e : Option SchemaError) (left : VocabularyTable),
        change.inPlace table = .error e left → left = table) ∧
      (∀ name, table.isProtected name = true → ∃ keyword owner, ∀ more,
        (table.runInPlace more).Belongs name keyword owner ∧
          (table.runInPlace more).isProtected name = true) ∧
      ∀ (vocabulary : Vocabulary) (next : VocabularyTable), vocabulary.isProtected = true →
        InPlace.addVocabulary vocabulary table = .ok () next → ∀ keyword ∈ vocabulary.keywords,
          ∀ more, (next.runInPlace more).Belongs keyword.name keyword vocabulary.name ∧
            (next.runInPlace more).isProtected keyword.name = true := by
  intro table
  have start := IsOrdered.empty overwrite
  have same : table = run { overwrite := overwrite } changes := runInPlace_eq start changes
  have ordered : table.IsOrdered := same ▸ run_isOrdered start changes
  have all : table.IsGuarded := same ▸ run_induction IsGuarded.apply (.empty overwrite) changes
  refine ⟨Change.inPlace_eq ordered, fun change e left failed => ?_, fun name guarded => ?_,
    fun vocabulary next guarded added keyword mem more => ?_⟩
  · rw [change.inPlace_eq ordered] at failed
    cases applied : change.apply table <;> rw [applied] at failed <;> cases failed
    rfl
  · obtain ⟨keyword, owner, belongs⟩ := all name guarded
    refine ⟨keyword, owner, fun more => ?_⟩
    rw [runInPlace_eq ordered]
    exact belongs.run guarded more
  · rw [InPlace.addVocabulary_agrees ordered.distinct] at added
    cases made : table.addVocabulary vocabulary with
    | error e =>
      rw [made] at added
      cases added
    | ok next' =>
      rw [made] at added
      cases added
      have ordered' : next.IsOrdered := ordered.apply table next (.addVocabulary vocabulary) made
      obtain ⟨belongs, protects⟩ := addVocabulary_guards guarded made mem
      rw [runInPlace_eq ordered']
      exact belongs.run protects more

-- A protected vocabulary takes a keyword over, and the vocabulary that had it is removed.
example :
    let shape : Vocabulary := { name := "shape", keywords := [.informative "a", .informative "b"] }
    let core : Vocabulary := { name := "core", keywords := [.informative "b"], isProtected := true }
    let table := run {} [.addVocabulary shape, .addVocabulary core, .removeVocabulary "shape"]
    (table.keywords.map (·.name), table.owner? "b", table.vocabularies) =
      (["b"], some "core", ["core"]) := by
  decide

end VocabularyTable

end JsonSchema
