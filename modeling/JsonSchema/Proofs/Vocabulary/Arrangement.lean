import JsonSchema.Vocabulary
import Mathlib.Data.List.Nodup
import Mathlib.Data.List.Perm.Subperm
import Mathlib.Data.Set.Finite.Basic
import Mathlib.Data.String.Basic
import Mathlib.Logic.Relation
import Mathlib.Order.WellFounded

/-!
# The order of application

A keyword may ask to be applied before or after others. Chains of such hints may lead back to
where they began, and then there is no order that follows all of them.

Keywords are arranged by taking, each time, the first that no hint holds back. If the hints have
no cycle this takes them all, and of all the orders that follow the hints it gives the one in which
keywords that were defined early come as early as can be.

* `Keyword.Hints`: a hint among some keywords puts one before another.
* `Keyword.OnCycle`, `Keyword.IsAcyclic`: a chain of hints leads from a keyword back to it, and
  none does.
* `Keyword.onCycle_iff`: the search for cycles finds them. Its rounds are enough, since each but
  the last reaches a keyword that was not reached before.
* `Keyword.Follows`: an order follows every hint.
* `Keyword.IsLeastOrder`: an order that follows the hints and, by the positions of the definitions,
  comes before all others that do.
* `Keyword.IsAcyclic.arrange_isLeastOrder`, `Keyword.isAcyclic_of_length_arrange`: the arrangement is
  such an order if the hints have no cycle, and is not complete if they have one.
* `Keyword.order_eq`: what `Keyword.order` gives.
-/

namespace JsonSchema

namespace Keyword

variable {keywords : List Keyword} {names : List String} {name : String} {j k : Keyword}

/-! ## Cycles -/

/-- Among these keywords, a hint puts `j` before `k`. -/
def Hints (keywords : List Keyword) (j k : Keyword) : Prop :=
  j ∈ keywords ∧ k ∈ keywords ∧ j.precedes k = true

/-- A chain of hints leads from a keyword back to it. -/
def OnCycle (keywords : List Keyword) (k : Keyword) : Prop :=
  Relation.TransGen (Hints keywords) k k

/-- No chain of hints leads from a keyword back to it. -/
def IsAcyclic (keywords : List Keyword) : Prop := ∀ k, ¬ OnCycle keywords k

theorem Hints.mono {more : List Keyword} (sub : keywords ⊆ more) (h : Hints keywords j k) :
    Hints more j k :=
  ⟨sub h.1, sub h.2.1, h.2.2⟩

/-- Fewer keywords have no new cycles. -/
theorem IsAcyclic.of_subset {fewer : List Keyword} (acyclic : IsAcyclic keywords)
    (sub : fewer ⊆ keywords) : IsAcyclic fewer := by
  have le : Hints fewer ≤ Hints keywords := fun _ _ h => h.mono sub
  exact fun k cycle => acyclic k (Relation.TransGen.mono le k k cycle)

theorem OnCycle.mem (cycle : OnCycle keywords k) : k ∈ keywords := by
  obtain ⟨_, hint, -⟩ := Relation.TransGen.head'_iff.1 cycle
  exact hint.1

/-! ## The search for cycles -/

theorem mem_successors :
    name ∈ successors keywords names ↔
      ∃ j k, Hints keywords j k ∧ j.name ∈ names ∧ k.name = name := by
  simp only [successors, List.mem_map, List.mem_filter, List.any_eq_true, Bool.and_eq_true,
    List.contains_iff_mem]
  constructor
  · rintro ⟨k, ⟨memK, j, memJ, named, precedes⟩, rfl⟩
    exact ⟨j, k, ⟨memJ, memK, precedes⟩, named, rfl⟩
  · rintro ⟨j, k, ⟨memJ, memK, precedes⟩, named, rfl⟩
    exact ⟨k, ⟨memK, j, memJ, named, precedes⟩, rfl⟩

theorem subset_reachable (keywords : List Keyword) (fuel : Nat) (names : List String) :
    names ⊆ reachable keywords fuel names := by
  induction fuel generalizing names with
  | zero => exact fun _ mem => mem
  | succ fuel ih =>
    rw [reachable]
    split
    · exact fun _ mem => mem
    · exact fun _ mem => ih _ (List.mem_append_left _ mem)

/-- What holds of some names, and is passed on by hints, holds of all that is reached. -/
theorem reachable_subset {P : String → Prop} (step : ∀ j k, Hints keywords j k → P j.name → P k.name)
    (fuel : Nat) (start : ∀ name ∈ names, P name) :
    ∀ name ∈ reachable keywords fuel names, P name := by
  induction fuel generalizing names with
  | zero => exact start
  | succ fuel ih =>
    rw [reachable]
    split
    · exact start
    · refine ih fun name mem => ?_
      rcases List.mem_append.1 mem with old | new
      · exact start name old
      · obtain ⟨j, k, hint, named, rfl⟩ := mem_successors.1 (List.mem_filter.1 new).1
        exact step j k hint (start _ named)

/-- The keywords that a search has not reached. -/
def unreached (keywords : List Keyword) (names : List String) : List Keyword :=
  keywords.filter (!names.contains ·.name)

theorem mem_unreached : k ∈ unreached keywords names ↔ k ∈ keywords ∧ k.name ∉ names := by
  simp [unreached]

theorem length_unreached_lt {next : List String} (mem : k ∈ unreached keywords names)
    (reached : k.name ∈ next) :
    (unreached keywords (names ++ next)).length < (unreached keywords names).length := by
  have less : unreached keywords (names ++ next) =
      (unreached keywords names).filter (!next.contains ·.name) := by
    rw [unreached, unreached, List.filter_filter]
    exact List.filter_congr fun _ _ => by simp [Bool.and_comm]
  rw [less, List.length_filter_lt_length_iff_exists]
  exact ⟨k, mem, by simpa using reached⟩

/-- What a hint of something that is reached leads to is reached, if the rounds are enough. -/
theorem reachable_closed {fuel : Nat} (enough : (unreached keywords names).length ≤ fuel)
    (hint : Hints keywords j k) (reached : j.name ∈ reachable keywords fuel names) :
    k.name ∈ reachable keywords fuel names := by
  induction fuel generalizing names with
  | zero =>
    have nothing : unreached keywords names = [] := List.length_eq_zero_iff.1 (Nat.le_zero.1 enough)
    by_contra out
    have left : k ∈ unreached keywords names := mem_unreached.2 ⟨hint.2.1, out⟩
    rw [nothing] at left
    cases left
  | succ fuel ih =>
    rw [reachable] at reached ⊢
    split at reached
    · next stop =>
      rw [if_pos stop]
      by_contra out
      have next : k.name ∈ (successors keywords names).filter (!names.contains ·) :=
        List.mem_filter.2 ⟨mem_successors.2 ⟨j, k, hint, reached, rfl⟩, by simpa using out⟩
      rw [List.isEmpty_iff.1 stop] at next
      cases next
    · next go =>
      rw [if_neg go]
      refine ih ?_ reached
      obtain ⟨name, new⟩ := List.exists_mem_of_ne_nil _ fun h => go (List.isEmpty_iff.2 h)
      obtain ⟨follows, fresh⟩ := List.mem_filter.1 new
      obtain ⟨i, l, hint', -, rfl⟩ := mem_successors.1 follows
      have left : l ∈ unreached keywords names :=
        mem_unreached.2 ⟨hint'.2.1, by simpa using fresh⟩
      have := length_unreached_lt left new
      omega

/-- A keyword is found to be on a cycle if and only if it is, as long as no two keywords share a
    name. -/
theorem onCycle_iff (distinct : (keywords.map (·.name)).Nodup) (mem : k ∈ keywords) :
    onCycle keywords k = true ↔ OnCycle keywords k := by
  rw [onCycle, List.contains_iff_mem]
  constructor
  · intro reached
    -- all that is reached is the name of something that a chain of hints leads to
    let P (name : String) : Prop :=
      ∃ l ∈ keywords, l.name = name ∧ Relation.TransGen (Hints keywords) k l
    have step : ∀ i l, Hints keywords i l → P i.name → P l.name := by
      rintro i l hint ⟨i', memI, same, chain⟩
      cases List.inj_on_of_nodup_map distinct memI hint.1 same
      exact ⟨l, hint.2.1, rfl, chain.tail hint⟩
    have start : ∀ name ∈ successors keywords [k.name], P name := by
      intro name mem'
      obtain ⟨i, l, hint, named, rfl⟩ := mem_successors.1 mem'
      cases List.inj_on_of_nodup_map distinct hint.1 mem (List.mem_singleton.1 named)
      exact ⟨l, hint.2.1, rfl, .single hint⟩
    obtain ⟨l, memL, same, chain⟩ := reachable_subset step keywords.length start _ reached
    cases List.inj_on_of_nodup_map distinct memL mem same
    exact chain
  · intro cycle
    have chained : ∀ l, Relation.TransGen (Hints keywords) k l →
        l.name ∈ reachable keywords keywords.length (successors keywords [k.name]) := by
      intro l chain
      induction chain with
      | single hint =>
        refine subset_reachable _ _ _ (mem_successors.2 ⟨k, _, hint, ?_, rfl⟩)
        exact List.mem_singleton_self _
      | tail _ hint ih => exact reachable_closed (List.length_filter_le _ _) hint ih
    exact chained k cycle

end Keyword

namespace Keyword

variable {keywords list : List Keyword} {j k : Keyword} {n : Nat}

/-! ## Orders that follow the hints -/

/-- How many keywords come before the one of the same name. -/
def position (list : List Keyword) (k : Keyword) : Nat := list.findIdx (·.name == k.name)

/-- Of two keywords in the list that a hint puts into an order, the first comes first. -/
def Follows (list : List Keyword) : Prop :=
  ∀ j ∈ list, ∀ k ∈ list, j.precedes k = true → position list j < position list k

/-- An order of the keywords that follows every hint. Every other such order comes after it, by the
    positions of the definitions from the first keyword on. -/
structure IsLeastOrder (keywords ordered : List Keyword) : Prop where
  perm : ordered.Perm keywords
  follows : Follows ordered
  least : ∀ other : List Keyword, other.Perm keywords → Follows other → other = ordered ∨
    List.Lex (· < ·) (ordered.map (position keywords)) (other.map (position keywords))

theorem position_cons (k j : Keyword) (list : List Keyword) :
    position (k :: list) j = if k.name = j.name then 0 else position list j + 1 := by
  rw [position, position, List.findIdx_cons]
  by_cases same : k.name = j.name
  · simp [same]
  · rw [if_neg same, beq_false_of_ne same, cond_false]

/-- Where names are distinct, positions go up. -/
theorem pairwise_position (distinct : (list.map (·.name)).Nodup) :
    list.Pairwise fun j k => position list j < position list k := by
  induction list with
  | nil => exact .nil
  | cons first rest ih =>
    obtain ⟨fresh, distinct⟩ := List.nodup_cons.1 distinct
    have other : ∀ k ∈ rest, first.name ≠ k.name := fun k mem same =>
      fresh (List.mem_map.2 ⟨k, mem, same.symm⟩)
    refine List.pairwise_cons.2 ⟨fun k mem => ?_, (ih distinct).imp_of_mem ?_⟩
    · rw [position_cons, position_cons, if_pos rfl, if_neg (other k mem)]
      omega
    · intro j k memJ memK lt
      rw [position_cons, position_cons, if_neg (other j memJ), if_neg (other k memK)]
      omega

/-- An order that follows the hints shows that they have no cycle. -/
theorem Follows.isAcyclic (follows : Follows list) (sub : keywords ⊆ list) : IsAcyclic keywords := by
  intro k cycle
  have up : ∀ l, Relation.TransGen (Hints keywords) k l → position list k < position list l := by
    intro l chain
    induction chain with
    | single hint => exact follows k (sub hint.1) _ (sub hint.2.1) hint.2.2
    | tail _ hint ih => exact Nat.lt_trans ih (follows _ (sub hint.1) _ (sub hint.2.1) hint.2.2)
  exact Nat.lt_irrefl _ (up k cycle)

theorem Follows.tail (distinct : ((k :: list).map (·.name)).Nodup) (follows : Follows (k :: list)) :
    Follows list := by
  intro i memI l memL precedes
  have before := follows i (List.mem_cons_of_mem _ memI) l (List.mem_cons_of_mem _ memL) precedes
  have other : ∀ m ∈ list, k.name ≠ m.name := fun m mem same =>
    (List.nodup_cons.1 distinct).1 (List.mem_map.2 ⟨m, mem, same.symm⟩)
  rw [position_cons, position_cons, if_neg (other i memI), if_neg (other l memL)] at before
  omega

/-- No hint puts anything before the first keyword of an order that follows the hints. -/
theorem Follows.head_free (follows : Follows (k :: list)) (mem : j ∈ k :: list) :
    j.precedes k = false := by
  by_contra precedes
  have before := follows j mem k List.mem_cons_self (Bool.not_eq_false _ ▸ precedes)
  rw [position_cons k k, if_pos rfl] at before
  exact Nat.not_lt_zero _ before

/-! ## Free keywords -/

/-- Whether no hint holds a keyword back. -/
def isFree (keywords : List Keyword) (k : Keyword) : Bool := keywords.all fun j => !j.precedes k

theorem isFree_iff : isFree keywords k = true ↔ ∀ j ∈ keywords, j.precedes k = false := by
  simp [isFree]

/-- If the hints have no cycle, some keyword is free: one with no chain of hints that leads to it. -/
theorem IsAcyclic.exists_isFree (acyclic : IsAcyclic keywords) (nonempty : keywords ≠ []) :
    ∃ k ∈ keywords, isFree keywords k = true := by
  let Chain (j k : { k // k ∈ keywords }) : Prop := Relation.TransGen (Hints keywords) j.1 k.1
  have : Finite { k // k ∈ keywords } := (List.finite_toSet keywords).to_subtype
  have : IsTrans _ Chain := ⟨fun _ _ _ => Relation.TransGen.trans⟩
  have : Std.Irrefl Chain := ⟨fun k => acyclic k.1⟩
  obtain ⟨first, mem⟩ := List.exists_mem_of_ne_nil keywords nonempty
  obtain ⟨⟨k, memK⟩, -, least⟩ := (Finite.wellFounded_of_trans_of_irrefl Chain).has_min Set.univ
    ⟨⟨first, mem⟩, trivial⟩
  refine ⟨k, memK, isFree_iff.2 fun j memJ => ?_⟩
  by_contra precedes
  exact least ⟨j, memJ⟩ trivial (.single ⟨memJ, memK, Bool.not_eq_false _ ▸ precedes⟩)

/-- Taking one keyword out leaves the others. -/
theorem perm_cons_filter (distinct : (keywords.map (·.name)).Nodup) (mem : k ∈ keywords) :
    keywords.Perm (k :: keywords.filter (·.name ≠ k.name)) := by
  have once := List.Nodup.of_map _ distinct
  have fresh : k ∉ keywords.filter (·.name ≠ k.name) := by simp
  refine (List.perm_ext_iff_of_nodup once
    (List.nodup_cons.2 ⟨fresh, once.sublist List.filter_sublist⟩)).2 fun j => ?_
  rw [List.mem_cons, List.mem_filter, decide_eq_true_iff]
  constructor
  · intro memJ
    by_cases same : j.name = k.name
    · exact .inl (List.inj_on_of_nodup_map distinct memJ mem same)
    · exact .inr ⟨memJ, same⟩
  · rintro (rfl | ⟨memJ, -⟩)
    · exact mem
    · exact memJ

theorem length_filter_le (distinct : (keywords.map (·.name)).Nodup) (mem : k ∈ keywords)
    (enough : keywords.length ≤ n + 1) : (keywords.filter (·.name ≠ k.name)).length ≤ n := by
  have := (perm_cons_filter distinct mem).length_eq
  rw [List.length_cons] at this
  omega

/-! ## Arrangements -/

theorem arrange_succ (n : Nat) (keywords : List Keyword) :
    arrange (n + 1) keywords =
      match keywords.find? (isFree keywords) with
      | some k => k :: arrange n (keywords.filter (·.name ≠ k.name))
      | none => [] := rfl

theorem mem_of_mem_arrange (mem : k ∈ arrange n keywords) : k ∈ keywords := by
  induction n generalizing keywords with
  | zero => cases mem
  | succ n ih =>
    rw [arrange] at mem
    split at mem
    · next first found =>
      rcases List.mem_cons.1 mem with rfl | mem
      · exact List.mem_of_find?_eq_some found
      · exact (List.mem_filter.1 (ih mem)).1
    · cases mem

/-- No name occurs twice among arranged keywords. -/
theorem nodup_arrange (n : Nat) (keywords : List Keyword) :
    ((arrange n keywords).map (·.name)).Nodup := by
  induction n generalizing keywords with
  | zero => exact List.nodup_nil
  | succ n ih =>
    rw [arrange]
    split
    · next first found =>
      refine List.nodup_cons.2 ⟨fun mem => ?_, ih _⟩
      obtain ⟨k, memK, same⟩ := List.mem_map.1 mem
      have other := (List.mem_filter.1 (mem_of_mem_arrange memK)).2
      simp [same] at other
    · exact List.nodup_nil

/-- An arrangement follows the hints, whether or not it is complete. -/
theorem arrange_follows (n : Nat) (keywords : List Keyword) : Follows (arrange n keywords) := by
  induction n generalizing keywords with
  | zero => exact fun _ mem => (List.not_mem_nil mem).elim
  | succ n ih =>
    rw [arrange_succ]
    split
    · next k found =>
      have free := isFree_iff.1 (List.find?_some found)
      intro i memI l memL precedes
      rw [position_cons, position_cons]
      rcases List.mem_cons.1 memL with rfl | memL
      · have memI : i ∈ keywords := (List.mem_cons.1 memI).elim
          (fun same => same ▸ List.mem_of_find?_eq_some found)
          fun mem => (List.mem_filter.1 (mem_of_mem_arrange mem)).1
        rw [free i memI] at precedes
        cases precedes
      · have other : ∀ m ∈ arrange n (keywords.filter (·.name ≠ k.name)), k.name ≠ m.name :=
          fun m mem same => by simpa [same] using (List.mem_filter.1 (mem_of_mem_arrange mem)).2
        rw [if_neg (other l memL)]
        rcases List.mem_cons.1 memI with rfl | memI
        · rw [if_pos rfl]
          omega
        · rw [if_neg (other i memI)]
          have := ih _ i memI l memL precedes
          omega
    · exact fun _ mem => (List.not_mem_nil mem).elim

/-- An arrangement takes all keywords if their hints have no cycle. -/
theorem IsAcyclic.arrange_perm (acyclic : IsAcyclic keywords)
    (distinct : (keywords.map (·.name)).Nodup) (enough : keywords.length ≤ n) :
    (arrange n keywords).Perm keywords := by
  induction n generalizing keywords with
  | zero =>
    rw [List.length_eq_zero_iff.1 (Nat.le_zero.1 enough)]
    exact .refl _
  | succ n ih =>
    by_cases empty : keywords = []
    · subst empty
      exact .refl _
    · obtain ⟨free, mem, isFree⟩ := acyclic.exists_isFree empty
      obtain ⟨k, found⟩ := Option.isSome_iff_exists.1 (List.find?_isSome.2 ⟨free, mem, isFree⟩)
      have taken := List.mem_of_find?_eq_some found
      rw [arrange_succ, found]
      exact .trans (.cons k (ih (acyclic.of_subset List.filter_sublist.subset)
        (distinct.sublist (List.filter_sublist.map _)) (length_filter_le distinct taken enough)))
        (perm_cons_filter distinct taken).symm

/-- Of all orders that follow the hints, the arrangement is the first, whatever gives places to
    keywords, as long as these go up. -/
theorem arrange_least {place : Keyword → Nat} (distinct : (keywords.map (·.name)).Nodup)
    (up : keywords.Pairwise fun j k => place j < place k) {other : List Keyword}
    (perm : other.Perm keywords) (follows : Follows other) (enough : keywords.length ≤ n) :
    other = arrange n keywords ∨
      List.Lex (· < ·) ((arrange n keywords).map place) (other.map place) := by
  induction n generalizing keywords other with
  | zero =>
    rw [List.length_eq_zero_iff.1 (Nat.le_zero.1 enough)] at perm
    exact .inl (List.perm_nil.1 perm)
  | succ n ih =>
    cases other with
    | nil =>
      rw [List.nil_perm.1 perm]
      exact .inl rfl
    | cons first others =>
      have mem : first ∈ keywords := perm.subset List.mem_cons_self
      have free : isFree keywords first = true :=
        isFree_iff.2 fun j memJ => follows.head_free (perm.symm.subset memJ)
      obtain ⟨k, found⟩ := Option.isSome_iff_exists.1 (List.find?_isSome.2 ⟨first, mem, free⟩)
      have taken := perm_cons_filter distinct (List.mem_of_find?_eq_some found)
      rw [arrange_succ, found, List.map_cons, List.map_cons]
      obtain ⟨-, before, after, split, held⟩ := List.find?_eq_some_iff_append.1 found
      have mem' := mem
      rw [split] at mem'
      rcases List.mem_append.1 mem' with early | late
      · -- what comes before the keyword that is taken is held back
        have := held first early
        rw [free] at this
        cases this
      rcases List.mem_cons.1 late with rfl | late
      · have rest := ih (distinct.sublist (List.filter_sublist.map _))
          (up.sublist List.filter_sublist) (perm.trans taken).cons_inv
          (follows.tail ((perm.map _).nodup_iff.2 distinct)) (length_filter_le distinct mem enough)
        exact rest.imp (congrArg _) .cons
      · rw [split, List.pairwise_append] at up
        exact .inr (.rel ((List.pairwise_cons.1 up.2.1).1 first late))

/-- If the hints have no cycle, the arrangement is the least order that follows them. -/
theorem IsAcyclic.arrange_isLeastOrder (acyclic : IsAcyclic keywords)
    (distinct : (keywords.map (·.name)).Nodup) :
    IsLeastOrder keywords (arrange keywords.length keywords) where
  perm := acyclic.arrange_perm distinct (Nat.le_refl _)
  follows := arrange_follows _ _
  least _ perm follows :=
    arrange_least distinct (pairwise_position distinct) perm follows (Nat.le_refl _)

/-- If the arrangement takes all keywords, their hints have no cycle. -/
theorem isAcyclic_of_length_arrange (whole : (arrange n keywords).length = keywords.length) :
    IsAcyclic keywords := by
  have once : (arrange n keywords).Nodup := .of_map _ (nodup_arrange n keywords)
  have perm : (arrange n keywords).Perm keywords :=
    (once.subperm fun _ mem => mem_of_mem_arrange mem).perm_of_length_le (Nat.le_of_eq whole.symm)
  exact (arrange_follows n keywords).isAcyclic perm.symm.subset

/-! ## The order -/

/-- The names of the keywords on cycles of hints, sorted, each once. There are some. -/
structure IsCycleReport (keywords : List Keyword) (names : List String) : Prop where
  nonempty : names ≠ []
  sorted : names.Pairwise (· < ·)
  mem_iff : ∀ name, name ∈ names ↔ ∃ k, OnCycle keywords k ∧ k.name = name

/-- The names that are reported of keywords. -/
def cycleNames (keywords : List Keyword) : List String :=
  ((keywords.filter (onCycle keywords)).map (·.name)).mergeSort (· ≤ ·)

theorem mem_cycleNames (distinct : (keywords.map (·.name)).Nodup) {name : String} :
    name ∈ cycleNames keywords ↔ ∃ k, OnCycle keywords k ∧ k.name = name := by
  rw [cycleNames, List.mem_mergeSort, List.mem_map]
  constructor
  · rintro ⟨k, mem, rfl⟩
    obtain ⟨mem, found⟩ := List.mem_filter.1 mem
    exact ⟨k, (onCycle_iff distinct mem).1 found, rfl⟩
  · rintro ⟨k, cycle, rfl⟩
    exact ⟨k, List.mem_filter.2 ⟨cycle.mem, (onCycle_iff distinct cycle.mem).2 cycle⟩, rfl⟩

theorem cycleNames_eq_nil_iff (distinct : (keywords.map (·.name)).Nodup) :
    cycleNames keywords = [] ↔ IsAcyclic keywords := by
  rw [List.eq_nil_iff_forall_not_mem]
  constructor
  · exact fun none k cycle => none _ ((mem_cycleNames distinct).2 ⟨k, cycle, rfl⟩)
  · intro acyclic name mem
    obtain ⟨k, cycle, -⟩ := (mem_cycleNames distinct).1 mem
    exact acyclic k cycle

theorem sorted_cycleNames (distinct : (keywords.map (·.name)).Nodup) :
    (cycleNames keywords).Pairwise (· < ·) := by
  have once : (cycleNames keywords).Nodup :=
    (List.mergeSort_perm _ _).nodup_iff.2 (distinct.sublist (List.filter_sublist.map _))
  have sorted : (cycleNames keywords).Pairwise (· ≤ ·) := by
    refine (List.pairwise_mergeSort ?_ ?_ _).imp fun le => of_decide_eq_true le
    · exact fun a b c ab bc => decide_eq_true (le_trans (of_decide_eq_true ab) (of_decide_eq_true bc))
    · intro a b
      simpa using le_total a b
  exact (sorted.and once).imp fun h => lt_of_le_of_ne h.1 h.2

/-- Two reports about the same keywords are the same. -/
theorem IsCycleReport.eq {names names' : List String} (report : IsCycleReport keywords names)
    (report' : IsCycleReport keywords names') : names = names' := by
  have antisymm : ∀ a b, a ∈ names → b ∈ names' → a < b → b < a → a = b :=
    fun a b _ _ ab ba => absurd ba (lt_asymm ab)
  refine List.Perm.eq_of_pairwise antisymm report.sorted report'.sorted ?_
  exact (List.perm_ext_iff_of_nodup (report.sorted.imp ne_of_lt) (report'.sorted.imp ne_of_lt)).2
    fun name => (report.mem_iff name).trans (report'.mem_iff name).symm

/-- Keywords without a cycle are arranged, and of others the names on cycles are reported. -/
theorem order_eq (distinct : (keywords.map (·.name)).Nodup) :
    order keywords = if cycleNames keywords = [] then .ok (arrange keywords.length keywords)
      else .error (cycleNames keywords) := by
  have whole : (arrange keywords.length keywords).length = keywords.length ↔
      cycleNames keywords = [] := by
    rw [cycleNames_eq_nil_iff distinct]
    exact ⟨isAcyclic_of_length_arrange, fun acyclic =>
      (acyclic.arrange_perm distinct (Nat.le_refl _)).length_eq⟩
  rw [order, ← if_congr whole rfl rfl]
  rfl

theorem IsAcyclic.order_eq (acyclic : IsAcyclic keywords)
    (distinct : (keywords.map (·.name)).Nodup) :
    order keywords = .ok (arrange keywords.length keywords) := by
  rw [Keyword.order_eq distinct, if_pos ((cycleNames_eq_nil_iff distinct).2 acyclic)]

/-- Names are reported exactly if there is a cycle. -/
theorem order_eq_error_iff (distinct : (keywords.map (·.name)).Nodup) {names : List String} :
    order keywords = .error names ↔ IsCycleReport keywords names := by
  rw [order_eq distinct]
  constructor
  · intro failed
    split at failed
    · cases failed
    · next some_ =>
      cases failed
      exact ⟨some_, sorted_cycleNames distinct, fun _ => mem_cycleNames distinct⟩
  · intro report
    have own : cycleNames keywords ≠ [] := by
      obtain ⟨name, mem⟩ := List.exists_mem_of_ne_nil _ report.nonempty
      exact List.ne_nil_of_mem ((mem_cycleNames distinct).2 ((report.mem_iff name).1 mem))
    rw [if_neg own]
    exact congrArg _ (IsCycleReport.eq
      ⟨own, sorted_cycleNames distinct, fun _ => mem_cycleNames distinct⟩ report)

end Keyword

end JsonSchema
