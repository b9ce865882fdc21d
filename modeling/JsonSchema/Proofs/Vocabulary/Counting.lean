import JsonSchema.Proofs.Vocabulary.Arrangement
import Mathlib.Data.List.Find
import Mathlib.Data.List.Sort

/-!
# Finding the order by counting

The order of application can be found without looking for free keywords again and again. For every
position it is counted how many that come before it are still to be taken. Taking a position counts
down for those that come after it, and what has nothing left to wait for is ready.

* `Count`, `Count.release`, `Count.run`: the counters and the ready positions, one step, and the
  loop that takes the least ready position each time.
* `Count.Agrees`, `Count.run_eq`: what the counters say in between, and that no counter is ever
  asked to go below zero: what is counted down for a position was counted for it.
* `Keyword.orderByCounting_eq`: keywords are ordered as by `Keyword.order`.
-/

namespace JsonSchema

/-- A count in progress: for every position, how many positions that come before it were not taken,
    and the positions that wait for nothing and were not taken, the least first. -/
structure Count where
  waits : Nat → Nat
  ready : List Nat

namespace Count

/-- One less to wait for at a position. There is no result if nothing was waited for there. -/
def release (count : Count) (q : Nat) : Option Count :=
  match count.waits q with
  | 0 => none
  | left + 1 => some
      { waits := fun p => if p = q then left else count.waits p
        ready := if left = 0 then count.ready.orderedInsert (· ≤ ·) q else count.ready }

section

variable (edge : Nat → Nat → Bool) (size : Nat)

/-- The count before anything is taken, of so many positions, where `edge` says which come before
    which. -/
def start : Count where
  waits q := ((List.range size).filter (edge · q)).length
  ready := (List.range size).filter fun q => ((List.range size).filter (edge · q)).length = 0

/-- The loop that takes what is ready, the least position first. There is no result if a counter
    would go below zero, or something is ready after so many rounds. -/
def run : Nat → Count → Option (List Nat)
  | _, ⟨_, []⟩ => some []
  | 0, ⟨_, _ :: _⟩ => none
  | rounds + 1, ⟨waits, p :: ready⟩ =>
    (((List.range size).filter (edge p)).foldlM release ⟨waits, ready⟩).bind fun count =>
      (run rounds count).map (p :: ·)

/-- Whether nothing that is left comes before a position. -/
def isFree (left : List Nat) (q : Nat) : Bool := left.all fun p => !edge p q

/-- The positions in the order in which they are taken, if the first that is free is taken each
    time. -/
def pick : Nat → List Nat → List Nat
  | 0, _ => []
  | n + 1, left =>
    match left.find? (isFree edge left) with
    | some p => p :: pick n (left.filter (· != p))
    | none => []

/-- What the counters say when the positions in `left` are to be taken: how many of these come
    before a position, and which of them are free. What was taken has nothing left before it. -/
structure Agrees (left : List Nat) (count : Count) : Prop where
  waits : ∀ q < size, count.waits q = (left.filter (edge · q)).length
  ready : count.ready = left.filter (isFree edge left)
  taken : ∀ q < size, q ∉ left → ∀ p ∈ left, edge p q = false

end

variable {edge : Nat → Nat → Bool} {size : Nat} {left : List Nat} {p q : Nat}

theorem isFree_iff_length : isFree edge left q = true ↔ (left.filter (edge · q)).length = 0 := by
  simp [isFree]

theorem start_agrees : Agrees edge size (List.range size) (start edge size) where
  waits _ _ := rfl
  ready := List.filter_congr fun q _ => by
    rw [Bool.eq_iff_iff, isFree_iff_length, decide_eq_true_iff]
  taken q lt out := absurd (List.mem_range.2 lt) out

/-- Counting down once for each of some positions that wait for something. -/
theorem foldlM_release {qs : List Nat} (once : qs.Nodup) (count : Count)
    (waiting : ∀ q ∈ qs, count.waits q ≠ 0) (sorted : count.ready.Pairwise (· ≤ ·)) :
    ∃ count', qs.foldlM release count = some count' ∧
      (∀ q, count'.waits q = if q ∈ qs then count.waits q - 1 else count.waits q) ∧
      count'.ready.Perm (qs.filter (count.waits · = 1) ++ count.ready) ∧
      count'.ready.Pairwise (· ≤ ·) := by
  induction qs generalizing count with
  | nil => exact ⟨count, rfl, fun _ => by simp, .refl _, sorted⟩
  | cons q rest ih =>
    obtain ⟨fresh, once⟩ := List.nodup_cons.1 once
    obtain ⟨w, counted⟩ := Nat.exists_eq_succ_of_ne_zero (waiting q List.mem_cons_self)
    let next : Count :=
      { waits := fun p => if p = q then w else count.waits p
        ready := if w = 0 then count.ready.orderedInsert (· ≤ ·) q else count.ready }
    have first : release count q = some next := by rw [release, counted]
    have other : ∀ p ∈ rest, next.waits p = count.waits p := fun p mem =>
      if_neg (ne_of_mem_of_not_mem mem fresh)
    have sorted' : next.ready.Pairwise (· ≤ ·) := by
      show (if w = 0 then _ else _ : List Nat).Pairwise (· ≤ ·)
      split
      · exact sorted.orderedInsert q _
      · exact sorted
    obtain ⟨count', ran, waits, ready, sorted''⟩ := ih once next
      (fun p mem => other p mem ▸ waiting p (List.mem_cons_of_mem _ mem)) sorted'
    refine ⟨count', by rw [List.foldlM_cons, first]; exact ran, fun p => ?_, ready.trans ?_, sorted''⟩
    · rw [waits]
      by_cases same : p = q
      · subst same
        have self : next.waits p = w := if_pos rfl
        rw [if_neg fresh, if_pos List.mem_cons_self, self, counted, Nat.succ_sub_one]
      · have kept : next.waits p = count.waits p := if_neg same
        simp only [List.mem_cons, same, false_or, kept]
    · rw [List.filter_congr fun p mem => by rw [other p mem]]
      by_cases last : w = 0
      · have new : next.ready = count.ready.orderedInsert (· ≤ ·) q := if_pos last
        have one : decide (count.waits q = 1) = true := by rw [counted, last]; rfl
        rw [new, List.filter_cons, if_pos one]
        exact ((List.perm_orderedInsert _ _ _).append_left _).trans List.perm_middle
      · have old : next.ready = count.ready := if_neg last
        have more : ¬ decide (count.waits q = 1) = true := by
          rw [counted, decide_eq_true_iff]
          omega
        rw [old, List.filter_cons, if_neg more]

/-- Taking a position leaves one less for what comes after it. -/
theorem length_filter_edge (once : left.Nodup) (mem : p ∈ left) :
    (left.filter (edge · q)).length =
      (if edge p q then 1 else 0) + ((left.filter (· != p)).filter (edge · q)).length := by
  have taken : left.Perm (p :: left.filter (· != p)) := by
    rw [← once.erase_eq_filter]
    exact List.perm_cons_erase mem
  rw [(taken.filter _).length_eq, List.filter_cons]
  split <;> simp [Nat.add_comm]

/-- What a counter says before a position is taken. -/
theorem Agrees.waits_eq {count : Count} (agrees : Agrees edge size left count) (once : left.Nodup)
    (mem : p ∈ left) (lt : q < size) :
    count.waits q =
      (if edge p q then 1 else 0) + ((left.filter (· != p)).filter (edge · q)).length :=
  (agrees.waits q lt).trans (length_filter_edge once mem)

/-- What becomes ready when a position is taken: what waited for nothing else. -/
theorem Agrees.ready_perm {waits : Nat → Nat} {ready : List Nat}
    (agrees : Agrees edge size left ⟨waits, p :: ready⟩) (once : left.Nodup)
    (inside : ∀ q ∈ left, q < size) :
    (((List.range size).filter (edge p)).filter (waits · = 1) ++ ready).Perm
      ((left.filter (· != p)).filter (isFree edge (left.filter (· != p)))) := by
  have same : p :: ready = left.filter (isFree edge left) := agrees.ready
  have memReady : ∀ q, q ∈ p :: ready ↔ q ∈ left ∧ isFree edge left q = true := fun q => by
    rw [same, List.mem_filter]
  obtain ⟨freshP, onceReady⟩ := List.nodup_cons.1 (same ▸ once.sublist List.filter_sublist)
  obtain ⟨memP, freeP⟩ := (memReady p).1 List.mem_cons_self
  have counted : ∀ q < size, waits q = _ := fun q lt => agrees.waits_eq once memP lt
  have waitless : ∀ q ∈ ready, waits q = 0 := fun q mem => by
    obtain ⟨memL, free⟩ := (memReady q).1 (List.mem_cons_of_mem _ mem)
    exact (agrees.waits q (inside q memL)).trans (isFree_iff_length.1 free)
  refine (List.perm_ext_iff_of_nodup (List.nodup_append.2 ⟨?_, onceReady, ?_⟩) ?_).2 fun q => ?_
  · exact (List.nodup_range.sublist List.filter_sublist).sublist List.filter_sublist
  · rintro q mem _ mem' rfl
    have one := of_decide_eq_true (List.mem_filter.1 mem).2
    rw [waitless q mem'] at one
    cases one
  · exact (once.sublist List.filter_sublist).sublist List.filter_sublist
  · simp only [List.mem_append, List.mem_filter, List.mem_range, decide_eq_true_iff, bne_iff_ne]
    rw [isFree_iff_length]
    constructor
    · rintro (⟨⟨lt, after⟩, one⟩ | mem)
      · -- what comes after the position was not taken before it, and is not the position itself
        have memL : q ∈ left := by
          by_contra out
          rw [agrees.taken q lt out p memP] at after
          cases after
        have ne : q ≠ p := by
          rintro rfl
          have none : edge q q = false := by simpa using List.all_eq_true.1 freeP q memP
          rw [none] at after
          cases after
        rw [counted q lt, if_pos after] at one
        exact ⟨⟨memL, ne⟩, by omega⟩
      · have zero := waitless q mem
        obtain ⟨memL, -⟩ := (memReady q).1 (List.mem_cons_of_mem _ mem)
        rw [counted q (inside q memL)] at zero
        exact ⟨⟨memL, ne_of_mem_of_not_mem mem freshP⟩, by omega⟩
    · rintro ⟨⟨memL, ne⟩, none⟩
      have lt := inside q memL
      by_cases after : edge p q = true
      · exact .inl ⟨⟨lt, after⟩, by rw [counted q lt, if_pos after, none]⟩
      · have zero : waits q = 0 := by rw [counted q lt, if_neg after, none]
        have memQ := (memReady q).2 ⟨memL, isFree_iff_length.2 ((agrees.waits q lt).symm.trans zero)⟩
        exact .inr ((List.mem_cons.1 memQ).resolve_left ne)

/-- Taking the least ready position never asks a counter to go below zero, and keeps the counters
    in agreement. -/
theorem Agrees.take {waits : Nat → Nat} {ready : List Nat}
    (agrees : Agrees edge size left ⟨waits, p :: ready⟩) (sorted : left.Pairwise (· < ·))
    (inside : ∀ q ∈ left, q < size) :
    ∃ count, ((List.range size).filter (edge p)).foldlM release ⟨waits, ready⟩ = some count ∧
      Agrees edge size (left.filter (· != p)) count := by
  have once : left.Nodup := sorted.imp ne_of_lt
  have same : p :: ready = left.filter (isFree edge left) := agrees.ready
  obtain ⟨mem, free⟩ : p ∈ left ∧ isFree edge left p = true :=
    List.mem_filter.1 (same ▸ List.mem_cons_self)
  have counted : ∀ q < size, waits q = _ := fun q lt => agrees.waits_eq once mem lt
  have sortedReady : (p :: ready).Pairwise (· < ·) := same ▸ sorted.sublist List.filter_sublist
  have waiting : ∀ q ∈ (List.range size).filter (edge p), waits q ≠ 0 := by
    intro q mem'
    obtain ⟨lt, after⟩ := List.mem_filter.1 mem'
    rw [counted q (List.mem_range.1 lt), if_pos after]
    omega
  obtain ⟨count, ran, waits', ready', sorted'⟩ := foldlM_release
    (List.nodup_range.sublist List.filter_sublist) ⟨waits, ready⟩ waiting
    ((List.pairwise_cons.1 sortedReady).2.imp Nat.le_of_lt)
  refine ⟨count, ran, fun q lt => ?_, ?_, fun q lt out p' mem' => ?_⟩
  · have after : q ∈ (List.range size).filter (edge p) ↔ edge p q = true := by simp [lt]
    simp only [waits', after, counted q lt]
    split <;> omega
  · exact (ready'.trans (agrees.ready_perm once inside)).eq_of_pairwise
      (fun _ _ _ _ => Nat.le_antisymm) sorted'
      (((sorted.sublist List.filter_sublist).sublist List.filter_sublist).imp Nat.le_of_lt)
  · obtain ⟨memP, ne⟩ := List.mem_filter.1 mem'
    by_cases same : q = p
    · subst same
      simpa using List.all_eq_true.1 free p' memP
    · exact agrees.taken q lt (fun h => out (List.mem_filter.2 ⟨h, bne_iff_ne.2 same⟩)) p' memP

/-- The loop ends, never asks a counter to go below zero, and takes the first free position each
    time. -/
theorem run_eq {count : Count} {rounds : Nat} (agrees : Agrees edge size left count)
    (sorted : left.Pairwise (· < ·)) (inside : ∀ q ∈ left, q < size)
    (enough : left.length ≤ rounds) : run edge size rounds count = some (pick edge rounds left) := by
  induction rounds generalizing left count with
  | zero =>
    have ready := agrees.ready
    rw [List.length_eq_zero_iff.1 (Nat.le_zero.1 enough)] at ready
    obtain ⟨waits, _⟩ := count
    cases ready
    rfl
  | succ rounds ih =>
    obtain ⟨waits, ready⟩ := count
    have first : ready.head? = left.find? (isFree edge left) := by
      rw [← List.head?_filter]
      exact congrArg _ agrees.ready
    rw [pick, ← first]
    cases ready with
    | nil => rfl
    | cons p ready =>
      obtain ⟨count, ran, agrees'⟩ := agrees.take sorted inside
      have mem : p ∈ left := List.mem_of_find?_eq_some first.symm
      have less : (left.filter (· != p)).length ≤ rounds := by
        have shorter : (left.filter (· != p)).length < left.length :=
          List.length_filter_lt_length_iff_exists.2 ⟨p, mem, by simp⟩
        omega
      rw [run, ran, Option.bind_some, ih agrees' (sorted.sublist List.filter_sublist)
        (fun q mem => inside q (List.mem_filter.1 mem).1) less]
      rfl

end Count

/-! ## Keywords -/

namespace Keyword

variable {keywords : List Keyword}

/-- Whether a hint puts the keyword at one position before the one at another. -/
def edge (keywords : List Keyword) (p q : Nat) : Bool :=
  match keywords[p]?, keywords[q]? with
  | some j, some k => j.precedes k
  | _, _ => false

/-- The keywords in their order of application, or the names on cycles of hints, found by counting.
    There is no result if a counter would go below zero. -/
def orderByCounting (keywords : List Keyword) : Option (Except (List String) (List Keyword)) :=
  let names := cycleNames keywords
  if names.isEmpty then
    (Count.run (edge keywords) keywords.length keywords.length
      (.start (edge keywords) keywords.length)).map fun order =>
        .ok (order.filterMap (keywords[·]?))
  else some (.error names)

theorem filterMap_range (keywords : List Keyword) :
    (List.range keywords.length).filterMap (keywords[·]?) = keywords := by
  have all : (List.range keywords.length).map (keywords[·]?) = keywords.map some :=
    List.ext_getElem (by simp) fun i h h' => by simp
  have ids := congrArg (List.filterMap id) all
  rw [List.filterMap_map, List.filterMap_map] at ids
  exact ids.trans List.filterMap_some

theorem isFree_filterMap {left : List Nat} (inside : ∀ q ∈ left, q < keywords.length) {q : Nat}
    {k : Keyword} (at_ : keywords[q]? = some k) :
    isFree (left.filterMap (keywords[·]?)) k = Count.isFree (edge keywords) left q := by
  rw [Bool.eq_iff_iff, isFree_iff, Count.isFree, List.all_eq_true]
  constructor
  · intro free p mem
    obtain ⟨j, at_'⟩ : ∃ j, keywords[p]? = some j := ⟨_, List.getElem?_eq_getElem (inside p mem)⟩
    rw [edge, at_', at_]
    simp [free j (List.mem_filterMap.2 ⟨p, mem, at_'⟩)]
  · intro free j mem
    obtain ⟨p, memP, at_'⟩ := List.mem_filterMap.1 mem
    simpa [edge, at_', at_] using free p memP

theorem name_eq_iff (distinct : (keywords.map (·.name)).Nodup) {p q : Nat}
    (ltP : p < keywords.length) (ltQ : q < keywords.length) :
    keywords[p].name = keywords[q].name ↔ p = q := by
  have ltP' : p < (keywords.map (·.name)).length := by simpa using ltP
  have ltQ' : q < (keywords.map (·.name)).length := by simpa using ltQ
  have inj : (keywords.map (·.name))[p] = (keywords.map (·.name))[q] ↔ p = q :=
    distinct.getElem_inj_iff
  simpa using inj

/-- Picking positions is arranging the keywords there. -/
theorem filterMap_pick (distinct : (keywords.map (·.name)).Nodup) (n : Nat) {left : List Nat}
    (inside : ∀ q ∈ left, q < keywords.length) :
    (Count.pick (edge keywords) n left).filterMap (keywords[·]?) =
      arrange n (left.filterMap (keywords[·]?)) := by
  induction n generalizing left with
  | zero => rfl
  | succ n ih =>
    have same : left.find? (fun q => (keywords[q]?).any (isFree (left.filterMap (keywords[·]?)))) =
        left.find? (Count.isFree (edge keywords) left) := by
      refine List.find?_congr fun q mem => ?_
      have at_ := List.getElem?_eq_getElem (inside q mem)
      rw [at_, Option.any_some, isFree_filterMap inside at_]
    rw [Count.pick, arrange_succ, List.find?_filterMap, same]
    cases found : left.find? (Count.isFree (edge keywords) left) with
    | none => rfl
    | some p =>
      have lt := inside p (List.mem_of_find?_eq_some found)
      have at_ := List.getElem?_eq_getElem lt
      have others : (left.filterMap (keywords[·]?)).filter (·.name ≠ keywords[p].name) =
          (left.filter (· != p)).filterMap (keywords[·]?) := by
        rw [List.filter_filterMap, List.filterMap_filter]
        refine List.filterMap_congr fun q memQ => ?_
        rw [List.getElem?_eq_getElem (inside q memQ), Option.filter_some, bne]
        simp only [ne_eq, name_eq_iff distinct (inside q memQ) lt, decide_not, beq_eq_decide]
      rw [Option.bind_some, at_]
      simp only
      rw [List.filterMap_cons, at_, others, ih fun q mem => inside q (List.mem_filter.1 mem).1]

/-- No counter would go below zero, and the order is the same. -/
theorem orderByCounting_eq (distinct : (keywords.map (·.name)).Nodup) :
    orderByCounting keywords = some (order keywords) := by
  have agrees : Count.Agrees (edge keywords) keywords.length (List.range keywords.length) _ :=
    Count.start_agrees
  have run := Count.run_eq agrees List.pairwise_lt_range (fun q mem => List.mem_range.1 mem)
    (Nat.le_of_eq List.length_range)
  rw [orderByCounting, order_eq distinct, run]
  simp only [List.isEmpty_iff, Option.map_some]
  split
  · rw [filterMap_pick distinct _ fun q mem => List.mem_range.1 mem, filterMap_range]
  · rfl

end Keyword

end JsonSchema
