import JsonSchema.Proofs.Meaning.Assertions
import JsonSchema.Proofs.Number.Integers
import JsonSchema.Proofs.Validation.Locations

/-!
# Equality of data

Equal data have the same shape and equal numbers in the same places. Numbers count as equal if they
are rounded to one number, unless they are different integers. So equality is not transitive: a
double that two long integers are rounded to is equal to both of them. Nothing else stands in the
way.

* `Value.Resembles`: the same shape, with related numbers in the same places.
* `Value.equiv_iff`: equal data resemble each other.
* `Value.Blurs`: a value has a double where two others have different integers.
* `Value.equiv_iff_not_blurs`: values that are equal to one value are equal to each other, unless
  it has such a double.
* `Value.IsShort`: a value without long numbers.
* `AssertionKind.holds_eq_of_equiv`: equal values without long numbers are not told apart.
-/

namespace JsonSchema

/-! ## Members in order -/

namespace Members

variable {members others : Members} {name : String} {value : Value}

theorem mem_names_iff : name ∈ members.names ↔ ∃ value, members.get? name = some value := by
  induction members with
  | nil => simp [names, get?]
  | cons first rest ih =>
    obtain ⟨key, old⟩ := first
    rw [names] at ih
    rw [names, List.map_cons, List.mem_cons, ih, get?]
    by_cases same : key = name
    · simp [same]
    · simp [same, Ne.symm same]

/-- Of two sorted lists of one length the names are the same if all those in the first list are also
    in the second. -/
theorem Ascending.names_eq (ascending : members.Ascending) (ascending' : others.Ascending)
    (count : members.length = others.length)
    (subset : ∀ name ∈ members.names, name ∈ others.names) : members.names = others.names := by
  have pairwise {ms : Members} (h : ms.Ascending) : ms.names.Pairwise (· < ·) :=
    List.pairwise_map.2 h
  have irrefl : Std.Irrefl fun a b : String => a < b := ⟨String.lt_irrefl⟩
  have antisymm : Std.Antisymm fun a b : String => a < b :=
    ⟨fun a b before behind => absurd (String.lt_trans before behind) (String.lt_irrefl a)⟩
  have perm : members.names.Perm others.names :=
    (List.subperm_of_subset (pairwise ascending).nodup subset).perm_of_length_le
      (by simp [names, count])
  exact (pairwise ascending).eq_of_mem_iff (pairwise ascending') fun _ => perm.mem_iff

/-- Where each member of a sorted list has a partner in another one of the same length, the names are
    the same, and the values under each name are partners. -/
theorem Ascending.all_partners_iff (ascending : members.Ascending) (ascending' : others.Ascending)
    {P : Value → Value → Prop} :
    (members.length = others.length ∧
        ∀ m ∈ members, ∃ b, others.get? m.1 = some b ∧ P m.2 b) ↔
      members.names = others.names ∧
        ∀ name a b, members.get? name = some a → others.get? name = some b → P a b := by
  constructor
  · rintro ⟨count, all⟩
    refine ⟨ascending.names_eq ascending' count fun name mem => ?_, fun name a b left right => ?_⟩
    · obtain ⟨m, listed, rfl⟩ := List.mem_map.1 mem
      obtain ⟨b, found, -⟩ := all m listed
      exact mem_names_iff.2 ⟨b, found⟩
    · obtain ⟨b', found, partner⟩ := all _ (mem_of_get? left)
      cases right.symm.trans found
      exact partner
  · rintro ⟨same, all⟩
    refine ⟨by simpa [names] using congrArg List.length same, fun m mem => ?_⟩
    have left := (mem_iff_get? ascending).1 mem
    obtain ⟨b, right⟩ := mem_names_iff.1 (same ▸ mem_names_iff.2 ⟨_, left⟩)
    exact ⟨b, right, all _ _ b left right⟩

end Members

namespace Value

/-! ## Resemblance -/

/-- Values are of one kind. Scalars other than numbers are the same, numbers are related, arrays
    have as many items and objects have members of the same names. -/
def SameTop (R : Number → Number → Prop) : Value → Value → Prop
  | null, null => True
  | bool a, bool b => a = b
  | number m, number n => R m n
  | string s, string t => s = t
  | array as, array bs => as.length = bs.length
  | object as, object bs => Members.names as = Members.names bs
  | _, _ => False

/-- Values have the same shape, with related numbers in the same places. -/
def Resembles (R : Number → Number → Prop) (a b : Value) : Prop :=
  ∀ turns, Option.Rel (SameTop R) (a.at? turns) (b.at? turns)

theorem at?_cons (a : Value) (turn : Turn) (turns : List Turn) :
    a.at? (turn :: turns) = (a.turn? turn).bind (·.at? turns) :=
  List.foldlM_cons

section Resembles

variable {R S T : Number → Number → Prop} {a b c : Value}

/-- Values resemble each other if they do so at the top and in all parts. -/
theorem resembles_iff :
    a.Resembles R b ↔
      a.SameTop R b ∧ ∀ turn, Option.Rel (Resembles R) (a.turn? turn) (b.turn? turn) := by
  constructor
  · intro resembles
    refine ⟨?_, fun turn => ?_⟩
    · cases resembles [] with
      | some top => exact top
    · have below (turns : List Turn) := resembles (turn :: turns)
      simp only [at?_cons] at below
      cases left : a.turn? turn <;> cases right : b.turn? turn
      · exact .none
      · rw [left, right] at below
        cases below []
      · rw [left, right] at below
        cases below []
      · rw [left, right] at below
        exact .some below
  · rintro ⟨top, parts⟩ turns
    cases turns with
    | nil => exact .some top
    | cons turn turns =>
      have part := parts turn
      rw [at?_cons, at?_cons]
      cases left : a.turn? turn <;> cases right : b.turn? turn <;> rw [left, right] at part
      · exact .none
      · cases part
      · cases part
      · cases part with
        | some resembles => exact resembles turns

theorem rel_array_iff {P : Value → Value → Prop} {as bs : List Value}
    (count : as.length = bs.length) :
    (∀ turn, Option.Rel P ((array as).turn? turn) ((array bs).turn? turn)) ↔
      ∀ (i : ℕ) a b, as[i]? = some a → bs[i]? = some b → P a b := by
  constructor
  · intro parts i a b left right
    have part := parts (.item i)
    rw [turn?, turn?, left, right] at part
    cases part with
    | some related => exact related
  · intro items turn
    cases turn with
    | member name => exact .none
    | item i =>
      rw [turn?, turn?]
      cases left : as[i]? with
      | none =>
        have none_ : bs[i]? = none := by
          rw [List.getElem?_eq_none_iff] at left ⊢
          exact count ▸ left
        rw [none_]
        exact .none
      | some a =>
        obtain ⟨b, right⟩ : ∃ b, bs[i]? = some b := by
          obtain ⟨bound, -⟩ := List.getElem?_eq_some_iff.1 left
          exact ⟨_, List.getElem?_eq_getElem (count ▸ bound)⟩
        rw [right]
        exact .some (items i a b left right)

theorem rel_object_iff {P : Value → Value → Prop} {as bs : Members} (names : as.names = bs.names) :
    (∀ turn, Option.Rel P ((object as).turn? turn) ((object bs).turn? turn)) ↔
      ∀ name a b, as.get? name = some a → bs.get? name = some b → P a b := by
  constructor
  · intro parts name a b left right
    have part := parts (.member name)
    rw [turn?, turn?, left, right] at part
    cases part with
    | some related => exact related
  · intro values turn
    cases turn with
    | item i => exact .none
    | member name =>
      have both : (∃ a, as.get? name = some a) ↔ ∃ b, bs.get? name = some b := by
        rw [← Members.mem_names_iff, names, Members.mem_names_iff]
      rw [turn?, turn?]
      cases left : as.get? name <;> cases right : bs.get? name
      · exact .none
      · cases (both.2 ⟨_, right⟩).choose_spec.symm.trans left
      · cases (both.1 ⟨_, left⟩).choose_spec.symm.trans right
      · exact .some (values name _ _ left right)

theorem Resembles.number (resembles : a.Resembles R b) {turns : List Turn} {m n : Number}
    (left : a.at? turns = some (.number m)) (right : b.at? turns = some (.number n)) : R m n := by
  have part := resembles turns
  rw [left, right] at part
  cases part with
  | some top => exact top

theorem Resembles.refl (refl : ∀ n, R n n) (a : Value) : a.Resembles R a := by
  intro turns
  cases a.at? turns with
  | none => exact .none
  | some x =>
    refine .some ?_
    cases x with
    | null => trivial
    | number n => exact refl n
    | bool _ | string _ | array _ | object _ => exact rfl

theorem Resembles.symm (symm : ∀ m n, R m n → R n m) (resembles : a.Resembles R b) :
    b.Resembles R a := by
  intro turns
  have part := resembles turns
  generalize a.at? turns = x? at *
  generalize b.at? turns = y? at *
  cases part with
  | none => exact .none
  | @some x y top =>
    refine .some ?_
    cases x <;> cases y <;> first | exact top.elim | skip
    case null => trivial
    case number => exact symm _ _ top
    all_goals exact Eq.symm top

/-- Values that resemble one value resemble each other, in so far as their numbers do. -/
theorem Resembles.trans_iff (resembles : a.Resembles R b) (resembles' : b.Resembles S c) :
    a.Resembles T c ↔ ∀ turns k m n, a.at? turns = some (.number k) →
      b.at? turns = some (.number m) → c.at? turns = some (.number n) → T k n := by
  refine ⟨fun both turns k m n left _ right => both.number left right, fun related turns => ?_⟩
  have part := resembles turns
  have part' := resembles' turns
  have related := related turns
  generalize a.at? turns = x? at *
  generalize b.at? turns = y? at *
  generalize c.at? turns = z? at *
  cases part with
  | none =>
    cases part'
    exact .none
  | @some x y top =>
    cases part' with
    | @some _ z top' =>
      refine .some ?_
      cases x <;> cases y <;> first | exact top.elim | skip
      all_goals cases z <;> first | exact top'.elim | skip
      case null => trivial
      case number => exact related _ _ _ rfl rfl rfl
      all_goals exact Eq.trans top top'

end Resembles

/-! ## Equality -/

theorem equivItems_iff {as bs : List Value} : equivItems as bs = true ↔
    ∀ (i : ℕ) a b, as[i]? = some a → bs[i]? = some b → a.equiv b = true := by
  induction as generalizing bs with
  | nil => simp [equivItems]
  | cons a as ih =>
    cases bs with
    | nil => simp [equivItems]
    | cons b bs =>
      rw [equivItems, Bool.and_eq_true, ih]
      constructor
      · rintro ⟨first, rest⟩ i x y left right
        cases i with
        | zero =>
          cases left
          cases right
          exact first
        | succ i => exact rest i x y left right
      · exact fun all => ⟨all 0 a b rfl rfl, fun i x y => all (i + 1) x y⟩

theorem equivMembers_iff {as bs : Members} : equivMembers as bs = true ↔
    ∀ m ∈ as, ∃ b, bs.get? m.1 = some b ∧ m.2.equiv b = true := by
  induction as with
  | nil => simp [equivMembers]
  | cons first rest ih =>
    obtain ⟨key, a⟩ := first
    rw [equivMembers, Bool.and_eq_true, ih, List.forall_mem_cons]
    refine and_congr_left' ?_
    cases bs.get? key with
    | none => simp
    | some b => simp

/-- Equal data have the same shape and equal numbers in the same places. -/
theorem equiv_iff {a b : Value} (ha : a.Sorted) (hb : b.Sorted) :
    a.equiv b = true ↔ a.Resembles (fun m n => m.sameValue n = true) b := by
  rw [resembles_iff]
  match a, b with
  | array as, array bs =>
    rw [equiv, Bool.and_eq_true, beq_iff_eq, equivItems_iff, SameTop]
    refine and_congr_right fun count => ?_
    rw [rel_array_iff count]
    refine forall₄_congr fun i a b left => forall_congr' fun right => ?_
    have mem := List.mem_of_getElem? left
    exact equiv_iff (sorted_array_iff.1 ha a mem)
      (sorted_array_iff.1 hb b (List.mem_of_getElem? right))
  | object as, object bs =>
    -- one list is searched in the other, which is enough as the lengths are compared too
    obtain ⟨ascending, sorted⟩ := sorted_object_iff.1 ha
    obtain ⟨ascending', sorted'⟩ := sorted_object_iff.1 hb
    rw [equiv, Bool.and_eq_true, beq_iff_eq, equivMembers_iff, SameTop]
    refine (ascending.all_partners_iff ascending' (P := fun a b => a.equiv b = true)).trans ?_
    refine and_congr_right fun names => ?_
    rw [rel_object_iff names]
    refine forall₄_congr fun name a b left => forall_congr' fun right => ?_
    have mem := Members.mem_of_get? left
    exact equiv_iff (sorted _ mem) (sorted' _ (Members.mem_of_get? right))
  | null, b | bool x, b | number n, b | string t, b =>
    cases b <;> simp [equiv, SameTop, turn?]
  | array _, null | array _, bool _ | array _, number _ | array _, string _ | array _, object _
  | object _, null | object _, bool _ | object _, number _ | object _, string _
  | object _, array _ => simp [equiv, SameTop]
termination_by a.weight
decreasing_by
  · exact weight_lt_of_mem_items mem
  · exact weight_lt_of_mem_members mem

end Value

/-! ## Transitivity -/

namespace Number

/-- A number is a double that different integers are rounded to. -/
def Blurs (n a c : Number) : Prop :=
  ∃ (x : Double) (i j : ℤ), n = double x ∧ a.integer? = some i ∧ c.integer? = some j ∧ i ≠ j ∧
    a.toDouble.value = x.value ∧ c.toDouble.value = x.value

variable {a b c : Number}

/-- Different integers that are rounded to one double are long, and so is the double. -/
theorem Blurs.long (blurs : b.Blurs a c) : 2 ^ 53 ≤ |a.toDouble.value| ∧
    2 ^ 53 ≤ |b.toDouble.value| ∧ 2 ^ 53 ≤ |c.toDouble.value| := by
  obtain ⟨x, i, j, rfl, isInteger, isInteger', ne, same, same'⟩ := blurs
  have long := le_abs_value_of_ne (same.trans same'.symm) isInteger isInteger' ne
  exact ⟨long, same ▸ long, same'.trans same.symm ▸ long⟩

/-- Numbers that are equal to one number are equal to each other, unless it blurs them. -/
theorem sameValue_iff_not_blurs (h : a.sameValue b = true) (h' : b.sameValue c = true) :
    a.sameValue c = true ↔ ¬ b.Blurs a c := by
  obtain ⟨same, integers⟩ := sameValue_iff.1 h
  obtain ⟨same', integers'⟩ := sameValue_iff.1 h'
  rw [sameValue_iff, and_iff_right (same.trans same')]
  cases b with
  | integer i inRange =>
    refine iff_of_true (fun m n left right => ?_) (fun ⟨_, _, _, eq, _⟩ => nomatch eq)
    exact (integers m i left rfl).trans (integers' i n rfl right)
  | double x =>
    constructor
    · rintro agree ⟨_, i, j, -, left, right, ne, -⟩
      exact ne (agree i j left right)
    · intro apart m n left right
      by_contra ne
      exact apart ⟨x, m, n, rfl, left, right, ne, same, same'.symm⟩

end Number

namespace Value

/-- At some place a value has a double, and two others have different integers that are rounded to
    it. -/
def Blurs (b a c : Value) : Prop :=
  ∃ turns k m n, a.at? turns = some (number k) ∧ b.at? turns = some (number m) ∧
    c.at? turns = some (number n) ∧ m.Blurs k n

/-- There are no long numbers in a value. -/
def IsShort (value : Value) : Prop :=
  ∀ turns n, value.at? turns = some (number n) → |n.toDouble.value| < 2 ^ 53

section Transitivity

variable {a b c : Value}

theorem Blurs.not_isShort (blurs : b.Blurs a c) : ¬ (a.IsShort ∨ b.IsShort ∨ c.IsShort) := by
  obtain ⟨turns, k, m, n, left, middle, right, blurs⟩ := blurs
  obtain ⟨long, long', long''⟩ := blurs.long
  rintro (short | short | short)
  · exact long.not_gt (short turns k left)
  · exact long'.not_gt (short turns m middle)
  · exact long''.not_gt (short turns n right)

theorem equiv_refl (ha : a.Sorted) : a.equiv a = true :=
  (equiv_iff ha ha).2 (.refl (fun _ => Number.sameValue_iff.2
    ⟨rfl, fun _ _ left right => Option.some.inj (left.symm.trans right)⟩) a)

theorem equiv_symm (ha : a.Sorted) (hb : b.Sorted) (h : a.equiv b = true) : b.equiv a = true := by
  refine (equiv_iff hb ha).2 (((equiv_iff ha hb).1 h).symm fun m n same => ?_)
  obtain ⟨same, integers⟩ := Number.sameValue_iff.1 same
  exact Number.sameValue_iff.2 ⟨same.symm, fun i j left right => (integers j i right left).symm⟩

/-- Values that are equal to one value are equal to each other, unless it blurs them. -/
theorem equiv_iff_not_blurs (ha : a.Sorted) (hb : b.Sorted) (hc : c.Sorted)
    (h : a.equiv b = true) (h' : b.equiv c = true) : a.equiv c = true ↔ ¬ b.Blurs a c := by
  have resembles := (equiv_iff ha hb).1 h
  have resembles' := (equiv_iff hb hc).1 h'
  rw [equiv_iff ha hc, resembles.trans_iff resembles']
  constructor
  · rintro related ⟨turns, k, m, n, left, middle, right, blurs⟩
    exact (Number.sameValue_iff_not_blurs (resembles.number left middle)
      (resembles'.number middle right)).1 (related turns k m n left middle right) blurs
  · intro apart turns k m n left middle right
    exact (Number.sameValue_iff_not_blurs (resembles.number left middle)
      (resembles'.number middle right)).2 fun blurs =>
        apart ⟨turns, k, m, n, left, middle, right, blurs⟩

theorem equiv_trans (ha : a.Sorted) (hb : b.Sorted) (hc : c.Sorted)
    (short : a.IsShort ∨ b.IsShort ∨ c.IsShort) (h : a.equiv b = true) (h' : b.equiv c = true) :
    a.equiv c = true :=
  (equiv_iff_not_blurs ha hb hc h h').2 fun blurs => blurs.not_isShort short

end Transitivity

end Value

/-! ## Comparing keywords -/

/-- Equal values without long numbers are equal to the same values. -/
theorem Value.equiv_congr {a b c d : Value} (ha : a.Sorted) (hb : b.Sorted) (hc : c.Sorted)
    (hd : d.Sorted) (short : a.IsShort) (short' : c.IsShort) (h : a.equiv b = true)
    (h' : c.equiv d = true) : a.equiv c = b.equiv d := by
  refine Bool.eq_iff_iff.2 ⟨fun equal => ?_, fun equal => ?_⟩
  · have equal := equiv_trans hb ha hc (.inr (.inl short)) (equiv_symm ha hb h) equal
    exact equiv_trans hb hc hd (.inr (.inl short')) equal h'
  · have equal := equiv_trans ha hb hd (.inl short) h equal
    exact equiv_trans ha hd hc (.inl short) equal (equiv_symm hc hd h')

/-- A value is equal to both or neither of two equal values without long numbers. -/
theorem Value.equiv_congr_right {expected data data' : Value} (sorted : expected.Sorted)
    (ha : data.Sorted) (hb : data'.Sorted) (short : data.IsShort)
    (equal : data.equiv data' = true) : expected.equiv data = expected.equiv data' :=
  Bool.eq_iff_iff.2
    ⟨fun h => equiv_trans sorted ha hb (.inr (.inl short)) h equal,
      fun h => equiv_trans sorted hb ha (.inr (.inr short)) h (equiv_symm ha hb equal)⟩

theorem Value.IsShort.item {items : List Value} (short : (array items).IsShort) {i : ℕ}
    {item : Value} (found : items[i]? = some item) : item.IsShort :=
  fun turns n leads => short (.item i :: turns) n (by rw [at?_cons, turn?, found]; exact leads)

/-- Items are repeated in both or neither of two equal arrays without long numbers. -/
theorem Assertion.holds_unique_congr {as bs : List Value} (ha : (Value.array as).Sorted)
    (hb : (Value.array bs).Sorted) (short : (Value.array as).IsShort)
    (equal : (Value.array as).equiv (.array bs) = true) :
    (unique true).holds (.array as) = (unique true).holds (.array bs) := by
  rw [Value.equiv, Bool.and_eq_true, beq_iff_eq, Value.equivItems_iff] at equal
  obtain ⟨count, items⟩ := equal
  have pair {i j : ℕ} (hi : i < as.length) (hj : j < as.length) (hi' : i < bs.length)
      (hj' : j < bs.length) : as[j].equiv as[i] = bs[j].equiv bs[i] := by
    have left (k : ℕ) (hk : k < as.length) : as[k]? = some as[k] := List.getElem?_eq_getElem hk
    have right (k : ℕ) (hk : k < bs.length) : bs[k]? = some bs[k] := List.getElem?_eq_getElem hk
    rw [Value.sorted_array_iff] at ha hb
    exact Value.equiv_congr (ha _ (List.getElem_mem hj)) (hb _ (List.getElem_mem hj'))
      (ha _ (List.getElem_mem hi)) (hb _ (List.getElem_mem hi')) (short.item (left j hj))
      (short.item (left i hi)) (items j _ _ (left j hj) (right j hj'))
      (items i _ _ (left i hi) (right i hi'))
  rw [holds_unique, holds_unique, decide_eq_decide, List.pairwise_iff_getElem,
    List.pairwise_iff_getElem]
  constructor <;> intro all i j hi hj less
  · rw [← pair (count ▸ hi) (count ▸ hj)]
    exact all i j _ _ less
  · rw [pair hi hj (count ▸ hi) (count ▸ hj)]
    exact all i j _ _ less

/-- The keywords that compare values. -/
def AssertionKind.Compares : AssertionKind → Prop
  | among | equal | unique => True
  | _ => False

/-- Equal values without long numbers satisfy the same keywords that compare them with something. -/
theorem AssertionKind.holds_eq_of_equiv {kind : AssertionKind} {value data data' : Value}
    {assertion : Assertion} (compares : kind.Compares)
    (compiled : kind.compile value = .ok assertion) (sorted : value.Sorted) (ha : data.Sorted) (hb : data'.Sorted) (short : data.IsShort)
    (equal : data.equiv data' = true) : assertion.holds data = assertion.holds data' := by
  cases kind with
  | among =>
    cases value with
    | array values =>
      cases compiled
      rw [Value.sorted_array_iff] at sorted
      simp only [Assertion.holds, Assertion.objections, Assertion.isEmpty_objectionUnless]
      rw [Bool.eq_iff_iff, List.any_eq_true, List.any_eq_true]
      exact exists_congr fun expected => and_congr_right fun mem => by
        rw [Value.equiv_congr_right (sorted expected mem) ha hb short equal]
    | _ => cases compiled
  | equal =>
    cases compiled
    simp only [Assertion.holds, Assertion.objections, Assertion.isEmpty_objectionUnless]
    exact Value.equiv_congr_right sorted ha hb short equal
  | unique =>
    cases value with
    | bool wanted =>
      cases compiled
      cases wanted with
      | false => rfl
      | true =>
        cases data with
        | array as =>
          cases data' with
          | array bs => exact Assertion.holds_unique_congr ha hb short equal
          | _ => simp [Value.equiv] at equal
        | _ =>
          cases data' with
          | array bs => simp [Value.equiv] at equal
          | _ => rfl
    | _ => cases compiled
  | _ => cases compares

namespace Value

/-- Equality of data is reflexive and symmetric. It is transitive but for doubles that two different
    integers are rounded to, which only long ones are. Without long numbers no keyword that
    compares values tells equal ones apart. -/
theorem equiv_laws {a b c : Value} (ha : a.Sorted) (hb : b.Sorted) (hc : c.Sorted) :
    a.equiv a = true ∧
    (a.equiv b = true → b.equiv a = true) ∧
    (a.equiv b = true → b.equiv c = true → (a.equiv c = true ↔ ¬ b.Blurs a c)) ∧
    (b.Blurs a c → ¬ (a.IsShort ∨ b.IsShort ∨ c.IsShort)) ∧
    ∀ kind value assertion, AssertionKind.Compares kind → kind.compile value = .ok assertion →
      value.Sorted → a.IsShort → a.equiv b = true → assertion.holds a = assertion.holds b :=
  ⟨equiv_refl ha, equiv_symm ha hb, equiv_iff_not_blurs ha hb hc, Blurs.not_isShort,
    fun _ _ _ compares compiled sorted short equal =>
      AssertionKind.holds_eq_of_equiv compares compiled sorted ha hb short equal⟩

/-- A double and the integers that are rounded to it, as items of arrays. -/
theorem equiv_laws_long :
    (array [number (.double ⟨false, 4503599627370496, 1, by decide⟩)]).Blurs
      (array [number (.integer 9007199254740992 (by decide))])
      (array [number (.integer 9007199254740993 (by decide))]) := by
  by_contra apart
  have laws := equiv_laws (a := array [number (.integer 9007199254740992 (by decide))])
    (b := array [number (.double ⟨false, 4503599627370496, 1, by decide⟩)])
    (c := array [number (.integer 9007199254740993 (by decide))])
    ⟨trivial, trivial⟩ ⟨trivial, trivial⟩ ⟨trivial, trivial⟩
  exact absurd ((laws.2.2.1 (by decide +kernel) (by decide +kernel)).2 apart) (by decide +kernel)

/-- Two integers are equal to a double, but not to each other. -/
theorem equiv_not_transitive :
    let first := number (.integer 9007199254740992 (by decide))
    let double := number (.double ⟨false, 4503599627370496, 1, by decide⟩)
    let second := number (.integer 9007199254740993 (by decide))
    first.equiv double = true ∧ double.equiv second = true ∧ first.equiv second = false := by
  decide +kernel

end Value

end JsonSchema
