import JsonSchema.Proofs.Json.Texts
import JsonSchema.Store.Cache
import Mathlib.Data.List.Sort

/-!
# Canonical texts

An object is a finite map. Its members are sorted before it is written, and with equal names at
every place there is one sorted list for one map. So a canonical text is the text of one value, in
whatever order the members of its objects were given.

* `Value.Same`: values are the same, with objects compared as maps.
* `Value.arranged_eq_iff`: sorting makes values equal exactly if they are the same.
* `Value.canonicalText_of_sorted`: for a value that is sorted the canonical text is the text.
* `Json.sorted_of_parse?`: what is read from a text is sorted.
* `Value.canonicalText_identifies`: canonical texts, and but for collisions of digests also the keys
  of the cache, are equal exactly if the values are the same.
-/

namespace JsonSchema

/-! ## Sorted members -/

namespace Members

variable {members others : Members} {name other : String} {value : Value}

/-- The names are strictly ascending. -/
def Ascending (members : Members) : Prop := members.Pairwise fun a b => a.1 < b.1

theorem get?_insert (members : Members) (name other : String) (value : Value) :
    (members.insert name value).get? other =
      if name = other then some value else members.get? other := by
  induction members with
  | nil => rfl
  | cons member rest ih =>
    obtain ⟨key, old⟩ := member
    rw [insert]
    split
    · rfl
    · split
      · next same =>
        subst same
        by_cases here : name = other <;> simp [get?, here]
      · next ne =>
        by_cases here : key = other
        · subst here
          simp [get?, ne]
        · simp [get?, here, ih]

theorem mem_insert {member : String × Value} (mem : member ∈ members.insert name value) :
    member = (name, value) ∨ member ∈ members := by
  induction members with
  | nil => exact .inl (List.mem_singleton.1 mem)
  | cons first rest ih =>
    obtain ⟨key, old⟩ := first
    rw [insert] at mem
    split at mem
    · exact List.mem_cons.1 mem
    · split at mem
      · exact (List.mem_cons.1 mem).imp_right (List.mem_cons_of_mem _)
      · rcases List.mem_cons.1 mem with rfl | mem
        · exact .inr List.mem_cons_self
        · exact (ih mem).imp_right (List.mem_cons_of_mem _)

theorem Ascending.insert (ascending : members.Ascending) (name : String) (value : Value) :
    (members.insert name value).Ascending := by
  induction members with
  | nil => exact List.pairwise_singleton _ _
  | cons first rest ih =>
    obtain ⟨key, old⟩ := first
    obtain ⟨least, ascending'⟩ := List.pairwise_cons.1 ascending
    rw [Members.insert]
    split
    · next before =>
      refine List.pairwise_cons.2 ⟨fun member mem => ?_, ascending⟩
      rcases List.mem_cons.1 mem with rfl | mem
      · exact before
      · exact String.lt_trans before (least member mem)
    · next behind =>
      split
      · next same =>
        subst same
        exact List.pairwise_cons.2 ⟨least, ascending'⟩
      · next ne =>
        refine List.pairwise_cons.2 ⟨fun member mem => ?_, ih ascending'⟩
        rcases mem_insert mem with rfl | mem
        · exact String.not_le.1 fun le => ne (String.le_antisymm le (String.not_lt.1 behind))
        · exact least member mem

theorem mem_iff_get? (ascending : members.Ascending) :
    (name, value) ∈ members ↔ members.get? name = some value := by
  refine ⟨fun mem => ?_, mem_of_get?⟩
  induction members with
  | nil => cases mem
  | cons first rest ih =>
    obtain ⟨key, old⟩ := first
    obtain ⟨least, ascending'⟩ := List.pairwise_cons.1 ascending
    rcases List.mem_cons.1 mem with same | mem
    · cases same
      simp [get?]
    · have other : key ≠ name := fun same =>
        String.lt_irrefl name (same ▸ least (name, value) mem)
      rw [get?, if_neg other]
      exact ih ascending' mem

/-- Sorted members with the same value under every name are equal. -/
theorem Ascending.ext (ascending : members.Ascending) (ascending' : others.Ascending)
    (same : ∀ name, members.get? name = others.get? name) : members = others := by
  have irrefl : Std.Irrefl fun a b : String × Value => a.1 < b.1 := ⟨fun a => String.lt_irrefl a.1⟩
  have antisymm : Std.Antisymm fun a b : String × Value => a.1 < b.1 :=
    ⟨fun a b before behind => absurd (String.lt_trans before behind) (String.lt_irrefl a.1)⟩
  refine List.Pairwise.eq_of_mem_iff ascending ascending' fun member => ?_
  obtain ⟨name, value⟩ := member
  rw [mem_iff_get? ascending, mem_iff_get? ascending', same]

/-- A member that comes before all others is put in front. -/
theorem insert_of_least (least : ∀ member ∈ members, name < member.1) :
    members.insert name value = (name, value) :: members := by
  cases members with
  | nil => rfl
  | cons first rest => rw [insert, if_pos (least first List.mem_cons_self)]

end Members

namespace Value

/-! ## Values that are the same -/

/-- Values are the same: equal scalars, arrays item by item, objects name by name. -/
inductive Same : Value → Value → Prop where
  | null : Same .null .null
  | bool (b : Bool) : Same (.bool b) (.bool b)
  | number (n : Number) : Same (.number n) (.number n)
  | string (s : String) : Same (.string s) (.string s)
  | array {as bs : List Value} (count : as.length = bs.length)
      (items : ∀ (i : ℕ) a b, as[i]? = some a → bs[i]? = some b → Same a b) :
      Same (.array as) (.array bs)
  | object {as bs : Members} (names : ∀ name, as.contains name = bs.contains name)
      (values : ∀ name a b, as.get? name = some a → bs.get? name = some b → Same a b) :
      Same (.object as) (.object bs)

theorem arrangedItems_eq (items : List Value) : arrangedItems items = items.map arranged := by
  induction items with
  | nil => rfl
  | cons item rest ih => rw [arrangedItems, ih, List.map_cons]

theorem arrangedMembers_ascending (members : Members) : (arrangedMembers members).Ascending := by
  induction members with
  | nil => exact List.Pairwise.nil
  | cons member rest ih => exact ih.insert _ _

/-- Every name has its value, arranged. -/
theorem get?_arrangedMembers (members : Members) (name : String) :
    (arrangedMembers members).get? name = (members.get? name).map arranged := by
  induction members with
  | nil => rfl
  | cons member rest ih =>
    obtain ⟨key, value⟩ := member
    rw [arrangedMembers, Members.get?_insert, Members.get?, ih]
    split <;> rfl

theorem Same.arranged_eq {a b : Value} (same : a.Same b) : a.arranged = b.arranged := by
  induction same with
  | null | bool _ | number _ | string _ => rfl
  | @array as bs count items ih =>
    rw [arranged, arranged, arrangedItems_eq, arrangedItems_eq]
    refine congrArg Value.array (List.ext_getElem? fun i => ?_)
    rw [List.getElem?_map, List.getElem?_map]
    cases left : as[i]? with
    | none =>
      have none_ : bs[i]? = none := by
        rw [List.getElem?_eq_none_iff] at left ⊢
        exact count ▸ left
      rw [none_]
    | some a =>
      obtain ⟨b, right⟩ : ∃ b, bs[i]? = some b := by
        obtain ⟨bound, -⟩ := List.getElem?_eq_some_iff.1 left
        exact ⟨_, List.getElem?_eq_getElem (count ▸ bound)⟩
      rw [right, Option.map_some, Option.map_some, ih i a b left right]
  | @object as bs names values ih =>
    rw [arranged, arranged]
    refine congrArg Value.object (Members.Ascending.ext (arrangedMembers_ascending as)
      (arrangedMembers_ascending bs) fun name => ?_)
    have both : (as.get? name).isSome = (bs.get? name).isSome := names name
    rw [get?_arrangedMembers, get?_arrangedMembers]
    cases left : as.get? name with
    | none =>
      rw [left, Option.isSome_none, eq_comm, Option.isSome_eq_false_iff, Option.isNone_iff_eq_none]
        at both
      rw [both]
    | some a =>
      rw [left, Option.isSome_some, eq_comm, Option.isSome_iff_exists] at both
      obtain ⟨b, right⟩ := both
      rw [right, Option.map_some, Option.map_some, ih name a b left right]

theorem same_of_arranged {a b : Value} (eq : a.arranged = b.arranged) : a.Same b := by
  match a, b, eq with
  | .null, b, eq => cases b <;> cases eq; exact .null
  | .bool x, b, eq => cases b <;> cases eq; exact .bool x
  | .number n, b, eq => cases b <;> cases eq; exact .number n
  | .string s, b, eq => cases b <;> cases eq; exact .string s
  | .array as, b, eq =>
    cases b with
    | array bs =>
      have maps : as.map arranged = bs.map arranged := by
        rw [← arrangedItems_eq, ← arrangedItems_eq]
        exact array.inj eq
      refine .array (by simpa using congrArg List.length maps) fun i a b left right => ?_
      have items := congrArg (·[i]?) maps
      rw [List.getElem?_map, List.getElem?_map, left, right] at items
      have mem : a ∈ as := List.mem_of_getElem? left
      exact same_of_arranged (Option.some.inj items)
    | null | bool _ | number _ | string _ | object _ => cases eq
  | .object as, b, eq =>
    cases b with
    | object bs =>
      have maps (name : String) :
          (Members.get? as name).map arranged = (Members.get? bs name).map arranged := by
        rw [← get?_arrangedMembers, ← get?_arrangedMembers, object.inj eq]
      refine .object (fun name => ?_) fun name a b left right => ?_
      · simpa [Members.contains] using congrArg Option.isSome (maps name)
      · have values := maps name
        rw [left, right] at values
        have mem : (name, a) ∈ as := Members.mem_of_get? left
        exact same_of_arranged (Option.some.inj values)
    | null | bool _ | number _ | string _ | array _ => cases eq
termination_by a.weight
decreasing_by
  · exact weight_lt_of_mem_items mem
  · exact weight_lt_of_mem_members mem

/-- Sorting the members makes two values equal exactly if they are the same. -/
theorem arranged_eq_iff {a b : Value} : a.arranged = b.arranged ↔ a.Same b :=
  ⟨same_of_arranged, Same.arranged_eq⟩

/-! ## Sorted values -/

theorem sorted_array_iff {items : List Value} :
    (array items).Sorted ↔ ∀ item ∈ items, item.Sorted := by
  rw [Sorted]
  induction items with
  | nil => simp [SortedItems]
  | cons item rest ih => simp [SortedItems, ih]

theorem sorted_object_iff {members : Members} :
    (object members).Sorted ↔ members.Ascending ∧ ∀ m ∈ members, m.2.Sorted := by
  have each (members : Members) : SortedMembers members ↔ ∀ m ∈ members, m.2.Sorted := by
    induction members with
    | nil => simp [SortedMembers]
    | cons m rest ih => simp [SortedMembers, ih]
  rw [Sorted, each, and_comm]
  exact and_congr_left' List.pairwise_map

/-- Members are put in their places. -/
theorem sorted_ofMembers {members : Members} (sorted : ∀ m ∈ members, m.2.Sorted) :
    (ofMembers members).Sorted := by
  suffices ∀ acc : Members, (object acc).Sorted →
      (object (members.foldl (fun acc m => Members.insert acc m.1 m.2) acc)).Sorted from
    this [] (sorted_object_iff.2 ⟨.nil, by simp⟩)
  induction members with
  | nil => exact fun acc h => h
  | cons m rest ih =>
    obtain ⟨name, value⟩ := m
    intro acc h
    obtain ⟨ascending, each⟩ := sorted_object_iff.1 h
    refine ih (fun m mem => sorted m (List.mem_cons_of_mem _ mem)) _ (sorted_object_iff.2 ?_)
    refine ⟨ascending.insert name value, fun m mem => ?_⟩
    rcases Members.mem_insert mem with rfl | mem
    · exact sorted _ List.mem_cons_self
    · exact each m mem

mutual

theorem arranged_of_sorted {v : Value} (sorted : v.Sorted) : v.arranged = v := by
  match v, sorted with
  | .null, _ | .bool _, _ | .number _, _ | .string _, _ => rfl
  | .array items, sorted => exact congrArg array (arrangedItems_of_sorted sorted)
  | .object members, sorted =>
    exact congrArg object (arrangedMembers_of_sorted sorted.1 (List.pairwise_map.1 sorted.2))

theorem arrangedItems_of_sorted {items : List Value} (sorted : SortedItems items) :
    arrangedItems items = items := by
  match items, sorted with
  | [], _ => rfl
  | item :: rest, sorted =>
    rw [arrangedItems, arranged_of_sorted sorted.1, arrangedItems_of_sorted sorted.2]

theorem arrangedMembers_of_sorted {members : Members} (sorted : SortedMembers members)
    (ascending : members.Ascending) : arrangedMembers members = members := by
  match members, sorted, ascending with
  | [], _, _ => rfl
  | (name, value) :: rest, sorted, ascending =>
    obtain ⟨least, ascending⟩ := List.pairwise_cons.1 ascending
    rw [arrangedMembers, arranged_of_sorted sorted.1, arrangedMembers_of_sorted sorted.2 ascending,
      Members.insert_of_least least]

end

/-- The canonical text of a value whose members are sorted is its text. -/
theorem canonicalText_of_sorted {v : Value} (sorted : v.Sorted) : v.canonicalText = v.text := by
  rw [canonicalText, arranged_of_sorted sorted]

/-! ## Identity -/

theorem canonicalText_eq_iff {a b : Value} : a.canonicalText = b.canonicalText ↔ a.Same b :=
  ⟨fun same => arranged_eq_iff.1 (text_injective same), fun same => congrArg text same.arranged_eq⟩

/-- Two canonical texts are equal exactly if the values are the same; and two documents have one key
    in the cache exactly if they are the same, or their texts are a collision of the digest. -/
theorem canonicalText_identifies (a b : Value) :
    (a.canonicalText = b.canonicalText ↔ a.Same b) ∧
      ∀ i j, KeySerializer.canonical.key ⟨a, i⟩ = KeySerializer.canonical.key ⟨b, j⟩ ↔
        a.Same b ∨ a.canonicalText ≠ b.canonicalText ∧
          Sha256.hexOfText a.canonicalText = Sha256.hexOfText b.canonicalText := by
  refine ⟨canonicalText_eq_iff, fun i j => ?_⟩
  have keys : KeySerializer.canonical.key ⟨a, i⟩ = KeySerializer.canonical.key ⟨b, j⟩ ↔
      Sha256.hexOfText a.canonicalText = Sha256.hexOfText b.canonicalText :=
    ⟨fun same => CacheKey.digest.inj same, fun same => congrArg CacheKey.digest same⟩
  rw [keys, ← canonicalText_eq_iff]
  constructor
  · exact fun digests => (em (a.canonicalText = b.canonicalText)).imp_right (⟨·, digests⟩)
  · rintro (same | ⟨-, digests⟩)
    · rw [same]
    · exact digests

/-- The order in which members are given does not matter. -/
example :
    (object [("b", .bool true), ("a", .object [("y", .null), ("x", .array [.bool false])])]).Same
      (.object [("a", .object [("x", .array [.bool false]), ("y", .null)]), ("b", .bool true)]) :=
  arranged_eq_iff.1 (by decide)

end Value

/-! ## Values that are read -/

namespace Json

/-- What is read with some fuel is sorted: values, and arrays and objects of which some parts were
    read before. -/
theorem sorted_of_value? (fuel : Nat) :
    (∀ depth cs value rest, value? fuel depth cs = some (value, rest) → value.Sorted) ∧
    (∀ depth acc cs value rest, (∀ item ∈ acc, Value.Sorted item) →
      items? fuel depth acc cs = some (value, rest) → value.Sorted) ∧
    ∀ depth (acc : Members) cs value rest, (∀ m ∈ acc, m.2.Sorted) →
      members? fuel depth acc cs = some (value, rest) → value.Sorted := by
  induction fuel with
  | zero => exact ⟨nofun, nofun, nofun⟩
  | succ fuel ih =>
    obtain ⟨ofValue, ofItems, ofMembers⟩ := ih
    refine ⟨fun depth cs value rest read => ?_, fun depth acc cs value rest sorted read => ?_,
      fun depth acc cs value rest sorted read => ?_⟩
    · unfold value? at read
      split at read
      case h_1 | h_2 | h_3 | h_4 | h_7 =>
        obtain ⟨_, -, same⟩ := Option.map_eq_some_iff.1 read
        cases same
        trivial
      case h_5 =>
        split at read
        · cases read
        · split at read
          · cases read
            exact Value.sorted_array_iff.2 (by simp)
          · exact ofItems _ _ _ _ _ (by simp) read
      case h_6 =>
        split at read
        · cases read
        · split at read
          · cases read
            exact Value.sorted_object_iff.2 ⟨.nil, by simp⟩
          · exact ofMembers _ _ _ _ _ (by simp) read
    · unfold items? at read
      split at read
      · cases read
      · next item rest' found =>
        have sorted : ∀ i ∈ item :: acc, Value.Sorted i :=
          List.forall_mem_cons.2 ⟨ofValue _ _ _ _ found, sorted⟩
        split at read
        · exact ofItems _ _ _ _ _ sorted read
        · cases read
          exact Value.sorted_array_iff.2 fun i mem => sorted i (List.mem_reverse.1 mem)
        · cases read
    · unfold members? at read
      split at read
      · split at read
        · cases read
        · next name rest' _ =>
          split at read
          · split at read
            · cases read
            · next value' rest'' found =>
              have sorted : ∀ m ∈ (name, value') :: acc, m.2.Sorted :=
                List.forall_mem_cons.2 ⟨ofValue _ _ _ _ found, sorted⟩
              split at read
              · exact ofMembers _ _ _ _ _ sorted read
              · cases read
                exact Value.sorted_ofMembers fun m mem => sorted m (List.mem_reverse.1 mem)
              · cases read
          · cases read
      · cases read

/-- What is read from a text is sorted. -/
theorem sorted_of_parse? {text : String} {value : Value} (read : parse? text = some value) :
    value.Sorted := by
  rw [parse?] at read
  split at read
  · next found =>
    split at read
    · cases read
      exact (sorted_of_value? _).1 _ _ _ _ found
    · cases read
  · cases read

end Json

end JsonSchema
