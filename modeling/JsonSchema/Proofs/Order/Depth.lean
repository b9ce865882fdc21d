import JsonSchema.Proofs.Order.Continuing
import Mathlib.Algebra.Order.BigOperators.Group.List
import Mathlib.Tactic.Ring

/-!
# The depth of a compilation

The bound on the depth of a compilation is never reached with built-in keywords. References lead
only to documents and to the parts that references in them ask for, and there are not more of
those than the documents weigh; each is begun once, and what lies between two of them is a chain of
subschemas.

* `Value.asks`: the references in a schema; `Value.spots`: the parts of a value.
* `Store.targets`: where references lead, and `Store.length_targets_le`: how many places that are.
* `Compiler.schema_shallow`: a compilation that has more depth left than it needs is not too deep.
* `Compiler.compile_shallow`: no compilation is too deep.
-/

namespace JsonSchema

/-! ## References and parts of values -/

/-- The subschemas in the value of a keyword weigh no more than the value. -/
theorem Nesting.sum_parts_le (nesting : Nesting) (value : Value) :
    ((nesting.parts value).map Value.weight).sum ≤ value.weight := by
  have items (list : List Value) : (list.map Value.weight).sum ≤ Value.itemsWeight list := by
    induction list with
    | nil => exact Nat.le_refl _
    | cons item rest ih =>
      rw [List.map_cons, List.sum_cons, Value.itemsWeight]
      omega
  have members (list : Members) :
      ((list.map (·.2)).map Value.weight).sum ≤ Value.membersWeight list := by
    induction list with
    | nil => exact Nat.le_refl _
    | cons member rest ih =>
      rw [List.map_cons, List.map_cons, List.sum_cons, Value.membersWeight]
      omega
  have single : ([value].map Value.weight).sum ≤ value.weight := by simp
  cases nesting with
  | none => exact Nat.zero_le _
  | schema => exact single
  | array =>
    cases value with
    | array list => exact Nat.le_trans (items list) (by rw [Value.weight]; omega)
    | _ => exact Nat.zero_le _
  | schemaOrArray =>
    cases value with
    | array list => exact Nat.le_trans (items list) (by rw [Value.weight]; omega)
    | _ => exact single
  | map =>
    cases value with
    | object list => exact Nat.le_trans (members list) (by rw [Value.weight]; omega)
    | _ => exact Nat.zero_le _

theorem Nesting.weight_le_of_mem {nesting : Nesting} {value part : Value}
    (mem : part ∈ nesting.parts value) : part.weight ≤ value.weight := by
  have single (mem : part ∈ [value]) : part.weight ≤ value.weight :=
    Nat.le_of_eq (congrArg _ (List.mem_singleton.1 mem))
  cases nesting with
  | none => cases mem
  | schema => exact single mem
  | array =>
    cases value with
    | array items => exact Nat.le_of_lt (Value.weight_lt_of_mem_items mem)
    | _ => cases mem
  | schemaOrArray =>
    cases value with
    | array items => exact Nat.le_of_lt (Value.weight_lt_of_mem_items mem)
    | _ => exact single mem
  | map =>
    cases value with
    | object members =>
      obtain ⟨member, among, rfl⟩ := List.mem_map.1 mem
      exact Nat.le_of_lt (Value.weight_lt_of_mem_members among)
    | _ => cases mem

namespace Value

/-- What the children of a value weigh. -/
theorem sum_children (value : Value) :
    (value.children.map fun child => child.2.weight + 1).sum + 1 = value.weight := by
  cases value with
  | array items =>
    have sum (list : List Value) (n : Nat) :
        ((list.zipIdx n).map fun p => p.1.weight + 1).sum = itemsWeight list := by
      induction list generalizing n with
      | nil => rfl
      | cons item rest ih =>
        rw [List.zipIdx_cons, List.map_cons, List.sum_cons, ih, itemsWeight, Nat.add_comm item.weight]
    rw [children, List.map_map, weight, Nat.add_comm, ← sum items 0]
    rfl
  | object members =>
    have sum (list : Members) : (list.map fun p => p.2.weight + 1).sum = membersWeight list := by
      induction list with
      | nil => rfl
      | cons member rest ih =>
        rw [List.map_cons, List.sum_cons, ih, membersWeight]
        omega
    rw [children, weight, Nat.add_comm, ← sum members]
  | _ => rfl

/-- What a segment names is a child. -/
theorem mem_children_of_step? {value part : Value} {segment : String}
    (step : value.step? segment = some part) : ∃ name, (name, part) ∈ value.children := by
  cases value with
  | object members => exact ⟨segment, Members.mem_of_get? step⟩
  | array items =>
    obtain ⟨i, -, found⟩ := Option.bind_eq_some_iff.1 step
    refine ⟨toString i, List.mem_map.2 ⟨(part, i), ?_, rfl⟩⟩
    exact List.mem_zipIdx_iff_getElem?.2 found
  | _ => cases step

/-- The absolute references that a schema and its subschemas make, down to a depth. -/
def asks : Nat → Value → String → Bool → List String
  | n + 1, .object members, base, applyId =>
    let inside := Compiler.innerBase members base applyId
    (match Members.get? members "$ref" with
      | some (.string text) => [resolveUrl inside text]
      | _ => []) ++
      members.flatMap fun member =>
        ((Draft07.nestingOf member.1).parts member.2).flatMap fun part => asks n part inside true
  | _, _, _, _ => []

/-- The parts of a value behind some steps, with the bases there, down to a depth. -/
def spots : Nat → Value → String → List (Value × String)
  | 0, _, _ => []
  | n + 1, value, base =>
    value.children.flatMap fun child =>
      (child.2, base) :: spots n child.2 (child.2.baseOf base)

/-- What is made of the elements of a list is no longer than what they allow. -/
theorem length_flatMap_le {α β : Type} {list : List α} {f : α → List β} (g : α → Nat)
    (h : ∀ a ∈ list, (f a).length ≤ g a) : (list.flatMap f).length ≤ (list.map g).sum := by
  rw [List.length_flatMap]
  exact List.sum_le_sum h

/-- A schema makes no more references than it weighs. -/
theorem length_asks_le (n : Nat) (value : Value) (base : String) (applyId : Bool) :
    (value.asks n base applyId).length ≤ value.weight := by
  induction n generalizing value base applyId with
  | zero => exact Nat.zero_le _
  | succ n ih =>
    cases value with
    | object members =>
      have own : ((match Members.get? members "$ref" with
          | some (.string text) =>
            [resolveUrl (Compiler.innerBase members base applyId) text]
          | _ => []) : List String).length ≤ 1 := by
        split <;> simp
      have parts : (members.flatMap fun member =>
          ((Draft07.nestingOf member.1).parts member.2).flatMap fun part =>
            asks n part (Compiler.innerBase members base applyId) true).length ≤ _ :=
        length_flatMap_le (fun member => member.2.weight + 1) fun member _ =>
          Nat.le_succ_of_le (Nat.le_trans (length_flatMap_le _ fun part _ => ih part _ _)
            (Nesting.sum_parts_le _ _))
      have sum : (members.map fun member => member.2.weight + 1).sum + 1 = (object members).weight :=
        sum_children (.object members)
      rw [asks, List.length_append]
      omega
    | _ => exact Nat.zero_le _

/-- A value has fewer parts than it weighs. -/
theorem length_spots_lt (n : Nat) (value : Value) (base : String) :
    (value.spots n base).length < value.weight := by
  induction n generalizing value base with
  | zero => exact weight_pos value
  | succ n ih =>
    rw [← sum_children value, Nat.lt_succ_iff]
    refine length_flatMap_le _ fun child _ => ?_
    rw [List.length_cons]
    exact Nat.le_succ_of_le (ih child.2 _)

theorem weight_lt_of_mem_spots {n : Nat} {value : Value} {base : String} {at_ : Value × String}
    (mem : at_ ∈ value.spots n base) : at_.1.weight < value.weight := by
  induction n generalizing value base with
  | zero => cases mem
  | succ n ih =>
    obtain ⟨child, among, mem⟩ := List.mem_flatMap.1 mem
    have lighter : child.2.weight < value.weight := weight_lt_of_mem_children among
    rcases List.mem_cons.1 mem with rfl | mem
    · exact lighter
    · exact Nat.lt_trans (ih mem) lighter

/-- What some steps lead to is a part. -/
theorem mem_spots {n : Nat} {value part : Value} {base inside : String} {steps : List String}
    (enough : value.weight ≤ n) (some_ : steps ≠ [])
    (follows : value.follow? base steps = some (part, inside)) : (part, inside) ∈ value.spots n base := by
  induction n generalizing value base steps with
  | zero => exact absurd (weight_pos value) (Nat.not_lt_of_le enough)
  | succ n ih =>
    rw [spots, List.mem_flatMap]
    cases steps with
    | nil => exact absurd rfl some_
    | cons segment rest =>
      cases rest with
      | nil =>
        obtain ⟨part', step, same⟩ := Option.map_eq_some_iff.1 follows
        cases same
        obtain ⟨name, among⟩ := mem_children_of_step? step
        exact ⟨_, among, List.mem_cons_self⟩
      | cons second rest =>
        obtain ⟨child, step, follows⟩ := Option.bind_eq_some_iff.1 follows
        obtain ⟨name, among⟩ := mem_children_of_step? step
        have lighter : child.weight < value.weight := weight_lt_of_mem_children among
        have enough : child.weight ≤ n := by omega
        exact ⟨_, among, List.mem_cons_of_mem _ (ih enough (List.cons_ne_nil _ _) follows)⟩

/-- A reference of a schema is one of those that it makes. -/
theorem mem_asks_own {n : Nat} {members : Members} {base text : String} {applyId : Bool}
    (own : Members.get? members "$ref" = some (.string text)) :
    resolveUrl (Compiler.innerBase members base applyId) text ∈ asks (n + 1) (.object members) base applyId := by
  rw [asks, own]
  exact List.mem_append_left _ List.mem_cons_self

/-- So are those of its subschemas. -/
theorem mem_asks_part {n : Nat} {members : Members} {base reference : String} {applyId : Bool}
    {part : Value} (among : members.Part part)
    (mem : reference ∈ part.asks n (Compiler.innerBase members base applyId) true) :
    reference ∈ asks (n + 1) (.object members) base applyId := by
  obtain ⟨name, value, found, own⟩ := among
  rw [asks]
  refine List.mem_append_right _ (List.mem_flatMap.2 ⟨(name, value), Members.mem_of_get? found, ?_⟩)
  exact List.mem_flatMap.2 ⟨part, own, mem⟩

/-- A subschema weighs less than its schema. -/
theorem weight_lt_of_part {members : Members} {part : Value} (among : members.Part part) :
    part.weight < (object members).weight := by
  obtain ⟨name, value, found, own⟩ := among
  exact Nat.lt_of_le_of_lt (Nesting.weight_le_of_mem own) (weight_lt_of_get? found)

end Value

/-! ## Where references lead -/

/-- The references that are made in a document or in a part of it. -/
def Entry.asks (d : Entry) : List String :=
  let weight := d.document.weight
  d.document.asks weight d.id false ++
    ((d.document, d.id) :: d.document.spots weight d.id).flatMap fun at_ => at_.1.asks weight at_.2 true

theorem Entry.length_asks_le (d : Entry) :
    d.asks.length ≤ d.document.weight + d.document.weight * d.document.weight := by
  have parts : (((d.document, d.id) :: d.document.spots d.document.weight d.id).flatMap fun at_ =>
      at_.1.asks d.document.weight at_.2 true).length ≤ _ :=
    Value.length_flatMap_le (fun _ => d.document.weight) fun at_ mem =>
      Nat.le_trans (Value.length_asks_le _ _ _ _) (by
      rcases List.mem_cons.1 mem with rfl | mem
      · exact Nat.le_refl _
      · exact Nat.le_of_lt (Value.weight_lt_of_mem_spots mem))
  rw [List.map_const', List.sum_replicate_nat, List.length_cons] at parts
  have fewer := Value.length_spots_lt d.document.weight d.document d.id
  rw [asks, List.length_append]
  refine Nat.add_le_add (Value.length_asks_le _ _ _ _) (Nat.le_trans parts ?_)
  exact Nat.mul_le_mul_right _ fewer

namespace Store

variable {s s' : Store} {id root : EntryId} {e : Entry} {reference : String} {spot : Spot}

/-- Where a reference leads that is made in a document. -/
def spotOf (s : Store) (root : EntryId) (reference : String) : Option Spot :=
  (s.resolve root reference).spot?

/-- The entries of a store. -/
def held (s : Store) : List Entry := s.entries.toList.filterMap fun slot => slot

/-- Where the references lead that are made in the documents of a store. -/
def targets (s : Store) : List Spot := s.held.flatMap fun d => d.asks.filterMap (s.spotOf d.root)

/-- What the documents of a store weigh. -/
def weight (s : Store) : Nat := (s.held.map fun e => e.document.weight).sum

theorem mem_held (found : s.entry? id = some e) : e ∈ s.held := by
  have at_ : s.entries[id.index]? = some (some e) := Option.join_eq_some_iff.1 found
  exact List.mem_filterMap.2 ⟨some e, Array.mem_toList_iff.2 (Array.mem_of_getElem? at_), rfl⟩

theorem sum_squares_le (list : List Nat) :
    (list.map fun n => n + n * n).sum ≤ list.sum + list.sum * list.sum := by
  induction list with
  | nil => exact Nat.le_refl _
  | cons n rest ih =>
    rw [List.map_cons, List.sum_cons, List.sum_cons, Nat.add_mul, Nat.mul_add, Nat.mul_add]
    omega

theorem weight_le (found : s.entry? id = some e) : e.document.weight ≤ s.weight := by
  have mem := mem_held found
  unfold weight
  generalize s.held = held at mem ⊢
  induction held with
  | nil => cases mem
  | cons head rest ih =>
    rw [List.map_cons, List.sum_cons]
    rcases List.mem_cons.1 mem with rfl | mem
    · exact Nat.le_add_right _ _
    · exact Nat.le_add_left_of_le (ih mem)

theorem length_targets_le (s : Store) : s.targets.length ≤ s.weight + s.weight * s.weight := by
  have counted : s.targets.length ≤ _ :=
    Value.length_flatMap_le (fun d => d.document.weight + d.document.weight * d.document.weight)
      fun d _ => Nat.le_trans (List.length_filterMap_le _ _) d.length_asks_le
  have squares := sum_squares_le (s.held.map fun d => d.document.weight)
  rw [List.map_map] at squares
  exact Nat.le_trans counted squares

/-- The bound on the depth is enough for what is between references, as often as they can lead
    somewhere new. -/
theorem depthOf_enough (s : Store) :
    s.targets.length * (s.weight + 1) + s.weight < Compiler.depthOf s := by
  have heavier (f : Option Entry → Nat) (heavy : ∀ e, e.document.weight ≤ f (some e)) :
      s.weight ≤ (s.entries.toList.map f).foldl (· + ·) 0 := by
    rw [← List.sum_eq_foldl, weight, held]
    induction s.entries.toList with
    | nil => exact Nat.le_refl _
    | cons slot rest ih =>
      rw [List.map_cons, List.sum_cons]
      cases slot with
      | none => exact Nat.le_add_left_of_le ih
      | some e => exact Nat.add_le_add (heavy e) ih
  have few := s.length_targets_le
  unfold Compiler.depthOf
  simp only [Nat.pow_eq]
  refine Nat.lt_of_lt_of_le ?_ (Nat.add_le_add_left (Nat.pow_le_pow_left
    (Nat.add_le_add_right (heavier _ fun e => ?_) 2) 6) 10000)
  swap
  · exact Nat.le_succ_of_le (Nat.le_add_right _ _)
  generalize s.weight = x at few
  calc s.targets.length * (x + 1) + x
      ≤ (x + x * x) * (x + 1) + x := by gcongr
    _ = x ^ 3 + 2 * x ^ 2 + 2 * x := by ring
    _ < 10000 + (x ^ 6 + 12 * x ^ 5 + 60 * x ^ 4 + 160 * x ^ 3 + 240 * x ^ 2 + 192 * x + 64) := by omega
    _ = 10000 + (x + 2) ^ 6 := by ring

/-- The places that a schema in a document refers to are among the targets. -/
def Within (s : Store) (root : EntryId) (value : Value) (base : String) (applyId : Bool) : Prop :=
  ∃ n, value.weight ≤ n ∧ ∀ reference ∈ value.asks n base applyId, ∀ spot,
    s.spotOf root reference = some spot → spot ∈ s.targets

/-- What a reference denotes is where it leads. -/
theorem Linked.spotOf_denotes (linked : s.Linked) {target : EntryId} (found : s.entry? id = some e)
    (denotes : s.Denotes id reference target) : s.spot? target = s.spotOf e.root reference := by
  obtain ⟨d, foundD, doc, -⟩ := linked.root_entry found
  have own : s.resolve e.root reference = s.resolve id reference := by
    unfold resolve
    simp only [found, foundD, linked.document_root foundD doc, Option.bind_eq_bind, Option.bind_some]
  obtain ⟨spot, leads, at_⟩ := linked.spot?_denotes denotes
  rw [spotOf, own, leads, at_]

theorem Shares.spotOf_eq (h : s.Shares s') (linked : s.Linked) (linked' : s'.Linked)
    (found : s.entry? root = some e) (doc : e.pointer = "") (reference : String) :
    s'.spotOf root reference = s.spotOf root reference := by
  obtain ⟨e', found', reset⟩ := h.document found doc
  have corresponds : Corresponds Eq s s' root root :=
    .of_spot (spot?_eq found) ((spot?_eq found').trans (congrArg some (congrArg Entry.spot reset :)))
  rw [spotOf, spotOf, h.resolve_spot linked linked' corresponds]

/-- An entry that is made of a document of a store makes no references but those of the document. -/
theorem Shares.asks_subset (h : s.Shares s') (linked : s.Linked) (linked' : s'.Linked)
    (found : s'.entry? id = some e) :
    ∃ d, s.entry? e.root = some d ∧ d.pointer = "" ∧ d.root = e.root ∧
      e.document.weight ≤ d.document.weight ∧
      ∀ reference ∈ e.document.asks d.document.weight e.id e.isFragment, reference ∈ d.asks := by
  obtain ⟨d', foundD', doc, -⟩ := linked'.root_entry found
  obtain ⟨d, foundD, reset⟩ := h.symm.document foundD' doc
  have document : d.document = d'.document := (congrArg Entry.document reset :)
  have base : d.id = d'.id := (congrArg Entry.id reset :)
  have docD : d.pointer = "" := ((congrArg Entry.pointer reset :) : d.pointer = d'.pointer).trans doc
  refine ⟨d, foundD, docD, linked.document_root foundD docD, ?_⟩
  by_cases whole : e.pointer = ""
  · have self := linked'.document_root found whole
    rw [self] at foundD'
    cases found.symm.trans foundD'
    have part : e.isFragment = false := by rw [Entry.isFragment, whole]; rfl
    rw [part, ← document, ← base]
    exact ⟨Nat.le_refl _, fun reference mem => List.mem_append_left _ mem⟩
  · obtain ⟨-, -, f, foundF, -, segments, -, cut⟩ := linked'.fragment id e found whole
    cases foundD'.symm.trans foundF
    rw [← document, ← base] at cut
    have part : e.isFragment = true := by
      rw [Entry.isFragment, Bool.not_eq_true', ← Bool.not_eq_true, String.isEmpty_iff]
      exact whole
    have mem : (e.document, e.id) ∈ (d.document, d.id) :: d.document.spots d.document.weight d.id := by
      cases segments with
      | nil =>
        have whole : (d.document, d.id) = (e.document, e.id) := Option.some.inj cut
        exact whole ▸ List.mem_cons_self
      | cons segment rest =>
        exact List.mem_cons_of_mem _ (Value.mem_spots (Nat.le_refl _) (List.cons_ne_nil _ _) cut)
    have lighter : e.document.weight ≤ d.document.weight := by
      rcases List.mem_cons.1 mem with same | mem
      · exact Nat.le_of_eq (congrArg (·.1.weight) same)
      · exact Nat.le_of_lt (Value.weight_lt_of_mem_spots mem)
    rw [part]
    exact ⟨lighter, fun reference mem' =>
      List.mem_append_right _ (List.mem_flatMap.2 ⟨_, mem, mem'⟩)⟩

/-- Entries that are made of the documents of a store refer to its targets only. -/
theorem Shares.within (h : s.Shares s') (linked : s.Linked) (linked' : s'.Linked)
    (found : s'.entry? id = some e) :
    s.Within e.root e.document e.id e.isFragment ∧ e.document.weight ≤ s.weight := by
  obtain ⟨d, foundD, -, root, lighter, asks⟩ := h.asks_subset linked linked' found
  refine ⟨⟨_, lighter, fun reference mem spot at_ => ?_⟩, Nat.le_trans lighter (weight_le foundD)⟩
  refine List.mem_flatMap.2 ⟨d, mem_held foundD, List.mem_filterMap.2 ⟨reference, asks reference mem, ?_⟩⟩
  rw [root]
  exact at_

end Store

open Compilation (Continues Leads Looks)

variable {K : EntryId → Compiler → Prop} {s : Store} {c d : Compilation} {compiler : Compiler}

/-! ## How deep a compilation is -/

namespace Compilation

/-- All targets of a store but `n` of them were begun. -/
def Lacks (s : Store) (n : Nat) (c : Compilation) : Prop :=
  ∃ left : List Spot, left.length ≤ n ∧ ∀ spot ∈ s.targets, c.store.StartedAt spot ∨ spot ∈ left

namespace Lacks

variable {n : Nat}

theorem all (s : Store) (c : Compilation) : Lacks s s.targets.length c :=
  ⟨s.targets, Nat.le_refl _, fun _ mem => .inr mem⟩

theorem evolves (lacks : Lacks s n c) (evolves : c.store.Evolves d.store) : Lacks s n d := by
  obtain ⟨left, few, covers⟩ := lacks
  exact ⟨left, few, fun spot mem => (covers spot mem).imp_left evolves.startedAt⟩

/-- Beginning the entry at a target leaves one fewer. -/
theorem begun (lacks : Lacks s n c) {id : EntryId} {spot : Spot} (mem : spot ∈ s.targets)
    (at_ : c.store.spot? id = some spot) (idle : ¬ c.store.StartedAt spot) :
    ∃ m, n = m + 1 ∧ Lacks s m (Compiler.begun c id) := by
  obtain ⟨left, few, covers⟩ := lacks
  have own : spot ∈ left := (covers spot mem).resolve_left idle
  obtain ⟨m, rfl⟩ : ∃ m, n = m + 1 :=
    ⟨n - 1, (Nat.sub_add_cancel (Nat.le_trans (List.length_pos_of_mem own) few)).symm⟩
  refine ⟨m, rfl, left.erase spot, ?_, fun other mem => ?_⟩
  · rw [List.length_erase_of_mem own]
    omega
  · rw [Compiler.startedAt_begun]
    by_cases same : other = spot
    · exact .inl (.inr (same ▸ at_))
    · exact (covers other mem).imp .inl fun mem => (List.mem_erase_of_ne same).2 mem

end Lacks

/-- A moment of a compilation, in a document, at which all targets but `n` were begun. -/
structure Deepens (K : EntryId → Compiler → Prop) (s : Store) (root id : EntryId) (n : Nat)
    (c : Compilation) : Prop where
  continues : Continues K s.Spares c
  active : c.Active id
  inDocument : ∃ pointer, c.store.spot? id = some (root, pointer)
  lacks : Lacks s n c

namespace Deepens

variable {root id : EntryId} {n : Nat}

theorem looks (h : Deepens K s root id n c) (continues : Continues K s.Spares d) (looks : Looks c d) :
    Deepens K s root id n d :=
  ⟨continues, looks.active h.active, h.inDocument.imp fun _ at_ => looks.evolves.spot? at_,
    h.lacks.evolves looks.evolves⟩

theorem leads (h : Deepens K s root id n c) (continues : Continues K s.Spares d) (leads : Leads c d) :
    Deepens K s root id n d :=
  ⟨continues, h.active.leads leads, h.inDocument.imp fun _ at_ => leads.evolves.spot? at_,
    h.lacks.evolves leads.evolves⟩

/-- What a reference denotes is a target. -/
theorem mem_targets (h : Deepens K s root id n c) {value : Value} {base reference : String}
    {applyId : Bool} {target : EntryId} {spot : Spot} {m : Nat} (linked : s.Linked)
    (leads : ∀ reference ∈ value.asks m base applyId, ∀ spot, s.spotOf root reference = some spot →
      spot ∈ s.targets)
    (asked : reference ∈ value.asks m base applyId) (denotes : c.store.Denotes id reference target)
    (at_ : c.store.spot? target = some spot) : spot ∈ s.targets := by
  obtain ⟨pointer, own⟩ := h.inDocument
  obtain ⟨e, found, same⟩ := Option.map_eq_some_iff.1 own
  obtain ⟨rfl, -⟩ := Prod.mk.inj same
  obtain ⟨d', foundD', doc, -⟩ := h.continues.linked.root_entry found
  obtain ⟨d, foundD, reset⟩ := h.continues.spares.shares.symm.document foundD' doc
  have whole : d.pointer = "" := ((congrArg Entry.pointer reset :) : d.pointer = d'.pointer).trans doc
  refine leads reference asked spot ?_
  rw [← h.continues.spares.shares.spotOf_eq linked h.continues.linked foundD whole,
    ← h.continues.linked.spotOf_denotes found denotes, at_]

end Deepens

end Compilation

open Compilation (Deepens Lacks)

namespace Compiler

variable (settled : s.Settled K)

include settled

/-- An entry at a target, or one that has begun, is compiled with the depth that its document and
    the targets that are left may need. -/
theorem entry_shallow (fuel : Nat) (id : EntryId) (underMeta : Bool) (continues : Continues K s.Spares c)
    (schemas : ∀ m root value place, m * (s.weight + 1) + value.weight ≤ fuel → place.entry = id →
      s.Within root value place.base place.applyId →
      (compiler.schema fuel value place).Keeps (Deepens K s root id m) fun e => ¬ e.IsDeep)
    (left : ∀ e, c.store.entry? id = some e → e.progress.isStarted = false →
      ∃ m, m * (s.weight + 1) + s.weight ≤ fuel ∧ Lacks s m (begun c id)) :
    (entry (compiler.schema fuel) id underMeta).Leaves c (fun _ => True) fun e => ¬ e.IsDeep := by
  unfold CompileM.Leaves
  cases found : c.store.entry? id with
  | none =>
    rw [entry_of_missing found]
    rintro ⟨_, ⟨⟩⟩
  | some e =>
    cases idle : e.progress.isStarted with
    | true =>
      rw [entry_of_started found idle]
      trivial
    | false =>
      obtain ⟨m, enough, lacks⟩ := left e found idle
      obtain ⟨begins, active⟩ := continues.begun found idle
      obtain ⟨within, lighter⟩ :=
        continues.spares.shares.within settled.linked continues.linked found
      have at_ : (begun c id).store.spot? id = some (e.root, e.pointer) :=
        (begun_evolves c id).spot? (Store.spot?_eq found)
      have kept := schemas m e.root e.document (e.place id underMeta)
        (Nat.le_trans (Nat.add_le_add_left lighter _) enough) rfl within _
        ⟨begins, active, ⟨_, at_⟩, lacks⟩
      rw [entry_of_idle found idle]
      unfold CompileM.Leaves at kept
      cases run : compiler.schema fuel e.document (e.place id underMeta) (begun c id) with
      | error error d =>
        rw [run] at kept
        exact kept
      | ok node d => trivial

variable (k : ∀ id, K id compiler) (builtin : compiler.vocabulary.IsBuiltin)

include k builtin

/-- A schema is compiled with the depth that it and the targets that are left may need. -/
theorem schema_shallow (fuel : Nat) (n : Nat) (root : EntryId) (value : Value) (place : Place)
    (enough : n * (s.weight + 1) + value.weight ≤ fuel)
    (within : s.Within root value place.base place.applyId) :
    (compiler.schema fuel value place).Keeps (Deepens K s root place.entry n) fun e => ¬ e.IsDeep := by
  induction fuel generalizing n root value place with
  | zero =>
    have heavy := value.weight_pos
    omega
  | succ fuel ih =>
    obtain ⟨depth, down, leads⟩ := within
    refine schema_keeps (fun _ shallow => shallow) builtin ?_ ?_
    · rintro members part place' rfl among under
      have lighter := Value.weight_lt_of_part among
      obtain ⟨depth, rfl⟩ : ∃ m, depth = m + 1 :=
        ⟨depth - 1, (Nat.sub_add_cancel (Nat.le_trans (Value.weight_pos _) down)).symm⟩
      have kept := ih n root part place' (by omega) ⟨depth, by omega, fun reference mem =>
        leads reference (Value.mem_asks_part among (by rw [under.base, under.applyId] at mem; exact mem))⟩
      rwa [under.entry] at kept
    · rintro members text rfl own
      obtain ⟨depth, rfl⟩ : ∃ m, depth = m + 1 :=
        ⟨depth - 1, (Nat.sub_add_cancel (Nat.le_trans (Value.weight_pos _) down)).symm⟩
      refine reference_keeps (fun _ shallow => shallow) (fun c p => ⟨p.continues, p.active⟩)
        (fun c d p continues looks => p.looks continues looks) ?_
      rintro c target text' rfl p denotes
      have shallow := entry_shallow settled fuel target (place.inner members).underMeta p.continues
        (fun m root value place enough own within => own ▸ ih m root value place enough within)
        fun e found idle => ?_
      · unfold CompileM.Leaves at shallow ⊢
        cases run : entry (compiler.schema fuel) target (place.inner members).underMeta c with
        | error e d =>
          rw [run] at shallow
          exact shallow
        | ok u d =>
          obtain ⟨continues, leads, -⟩ := p.continues.entry k run
          exact p.leads continues leads
      · have at_ := Store.spot?_eq found
        have mem := p.mem_targets settled.linked leads (Value.mem_asks_own own) denotes at_
        obtain ⟨m, rfl, lacks⟩ := p.lacks.begun mem at_ fun started => by
          obtain ⟨f, foundF, begun⟩ := p.continues.linked.isStarted_of_startedAt started at_
          cases found.symm.trans foundF
          rw [idle] at begun
          cases begun
        have heavy := (Value.object members).weight_pos
        refine ⟨m, ?_, lacks⟩
        rw [Nat.add_mul] at enough
        omega

/-- No compilation is too deep. -/
theorem compile_shallow (id : EntryId) (e : SchemaError) (fails : (compiler.compile id s).1 = .error e) :
    ¬ e.IsDeep := by
  have shallow := entry_shallow settled (depthOf s) id false (.start settled (.refl s))
    (fun m root value place enough own within => own ▸
      schema_shallow settled k builtin (depthOf s) m root value place enough within)
    fun _ _ _ => ⟨s.targets.length, Nat.le_of_lt s.depthOf_enough,
      (Lacks.all s { store := s }).evolves (begun_evolves _ id)⟩
  unfold CompileM.Leaves at shallow
  simp only [compile, EStateM.run] at fails
  cases run : entry (compiler.schema (depthOf s)) id false { store := s } with
  | error e' d =>
    rw [run] at shallow fails
    cases fails
    exact shallow
  | ok u d =>
    rw [run] at fails
    cases fails

end Compiler

end JsonSchema
