import JsonSchema.Proofs.Compilation.Keywords
import JsonSchema.Proofs.Meaning.Draft07

/-!
# The meaning of compiled assertions

A compiled assertion holds of data exactly if the data is as the value of the keyword demands.

* `forall₂_of_mapM_ok`, `forall₂_of_mapM_some`: what is made of the items of a list.
* `Value.duplicates?_eq_none_iff`: a list without equivalent items.
* `AssertionKind.meaning_eq`: a compiled assertion.
-/

namespace JsonSchema

open Occurrence (expect_eq_ok)

/-! ## Lists of values -/

theorem forall₂_of_mapM_ok {ε α β : Type} {f : α → Except ε β} {as : List α} {bs : List β}
    (h : as.mapM f = .ok bs) : List.Forall₂ (fun a b => f a = .ok b) as bs := by
  induction as generalizing bs with
  | nil =>
    cases h
    exact .nil
  | cons a rest ih =>
    rw [List.mapM_cons] at h
    cases ha : f a with
    | error e =>
      rw [ha] at h
      cases h
    | ok b =>
      cases hr : rest.mapM f with
      | error e =>
        rw [ha, hr] at h
        cases h
      | ok bs =>
        rw [ha, hr] at h
        cases h
        exact .cons ha (ih hr)

theorem forall₂_of_mapM_some {α β : Type} {f : α → Option β} {as : List α} {bs : List β}
    (h : as.mapM f = some bs) : List.Forall₂ (fun a b => f a = some b) as bs := by
  induction as generalizing bs with
  | nil =>
    cases h
    exact .nil
  | cons a rest ih =>
    rw [List.mapM_cons] at h
    obtain ⟨b, ha, h⟩ := Option.bind_eq_some_iff.1 h
    obtain ⟨bs, hr, h⟩ := Option.bind_eq_some_iff.1 h
    cases h
    exact .cons ha (ih hr)

/-- Names that are given as strings. -/
theorem all_asString?_eq {values : List Value} {names : List String}
    (h : values.mapM Value.asString? = some names) (p : String → Bool) :
    values.all (·.asString?.any p) = names.all p :=
  Demand.all_eq_of_forall₂ (forall₂_of_mapM_some h) fun v name _ h => by rw [h]; rfl

theorem Value.duplicates?_eq_none_iff {list : List Value} :
    duplicates? list = none ↔ list.Pairwise fun a b => a.equiv b = false := by
  induction list with
  | nil => exact ⟨fun _ => .nil, fun _ => rfl⟩
  | cons last earlier ih =>
    rw [duplicates?, List.pairwise_cons, ← ih]
    cases found : earlier.findIdx? fun item => last.equiv item with
    | none =>
      rw [List.findIdx?_eq_none_iff] at found
      exact (and_iff_right found).symm
    | some back =>
      refine ⟨fun h => (nomatch h), fun h => ?_⟩
      rw [List.findIdx?_eq_none_iff.2 h.1] at found
      cases found

/-! ## Kinds -/

theorem kindNamed_eq {name : String} {kind : Kind} (h : AssertionKind.kindNamed name = .ok kind) :
    Kind.ofName? name = some kind := by
  unfold AssertionKind.kindNamed at h
  cases found : Kind.ofName? name <;> rw [found] at h <;> cases h
  rfl

theorem any_isOf_eq {names : List String} {ks : List Kind}
    (h : names.mapM AssertionKind.kindNamed = .ok ks) (data : Value) :
    (names.any fun name => data.isOf (.string name)) = ks.any (·.holds data) :=
  Demand.any_eq_of_forall₂ (forall₂_of_mapM_ok h) fun name kind _ h => by
    rw [Value.isOf, Value.asString?, Option.bind_some, kindNamed_eq h, Option.any_some]

/-! ## Assertions -/

namespace Assertion

theorem isEmpty_objectionUnless (holds : Bool) (message : String)
    (params : List (String × Value)) : (objectionUnless holds message params).isEmpty = holds := by
  cases holds <;> rfl

theorem holds_required (names : List String) (members : Members) :
    (required names).holds (.object members) = names.all (Members.contains members) := by
  simp only [holds, objections, List.isEmpty_map]
  rw [Bool.eq_iff_iff, List.isEmpty_iff, List.filter_eq_nil_iff, List.all_eq_true]
  exact forall₂_congr fun name _ => by simp

theorem holds_unique (list : List Value) :
    (unique true).holds (.array list) = decide (list.Pairwise fun a b => b.equiv a = false) := by
  rw [Bool.eq_iff_iff, decide_eq_true_eq, ← List.pairwise_reverse,
    ← Value.duplicates?_eq_none_iff]
  simp only [holds, objections]
  cases Value.duplicates? list.reverse <;> simp

end Assertion

theorem bind_eq_ok {ε α β : Type} {x : Except ε α} {f : α → Except ε β} {b : β}
    (h : (x >>= f) = .ok b) : ∃ a, x = .ok a ∧ f a = .ok b := by
  cases x with
  | error e => cases h
  | ok a => exact ⟨a, rfl, h⟩

theorem bind_expect_eq_ok {α β : Type} {shape : Shape} {a? : Option α} {f : α → Except Fault β}
    {b : β} (h : (shape.expect a? >>= f) = .ok b) : ∃ a, a? = some a ∧ f a = .ok b := by
  obtain ⟨a, ha, h⟩ := bind_eq_ok h
  exact ⟨a, expect_eq_ok ha, h⟩

theorem meaning_kinds_eq {value : Value} {names : List String}
    (h : AssertionKind.kindNames value = .ok names) (data : Value) :
    AssertionKind.meaning .kinds value data = names.any fun name => data.isOf (.string name) := by
  cases value with
  | string name =>
    cases h
    exact (Bool.or_false _).symm
  | array values =>
    rw [AssertionKind.kindNames] at h
    split at h
    · next found =>
      cases h
      refine Demand.any_eq_of_forall₂ (forall₂_of_mapM_some found) fun v name _ h => ?_
      rw [Value.isOf, Value.isOf, h, Value.asString?]
    · cases h
  | _ => cases h

/-- A compiled assertion holds of what the value of the keyword demands. -/
theorem AssertionKind.meaning_eq {kind : AssertionKind} {value : Value} {assertion : Assertion}
    (compiled : kind.compile value = .ok assertion) (data : Value) :
    kind.meaning value data = assertion.holds data := by
  cases kind with
  | kinds =>
    obtain ⟨names, hn, h⟩ := bind_eq_ok compiled
    obtain ⟨ks, hk, h⟩ := bind_eq_ok h
    cases h
    rw [meaning_kinds_eq hn, any_isOf_eq hk]
    exact (Assertion.isEmpty_objectionUnless _ _ _).symm
  | among =>
    obtain ⟨values, hv, h⟩ := bind_expect_eq_ok compiled
    cases h
    rw [meaning, Value.itemList, hv]
    exact (Assertion.isEmpty_objectionUnless _ _ _).symm
  | equal =>
    cases compiled
    exact (Assertion.isEmpty_objectionUnless _ _ _).symm
  | bound b =>
    obtain ⟨limit, hv, h⟩ := bind_expect_eq_ok compiled
    cases h
    cases data with
    | number n =>
      rw [meaning, hv]
      exact (Assertion.isEmpty_objectionUnless _ _ _).symm
    | _ => rfl
  | multiple =>
    obtain ⟨divisor, hv, h⟩ := bind_expect_eq_ok compiled
    have h : assertion = .multiple divisor := by
      split at h
      · cases h
      · cases h
        rfl
    rw [h]
    cases data with
    | number n =>
      rw [meaning, hv]
      exact (Assertion.isEmpty_objectionUnless _ _ _).symm
    | _ => rfl
  | least measure =>
    obtain ⟨limit, hv, h⟩ := bind_expect_eq_ok compiled
    cases h
    simp only [meaning, hv, Assertion.holds, Assertion.objections, Option.any_some]
    cases measure.of? data with
    | none => rfl
    | some n => exact (Assertion.isEmpty_objectionUnless _ _ _).symm
  | most measure =>
    obtain ⟨limit, hv, h⟩ := bind_expect_eq_ok compiled
    cases h
    simp only [meaning, hv, Assertion.holds, Assertion.objections, Option.any_some]
    cases measure.of? data with
    | none => rfl
    | some n => exact (Assertion.isEmpty_objectionUnless _ _ _).symm
  | pattern =>
    obtain ⟨text, hv, h⟩ := bind_expect_eq_ok compiled
    cases hp : Pattern.parse text with
    | error e =>
      rw [Pattern.ofValue, hp] at h
      cases h
    | ok p =>
      rw [Pattern.ofValue, hp] at h
      cases h
      cases data with
      | string s =>
        rw [meaning, hv, Option.any_some, Pattern.matchesName, hp]
        exact (Assertion.isEmpty_objectionUnless _ _ _).symm
      | _ => rfl
  | unique =>
    obtain ⟨wanted, hv, h⟩ := bind_expect_eq_ok compiled
    cases h
    cases wanted with
    | false => cases data <;> simp [meaning, hv, Assertion.holds, Assertion.objections]
    | true =>
      cases data with
      | array list =>
        rw [meaning, hv, Assertion.holds_unique]
        rfl
      | _ => rfl
  | required =>
    obtain ⟨names, hv, h⟩ := bind_expect_eq_ok compiled
    cases h
    cases data with
    | object members =>
      obtain ⟨values, hv, hn⟩ := Option.bind_eq_some_iff.1 hv
      rw [meaning, Value.itemList, hv, Option.getD_some, all_asString?_eq hn]
      exact (Assertion.holds_required names members).symm
    | _ => rfl

end JsonSchema
