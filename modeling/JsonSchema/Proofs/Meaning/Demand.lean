import JsonSchema.Json.Value
import Mathlib.Data.List.Forall2

/-!
# Demands

What a keyword says about data is put together from the verdicts on parts: on the data itself
or on a part of it, under another schema. A demand says how.

* `Part`: a schema with the data it is applied to, and how it is reached.
* `Demand`, `Demand.met`: how verdicts on parts are put together.
* `Demand.uses`: the parts that count; of two branches only the one that is taken does.
* `Demand.met_congr`: a demand depends on nothing else.
* `Demand.Related.met_eq`, `Demand.Reads.met_eq`: demands on related parts are met together.
-/

namespace JsonSchema

/-! ## Parts -/

/-- How a part is reached. -/
inductive Way where
  /-- At the same place of the data. -/
  | here
  /-- At a place inside the data. -/
  | below
  /-- At the same place, through a reference. -/
  | follow
deriving DecidableEq

/-- The references that were followed at a place, after one more step. -/
def Way.hops (hops : Nat) : Way → Nat
  | here => hops
  | below => 0
  | follow => hops + 1

/-- A schema that is applied to data. -/
structure Part (α : Type) where
  way : Way
  schema : α
  data : Value

namespace Part

variable {α β : Type}

/-- A schema at the same place. -/
def here (schema : α) (data : Value) : Part α := ⟨.here, schema, data⟩

/-- A schema at a place inside the data. -/
def below (schema : α) (data : Value) : Part α := ⟨.below, schema, data⟩

/-- A schema at the same place, through a reference. -/
def follow (schema : α) (data : Value) : Part α := ⟨.follow, schema, data⟩

/-- The same part with what is made of its schema. -/
def map (f : α → β) (p : Part α) : Part β := ⟨p.way, f p.schema, p.data⟩

/-- A part is the data itself under another schema, or is smaller. -/
def IsNear (data : Value) (p : Part α) : Prop :=
  p.way = .here ∧ p.data = data ∨ p.data.weight < data.weight

theorem isNear_here (schema : α) (data : Value) : (here schema data).IsNear data :=
  .inl ⟨rfl, rfl⟩

theorem isNear_of_mem_heres {p : Part α} {data : Value} {schemas : List α}
    (of : p ∈ schemas.map (here · data)) : p.IsNear data := by
  obtain ⟨schema, -, rfl⟩ := List.mem_map.1 of
  exact isNear_here schema data

theorem isNear_of_mem_items {p : Part α} {schema : α} {items list : List Value}
    (sub : ∀ item ∈ list, item ∈ items) (of : p ∈ list.map (below schema)) :
    p.IsNear (.array items) := by
  obtain ⟨item, mem, rfl⟩ := List.mem_map.1 of
  exact .inr (Value.weight_lt_of_mem_items (sub item mem))

end Part

/-! ## Demands -/

/-- What is demanded of the verdicts on parts. -/
inductive Demand (α : Type) where
  /-- Nothing; the verdict is known. -/
  | settled (verdict : Bool)
  | all (parts : List α)
  | any (parts : List α)
  /-- Of one part and no other. -/
  | one (parts : List α)
  | refusal (part : α)
  /-- Of the second part if the first one holds, and of the third one if not. -/
  | branch (condition : α) (yes no : Option α)

section List

variable {α : Type} {p q : α → Bool}

theorem all_eq_of_mem {list : List α} (same : ∀ a ∈ list, p a = q a) : list.all p = list.all q := by
  rw [Bool.eq_iff_iff, List.all_eq_true, List.all_eq_true]
  exact forall₂_congr fun a mem => by rw [same a mem]

theorem any_eq_of_mem {list : List α} (same : ∀ a ∈ list, p a = q a) : list.any p = list.any q := by
  rw [Bool.eq_iff_iff, List.any_eq_true, List.any_eq_true]
  exact exists_congr fun a => and_congr_right fun mem => by rw [same a mem]

theorem all_attach (list : List α) : (list.attach.all fun a => p a.1) = list.all p := by
  rw [show (fun a : { a // a ∈ list } => p a.1) = p ∘ Subtype.val from rfl, ← List.all_map,
    List.attach_map_subtype_val]

theorem any_attach (list : List α) : (list.attach.any fun a => p a.1) = list.any p := by
  rw [show (fun a : { a // a ∈ list } => p a.1) = p ∘ Subtype.val from rfl, ← List.any_map,
    List.attach_map_subtype_val]

end List

namespace Demand

variable {α β : Type}

/-- Whether a demand is met, from the verdicts on the parts that have to hold themselves, and
    on those that are only tried. -/
def met (kept tried : α → Bool) : Demand α → Bool
  | settled verdict => verdict
  | all parts => parts.all kept
  | any parts => parts.any tried
  | one parts => parts.countP tried == 1
  | refusal part => !tried part
  | branch condition yes no => if tried condition then yes.all kept else no.all kept

/-- All parts. -/
def parts : Demand α → List α
  | settled _ => []
  | all parts | any parts | one parts => parts
  | refusal part => [part]
  | branch condition yes no => condition :: (yes.toList ++ no.toList)

/-- The parts that count. -/
def uses (tried : α → Bool) : Demand α → List α
  | settled _ => []
  | all parts | any parts | one parts => parts
  | refusal part => [part]
  | branch condition yes no =>
    condition :: (if tried condition then yes.toList else no.toList)

theorem uses_subset (tried : α → Bool) (d : Demand α) : ∀ a ∈ d.uses tried, a ∈ d.parts := by
  intro a mem
  cases d with
  | branch condition yes no =>
    rcases List.mem_cons.1 mem with rfl | mem
    · exact List.mem_cons_self
    · refine List.mem_cons_of_mem _ (List.mem_append.2 ?_)
      split at mem
      · exact .inl mem
      · exact .inr mem
  | _ => exact mem

theorem option_all_eq {a? : Option α} {p : α → Bool} : a?.all p = a?.toList.all p := by
  cases a? <;> simp

/-- Whether a demand is met depends on the parts that count, and these on the tried ones. -/
theorem met_congr {kept kept' tried tried' : α → Bool} {d : Demand α}
    (same : ∀ a ∈ d.uses tried, kept a = kept' a ∧ tried a = tried' a) :
    d.met kept tried = d.met kept' tried' ∧ d.uses tried = d.uses tried' := by
  cases d with
  | settled verdict => exact ⟨rfl, rfl⟩
  | all parts => exact ⟨all_eq_of_mem fun a mem => (same a mem).1, rfl⟩
  | any parts => exact ⟨any_eq_of_mem fun a mem => (same a mem).2, rfl⟩
  | one parts =>
    refine ⟨?_, rfl⟩
    simp only [met]
    rw [List.countP_congr fun a mem => by rw [(same a mem).2]]
  | refusal part =>
    refine ⟨?_, rfl⟩
    simp only [met]
    rw [(same part List.mem_cons_self).2]
  | branch condition yes no =>
    have test := (same condition List.mem_cons_self).2
    simp only [uses, met] at same ⊢
    rw [← test, option_all_eq, option_all_eq, option_all_eq, option_all_eq]
    split
    · next holds =>
      rw [if_pos holds] at same
      exact ⟨all_eq_of_mem fun a mem => (same a (List.mem_cons_of_mem _ mem)).1, rfl⟩
    · next fails =>
      rw [if_neg fails] at same
      exact ⟨all_eq_of_mem fun a mem => (same a (List.mem_cons_of_mem _ mem)).1, rfl⟩

/-- Verdicts that agree on the parts that count for both make the same parts count. -/
theorem uses_eq {verdict verdict' : α → Bool} {d : Demand α}
    (same : ∀ a ∈ d.uses verdict, a ∈ d.uses verdict' → verdict a = verdict' a) :
    d.uses verdict = d.uses verdict' := by
  cases d with
  | branch condition yes no =>
    have test := same condition List.mem_cons_self List.mem_cons_self
    simp only [uses, test]
  | _ => rfl

/-! ## Memberships -/

/-- A demand on parts that are known to be its parts. -/
def attach : (d : Demand α) → Demand { a // a ∈ d.parts }
  | settled verdict => settled verdict
  | all parts => all parts.attach
  | any parts => any parts.attach
  | one parts => one parts.attach
  | refusal part => refusal ⟨part, List.mem_cons_self⟩
  | branch condition yes no =>
    branch ⟨condition, List.mem_cons_self⟩
      (yes.attach.map fun a => ⟨a.1, List.mem_cons_of_mem _
        (List.mem_append_left _ (Option.mem_toList.2 a.2))⟩)
      (no.attach.map fun a => ⟨a.1, List.mem_cons_of_mem _
        (List.mem_append_right _ (Option.mem_toList.2 a.2))⟩)

theorem met_attach (kept tried : α → Bool) (d : Demand α) :
    d.attach.met (fun a => kept a.1) (fun a => tried a.1) = d.met kept tried := by
  cases d with
  | settled | refusal => rfl
  | all as => exact all_attach as
  | any as => exact any_attach as
  | one as => exact congrArg (· == 1) List.countP_attach
  | branch condition yes no => cases yes <;> cases no <;> rfl

/-! ## Related demands -/

/-- Two demands of the same kind, on parts that are related one by one. -/
inductive Related (R : α → β → Prop) : Demand α → Demand β → Prop
  | settled (verdict : Bool) : Related R (settled verdict) (settled verdict)
  | all {as : List α} {bs : List β} (h : List.Forall₂ R as bs) : Related R (all as) (all bs)
  | any {as : List α} {bs : List β} (h : List.Forall₂ R as bs) : Related R (any as) (any bs)
  | one {as : List α} {bs : List β} (h : List.Forall₂ R as bs) : Related R (one as) (one bs)
  | refusal {a : α} {b : β} (h : R a b) : Related R (refusal a) (refusal b)
  | branch {a : α} {b : β} {yes no : Option α} {yes' no' : Option β} (h : R a b)
      (hy : Option.Rel R yes yes') (hn : Option.Rel R no no') :
      Related R (branch a yes no) (branch b yes' no')

section Related

variable {R : α → β → Prop} {p : α → Bool} {q : β → Bool} {as : List α} {bs : List β}

theorem all_eq_of_forall₂ (list : List.Forall₂ R as bs)
    (same : ∀ a b, a ∈ as → R a b → p a = q b) : as.all p = bs.all q := by
  induction list with
  | nil => rfl
  | cons h _ ih =>
    rw [List.all_cons, List.all_cons, same _ _ List.mem_cons_self h,
      ih fun a b mem => same a b (List.mem_cons_of_mem _ mem)]

theorem any_eq_of_forall₂ (list : List.Forall₂ R as bs)
    (same : ∀ a b, a ∈ as → R a b → p a = q b) : as.any p = bs.any q := by
  induction list with
  | nil => rfl
  | cons h _ ih =>
    rw [List.any_cons, List.any_cons, same _ _ List.mem_cons_self h,
      ih fun a b mem => same a b (List.mem_cons_of_mem _ mem)]

theorem countP_eq_of_forall₂ (list : List.Forall₂ R as bs)
    (same : ∀ a b, a ∈ as → R a b → p a = q b) : as.countP p = bs.countP q := by
  induction list with
  | nil => rfl
  | cons h _ ih =>
    rw [List.countP_cons, List.countP_cons, same _ _ List.mem_cons_self h,
      ih fun a b mem => same a b (List.mem_cons_of_mem _ mem)]

theorem option_all_eq_of_rel {a? : Option α} {b? : Option β} (h : Option.Rel R a? b?)
    (same : ∀ a b, a ∈ a?.toList → R a b → p a = q b) : a?.all p = b?.all q := by
  cases h with
  | none => rfl
  | some h => exact same _ _ (List.mem_singleton.2 rfl) h

/-- Demands on related parts are met together if the verdicts on related parts that count
    agree. -/
theorem Related.met_eq {kept tried : α → Bool} {kept' tried' : β → Bool} {d : Demand α}
    {d' : Demand β} (h : Related R d d')
    (same : ∀ a b, a ∈ d.uses tried → R a b → kept a = kept' b ∧ tried a = tried' b) :
    d.met kept tried = d'.met kept' tried' := by
  cases h with
  | settled verdict => rfl
  | all list => exact all_eq_of_forall₂ list fun a b mem h => (same a b mem h).1
  | any list => exact any_eq_of_forall₂ list fun a b mem h => (same a b mem h).2
  | one list =>
    exact congrArg (· == 1) (countP_eq_of_forall₂ list fun a b mem h => (same a b mem h).2)
  | refusal h => exact congrArg (!·) (same _ _ List.mem_cons_self h).2
  | branch h hy hn =>
    have test := (same _ _ List.mem_cons_self h).2
    simp only [uses, met] at same ⊢
    rw [← test]
    split
    · next holds =>
      rw [if_pos holds] at same
      exact option_all_eq_of_rel hy fun a b mem h => (same a b (List.mem_cons_of_mem _ mem) h).1
    · next fails =>
      rw [if_neg fails] at same
      exact option_all_eq_of_rel hn fun a b mem h => (same a b (List.mem_cons_of_mem _ mem) h).1

end Related

/-! ## The same demands on other parts -/

/-- The same demand on what is made of the parts. -/
def map (f : α → β) : Demand α → Demand β
  | settled verdict => settled verdict
  | all parts => all (parts.map f)
  | any parts => any (parts.map f)
  | one parts => one (parts.map f)
  | refusal part => refusal (f part)
  | branch condition yes no => branch (f condition) (yes.map f) (no.map f)

theorem met_map (f : α → β) (kept tried : β → Bool) (d : Demand α) :
    (d.map f).met kept tried = d.met (kept ∘ f) (tried ∘ f) := by
  cases d with
  | settled | refusal => rfl
  | all parts => exact List.all_map
  | any parts => exact List.any_map
  | one parts =>
    simp only [map, met]
    rw [List.countP_map]
  | branch condition yes no => cases yes <;> cases no <;> rfl

theorem uses_map (f : α → β) (tried : β → Bool) (d : Demand α) :
    (d.map f).uses tried = (d.uses (tried ∘ f)).map f := by
  cases d with
  | branch condition yes no =>
    simp only [map, uses, List.map_cons, Function.comp_apply]
    split
    · cases yes <;> rfl
    · cases no <;> rfl
  | _ => rfl

/-- Two lists of demands say the same about parts that are related one by one. Parts on which
    nothing depends may be left out, or stand for demands that are met. -/
inductive Reads (R : α → β → Prop) (idle : β → Prop) : List (Demand α) → List (Demand β) → Prop
  | each {ds : List (Demand α)} {ds' : List (Demand β)} (h : List.Forall₂ (Related R) ds ds') :
      Reads R idle ds ds'
  | filtered {as : List α} {bs : List β} (keep : β → Bool) (h : List.Forall₂ R as bs)
      (rest : ∀ b, keep b = false → idle b) : Reads R idle [all as] [all (bs.filter keep)]
  | idle {ds : List (Demand α)} {b : β} (settled_ : ∀ d ∈ ds, d = settled true) (h : idle b) :
      Reads R idle ds [all [b]]

section Reads

variable {R : α → β → Prop} {idle : β → Prop} {ds : List (Demand α)} {ds' : List (Demand β)}

theorem Reads.nil : Reads R idle [] [] := .each .nil

theorem Reads.single {d : Demand α} {d' : Demand β} (h : Related R d d') :
    Reads R idle [d] [d'] := .each (.cons h .nil)

/-- Such demands are met together if the verdicts on related parts that count agree. -/
theorem Reads.met_eq (h : Reads R idle ds ds') {kept tried : α → Bool} {kept' tried' : β → Bool}
    (same : ∀ d ∈ ds, ∀ a ∈ d.uses tried, ∀ b, R a b → kept a = kept' b ∧ tried a = tried' b)
    (holds : ∀ b, idle b → kept' b = true) :
    ds.all (·.met kept tried) = ds'.all (·.met kept' tried') := by
  cases h with
  | each h =>
    exact all_eq_of_forall₂ h fun d d' mem h => h.met_eq fun a b of hab => same d mem a of b hab
  | @filtered as bs keep h rest =>
    have all_ : as.all kept = bs.all kept' :=
      all_eq_of_forall₂ h fun a b mem hab => (same _ List.mem_cons_self a mem b hab).1
    have filtered_ : (bs.filter keep).all kept' = bs.all kept' := by
      rw [List.all_filter]
      refine all_eq_of_mem fun b _ => ?_
      cases hk : keep b with
      | true => rfl
      | false => rw [holds b (rest b hk)]; rfl
    simp only [List.all_cons, List.all_nil, Bool.and_true, met, filtered_, all_]
  | @idle _ b settled_ h =>
    simp only [List.all_cons, List.all_nil, Bool.and_true, met, holds b h]
    exact List.all_eq_true.2 fun d mem => by rw [settled_ d mem]

end Reads

end Demand

end JsonSchema
