import JsonSchema.Store.Bindings

/-!
# Laws of bindings

What is found after a key was bound, and after bindings to some values were taken out.

* `Bindings.Keyed`: each key is bound once.
* `Bindings.find?_bind`: binding a key changes what is found under it and nothing else.
* `Bindings.find?_filter`: taking out values takes out nothing else, if each key is bound
  once.
* `Bindings.find?_unbind`: taking out a key takes out nothing else.
-/

namespace JsonSchema.Bindings

variable {α β : Type}

/-- Each key is bound once. -/
def Keyed (bindings : Bindings α β) : Prop := (bindings.map (·.1)).Nodup

theorem keyed_nil : Keyed ([] : Bindings α β) := List.nodup_nil

theorem keyed_cons {key : α} {value : β} {rest : Bindings α β} :
    Keyed ((key, value) :: rest) ↔ (∀ b ∈ rest, b.1 ≠ key) ∧ Keyed rest := by
  simp only [Keyed, List.map_cons, List.nodup_cons, List.mem_map, not_exists, not_and, ne_eq]

theorem Keyed.filter {bindings : Bindings α β} (keyed : Keyed bindings) (p : α × β → Bool) :
    Keyed (bindings.filter p) :=
  List.Nodup.sublist (List.filter_sublist.map _) keyed

variable [DecidableEq α]

/-! ## Finding -/

theorem find?_cons (key : α) (value : β) (rest : Bindings α β) (k : α) :
    find? ((key, value) :: rest) k = if key = k then some value else find? rest k := rfl

theorem mem_of_find? {bindings : Bindings α β} {key : α} {value : β}
    (h : bindings.find? key = some value) : (key, value) ∈ bindings := by
  induction bindings with
  | nil => simp [find?] at h
  | cons b rest ih =>
    obtain ⟨k, v⟩ := b
    rw [find?_cons] at h
    by_cases e : k = key
    · rw [if_pos e] at h
      cases e
      cases h
      exact List.mem_cons_self
    · rw [if_neg e] at h
      exact List.mem_cons_of_mem _ (ih h)

theorem find?_eq_none_iff {bindings : Bindings α β} {key : α} :
    bindings.find? key = none ↔ ∀ b ∈ bindings, b.1 ≠ key := by
  induction bindings with
  | nil => simp [find?]
  | cons b rest ih =>
    obtain ⟨k, v⟩ := b
    rw [find?_cons]
    by_cases e : k = key
    · simp [e]
    · simp [e, ih]

theorem find?_of_mem {bindings : Bindings α β} (keyed : Keyed bindings) {key : α} {value : β}
    (h : (key, value) ∈ bindings) : bindings.find? key = some value := by
  induction bindings with
  | nil => simp at h
  | cons b rest ih =>
    obtain ⟨k, v⟩ := b
    obtain ⟨fresh, keyed⟩ := keyed_cons.1 keyed
    rw [find?_cons]
    rcases List.mem_cons.1 h with e | h
    · cases e
      exact if_pos rfl
    · rw [if_neg fun e => fresh _ h e.symm]
      exact ih keyed h

theorem find?_append (a b : Bindings α β) (key : α) :
    find? (a ++ b) key = (find? a key).or (find? b key) := by
  induction a with
  | nil => rfl
  | cons p rest ih =>
    obtain ⟨k, v⟩ := p
    rw [List.cons_append, find?_cons, find?_cons, ih]
    by_cases e : k = key
    · simp [e]
    · simp [e]

theorem binds_eq_false_iff {bindings : Bindings α β} {key : α} :
    bindings.binds key = false ↔ bindings.find? key = none := by
  rw [binds, Option.isSome_eq_false_iff, Option.isNone_iff_eq_none]

/-! ## Binding -/

theorem find?_bind (bindings : Bindings α β) (key : α) (value : β) (k : α) :
    (bindings.bind key value).find? k = if key = k then some value else bindings.find? k := by
  induction bindings with
  | nil => rfl
  | cons b rest ih =>
    obtain ⟨j, v⟩ := b
    by_cases e : j = key
    · rw [bind, if_pos e, find?_cons, find?_cons, e]
      by_cases h : key = k
      · rw [if_pos h, if_pos h]
      · rw [if_neg h, if_neg h, if_neg h]
    · rw [bind, if_neg e, find?_cons, find?_cons, ih]
      by_cases h : j = k
      · rw [if_pos h, if_pos h, if_neg fun e' => e (h.trans e'.symm)]
      · rw [if_neg h, if_neg h]

theorem bind_eq_append {bindings : Bindings α β} {key : α} (value : β)
    (h : bindings.find? key = none) : bindings.bind key value = bindings ++ [(key, value)] := by
  induction bindings with
  | nil => rfl
  | cons b rest ih =>
    obtain ⟨k, v⟩ := b
    have fresh : k ≠ key := find?_eq_none_iff.1 h (k, v) List.mem_cons_self
    rw [find?_cons, if_neg fresh] at h
    rw [bind, if_neg fresh, ih h, List.cons_append]

theorem mem_bind {bindings : Bindings α β} {key : α} {value : β} {b : α × β}
    (h : b ∈ bindings.bind key value) : b = (key, value) ∨ b ∈ bindings := by
  induction bindings with
  | nil => exact .inl (by simpa [bind] using h)
  | cons p rest ih =>
    obtain ⟨k, v⟩ := p
    rw [bind] at h
    split at h
    · next e =>
      rcases List.mem_cons.1 h with rfl | h
      · exact .inl (by rw [e])
      · exact .inr (List.mem_cons_of_mem _ h)
    · rcases List.mem_cons.1 h with rfl | h
      · exact .inr List.mem_cons_self
      · exact (ih h).imp id (List.mem_cons_of_mem _)

theorem Keyed.bind {bindings : Bindings α β} (keyed : Keyed bindings) (key : α) (value : β) :
    Keyed (bindings.bind key value) := by
  induction bindings with
  | nil => exact keyed_cons.2 ⟨by simp, keyed_nil⟩
  | cons b rest ih =>
    obtain ⟨k, v⟩ := b
    obtain ⟨fresh, keyed⟩ := keyed_cons.1 keyed
    rw [Bindings.bind]
    split
    · exact keyed_cons.2 ⟨fresh, keyed⟩
    · next e =>
      refine keyed_cons.2 ⟨fun p hp => ?_, ih keyed⟩
      rcases mem_bind hp with rfl | hp
      · exact Ne.symm e
      · exact fresh p hp

/-! ## Taking out -/

theorem find?_filter {bindings : Bindings α β} (keyed : Keyed bindings) (p : α × β → Bool)
    (key : α) :
    find? (bindings.filter p) key = (bindings.find? key).filter fun value => p (key, value) := by
  cases h : bindings.find? key with
  | none =>
    rw [find?_eq_none_iff] at h
    exact find?_eq_none_iff.2 fun b hb => h b (List.mem_filter.1 hb).1
  | some value =>
    have mem := mem_of_find? h
    by_cases hp : p (key, value) = true
    · rw [find?_of_mem (keyed.filter p) (List.mem_filter.2 ⟨mem, hp⟩), Option.filter_some, if_pos hp]
    · have none : ∀ b ∈ bindings.filter p, b.1 ≠ key := by
        intro b hb e
        obtain ⟨hb, hpb⟩ := List.mem_filter.1 hb
        have found : bindings.find? b.1 = some b.2 := find?_of_mem keyed hb
        rw [e, h] at found
        cases found
        exact hp (by rw [← e]; exact hpb)
      rw [find?_eq_none_iff.2 none, Option.filter_some, if_neg hp]

theorem find?_unbind (bindings : Bindings α β) (key k : α) :
    (bindings.unbind key).find? k = if key = k then none else bindings.find? k := by
  induction bindings with
  | nil => simp [unbind, find?]
  | cons b rest ih =>
    obtain ⟨j, v⟩ := b
    rw [unbind] at ih ⊢
    by_cases e : j = key
    · rw [List.filter_cons_of_neg (by simp [e]), ih, find?_cons, e]
      by_cases h : key = k
      · rw [if_pos h, if_pos h]
      · rw [if_neg h, if_neg h, if_neg h]
    · rw [List.filter_cons_of_pos (by simp [e]), find?_cons, ih, find?_cons]
      by_cases h : j = k
      · rw [if_pos h, if_pos h, if_neg fun e' => e (h.trans e'.symm)]
      · rw [if_neg h, if_neg h]

end JsonSchema.Bindings
