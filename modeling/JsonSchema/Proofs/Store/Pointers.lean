import JsonSchema.Pointer
import JsonSchema.Store.Resolve

/-!
# Pointers and what they lead to

A pointer is written with `~` escapes only, and read with percent-decoding besides, so it reads
back where no segment has a percent sign.

* `Pointer.segments?_ofSegments`: the segments of a pointer that was put together from segments
  without percent signs.
* `Pointer.index?_toString`: the index that the written form of a number denotes.
* `Value.follow?_eq`: what some steps lead to, apart from the base there.
-/

namespace JsonSchema

/-! ## Decoding -/

/-- Percent-decoding changes nothing where there is no percent sign. -/
theorem Percent.decode?_of_not_mem {cs : List Char} (plain : '%' ∉ cs) :
    decode? cs = some cs := by
  unfold decode?
  induction cs with
  | nil => rfl
  | cons c rest ih =>
    have head : c ≠ '%' := fun same => plain (same ▸ List.mem_cons_self)
    have tail : '%' ∉ rest := fun mem => plain (List.mem_cons_of_mem _ mem)
    rw [decodeFrom, ih tail]
    · rfl
    · intro h l rest' same
      exact absurd same head

namespace Text

/-- A part without separators in front of a separator is the first part. -/
theorem splitOn_append_cons {separator : Char} {part : List Char} (clean : separator ∉ part)
    (rest : List Char) :
    splitOn separator (part ++ separator :: rest) = part :: splitOn separator rest := by
  induction part with
  | nil => rw [List.nil_append, splitOn, if_pos rfl]
  | cons c part ih =>
    have head : c ≠ separator := fun same => clean (same ▸ List.mem_cons_self)
    have tail : separator ∉ part := fun mem => clean (List.mem_cons_of_mem _ mem)
    rw [List.cons_append, splitOn, if_neg head, ih tail]

theorem splitOn_of_not_mem {separator : Char} {part : List Char} (clean : separator ∉ part) :
    splitOn separator part = [part] := by
  induction part with
  | nil => rfl
  | cons c part ih =>
    have head : c ≠ separator := fun same => clean (same ▸ List.mem_cons_self)
    have tail : separator ∉ part := fun mem => clean (List.mem_cons_of_mem _ mem)
    rw [splitOn, if_neg head, ih tail]

/-- No separator is in a part. -/
theorem not_mem_of_mem_splitOn {separator : Char} {text part : List Char}
    (mem : part ∈ splitOn separator text) : separator ∉ part := by
  induction text generalizing part with
  | nil =>
    cases List.mem_singleton.1 mem
    exact List.not_mem_nil
  | cons c rest ih =>
    rw [splitOn] at mem
    split at mem
    case isTrue =>
      rcases List.mem_cons.1 mem with rfl | mem
      · exact List.not_mem_nil
      · exact ih mem
    case isFalse other =>
      have head : separator ≠ c := fun same => other same.symm
      split at mem
      · next first parts found =>
        rcases List.mem_cons.1 mem with rfl | mem
        · exact List.not_mem_cons_of_ne_of_not_mem head (ih (found ▸ List.mem_cons_self))
        · exact ih (found ▸ List.mem_cons_of_mem _ mem)
      · cases List.mem_singleton.1 mem
        exact List.not_mem_cons_of_ne_of_not_mem head List.not_mem_nil

/-- Parts without separators, each with a separator in front, are found again behind the first
    separator. -/
theorem splitOn_flatMap {separator : Char} {parts : List (List Char)}
    (clean : ∀ part ∈ parts, separator ∉ part) :
    (splitOn separator (parts.flatMap (separator :: ·))).drop 1 = parts := by
  -- the text up to the first separator is any part without separators
  suffices ∀ first, separator ∉ first →
      splitOn separator (first ++ parts.flatMap (separator :: ·)) = first :: parts by
    have all := this [] List.not_mem_nil
    rw [List.nil_append] at all
    rw [all]
    rfl
  induction parts with
  | nil =>
    intro first h
    rw [List.flatMap_nil, List.append_nil]
    exact splitOn_of_not_mem h
  | cons part parts ih =>
    intro first h
    rw [List.flatMap_cons, List.cons_append, splitOn_append_cons h,
      ih (fun p mem => clean p (List.mem_cons_of_mem _ mem)) part (clean part List.mem_cons_self)]

/-- Parts with a separator in front of each are the text behind a separator. -/
theorem flatMap_splitOn (separator : Char) (cs : List Char) :
    (splitOn separator cs).flatMap (separator :: ·) = separator :: cs := by
  induction cs with
  | nil => rfl
  | cons c rest ih =>
    rw [splitOn]
    split
    · next same => rw [List.flatMap_cons, ih, same]; rfl
    · split
      · next part parts found =>
        rw [found, List.flatMap_cons, List.cons_append, List.cons.injEq] at ih
        rw [List.flatMap_cons, List.cons_append, List.cons_append, ih.2]
      · next found => exact absurd found (splitOn_ne_nil separator rest)

end Text

namespace Pointer

/-! ## Escapes -/

theorem escape_cons (c : Char) (cs : List Char) :
    escape (c :: cs) =
      (if c = '~' then ['~', '0'] else if c = '/' then ['~', '1'] else [c]) ++ escape cs := rfl

/-- An escaped segment has nothing but the characters of the segment, tildes and digits. -/
theorem mem_of_mem_escape {c : Char} {segment : List Char} (mem : c ∈ escape segment) :
    c ≠ '/' ∧ (c ∈ segment ∨ c = '~' ∨ c = '0' ∨ c = '1') := by
  obtain ⟨d, memD, memC⟩ := List.mem_flatMap.1 mem
  split at memC
  · rcases List.mem_cons.1 memC with rfl | memC
    · exact ⟨by decide, .inr (.inl rfl)⟩
    · rw [List.mem_singleton.1 memC]
      exact ⟨by decide, .inr (.inr (.inl rfl))⟩
  · split at memC
    · rcases List.mem_cons.1 memC with rfl | memC
      · exact ⟨by decide, .inr (.inl rfl)⟩
      · rw [List.mem_singleton.1 memC]
        exact ⟨by decide, .inr (.inr (.inr rfl))⟩
    · rename_i slash
      rw [List.mem_singleton.1 memC]
      exact ⟨slash, .inl memD⟩

theorem unescape_escape (segment : List Char) : unescape (escape segment) = segment := by
  induction segment with
  | nil => rfl
  | cons c rest ih =>
    rw [escape_cons]
    split
    · rename_i tilde
      rw [tilde]
      exact congrArg ('~' :: ·) ih
    · split
      · rename_i slash
        rw [slash]
        exact congrArg ('/' :: ·) ih
      · rename_i tilde slash
        rw [List.singleton_append, unescape, ih]
        · intro rest' same
          exact absurd same tilde
        · intro rest' same
          exact absurd same tilde

/-! ## Whole pointers -/

theorem toList_child (pointer segment : String) :
    (child pointer segment).toList = pointer.toList ++ '/' :: escape segment.toList := by
  simp [child]

theorem toList_foldl_child (steps : List String) (pointer : String) :
    (steps.foldl child pointer).toList =
      pointer.toList ++ (steps.map fun step => escape step.toList).flatMap ('/' :: ·) := by
  induction steps generalizing pointer with
  | nil => rw [List.foldl_nil, List.map_nil, List.flatMap_nil, List.append_nil]
  | cons step steps ih =>
    rw [List.foldl_cons, ih, toList_child, List.map_cons, List.flatMap_cons, List.append_assoc]

theorem ofSegments_ne_empty {steps : List String} (some : steps ≠ []) : ofSegments steps ≠ "" := by
  intro h
  have h := congrArg String.toList h
  rw [ofSegments, toList_foldl_child] at h
  cases steps with
  | nil => exact some rfl
  | cons step steps => cases h

/-- A pointer that was put together from segments has these segments if nothing in it is decoded. -/
theorem segments?_of_decode? {steps : List String}
    (kept : Percent.decode? (ofSegments steps).toList = some (ofSegments steps).toList) :
    segments? (ofSegments steps) = some steps := by
  have clean : ∀ part ∈ steps.map fun step => escape step.toList, '/' ∉ part := by
    intro part mem slash
    obtain ⟨step, -, rfl⟩ := List.mem_map.1 mem
    exact (mem_of_mem_escape slash).1 rfl
  rw [segments?, kept, Option.map_some, ofSegments, toList_foldl_child]
  show some ((List.drop 1 (Text.splitOn '/' (List.flatMap _ _))).map _) = _
  rw [Text.splitOn_flatMap clean, List.map_map]
  refine congrArg some (List.map_id'' (fun step => ?_) steps)
  show String.ofList (unescape (escape step.toList)) = step
  rw [unescape_escape, String.ofList_toList]

/-- A pointer that was put together from segments without percent signs has these segments. -/
theorem segments?_ofSegments {steps : List String} (plain : ∀ step ∈ steps, '%' ∉ step.toList) :
    segments? (ofSegments steps) = some steps := by
  refine segments?_of_decode? (Percent.decode?_of_not_mem ?_)
  rw [ofSegments, toList_foldl_child]
  intro mem
  obtain ⟨part, memPart, mem⟩ := List.mem_flatMap.1 mem
  obtain ⟨step, memStep, rfl⟩ := List.mem_map.1 memPart
  rcases List.mem_cons.1 mem with slash | mem
  · cases slash
  · rcases (mem_of_mem_escape mem).2 with own | same | same | same
    · exact plain step memStep own
    all_goals cases same

/-! ## Indices -/

/-- Reading the digits of a number gives the number. -/
theorem foldl_toDigits (n : Nat) :
    (Nat.toDigits 10 n).foldl (fun n c => n * 10 + (c.toNat - '0'.toNat)) 0 = n := by
  induction n using Nat.strongRecOn with
  | ind n ih =>
    have digit : ∀ d, d < 10 → (Nat.digitChar d).toNat - '0'.toNat = d :=
      fun d small => Nat.toNat_digitChar_sub_48_of_lt_ten small
    rw [Nat.toDigits_eq_if (by decide)]
    split
    · rename_i small
      rw [List.foldl_cons, List.foldl_nil, digit n small]
      omega
    · rw [List.foldl_append, ih (n / 10) (by omega), List.foldl_cons, List.foldl_nil,
        digit (n % 10) (by omega)]
      omega

/-- The written form of a number denotes it as an index. -/
theorem index?_toString {n : Nat} (small : n < Nat.pow 2 64) : index? (toString n) = some n := by
  have text : (toString n).toList = Nat.toDigits 10 n := Nat.toList_repr
  have digits : ∀ c ∈ Nat.toDigits 10 n, c.isDigit = true :=
    fun c mem => Nat.isDigit_of_mem_toDigits (by decide) (by decide) mem
  unfold index?
  rw [text]
  split
  rename_i plus
  · exact absurd (digits '+' (plus ▸ List.mem_cons_self)) (by decide)
  · have shape : ((Nat.toDigits 10 n).isEmpty || !(Nat.toDigits 10 n).all Char.isDigit) = false := by
      rw [List.isEmpty_eq_false_iff.2 Nat.toDigits_ne_nil, List.all_eq_true.2 digits]
      rfl
    simp only [shape, foldl_toDigits, if_pos small]
    rfl

end Pointer

/-! ## Following -/

/-- What some steps lead to does not depend on the base. -/
theorem Value.follow?_eq (value : Value) (base : String) (steps : List String) :
    (value.follow? base steps).map Prod.fst = steps.foldlM Value.step? value := by
  induction steps generalizing value base with
  | nil => rfl
  | cons step rest ih =>
    rw [List.foldlM_cons]
    cases rest with
    | nil =>
      rw [follow?]
      cases value.step? step <;> rfl
    | cons next rest =>
      rw [follow?]
      cases value.step? step with
      | none => rfl
      | some part => exact ih part (part.baseOf base)
      simp

end JsonSchema
