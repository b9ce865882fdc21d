import JsonSchema.Proofs.Store.Identifiers
import JsonSchema.Proofs.Url.Fragments

/-!
# Bases around anchors

An identifier that is only a fragment names a place and leaves the base of references as it is,
apart from the fragment of the base. This needs a base whose document part is in normal form and
ends with a visible character.

* `IsSettled`: such a base.
* `SameBase`: references relative to two bases denote the same.
* `resolveUrl_anchor`: an anchor does not change the document part of the base.
* `IsSettled.sameBase`: the document part serves as well as the whole base.
* `resolveUrl_own`: the identifier of a document that is an anchor is declared in it once more.
-/

namespace JsonSchema

/-- The document part of a base is in normal form, and ends with a visible character. -/
structure IsSettled (base : String) : Prop where
  normal : normalizeId (documentPart base) = documentPart base
  visible : Url.EndsVisibly (documentPart base).toList

/-- References relative to two bases denote the same. -/
def SameBase (base base' : String) : Prop :=
  ∀ reference, resolveUrl base reference = resolveUrl base' reference

/-! ## Document parts -/

theorem toList_documentPart (text : String) :
    (documentPart text).toList = text.toList.takeWhile fun c => decide (c ≠ '#') := by
  rw [documentPart, String.toList_ofList]
  rfl

theorem mark_not_mem_documentPart (text : String) : '#' ∉ (documentPart text).toList := by
  rw [toList_documentPart]
  intro mem
  have unmarked := List.mem_takeWhile_imp mem
  simp at unmarked

/-- A text is its document part, or goes on behind it with a mark. -/
theorem documentPart_cases (text : String) : text = documentPart text ∨
    ∃ fragment, text = String.ofList ((documentPart text).toList ++ '#' :: fragment) := by
  by_cases marked : '#' ∈ text.toList
  · refine .inr ⟨(fragmentPart text).toList, ?_⟩
    have whole := documentPart_append_fragmentPart marked
    rw [← String.toList_inj, String.toList_ofList, ← congrArg String.toList whole]
    simp
  · exact .inl (documentPart_of_not_mem marked).1.symm

/-- What stands behind a mark does not count for the document part. -/
theorem documentPart_ofList_append (cs fragment : List Char) :
    documentPart (String.ofList (cs ++ '#' :: fragment)) = documentPart (String.ofList cs) := by
  rw [← String.toList_inj, toList_documentPart, toList_documentPart, String.toList_ofList,
    String.toList_ofList, Url.takeWhile_append_cons (by decide)]

theorem documentPart_documentPart (text : String) :
    documentPart (documentPart text) = documentPart text :=
  (documentPart_of_not_mem (mark_not_mem_documentPart text)).1

theorem documentPart_stripMark (cs : List Char) :
    documentPart (String.ofList (Reference.stripMark cs)) = documentPart (String.ofList cs) := by
  unfold Reference.stripMark
  split
  · rename_i last
    obtain ⟨rest, rfl⟩ := List.getLast?_eq_some_iff.1 last
    rw [List.dropLast_concat, documentPart_ofList_append]
  · rfl

theorem stripMark_of_not_mem {cs : List Char} (clean : '#' ∉ cs) : Reference.stripMark cs = cs := by
  unfold Reference.stripMark
  rw [if_neg fun last => clean (List.mem_of_getLast? last)]

/-- The document part of the written form of a URL is that of its front. -/
theorem documentPart_characters (u : Url) :
    documentPart (String.ofList u.characters) = documentPart (String.ofList u.front) := by
  obtain ⟨rest, text, rfl | ⟨fragment, rfl⟩⟩ := u.characters_eq
  · rw [text, List.append_nil]
  · rw [text, documentPart_ofList_append]

/-! ## Anchors -/

/-- An identifier that is only a fragment. -/
theorem toList_of_startsWith {id : String} (anchor : id.startsWith "#" = true) :
    ∃ fragment, id.toList = '#' :: fragment := by
  obtain ⟨fragment, text⟩ := String.startsWith_string_iff.1 anchor
  exact ⟨fragment, text.symm⟩

theorem trimmed_mark (fragment : List Char) :
    Url.trimmed ('#' :: fragment) = '#' :: Url.counted fragment := by
  have visible : Url.EndsVisibly ([] : List Char) := fun c found => by cases found
  exact Url.trimmed_append_of_visible visible fragment

/-- An anchor is no URL. -/
theorem parse?_mark {id : String} {fragment : List Char} (anchor : id.toList = '#' :: fragment) :
    Url.parse? id = none := by
  unfold Url.parse? Url.read?
  rw [anchor, trimmed_mark]
  rfl

/-- An anchor gives a URL another fragment. -/
theorem join?_mark (u : Url) {id : String} {fragment : List Char}
    (anchor : id.toList = '#' :: fragment) : u.join? id =
      some (u.withFragment (Percent.encode Url.encodeInFragment (Url.counted fragment))) := by
  unfold Url.join? Url.read?
  rw [anchor, trimmed_mark]
  rfl

theorem joinText_mark (base : String) {id : String} {fragment : List Char}
    (anchor : id.toList = '#' :: fragment) :
    joinText base id = String.ofList ((documentPart base).toList ++ '#' :: fragment) := by
  unfold joinText
  rw [anchor]
  show documentPart base ++ id = _
  rw [← String.toList_inj, String.toList_append, String.toList_ofList, anchor]

/-! ## Settled bases -/

section Settled

variable {base : String}

/-- The document part of the written form of a URL whose text is in normal form. -/
theorem documentPart_front (normal : normalizeId (documentPart base) = documentPart base) {u : Url}
    (read : Url.parse? (documentPart base) = some u) :
    documentPart (String.ofList u.front) = documentPart base := by
  have text := normal
  unfold normalizeId at text
  rw [stripMark_of_not_mem (mark_not_mem_documentPart base), String.ofList_toList] at text
  dsimp only at text
  rw [read] at text
  have text : String.ofList (Reference.stripMark u.characters) = documentPart base := text
  rw [← documentPart_characters, ← documentPart_stripMark, text, documentPart_documentPart]

/-- The URL of a base is that of its document part with another fragment, and is none if that is
    none. -/
theorem IsSettled.parse?_eq (settled : IsSettled base) {text : String}
    (part : documentPart text = documentPart base) :
    Url.parse? text = Url.parse? (documentPart base) ∨
      ∃ fragment, Url.parse? text =
        (Url.parse? (documentPart base)).map (·.withFragment fragment) := by
  rcases documentPart_cases text with whole | ⟨fragment, whole⟩
  · rw [whole, part]
    exact .inl rfl
  · rw [part] at whole
    rcases Url.parse?_extends (mark_not_mem_documentPart base) settled.visible fragment with
      same | ⟨none, marked, bare⟩
    · exact .inr ⟨_, whole ▸ same⟩
    · refine .inl ?_
      rw [whole, none]
      cases read : Url.parse? (documentPart base) with
      | none => rfl
      | some u =>
        -- the user mark of the text would be in the written form
        refine absurd ?_ (bare u (Option.mem_def.2 read))
        rw [← documentPart_front settled.normal read, toList_documentPart,
          String.toList_ofList] at marked
        exact (List.takeWhile_sublist _).mem marked

theorem IsSettled.documentPart_of_parse? (settled : IsSettled base) {text : String}
    (part : documentPart text = documentPart base) {u : Url} (read : Url.parse? text = some u) :
    documentPart (String.ofList u.front) = documentPart base := by
  rcases settled.parse?_eq part with same | ⟨fragment, same⟩
  · exact documentPart_front settled.normal (same ▸ read)
  · rw [same] at read
    obtain ⟨v, read', rfl⟩ := Option.map_eq_some_iff.1 read
    exact documentPart_front (u := v) settled.normal read'

/-- A text with the document part of a settled base keeps it when it is normalized. -/
theorem IsSettled.normalizeId (settled : IsSettled base) {text : String}
    (part : documentPart text = documentPart base) :
    documentPart (JsonSchema.normalizeId text) = documentPart base := by
  have part : documentPart (String.ofList (Reference.stripMark text.toList)) = documentPart base := by
    rw [documentPart_stripMark, String.ofList_toList, part]
  unfold JsonSchema.normalizeId
  dsimp only
  split
  · rename_i u read
    rw [documentPart_stripMark, documentPart_characters]
    exact settled.documentPart_of_parse? part read
  · exact part

/-- An anchor does not change the document part of a settled base. -/
theorem resolveUrl_anchor (settled : IsSettled base) {id : String}
    (anchor : id.startsWith "#" = true) :
    documentPart (resolveUrl base id) = documentPart base := by
  obtain ⟨fragment, text⟩ := toList_of_startsWith anchor
  unfold resolveUrl
  rw [parse?_mark text]
  dsimp only
  cases read : Url.parse? base with
  | none =>
    refine settled.normalizeId ?_
    rw [joinText_mark base text, documentPart_ofList_append, String.ofList_toList,
      documentPart_documentPart]
  | some u =>
    rw [Option.bind_some, join?_mark u text]
    refine settled.normalizeId ?_
    rw [Url.text, Url.characters_withFragment, documentPart_ofList_append]
    exact settled.documentPart_of_parse? rfl read

/-- References relative to a settled base denote the same as relative to its document part. -/
theorem IsSettled.sameBase (settled : IsSettled base) : SameBase (documentPart base) base := by
  intro reference
  unfold resolveUrl
  have join : (Url.parse? (documentPart base)).bind (·.join? reference) =
      (Url.parse? base).bind (·.join? reference) := by
    rcases settled.parse?_eq (rfl : documentPart base = documentPart base) with same | ⟨fragment, same⟩
    · rw [same]
    · rw [same]
      cases Url.parse? (documentPart base) with
      | none => rfl
      | some u => exact (u.join?_withFragment fragment reference).symm
  have text : joinText (documentPart base) reference = joinText base reference := by
    unfold joinText
    rw [documentPart_documentPart]
  rw [join, text]

end Settled

/-! ## Documents -/

/-- The identifier of a document that is an anchor denotes the document itself. -/
theorem resolveUrl_own {id : String} (anchor : id.startsWith "#" = true) :
    resolveUrl (normalizeId id) id = normalizeId id := by
  obtain ⟨fragment, text⟩ := toList_of_startsWith anchor
  have stripped : Reference.stripMark id.toList = [] ∨
      ∃ rest, Reference.stripMark id.toList = '#' :: rest := by
    rw [text]
    unfold Reference.stripMark
    split
    · cases fragment with
      | nil => exact .inl rfl
      | cons c rest => exact .inr ⟨_, rfl⟩
    · exact .inr ⟨_, rfl⟩
  have plain : Url.parse? (String.ofList (Reference.stripMark id.toList)) = none := by
    rcases stripped with same | ⟨rest, same⟩
    · rw [same]
      rfl
    · exact parse?_mark (by rw [String.toList_ofList, same])
  have own : normalizeId id = String.ofList (Reference.stripMark id.toList) := by
    unfold normalizeId
    dsimp only
    rw [plain]
  have part : (documentPart (normalizeId id)).toList = [] := by
    rw [own, documentPart_stripMark, toList_documentPart, String.toList_ofList, text]
    rfl
  have join : joinText (normalizeId id) id = id := by
    rw [joinText_mark _ text, part, ← String.toList_inj, String.toList_ofList, text]
    rfl
  have base : (Url.parse? (normalizeId id)).bind (·.join? id) = none := by
    rw [own, plain, Option.bind_none]
  rw [resolveUrl, parse?_mark text, base, join]

end JsonSchema
