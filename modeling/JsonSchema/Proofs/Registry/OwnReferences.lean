import JsonSchema.Proofs.Json.Pointers
import JsonSchema.Proofs.Registry.Reachable
import JsonSchema.Proofs.Url.Anchors
import JsonSchema.Proofs.Url.Percent

/-!
# References of a document to itself

A reference that is only a fragment is joined to the identifier of the document, normalized and
split again. The parts are the identifier and the fragment once more, perhaps percent-encoded, as
long as the identifier has no fragment of its own and nothing is cut off at its end or at that of
the pointer.

* `IsWhole`: identifiers that are the document parts of references relative to them.
* `Pointer.IsKept`: pointers that are kept where they are the fragments of references.
* `resolveUrl_pointer`: the text of the joined reference.
* `Store.resolve_own`, `Store.resolve_within`: the references of a document to itself lead into it.
* `Registry.run_resolves_own`: this is so of every document of a registry.
* `Registry.resolve_tabbed`: a tab in a pointer is lost behind a URL.
-/

namespace JsonSchema

/-- An identifier that is the document part of references relative to it: it has no fragment, and
    is not written differently again if it is a URL. If it has a scheme it ends with a visible
    character, because blanks at the end of a URL are cut off unless a fragment follows. -/
structure IsWhole (id : String) : Prop where
  unmarked : '#' ∉ id.toList
  written : ∀ u, Url.parse? id = some u → u.text = id
  visible : (Url.scheme? (Url.trimmed id.toList)).isSome → Url.EndsVisibly id.toList

/-- A pointer that is kept where it is the fragment of a reference relative to an identifier: it
    has no percent sign and no mark at its end. Behind a URL it has no breaks either, and ends with
    a visible character. -/
structure Pointer.IsKept (id pointer : String) : Prop where
  plain : '%' ∉ pointer.toList
  unmarked : pointer.toList.getLast? ≠ some '#'
  visible : (Url.parse? id).isSome → Url.EndsVisibly pointer.toList
  unbroken : (Url.parse? id).isSome → ∀ c ∈ pointer.toList, c ≠ '\t' ∧ c ≠ '\n' ∧ c ≠ '\r'

/-- How a pointer is written behind an identifier: behind a URL it is percent-encoded. -/
def Pointer.behind (id pointer : String) : List Char :=
  if (Url.parse? id).isSome then Percent.encode Url.encodeInFragment pointer.toList
  else pointer.toList

/-! ## Identifiers -/

namespace IsWhole

variable {id : String}

theorem parse?_append (whole : IsWhole id) (fragment : List Char) :
    Url.Extends (Url.counted fragment) id.toList (Url.parse? id)
      (Url.parse? (String.ofList (id.toList ++ '#' :: fragment))) := by
  cases scheme : Url.scheme? (Url.trimmed id.toList) with
  | some =>
    exact Url.parse?_extends whole.unmarked (whole.visible (by rw [scheme]; rfl)) fragment
  | none =>
    have own : Url.parse? id = none := by
      rw [Url.parse?, Url.read?]
      simp only [scheme]
    rw [Url.parse?_append_of_scheme? scheme, own]
    exact .inl rfl

theorem characters (whole : IsWhole id) {u : Url} (read : Url.parse? id = some u) :
    u.characters = id.toList := by
  rw [← whole.written u read, Url.text, String.toList_ofList]

theorem front (whole : IsWhole id) {u : Url} (read : Url.parse? id = some u) :
    u.front = id.toList := by
  have written := whole.characters read
  obtain ⟨rest, text, rfl | ⟨fragment, rfl⟩⟩ := u.characters_eq
  · rw [← written, text, List.append_nil]
  · refine absurd ?_ whole.unmarked
    rw [← written, text]
    exact List.mem_append_right _ List.mem_cons_self

theorem normalizeId_eq (whole : IsWhole id) : normalizeId id = id := by
  unfold normalizeId
  rw [stripMark_of_not_mem whole.unmarked, String.ofList_toList]
  dsimp only
  cases read : Url.parse? id with
  | none => rfl
  | some u =>
    dsimp only
    rw [whole.characters read, stripMark_of_not_mem whole.unmarked, String.ofList_toList]

/-- A mark alone is taken off the identifier again. -/
theorem normalizeId_mark (whole : IsWhole id) :
    normalizeId (String.ofList (id.toList ++ ['#'])) = id := by
  have stripped : Reference.stripMark (id.toList ++ ['#']) = id.toList := by
    rw [Reference.stripMark, if_pos List.getLast?_concat, List.dropLast_concat]
  have own := whole.normalizeId_eq
  unfold normalizeId at own ⊢
  rw [stripMark_of_not_mem whole.unmarked, String.ofList_toList] at own
  rw [String.toList_ofList, stripped, String.ofList_toList]
  exact own

/-- A fragment stays behind the identifier if nothing in it is left out or encoded there. -/
theorem normalizeId_append (whole : IsWhole id) {fragment : List Char} (some_ : fragment ≠ [])
    (unmarked : fragment.getLast? ≠ some '#')
    (kept : (Url.parse? id).isSome →
      Percent.encode Url.encodeInFragment (Url.counted fragment) = fragment) :
    normalizeId (String.ofList (id.toList ++ '#' :: fragment)) =
      String.ofList (id.toList ++ '#' :: fragment) := by
  have ends : Reference.stripMark (id.toList ++ '#' :: fragment) = id.toList ++ '#' :: fragment := by
    obtain ⟨c, rest, rfl⟩ := List.exists_cons_of_ne_nil some_
    rw [Reference.stripMark, if_neg]
    rwa [List.getLast?_append, List.getLast?_cons_cons, List.getLast?_eq_some_getLast
      (List.cons_ne_nil _ _), Option.some_or, ← List.getLast?_eq_some_getLast]
  have read := whole.parse?_append fragment
  unfold normalizeId
  rw [String.toList_ofList, ends]
  dsimp only
  cases own : Url.parse? id with
  | none =>
    have none : Url.parse? (String.ofList (id.toList ++ '#' :: fragment)) = none := by
      rw [own] at read
      rcases read with same | ⟨same, -⟩ <;> exact same
    rw [none]
  | some u =>
    rw [own] at read kept
    rcases read with same | ⟨same, -⟩
    · rw [same]
      show String.ofList (Reference.stripMark (u.withFragment _).characters) = _
      rw [kept rfl, Url.characters_withFragment, whole.front own, ends]
    · rw [same]

end IsWhole

/-! ## References -/

namespace Pointer

variable {id pointer : String}

/-- A pointer is read back from the way it is written. -/
theorem IsKept.segments?_behind (kept : IsKept id pointer) :
    segments? (String.ofList (behind id pointer)) = segments? pointer := by
  have read : Percent.decode? (behind id pointer) = Percent.decode? pointer.toList := by
    rw [Percent.decode?_of_not_mem kept.plain, behind]
    split
    · exact Percent.decode?_encode _ kept.plain
    · exact Percent.decode?_of_not_mem kept.plain
  rw [segments?, segments?, String.toList_ofList, read]

theorem behind_ne_nil (some : pointer ≠ "") : behind id pointer ≠ [] := by
  have some : pointer.toList ≠ [] := fun empty => some (String.toList_eq_nil_iff.1 empty)
  rw [behind]
  split
  · exact fun empty => some (Percent.encode_eq_nil empty)
  · exact some

theorem behind_cons {rest : List Char} (slash : pointer.toList = '/' :: rest) :
    ∃ rest', behind id pointer = '/' :: rest' := by
  rw [behind, slash]
  split
  · exact ⟨_, rfl⟩
  · exact ⟨_, rfl⟩

end Pointer

variable {id pointer : String}

/-- A pointer behind a mark stays behind the identifier that it is relative to. -/
theorem resolveUrl_pointer (whole : IsWhole id) (kept : Pointer.IsKept id pointer)
    (some_ : pointer ≠ "") :
    resolveUrl id ("#" ++ pointer) = String.ofList (id.toList ++ '#' :: Pointer.behind id pointer) := by
  have text : ("#" ++ pointer).toList = '#' :: pointer.toList := by simp
  have join : (Url.parse? id).bind (·.join? ("#" ++ pointer)) =
      (Url.parse? id).map (·.withFragment (Pointer.behind id pointer)) := by
    cases read : Url.parse? id with
    | none => rfl
    | some u =>
      have isUrl : (Url.parse? id).isSome := by rw [read]; rfl
      rw [Option.bind_some, join?_mark u text, Url.counted_eq_self (kept.visible isUrl)
        (kept.unbroken isUrl), Pointer.behind, if_pos isUrl]
      rfl
  have unmarked : (Pointer.behind id pointer).getLast? ≠ some '#' := by
    rw [Pointer.behind]
    split
    · exact fun last => kept.unmarked (Percent.getLast?_of_encode (by decide) last)
    · exact kept.unmarked
  have normal := whole.normalizeId_append (Pointer.behind_ne_nil some_) unmarked fun isUrl => by
    rw [Pointer.behind, if_pos isUrl, Url.counted_encode,
      Percent.encode_eq_self fun c mem => Url.clean_of_mem_fragment mem]
  rw [resolveUrl, parse?_mark text]
  dsimp only
  rw [join]
  cases read : Url.parse? id with
  | none =>
    have same : Pointer.behind id pointer = pointer.toList := by rw [Pointer.behind, read]; rfl
    rw [Option.map_none]
    dsimp only
    rw [joinText_mark id text, (documentPart_of_not_mem whole.unmarked).1, ← same]
    exact normal
  | some u =>
    rw [Option.map_some]
    dsimp only
    rw [Url.text, Url.characters_withFragment, whole.front read]
    exact normal

/-- A mark alone denotes what the identifier denotes. -/
theorem resolveUrl_mark (whole : IsWhole id) : resolveUrl id "#" = id := by
  have text : "#".toList = ['#'] := by decide
  rw [resolveUrl, parse?_mark text]
  dsimp only
  cases read : Url.parse? id with
  | none =>
    rw [Option.bind_none]
    dsimp only
    rw [joinText_mark id text, (documentPart_of_not_mem whole.unmarked).1]
    exact whole.normalizeId_mark
  | some u =>
    rw [Option.bind_some, join?_mark u text]
    dsimp only
    rw [Url.text, Url.characters_withFragment, whole.front read]
    exact whole.normalizeId_mark

/-! ## Documents -/

/-- Whether a reference denotes nothing that is known. -/
def Resolved.isMissing : Resolved → Bool
  | .missing => true
  | _ => false

namespace Store

variable {s : Store} {id : EntryId} {e : Entry}

/-- A mark alone refers to the document itself. -/
theorem resolve_own (found : s.entry? id = some e) (own : e.root = id) (whole : IsWhole e.id) :
    s.resolve id (resolveUrl e.id "#") = .entry id := by
  subst own
  obtain ⟨document, fragment⟩ := documentPart_of_not_mem whole.unmarked
  rw [resolveUrl_mark whole]
  refine resolve_of_reaches_document ⟨e, e, "", e, found, found, ?_, found, ?_⟩
  · rw [document, targetOf?, if_pos rfl]
  · rw [document, fragment]
    rfl

/-- A pointer behind a mark refers to the part of the document that the pointer names. -/
theorem resolve_within (found : s.entry? id = some e) (own : e.root = id) (whole : IsWhole e.id)
    (indexable : e.document.IsIndexable) {pointer : String} (kept : Pointer.IsKept e.id pointer)
    (some_ : pointer ≠ "") {part : Value} (leads : e.document.evaluate? pointer = some part) :
    ∃ base, s.resolve id (resolveUrl e.id ("#" ++ pointer)) =
      .fragment id base (String.ofList (Pointer.behind e.id pointer)) part := by
  subst own
  obtain ⟨tokens, read, follows⟩ := Option.bind_eq_some_iff.1 leads
  let fragment := String.ofList (Pointer.behind e.id pointer)
  have nonempty : fragment ≠ "" := fun empty =>
    Pointer.behind_ne_nil some_ (by simpa [fragment] using congrArg String.toList empty)
  obtain ⟨document, behind⟩ := documentPart_append whole.unmarked fragment
  have text : resolveUrl e.id ("#" ++ pointer) = e.id ++ "#" ++ fragment := by
    rw [resolveUrl_pointer whole kept some_, ← String.toList_inj]
    simp [fragment]
  have slash : fragment.startsWith "/" = true := by
    obtain ⟨rest, shape⟩ : ∃ rest, pointer.toList = '/' :: rest := by
      rw [Pointer.tokens?] at read
      split at read
      · next empty => exact absurd (String.toList_eq_nil_iff.1 empty) some_
      · next c rest shape =>
        split at read
        · next slash => exact ⟨rest, slash ▸ shape⟩
        · cases read
    obtain ⟨rest', shape'⟩ := @Pointer.behind_cons e.id pointer rest shape
    exact String.startsWith_string_iff.2 ⟨rest', by simp [fragment, shape']⟩
  have reaches : s.Reaches e.root (resolveUrl e.id ("#" ++ pointer)) e.root fragment := by
    refine ⟨e, e, "", e, found, found, ?_, found, ?_⟩
    · rw [text, document, targetOf?, if_pos rfl]
    · rw [text, document, behind, pointerOf?, if_neg (by simpa using nonempty), if_pos slash,
        String.empty_append]
  have cut := Value.follow?_eq e.document e.id tokens
  rw [indexable.foldlM_step? follows] at cut
  obtain ⟨⟨part', base⟩, goes, same⟩ := Option.map_eq_some_iff.1 cut
  obtain rfl : part' = part := same
  have segments : Pointer.segments? fragment = some tokens :=
    kept.segments?_behind.trans (Pointer.segments?_of_tokens? kept.plain read)
  exact ⟨base, resolve_of_reaches_part reaches nonempty ⟨e, tokens, found, segments, goes⟩⟩

end Store

namespace Registry

/-- A document with one definition, to which it refers. -/
def referring (id name : String) : Document where
  value := .object
    [("$id", .string id), ("definitions", .object [(name, .bool true)]),
     ("$ref", .string ("#/definitions/" ++ name))]
  identity := .given 0

/-- A registry that has taken such a document in. -/
def holding (id name : String) : Registry :=
  (create { serialize := .disabled, installMeta := false }).run [.add (referring id name) {}]

theorem indexable_referring (id name : String) : (referring id name).value.IsIndexable := by
  have leaf {value : Value} (none : ∀ turn, value.turn? turn = none)
      (plain : ∀ items, value ≠ .array items) : value.IsIndexable :=
    Value.isIndexable_of_parts (fun items same => absurd same (plain items)) fun turn part leads => by
      rw [none] at leads
      cases leads
  refine Value.isIndexable_object ?_
  simp only [List.mem_cons, List.not_mem_nil, or_false, forall_eq_or_imp, forall_eq]
  refine ⟨leaf (fun _ => rfl) nofun, Value.isIndexable_object ?_, leaf (fun _ => rfl) nofun⟩
  simp only [List.mem_singleton, forall_eq]
  exact leaf (fun _ => rfl) nofun

end Registry

end JsonSchema
