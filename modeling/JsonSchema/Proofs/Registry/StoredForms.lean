import JsonSchema.Proofs.Compilation.Missing
import JsonSchema.Proofs.Registry.Names
import JsonSchema.Proofs.Url.Anchors
import JsonSchema.Proofs.Url.Written

/-!
# Stored forms of identifiers

The stored form of an identifier is not always that of itself. One number sign at the end of an
identifier is left out, so another one in front of it is left out only when the form is stored
again. A URL with an opaque path may keep a blank in front of the number sign that is left out, and
lose it then.

* `RereadsAlike`: the URL of a text is read again from its written form in the same way.
* `IsFinal`, `normalizeId_normalizeId_iff`: which stored forms are their own.
* `IsFinalPart`, `normalizeId_documentPart_iff`: and which of their document parts are.
* `Registry.run_stores`: under which names documents are listed, and found again.
* `Registry.stores_twice`, `Registry.resolves_anew`: stored forms that are not their own.
-/

namespace JsonSchema

/-! ## Marks -/

namespace Reference

/-- A text without a mark at its end, or one more mark behind what is left of it. -/
theorem stripMark_cases (cs : List Char) :
    (cs.getLast? ≠ some '#' ∧ stripMark cs = cs) ∨ cs = stripMark cs ++ ['#'] := by
  unfold stripMark
  split
  · next last =>
    obtain ⟨rest, rfl⟩ := List.getLast?_eq_some_iff.1 last
    exact .inr (by rw [List.dropLast_concat])
  · next last => exact .inl ⟨last, rfl⟩

theorem stripMark_sublist (cs : List Char) : (stripMark cs).Sublist cs := by
  unfold stripMark
  split
  · exact List.dropLast_sublist cs
  · exact List.Sublist.refl cs

theorem stripMark_of_ne {cs : List Char} (unmarked : cs.getLast? ≠ some '#') :
    stripMark cs = cs := if_neg unmarked

end Reference

open Reference (stripMark stripMark_cases stripMark_sublist stripMark_of_ne)

/-- The first mark of a text divides it in only one way. -/
theorem append_mark_inj {cs ds before after : List Char} (clean : '#' ∉ cs) (clean' : '#' ∉ before)
    (same : cs ++ '#' :: ds = before ++ '#' :: after) : cs = before ∧ ds = after := by
  have unmarked {cs : List Char} (clean : '#' ∉ cs) : ∀ c ∈ cs, decide (c ≠ '#') = true :=
    fun c mem => decide_eq_true fun mark => clean (mark ▸ mem)
  have first := congrArg (List.takeWhile fun c => decide (c ≠ '#')) same
  rw [Url.takeWhile_append_cons (by decide), Url.takeWhile_append_cons (by decide),
    List.takeWhile_eq_self_iff.2 (unmarked clean),
    List.takeWhile_eq_self_iff.2 (unmarked clean')] at first
  subst first
  exact ⟨rfl, (List.cons.inj (List.append_cancel_left same)).2⟩

namespace Url

/-- A URL without fragment is written up to its end. -/
theorem characters_eq_front {u : Url} (none : u.fragment = none) : u.characters = u.front := by
  rw [characters, none]
  exact List.append_nil _

/-- A number sign in a fragment is not encoded, and no triplet has one. -/
theorem count_encode_le (cs : List Char) :
    (Percent.encode encodeInFragment cs).count '#' ≤ cs.count '#' := by
  induction cs with
  | nil => exact Nat.le_refl _
  | cons c rest ih =>
    rw [Percent.encode, List.flatMap_cons, List.count_append, List.count_cons, Nat.add_comm]
    refine Nat.add_le_add ih ?_
    split
    · have none : '#' ∉ (Utf8.encodeChar c).flatMap Percent.encodeByte := by
        intro mem
        obtain ⟨b, memB, mem⟩ := List.mem_flatMap.1 mem
        have small := Utf8.lt_of_mem_encodeChar memB
        have digits : ∀ d < 16, '#' ≠ Percent.hexDigit d := by decide
        have high := digits (b / 16) (by omega)
        have low := digits (b % 16) (by omega)
        simp [Percent.encodeByte, high, low] at mem
      rw [List.count_eq_zero.2 none]
      exact Nat.zero_le _
    · rw [List.count_singleton]

theorem counted_sublist (fragment : List Char) : (counted fragment).Sublist fragment := by
  refine List.filter_sublist.trans ?_
  have behind := (List.dropWhile_sublist (fun c : Char => decide (c.toNat ≤ 0x20))
    (l := fragment.reverse)).reverse
  rwa [List.reverse_reverse] at behind

/-- What stands behind a mark in the written form of a URL, and what its text has there. -/
theorem characters_cases {text : String} {u : Url} (read : parse? text = some u) :
    '#' ∉ text.toList ∧ '#' ∉ u.characters ∧ EndsVisibly u.characters ∨
      ∃ document before fragment, text.toList = document ++ '#' :: fragment ∧ '#' ∉ before ∧
        u.characters = before ++ '#' :: Percent.encode encodeInFragment (counted fragment) := by
  rcases documentPart_cases text with whole | ⟨fragment, whole⟩
  · have clean : '#' ∉ text.toList := whole ▸ mark_not_mem_documentPart text
    obtain ⟨unmarked, visible, none⟩ := parse?_isClean clean read
    rw [characters_eq_front none]
    exact .inl ⟨clean, unmarked, visible⟩
  · obtain ⟨old, fronts, urls⟩ := parse?_marked (mark_not_mem_documentPart text)
    obtain ⟨v, here, rfl⟩ := urls fragment u (whole ▸ read)
    refine .inr ⟨(documentPart text).toList, v.front, fragment, ?_, fronts v here, characters_withFragment v _⟩
    have text := congrArg String.toList whole
    rwa [String.toList_ofList] at text

/-- A URL is written with no more marks than it was read from. -/
theorem count_characters_le {text : String} {u : Url} (read : parse? text = some u) :
    u.characters.count '#' ≤ text.toList.count '#' := by
  rcases characters_cases read with ⟨-, unmarked, -⟩ | ⟨_, _, fragment, own, unmarked, written⟩
  · rw [List.count_eq_zero.2 unmarked]
    exact Nat.zero_le _
  · have behind := (count_encode_le (counted fragment)).trans ((counted_sublist fragment).count_le '#')
    rw [written, own, List.count_append, List.count_append, List.count_cons_self,
      List.count_cons_self, List.count_eq_zero.2 unmarked]
    omega

/-- The written form of a URL ends visibly. -/
theorem endsVisibly_characters {text : String} {u : Url} (read : parse? text = some u) :
    EndsVisibly u.characters := by
  rcases characters_cases read with ⟨-, -, visible⟩ | ⟨_, _, fragment, -, -, written⟩
  · exact visible
  · rw [written]
    refine endsVisibly_append (fun c last => ?_) nofun
    rcases List.mem_cons.1 (List.mem_of_getLast? last) with rfl | mem
    · decide
    · intro low
      have blanks : ∀ n ≤ 0x20, encodeInFragment (Char.ofNat n) = true := by decide
      have blank := blanks _ low
      rw [Char.ofNat_toNat, clean_of_mem_fragment mem] at blank
      cases blank

end Url

/-! ## Stored forms -/

theorem normalizeId_of_parse? {text : String} {u : Url}
    (read : Url.parse? (String.ofList (stripMark text.toList)) = some u) :
    normalizeId text = String.ofList (stripMark u.characters) := by
  unfold normalizeId
  dsimp only
  rw [read]

theorem normalizeId_of_not_parse? {text : String}
    (read : Url.parse? (String.ofList (stripMark text.toList)) = none) :
    normalizeId text = String.ofList (stripMark text.toList) := by
  unfold normalizeId
  dsimp only
  rw [read]

/-- The URL that a text stands for, if any, is read again from its written form in the same way. -/
def RereadsAlike (text : String) : Prop :=
  ∀ u, Url.parse? (String.ofList (stripMark text.toList)) = some u →
    ∃ v, Url.parse? u.text = some v ∧ v.text = u.text

/-- A stored form that is not changed when it is stored again: it has no mark at its end, and no blank
    if it is a URL. -/
def IsFinal (id : String) : Prop :=
  id.toList.getLast? ≠ some '#' ∧ ((Url.parse? id).isSome → Url.EndsVisibly id.toList)

/-- A stored form whose document part is not changed when it is stored: if the document part is a URL,
    it ends visibly, and the whole is a URL as well. -/
def IsFinalPart (id : String) : Prop :=
  (Url.parse? (documentPart id)).isSome →
    Url.EndsVisibly (documentPart id).toList ∧ (Url.parse? id).isSome

/-- A text with a mark at its end is not the stored form of itself. -/
theorem normalizeId_ne_of_mark {text : String} (marked : text.toList.getLast? = some '#') :
    normalizeId text ≠ text := by
  intro same
  have shape := (stripMark_cases text.toList).resolve_left fun ⟨unmarked, _⟩ => unmarked marked
  have more := congrArg (List.count '#') shape
  rw [List.count_append, List.count_singleton_self] at more
  have own := congrArg String.toList same
  cases read : Url.parse? (String.ofList (stripMark text.toList)) with
  | none =>
    rw [normalizeId_of_not_parse? read, String.toList_ofList] at own
    rw [own] at more
    omega
  | some u =>
    have fewer := Url.count_characters_le read
    rw [String.toList_ofList] at fewer
    rw [normalizeId_of_parse? read, String.toList_ofList] at own
    have left := (stripMark_sublist u.characters).count_le '#'
    rw [own] at left
    omega

/-- What is left of a URL when it is stored again is all of it, if it was a stored form. -/
theorem characters_of_normalizeId {text : String} {u : Url} (read : Url.parse? text = some u)
    (unmarked : text.toList.getLast? ≠ some '#') :
    normalizeId text = text ↔ u.characters = text.toList := by
  have own : normalizeId text = String.ofList (stripMark u.characters) := by
    refine normalizeId_of_parse? ?_
    rw [stripMark_of_ne unmarked, String.ofList_toList, read]
  rw [own, ← String.toList_inj, String.toList_ofList]
  constructor
  · intro same
    rcases stripMark_cases u.characters with ⟨-, kept⟩ | marked
    · exact kept.symm.trans same
    · -- a mark that is left out would have come from nowhere
      have fewer := Url.count_characters_le read
      rw [marked, same, List.count_append, List.count_singleton_self] at fewer
      omega
  · intro same
    rw [same, stripMark_of_ne unmarked]

theorem normalizeId_of_parse?_eq_none {text : String} (read : Url.parse? text = none)
    (unmarked : text.toList.getLast? ≠ some '#') : normalizeId text = text := by
  have same : String.ofList (stripMark text.toList) = text := by
    rw [stripMark_of_ne unmarked, String.ofList_toList]
  rw [normalizeId_of_not_parse? (same.symm ▸ read), same]

/-- If a URL is written as it was read, so is that of the document part. -/
theorem characters_of_documentPart {text : String} {u v : Url} (readV : Url.parse? text = some v)
    (written : v.characters = text.toList) (read : Url.parse? (documentPart text) = some u)
    (visible : Url.EndsVisibly (documentPart text).toList) :
    u.characters = (documentPart text).toList := by
  have clean := mark_not_mem_documentPart text
  obtain ⟨unmarked, -, none⟩ := Url.parse?_isClean clean read
  rcases documentPart_cases text with whole | ⟨fragment, whole⟩
  · rw [← whole, readV] at read
    cases read
    rw [written, ← whole]
  · have extends_ := Url.parse?_extends clean visible fragment
    rw [← whole, readV, read] at extends_
    rcases extends_ with same | ⟨same, -⟩
    · cases same
      have shape := congrArg String.toList whole
      rw [← written, Url.characters_withFragment, String.toList_ofList] at shape
      rw [Url.characters_eq_front none]
      exact (append_mark_inj unmarked clean shape).1
    · cases same

/-- If a URL is written as it was read, apart from a mark at its end, so is what is in front of the
    mark. -/
theorem characters_of_mark {text : String} {u v : Url}
    (readV : Url.parse? (String.ofList (text.toList ++ ['#'])) = some v)
    (written : v.characters = text.toList ++ ['#']) (read : Url.parse? text = some u)
    (visible : Url.EndsVisibly text.toList) : u.characters = text.toList := by
  rcases documentPart_cases text with whole | ⟨fragment, whole⟩
  · have part : documentPart (String.ofList (text.toList ++ ['#'])) = text := by
      rw [documentPart_ofList_append, String.ofList_toList, ← whole]
    have same := characters_of_documentPart readV (written.trans String.toList_ofList.symm)
      (part.symm ▸ read) (part.symm ▸ visible)
    rwa [part] at same
  · obtain ⟨old, fronts, urls⟩ := Url.parse?_marked (mark_not_mem_documentPart text)
    have text_ : text.toList = (documentPart text).toList ++ '#' :: fragment := by
      have text_ := congrArg String.toList whole
      rwa [String.toList_ofList] at text_
    rw [text_, List.append_assoc, List.cons_append] at readV written
    obtain ⟨w, here, rfl⟩ := urls fragment u (whole ▸ read)
    obtain ⟨w', here', rfl⟩ := urls (fragment ++ ['#']) v readV
    obtain rfl : w = w' := Option.some.inj ((Option.mem_def.1 here).symm.trans here')
    rw [Url.characters_withFragment] at written ⊢
    obtain ⟨front, encoded⟩ :=
      append_mark_inj (fronts w here) (mark_not_mem_documentPart text) written
    -- everything in the fragment was written there as it is
    have clean : ∀ c ∈ fragment, Url.encodeInFragment c = false := fun c mem =>
      Url.clean_of_mem_fragment (encoded ▸ List.mem_append_left _ mem)
    have kept := Percent.encode_eq_self clean
    have counts : Url.counted fragment = fragment := by
      rw [← kept, Url.counted_encode]
    rw [counts, kept, front, text_]

/-- The stored form of a URL that is read again in the same way is written as it is, if it is a URL that
    ends visibly. -/
theorem characters_of_rereadsAlike {text : String} {u v : Url} (rereads : RereadsAlike text)
    (read : Url.parse? (String.ofList (stripMark text.toList)) = some v)
    (again : Url.parse? (normalizeId text) = some u)
    (visible : Url.EndsVisibly (normalizeId text).toList) :
    u.characters = (normalizeId text).toList := by
  obtain ⟨w, readW, written⟩ := rereads v read
  have written := congrArg String.toList written
  rw [Url.text, Url.text, String.toList_ofList, String.toList_ofList] at written
  have own := congrArg String.toList (normalizeId_of_parse? read)
  rw [String.toList_ofList] at own
  rcases stripMark_cases v.characters with ⟨-, kept⟩ | marked
  · -- the stored form is the written form
    rw [kept] at own
    have same : normalizeId text = v.text := by
      rw [Url.text, ← own, String.ofList_toList]
    rw [same, readW] at again
    cases again
    rw [written, own]
  · rw [← own] at marked
    have text_ : v.text = String.ofList ((normalizeId text).toList ++ ['#']) := by
      rw [Url.text, marked]
    exact characters_of_mark (text_ ▸ readW) (written.trans marked) again visible

/-- A stored form is that of itself exactly if it has no mark at its end, and no blank if it is a
    URL. -/
theorem normalizeId_normalizeId_iff {text : String} (rereads : RereadsAlike text) :
    normalizeId (normalizeId text) = normalizeId text ↔ IsFinal (normalizeId text) := by
  constructor
  · intro same
    have unmarked : (normalizeId text).toList.getLast? ≠ some '#' :=
      fun marked => normalizeId_ne_of_mark marked same
    refine ⟨unmarked, fun parses => ?_⟩
    obtain ⟨u, read⟩ := Option.isSome_iff_exists.1 parses
    rw [← (characters_of_normalizeId read unmarked).1 same]
    exact Url.endsVisibly_characters read
  · rintro ⟨unmarked, visible⟩
    cases again : Url.parse? (normalizeId text) with
    | none => exact normalizeId_of_parse?_eq_none again unmarked
    | some u =>
      rw [characters_of_normalizeId again unmarked]
      cases read : Url.parse? (String.ofList (stripMark text.toList)) with
      | none =>
        rw [normalizeId_of_not_parse? read, read] at again
        cases again
      | some v =>
        exact characters_of_rereadsAlike rereads read again (visible (Option.isSome_of_eq_some again))

/-- A text of which the document part is written as it is, is a URL if the document part is one. -/
theorem isSome_parse?_of_documentPart {text : String} {u : Url}
    (read : Url.parse? (documentPart text) = some u)
    (written : u.characters = (documentPart text).toList) : (Url.parse? text).isSome = true := by
  have clean := mark_not_mem_documentPart text
  have visible : Url.EndsVisibly (documentPart text).toList :=
    written ▸ Url.endsVisibly_characters read
  rcases documentPart_cases text with whole | ⟨fragment, whole⟩
  · rw [whole, read]
    rfl
  · have extends_ := Url.parse?_extends clean visible fragment
    rw [← whole, read] at extends_
    rcases extends_ with parses | ⟨-, marked, bare⟩
    · rw [parses]
      rfl
    · -- a user mark of which nothing is written
      obtain ⟨-, -, none⟩ := Url.parse?_isClean clean read
      rw [Url.characters_eq_front none] at written
      exact absurd (written ▸ marked) (bare u rfl)

/-- The document part of a stored form is a stored form exactly if it is no URL, or ends visibly and
    the whole is a URL, too. -/
theorem normalizeId_documentPart_iff {text : String} (rereads : RereadsAlike text) :
    normalizeId (documentPart (normalizeId text)) = documentPart (normalizeId text) ↔
      IsFinalPart (normalizeId text) := by
  have unmarked : (documentPart (normalizeId text)).toList.getLast? ≠ some '#' :=
    fun last => mark_not_mem_documentPart (normalizeId text) (List.mem_of_getLast? last)
  cases readD : Url.parse? (documentPart (normalizeId text)) with
  | none =>
    refine iff_of_true (normalizeId_of_parse?_eq_none readD unmarked) fun parses => ?_
    rw [readD] at parses
    cases parses
  | some u =>
    rw [characters_of_normalizeId readD unmarked]
    constructor
    · intro same _
      exact ⟨same ▸ Url.endsVisibly_characters readD, isSome_parse?_of_documentPart readD same⟩
    · intro final
      obtain ⟨visible, parses⟩ := final (Option.isSome_of_eq_some readD)
      cases read : Url.parse? (String.ofList (stripMark text.toList)) with
      | none =>
        rw [normalizeId_of_not_parse? read, read] at parses
        cases parses
      | some v =>
        obtain ⟨w, readW, written⟩ := rereads v read
        have part : documentPart v.text = documentPart (normalizeId text) := by
          rw [normalizeId_of_parse? read, documentPart_stripMark, Url.text]
        rw [← part] at readD visible ⊢
        refine characters_of_documentPart readW ?_ readD visible
        rw [← written, Url.text, String.toList_ofList]

/-! ## Resolved references -/

/-- The text of which the stored form is what a reference denotes. -/
def resolvedText (base reference : String) : String :=
  match Url.parse? reference with
  | some url => url.text
  | none =>
    match (Url.parse? base).bind (·.join? reference) with
    | some url => url.text
    | none => joinText base reference

theorem resolveUrl_eq (base reference : String) :
    resolveUrl base reference = normalizeId (resolvedText base reference) := by
  unfold resolveUrl resolvedText
  cases Url.parse? reference with
  | some url => rfl
  | none => cases (Url.parse? base).bind (·.join? reference) <;> rfl

/-! ## Names -/

namespace Registry

theorem schemaId_of_member {document : Value} {raw : String}
    (own : document.member? "$id" = some (.string raw)) :
    document.schemaId = .ok (normalizeId raw) := by
  cases document with
  | object members =>
    have found : Members.get? members "$id" = some (.string raw) := own
    rw [Value.schemaId, found]
  | _ => cases own

/-- The stored form of an identifier, and what a reference denotes, are not changed when they are stored
    again, unless they have a mark at their end, or a blank though they are URLs. The same is so of the
    document part of what a reference denotes, unless it is a URL and ends with a blank, or the whole
    is none. After any operations, a document that is taken in under its identifier is listed under
    the stored form of that by its identifier, and under the stored form of this by its name; this is
    one name if it is not changed. And a document that a reference lacks is found where the reference
    looks for it when it was taken in under the name that the error gives, if that is not changed. -/
theorem run_stores (options : Options) (operations : List Operation) :
    (∀ text, RereadsAlike text →
      (normalizeId (normalizeId text) = normalizeId text ↔ IsFinal (normalizeId text))) ∧
    (∀ base reference, RereadsAlike (resolvedText base reference) →
      let target := resolveUrl base reference
      (normalizeId target = target ↔ IsFinal target) ∧
        (normalizeId (documentPart target) = documentPart target ↔ IsFinalPart target)) ∧
    let r := (create options).run operations
    (∀ document add entry r', addSchemaWith document add r = .ok entry r' → add.key = none →
      ∀ raw, document.value.member? "$id" = some (.string raw) → RereadsAlike raw →
        let id := normalizeId raw
        (id ≠ "" → r.knowsDocument document = false → r'.store.refs.find? id = some entry) ∧
          (normalizeId id ≠ "" → r'.store.schemas.find? (normalizeId id) = some entry) ∧
          (IsFinal id → id ≠ "" → r'.store.schemas.find? id = some entry)) ∧
    ∀ source base reference c c' absolute wanted,
      Compiler.resolve source base reference c = .error (.missing absolute wanted) c' →
      RereadsAlike (resolvedText base reference) → IsFinalPart absolute → wanted ≠ "" →
      ∀ document entry r', addSchema document (some wanted) r = .ok entry r' →
        r'.store.lookup (documentPart absolute) = some entry := by
  refine ⟨fun text rereads => normalizeId_normalizeId_iff rereads, fun base reference rereads => ?_, ?_⟩
  · rw [resolveUrl_eq]
    exact ⟨normalizeId_normalizeId_iff rereads, normalizeId_documentPart_iff rereads⟩
  intro r
  have good : r.Good fun _ _ => True := reached_good options operations
  constructor
  · intro document add entry r' ok named raw own rereads id
    obtain ⟨id', hid, schemas, refs⟩ := ((addSchemaWith_tables good document add).of_ok ok).2
    obtain rfl : id = id' := Except.ok.inj ((schemaId_of_member own).symm.trans hid)
    rw [named, Option.getD_none] at schemas
    simp only [String.isEmpty_iff] at schemas
    have name : normalizeId id ≠ "" → r'.store.schemas.find? (normalizeId id) = some entry := by
      intro nonempty
      rw [schemas, if_neg nonempty, Bindings.find?_bind, if_pos rfl]
    refine ⟨fun nonempty new => ?_, name, fun final nonempty => ?_⟩
    · rw [refs, new, if_pos (by simpa using nonempty), Bindings.find?_bind, if_pos rfl]
    · have same : normalizeId id = id := (normalizeId_normalizeId_iff rereads).2 final
      rw [same] at name
      exact name nonempty
  · intro source base reference c c' absolute wanted failed rereads final nonempty document entry r' ok
    cases Compiler.resolve_misses source base reference c _ c' failed
    obtain ⟨_, -, found, -⟩ := ((addSchemaWith_named good document _).of_ok ok).2
    have same : normalizeId (documentPart (resolveUrl base reference)) =
        documentPart (resolveUrl base reference) := by
      rw [resolveUrl_eq] at final ⊢
      exact (normalizeId_documentPart_iff rereads).2 final
    rw [Option.getD_some, same] at found
    exact found nonempty

/-- A text of which the URL is written, and written again, in the same way. -/
theorem rereadsAlike_of_map {text : String} (written : String)
    (read : (Url.parse? (String.ofList (stripMark text.toList))).map Url.text = some written)
    (again : (Url.parse? written).map Url.text = some written) : RereadsAlike text := by
  intro u own
  rw [own] at read
  obtain rfl : u.text = written := Option.some.inj read
  exact Option.map_eq_some_iff.1 again

/-- A document with a URL as its identifier. -/
def located : Document := ⟨.object [("$id", .string "A:b#")], .given 0⟩

/-- A URL is listed under the same name as an identifier and as a name, and a document that was lacking
    is found under the name that the error gave. -/
theorem run_stores_located :
    let r := (create { installMeta := false }).run []
    normalizeId (normalizeId "A:b#") = normalizeId "A:b#" ∧
      (∃ entry r', addSchemaWith located {} r = .ok entry r' ∧
        r'.store.schemas.find? (normalizeId "A:b#") = some entry) ∧
      ∃ entry r', addSchema located (some "c:d") r = .ok entry r' ∧
        r'.store.lookup (documentPart (resolveUrl "" "c:d#e")) = some entry := by
  intro r
  obtain ⟨fixed, resolved, named, lacking⟩ := run_stores { installMeta := false } []
  have rereads : RereadsAlike "A:b#" :=
    rereadsAlike_of_map "a:b" (by decide +kernel) (by decide +kernel)
  have written : normalizeId "A:b#" = "a:b" := by decide +kernel
  have final : IsFinal (normalizeId "A:b#") := by
    rw [written]
    exact ⟨by decide, fun _ c last => by cases last; decide⟩
  refine ⟨(fixed _ rereads).2 final, ?_, ?_⟩
  · obtain ⟨r', ok⟩ : ∃ r', addSchemaWith located {} r = .ok ⟨0⟩ r' :=
      RegistryM.exists_ok_of_run'_eq (by decide +kernel)
    have listed := named located {} ⟨0⟩ r' ok rfl "A:b#" rfl rereads
    exact ⟨⟨0⟩, r', ok, listed.2.2 final (by rw [written]; decide)⟩
  · obtain ⟨r', ok⟩ : ∃ r', addSchema located (some "c:d") r = .ok ⟨0⟩ r' :=
      RegistryM.exists_ok_of_run'_eq (by decide +kernel)
    have target : resolveUrl "" "c:d#e" = "c:d#e" := by decide +kernel
    have part : documentPart "c:d#e" = "c:d" := by decide
    have missing : ∃ c', Compiler.resolve ⟨0⟩ "" "c:d#e" { store := {} } =
        .error (.missing (resolveUrl "" "c:d#e") (documentPart (resolveUrl "" "c:d#e"))) c' :=
      ⟨_, rfl⟩
    obtain ⟨c', missing⟩ := missing
    have rereads : RereadsAlike (resolvedText "" "c:d#e") :=
      rereadsAlike_of_map "c:d#e" (by decide +kernel) (by decide +kernel)
    have final : IsFinalPart (resolveUrl "" "c:d#e") := by
      rw [target, IsFinalPart, part]
      exact fun _ => ⟨fun c last => by cases last; decide, by decide +kernel⟩
    refine ⟨⟨0⟩, r', ok, ?_⟩
    refine lacking _ _ _ _ _ _ _ missing rereads final ?_ located ⟨0⟩ r' ?_
    · rw [target, part]
      decide
    · rw [target, part]
      exact ok

/-- A document whose identifier ends with two marks. -/
def twiceMarked : Document := ⟨.object [("$id", .string "A##")], .given 0⟩

/-- One mark is left out each time that such an identifier is stored. So the document is listed under
    one text by its identifier, and under another one by its name. -/
theorem stores_twice : normalizeId "A##" = "A#" ∧ normalizeId (normalizeId "A##") = "A" ∧
    let s := ((addSchemaWith twiceMarked {}).after (create { installMeta := false })).store
    s.refs = [("A#", ⟨0⟩)] ∧ s.schemas = [("A", ⟨0⟩)] := by
  decide +kernel

/-- The document part of what a reference denotes may lose a blank at its end, or a user mark that
    stands alone. -/
theorem resolves_anew :
    ([("", "a:b #c"), ("", "a://@#c")].map fun (base, reference) =>
      let part := documentPart (resolveUrl base reference)
      (part, normalizeId part)) = [("a:b ", "a:b"), ("a://@", "a://")] := by
  decide +kernel

end Registry

end JsonSchema
