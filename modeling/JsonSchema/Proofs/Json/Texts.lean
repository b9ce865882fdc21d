import JsonSchema.Json.Reader
import JsonSchema.Json.Writer
import JsonSchema.Proofs.Json.Numbers

/-!
# Texts of values

Where a text ends can be seen in the text: a string at the first quote that is not escaped, an array
or an object at its bracket, a number at the first character that is not in numbers. So of one text
there is one value, also where something else stands behind it.

* `Json.stringBody?_escaped`: an escaped string is read back.
* `Value.text_split`: a value and what stands behind it are told from the text of both.
* `Value.text_injective`: a text is the text of one value only.
-/

namespace JsonSchema

namespace Json

/-! ## Strings -/

theorem hexDigit?_digitChar : ∀ d < 16, hexDigit? (Nat.digitChar d) = some d := by decide

/-- The escape of a control character is read back. -/
theorem escaped?_control {c : Char} (control : c.toNat < 0x20) (rest : List Char) :
    escaped? ('u' :: '0' :: '0' :: Nat.digitChar (c.toNat / 16) ::
        Nat.digitChar (c.toNat % 16) :: rest) = some (c, rest) := by
  have zero : hexDigit? '0' = some 0 := by decide
  have high := hexDigit?_digitChar (c.toNat / 16) (by omega)
  have low := hexDigit?_digitChar (c.toNat % 16) (by omega)
  have quad : hexQuad? ('0' :: '0' :: Nat.digitChar (c.toNat / 16) ::
      Nat.digitChar (c.toNat % 16) :: rest) = some (c.toNat, rest) := by
    simp only [hexQuad?, zero, high, low, bind, pure, Option.bind_some]
    rw [show ((0 * 16 + 0) * 16 + c.toNat / 16) * 16 + c.toNat % 16 = c.toNat by omega]
  simp only [escaped?, quad, bind, Option.bind_some]
  rw [if_neg (by omega), if_neg (by omega), Char.ofNat_toNat]

/-- A character is read back from its escape, in one step. -/
theorem stringBody?_escape (fuel : ℕ) (acc : List Char) (c : Char) (rest : List Char) :
    stringBody? (fuel + 1) acc (escape c ++ rest) = stringBody? fuel (c :: acc) rest := by
  unfold escape
  split
  case h_8 quote backslash _ _ _ _ _ =>
    split
    · next control =>
      simp only [List.cons_append, List.nil_append, stringBody?, escaped?_control control]
      rfl
    · next visible =>
      simp only [List.cons_append, List.nil_append, stringBody?]
      rw [if_neg quote, if_neg backslash, if_neg visible]
  all_goals rfl

/-- An escaped string is read back. -/
theorem stringBody?_escaped (text acc rest : List Char) {fuel : ℕ} (enough : text.length < fuel) :
    stringBody? fuel acc (text.flatMap escape ++ '"' :: rest) =
      some (String.ofList (acc.reverse ++ text), rest) := by
  induction text generalizing acc fuel with
  | nil =>
    obtain ⟨fuel, rfl⟩ := Nat.exists_eq_add_of_lt enough
    simp [stringBody?]
  | cons c text ih =>
    obtain ⟨fuel, rfl⟩ := Nat.exists_eq_add_of_lt enough
    have enough' : text.length < text.length + 1 + fuel := by omega
    rw [List.flatMap_cons, List.append_assoc, List.length_cons, stringBody?_escape,
      ih (c :: acc) enough']
    simp

/-- A string ends at the first quote that is not escaped. -/
theorem quoted_split {s t : String} {rest rest' : List Char}
    (same : (quoted s).toList ++ rest = (quoted t).toList ++ rest') : s = t ∧ rest = rest' := by
  have bodies : s.toList.flatMap escape ++ '"' :: rest = t.toList.flatMap escape ++ '"' :: rest' := by
    simpa [quoted] using same
  have left := stringBody?_escaped s.toList [] rest
    (Nat.lt_succ_of_le (Nat.le_add_right s.toList.length t.toList.length))
  have right := stringBody?_escaped t.toList [] rest'
    (Nat.lt_succ_of_le (Nat.le_add_left t.toList.length s.toList.length))
  rw [bodies, right] at left
  simpa [eq_comm] using left

end Json

namespace Value

/-! ## Arrays and objects -/

/-- What the text of an array goes on with behind an item. -/
def itemsTail : List Value → List Char
  | [] => [']']
  | item :: rest => ',' :: (item.text.toList ++ itemsTail rest)

/-- What the text of an object goes on with behind a member. -/
def membersTail : List (String × Value) → List Char
  | [] => ['\x7d']
  | (name, value) :: rest =>
    ',' :: ((Json.quoted name).toList ++ ':' :: (value.text.toList ++ membersTail rest))

theorem itemsText_cons (item : Value) (rest : List Value) :
    (itemsText (item :: rest)).toList ++ [']'] = item.text.toList ++ itemsTail rest := by
  induction rest generalizing item with
  | nil => simp [itemsText, itemsTail]
  | cons next rest ih => simp [itemsText, itemsTail, ← ih next]

theorem membersText_cons (name : String) (value : Value) (rest : List (String × Value)) :
    (membersText ((name, value) :: rest)).toList ++ ['\x7d'] =
      (Json.quoted name).toList ++ ':' :: (value.text.toList ++ membersTail rest) := by
  induction rest generalizing name value with
  | nil => simp [membersText, membersTail]
  | cons next rest ih => simp [membersText, membersTail, ← ih next.1 next.2]

/-- The text of an array behind its bracket. -/
def itemsBody : List Value → List Char
  | [] => [']']
  | item :: rest => item.text.toList ++ itemsTail rest

/-- The text of an object behind its brace. -/
def membersBody : List (String × Value) → List Char
  | [] => ['\x7d']
  | (name, value) :: rest =>
    (Json.quoted name).toList ++ ':' :: (value.text.toList ++ membersTail rest)

theorem array_text (items : List Value) : (array items).text.toList = '[' :: itemsBody items := by
  cases items with
  | nil => simp [text, itemsText, itemsBody]
  | cons item rest => simp [text, itemsBody, ← itemsText_cons]

theorem object_text (members : Members) :
    (object members).text.toList = '\x7b' :: membersBody members := by
  cases members with
  | nil => simp [text, membersText, membersBody]
  | cons member rest => simp [text, membersBody, ← membersText_cons]

/-- The first character of a text tells what kind of value it is of. -/
def Begins : Value → Char → Prop
  | .null, c => c = 'n'
  | .bool true, c => c = 't'
  | .bool false, c => c = 'f'
  | .number _, c => Json.isNumeric c = true
  | .string _, c => c = '"'
  | .array _, c => c = '['
  | .object _, c => c = '\x7b'

theorem begins_text (v : Value) : ∃ c rest, v.text.toList = c :: rest ∧ v.Begins c := by
  cases v with
  | null => exact ⟨'n', ['u', 'l', 'l'], by simp [text], rfl⟩
  | bool b =>
    cases b with
    | true => exact ⟨'t', ['r', 'u', 'e'], by simp [text], rfl⟩
    | false => exact ⟨'f', ['a', 'l', 's', 'e'], by simp [text], rfl⟩
  | number n =>
    obtain ⟨some_, numeric⟩ := n.text_numeric
    obtain ⟨c, rest, same⟩ := List.exists_cons_of_ne_nil some_
    exact ⟨c, rest, by rw [text, same], numeric c (same ▸ List.mem_cons_self)⟩
  | string s => exact ⟨_, _, by rw [text, Json.quoted, String.toList_ofList], rfl⟩
  | array items => exact ⟨_, _, array_text items, rfl⟩
  | object members => exact ⟨_, _, object_text members, rfl⟩

/-- Where the texts of two values begin one text, their first characters are the same. -/
theorem begins_of_append {a b : Value} {rest rest' : List Char}
    (same : a.text.toList ++ rest = b.text.toList ++ rest') : ∃ c, a.Begins c ∧ b.Begins c := by
  obtain ⟨c, cs, first, begins⟩ := a.begins_text
  obtain ⟨c', cs', first', begins'⟩ := b.begins_text
  rw [first, first'] at same
  obtain ⟨rfl, -⟩ := List.cons.inj same
  exact ⟨c, begins, begins'⟩

/-- Values of one kind; of two truth values, the same. -/
def Alike : Value → Value → Prop
  | .null, b => b = .null
  | .bool a, b => b = .bool a
  | .number _, b => ∃ n, b = .number n
  | .string _, b => ∃ s, b = .string s
  | .array _, b => ∃ items, b = .array items
  | .object _, b => ∃ members, b = .object members

/-- Values whose texts begin in the same way are of one kind. -/
theorem alike_of_begins {a b : Value} {c : Char} (begins : a.Begins c) (begins' : b.Begins c) :
    a.Alike b := by
  have numeric : Json.isNumeric 'n' = false ∧ Json.isNumeric 't' = false ∧
      Json.isNumeric 'f' = false ∧ Json.isNumeric '"' = false ∧ Json.isNumeric '[' = false ∧
        Json.isNumeric '\x7b' = false := by decide
  rcases a with _ | ⟨_ | _⟩ | _ | _ | _ | _ <;> rcases b with _ | ⟨_ | _⟩ | _ | _ | _ | _ <;>
    simp_all [Begins, Alike]

/-- A value does not begin with a closing bracket. -/
theorem append_ne_bracket (v : Value) (rest rest' : List Char) :
    v.text.toList ++ rest ≠ ']' :: rest' := by
  intro same
  obtain ⟨c, cs, first, begins⟩ := v.begins_text
  rw [first] at same
  obtain ⟨rfl, -⟩ := List.cons.inj same
  cases v with
  | bool b => cases b <;> cases begins
  | number n =>
    have closes : Json.isNumeric ']' = true := begins
    exact absurd closes (by decide)
  | null | string _ | array _ | object _ => cases begins

/-! ## Reading in one way -/

/-- What stands behind a value does not go on with a number. -/
def Apart (rest : List Char) : Prop := ∀ c ∈ rest.head?, Json.isNumeric c = false

theorem apart_itemsTail (items : List Value) (rest : List Char) : Apart (itemsTail items ++ rest) := by
  intro c first
  cases items <;> cases first <;> rfl

theorem apart_membersTail (members : List (String × Value)) (rest : List Char) :
    Apart (membersTail members ++ rest) := by
  intro c first
  cases members <;> cases first <;> rfl

/-- A value and what stands behind it are told from the text of both. -/
def Legible (a : Value) : Prop :=
  ∀ ⦃b : Value⦄ ⦃rest rest' : List Char⦄, Apart rest → Apart rest' →
    a.text.toList ++ rest = b.text.toList ++ rest' → a = b ∧ rest = rest'

/-- A number ends where something else begins. -/
theorem number_split {m n : Number} {rest rest' : List Char} (apart : Apart rest)
    (apart' : Apart rest') (same : m.text.toList ++ rest = n.text.toList ++ rest') :
    m = n ∧ rest = rest' := by
  have span (n : Number) (rest : List Char) (apart : Apart rest) :
      (n.text.toList ++ rest).takeWhile Json.isNumeric = n.text.toList := by
    rw [List.takeWhile_append_of_pos n.text_numeric.2]
    cases rest with
    | nil => simp
    | cons c rest => simp [apart c rfl]
  have texts : m.text.toList = n.text.toList := by
    rw [← span m rest apart, ← span n rest' apart', same]
  refine ⟨Number.text_injective (String.toList_inj.1 texts), ?_⟩
  rw [texts] at same
  exact List.append_cancel_left same

section Items

variable {as bs : List Value} {rest rest' : List Char} (legible : ∀ a ∈ as, a.Legible)

include legible

theorem itemsTail_split (same : itemsTail as ++ rest = itemsTail bs ++ rest') :
    as = bs ∧ rest = rest' := by
  induction as generalizing bs with
  | nil =>
    cases bs with
    | nil => exact ⟨rfl, (List.cons.inj same).2⟩
    | cons b bs => cases (List.cons.inj same).1
  | cons a as ih =>
    cases bs with
    | nil => cases (List.cons.inj same).1
    | cons b bs =>
      have same := (List.cons.inj same).2
      rw [List.append_eq, List.append_eq, List.append_assoc, List.append_assoc] at same
      obtain ⟨rfl, tails⟩ := legible a List.mem_cons_self (apart_itemsTail as rest)
        (apart_itemsTail bs rest') same
      obtain ⟨rfl, rests⟩ := ih (fun a mem => legible a (List.mem_cons_of_mem _ mem)) tails
      exact ⟨rfl, rests⟩

theorem itemsBody_split (same : itemsBody as ++ rest = itemsBody bs ++ rest') :
    as = bs ∧ rest = rest' := by
  cases as with
  | nil =>
    cases bs with
    | nil => exact ⟨rfl, (List.cons.inj same).2⟩
    | cons b bs =>
      rw [itemsBody, itemsBody, List.append_assoc] at same
      exact absurd same.symm (append_ne_bracket b _ _)
  | cons a as =>
    cases bs with
    | nil =>
      rw [itemsBody, itemsBody, List.append_assoc] at same
      exact absurd same (append_ne_bracket a _ _)
    | cons b bs => exact itemsTail_split legible (congrArg (List.cons ',') same)

end Items

section Members

variable {as bs : List (String × Value)} {rest rest' : List Char}
  (legible : ∀ a ∈ as, a.2.Legible)

include legible

theorem membersTail_split (same : membersTail as ++ rest = membersTail bs ++ rest') :
    as = bs ∧ rest = rest' := by
  induction as generalizing bs with
  | nil =>
    cases bs with
    | nil => exact ⟨rfl, (List.cons.inj same).2⟩
    | cons b bs => cases (List.cons.inj same).1
  | cons a as ih =>
    cases bs with
    | nil => cases (List.cons.inj same).1
    | cons b bs =>
      obtain ⟨name, a⟩ := a
      obtain ⟨name', b⟩ := b
      have same := (List.cons.inj same).2
      simp only [List.append_eq, List.append_assoc, List.cons_append] at same
      obtain ⟨rfl, behind⟩ := Json.quoted_split same
      obtain ⟨rfl, tails⟩ := legible (name, a) List.mem_cons_self (apart_membersTail as rest)
        (apart_membersTail bs rest') (List.cons.inj behind).2
      obtain ⟨rfl, rests⟩ := ih (fun a mem => legible a (List.mem_cons_of_mem _ mem)) tails
      exact ⟨rfl, rests⟩

theorem membersBody_split (same : membersBody as ++ rest = membersBody bs ++ rest') :
    as = bs ∧ rest = rest' := by
  cases as with
  | nil =>
    cases bs with
    | nil => exact ⟨rfl, (List.cons.inj same).2⟩
    | cons b bs => simp [membersBody, Json.quoted] at same
  | cons a as =>
    cases bs with
    | nil => simp [membersBody, Json.quoted] at same
    | cons b bs => exact membersTail_split legible (congrArg (List.cons ',') same)

end Members

/-- A value and what stands behind it are told from the text of both. -/
theorem text_split (a : Value) : a.Legible := by
  intro b rest rest' apart apart' same
  obtain ⟨c, begins, begins'⟩ := begins_of_append same
  have alike := alike_of_begins begins begins'
  match a, same, alike with
  | .null, same, alike =>
    subst alike
    exact ⟨rfl, List.append_cancel_left same⟩
  | .bool a, same, alike =>
    subst alike
    exact ⟨rfl, List.append_cancel_left same⟩
  | .number m, same, alike =>
    obtain ⟨n, rfl⟩ := alike
    rw [text, text] at same
    exact (number_split apart apart' same).imp_left (congrArg number)
  | .string s, same, alike =>
    obtain ⟨t, rfl⟩ := alike
    rw [text, text] at same
    exact (Json.quoted_split same).imp_left (congrArg string)
  | .array as, same, alike =>
    obtain ⟨bs, rfl⟩ := alike
    rw [array_text, array_text] at same
    have legible : ∀ a ∈ as, a.Legible := fun a mem => text_split a
    exact (itemsBody_split legible (List.cons.inj same).2).imp_left (congrArg array)
  | .object as, same, alike =>
    obtain ⟨bs, rfl⟩ := alike
    rw [object_text, object_text] at same
    have legible : ∀ a ∈ as, a.2.Legible := fun a mem => text_split a.2
    exact (membersBody_split legible (List.cons.inj same).2).imp_left (congrArg object)
termination_by a.weight
decreasing_by
  · exact weight_lt_of_mem_items mem
  · exact weight_lt_of_mem_members mem

/-- A text is the text of one value only. -/
theorem text_injective {a b : Value} (same : a.text = b.text) : a = b := by
  have none_ : Apart [] := by simp [Apart]
  exact (text_split a none_ none_ (by rw [same])).1

end Value

end JsonSchema
