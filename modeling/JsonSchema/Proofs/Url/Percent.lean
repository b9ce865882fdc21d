import JsonSchema.Proofs.Url.Fragments

/-!
# Percent-encoded texts

A text is read back from its percent-encoded form, whichever characters were encoded: the triplets
of a character are its bytes, and bytes that stand together are read as one text.

* `Utf8.decode?_encode`: a text is read back from its bytes.
* `Percent.decode?_encode`: a text without percent signs is read back from its encoded form.
* `Percent.encode_eq_self`, `Url.counted_encode`: what is encoded is kept as it is.
-/

namespace JsonSchema

namespace Utf8

/-- The bytes of a character, as numbers. -/
theorem encodeChar_eq (c : Char) : encodeChar c =
    if c.toNat ≤ 0x7F then [c.toNat]
    else if c.toNat ≤ 0x7FF then [c.toNat / 64 + 0xC0, c.toNat % 64 + 0x80]
    else if c.toNat ≤ 0xFFFF then
      [c.toNat / 4096 + 0xE0, c.toNat / 64 % 64 + 0x80, c.toNat % 64 + 0x80]
    else [c.toNat / 262144 + 0xF0, c.toNat / 4096 % 64 + 0x80, c.toNat / 64 % 64 + 0x80,
      c.toNat % 64 + 0x80] := by
  have bound : c.toNat < 0x110000 := by
    rcases c.valid with low | ⟨-, high⟩
    · exact Nat.lt_trans low (by decide)
    · exact high
  unfold encodeChar String.utf8EncodeChar
  rw [show c.val.toNat = c.toNat from rfl]
  dsimp only
  split
  · simp only [List.map_cons, List.map_nil, UInt8.toNat_ofNat', List.cons.injEq, and_true]
    omega
  · split
    · simp only [List.map_cons, List.map_nil, UInt8.toNat_ofNat', List.cons.injEq, and_true]
      omega
    · split
      · simp only [List.map_cons, List.map_nil, UInt8.toNat_ofNat', List.cons.injEq, and_true]
        omega
      · simp only [List.map_cons, List.map_nil, UInt8.toNat_ofNat', List.cons.injEq, and_true]
        omega

theorem isContinuation_add (n : Nat) : isContinuation (n % 64 + 0x80) = true := by
  rw [isContinuation, decide_eq_true (by omega), decide_eq_true (by omega)]
  rfl

/-- A character in front is read back from its bytes. -/
theorem decode?_encodeChar_append (c : Char) (bytes : List Nat) :
    decode? (encodeChar c ++ bytes) = (decode? bytes).map (c :: ·) := by
  have bound : c.toNat < 0xD800 ∨ 0xDFFF < c.toNat ∧ c.toNat < 0x110000 := c.valid
  have same {n : Nat} (h : n = c.toNat) : Char.ofNat n = c := by rw [h, Char.ofNat_toNat]
  rw [encodeChar_eq]
  split
  case isTrue one =>
    rw [List.singleton_append, decode?.eq_def]
    dsimp only
    rw [if_pos (by omega), same rfl]
  case isFalse one =>
    split
    case isTrue two =>
      rw [List.cons_append, List.singleton_append, decode?.eq_def]
      dsimp only
      rw [if_neg (by omega), if_pos ⟨by omega, by omega, isContinuation_add _⟩, same (by omega)]
    case isFalse two =>
      split
      case isTrue three =>
        have value : (c.toNat / 4096 + 0xE0 - 0xE0) * 4096 + (c.toNat / 64 % 64 + 0x80 - 0x80) * 64 +
            (c.toNat % 64 + 0x80 - 0x80) = c.toNat := by omega
        rw [List.cons_append, List.cons_append, List.singleton_append, decode?.eq_def]
        dsimp only
        rw [if_neg (by omega), if_neg (by omega), value,
          if_pos ⟨by omega, by omega, isContinuation_add _, isContinuation_add _, by omega, by omega⟩,
          same rfl]
      case isFalse three =>
        have value : (c.toNat / 262144 + 0xF0 - 0xF0) * 262144 +
            (c.toNat / 4096 % 64 + 0x80 - 0x80) * 4096 + (c.toNat / 64 % 64 + 0x80 - 0x80) * 64 +
            (c.toNat % 64 + 0x80 - 0x80) = c.toNat := by omega
        rw [List.cons_append, List.cons_append, List.cons_append, List.singleton_append,
          decode?.eq_def]
        dsimp only
        rw [if_neg (by omega), if_neg (by omega), if_neg (by omega), value,
          if_pos ⟨by omega, isContinuation_add _, isContinuation_add _, isContinuation_add _,
            by omega, by omega⟩, same rfl]

/-- A text is read back from its bytes. -/
theorem decode?_encode (cs : List Char) : decode? (encode cs) = some cs := by
  induction cs with
  | nil => rfl
  | cons c rest ih =>
    rw [encode, List.flatMap_cons, decode?_encodeChar_append]
    exact congrArg (Option.map (c :: ·)) ih

theorem encode_append (cs ds : List Char) : encode (cs ++ ds) = encode cs ++ encode ds :=
  List.flatMap_append

theorem lt_of_mem_encodeChar {c : Char} {b : Nat} (mem : b ∈ encodeChar c) : b < 256 := by
  obtain ⟨byte, -, rfl⟩ := List.mem_map.1 mem
  exact byte.toNat_lt

end Utf8

namespace Percent

/-! ## Decoding -/

theorem byte?_hexDigit {b : Nat} (small : b < 256) :
    byte? (hexDigit (b / 16)) (hexDigit (b % 16)) = some b := by
  have digit : ∀ d < 16, hexValue? (hexDigit d) = some d := by decide
  rw [byte?, digit _ (by omega), digit _ (by omega)]
  exact congrArg some (by omega)

/-- Triplets are read as bytes. -/
theorem decodeFrom_encodeByte {bytes : List Nat} (small : ∀ b ∈ bytes, b < 256) (run : List Nat)
    (rest : List Char) :
    decodeFrom run (bytes.flatMap encodeByte ++ rest) = decodeFrom (bytes.reverse ++ run) rest := by
  induction bytes generalizing run with
  | nil => rfl
  | cons b bytes ih =>
    have first := byte?_hexDigit (small b List.mem_cons_self)
    have others := ih (fun b mem => small b (List.mem_cons_of_mem _ mem)) (b :: run)
    rw [List.flatMap_cons, List.append_assoc, encodeByte]
    simp only [List.cons_append, List.nil_append, decodeFrom, first]
    rw [others, List.reverse_cons, List.append_assoc, List.singleton_append]

/-- Behind the triplets of a text, the encoded form of another one without percent signs is read
    as both. -/
theorem decodeFrom_encode (mustEncode : Char → Bool) {cs : List Char} (plain : '%' ∉ cs)
    (before : List Char) :
    decodeFrom (Utf8.encode before).reverse (encode mustEncode cs) = some (before ++ cs) := by
  induction cs generalizing before with
  | nil =>
    rw [encode, List.flatMap_nil, decodeFrom, List.reverse_reverse, Utf8.decode?_encode,
      List.append_nil]
  | cons c rest ih =>
    have head : c ≠ '%' := fun same => plain (same ▸ List.mem_cons_self)
    have tail : '%' ∉ rest := fun mem => plain (List.mem_cons_of_mem _ mem)
    rw [encode, List.flatMap_cons]
    split
    · -- the bytes of the character join those before it
      have bytes : (Utf8.encodeChar c).reverse ++ (Utf8.encode before).reverse =
          (Utf8.encode (before ++ [c])).reverse := by
        rw [Utf8.encode_append, List.reverse_append]
        exact congrArg (List.reverse · ++ _) (List.append_nil _).symm
      rw [decodeFrom_encodeByte fun b mem => Utf8.lt_of_mem_encodeChar mem, bytes]
      have read := ih tail (before ++ [c])
      rwa [List.append_assoc] at read
    · have read := ih tail []
      rw [List.singleton_append, decodeFrom, List.reverse_reverse, Utf8.decode?_encode]
      · show (do let after ← decodeFrom [] (encode mustEncode rest); some (before ++ c :: after)) = _
        rw [show decodeFrom [] (encode mustEncode rest) = some rest from read]
        rfl
      · exact fun _ _ _ same => absurd same head

/-- A text without percent signs is read back from its encoded form. -/
theorem decode?_encode (mustEncode : Char → Bool) {cs : List Char} (plain : '%' ∉ cs) :
    decode? (encode mustEncode cs) = some cs :=
  decodeFrom_encode mustEncode plain []

/-! ## Encoding twice -/

theorem encode_eq_self {mustEncode : Char → Bool} {cs : List Char}
    (clean : ∀ c ∈ cs, mustEncode c = false) : encode mustEncode cs = cs := by
  induction cs with
  | nil => rfl
  | cons c rest ih =>
    have head := clean c List.mem_cons_self
    have tail := ih fun c mem => clean c (List.mem_cons_of_mem _ mem)
    rw [encode, List.flatMap_cons, if_neg (by rw [head]; exact Bool.false_ne_true)]
    exact congrArg (c :: ·) tail

/-- Nothing in an encoded text has to be encoded, unless this is so of the triplets. -/
theorem clean_of_mem_encode {mustEncode : Char → Bool} (mark : mustEncode '%' = false)
    (digits : ∀ d < 16, mustEncode (hexDigit d) = false) {cs : List Char} {c : Char}
    (mem : c ∈ encode mustEncode cs) : mustEncode c = false := by
  obtain ⟨d, -, mem⟩ := List.mem_flatMap.1 mem
  split at mem
  · obtain ⟨b, memB, mem⟩ := List.mem_flatMap.1 mem
    have small := Utf8.lt_of_mem_encodeChar memB
    rcases List.mem_cons.1 mem with rfl | mem
    · exact mark
    · rcases List.mem_cons.1 mem with rfl | mem
      · exact digits _ (by omega)
      · rw [List.mem_singleton.1 mem]
        exact digits _ (by omega)
  · next kept =>
    rw [List.mem_singleton.1 mem]
    exact Bool.eq_false_iff.2 kept

/-! ## Ends -/

/-- The last character of an encoded text, if it is no digit, is that of the text. -/
theorem getLast?_of_encode {mustEncode : Char → Bool} {c : Char}
    (digits : ∀ d < 16, hexDigit d ≠ c) {cs : List Char}
    (last : (encode mustEncode cs).getLast? = some c) : cs.getLast? = some c := by
  rcases List.eq_nil_or_concat cs with rfl | ⟨init, d, rfl⟩
  · cases last
  · rw [List.concat_eq_append, encode, List.flatMap_append, List.flatMap_singleton] at last
    rw [List.concat_eq_append, List.getLast?_append, List.getLast?_singleton]
    split at last
    · -- a triplet ends with a digit
      obtain ⟨b, bytes, shape⟩ : ∃ b bytes, Utf8.encodeChar d = bytes ++ [b] := by
        rcases List.eq_nil_or_concat (Utf8.encodeChar d) with none | ⟨bytes, b, shape⟩
        · rw [Utf8.encodeChar_eq] at none
          split_ifs at none
        · exact ⟨b, bytes, shape.trans (List.concat_eq_append ..)⟩
      have small := Utf8.lt_of_mem_encodeChar (c := d) (b := b) (by simp [shape])
      rw [shape, List.flatMap_append, List.flatMap_singleton, encodeByte] at last
      simp only [List.getLast?_append, List.getLast?_cons_cons, List.getLast?_singleton,
        Option.some_or, Option.some.injEq] at last
      exact absurd last (digits _ (by omega))
    · rw [List.getLast?_append, List.getLast?_singleton] at last
      exact last

theorem encode_eq_nil {mustEncode : Char → Bool} {cs : List Char}
    (empty : encode mustEncode cs = []) : cs = [] := by
  cases cs with
  | nil => rfl
  | cons c rest =>
    rw [encode, List.flatMap_cons, List.append_eq_nil_iff] at empty
    have head := empty.1
    rw [Utf8.encodeChar_eq] at head
    split_ifs at head <;> cases head

end Percent

namespace Url

/-- Nothing in a fragment has to be encoded. -/
theorem clean_of_mem_fragment {cs : List Char} {c : Char}
    (mem : c ∈ Percent.encode encodeInFragment cs) : encodeInFragment c = false :=
  Percent.clean_of_mem_encode (by decide) (by decide) mem

/-- Everything counts of a fragment that is encoded. -/
theorem counted_encode (cs : List Char) :
    counted (Percent.encode encodeInFragment cs) = Percent.encode encodeInFragment cs := by
  have visible : ∀ c ∈ Percent.encode encodeInFragment cs, ¬ c.toNat ≤ 0x20 := by
    intro c mem low
    have blanks : ∀ n ≤ 0x20, encodeInFragment (Char.ofNat n) = true := by decide
    have blank := blanks _ low
    rw [Char.ofNat_toNat, clean_of_mem_fragment mem] at blank
    cases blank
  refine counted_eq_self (fun c last => visible c (List.mem_of_getLast? last)) fun c mem => ?_
  have high := visible c mem
  refine ⟨?_, ?_, ?_⟩ <;>
  · rintro rfl
    exact high (by decide)

end Url

end JsonSchema
