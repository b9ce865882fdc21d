import JsonSchema.Proofs.Store.Pointers

/-!
# Segments with percent signs

Escapes are put around tildes and slashes only when a pointer is put together, and percent-decoding
comes before them when it is read. So a pointer has the segments that it was put together from
exactly if none of them has a triplet, a percent sign with two hexadecimal digits behind it.

That no triplet goes unnoticed is a matter of length. A triplet that is read makes a text shorter by
two characters or more, and at most one of what it leaves is a tilde without its escape, for which
the text that is put together again has one character more.

* `Percent.HasTriplet`: a text with a triplet somewhere.
* `Percent.decode?_eq_self`: nothing is decoded without triplets.
* `Pointer.length_add_loose_le`: what is decoded is short, also with escapes for all loose tildes.
* `Pointer.length_rejoined`: the length of segments that are put together again.
* `Pointer.segments?_eq_iff`: when the segments of a pointer are those it was put together from.
-/

namespace JsonSchema

namespace Percent

/-! ## Triplets -/

/-- Whether a character is a hexadecimal digit. -/
def isHex (c : Char) : Bool := "0123456789abcdefABCDEF".toList.contains c

/-- A percent sign with two hexadecimal digits behind it stands somewhere in a text. -/
def HasTriplet (cs : List Char) : Prop :=
  ∃ before high low rest, cs = before ++ '%' :: high :: low :: rest ∧
    isHex high = true ∧ isHex low = true

/-- Whether a triplet stands at the beginning of a text. -/
def beginsTriplet : List Char → Bool
  | c :: high :: low :: _ => c == '%' && (isHex high && isHex low)
  | _ => false

/-- How many triplets there are in a text. -/
def triplets : List Char → Nat
  | [] => 0
  | c :: rest => (if beginsTriplet (c :: rest) then 1 else 0) + triplets rest

theorem isSome_hexValue? (c : Char) : (hexValue? c).isSome = isHex c := by
  have ascii : ∀ n < 0x80, (hexValue? (Char.ofNat n)).isSome = isHex (Char.ofNat n) := by
    decide +kernel
  by_cases low : c.toNat < 0x80
  · have same := ascii c.toNat low
    rwa [Char.ofNat_toNat] at same
  · have above (d : Char) (small : d.toNat < 0x80 := by decide) : ¬ c ≤ d := fun le =>
      low (Nat.lt_of_le_of_lt (UInt32.le_iff_toNat_le.1 le) small)
    have digit : isHex c = false := by
      rw [isHex, List.contains_eq_mem, decide_eq_false_iff_not]
      intro mem
      have small : ("0123456789abcdefABCDEF".toList.all (·.toNat < 0x80)) = true := by decide
      exact low (of_decide_eq_true (List.all_eq_true.1 small c mem))
    rw [digit, hexValue?, if_neg (fun h => above '9' (by decide) h.2),
      if_neg (fun h => above 'f' (by decide) h.2), if_neg (fun h => above 'F' (by decide) h.2)]
    rfl

theorem isSome_byte? (high low : Char) : (byte? high low).isSome = (isHex high && isHex low) := by
  rw [← isSome_hexValue?, ← isSome_hexValue?, byte?]
  cases hexValue? high <;> cases hexValue? low <;> rfl

theorem beginsTriplet_eq_true_iff {cs : List Char} : beginsTriplet cs = true ↔
    ∃ high low rest, cs = '%' :: high :: low :: rest ∧ isHex high = true ∧ isHex low = true := by
  constructor
  · intro begins
    unfold beginsTriplet at begins
    split at begins
    · next c high low rest =>
      rw [Bool.and_eq_true, Bool.and_eq_true, beq_iff_eq] at begins
      exact ⟨high, low, rest, by rw [begins.1], begins.2⟩
    · cases begins
  · rintro ⟨high, low, rest, rfl, digits⟩
    exact Bool.and_eq_true_iff.2 digits

theorem triplets_pos_iff {cs : List Char} : 0 < triplets cs ↔ HasTriplet cs := by
  induction cs with
  | nil =>
    refine iff_of_false (Nat.lt_irrefl 0) ?_
    rintro ⟨before, high, low, rest, text, -⟩
    cases before <;> cases text
  | cons c cs ih =>
    have split : 0 < triplets (c :: cs) ↔ beginsTriplet (c :: cs) = true ∨ 0 < triplets cs := by
      rw [triplets]
      split
      · next begins => exact iff_of_true (by omega) (.inl begins)
      · next plain => rw [Nat.zero_add, or_iff_right plain]
    rw [split, ih, beginsTriplet_eq_true_iff]
    constructor
    · rintro (⟨high, low, rest, text, digits⟩ | ⟨before, high, low, rest, rfl, digits⟩)
      · exact ⟨[], high, low, rest, text, digits⟩
      · exact ⟨c :: before, high, low, rest, rfl, digits⟩
    · rintro ⟨before, high, low, rest, text, digits⟩
      cases before with
      | nil => exact .inl ⟨high, low, rest, text, digits⟩
      | cons d before => exact .inr ⟨before, high, low, rest, (List.cons.inj text).2, digits⟩

theorem triplets_eq_zero_iff {cs : List Char} : triplets cs = 0 ↔ ¬ HasTriplet cs := by
  rw [← triplets_pos_iff, Nat.not_lt, Nat.le_zero]

theorem beginsTriplet_cons {c : Char} (other : c ≠ '%') (cs : List Char) :
    beginsTriplet (c :: cs) = false := by
  rw [Bool.eq_false_iff, Ne, beginsTriplet_eq_true_iff]
  rintro ⟨_, _, _, text, -⟩
  exact other (List.cons.inj text).1

theorem beginsTriplet_cons_cons {d : Char} (other : isHex d = false) (c : Char) (cs : List Char) :
    beginsTriplet (c :: d :: cs) = false := by
  cases cs with
  | nil => rfl
  | cons e cs => rw [beginsTriplet, other, Bool.false_and, Bool.and_false]

theorem triplets_cons {c : Char} (other : c ≠ '%') (cs : List Char) :
    triplets (c :: cs) = triplets cs := by
  rw [triplets, beginsTriplet_cons other, if_neg Bool.false_ne_true, Nat.zero_add]

theorem ne_of_isHex {c d : Char} (digit : isHex c = true) (other : isHex d = false) : c ≠ d := by
  rintro rfl
  rw [digit] at other
  cases other

/-- No triplet begins inside another one. -/
theorem triplets_triplet {high low : Char} (digits : isHex high = true ∧ isHex low = true)
    (rest : List Char) : triplets ('%' :: high :: low :: rest) = triplets rest + 1 := by
  rw [triplets, if_pos (beginsTriplet_eq_true_iff.2 ⟨high, low, rest, rfl, digits⟩),
    triplets_cons (ne_of_isHex digits.1 (by decide)),
    triplets_cons (ne_of_isHex digits.2 (by decide)), Nat.add_comm]

/-- A triplet does not reach beyond a character that is no digit. -/
theorem beginsTriplet_append {cs rest : List Char} {c : Char}
    (ends : ∀ d, rest.head? = some d → isHex d = false) :
    beginsTriplet (c :: cs ++ rest) = beginsTriplet (c :: cs) := by
  rcases cs with _ | ⟨high, _ | ⟨low, cs⟩⟩
  · rcases rest with _ | ⟨d, _ | ⟨e, rest⟩⟩
    · rfl
    · rfl
    · simp [beginsTriplet, ends d rfl]
  · rcases rest with _ | ⟨d, rest⟩
    · rfl
    · simp [beginsTriplet, ends d rfl]
  · rfl

theorem triplets_append {cs rest : List Char}
    (ends : ∀ d, rest.head? = some d → isHex d = false) :
    triplets (cs ++ rest) = triplets cs + triplets rest := by
  induction cs with
  | nil => simp [triplets]
  | cons c cs ih =>
    rw [List.cons_append, triplets, triplets, ih, ← List.cons_append, beginsTriplet_append ends,
      Nat.add_assoc]

/-! ## Decoding -/

/-- A triplet is read as a byte. -/
theorem decodeFrom_triplet {high low : Char} (digits : isHex high = true ∧ isHex low = true)
    (run : List Nat) (rest : List Char) :
    ∃ b, decodeFrom run ('%' :: high :: low :: rest) = decodeFrom (b :: run) rest := by
  have read : (byte? high low).isSome = true := by
    rw [isSome_byte?, digits.1, digits.2]
    rfl
  obtain ⟨b, read⟩ := Option.isSome_iff_exists.1 read
  exact ⟨b, by rw [decodeFrom, read]⟩

/-- What begins no triplet stands for itself. -/
theorem decodeFrom_cons {c : Char} {cs : List Char} (plain : beginsTriplet (c :: cs) = false)
    (run : List Nat) : decodeFrom run (c :: cs) = do
      let before ← Utf8.decode? run.reverse
      let after ← decodeFrom [] cs
      return before ++ c :: after := by
  rw [decodeFrom.eq_def]
  split
  · next same => cases same
  · next high low rest same =>
    obtain ⟨rfl, rfl⟩ := List.cons.inj same
    have none : byte? high low = none := by
      rw [← Option.isNone_iff_eq_none, ← Option.not_isSome, isSome_byte?]
      rw [beginsTriplet, beq_self_eq_true, Bool.true_and] at plain
      rw [plain]
      rfl
    rw [none]
  · next same =>
    obtain ⟨rfl, rfl⟩ := List.cons.inj same
    rfl

/-- Nothing is decoded without triplets. -/
theorem decode?_eq_self {cs : List Char} (plain : ¬ HasTriplet cs) : decode? cs = some cs := by
  rw [← triplets_eq_zero_iff] at plain
  unfold decode?
  induction cs with
  | nil => rfl
  | cons c cs ih =>
    rw [triplets, Nat.add_eq_zero_iff] at plain
    have begins : beginsTriplet (c :: cs) = false := by simpa using plain.1
    rw [decodeFrom_cons begins, ih plain.2]
    rfl

/-- What stands before all triplets stays there. -/
theorem head?_of_decode? {c : Char} {cs ds : List Char} (plain : beginsTriplet (c :: cs) = false)
    (read : decode? (c :: cs) = some ds) : ds.head? = some c := by
  rw [decode?, decodeFrom_cons plain] at read
  obtain ⟨before, none, read⟩ := Option.bind_eq_some_iff.1 read
  obtain ⟨after, -, read⟩ := Option.bind_eq_some_iff.1 read
  cases none
  cases read
  rfl

end Percent

/-- There are no more characters than bytes. -/
theorem Utf8.length_le_of_decode? {bytes : List Nat} {cs : List Char}
    (read : decode? bytes = some cs) : cs.length ≤ bytes.length := by
  have longer {c : Char} {rest : List Nat} {cs : List Char} {n : Nat}
      (ih : ∀ {cs}, decode? rest = some cs → cs.length ≤ rest.length)
      (inside : rest.length < n) (read : (decode? rest).map (c :: ·) = some cs) : cs.length ≤ n := by
    obtain ⟨ds, readRest, rfl⟩ := Option.map_eq_some_iff.1 read
    have := ih readRest
    rw [List.length_cons]
    omega
  fun_induction decode? bytes generalizing cs with
  | case1 =>
    cases read
    exact Nat.le_refl 0
  | case2 | case3 | case4 | case5 =>
    rename_i ih
    exact longer ih (by simp only [List.length_cons]; omega) read
  | case6 | case7 | case8 | case9 => cases read

namespace Pointer

/-! ## Loose tildes -/

/-- How many tildes of a text start no escape. -/
def loose : List Char → Nat
  | [] => 0
  | c :: rest =>
    (if c = '~' ∧ rest.head? ≠ some '0' ∧ rest.head? ≠ some '1' then 1 else 0) + loose rest

theorem loose_cons_le (c : Char) (cs : List Char) : loose (c :: cs) ≤ loose cs + 1 := by
  rw [loose]
  split <;> omega

theorem loose_cons {c : Char} (plain : c ≠ '~') (cs : List Char) : loose (c :: cs) = loose cs := by
  rw [loose, if_neg fun h => plain h.1, Nat.zero_add]

theorem loose_append_le (before cs : List Char) :
    loose (before ++ cs) ≤ before.length + loose cs := by
  induction before with
  | nil => simp
  | cons c before ih =>
    have first := loose_cons_le c (before ++ cs)
    rw [List.cons_append, List.length_cons]
    omega

/-- A tilde is as loose in front of a text as in front of what is decoded of it. -/
theorem loose_cons_decode? {c : Char} {cs ds : List Char} (read : Percent.decode? cs = some ds) :
    loose (c :: ds) + loose cs ≤ loose (c :: cs) + loose ds := by
  have kept {d : Char} (other : d ≠ '%') (first : cs.head? = some d) : ds.head? = some d := by
    obtain ⟨rest, rfl⟩ := List.head?_eq_some_iff.1 first
    exact Percent.head?_of_decode? (Percent.beginsTriplet_cons other rest) read
  rw [loose, loose.eq_2 c cs]
  by_cases free : c = '~' ∧ cs.head? ≠ some '0' ∧ cs.head? ≠ some '1'
  · rw [if_pos free]
    split <;> omega
  · rw [if_neg free, if_neg fun free' => free ⟨free'.1,
      fun first => free'.2.1 (kept (by decide) first), fun first => free'.2.2 (kept (by decide) first)⟩]
    omega

/-- What is decoded is so short that escapes for all loose tildes do not make up for the
    triplets. -/
theorem length_add_loose_le {run : List Nat} {cs ds : List Char}
    (read : Percent.decodeFrom run cs = some ds) :
    ds.length + loose ds + Percent.triplets cs ≤ 2 * run.length + cs.length + loose cs := by
  induction h : cs.length using Nat.strongRecOn generalizing run cs ds with
  | ind n ih =>
    cases cs with
    | nil =>
      have short := Utf8.length_le_of_decode? read
      have few := loose_append_le ds []
      rw [List.append_nil, loose] at few
      rw [List.length_reverse] at short
      rw [Percent.triplets, loose]
      omega
    | cons c cs =>
      subst h
      cases begins : Percent.beginsTriplet (c :: cs) with
      | true =>
        obtain ⟨high, low, rest, text, digits⟩ := Percent.beginsTriplet_eq_true_iff.1 begins
        obtain ⟨b, first⟩ := Percent.decodeFrom_triplet digits run rest
        obtain ⟨rfl, rfl⟩ := List.cons.inj text
        rw [first] at read
        have others := ih rest.length (by simp; omega) read rfl
        rw [Percent.triplets_triplet digits, loose_cons (by decide),
          loose_cons (Percent.ne_of_isHex digits.1 (by decide)),
          loose_cons (Percent.ne_of_isHex digits.2 (by decide))]
        simp only [List.length_cons] at others ⊢
        omega
      | false =>
        rw [Percent.decodeFrom_cons begins] at read
        obtain ⟨before, readBefore, read⟩ := Option.bind_eq_some_iff.1 read
        obtain ⟨after, readAfter, read⟩ := Option.bind_eq_some_iff.1 read
        cases read
        have short := Utf8.length_le_of_decode? readBefore
        have few := loose_append_le before (c :: after)
        have same := loose_cons_decode? (c := c) readAfter
        have others := ih cs.length (by simp) readAfter rfl
        rw [List.length_reverse] at short
        rw [Percent.triplets, begins, if_neg Bool.false_ne_true]
        simp only [List.length_append, List.length_cons, List.length_nil] at others ⊢
        omega

/-- A tilde at the end of a part is as loose as one before a separator. -/
theorem loose_append {cs rest : List Char}
    (ends : rest.head? ≠ some '0' ∧ rest.head? ≠ some '1') :
    loose (cs ++ rest) = loose cs + loose rest := by
  induction cs with
  | nil => simp [loose]
  | cons c cs ih =>
    have same : (c = '~' ∧ (cs ++ rest).head? ≠ some '0' ∧ (cs ++ rest).head? ≠ some '1') ↔
        c = '~' ∧ cs.head? ≠ some '0' ∧ cs.head? ≠ some '1' := by
      cases cs with
      | nil => simp [ends]
      | cons => rfl
    rw [List.cons_append, loose, loose, ih, Nat.add_assoc]
    simp only [same]

/-! ## Escapes -/

/-- No tilde of an escaped segment is loose. -/
theorem loose_escape (segment : List Char) : loose (escape segment) = 0 := by
  induction segment with
  | nil => rfl
  | cons c segment ih =>
    rw [escape_cons]
    split
    · simp [loose, ih]
    · next tilde =>
      split
      · simp [loose, ih]
      · rw [List.singleton_append, loose_cons tilde, ih]

/-- Escapes that are read and put again are as they were, and others come for loose tildes. -/
theorem length_escape_unescape {part : List Char} (clean : '/' ∉ part) :
    (escape (unescape part)).length = part.length + loose part := by
  induction part using unescape.induct with
  | case1 rest ih | case2 rest ih =>
    have clean : '/' ∉ rest := fun mem =>
      clean (List.mem_cons_of_mem _ (List.mem_cons_of_mem _ mem))
    rw [unescape, escape_cons, List.length_append, ih clean]
    simp [loose]
    omega
  | case3 c rest one zero ih =>
    obtain ⟨other, clean⟩ := List.ne_and_not_mem_of_not_mem_cons clean
    rw [unescape.eq_3 c rest one zero, escape_cons, List.length_append, ih clean, loose,
      List.length_cons]
    by_cases tilde : c = '~'
    · have free : rest.head? ≠ some '0' ∧ rest.head? ≠ some '1' := by
        constructor <;> intro first <;> obtain ⟨rest', rfl⟩ := List.head?_eq_some_iff.1 first
        · exact zero rest' tilde rfl
        · exact one rest' tilde rfl
      rw [if_pos tilde, if_pos ⟨tilde, free⟩]
      simp
      omega
    · rw [if_neg tilde, if_neg (Ne.symm other), if_neg fun h => tilde h.1]
      simp
      omega
  | case4 => rfl

/-- Escapes start with no digit where the segment has none. -/
theorem exists_escape_cons (c : Char) (segment : List Char) :
    ∃ d rest, escape (c :: segment) = d :: rest ∧ Percent.isHex d = Percent.isHex c ∧
      (Percent.isHex c = true → d = c ∧ rest = escape segment) := by
  rw [escape_cons]
  split
  · next tilde => exact ⟨'~', _, rfl, tilde ▸ rfl, fun digit => by rw [tilde] at digit; cases digit⟩
  · split
    · next slash => exact ⟨'~', _, rfl, slash ▸ rfl, fun digit => by rw [slash] at digit; cases digit⟩
    · exact ⟨c, _, rfl, rfl, fun _ => ⟨rfl, rfl⟩⟩

theorem beginsTriplet_escape (c : Char) (segment : List Char) :
    Percent.beginsTriplet (c :: escape segment) = Percent.beginsTriplet (c :: segment) := by
  cases segment with
  | nil => rfl
  | cons high segment =>
    obtain ⟨d, rest, text, same, kept⟩ := exists_escape_cons high segment
    rw [text]
    cases digit : Percent.isHex high with
    | false =>
      rw [Percent.beginsTriplet_cons_cons digit, Percent.beginsTriplet_cons_cons (same.trans digit)]
    | true =>
      obtain ⟨rfl, rfl⟩ := kept digit
      cases segment with
      | nil => rfl
      | cons low segment =>
        obtain ⟨e, rest, text, same, -⟩ := exists_escape_cons low segment
        rw [text, Percent.beginsTriplet, Percent.beginsTriplet, same]

/-- Triplets are left as they are by escapes. -/
theorem triplets_escape (segment : List Char) :
    Percent.triplets (escape segment) = Percent.triplets segment := by
  induction segment with
  | nil => rfl
  | cons c segment ih =>
    rw [escape_cons]
    split
    · next tilde =>
      rw [List.cons_append, List.singleton_append, Percent.triplets_cons (by decide),
        Percent.triplets_cons (by decide), tilde, Percent.triplets_cons (by decide), ih]
    · split
      · next slash =>
        rw [List.cons_append, List.singleton_append, Percent.triplets_cons (by decide),
          Percent.triplets_cons (by decide), slash, Percent.triplets_cons (by decide), ih]
      · rw [List.singleton_append, Percent.triplets, Percent.triplets, ih, beginsTriplet_escape]

/-! ## Whole pointers -/

/-- The triplets of a pointer are those of its parts. -/
theorem triplets_part (part : List Char) (parts : List (List Char)) :
    Percent.triplets ((part :: parts).flatMap ('/' :: ·)) =
      Percent.triplets part + Percent.triplets (parts.flatMap ('/' :: ·)) := by
  have ends : ∀ d, (parts.flatMap ('/' :: ·)).head? = some d → Percent.isHex d = false := by
    intro d first
    cases parts with
    | nil => cases first
    | cons next parts =>
      cases first
      rfl
  rw [List.flatMap_cons, List.cons_append, Percent.triplets_cons (by decide),
    Percent.triplets_append ends]

theorem triplets_parts_eq_zero_iff {parts : List (List Char)} :
    Percent.triplets (parts.flatMap ('/' :: ·)) = 0 ↔
      ∀ part ∈ parts, Percent.triplets part = 0 := by
  induction parts with
  | nil => exact iff_of_true rfl nofun
  | cons part parts ih => rw [triplets_part, Nat.add_eq_zero_iff, ih, List.forall_mem_cons]

/-- The loose tildes of a pointer are those of its parts. -/
theorem loose_part (part : List Char) (parts : List (List Char)) :
    loose ((part :: parts).flatMap ('/' :: ·)) =
      loose part + loose (parts.flatMap ('/' :: ·)) := by
  have ends : (parts.flatMap ('/' :: ·)).head? ≠ some '0' ∧
      (parts.flatMap ('/' :: ·)).head? ≠ some '1' := by
    cases parts with
    | nil => exact ⟨nofun, nofun⟩
    | cons next parts => exact ⟨by simp, by simp⟩
  rw [List.flatMap_cons, List.cons_append, loose_cons (by decide), loose_append ends]

theorem loose_parts_eq_zero {parts : List (List Char)} (none : ∀ part ∈ parts, loose part = 0) :
    loose (parts.flatMap ('/' :: ·)) = 0 := by
  induction parts with
  | nil => rfl
  | cons part parts ih =>
    rw [loose_part, none part List.mem_cons_self,
      ih fun part mem => none part (List.mem_cons_of_mem _ mem)]

/-- Parts that are put together again are longer by an escape for every loose tilde. -/
theorem length_rejoined {parts : List (List Char)} (clean : ∀ part ∈ parts, '/' ∉ part) :
    ((parts.map fun part => escape (unescape part)).flatMap ('/' :: ·)).length =
      (parts.flatMap ('/' :: ·)).length + loose (parts.flatMap ('/' :: ·)) := by
  induction parts with
  | nil => rfl
  | cons part parts ih =>
    have first := length_escape_unescape (clean part List.mem_cons_self)
    have others := ih fun part mem => clean part (List.mem_cons_of_mem _ mem)
    rw [loose_part]
    simp only [List.map_cons, List.flatMap_cons, List.length_append, List.length_cons]
      at others ⊢
    omega

/-- A pointer that was put together from segments has these segments exactly if none of them has a
    triplet. -/
theorem segments?_eq_iff (steps : List String) : segments? (ofSegments steps) = some steps ↔
    ∀ step ∈ steps, ¬ Percent.HasTriplet step.toList := by
  have text : (ofSegments steps).toList =
      (steps.map fun step => escape step.toList).flatMap ('/' :: ·) := toList_foldl_child steps ""
  have plain_iff : Percent.triplets (ofSegments steps).toList = 0 ↔
      ∀ step ∈ steps, ¬ Percent.HasTriplet step.toList := by
    rw [text, triplets_parts_eq_zero_iff, List.forall_mem_map]
    refine forall₂_congr fun step _ => ?_
    rw [triplets_escape, Percent.triplets_eq_zero_iff]
  rw [← plain_iff]
  constructor
  · intro read
    cases steps with
    | nil => rfl
    | cons step steps =>
      obtain ⟨decoded, readText, parts⟩ := Option.map_eq_some_iff.1 read
      have first : decoded.head? = some '/' := by
        rw [text] at readText
        exact Percent.head?_of_decode? (Percent.beginsTriplet_cons (by decide) _) readText
      obtain ⟨rest, rfl⟩ := List.head?_eq_some_iff.1 first
      have again : (Text.splitOn '/' rest).map (fun part => escape (unescape part)) =
          (step :: steps).map fun step => escape step.toList := by
        rw [← parts, List.map_map, Text.splitOn, if_pos rfl]
        refine List.map_congr_left fun part _ => ?_
        show _ = escape (String.ofList (unescape part)).toList
        rw [String.toList_ofList]
      have long := length_rejoined fun part (mem : part ∈ Text.splitOn '/' rest) =>
        Text.not_mem_of_mem_splitOn mem
      rw [again, ← text, Text.flatMap_splitOn] at long
      have short := length_add_loose_le readText
      have tight : loose (ofSegments (step :: steps)).toList = 0 := by
        rw [text]
        exact loose_parts_eq_zero (List.forall_mem_map.2 fun step _ => loose_escape step.toList)
      rw [List.length_nil] at short
      omega
  · intro plain
    exact segments?_of_decode? (Percent.decode?_eq_self (Percent.triplets_eq_zero_iff.1 plain))

end Pointer

end JsonSchema
