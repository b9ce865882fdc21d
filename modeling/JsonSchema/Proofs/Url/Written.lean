import JsonSchema.Proofs.Url.Percent

/-!
# Written forms of URLs

What a URL is written with. Everything in front of the fragment is percent-encoded, or refused,
where it could be a blank or a number sign, except that an opaque path keeps its blanks.

* `Url.IsPlain`: the characters that are neither blanks nor controls nor number signs.
* `Url.IsClean`: a URL without fragment that is written without number signs, and with blanks at
  the end only if they were in the text.
* `Url.readScheme?_isClean`, `Url.parse?_isClean`: such a URL is read from a text without number
  signs.
* `Url.parse?_marked`: what is read from texts with one document part differs in the fragment only.
-/

namespace JsonSchema

/-- What does not occur in a text might as well be encoded in it. -/
theorem Percent.encode_or {p q : Char → Bool} {cs : List Char} (never : ∀ c ∈ cs, q c = false) :
    encode p cs = encode (fun c => p c || q c) cs := by
  have same : ∀ c ∈ cs, p c = (p c || q c) := fun c mem => by rw [never c mem, Bool.or_false]
  refine congrArg List.flatten (List.map_congr_left fun c mem => ?_)
  rw [same c mem]

namespace Url

/-! ## Characters -/

/-- A character that is neither a number sign nor cut off at the end of a text. -/
def IsPlain (c : Char) : Prop := c ≠ '#' ∧ ¬ c.toNat ≤ 0x20

instance (c : Char) : Decidable (IsPlain c) := inferInstanceAs (Decidable (_ ∧ _))

/-- A text of such characters. -/
def ArePlain (cs : List Char) : Prop := ∀ c ∈ cs, IsPlain c

instance (cs : List Char) : Decidable (ArePlain cs) := List.decidableBAll _ cs

theorem arePlain_nil : ArePlain [] := List.forall_mem_nil _

theorem arePlain_cons {c : Char} {cs : List Char} :
    ArePlain (c :: cs) ↔ IsPlain c ∧ ArePlain cs := List.forall_mem_cons

theorem arePlain_append {cs ds : List Char} : ArePlain (cs ++ ds) ↔ ArePlain cs ∧ ArePlain ds :=
  List.forall_mem_append

/-- A property that all other characters have is that of plain characters. -/
theorem isPlain_of_eq_false {p : Char → Bool} (mark : p '#' = true)
    (blanks : ∀ n ≤ 0x20, p (Char.ofNat n) = true) {c : Char} (other : p c = false) : IsPlain c := by
  constructor
  · rintro rfl
    rw [mark] at other
    cases other
  · intro low
    have blank := blanks _ low
    rw [Char.ofNat_toNat, other] at blank
    cases blank

theorem arePlain_encode {mustEncode : Char → Bool} (mark : mustEncode '#' = true)
    (blanks : ∀ n ≤ 0x20, mustEncode (Char.ofNat n) = true) (percent : mustEncode '%' = false)
    (digits : ∀ d < 16, mustEncode (Percent.hexDigit d) = false) (cs : List Char) :
    ArePlain (Percent.encode mustEncode cs) := fun _ mem =>
  isPlain_of_eq_false mark blanks (Percent.clean_of_mem_encode percent digits mem)

theorem arePlain_encodeInPath (cs : List Char) : ArePlain (Percent.encode encodeInPath cs) :=
  arePlain_encode (by decide) (by decide) (by decide) (by decide) cs

theorem arePlain_encodeInCredentials (cs : List Char) :
    ArePlain (Percent.encode encodeInCredentials cs) :=
  arePlain_encode (by decide) (by decide) (by decide) (by decide) cs

theorem arePlain_encodeInQuery (special : Bool) (cs : List Char) :
    ArePlain (Percent.encode (encodeInQuery special) cs) := by
  cases special <;> exact arePlain_encode (by decide) (by decide) (by decide) (by decide) cs

/-! ## Numbers -/

theorem isPlain_digitChar (d : Nat) : IsPlain (Nat.digitChar d) := by
  by_cases small : d < 16
  · have digits : ∀ d < 16, IsPlain (Nat.digitChar d) := by decide
    exact digits d small
  · rw [Nat.digitChar_eq_star.2 (by omega)]
    decide

theorem arePlain_toDigits {base : Nat} (large : 1 < base) (n : Nat) :
    ArePlain (Nat.toDigits base n) := by
  induction n using Nat.strongRecOn with
  | ind n ih =>
    rw [Nat.toDigits_eq_if large]
    split
    · exact arePlain_cons.2 ⟨isPlain_digitChar n, arePlain_nil⟩
    · next many =>
      refine arePlain_append.2 ⟨ih _ (Nat.div_lt_self (by omega) large), ?_⟩
      exact arePlain_cons.2 ⟨isPlain_digitChar _, arePlain_nil⟩

theorem arePlain_intercalate {separator : Char} (plain : IsPlain separator)
    {parts : List (List Char)} (each : ∀ part ∈ parts, ArePlain part) :
    ArePlain ([separator].intercalate parts) := by
  induction parts with
  | nil => exact arePlain_nil
  | cons part parts ih =>
    obtain ⟨first, others⟩ := List.forall_mem_cons.1 each
    cases parts with
    | nil =>
      rw [show [separator].intercalate [part] = part from List.append_nil part]
      exact first
    | cons next parts =>
      have step : [separator].intercalate (part :: next :: parts) =
          part ++ separator :: [separator].intercalate (next :: parts) := rfl
      rw [step]
      exact arePlain_append.2 ⟨first, arePlain_cons.2 ⟨plain, ih others⟩⟩

/-! ## Hosts -/

theorem arePlain_joinGroups (groups : List Nat) : ArePlain (Address.joinGroups groups) := by
  refine arePlain_intercalate (by decide) fun part mem => ?_
  obtain ⟨n, -, rfl⟩ := List.mem_map.1 mem
  exact arePlain_toDigits (by decide) n

theorem arePlain_ipv4 (parts : List Nat) : ArePlain (Host.ipv4 parts).text := by
  refine arePlain_intercalate (by decide) fun part mem => ?_
  obtain ⟨n, -, rfl⟩ := List.mem_map.1 mem
  exact arePlain_toDigits (by decide) n

theorem arePlain_ipv6 (groups : List Nat) : ArePlain (Host.ipv6 groups).text := by
  have inside : ArePlain (Address.ipv6Text groups) := by
    unfold Address.ipv6Text
    dsimp only
    split
    · exact arePlain_joinGroups groups
    · refine arePlain_append.2 ⟨arePlain_append.2 ⟨arePlain_joinGroups _, ?_⟩, arePlain_joinGroups _⟩
      decide
  exact arePlain_append.2 ⟨arePlain_cons.2 ⟨by decide, inside⟩, by decide⟩

theorem arePlain_bracketed {cs : List Char} {host : Host} (read : Host.bracketed? cs = some host) :
    ArePlain host.text := by
  unfold Host.bracketed? at read
  split at read
  · obtain ⟨groups, -, rfl⟩ := Option.map_eq_some_iff.1 read
    exact arePlain_ipv6 groups
  · cases read

theorem exists_ipv4 {name : List Char} {host : Host} (read : Host.ipv4OfName? name = some host) :
    ∃ parts, host = .ipv4 parts := by
  unfold Host.ipv4OfName? at read
  dsimp only at read
  split at read
  · cases read
  · obtain ⟨numbers, -, read⟩ := Option.bind_eq_some_iff.1 read
    obtain ⟨last, -, read⟩ := Option.bind_eq_some_iff.1 read
    split at read
    · cases read
    · cases read
      exact ⟨_, rfl⟩

theorem arePlain_parse {cs : List Char} {host : Host} (read : Host.parse? cs = some host) :
    ArePlain host.text := by
  unfold Host.parse? at read
  split at read
  · exact arePlain_bracketed read
  · obtain ⟨text, -, read⟩ := Option.bind_eq_some_iff.1 read
    obtain ⟨name, ascii, read⟩ := Option.bind_eq_some_iff.1 read
    split at read
    · cases read
    · split at read
      · obtain ⟨parts, rfl⟩ := exists_ipv4 read
        exact arePlain_ipv4 parts
      · cases read
        obtain ⟨-, clean⟩ := Option.filter_eq_some_iff.1 ascii
        intro c mem
        refine isPlain_of_eq_false (p := Host.isForbidden) (by decide) (by decide) ?_
        rw [Bool.not_eq_true', List.any_eq_false] at clean
        exact Bool.eq_false_iff.2 (clean c mem)

theorem arePlain_parseOpaque {cs : List Char} {host : Host}
    (read : Host.parseOpaque? cs = some host) : ArePlain host.text := by
  unfold Host.parseOpaque? at read
  split at read
  · exact arePlain_bracketed read
  · split at read
    · cases read
    · next clean =>
      cases read
      rw [Bool.not_eq_true, List.any_eq_false] at clean
      rw [Host.text, Percent.encode_or fun c mem => Bool.eq_false_iff.2 (clean c mem)]
      exact arePlain_encode (by decide) (by decide) (by decide) (by decide) cs

/-! ## Schemes -/

theorem isPlain_toLower {c : Char} (plain : IsPlain c) : IsPlain c.toLower := by
  by_cases upper : c.val ≥ 'A'.val ∧ c.val ≤ 'Z'.val
  · have letters : ∀ n ≤ 90, 65 ≤ n → IsPlain (Char.ofNat n).toLower := by decide
    have low : 65 ≤ c.toNat := UInt32.le_iff_toNat_le.1 upper.1
    have high : c.toNat ≤ 90 := UInt32.le_iff_toNat_le.1 upper.2
    have letter := letters c.toNat high low
    rwa [Char.ofNat_toNat] at letter
  · have same : c.toLower = c := dif_neg upper
    rwa [same]

theorem arePlain_scheme {cs scheme rest : List Char} (read : scheme? cs = some (scheme, rest)) :
    ArePlain scheme := by
  unfold scheme? at read
  dsimp only at read
  split at read
  · split at read
    · cases read
      intro c mem
      obtain ⟨d, memD, rfl⟩ := List.mem_map.1 mem
      have inside : isSchemeChar d = true := List.mem_takeWhile_imp memD
      refine isPlain_toLower (isPlain_of_eq_false (p := fun c => !isSchemeChar c) (by decide) (by decide) ?_)
      rw [inside]
      rfl
    · cases read
  · cases read

/-! ## Paths -/

theorem mem_of_mem_shorten {file : Bool} {segments : List (List Char)} {segment : List Char}
    (mem : segment ∈ shorten file segments) : segment ∈ segments := by
  unfold shorten at mem
  split at mem
  · split at mem
    · exact mem
    · cases mem
  · exact (List.dropLast_sublist _).mem mem

theorem arePlain_addSegment {file slash : Bool} {segments : List (List Char)} {segment : List Char}
    (before : ∀ s ∈ segments, ArePlain s) (plain : ArePlain segment) :
    ∀ s ∈ addSegment file segments segment slash, ArePlain s := by
  have above : ∀ s ∈ shorten file segments, ArePlain s := fun s mem =>
    before s (mem_of_mem_shorten mem)
  have empty {list : List (List Char)} (each : ∀ s ∈ list, ArePlain s) :
      ∀ s ∈ list ++ [[]], ArePlain s :=
    List.forall_mem_append.2 ⟨each, List.forall_mem_singleton.2 arePlain_nil⟩
  unfold addSegment
  split
  · dsimp only
    split
    · exact above
    · exact empty above
  · split
    · split
      · exact before
      · exact empty before
    · split
      · refine List.forall_mem_singleton.2 (arePlain_append.2 ⟨fun c mem => ?_, by decide⟩)
        exact plain c (List.mem_of_mem_take mem)
      · exact List.forall_mem_append.2 ⟨before, List.forall_mem_singleton.2 plain⟩

theorem arePlain_readSegments {special file : Bool} {cs : List Char} {segments : List (List Char)}
    {current : List Char} (before : ∀ s ∈ segments, ArePlain s) (plain : ArePlain current) :
    ∀ s ∈ (readSegments special file segments current cs).1, ArePlain s := by
  have reverse {cs : List Char} (plain : ArePlain cs) : ArePlain cs.reverse := fun c mem =>
    plain c (List.mem_reverse.1 mem)
  induction cs generalizing segments current with
  | nil => exact arePlain_addSegment before (reverse plain)
  | cons c rest ih =>
    rw [readSegments]
    split
    · exact ih (arePlain_addSegment before (reverse plain)) arePlain_nil
    · split
      · exact arePlain_addSegment before (reverse plain)
      · refine ih before (arePlain_append.2 ⟨reverse ?_, plain⟩)
        exact arePlain_encodeInPath [c]

theorem arePlain_text {segments : List (List Char)} (each : ∀ s ∈ segments, ArePlain s) :
    ArePlain (Path.segments segments).text := by
  intro c mem
  obtain ⟨segment, memS, mem⟩ := List.mem_flatMap.1 mem
  exact arePlain_cons.2 ⟨by decide, each segment memS⟩ c mem

theorem arePlain_readPath (scheme : List Char) {segments : List (List Char)}
    (before : ∀ s ∈ segments, ArePlain s) (cs : List Char) :
    ArePlain (readPath scheme segments cs).1.text := by
  refine arePlain_text fun s mem => ?_
  have each : ∀ s ∈ (readSegments (isSpecial scheme) (isFile scheme) segments [] cs).1, ArePlain s :=
    arePlain_readSegments before arePlain_nil
  unfold trimSegments at mem
  split at mem
  · exact each s mem
  · split at mem
    · rw [List.mem_singleton.1 mem]
      exact arePlain_nil
    · exact each s ((List.dropWhile_sublist _).mem mem)

theorem arePlain_readRootedPath (scheme cs : List Char) :
    ArePlain (readRootedPath scheme cs).1.text := by
  have none : ∀ s ∈ ([] : List (List Char)), ArePlain s := List.forall_mem_nil _
  unfold readRootedPath
  split
  · split
    · exact arePlain_readPath scheme none _
    · split
      · exact arePlain_readPath scheme none _
      · split
        · exact arePlain_nil
        · exact arePlain_readPath scheme none _
  · split
    · decide
    · exact arePlain_nil

/-! ## Whole URLs -/

/-- A URL without fragment that is written without number signs, and without blanks at the end if the
    text that it was read from has none there. -/
structure IsClean (cs : List Char) (u : Url) : Prop where
  unmarked : '#' ∉ u.front
  visible : EndsVisibly cs → EndsVisibly u.front
  fragment : u.fragment = none

theorem endsVisibly_of_arePlain {cs : List Char} (plain : ArePlain cs) : EndsVisibly cs :=
  fun c last => (plain c (List.mem_of_getLast? last)).2

theorem endsVisibly_append {cs ds : List Char} (visible : EndsVisibly ds)
    (alone : ds = [] → EndsVisibly cs) : EndsVisibly (cs ++ ds) := by
  intro c last
  rw [List.getLast?_append] at last
  cases end_ : ds.getLast? with
  | none =>
    rw [end_] at last
    exact alone (List.getLast?_eq_none_iff.1 end_) c last
  | some d =>
    rw [end_] at last
    cases last
    exact visible c end_

theorem arePlain_readCredentials (cs : List Char) :
    ArePlain (readCredentials cs).1 ∧ ∀ password ∈ (readCredentials cs).2, ArePlain password := by
  unfold readCredentials
  dsimp only
  split
  · refine ⟨arePlain_encodeInCredentials _, fun password here => ?_⟩
    cases here
    exact arePlain_encodeInCredentials _
  · exact ⟨arePlain_encodeInCredentials _, nofun⟩

theorem arePlain_authority {a : Authority} (user : ArePlain a.user)
    (password : ∀ password ∈ a.password, ArePlain password) (host : ArePlain a.host.text) :
    ArePlain a.text := by
  refine arePlain_append.2 ⟨arePlain_append.2 ⟨?_, host⟩, ?_⟩
  · unfold Authority.credentials
    split
    · next given =>
      refine arePlain_append.2 ⟨arePlain_append.2 ⟨user, ?_⟩, by decide⟩
      exact arePlain_cons.2 ⟨by decide, password _ given⟩
    · split
      · exact arePlain_nil
      · exact arePlain_append.2 ⟨user, by decide⟩
  · split
    · exact arePlain_cons.2 ⟨by decide, arePlain_toDigits (by decide) _⟩
    · exact arePlain_nil

/-- What stands in front of the path and the query of a URL is plain. -/
theorem arePlain_authorityText {u : Url} (host : ∀ a ∈ u.authority, ArePlain a.text) :
    ArePlain u.authorityText := by
  unfold authorityText
  split
  · next here =>
    exact arePlain_cons.2 ⟨by decide, arePlain_cons.2 ⟨by decide, host _ here⟩⟩
  · split <;> decide
  · split <;> decide

/-- The query that is read from a tail, and no fragment. -/
theorem readTail_of_isTail (scheme : List Char) {cs : List Char} (tail : IsTail cs) :
    (readTail scheme cs).2 = none ∧ ∀ query ∈ (readTail scheme cs).1, ArePlain query := by
  rcases tail with rfl | ⟨query, rfl, clean⟩
  · exact ⟨rfl, nofun⟩
  · have all : ∀ c ∈ query, decide (c ≠ '#') = true := fun c mem =>
      decide_eq_true fun same => clean (same ▸ mem)
    simp only [readTail, List.dropWhile_eq_nil_iff.2 all]
    refine ⟨rfl, fun text here => ?_⟩
    cases here
    exact arePlain_encodeInQuery _ _

theorem finish_isClean {scheme : List Char} {authority : Option Authority}
    {read : Path × List Char} (plain : ArePlain scheme) (host : ∀ a ∈ authority, ArePlain a.text)
    (path : ArePlain read.1.text) (tail : IsTail read.2) (cs : List Char) :
    IsClean cs (finish scheme authority read) := by
  obtain ⟨none, queries⟩ := readTail_of_isTail scheme tail
  have front : ArePlain (finish scheme authority read).front := by
    refine arePlain_append.2 ⟨arePlain_append.2 ⟨arePlain_append.2 ⟨plain, ?_⟩, path⟩, ?_⟩
    · exact arePlain_cons.2 ⟨by decide, arePlain_authorityText host⟩
    · split
      · next query here => exact arePlain_cons.2 ⟨by decide, queries query here⟩
      · exact arePlain_nil
  exact ⟨fun mem => (front _ mem).1 rfl, fun _ => endsVisibly_of_arePlain front, none⟩

theorem mark_not_mem_encode {path : List Char} (clean : '#' ∉ path) :
    '#' ∉ Percent.encode Host.isControl path := by
  have never : ∀ c ∈ path, (c == '#') = false := fun c mem =>
    beq_eq_false_iff_ne.2 fun mark => clean (mark ▸ mem)
  rw [Percent.encode_or never]
  intro mem
  cases Percent.clean_of_mem_encode (by decide) (by decide) mem

theorem opaque_isClean {scheme cs : List Char} (plain : ArePlain scheme) (clean : '#' ∉ cs) :
    IsClean cs (finish scheme none
      (.opaqueText (Percent.encode Host.isControl (cs.takeWhile fun c => !endsPath c)),
        cs.drop (cs.takeWhile fun c => !endsPath c).length)) := by
  have tail := (opaque_continues (g := []) clean).tail
  generalize text : cs.takeWhile (fun c => !endsPath c) = path at tail ⊢
  have whole : path ++ cs.drop path.length = cs := by
    rw [← text, ← List.prefix_iff_eq_append]
    exact List.takeWhile_prefix _
  generalize cs.drop path.length = rest at tail whole ⊢
  obtain ⟨fragment, queries⟩ := readTail_of_isTail scheme tail
  have unmarked : '#' ∉ Percent.encode Host.isControl path :=
    mark_not_mem_encode fun mem => clean (whole ▸ List.mem_append_left rest mem)
  let u := finish scheme none (.opaqueText (Percent.encode Host.isControl path), rest)
  have before : ArePlain (u.scheme ++ ':' :: u.authorityText) :=
    arePlain_append.2 ⟨plain, arePlain_cons.2 ⟨by decide, arePlain_authorityText fun _ here => by cases here⟩⟩
  refine ⟨fun mem => ?_, fun visible => endsVisibly_append ?_ fun absent => endsVisibly_append ?_ ?_,
    fragment⟩
  · rcases List.mem_append.1 mem with mem | mem
    · rcases List.mem_append.1 mem with mem | mem
      · exact (before _ mem).1 rfl
      · exact unmarked mem
    · split at mem
      · next query here => exact (arePlain_cons.2 ⟨by decide, queries query here⟩ _ mem).1 rfl
      · cases mem
  · split
    · next query here =>
      exact endsVisibly_of_arePlain (arePlain_cons.2 ⟨by decide, queries query here⟩)
    · exact nofun
  · -- without a query the path is the whole text
    have end_ : rest = [] := by
      rcases tail with same | ⟨query, rfl, -⟩
      · exact same
      · cases absent
    intro c last low
    have digits : ∀ d < 16, ¬ (Percent.hexDigit d).toNat ≤ 0x20 := by decide
    have last := Percent.getLast?_of_encode (fun d small same => digits d small (same ▸ low)) last
    rw [end_, List.append_nil] at whole
    exact visible c (whole ▸ last) low
  · exact fun _ => endsVisibly_of_arePlain before

/-! ## Reading -/

theorem readAuthority?_isClean {scheme cs : List Char} (plain : ArePlain scheme) (clean : '#' ∉ cs)
    {u : Url} (read : readAuthority? scheme cs = some u) (text : List Char) : IsClean text u := by
  rw [readAuthority?_eq scheme cs _ _ rfl rfl, ofSides?] at read
  split at read
  · cases read
  · obtain ⟨host, readHost, read⟩ := Option.bind_eq_some_iff.1 read
    obtain ⟨port, -, rfl⟩ := Option.map_eq_some_iff.1 read
    have plainHost : ArePlain host.text := by
      unfold readHost? at readHost
      split at readHost
      · exact arePlain_parse readHost
      · exact arePlain_parseOpaque readHost
    obtain ⟨user, password⟩ := arePlain_readCredentials
      ((sides (cs.takeWhile fun c => !endsAuthority (isSpecial scheme) c)).1.getD [])
    refine finish_isClean plain (fun a here => ?_) (arePlain_readRootedPath _ _) ?_ text
    · cases here
      exact arePlain_authority user password plainHost
    · refine (readRootedPath_continues (g := []) (fun mem => ?_) scheme).tail
      rcases List.mem_append.1 mem with mem | mem
      · exact clean ((List.takeWhile_sublist _).mem (mem_of_mem_sides (mem_of_mem_behindPort mem)))
      · exact clean (List.mem_of_mem_drop mem)

theorem arePlain_fileScheme : ArePlain fileScheme := by decide

theorem readPath_isClean {scheme cs : List Char} (plain : ArePlain scheme) (clean : '#' ∉ cs)
    (text : List Char) : IsClean text (finish scheme none (readPath scheme [] cs)) :=
  finish_isClean plain (fun _ here => by cases here)
    (arePlain_readPath scheme (List.forall_mem_nil _) cs)
    (readPath_continues (g := []) clean scheme []).tail text

theorem readFileHost?_isClean {cs : List Char} (clean : '#' ∉ cs) {u : Url}
    (read : readFileHost? cs = some u) (text : List Char) : IsClean text u := by
  unfold readFileHost? at read
  dsimp only at read
  split at read
  · cases read
    exact readPath_isClean arePlain_fileScheme clean text
  · have whole (host : Option Host) (plain : ∀ name ∈ host, ArePlain name.text) (drive : Bool)
        (n : Nat) : IsClean text (finish fileScheme (if drive then none else host.map .ofHost)
          (readRootedPath fileScheme (cs.drop n))) := by
      refine finish_isClean arePlain_fileScheme (fun a here => ?_) (arePlain_readRootedPath _ _)
        (readRootedPath_continues (g := []) (fun mem => clean (List.mem_of_mem_drop mem)) _).tail text
      split at here
      · cases here
      · obtain ⟨name, given, rfl⟩ := Option.map_eq_some_iff.1 here
        exact arePlain_authority arePlain_nil (fun _ here => by cases here) (plain name given)
    split at read
    · cases read
      exact whole none (fun _ here => by cases here) _ _
    · obtain ⟨host, readHost, read⟩ := Option.bind_eq_some_iff.1 read
      cases read
      refine whole host (fun name here => ?_) _ _
      obtain ⟨name', readName, rfl⟩ := Option.map_eq_some_iff.1 readHost
      split at here
      · cases here
      · cases here
        exact arePlain_parse readName

theorem readFile?_isClean {cs : List Char} (clean : '#' ∉ cs) {u : Url}
    (read : readFile? none cs = some u) (text : List Char) : IsClean text u := by
  unfold readFile? at read
  dsimp only [Option.filter_none, Option.map_none, Option.bind_none] at read
  split at read
  · next behind slash =>
    have clean := not_mem_of_slash? clean slash
    split at read
    · next behind' slash' => exact readFileHost?_isClean (not_mem_of_slash? clean slash') read text
    · rw [ite_self] at read
      cases read
      exact readPath_isClean arePlain_fileScheme clean text
  · cases read
    exact readPath_isClean arePlain_fileScheme clean text

/-- A URL that is read from a text without number signs. -/
theorem readScheme?_isClean {scheme cs : List Char} (plain : ArePlain scheme) (clean : '#' ∉ cs)
    {u : Url} (read : readScheme? none scheme cs = some u) : IsClean cs u := by
  unfold readScheme? at read
  split at read
  · exact readFile?_isClean clean read cs
  · split at read
    · exact readAuthority?_isClean plain (fun mem => clean (List.mem_of_mem_drop mem)) read cs
    · split at read
      · exact readAuthority?_isClean plain (fun mem => clean (by simp [mem])) read _
      · cases read
        exact readPath_isClean plain (fun mem => clean (List.mem_cons_of_mem _ mem)) _
      · cases read
        exact opaque_isClean plain clean

/-! ## Texts -/

theorem EndsVisibly.filter {cs : List Char} (visible : EndsVisibly cs) {p : Char → Bool}
    (kept : ∀ c, ¬ c.toNat ≤ 0x20 → p c = true) : EndsVisibly (cs.filter p) := by
  rcases List.eq_nil_or_concat cs with rfl | ⟨init, c, rfl⟩
  · exact visible
  · rw [List.concat_eq_append] at visible ⊢
    have high := visible c List.getLast?_concat
    rw [List.filter_append, List.filter_cons_of_pos (kept c high), List.filter_nil]
    intro d last
    rw [List.getLast?_concat] at last
    cases last
    exact high

/-- What counts of a text ends visibly. -/
theorem endsVisibly_trimmed (text : List Char) : EndsVisibly (trimmed text) := by
  refine EndsVisibly.filter (fun c last => ?_) fun c high => ?_
  · rw [List.getLast?_reverse] at last
    have stops := List.head?_dropWhile_not (fun c : Char => decide (c.toNat ≤ 0x20))
      (text.dropWhile fun c => decide (c.toNat ≤ 0x20)).reverse
    rw [last] at stops
    simpa using stops
  · rw [decide_eq_true_eq]
    refine ⟨?_, ?_, ?_⟩ <;>
    · rintro rfl
      exact high (by decide)

theorem mem_of_mem_trimmed {text : List Char} {c : Char} (mem : c ∈ trimmed text) : c ∈ text := by
  have mem := (List.mem_filter.1 mem).1
  have mem := (List.dropWhile_sublist _).mem (List.mem_reverse.1 mem)
  exact (List.dropWhile_sublist _).mem (List.mem_reverse.1 mem)

theorem EndsVisibly.of_scheme? {cs scheme rest : List Char} (visible : EndsVisibly cs)
    (read : scheme? cs = some (scheme, rest)) : EndsVisibly rest := by
  unfold scheme? at read
  dsimp only at read
  split at read
  · next behind =>
    split at read
    · cases read
      intro c last
      refine visible c ?_
      have whole := List.take_append_drop (cs.takeWhile isSchemeChar).length cs
      rw [behind] at whole
      rw [← whole, List.getLast?_append, List.getLast?_cons, last]
      rfl
    · cases read
  · cases read

/-- A URL that is read from a text without number signs has no fragment. It is written without number
    signs and ends visibly. -/
theorem parse?_isClean {text : String} (clean : '#' ∉ text.toList) {u : Url}
    (read : parse? text = some u) :
    '#' ∉ u.front ∧ EndsVisibly u.front ∧ u.fragment = none := by
  unfold parse? read? at read
  dsimp only at read
  split at read
  · next scheme rest parts =>
    have unmarked : '#' ∉ rest := fun mem =>
      clean (mem_of_mem_trimmed ((not_mem_of_scheme? parts).2 _ mem))
    have isClean := readScheme?_isClean (arePlain_scheme parts) unmarked read
    exact ⟨isClean.unmarked, isClean.visible ((endsVisibly_trimmed _).of_scheme? parts),
      isClean.fragment⟩
  · cases read

/-- URLs that are read from texts with the same document part differ in their fragments only. -/
theorem parse?_marked {document : List Char} (clean : '#' ∉ document) :
    ∃ old : Option Url, (∀ u ∈ old, '#' ∉ u.front) ∧ ∀ fragment u,
      parse? (String.ofList (document ++ '#' :: fragment)) = some u →
        ∃ v ∈ old, u = v.withFragment (Percent.encode encodeInFragment (counted fragment)) := by
  have inside : ∀ c ∈ countedInFront document, c ∈ document := fun c mem =>
    (List.dropWhile_sublist _).mem (List.mem_filter.1 mem).1
  refine ⟨(scheme? (countedInFront document)).bind fun parts => readScheme? none parts.1 parts.2,
    fun u here => ?_, fun fragment u read => ?_⟩
  · obtain ⟨⟨scheme, rest⟩, parts, read⟩ := Option.bind_eq_some_iff.1 here
    have unmarked : '#' ∉ rest := fun mem => clean (inside _ ((not_mem_of_scheme? parts).2 _ mem))
    exact (readScheme?_isClean (arePlain_scheme parts) unmarked read).unmarked
  · unfold parse? read? at read
    dsimp only at read
    rw [String.toList_ofList, trimmed_append, scheme?_append (by decide) (by decide)] at read
    cases parts : scheme? (countedInFront document) with
    | none =>
      rw [parts] at read
      cases read
    | some both =>
      obtain ⟨scheme, rest⟩ := both
      rw [parts] at read
      dsimp only [Option.map_some] at read
      obtain ⟨plain, behind⟩ := not_mem_of_scheme? parts
      have unmarked : '#' ∉ rest := fun mem => clean (inside _ (behind _ mem))
      rcases readScheme?_extends (g := counted fragment) unmarked plain with same | ⟨none, -, -⟩
      · rw [same] at read
        obtain ⟨v, here, rfl⟩ := Option.map_eq_some_iff.1 read
        exact ⟨v, here, rfl⟩
      · rw [none] at read
        cases read

end Url

end JsonSchema
