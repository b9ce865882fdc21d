import JsonSchema.Url.Parser
import Mathlib.Data.List.TakeWhile

/-!
# Fragments of URLs

What stands behind the first number sign of a URL does not count for what is read before it, with
one exception: a user mark with nothing around it is read where the text ends, and refused before
a number sign.

* `Url.withFragment`: a URL with another fragment.
* `Url.Extends`: how a URL is read again when a fragment is added to the text.
* `Url.counted`: what counts of a fragment at the end of a text.
* `Url.parse?_extends`: this is so of every text that ends with a visible character.
* `Url.join?_withFragment`: references are read relative to the rest of a URL only.
-/

namespace JsonSchema

namespace Url

/-- The URL with another fragment. -/
def withFragment (u : Url) (fragment : List Char) : Url := { u with fragment := some fragment }

/-- The written form of a URL up to its fragment. -/
def front (u : Url) : List Char :=
  u.scheme ++ ':' :: u.authorityText ++ u.path.text ++
    match u.query with
    | some query => '?' :: query
    | none => []

theorem characters_withFragment (u : Url) (fragment : List Char) :
    (u.withFragment fragment).characters = u.front ++ '#' :: fragment := rfl

theorem characters_eq (u : Url) : ∃ rest, u.characters = u.front ++ rest ∧
    (rest = [] ∨ ∃ fragment, rest = '#' :: fragment) := by
  rw [characters]
  cases u.fragment with
  | none => exact ⟨[], rfl, .inl rfl⟩
  | some fragment => exact ⟨_, rfl, .inr ⟨fragment, rfl⟩⟩

/-! ## Bases -/

theorem readRelative?_withFragment (u : Url) (fragment : List Char)
    (segments : List (List Char)) (cs : List Char) :
    readRelative? (u.withFragment fragment) segments cs = readRelative? u segments cs := by
  unfold readRelative?
  split <;> rfl

theorem readFile?_withFragment (u : Url) (fragment cs : List Char) :
    readFile? (some (u.withFragment fragment)) cs = readFile? (some u) cs := by
  unfold readFile?
  rw [Option.filter_some, Option.filter_some]
  by_cases file : isFile u.scheme = true
  · rw [if_pos file, if_pos (show isFile (u.withFragment fragment).scheme = true from file)]
    split
    · rfl
    · dsimp only
      split <;> rfl
  · rw [if_neg file, if_neg (show ¬ isFile (u.withFragment fragment).scheme = true from file)]

theorem readScheme?_withFragment (u : Url) (fragment scheme cs : List Char) :
    readScheme? (some (u.withFragment fragment)) scheme cs = readScheme? (some u) scheme cs := by
  obtain ⟨own, authority, path, query, old⟩ := u
  unfold readScheme?
  rw [readFile?_withFragment]
  cases path with
  | opaqueText => rfl
  | segments list =>
    have relative := readRelative?_withFragment ⟨own, authority, .segments list, query, old⟩
      fragment list cs
    simp only [withFragment] at relative ⊢
    rw [relative]
    rfl

/-- A reference relative to a URL is read without a look at the fragment of the URL. -/
theorem join?_withFragment (u : Url) (fragment : List Char) (reference : String) :
    (u.withFragment fragment).join? reference = u.join? reference := by
  unfold join? read?
  dsimp only
  cases scheme? (trimmed reference.toList) with
  | some => exact readScheme?_withFragment _ _ _ _
  | none =>
    dsimp only
    rw [show (u.withFragment fragment).path = u.path from rfl,
      show (u.withFragment fragment).scheme = u.scheme from rfl]
    split
    · rfl
    · rfl
    · rw [readFile?_withFragment, readRelative?_withFragment]

/-! ## Texts up to a number sign -/

section Lists

variable {p : Char → Bool} {c : Char}

theorem takeWhile_append_cons (stops : p c = false) (cs rest : List Char) :
    (cs ++ c :: rest).takeWhile p = cs.takeWhile p := by
  induction cs with
  | nil => rw [List.nil_append, List.takeWhile_cons_of_neg (by simp [stops]), List.takeWhile_nil]
  | cons d cs ih =>
    rw [List.cons_append, List.takeWhile_cons, List.takeWhile_cons, ih]

theorem dropWhile_append_cons (stops : p c = false) (cs rest : List Char) :
    (cs ++ c :: rest).dropWhile p = cs.dropWhile p ++ c :: rest := by
  induction cs with
  | nil => rw [List.nil_append, List.dropWhile_cons_of_neg (by simp [stops]), List.dropWhile_nil]; rfl
  | cons d cs ih =>
    rw [List.cons_append, List.dropWhile_cons, List.dropWhile_cons, ih]
    split <;> rfl

theorem drop_takeWhile_append (cs rest : List Char) :
    (cs ++ rest).drop (cs.takeWhile p).length = cs.drop (cs.takeWhile p).length ++ rest :=
  List.drop_append_of_le_length (List.takeWhile_prefix p).length_le

end Lists

variable {g cs : List Char}

/-- What is left behind a path in a text without a number sign: nothing, or a query. -/
def IsTail (cs : List Char) : Prop := cs = [] ∨ ∃ query, cs = '?' :: query ∧ '#' ∉ query

/-! ## Paths -/

theorem readSegments_append {special file : Bool} (clean : '#' ∉ cs) :
    ∀ segments current, IsTail (readSegments special file segments current cs).2 ∧
      readSegments special file segments current (cs ++ '#' :: g) =
        ((readSegments special file segments current cs).1,
          (readSegments special file segments current cs).2 ++ '#' :: g) := by
  have mark : isSlash special '#' = false := by cases special <;> decide
  induction cs with
  | nil =>
    intro segments current
    refine ⟨.inl rfl, ?_⟩
    rw [List.nil_append, readSegments.eq_2, mark, if_neg Bool.false_ne_true, if_pos (by decide)]
    rfl
  | cons c rest ih =>
    obtain ⟨ne, clean⟩ := List.ne_and_not_mem_of_not_mem_cons clean
    intro segments current
    rw [List.cons_append, readSegments, readSegments]
    split
    · exact ih clean _ _
    · split
      · rename_i ends
        refine ⟨.inr ⟨rest, ?_, clean⟩, rfl⟩
        have ends : c = '?' ∨ c = '#' := by simpa [endsPath] using ends
        rw [ends.resolve_right (Ne.symm ne)]
      · exact ih clean _ _

/-- A path that is read in front of a tail is read in the same way if a fragment is added. -/
structure Continues (g : List Char) (read read' : Path × List Char) : Prop where
  tail : IsTail read.2
  eq : read' = (read.1, read.2 ++ '#' :: g)

theorem readPath_continues (clean : '#' ∉ cs) (scheme : List Char) (segments : List (List Char)) :
    Continues g (readPath scheme segments cs) (readPath scheme segments (cs ++ '#' :: g)) := by
  obtain ⟨tail, eq⟩ := @readSegments_append g cs (isSpecial scheme) (isFile scheme) clean segments []
  refine ⟨tail, ?_⟩
  rw [readPath, eq]
  rfl

theorem trimSegments_nil (file : Bool) : trimSegments file [[]] = [[]] := by cases file <;> rfl

theorem readRootedPath_continues (clean : '#' ∉ cs) (scheme : List Char) :
    Continues g (readRootedPath scheme cs) (readRootedPath scheme (cs ++ '#' :: g)) := by
  cases cs with
  | nil =>
    have mark : isSlash (isSpecial scheme) '#' = false := by cases isSpecial scheme <;> decide
    rw [List.nil_append]
    simp only [readRootedPath, mark, Bool.false_eq_true, if_false]
    split
    · refine ⟨.inl rfl, ?_⟩
      rw [readPath, readSegments.eq_2, mark, if_neg Bool.false_ne_true, if_pos (by decide)]
      have last : addSegment (isFile scheme) [] [] false = [[]] := by cases isFile scheme <;> rfl
      simp only [List.reverse_nil, last, trimSegments_nil]
      rfl
    · exact ⟨.inl rfl, rfl⟩
  | cons c rest =>
    obtain ⟨ne, clean'⟩ := List.ne_and_not_mem_of_not_mem_cons clean
    rw [List.cons_append]
    simp only [readRootedPath]
    split
    · exact readPath_continues clean' _ _
    · split
      · exact readPath_continues clean _ _
      · split
        · rename_i ends
          have ends : c = '?' ∨ c = '#' := by simpa [endsPath] using ends
          rw [ends.resolve_right (Ne.symm ne)]
          exact ⟨.inr ⟨rest, rfl, clean'⟩, rfl⟩
        · exact readPath_continues clean _ _

theorem finish_continues {read read' : Path × List Char} (continues : Continues g read read')
    (scheme : List Char) (authority : Option Authority) :
    finish scheme authority read' =
      (finish scheme authority read).withFragment (Percent.encode encodeInFragment g) := by
  obtain ⟨path, rest⟩ := read
  obtain ⟨tail, rfl⟩ := continues
  rcases tail with rfl | ⟨query, rfl, clean⟩
  · rfl
  · have all : ∀ c ∈ query, (decide (c ≠ '#')) = true := fun c mem =>
      decide_eq_true fun same => clean (same ▸ mem)
    have before : (query ++ '#' :: g).takeWhile (fun c => decide (c ≠ '#')) = query := by
      rw [takeWhile_append_cons (by decide), List.takeWhile_eq_self_iff.2 all]
    have behind : (query ++ '#' :: g).dropWhile (fun c => decide (c ≠ '#')) = '#' :: g := by
      rw [dropWhile_append_cons (by decide), List.dropWhile_eq_nil_iff.2 all]
      rfl
    simp only [finish, List.cons_append, readTail, before, behind,
      List.takeWhile_eq_self_iff.2 all, List.dropWhile_eq_nil_iff.2 all]
    rfl

/-! ## Authorities -/

/-- How a URL is read again when a fragment is added to the text. -/
def Extends (g cs : List Char) (old new : Option Url) : Prop :=
  new = old.map (·.withFragment (Percent.encode encodeInFragment g)) ∨
    new = none ∧ '@' ∈ cs ∧ ∀ u ∈ old, '@' ∉ u.front

/-- What stands on the two sides of the user mark in the text of an authority. -/
def sides (span : List Char) : Option (List Char) × List Char :=
  ((splitLast? '@' span).map fun s => (some s.1, s.2)).getD (none, span)

/-- The text of the host behind the user mark. -/
def hostText (after : List Char) : List Char := after.take (hostLength false after)

/-- The text of the port behind that of the host, with its colon. -/
def portText (after : List Char) : List Char :=
  (after.drop (hostText after).length).takeWhile fun c => decide (c ≠ '\\')

/-- The text behind that of the port. -/
def behindPort (after : List Char) : List Char :=
  (after.drop (hostText after).length).drop (portText after).length

/-- Whether an authority without a host is refused, whatever stands behind it. -/
def isHostless (scheme : List Char) (credentials : List Char × Option (List Char))
    (after : List Char) : Bool :=
  (hostText after).isEmpty &&
    (isSpecial scheme || !(credentials.1.isEmpty && credentials.2.isNone) ||
      !(portText after).isEmpty)

/-- The host of its text. -/
def readHost? (scheme text : List Char) : Option Host :=
  if isSpecial scheme then Host.parse? text else Host.parseOpaque? text

/-- Whether an authority is refused because nothing stands on the two sides of its user mark,
    though something stands behind it. -/
def isBare (before : Option (List Char)) (after rest : List Char) : Bool :=
  (hostText after).isEmpty && before == some [] && !(behindPort after ++ rest).isEmpty

/-- The URL of what stands on the two sides of the user mark and behind the authority. -/
def ofSides? (scheme : List Char) (before : Option (List Char)) (after rest : List Char) :
    Option Url :=
  if isHostless scheme (readCredentials (before.getD [])) after || isBare before after rest then none
  else (readHost? scheme (hostText after)).bind fun host =>
    (readPort? scheme (portText after)).map fun port =>
      finish scheme
        (some ⟨(readCredentials (before.getD [])).1, (readCredentials (before.getD [])).2, host, port⟩)
        (readRootedPath scheme (behindPort after ++ rest))

theorem readAuthority?_eq (scheme cs span rest : List Char)
    (before : cs.takeWhile (fun c => !endsAuthority (isSpecial scheme) c) = span)
    (behind : cs.drop span.length = rest) :
    readAuthority? scheme cs = ofSides? scheme (sides span).1 (sides span).2 rest := by
  -- the host is read in two ways, and the port behind it in one
  have read {host? host?' : Option Host} {port? : Option (Option Nat)}
      (url : Host → Option Nat → Url) :
      (if isSpecial scheme then host?.bind fun host => port?.bind fun port => some (url host port)
        else host?'.bind fun host => port?.bind fun port => some (url host port)) =
      (if isSpecial scheme then host? else host?').bind fun host => port?.map (url host) := by
    have ports : (fun host => port?.bind fun port => some (url host port)) =
        fun host => port?.map (url host) := funext fun host => Option.map_eq_bind.symm
    rw [ports]
    split <;> rfl
  unfold readAuthority? sides
  dsimp only
  rw [before, behind]
  cases splitLast? '@' span <;>
  · simp only [Option.map_none, Option.map_some, Option.getD_none, Option.getD_some, ofSides?,
      isHostless, isBare, readHost?, behindPort, portText, hostText]
    split
    · rename_i empty
      simp only [empty, Bool.true_and]
      split
      · rfl
      · exact read _
    · rename_i some
      rw [Bool.not_eq_true] at some
      simp only [some, Bool.false_and, Bool.or_false, Bool.false_eq_true, if_false]
      exact read _

theorem mem_of_splitLast? {d : Char} {before after : List Char}
    (split : splitLast? d cs = some (before, after)) : d ∈ cs ∧ ∀ c ∈ after, c ∈ cs := by
  rw [splitLast?] at split
  split at split
  · rename_i contains
    cases split
    refine ⟨by simpa using contains, fun c mem => ?_⟩
    exact List.mem_reverse.1 ((List.takeWhile_sublist _).mem (List.mem_reverse.1 mem))
  · cases split

theorem mem_of_mem_sides {c : Char} {span : List Char} (mem : c ∈ (sides span).2) : c ∈ span := by
  rw [sides] at mem
  cases split : splitLast? '@' span with
  | none =>
    rw [split] at mem
    exact mem
  | some s =>
    rw [split] at mem
    exact (mem_of_splitLast? split).2 c mem

theorem mem_of_sides {before : List Char} {span : List Char} (marked : (sides span).1 = some before) :
    '@' ∈ span := by
  rw [sides] at marked
  cases split : splitLast? '@' span with
  | none =>
    rw [split] at marked
    cases marked
  | some s => exact (mem_of_splitLast? split).1

theorem mem_of_mem_behindPort {c : Char} {after : List Char} (mem : c ∈ behindPort after) :
    c ∈ after := List.mem_of_mem_drop (List.mem_of_mem_drop mem)

/-- A bare user mark is not written again. -/
theorem not_mem_front_of_bare {scheme after : List Char} {before : Option (List Char)}
    (plain : '@' ∉ scheme) (empty : hostText after = []) (bare : before = some [])
    (hosted : isHostless scheme (readCredentials (before.getD [])) after = false)
    (end_ : behindPort after ++ rest = []) {u : Url} (read : ofSides? scheme before after rest = some u) :
    '@' ∉ u.front := by
  subst bare
  have credentials : readCredentials ((some ([] : List Char)).getD []) = ([], none) := rfl
  rw [credentials, isHostless, empty] at hosted
  have web : isSpecial scheme = false := by
    cases web : isSpecial scheme
    · rfl
    · rw [web] at hosted
      cases hosted
  have port : portText after = [] := by
    rw [web] at hosted
    simpa using hosted
  rw [ofSides?] at read
  split at read
  · cases read
  · rw [credentials, readHost?, web, empty, port, end_] at read
    have host : Host.parseOpaque? [] = some (.name []) := rfl
    rw [if_neg Bool.false_ne_true, host, Option.bind_some, readPort?, Option.map_some] at read
    · cases read
      rw [front, finish, readRootedPath, web, if_neg Bool.false_ne_true]
      simpa [authorityText, Authority.text, Authority.credentials, Host.text, Path.text, readTail,
        readFragment] using plain
    · exact nofun

theorem readAuthority?_extends (clean : '#' ∉ cs) {scheme : List Char} (plain : '@' ∉ scheme) :
    Extends g cs (readAuthority? scheme cs) (readAuthority? scheme (cs ++ '#' :: g)) := by
  have ends : (fun c => !endsAuthority (isSpecial scheme) c) '#' = false := by
    cases isSpecial scheme <;> decide
  rw [readAuthority?_eq scheme cs _ _ rfl rfl,
    readAuthority?_eq scheme (cs ++ '#' :: g) _ _ (takeWhile_append_cons ends _ _)
      (drop_takeWhile_append _ _)]
  generalize hs : cs.takeWhile _ = span
  have inside : ∀ c ∈ span, c ∈ cs := fun c mem => (List.takeWhile_sublist _).mem (hs ▸ mem)
  generalize hr : cs.drop _ = rest
  have outside : ∀ c ∈ rest, c ∈ cs := fun c mem => List.mem_of_mem_drop (hr ▸ mem)
  have cleanR : '#' ∉ behindPort (sides span).2 ++ rest := fun mem =>
    (List.mem_append.1 mem).elim
      (fun mem => clean (inside _ (mem_of_mem_sides (mem_of_mem_behindPort mem))))
      fun mem => clean (outside _ mem)
  cases hosted : isHostless scheme (readCredentials ((sides span).1.getD [])) (sides span).2 with
  | true =>
    refine .inl ?_
    rw [ofSides?, ofSides?, hosted, Bool.true_or, Bool.true_or, if_pos rfl, if_pos rfl]
    rfl
  | false =>
    have filled : (behindPort (sides span).2 ++ (rest ++ '#' :: g)).isEmpty = false := by
      rw [List.isEmpty_eq_false_iff]
      simp
    cases bare : (hostText (sides span).2).isEmpty && (sides span).1 == some [] with
    | true =>
      have new : isBare (sides span).1 (sides span).2 (rest ++ '#' :: g) = true := by
        rw [isBare, bare, filled]
        rfl
      rw [show ofSides? scheme _ _ (rest ++ '#' :: g) = none by
        rw [ofSides?, new, Bool.or_true, if_pos rfl]]
      obtain ⟨empty, before⟩ := (Bool.and_eq_true _ _).mp bare
      have before : (sides span).1 = some [] := by simpa using before
      by_cases none : behindPort (sides span).2 ++ rest = []
      · refine .inr ⟨rfl, inside _ (mem_of_sides before), fun u read => ?_⟩
        exact not_mem_front_of_bare plain (List.isEmpty_iff.1 empty) before hosted none read
      · refine .inl ?_
        have old : isBare (sides span).1 (sides span).2 rest = true := by
          rw [isBare, bare, List.isEmpty_eq_false_iff.2 none]
          rfl
        rw [ofSides?, old, Bool.or_true, if_pos rfl]
        rfl
    | false =>
      have taken : ∀ behind, isBare (sides span).1 (sides span).2 behind = false := fun behind => by
        rw [isBare, bare, Bool.false_and]
      refine .inl ?_
      rw [ofSides?, ofSides?, hosted, taken, taken, if_neg (by decide), if_neg (by decide),
        ← List.append_assoc]
      simp only [finish_continues (readRootedPath_continues (g := g) cleanR scheme)]
      rw [Option.map_bind]
      simp only [Function.comp_def, Option.map_map]

/-! ## Files -/

theorem readFileHost?_append (clean : '#' ∉ cs) :
    readFileHost? (cs ++ '#' :: g) =
      (readFileHost? cs).map (·.withFragment (Percent.encode encodeInFragment g)) := by
  have ends : (fun c => !(c == '/' || c == '\\' || endsPath c)) '#' = false := by decide
  unfold readFileHost?
  dsimp only
  rw [takeWhile_append_cons ends, drop_takeWhile_append]
  split
  · rw [finish_continues (readPath_continues clean fileScheme [])]
    rfl
  · have cleanR : '#' ∉ cs.drop (cs.takeWhile
        fun c => !(c == '/' || c == '\\' || endsPath c)).length :=
      fun mem => clean (List.mem_of_mem_drop mem)
    have continues := readRootedPath_continues (g := g) cleanR fileScheme
    have path : (readRootedPath fileScheme _).1 = _ := congrArg Prod.fst continues.eq
    rw [path]
    simp only [finish_continues continues]
    split
    · rfl
    · cases Host.parse? _ <;> rfl

theorem slash?_append : slash? (cs ++ '#' :: g) = (slash? cs).map (· ++ '#' :: g) := by
  cases cs with
  | nil => rfl
  | cons c rest =>
    by_cases fore : c = '/'
    · subst fore
      rfl
    · by_cases back : c = '\\'
      · subst back
        rfl
      · simp [slash?, fore, back]

theorem not_mem_of_slash? {behind : List Char} (clean : '#' ∉ cs) (slash : slash? cs = some behind) :
    '#' ∉ behind := by
  unfold slash? at slash
  split at slash
  · cases slash
    exact fun mem => clean (List.mem_cons_of_mem _ mem)
  · cases slash
    exact fun mem => clean (List.mem_cons_of_mem _ mem)
  · cases slash

theorem readFile?_append (clean : '#' ∉ cs) :
    readFile? none (cs ++ '#' :: g) =
      (readFile? none cs).map (·.withFragment (Percent.encode encodeInFragment g)) := by
  unfold readFile?
  rw [slash?_append]
  cases slash : slash? cs with
  | none =>
    dsimp only [Option.map_none, Option.filter_none]
    rw [finish_continues (readPath_continues clean fileScheme [])]
    rfl
  | some behind =>
    have clean := not_mem_of_slash? clean slash
    dsimp only [Option.map_some, Option.filter_none]
    rw [slash?_append]
    cases slash' : slash? behind with
    | none =>
      dsimp only [Option.map_none, Option.bind_none]
      rw [finish_continues (readPath_continues clean fileScheme []), ite_self, ite_self]
      rfl
    | some behind' => exact readFileHost?_append (not_mem_of_slash? clean slash')

/-! ## Whole URLs -/

theorem opaque_continues (clean : '#' ∉ cs) :
    Continues g
      (.opaqueText (Percent.encode Host.isControl (cs.takeWhile fun c => !endsPath c)),
        cs.drop (cs.takeWhile fun c => !endsPath c).length)
      (.opaqueText (Percent.encode Host.isControl ((cs ++ '#' :: g).takeWhile fun c => !endsPath c)),
        (cs ++ '#' :: g).drop ((cs ++ '#' :: g).takeWhile fun c => !endsPath c).length) := by
  have ends : (fun c => !endsPath c) '#' = false := by decide
  rw [takeWhile_append_cons ends, drop_takeWhile_append]
  refine ⟨?_, rfl⟩
  dsimp only
  induction cs with
  | nil => exact .inl rfl
  | cons c rest ih =>
    obtain ⟨ne, clean⟩ := List.ne_and_not_mem_of_not_mem_cons clean
    rw [List.takeWhile_cons]
    split
    · exact ih clean
    · rename_i stops
      have stops : endsPath c = true := by simpa using stops
      have stops : c = '?' ∨ c = '#' := by simpa [endsPath] using stops
      exact .inr ⟨rest, by rw [stops.resolve_right (Ne.symm ne)]; rfl, clean⟩

theorem readScheme?_extends (clean : '#' ∉ cs) {scheme : List Char} (plain : '@' ∉ scheme) :
    Extends g cs (readScheme? none scheme cs) (readScheme? none scheme (cs ++ '#' :: g)) := by
  have slash : isSlash true '#' = false := by decide
  unfold readScheme?
  split
  · exact .inl (readFile?_append clean)
  · split
    · dsimp only
      rw [takeWhile_append_cons slash, drop_takeWhile_append]
      have cleanR : '#' ∉ cs.drop (cs.takeWhile (isSlash true)).length :=
        fun mem => clean (List.mem_of_mem_drop mem)
      rcases readAuthority?_extends (g := g) cleanR plain with same | ⟨none, marked, bare⟩
      · exact .inl same
      · exact .inr ⟨none, List.mem_of_mem_drop marked, bare⟩
    · have opaqueText := finish_continues (opaque_continues (g := g) clean) scheme none
      rcases cs with _ | ⟨c, cs⟩
      · exact .inl (congrArg some opaqueText)
      · by_cases first : c = '/'
        · subst first
          have clean := (List.ne_and_not_mem_of_not_mem_cons clean).2
          rcases cs with _ | ⟨d, cs⟩
          · exact .inl (congrArg some (finish_continues (readPath_continues clean scheme []) _ _))
          · by_cases second : d = '/'
            · subst second
              have clean := (List.ne_and_not_mem_of_not_mem_cons clean).2
              rcases readAuthority?_extends (g := g) clean plain with same | ⟨none, marked, bare⟩
              · exact .inl same
              · exact .inr ⟨none, List.mem_cons_of_mem _ (List.mem_cons_of_mem _ marked), bare⟩
            · simp only [List.cons_append, List.cons.injEq, second, false_and, imp_self, implies_true]
              exact .inl (congrArg some (finish_continues (readPath_continues clean scheme []) _ _))
        · simp only [List.cons_append, List.cons.injEq, first, false_and, imp_self, implies_true]
          exact .inl (congrArg some opaqueText)

theorem not_mem_of_scheme? {scheme rest : List Char} (read : scheme? cs = some (scheme, rest)) :
    '@' ∉ scheme ∧ ∀ c ∈ rest, c ∈ cs := by
  unfold scheme? at read
  dsimp only at read
  split at read
  · rename_i behind
    split at read
    · cases read
      refine ⟨fun mem => ?_, fun c mem => ?_⟩
      · obtain ⟨d, memD, lower⟩ := List.mem_map.1 mem
        have inside : isSchemeChar d = true := List.mem_takeWhile_imp memD
        unfold Char.toLower at lower
        split at lower
        · rename_i upper
          have lower : d.val + ('a'.val - 'A'.val) = '@'.val := congrArg Char.val lower
          have above : 65 ≤ d.val.toNat := upper.1
          have below : d.val.toNat ≤ 90 := upper.2
          have sum := congrArg UInt32.toNat lower
          rw [UInt32.toNat_add, Nat.mod_eq_of_lt] at sum
          · have sum : d.val.toNat + 32 = 64 := sum
            omega
          · show d.val.toNat + 32 < 2 ^ 32
            omega
        · subst lower
          cases inside
      · exact List.mem_of_mem_drop (behind ▸ List.mem_cons_of_mem _ mem)
    · cases read
  · cases read

/-- Neither a scheme nor its colon ends at another character. -/
theorem scheme?_append {c : Char} (ends : isSchemeChar c = false) (other : c ≠ ':') :
    scheme? (cs ++ c :: g) = (scheme? cs).map fun read => (read.1, read.2 ++ c :: g) := by
  unfold scheme?
  dsimp only
  rw [takeWhile_append_cons ends, drop_takeWhile_append]
  cases cs with
  | nil => simp [other]
  | cons d rest =>
    rw [List.cons_append, List.head?_cons, List.head?_cons]
    cases List.drop _ (d :: rest) with
    | nil => simp [other]
    | cons e behind =>
      rw [List.cons_append]
      by_cases colon : e = ':'
      · subst colon
        by_cases alpha : d.isAlpha = true <;> simp [alpha]
      · simp [colon]

/-- Whether a text ends with a character that is not cut off. -/
def EndsVisibly (text : List Char) : Prop := ∀ c, text.getLast? = some c → ¬ c.toNat ≤ 0x20

/-- What counts of a fragment at the end of a text. -/
def counted (fragment : List Char) : List Char :=
  (fragment.reverse.dropWhile fun c => c.toNat ≤ 0x20).reverse.filter fun c =>
    c ≠ '\t' ∧ c ≠ '\n' ∧ c ≠ '\r'

/-- Everything counts of a fragment without breaks that ends with a visible character. -/
theorem counted_eq_self {fragment : List Char} (visible : EndsVisibly fragment)
    (unbroken : ∀ c ∈ fragment, c ≠ '\t' ∧ c ≠ '\n' ∧ c ≠ '\r') : counted fragment = fragment := by
  have kept : fragment.reverse.dropWhile (fun c => decide (c.toNat ≤ 0x20)) = fragment.reverse := by
    cases last : fragment.reverse with
    | nil => rfl
    | cons c rest =>
      have found : fragment.getLast? = some c := by rw [← List.head?_reverse, last]; rfl
      rw [List.dropWhile_cons_of_neg (by simpa using visible c found)]
  rw [counted, kept, List.reverse_reverse]
  exact List.filter_eq_self.2 fun c mem => decide_eq_true (unbroken c mem)

/-- What counts of a text in front of a fragment: blanks count if they are at its end. -/
def countedInFront (text : List Char) : List Char :=
  (text.dropWhile fun c => c.toNat ≤ 0x20).filter fun c => c ≠ '\t' ∧ c ≠ '\n' ∧ c ≠ '\r'

theorem trimmed_append (text fragment : List Char) :
    trimmed (text ++ '#' :: fragment) = countedInFront text ++ '#' :: counted fragment := by
  have ends : (fun c : Char => decide (c.toNat ≤ 0x20)) '#' = false := by decide
  unfold trimmed counted countedInFront
  dsimp only
  rw [dropWhile_append_cons ends, List.reverse_append, List.reverse_cons, List.append_assoc,
    List.singleton_append, dropWhile_append_cons ends, List.reverse_append, List.reverse_cons,
    List.reverse_reverse, List.append_assoc, List.singleton_append, List.filter_append]
  exact congrArg _ (List.filter_cons_of_pos (by decide))

/-- Blanks at its end are all that a text has more in front of a fragment. -/
theorem countedInFront_eq (text : List Char) : ∃ blanks, countedInFront text = trimmed text ++ blanks ∧
    (∀ c ∈ blanks, c.toNat ≤ 0x20) ∧ (EndsVisibly text → blanks = []) := by
  let outer := text.dropWhile fun c => decide (c.toNat ≤ 0x20)
  let cut := (outer.reverse.takeWhile fun c => decide (c.toNat ≤ 0x20)).reverse
  refine ⟨cut.filter fun c => c ≠ '\t' ∧ c ≠ '\n' ∧ c ≠ '\r', ?_, fun c mem => ?_, fun visible => ?_⟩
  · have split : (outer.reverse.dropWhile fun c => decide (c.toNat ≤ 0x20)).reverse ++ cut = outer := by
      rw [← List.reverse_append, List.takeWhile_append_dropWhile, List.reverse_reverse]
    rw [trimmed, ← List.filter_append, split]
    rfl
  · have mem := List.mem_reverse.1 (List.mem_filter.1 mem).1
    have low : decide (c.toNat ≤ 0x20) = true :=
      List.mem_takeWhile_imp (p := fun c : Char => decide (c.toNat ≤ 0x20)) mem
    exact of_decide_eq_true low
  · suffices none : cut = [] by rw [none]; rfl
    show List.reverse _ = []
    cases last : outer.reverse with
    | nil => rfl
    | cons c rest =>
      have found : text.getLast? = some c := by
        rw [← List.takeWhile_append_dropWhile (p := fun c => decide (c.toNat ≤ 0x20)) (l := text),
          List.getLast?_append, ← List.head?_reverse, show List.reverse (List.dropWhile _ text) = _
            from last]
        rfl
      rw [List.takeWhile_cons_of_neg (by simpa using visible c found), List.reverse_nil]

theorem trimmed_append_of_visible {text : List Char} (visible : EndsVisibly text)
    (fragment : List Char) :
    trimmed (text ++ '#' :: fragment) = trimmed text ++ '#' :: counted fragment := by
  obtain ⟨blanks, shape, -, none⟩ := countedInFront_eq text
  rw [trimmed_append, shape, none visible, List.append_nil]

/-- Without a scheme there is no URL, whichever fragment is added. -/
theorem parse?_append_of_scheme? {text : List Char} (plain : scheme? (trimmed text) = none)
    (fragment : List Char) : parse? (String.ofList (text ++ '#' :: fragment)) = none := by
  obtain ⟨blanks, shape, low, -⟩ := countedInFront_eq text
  have front : scheme? (countedInFront text) = none := by
    rw [shape]
    cases blanks with
    | nil => rwa [List.append_nil]
    | cons c blanks =>
      have low := low c List.mem_cons_self
      have ends : ∀ n ≤ 0x20, isSchemeChar (Char.ofNat n) = false := by decide
      have ends := ends _ low
      rw [Char.ofNat_toNat] at ends
      rw [scheme?_append ends (by rintro rfl; exact absurd low (by decide)), plain, Option.map_none]
  have whole : scheme? (trimmed (text ++ '#' :: fragment)) = none := by
    rw [trimmed_append, scheme?_append (by decide) (by decide), front, Option.map_none]
  rw [parse?, read?, String.toList_ofList]
  simp only [whole]

/-- A text is read again in the same way if a fragment is added to it, with one exception. -/
theorem parse?_extends {document : String} (clean : '#' ∉ document.toList)
    (visible : EndsVisibly document.toList) (fragment : List Char) :
    Extends (counted fragment) document.toList (parse? document)
      (parse? (String.ofList (document.toList ++ '#' :: fragment))) := by
  have text := trimmed_append_of_visible visible fragment
  have inside : ∀ c ∈ trimmed document.toList, c ∈ document.toList := fun c mem => by
    have mem := (List.mem_filter.1 mem).1
    have mem := (List.dropWhile_sublist _).mem (List.mem_reverse.1 mem)
    exact (List.dropWhile_sublist _).mem (List.mem_reverse.1 mem)
  unfold parse? read?
  dsimp only
  rw [String.toList_ofList, text, scheme?_append (by decide) (by decide)]
  cases read : scheme? (trimmed document.toList) with
  | none => exact .inl rfl
  | some parts =>
    obtain ⟨plain, rest⟩ := not_mem_of_scheme? read
    have cleanR : '#' ∉ parts.2 := fun mem => clean (inside _ (rest _ mem))
    rcases readScheme?_extends cleanR plain with same | ⟨none, marked, bare⟩
    · exact .inl same
    · exact .inr ⟨none, inside _ (rest _ marked), bare⟩

end Url

end JsonSchema
