import Mathlib.Data.List.TakeWhile
import Mathlib.Data.List.Basic
import JsonSchema.Loader.Files
import JsonSchema.Proofs.Store.Pointers

/-!
# Files below a directory

A loader of files looks for a document at a path that goes on from its directory by names. Only
where an identifier says nothing about the place of its file, and nothing is where the directory
should be, it looks beside the directory: the extension is added to the name of the directory
itself.

* `FilePath.Follows`: a path goes on from another one by names.
* `FilePath.steps_join`, `FilePath.steps_addExtension`: the steps of a path that is put together.
* `FileTree.placeOf_eq`: the place that a path names is found step by step.
* `FileLoader.path?_follows`: where the file of an identifier is.
* `FileLoader.path?_beside`: the file beside the directory.
-/

namespace JsonSchema

/-- A name of something in a directory: it leads neither to the directory itself nor out of it,
    and it is one name. -/
structure IsName (name : String) : Prop where
  counts : FilePath.counts name = true
  notAbove : name ≠ ".."
  single : '/' ∉ name.toList

namespace FilePath

/-- A path that goes on from another one by names. -/
structure Follows (path dir : FilePath) (names : List String) : Prop where
  ordinary : ∀ name ∈ names, IsName name
  steps : path.steps = dir.steps ++ names.map Step.down

/-! ## Steps -/

/-- The step at the start of a path that no name stands for. -/
def origin (path : FilePath) : List Step :=
  if path.isAbsolute then [Step.root]
  else if path.parts.head? = some "." then [Step.here]
  else []

theorem steps_eq (path : FilePath) :
    path.steps = path.origin ++ (path.parts.filter counts).map Step.ofPart := rfl

/-- Where a path starts is told by its first part and, if this is empty, by whether there are
    others. -/
theorem origin_congr {a b : FilePath} (head : a.parts.head? = b.parts.head?)
    (more : b.parts.head? = some "" → (1 < a.parts.length ↔ 1 < b.parts.length)) :
    a.origin = b.origin := by
  have same : a.isAbsolute = b.isAbsolute := by
    rw [isAbsolute, isAbsolute, head]
    by_cases empty : b.parts.head? = some ""
    · rw [decide_eq_decide.2 (more empty)]
    · rw [decide_eq_false empty, Bool.false_and, Bool.false_and]
  rw [origin, origin, same, head]

theorem counts_empty : counts "" = false := rfl

/-- A path of names starts nowhere else, and its steps are its parts that count. -/
theorem names_of_isDown {path : FilePath} (down : path.steps.all Step.isDown = true) :
    path.origin = [] ∧ (∀ part ∈ path.parts.filter counts, part ≠ "..") ∧
      path.steps = (path.parts.filter counts).map Step.down := by
  rw [steps_eq, List.all_append, Bool.and_eq_true] at down
  have nowhere : path.origin = [] := by
    have kept := down.1
    rw [origin] at kept ⊢
    split at kept
    · cases kept
    · split at kept
      · cases kept
      · rw [if_neg ‹_›, if_neg ‹_›]
  have named : ∀ part ∈ path.parts.filter counts, part ≠ ".." := by
    rintro part mem rfl
    have isDown := List.all_eq_true.1 down.2 _ (List.mem_map_of_mem mem)
    cases isDown
  refine ⟨nowhere, named, ?_⟩
  rw [steps_eq, nowhere, List.nil_append]
  exact List.map_congr_left fun part mem => if_neg (named part mem)

/-- A path below another one keeps all its parts but an empty one at the end. -/
theorem parts_join (dir below : FilePath) : ∃ kept last : List String,
    dir.parts = kept ++ last ∧ (dir.join below).parts = kept ++ below.parts ∧
      (last = [""] ∨ last = [] ∧ kept.getLast? ≠ some "") := by
  by_cases slash : dir.parts.getLast? = some ""
  · refine ⟨dir.parts.dropLast, [""], ?_, by rw [join, if_pos slash], .inl rfl⟩
    exact (List.dropLast_append_getLast? _ slash).symm
  · exact ⟨dir.parts, [], by rw [List.append_nil], by rw [join, if_neg slash], .inr ⟨rfl, slash⟩⟩

/-- The steps of a path below another one are the steps of both. -/
theorem steps_join {dir below : FilePath} (written : below.parts ≠ [])
    (relative : below.origin = []) : (dir.join below).steps = dir.steps ++ below.steps := by
  obtain ⟨kept, last, parts, joined, slash⟩ := parts_join dir below
  have counted : last.filter counts = [] := by
    rcases slash with rfl | ⟨rfl, -⟩ <;> rfl
  have starts : (dir.join below).origin = dir.origin := by
    cases kept with
    | nil =>
      have whole : dir.join below = below := congrArg FilePath.mk joined
      rw [whole, relative, origin, isAbsolute, parts]
      rcases slash with rfl | ⟨rfl, -⟩ <;> rfl
    | cons part kept =>
      refine origin_congr (by rw [parts, joined]; rfl) fun head => ?_
      have more : 0 < below.parts.length ∧ 0 < (kept ++ last).length := by
        refine ⟨List.length_pos_iff.2 written, List.length_pos_iff.2 fun alone => ?_⟩
        obtain ⟨rfl, rfl⟩ := List.append_eq_nil_iff.1 alone
        rcases slash with wrong | ⟨-, named⟩
        · cases wrong
        · exact named (by rwa [parts] at head)
      rw [parts, joined]
      simp only [List.length_append, List.length_cons] at more ⊢
      omega
  rw [steps_eq below, relative, List.nil_append, steps_eq, steps_eq dir, starts, joined, parts,
    List.filter_append, List.filter_append, counted, List.append_nil, List.map_append,
    List.append_assoc]

/-- A name starts a relative path. -/
theorem origin_of_counts {path : FilePath} {part : String} (head : path.parts.head? = some part)
    (counted : counts part = true) : path.origin = [] := by
  obtain ⟨filled, dot⟩ : part ≠ "" ∧ part ≠ "." := by simpa [counts] using counted
  simp [origin, isAbsolute, head, filled, dot]

/-- A name with an extension is a name. -/
theorem counts_append {name : String} (counted : counts name = true) (extension : String) :
    counts (name ++ "." ++ extension) = true ∧ name ++ "." ++ extension ≠ ".." := by
  obtain ⟨filled, dot⟩ : name ≠ "" ∧ name ≠ "." := by simpa [counts] using counted
  obtain ⟨c, cs, written⟩ : ∃ c cs, name.toList = c :: cs :=
    List.exists_cons_of_ne_nil fun empty => filled (String.toList_eq_nil_iff.1 empty)
  have whole : (name ++ "." ++ extension).toList = c :: (cs ++ '.' :: extension.toList) := by
    simp [written]
  have long (text : String) (same : name ++ "." ++ extension = text) :
      ∃ rest, text.toList = c :: (cs ++ '.' :: rest) := ⟨extension.toList, same ▸ whole⟩
  have notAbove : name ++ "." ++ extension ≠ ".." := by
    intro same
    obtain ⟨rest, dots⟩ := long _ same
    cases cs with
    | nil =>
      -- the name would be a dot
      injection dots with first
      exact dot (String.toList_inj.1 (by rw [written, ← first]; rfl))
    | cons c' cs => simp at dots
  refine ⟨?_, notAbove⟩
  have notEmpty : name ++ "." ++ extension ≠ "" := fun same => by simpa using long _ same
  have notDot : name ++ "." ++ extension ≠ "." := fun same => by simpa using long _ same
  simp only [counts, notEmpty, notDot, ne_eq, not_false_eq_true, decide_true, Bool.and_self]

/-- The last name of a path is its last part that counts. -/
theorem parts_of_fileName? {path : FilePath} {name : String}
    (named : path.fileName? = some name) : counts name = true ∧ name ≠ ".." ∧
      ∃ above silent : List String, path.parts = above.reverse ++ name :: silent ∧
        silent.filter counts = [] ∧
        (path.parts.reverse.dropWhile fun part => !counts part) = name :: above := by
  have last : path.steps.getLast? = some (.down name) := by
    rw [fileName?] at named
    split at named
    · cases named
      assumption
    · cases named
  have silent : (path.parts.reverse.takeWhile fun part => !counts part).reverse.filter counts =
      [] := by
    refine List.filter_eq_nil_iff.2 fun part mem => ?_
    simpa using List.mem_takeWhile_imp (List.mem_reverse.1 mem)
  have parts : path.parts = (path.parts.reverse.dropWhile fun part => !counts part).reverse ++
      (path.parts.reverse.takeWhile fun part => !counts part).reverse := by
    rw [← List.reverse_append, List.takeWhile_append_dropWhile, List.reverse_reverse]
  cases rest : path.parts.reverse.dropWhile fun part => !counts part with
  | nil =>
    rw [rest, List.reverse_nil, List.nil_append] at parts
    rw [steps_eq, parts, silent, List.map_nil, List.append_nil, origin] at last
    split at last
    · cases last
    · split at last <;> cases last
  | cons part above =>
    have counted : counts part = true := by
      have head := List.head?_dropWhile_not (fun part => !counts part) path.parts.reverse
      rw [rest] at head
      simpa using head
    rw [rest, List.reverse_cons, List.append_assoc] at parts
    rw [steps_eq, parts, List.filter_append, List.singleton_append,
      List.filter_cons_of_pos counted, silent, List.map_append, ← List.append_assoc,
      List.map_singleton, List.getLast?_concat, Step.ofPart] at last
    split at last
    · cases last
    · cases last
      exact ⟨counted, ‹_›, above, _, parts, silent, rfl⟩

/-- An extension is added to the last step. -/
theorem steps_addExtension {path : FilePath} {name : String}
    (named : path.fileName? = some name) (extension : String) :
    ∃ above, path.steps = above ++ [.down name] ∧
      (path.addExtension extension).steps = above ++ [.down (name ++ "." ++ extension)] := by
  obtain ⟨counted, notAbove, above, silent, parts, nothing, rest⟩ := parts_of_fileName? named
  obtain ⟨counted', notAbove'⟩ := counts_append counted extension
  have added : (path.addExtension extension).parts =
      above.reverse ++ [name ++ "." ++ extension] := by
    rw [addExtension, named, rest]
    exact List.reverse_cons
  have starts : (path.addExtension extension).origin = path.origin := by
    cases front : above.reverse with
    | nil =>
      rw [front] at added parts
      rw [origin_of_counts (congrArg List.head? added) counted',
        origin_of_counts (congrArg List.head? parts) counted]
    | cons part front' =>
      rw [front] at added parts
      refine origin_congr (by rw [added, parts]; rfl) fun _ => ?_
      simp only [added, parts, List.length_append, List.length_cons]
      omega
  refine ⟨path.origin ++ (above.reverse.filter counts).map Step.ofPart, ?_, ?_⟩
  · rw [steps_eq, parts, List.filter_append, List.filter_cons_of_pos counted, nothing,
      List.map_append, List.append_assoc]
    rw [List.map_singleton, Step.ofPart, if_neg notAbove]
  · rw [steps_eq, starts, added, List.filter_append, List.filter_cons_of_pos counted',
      List.map_append, List.append_assoc]
    rw [List.filter_nil, List.map_singleton, Step.ofPart, if_neg notAbove']

end FilePath

/-! ## Places -/

/-- The place that a step leads to. -/
def Step.lead (place : Location) : Step → Location
  | root => []
  | here => place
  | above => place.dropLast
  | down name => place ++ [name]

theorem Step.lead_down (names : List String) (place : Location) :
    (names.map down).foldl lead place = place ++ names := by
  induction names generalizing place with
  | nil => exact (List.append_nil place).symm
  | cons name names ih =>
    rw [List.map_cons, List.foldl_cons, ih, lead, List.append_assoc]
    rfl

/-- The place that a path names is found step by step. -/
theorem FileTree.placeOf_eq (tree : FileTree) (path : FilePath) :
    tree.placeOf path = path.steps.foldl Step.lead tree.current := by
  have starts : path.origin.foldl Step.lead tree.current =
      if path.isAbsolute then [] else tree.current := by
    rw [FilePath.origin]
    split
    · rfl
    · split <;> rfl
  rw [FilePath.steps_eq, List.foldl_append, starts, List.foldl_map, List.foldl_filter, placeOf]
  congr 1
  funext place part
  by_cases counted : FilePath.counts part = true
  · by_cases up : part = ".."
    · subst up
      simp [counted, Step.ofPart, Step.lead]
    · simp [counted, up, Step.ofPart, Step.lead]
  · simp [counted]

/-- A path that goes on from a directory by names leads to what has these names in the
    directory. -/
theorem FilePath.Follows.placeOf {path dir : FilePath} {names : List String}
    (follows : path.Follows dir names) (tree : FileTree) :
    tree.placeOf path = tree.placeOf dir ++ names := by
  rw [tree.placeOf_eq, tree.placeOf_eq, follows.steps, List.foldl_append, Step.lead_down]

/-! ## Identifiers -/

namespace FileLoader

variable {loader : FileLoader} {tree : FileTree} {uri : String} {path : FilePath}

/-- The path of an identifier has parts, and each is without slashes. -/
theorem relativePath_parts (loader : FileLoader) (uri : String) :
    (loader.relativePath uri).parts ≠ [] ∧
      ∀ part ∈ (loader.relativePath uri).parts, '/' ∉ part.toList := by
  rw [relativePath, FilePath.trimStart]
  split
  · refine ⟨List.cons_ne_nil _ _, fun part mem => ?_⟩
    cases List.mem_singleton.1 mem
    exact List.not_mem_nil
  · rename_i written
    refine ⟨written, fun part mem => ?_⟩
    obtain ⟨cs, between, rfl⟩ : ∃ cs ∈ Text.splitOn '/' (loader.placeText uri).toList,
        String.ofList cs = part := List.mem_map.1 ((List.dropWhile_sublist _).subset mem)
    rw [String.toList_ofList]
    exact Text.not_mem_of_mem_splitOn between

/-- An identifier whose path takes only steps down says names. -/
theorem follows_join (down : (loader.relativePath uri).steps.all Step.isDown = true) :
    ∃ names, (loader.relativePath uri).steps = names.map Step.down ∧
      (loader.directory.join (loader.relativePath uri)).Follows loader.directory names := by
  obtain ⟨nowhere, named, steps⟩ := FilePath.names_of_isDown down
  obtain ⟨written, single⟩ := loader.relativePath_parts uri
  refine ⟨_, steps, fun name mem => ?_, ?_⟩
  · exact ⟨(List.mem_filter.1 mem).2, named name mem, single name (List.mem_filter.1 mem).1⟩
  · rw [FilePath.steps_join written nowhere, steps]

/-- An extension is added to the last name, or to that of the directory if there are no names. -/
theorem follows_addExtension {path dir : FilePath} {names : List String}
    (follows : path.Follows dir names) {extension : String} (plain : '/' ∉ extension.toList) :
    (∃ names', (path.addExtension extension).Follows dir names') ∨
      names = [] ∧ ∃ above name, path.fileName? = some name ∧
        dir.steps = above ++ [.down name] ∧
        (path.addExtension extension).steps = above ++ [.down (name ++ "." ++ extension)] := by
  cases named : path.fileName? with
  | none =>
    rw [FilePath.addExtension, named]
    exact .inl ⟨names, follows⟩
  | some name =>
    obtain ⟨above, steps, added⟩ := FilePath.steps_addExtension named extension
    rw [follows.steps] at steps
    rcases List.eq_nil_or_concat names with rfl | ⟨front, last, rfl⟩
    · rw [List.map_nil, List.append_nil] at steps
      exact .inr ⟨rfl, above, name, rfl, steps, added⟩
    · rw [List.concat_eq_append, List.map_append, List.map_singleton, ← List.append_assoc] at steps
      obtain ⟨rfl, same⟩ := List.append_inj' steps rfl
      cases same
      have ordinary := follows.ordinary
      rw [List.concat_eq_append] at ordinary
      have last := ordinary name (List.mem_append_right _ (List.mem_singleton_self _))
      obtain ⟨counted, notAbove⟩ := FilePath.counts_append last.counts extension
      refine .inl ⟨front ++ [name ++ "." ++ extension], fun other mem => ?_, ?_⟩
      · rcases List.mem_append.1 mem with mem | mem
        · exact ordinary other (List.mem_append_left _ mem)
        · cases List.mem_singleton.1 mem
          exact ⟨counted, notAbove, by simp [plain, last.single]⟩
      · rw [added, List.map_append, List.map_singleton, List.append_assoc]

/-- A loader looks below its directory, with one exception: where an identifier says no name,
    nothing is where the directory should be and the name of the directory is without extension,
    it looks for this name with the extension beside the directory. -/
theorem path?_follows (found : loader.path? tree uri = .ok path) :
    (∃ names, path.Follows loader.directory names ∧
      tree.placeOf path = tree.placeOf loader.directory ++ names) ∨
    (loader.relativePath uri).steps = [] ∧
      tree.has (loader.directory.join (loader.relativePath uri)) = false ∧
      ∃ above name, loader.directory.steps = above ++ [.down name] ∧
        FilePath.nameExtension? name = none ∧
        path.steps = above ++ [.down (name ++ ".json")] := by
  rw [path?] at found
  split at found
  · cases found
  · rename_i refused
    obtain ⟨names, relative, follows⟩ :=
      follows_join (by simpa using refused : (loader.relativePath uri).steps.all _ = true)
    dsimp only at found
    split at found <;> cases found
    · rename_i absent
      obtain ⟨bare, absent⟩ : (loader.directory.join (loader.relativePath uri)).extension? = none ∧
          tree.has (loader.directory.join (loader.relativePath uri)) = false := by
        simpa using absent
      have plain : '/' ∉ "json".toList := by decide
      rcases follows_addExtension follows plain with
        ⟨names', follows'⟩ | ⟨rfl, above, name, named, steps, added⟩
      · exact .inl ⟨names', follows', follows'.placeOf tree⟩
      · refine .inr ⟨relative, absent, above, name, steps, ?_, ?_⟩
        · rwa [FilePath.extension?, named] at bare
        · rw [added, String.append_assoc]
          rfl
    · exact .inl ⟨names, follows, follows.placeOf tree⟩

/-- A document without extension in its identifier. -/
theorem path?_follows_user : ∃ names : List String,
    (FilePath.mk ["schemas", "user.json"]).Follows ⟨["schemas"]⟩ names ∧
      FileTree.placeOf { files := [] } ⟨["schemas", "user.json"]⟩ =
        FileTree.placeOf { files := [] } ⟨["schemas"]⟩ ++ names := by
  let loader : FileLoader := { directory := ⟨["schemas"]⟩, baseUri := some "https://example.com/" }
  have found : loader.path? { files := [] } "https://example.com/user" =
    .ok ⟨["schemas", "user.json"]⟩ := by decide +kernel
  rcases path?_follows found with below | ⟨nameless, -⟩
  · exact below
  · exact absurd nameless (by decide +kernel)

/-- The file beside the directory. -/
theorem path?_beside :
    ∃ (loader : FileLoader) (tree : FileTree) (uri : String) (path : FilePath),
      loader.path? tree uri = .ok path ∧ ¬ ∃ names, path.Follows loader.directory names := by
  refine ⟨{ directory := ⟨["gone"]⟩, baseUri := some "http://x/" },
    { files := [(["gone.json"], "{}")] }, "http://x/", ⟨["gone.json"]⟩, by decide +kernel, ?_⟩
  rintro ⟨names, follows⟩
  have steps : [Step.down "gone.json"] = .down "gone" :: names.map Step.down := follows.steps
  exact absurd (List.cons.inj steps).1 (by decide)

end FileLoader

end JsonSchema
