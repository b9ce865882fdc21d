/-!
# Texts in parts

* `Text.splitOn`: the parts of a text between separators.
* `Text.intercalate_splitOn`: the parts with the separators between them are the text.
-/

namespace JsonSchema.Text

/-- The parts of a text between separators. There is one part more than there are
    separators. -/
def splitOn (separator : Char) : List Char → List (List Char)
  | [] => [[]]
  | c :: rest =>
    if c = separator then [] :: splitOn separator rest
    else
      match splitOn separator rest with
      | part :: parts => (c :: part) :: parts
      | [] => [[c]]

theorem splitOn_ne_nil (separator : Char) (cs : List Char) : splitOn separator cs ≠ [] := by
  cases cs with
  | nil => simp [splitOn]
  | cons c rest =>
    simp only [splitOn]
    split
    · simp
    · split <;> simp

/-- The parts with the separators between them are the text. -/
theorem intercalate_splitOn (separator : Char) (cs : List Char) :
    [separator].intercalate (splitOn separator cs) = cs := by
  induction cs with
  | nil => simp [splitOn, List.intercalate]
  | cons c rest ih =>
    have hne := splitOn_ne_nil separator rest
    revert ih hne
    simp only [splitOn]
    cases splitOn separator rest with
    | nil => simp
    | cons part parts =>
      intro ih _
      split
      · next h => subst h; simpa [List.intercalate] using ih
      · cases parts <;> simpa [List.intercalate] using ih

end JsonSchema.Text
