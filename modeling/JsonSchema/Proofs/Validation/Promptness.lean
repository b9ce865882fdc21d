import JsonSchema.Proofs.Validation.Violations

/-!
# Schemas that leave nothing for later

A compiled schema leaves tests for later only where a keyword in it waits for its outcome, and
where a reference leads to such a schema.

* `Node.Prompt`: no keyword in a compiled schema waits, and references lead only to some entries.
* `Node.prompt_rules`: a schema is prompt if its keywords and what they apply are.
* `Node.run_silent`: if those entries are prompt too, nothing is left for later.
-/

namespace JsonSchema

namespace Node

/-- No keyword in a compiled schema waits for its outcome, and every reference in it leads to one
    of some entries. -/
structure Prompt (sync : EntryId → Prop) (node : Node) : Prop where
  rules : ∀ rules, node.Contains (.rules rules) → ∀ rule ∈ rules, ∀ test, rule.check ≠ .deferred test
  refs : ∀ target reference, node.Contains (.ref target reference) → sync target

variable {sync : EntryId → Prop}

theorem prompt_always (verdict : Bool) : (always verdict).Prompt sync where
  rules _ occurs := by cases occurs
  refs _ _ occurs := by cases occurs

theorem prompt_ref {target : EntryId} (leads : sync target) (reference : String) :
    (ref target reference).Prompt sync where
  rules _ occurs := by cases occurs
  refs _ _ occurs := by
    cases occurs
    exact leads

/-- Keywords that do not wait, and apply nothing that waits, make a schema that does not wait. -/
theorem prompt_rules {rules : List (Rule Check)}
    (now : ∀ rule ∈ rules, ∀ test, rule.check ≠ .deferred test)
    (parts : ∀ rule ∈ rules, ∀ part ∈ rule.check.parts, part.Prompt sync) :
    (Node.rules rules).Prompt sync where
  rules _ occurs := by
    cases occurs with
    | self => exact now
    | part mem of inner => exact (parts _ mem _ of).rules _ inner
  refs _ _ occurs := by
    cases occurs with
    | part mem of inner => exact (parts _ mem _ of).refs _ _ inner

namespace Prompt

theorem part {rules : List (Rule Check)} (prompt : (Node.rules rules).Prompt sync)
    {rule : Rule Check} (mem : rule ∈ rules) {part : Node} (of : part ∈ rule.check.parts) :
    part.Prompt sync where
  rules _ inner := prompt.rules _ (.part mem of inner)
  refs _ _ inner := prompt.refs _ _ (.part mem of inner)

theorem imp {sync' : EntryId → Prop} {node : Node} (prompt : node.Prompt sync)
    (h : ∀ target reference, node.Contains (.ref target reference) → sync target → sync' target) :
    node.Prompt sync' where
  rules := prompt.rules
  refs target reference occurs := h target reference occurs (prompt.refs target reference occurs)

end Prompt

/-- Where references lead only to schemas that do not wait, nothing is left for later. -/
theorem run_silent {table : SlotTable}
    (closed : ∀ id node, sync id → table id = some node → node.Prompt sync) (node : Node)
    (data : Value) (scope : Scope) (h : node.Prompt sync) :
    (node.run table data scope).Says (fun _ => True) fun _ => False := by
  induction node, data, scope using Node.run_induction with
  | always verdict data scope =>
    cases verdict with
    | true =>
      rw [run_true]
      exact .pass
    | false =>
      rw [run_false]
      exact .fail trivial
  | ref target reference data scope ih =>
    by_cases hop : scope.hops < maxHops
    · cases found : table target with
      | none =>
        rw [run_ref_missing table data scope hop found]
        exact .fail trivial
      | some schema =>
        rw [run_ref table data scope hop found]
        exact ih hop schema (closed target schema (h.refs target reference (.self _)) found)
    · rw [run_ref_deep table data scope hop]
      exact .fail trivial
  | rules rules data scope here below =>
    rw [run_rules]
    refine .all fun rule mem => ?_
    split
    · refine .explain (fun _ => trivial) (Check.run_says (fun _ _ _ => trivial) ?_ ?_ ?_)
      · exact fun test own => h.rules rules (.self _) rule mem test own
      · exact fun part of => here rule mem part of _ rfl (h.part mem of)
      · exact fun part of value at_ lt => below part value at_ lt (h.part mem of)
    · exact .pass

end Node

end JsonSchema
