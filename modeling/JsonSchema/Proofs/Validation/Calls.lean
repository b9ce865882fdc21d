import JsonSchema.Proofs.Validation.InPlace

/-!
# Calls of a validation in place

A call is made by another one: of a schema in one of its keywords, or behind a reference. So the
counter of references is the number of those that were followed since the last step into the data,
and no more than the limit.

* `Call.Makes`, `Call.Open`: how calls are made by others, and open calls.
* `Call.Open.countP_le`: how many references are followed between two steps into the data.
* `Course.Writes`: something writes what a report says, and its calls are in order.
* `Course.Writes.bind`, `Course.Writes.call` and the others: the rules of this, one for every step.
-/

namespace JsonSchema

/-! ## Open calls -/

namespace Call

/-- A call makes another one: behind a reference that may still be followed, or of a schema in a
    keyword, at the same place or inside the data. The name of a property counts as the same place. -/
inductive Makes (table : SlotTable) (outer : Call) : Call → Prop
  | follow {target : EntryId} {reference : String} {schema : Node} {tried : Bool}
      (of : outer.part.schema = .ref target reference) (found : table target = some schema)
      (allowed : outer.hops < maxHops) :
      Makes table outer ⟨.follow schema outer.part.data, outer.hops + 1, tried⟩
  | here {schema : Node} {value : Value} {tried : Bool}
      (smaller : sizeOf schema < sizeOf outer.part.schema)
      (near : value = outer.part.data ∨ value.weight < outer.part.data.weight) :
      Makes table outer ⟨.here schema value, outer.hops, tried⟩
  | below {schema : Node} {value : Value} {tried : Bool}
      (smaller : sizeOf schema < sizeOf outer.part.schema)
      (lighter : value.weight < outer.part.data.weight) :
      Makes table outer ⟨.below schema value, 0, tried⟩

/-- Open calls, the innermost one first: the first one is made at the beginning, and every other one
    by the one before. -/
inductive Open (table : SlotTable) : List Call → Prop
  | first (schema : Node) (data : Value) : Open table [⟨.here schema data, 0, false⟩]
  | next {inner outer : Call} {calls : List Call} (makes : outer.Makes table inner)
      (open_ : Open table (outer :: calls)) : Open table (inner :: outer :: calls)

variable {table : SlotTable}

/-- A call is of a smaller part of the data than another one, or of the same part behind more
    references, or of a smaller schema. -/
def IsSmaller (inner outer : Call) : Prop :=
  Prod.Lex (· < ·) (Prod.Lex (· < ·) (· < ·))
    (inner.part.data.weight, maxHops - inner.hops, sizeOf inner.part.schema)
    (outer.part.data.weight, maxHops - outer.hops, sizeOf outer.part.schema)

theorem Makes.isSmaller {outer inner : Call} (makes : outer.Makes table inner) :
    inner.IsSmaller outer := by
  cases makes with
  | follow of found allowed => exact .right _ (.left _ _ (by simp only; omega))
  | here smaller near =>
    rcases near with same | lighter
    · subst same
      exact .right _ (.right _ smaller)
    · exact .left _ _ lighter
  | below smaller lighter => exact .left _ _ lighter

theorem Open.isChain {calls : List Call} (open_ : Open table calls) : calls.IsChain IsSmaller := by
  induction open_ with
  | first schema data => exact .singleton _
  | next makes _ ih => exact .cons_cons makes.isSmaller ih

theorem Open.hops_le {calls : List Call} (open_ : Open table calls) {call : Call}
    (head : calls.head? = some call) : call.hops ≤ maxHops := by
  induction open_ generalizing call with
  | first schema data =>
    cases head
    exact Nat.zero_le _
  | next makes _ ih =>
    cases head
    have outer := ih rfl
    cases makes with
    | follow of found allowed => exact allowed
    | here smaller near => exact outer
    | below smaller lighter => exact Nat.zero_le _

theorem Open.of_append {inner calls : List Call} (some_ : calls ≠ [])
    (open_ : Open table (inner ++ calls)) : Open table calls := by
  induction inner with
  | nil => exact open_
  | cons call inner ih =>
    generalize rest : inner ++ calls = list at ih
    rw [List.cons_append, rest] at open_
    cases open_ with
    | first => exact absurd (List.append_eq_nil_iff.1 rest).2 some_
    | next makes open_ => exact ih open_

/-- Where no call goes into the data, the counter is at least the number of references followed. -/
theorem Open.countP_le_hops {segment rest : List Call} (open_ : Open table (segment ++ rest))
    {call : Call} (head : (segment ++ rest).head? = some call)
    (stays : ∀ inner ∈ segment, inner.part.way ≠ .below) :
    segment.countP (·.part.way = .follow) ≤ call.hops := by
  induction segment generalizing call with
  | nil => exact Nat.zero_le _
  | cons inner segment ih =>
    cases head
    have ih := fun open_ outer head => @ih open_ outer head fun c mem =>
      stays c (List.mem_cons_of_mem _ mem)
    rw [List.countP_cons]
    generalize calls : segment ++ rest = list at ih
    rw [List.cons_append, calls] at open_
    cases open_ with
    | first schema data =>
      rw [(List.append_eq_nil_iff.1 calls).1]
      simp [Part.here]
    | next makes open_ =>
      have outer := ih open_ _ rfl
      cases makes with
      | follow of found allowed => simpa [Part.follow] using outer
      | here smaller near => simpa [Part.here] using outer
      | below smaller lighter => exact absurd rfl (stays _ List.mem_cons_self)

/-- Between two steps into the data no more references are followed than the limit allows. -/
theorem Open.countP_le {calls segment : List Call} (open_ : Open table calls)
    (of : segment <:+: calls) (stays : ∀ call ∈ segment, call.part.way ≠ .below) :
    segment.countP (·.part.way = .follow) ≤ maxHops := by
  obtain ⟨inner, outer, rfl⟩ := of
  cases segment with
  | nil => exact Nat.zero_le _
  | cons call segment =>
    rw [List.append_assoc] at open_
    have open_ := open_.of_append (List.cons_ne_nil _ _)
    exact Nat.le_trans (open_.countP_le_hops rfl stays) (open_.hops_le rfl)

end Call

/-! ## Moments -/

namespace Moment

/-- The open calls are in order, and the counter is that of the innermost one, at its end too. -/
structure InOrder (table : SlotTable) (moment : Moment) : Prop where
  open_ : Call.Open table moment.calls
  restored : moment.calls.head?.map (·.hops) = some moment.hops

theorem InOrder.hops_le {table : SlotTable} {moment : Moment} (h : moment.InOrder table) :
    moment.hops ≤ maxHops := by
  obtain ⟨call, head, same⟩ := Option.map_eq_some_iff.1 h.restored
  exact same ▸ h.open_.hops_le head

/-- A reference is met that may not be followed any more. -/
def IsStuck (moment : Moment) : Prop :=
  maxHops ≤ moment.hops ∧ ∃ call ∈ moment.calls.head?, ∃ target reference,
    call.part.schema = .ref target reference

/-- A reference is met that may not be followed any more, and none of the calls since `calls` is
    only tried. -/
def Strikes (calls : List Call) (moment : Moment) : Prop :=
  moment.IsStuck ∧ ∃ inner, moment.calls = inner ++ calls ∧ ∀ call ∈ inner, call.tried = false

/-- The moment is in order while `calls` are open, and if it strikes, there is a fault. -/
structure Fits (table : SlotTable) (calls : List Call) (fault : Prop) (moment : Moment) : Prop
    extends InOrder table moment where
  during : calls <:+ moment.calls
  fault : moment.Strikes calls → fault

end Moment

/-! ## Writing a report -/

/-- To refuse is to say one thing more. -/
theorem Report.append_fail (report : Report) (violation : Violation) :
    { report ++ Report.fail violation with valid := false } = report.refuse violation := by
  show Report.mk _ _ (report.deferred ++ []) (report.events ++ []) = _
  rw [List.append_nil, List.append_nil]
  rfl

namespace Course

/-- The state after a report was written, and moments were recorded. -/
def after (c : Course) (report : Report) (moments : List Moment) : Course :=
  { c with
    violations := c.violations ++ report.violations
    deferred := c.deferred ++ report.deferred
    events := c.events ++ report.events
    moments := c.moments ++ moments }

theorem after_pass (c : Course) : c.after .pass [] = c := by
  simp [after, Report.pass]

theorem after_after (c : Course) (a b : Report) (moments later : List Moment) :
    (c.after a moments).after b later = c.after (a ++ b) (moments ++ later) := by
  simp only [after, List.append_assoc]
  rfl

/-- Something gives `a` at the place `scope`, where `calls` are open, and writes what a report says,
    whatever was written before. Its calls are in order, and if one of them strikes, there is a
    fault. Where fuel may be `short`, it may also break off for lack of it. -/
def Writes {α : Type} (short : Prop) (table : SlotTable) (calls : List Call) (scope : Scope)
    (fault : Prop) (m : InPlace α) (a : α) (report : Report) : Prop :=
  ∀ c : Course, c.toScope = scope → c.calls = calls →
    (short ∧ ∃ left, m c = .error .exhausted left) ∨
    ∃ moments, m c = .ok a (c.after report moments) ∧ ∀ moment ∈ moments, moment.Fits table calls fault

namespace Writes

open InPlace

variable {α β : Type} {short : Prop} {table : SlotTable} {calls : List Call} {scope : Scope}
  {fault fault' : Prop} {m : InPlace α} {a : α} {report report' : Report}

theorem weaken (h : Writes short table calls scope fault m a report) (imp : fault → fault') :
    Writes short table calls scope fault' m a report := by
  intro c at_ open_
  refine (h c at_ open_).imp_right ?_
  rintro ⟨moments, run, fits⟩
  refine ⟨moments, run, fun moment mem => ?_⟩
  exact { fits moment mem with fault := imp ∘ (fits moment mem).fault }

/-- A schema that is only tried does no fault. -/
theorem of_tried {p : Prop} (h : Writes short table calls scope (true = false ∧ p) m a report) :
    Writes short table calls scope fault m a report := h.weaken fun wrong => by cases wrong.1

theorem of_kept {p : Prop} (h : Writes short table calls scope (false = false ∧ p) m a report) :
    Writes short table calls scope p m a report := h.weaken And.right

/-- Of a report only what it says is written. -/
theorem congr (h : Writes short table calls scope fault m a report)
    (same : { report with valid := report'.valid } = report') :
    Writes short table calls scope fault m a report' := by
  intro c at_ open_
  refine (h c at_ open_).imp_right ?_
  rintro ⟨moments, run, fits⟩
  exact ⟨moments, by rw [run, ← same]; rfl, fits⟩

theorem exhausted : Writes True table calls scope fault (throw .exhausted : InPlace α) a report :=
  fun _ _ _ => .inl ⟨trivial, _, rfl⟩

theorem pure (a : α) : Writes short table calls scope fault (pure a) a .pass := fun c _ _ =>
  .inr ⟨[], by rw [after_pass]; rfl, fun _ mem => nomatch mem⟩

theorem bind {f : α → InPlace β} {b : β} (first : Writes short table calls scope fault m a report)
    (rest : Writes short table calls scope fault (f a) b report') :
    Writes short table calls scope fault (m >>= f) b (report ++ report') := by
  intro c at_ open_
  have run_bind : (m >>= f) c = EStateM.bind m f c := rfl
  rw [run_bind, EStateM.bind]
  rcases first c at_ open_ with ⟨lacking, left, run⟩ | ⟨moments, run, fits⟩
  · exact .inl ⟨lacking, left, by rw [run]⟩
  rw [run]
  refine (rest (c.after report moments) at_ open_).imp_right ?_
  rintro ⟨later, run', fits'⟩
  refine ⟨moments ++ later, run'.trans (by rw [after_after]), fun moment mem => ?_⟩
  exact (List.mem_append.1 mem).elim (fits moment) (fits' moment)

theorem get {f : Course → InPlace α}
    (rest : ∀ c : Course, c.toScope = scope → c.calls = calls →
      Writes short table calls scope fault (f c) a report) :
    Writes short table calls scope fault (get >>= f) a report :=
  fun c at_ open_ => rest c at_ open_ c at_ open_

/-- Something is done at another place, and then what is needed to come back. -/
theorem around {p : InPlace β} {b : β} {at_ : Scope} (enter : Course → Course)
    (leave : Course → α → InPlace β) (h : Writes short table calls at_ fault m a report)
    (run : ∀ c, p c = EStateM.bind m (leave c) (enter c))
    (goes : ∀ c, c.toScope = scope → (enter c).toScope = at_ ∧ (enter c).calls = c.calls)
    (comes : ∀ c moments, c.toScope = scope →
      leave c a ((enter c).after report moments) = .ok b (c.after report' moments)) :
    Writes short table calls scope fault p b report' := by
  intro c there open_
  obtain ⟨going, kept⟩ := goes c there
  rw [run, EStateM.bind]
  rcases h (enter c) going (kept.trans open_) with ⟨lacking, left, run⟩ | ⟨moments, run, fits⟩
  · exact .inl ⟨lacking, left, by rw [run]⟩
  · rw [run]
    exact .inr ⟨moments, comes c moments there, fits⟩

/-- What comes last gives a result and writes nothing. -/
theorem last {f : α → InPlace β} {b : β} (first : Writes short table calls scope fault m a report)
    (rest : f a = Pure.pure b) : Writes short table calls scope fault (m >>= f) b report :=
  first.around id (fun _ => f) (fun _ => rfl) (fun _ same => ⟨same, rfl⟩)
    fun _ _ _ => congrFun rest _

/-! ### Steps -/

theorem modify {change : Course → Course}
    (same : ∀ c : Course, c.toScope = scope → change c = c.after report []) :
    Writes short table calls scope fault (modify change) () report := fun c at_ _ =>
  .inr ⟨[], by rw [← same c at_]; rfl, fun _ mem => nomatch mem⟩

theorem say (violation : Scope → Violation) :
    Writes short table calls scope fault (say violation) () (.fail (violation scope)) :=
  .modify fun c at_ => by simp [after, Report.fail, ← at_]

theorem refuse (violation : Scope → Violation) :
    Writes short table calls scope fault (refuse violation) false (.fail (violation scope)) :=
  (say violation).last rfl

theorem sayAll (objections : List Objection) :
    Writes short table calls scope fault
      (forM objections fun objection => InPlace.say (·.violation objection)) ()
      { valid := true, violations := objections.map scope.violation } := by
  induction objections with
  | nil => exact pure ()
  | cons objection rest ih =>
    rw [List.forM_cons]
    refine ((say (·.violation objection)).bind ih).congr ?_
    rfl

theorem object (objections : List Objection) :
    Writes short table calls scope fault (object objections) objections.isEmpty
      (.ofObjections scope objections) := by
  refine get fun c at_ _ => ?_
  rw [show c.allErrors = scope.allErrors from congrArg Scope.allErrors at_]
  refine ((sayAll (if scope.allErrors then objections else objections.take 1)).last
    (f := fun _ => Pure.pure objections.isEmpty) rfl).congr ?_
  rfl

theorem trace (event : Event) :
    Writes short table calls scope fault (trace event) () { valid := true, events := [event] } :=
  .modify fun c _ => by simp [after]

theorem defer (test : DeferredTest) :
    Writes short table calls scope fault (defer test) () { valid := true, deferred := [test] } :=
  .modify fun c _ => by simp [after]

theorem descend {step : String}
    (h : Writes short table calls (scope.below step) fault m a report) :
    Writes short table calls scope fault (descend step m) a report :=
  h.around (fun c => { c with path := step :: c.path, hops := 0 }) _
    (fun _ => rfl) (fun c at_ => ⟨by rw [← at_]; rfl, rfl⟩) fun _ _ _ => rfl

theorem follow (h : Writes short table calls scope.hop fault m a report) :
    Writes short table calls scope fault (follow m) a report :=
  h.around (fun c => { c with hops := c.hops + 1 }) _
    (fun _ => rfl) (fun c at_ => ⟨by rw [← at_]; rfl, rfl⟩) fun _ _ _ => rfl

theorem within {rule : Rule Check}
    (h : Writes short table calls (scope.within rule) fault m a report) :
    Writes short table calls scope fault (within rule m) a report :=
  h.around (fun c => { c with current := some (rule.keyword, rule.schemaPath) }) _
    (fun _ => rfl) (fun c at_ => ⟨by rw [← at_]; rfl, rfl⟩) fun _ _ _ => rfl

theorem attempt (back : α → Bool) (h : Writes short table calls scope fault m a report) :
    Writes short table calls scope fault (attempt back m) a
      (if back a then report.discard else report) := by
  refine h.around id _ (fun _ => rfl) (fun _ same => ⟨same, rfl⟩) fun c moments _ => ?_
  cases back a with
  | true =>
    show EStateM.Result.ok a _ = EStateM.Result.ok a (c.after report.discard moments)
    simp [after, Report.discard]
  | false => rfl

theorem test {m : InPlace Bool} {verdict : Bool}
    (h : Writes short table calls scope fault m verdict report) :
    Writes short table calls scope fault (test m) verdict report.discard := h.attempt _

theorem orRefuse {m : InPlace Bool} {verdict : Bool} (violation : Scope → Violation)
    (h : Writes short table calls scope fault m verdict report) :
    Writes short table calls scope fault (orRefuse violation m) verdict
      (if verdict then report else report.refuse (violation scope)) := by
  cases verdict with
  | true => exact h.last rfl
  | false => exact (h.bind (refuse violation)).congr (report.append_fail _)

theorem explaining {m : InPlace Bool} (violation : Scope → Violation)
    (h : Writes short table calls scope fault m report.valid report) :
    Writes short table calls scope fault (explaining violation m) report.valid
      (if !report.valid && report.violations.isEmpty then report.refuse (violation scope)
       else report) := by
  refine h.around id _ (fun _ => rfl) (fun _ same => ⟨same, rfl⟩) ?_
  rintro c moments rfl
  have silent : ((c.violations ++ report.violations).length == c.violations.length) =
      report.violations.isEmpty := by
    rw [List.length_append, Bool.eq_iff_iff, List.isEmpty_iff_length_eq_zero, beq_iff_eq]
    omega
  show (if !report.valid && (c.violations ++ report.violations).length == c.violations.length
    then _ else _ : InPlace Bool) _ = _
  rw [silent]
  split
  · show EStateM.Result.ok _ _ = _
    simp only [after, Report.refuse, List.append_assoc]
    rfl
  · rfl

/-- A call of a schema is in order if what it does is. If its reference may not be followed any
    more, there has to be a fault. -/
theorem call {part : Part Node} {tried : Bool} {m : InPlace Bool} {verdict : Bool}
    (open_ : Call.Open table (⟨part, scope.hops, tried⟩ :: calls))
    (stuck : maxHops ≤ scope.hops → ∀ target reference, part.schema = .ref target reference → fault)
    (h : Writes short table (⟨part, scope.hops, tried⟩ :: calls) scope fault m verdict report) :
    Writes short table calls scope (tried = false ∧ fault) (call tried part m) verdict report := by
  rintro c rfl rfl
  let own : Moment := ⟨⟨part, c.hops, tried⟩ :: c.calls, c.hops⟩
  have fits : own.Fits table c.calls (tried = false ∧ fault) := by
    refine ⟨⟨open_, rfl⟩, List.suffix_cons _ _, ?_⟩
    rintro ⟨⟨limit, call, head, target, reference, is_ref⟩, inner, split_, kept⟩
    cases head
    have last : [_] = inner :=
      List.append_cancel_right (show [_] ++ c.calls = inner ++ c.calls from split_)
    exact ⟨kept _ (last ▸ List.mem_cons_self), stuck limit target reference is_ref⟩
  have run_call : InPlace.call tried part m c = EStateM.bind m _
    { c with calls := own.calls, moments := c.moments ++ [own] } := rfl
  rw [run_call, EStateM.bind]
  rcases h { c with calls := own.calls, moments := c.moments ++ [own] } rfl rfl with
    ⟨lacking, left, run⟩ | ⟨moments, run, fits'⟩
  · exact .inl ⟨lacking, left, by rw [run]⟩
  refine .inr ⟨own :: (moments ++ [own]), ?_, fun moment mem => ?_⟩
  · rw [run]
    show EStateM.Result.ok _ _ = _
    simp only [after, List.append_assoc]
    rfl
  · rcases List.mem_cons.1 mem with rfl | mem
    · exact fits
    rcases List.mem_append.1 mem with mem | mem
    · have inside := fits' moment mem
      refine ⟨inside.toInOrder, (List.suffix_cons _ _).trans inside.during, ?_⟩
      rintro ⟨stuck, inner, split_, kept⟩
      obtain ⟨first, inside_⟩ := inside.during
      have all : inner = first ++ [⟨part, c.hops, tried⟩] := by
        refine (List.append_left_inj c.calls).1 ?_
        rw [← split_, ← inside_, List.append_assoc]
        rfl
      subst all
      exact ⟨kept _ (List.mem_append_right _ List.mem_cons_self),
        inside.fault ⟨stuck, first, inside_.symm, fun call mem =>
          kept call (List.mem_append_left _ mem)⟩⟩
    · rw [List.mem_singleton.1 mem]
      exact fits

/-! ### Loops -/

variable {γ : Type} {parts : List γ} {step : γ → InPlace Bool} {run : γ → Report}

/-- Parts that all have to hold; a fault is that one of them does not. -/
theorem each (h : ∀ part ∈ parts,
      Writes short table calls scope ((run part).valid = false) (step part) (run part).valid (run part)) :
    Writes short table calls scope ((Report.all scope.allErrors parts run).valid = false)
      (each parts step) (Report.all scope.allErrors parts run).valid
      (Report.all scope.allErrors parts run) := by
  induction parts with
  | nil => cases scope.allErrors <;> exact pure true
  | cons part rest ih =>
    have first := h part List.mem_cons_self
    have ih := ih fun other mem => h other (List.mem_cons_of_mem _ mem)
    rw [Report.all_cons]
    cases accepted : (run part).valid with
    | true =>
      rw [accepted] at first
      rw [Bool.or_true, if_pos rfl]
      have whole (rest : Report) : (run part ++ rest).valid = rest.valid :=
        show ((run part).valid && rest.valid) = _ by rw [accepted, Bool.true_and]
      rw [whole]
      exact (first.weaken nofun).bind ih
    | false =>
      rw [accepted] at first
      rw [Bool.or_false]
      have whole (rest : Report) : (run part ++ rest).valid = false :=
        show ((run part).valid && rest.valid) = _ by rw [accepted, Bool.false_and]
      rw [whole]
      refine (first.weaken fun _ => rfl).bind (get fun c at_ _ => ?_)
      rw [show c.allErrors = scope.allErrors from congrArg Scope.allErrors at_]
      cases everything : scope.allErrors with
      | true =>
        rw [everything] at ih
        exact (ih.weaken fun _ => rfl).last (f := fun _ => Pure.pure false) rfl
      | false => exact pure false

/-- Parts up to the first one that accepts. -/
theorem seek (h : ∀ part ∈ parts,
      Writes short table calls scope fault (step part) (run part).valid (run part)) :
    Writes short table calls scope fault (seek parts step)
      ((Report.runUntil (·.valid) 1 parts run).any (·.valid))
      (Report.concat (Report.runUntil (·.valid) 1 parts run)) := by
  induction parts with
  | nil => exact pure false
  | cons part rest ih =>
    have first := h part List.mem_cons_self
    have ih := ih fun other mem => h other (List.mem_cons_of_mem _ mem)
    cases accepted : (run part).valid with
    | true =>
      rw [accepted] at first
      simp only [Report.runUntil, accepted, if_true, Report.runUntil_zero, List.any_cons]
      exact first.bind (pure true)
    | false =>
      rw [accepted] at first
      simp only [Report.runUntil, accepted, List.any_cons]
      exact first.bind ih

/-- Parts up to the `n`th one that accepts. -/
theorem gather {n i : Nat} (h : ∀ part ∈ parts,
      Writes short table calls scope fault (step part) (run part).valid (run part)) :
    Writes short table calls scope fault (gather n i parts step)
      (((Report.runUntil (·.valid) n parts run).zipIdx i).filter (·.1.valid) |>.map (·.2))
      (Report.concat (Report.runUntil (·.valid) n parts run)) := by
  induction parts generalizing n i with
  | nil => cases n <;> exact pure []
  | cons part rest ih =>
    cases n with
    | zero => exact pure []
    | succ n =>
      have first := h part List.mem_cons_self
      have ih := fun n i => @ih n i fun other mem => h other (List.mem_cons_of_mem _ mem)
      cases accepted : (run part).valid with
      | true =>
        rw [accepted] at first
        simp only [Report.runUntil, accepted, if_true, List.zipIdx_cons, List.filter_cons]
        exact first.bind ((ih n (i + 1)).last rfl)
      | false =>
        rw [accepted] at first
        simp only [Report.runUntil, accepted, List.zipIdx_cons, List.filter_cons]
        exact first.bind (ih (n + 1) (i + 1))

end Writes

end Course

end JsonSchema
