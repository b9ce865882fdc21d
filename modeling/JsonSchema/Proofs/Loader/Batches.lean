import Mathlib.Data.List.Perm.Subperm
import JsonSchema.Proofs.Loader.Sharing
import JsonSchema.Proofs.Registry.Loading

/-!
# Loading several documents at once

To load several documents at once is a timely run of callers and loads: all documents are
requested, then the loads end that this started, then the callers resume. Between two such runs no
caller is late, so operations that load one batch after another share their loads.

* `LoadM.Follows`: an operation is a timely run of callers and loads.
* `Loading.fetchAll_follows`: loading several documents at once is one.
-/

namespace JsonSchema

namespace Fetching

variable {st st' : Fetching}

theorem run_append {moves moves' : List Move} {st₁ : Fetching} (ran : st.run moves = some st₁)
    (ran' : st₁.run moves' = some st') : st.run (moves ++ moves') = some st' := by
  rw [run, List.foldlM_append]
  exact Option.bind_eq_some_iff.2 ⟨st₁, ran, ran'⟩

theorem Timely.append {moves moves' : List Move} {st₁ : Fetching} (timely : st.Timely moves)
    (ran : st.run moves = some st₁) (timely' : st₁.Timely moves') :
    st.Timely (moves ++ moves') := by
  induction moves generalizing st with
  | nil =>
    cases ran
    exact timely'
  | cons move moves ih =>
    obtain ⟨st₂, moved, ran⟩ := run_cons.1 ran
    refine ⟨timely.1, fun st' moved' => ?_⟩
    cases moved.symm.trans moved'
    exact ih (timely.2 _ moved) ran

theorem run_singleton (st : Fetching) (move : Move) : st.run [move] = st.step move := by
  cases h : st.step move with
  | none => simp [run, h]
  | some st' => simp [run, h]

/-- What holds between two timely moves. -/
structure Settled (st : Fetching) : Prop where
  consistent : st.Consistent
  retained : st.Retained

theorem settled_empty : Settled {} := ⟨consistent_empty, fun _ began => by cases began⟩

theorem Settled.run (settled : st.Settled) {moves : List Move} (timely : st.Timely moves)
    (ran : st.run moves = some st') : st'.Settled :=
  ⟨settled.consistent.run ran, settled.retained.run settled.consistent timely ran⟩

/-- A document that a caller was given stays given. -/
theorem given_step {move : Move} (moved : st.step move = some st') {p : String × Document}
    (given : p ∈ st.given) : p ∈ st'.given := by
  cases move with
  | request uri => rcases step_request moved with ⟨n, -, rfl⟩ | ⟨-, rfl⟩ <;> exact given
  | finish t result =>
    obtain ⟨-, -, outcome, -, rfl⟩ := step_finish moved
    exact given
  | resume t =>
    obtain ⟨-, ⟨d, -, rfl⟩ | ⟨-, rfl⟩⟩ := step_resume moved
    · exact List.mem_cons_of_mem _ given
    · exact given

theorem given_run {moves : List Move} (ran : st.run moves = some st') : st.given ⊆ st'.given := by
  induction moves generalizing st with
  | nil =>
    cases ran
    exact fun _ given => given
  | cons move moves ih =>
    obtain ⟨st₁, moved, ran⟩ := run_cons.1 ran
    exact fun _ given => ih ran (given_step moved given)

/-- Callers that share the loads of their tickets, and those loads among them that go on and were
    started for them. -/
structure Batch (tickets running : List Ticket) (st : Fetching) : Prop where
  waits : tickets.Subperm st.waiting
  shared : ∀ t ∈ tickets, st.fetcher.shared.find? t.uri = some t.load
  begun : ∀ t ∈ running, t ∈ st.started
  goesOn : ∀ t ∈ running, st.load? t = some .running
  distinct : running.Pairwise fun t t' => t.load ≠ t'.load

theorem batch_nil (st : Fetching) : Batch [] [] st where
  waits := List.nil_subperm
  shared _ h := by cases h
  begun _ h := by cases h
  goesOn _ h := by cases h
  distinct := .nil

theorem Batch.request {tickets running : List Ticket} {uri : String}
    (batch : Batch tickets running st) (consistent : st.Consistent)
    (moved : st.step (.request uri) = some st') :
    Batch (tickets ++ [(st.fetcher.request uri).1])
      (if (st.fetcher.request uri).2.1 then running ++ [(st.fetcher.request uri).1]
        else running) st' := by
  have waits (t : Ticket) : (tickets ++ [t]).Subperm (t :: st.waiting) :=
    (List.perm_append_singleton t tickets).subperm.trans ((List.subperm_cons t).2 batch.waits)
  rcases step_request moved with ⟨n, found, rfl⟩ | ⟨fresh, rfl⟩
  · rw [show st.fetcher.request uri = (⟨uri, n⟩, false, st.fetcher) from by
      rw [Fetcher.request, found]]
    refine { batch with waits := waits _, shared := ?_ }
    intro t h
    rcases List.mem_append.1 h with h | h
    · exact batch.shared t h
    · cases List.mem_singleton.1 h
      exact found
  · rw [show st.fetcher.request uri = (⟨uri, st.fetcher.loads.size⟩, true,
        { loads := st.fetcher.loads.push .running
          shared := st.fetcher.shared.bind uri st.fetcher.loads.size }) from by
      rw [Fetcher.request, fresh]]
    refine ⟨waits _, ?shared, ?begun, ?goesOn, ?distinct⟩
    case shared =>
      intro t h
      show (st.fetcher.shared.bind uri st.fetcher.loads.size).find? t.uri = _
      rw [Bindings.find?_bind]
      rcases List.mem_append.1 h with h | h
      · have shared := batch.shared t h
        rw [if_neg]
        · exact shared
        · rintro rfl
          rw [fresh] at shared
          cases shared
      · cases List.mem_singleton.1 h
        exact if_pos rfl
    case begun =>
      intro t h
      rcases List.mem_append.1 h with h | h
      · exact List.mem_cons_of_mem _ (batch.begun t h)
      · cases List.mem_singleton.1 h
        exact List.mem_cons_self
    case goesOn =>
      intro t h
      rcases List.mem_append.1 h with h | h
      · rw [load?_push (consistent.bounded t (batch.begun t h))]
        exact batch.goesOn t h
      · cases List.mem_singleton.1 h
        exact load?_push_size
    case distinct =>
      refine List.pairwise_append.2 ⟨batch.distinct, List.pairwise_singleton _ _, ?_⟩
      intro t h t' h'
      cases List.mem_singleton.1 h'
      exact Nat.ne_of_lt (consistent.bounded t (batch.begun t h))

theorem Batch.finish {tickets running : List Ticket} {t : Ticket}
    (batch : Batch tickets (t :: running) st) (result : Except SchemaError Value) :
    ∃ st', st.step (.finish t result) = some st' ∧
      st'.fetcher = st.fetcher.complete t result ∧ Batch tickets running st' := by
  have runs := batch.goesOn t List.mem_cons_self
  refine ⟨_, if_pos ⟨batch.begun t List.mem_cons_self, runs⟩, rfl, ?_⟩
  obtain ⟨others, distinct⟩ := List.pairwise_cons.1 batch.distinct
  refine { batch with
    begun := fun t' h => batch.begun t' (List.mem_cons_of_mem _ h)
    goesOn := fun t' h => ?_
    distinct := distinct }
  show load? { st with fetcher := { st.fetcher with
    loads := st.fetcher.loads.setIfInBounds t.load _ } } t' = _
  rw [load?_set runs, if_neg (others t' h)]
  exact batch.goesOn t' (List.mem_cons_of_mem _ h)

/-- Callers whose tickets are for what is shared, or no longer shared. -/
structure Leaving (tickets : List Ticket) (st : Fetching) : Prop where
  waits : tickets.Subperm st.waiting
  shared : ∀ t ∈ tickets, ∀ n, st.fetcher.shared.find? t.uri = some n → n = t.load

theorem Batch.leaving {tickets running : List Ticket} (batch : Batch tickets running st) :
    Leaving tickets st where
  waits := batch.waits
  shared t h _ found := Option.some.inj (found.symm.trans (batch.shared t h))

/-- Callers that share their loads are not late to resume. -/
theorem Leaving.orderly {tickets : List Ticket} {t : Ticket} (leaving : Leaving (t :: tickets) st)
    (retained : st.Retained) : st.Orderly (.resume t) := by
  intro failed other began same
  by_contra lives
  have shared := retained other began lives
  rw [same] at shared
  have loads := leaving.shared t List.mem_cons_self _ shared
  cases t
  cases other
  cases same
  cases loads
  exact lives failed

theorem Leaving.resume {tickets : List Ticket} {t : Ticket} (leaving : Leaving (t :: tickets) st)
    (moved : st.step (.resume t) = some st') : Leaving tickets st' := by
  have waits : tickets.Subperm (st.waiting.erase t) := by
    have erased := leaving.waits.erase t
    rwa [List.erase_cons_head] at erased
  obtain ⟨-, ⟨d, -, rfl⟩ | ⟨-, rfl⟩⟩ := step_resume moved
  · exact ⟨waits, fun t' h => leaving.shared t' (List.mem_cons_of_mem _ h)⟩
  · refine ⟨waits, fun t' h n found => ?_⟩
    rw [Bindings.find?_unbind] at found
    split at found
    · cases found
    · exact leaving.shared t' (List.mem_cons_of_mem _ h) n found

end Fetching

namespace LoadM

open Fetching

variable {σ α β : Type} {st : Fetching}

/-- An operation that returns is a timely run of callers and loads, whose state and result are as
    `post` says. -/
def Follows (m : LoadM σ α) (st : Fetching) (post : α → Fetching → Prop) : Prop :=
  ∀ l a l', st.fetcher = l.fetcher → m l = .ok a l' →
    ∃ moves st', st.run moves = some st' ∧ st.Timely moves ∧ st'.fetcher = l'.fetcher ∧ post a st'

namespace Follows

theorem pure {a : α} {post : α → Fetching → Prop} (holds : post a st) :
    Follows (pure a : LoadM σ α) st post := by
  intro l a l' same ran
  cases ran
  exact ⟨[], st, rfl, trivial, same, holds⟩

theorem bind {m : LoadM σ α} {f : α → LoadM σ β} {mid : α → Fetching → Prop}
    {post : β → Fetching → Prop} (settled : st.Settled) (first : Follows m st mid)
    (second : ∀ a st', st'.Settled → mid a st' → Follows (f a) st' post) :
    Follows (m >>= f) st post := by
  intro l b l' same ran
  change EStateM.bind m f l = .ok b l' at ran
  unfold EStateM.bind at ran
  cases h : m l with
  | error e l₁ =>
    rw [h] at ran
    cases ran
  | ok a l₁ =>
    rw [h] at ran
    obtain ⟨moves, st₁, run₁, timely₁, same₁, holds⟩ := first l a l₁ same h
    obtain ⟨moves', st₂, run₂, timely₂, same₂, holds₂⟩ :=
      second a st₁ (settled.run timely₁ run₁) holds l₁ b l' same₁ ran
    exact ⟨moves ++ moves', st₂, run_append run₁ run₂, timely₁.append run₁ timely₂, same₂, holds₂⟩

theorem imp {m : LoadM σ α} {post post' : α → Fetching → Prop} (follows : Follows m st post)
    (implies : ∀ a st', post a st' → post' a st') : Follows m st post' := by
  intro l a l' same ran
  obtain ⟨moves, st', ran', timely, same', holds⟩ := follows l a l' same ran
  exact ⟨moves, st', ran', timely, same', implies a st' holds⟩

theorem given {m : LoadM σ α} {post : α → Fetching → Prop} (follows : Follows m st post) :
    Follows m st fun a st' => post a st' ∧ st.given ⊆ st'.given := by
  intro l a l' same ran
  obtain ⟨moves, st', ran', timely, same', holds⟩ := follows l a l' same ran
  exact ⟨moves, st', ran', timely, same', holds, given_run ran'⟩

/-- An operation that does what one caller or one load does. -/
theorem move {m : LoadM σ α} {move : Move} {st' : Fetching} {post : α → Fetching → Prop}
    (moved : st.step move = some st') (orderly : st.Orderly move)
    (same : ∀ l a l', st.fetcher = l.fetcher → m l = .ok a l' →
      st'.fetcher = l'.fetcher ∧ post a st') : Follows m st post := by
  intro l a l' same₀ ran
  refine ⟨[move], st', (run_singleton st move).trans moved, ⟨orderly, fun _ _ => trivial⟩,
    same l a l' same₀ ran⟩

/-- Steps over a list, of which `inv` says what holds when some are left. -/
theorem foldlM {f : β → α → LoadM σ β} (inv : List α → β → Fetching → Prop)
    (step : ∀ a rest b st, st.Settled → inv (a :: rest) b st → Follows (f b a) st (inv rest))
    (list : List α) {b : β} (settled : st.Settled) (holds : inv list b st) :
    Follows (list.foldlM f b) st (inv []) := by
  induction list generalizing b st with
  | nil => exact .pure holds
  | cons a rest ih =>
    rw [List.foldlM_cons]
    exact (step a rest b st settled holds).bind settled fun b' st' settled' holds' =>
      ih settled' holds'

theorem forM {f : α → LoadM σ PUnit} (inv : List α → Fetching → Prop)
    (step : ∀ a rest st, st.Settled → inv (a :: rest) st →
      Follows (f a) st fun _ => inv rest)
    (list : List α) (settled : st.Settled) (holds : inv list st) :
    Follows (list.forM f) st fun _ => inv [] := by
  induction list generalizing st with
  | nil => exact .pure holds
  | cons a rest ih =>
    exact (step a rest st settled holds).bind settled fun _ st' settled' holds' =>
      ih settled' holds'

/-- An operation that follows the callers from the first one on leaves loads that are shared. -/
theorem shares {m : LoadM σ α} {post : α → Fetching → Prop} (follows : Follows m {} post)
    {l l' : Loading σ} {a : α} (empty : l.fetcher = {}) (ran : m l = .ok a l') :
    ∃ st : Fetching, st.fetcher = l'.fetcher ∧ st.Shares ∧ post a st := by
  obtain ⟨moves, st, ran', timely, same, holds⟩ := follows l a l' empty.symm ran
  have settled := settled_empty.run timely ran'
  exact ⟨st, same, settled.retained.shares settled.consistent, holds⟩

end Follows

end LoadM

namespace Loading

open Fetching LoadM

variable {σ : Type} {st : Fetching}

theorem requestAll_follows (settled : st.Settled) (uris : List String) :
    Follows (requestAll uris : LoadM σ _) st fun acc st' =>
      Batch acc.1 acc.2 st' ∧ acc.1.map (·.uri) = uris := by
  refine Follows.imp (Follows.foldlM
    (fun rest acc st => Batch acc.1 acc.2 st ∧ acc.1.map (·.uri) ++ rest = uris)
    ?_ uris settled ⟨batch_nil st, rfl⟩) fun acc st' holds => ⟨holds.1, ?_⟩
  · intro uri rest acc st settled ⟨batch, done⟩
    have moved : st.step (.request uri) = some _ := rfl
    refine .move moved trivial fun l acc' l' same ran => ?_
    have result : (l.fetcher.request uri).2.2 = l'.fetcher ∧
        (acc.1 ++ [(l.fetcher.request uri).1],
          if (l.fetcher.request uri).2.1 then acc.2 ++ [(l.fetcher.request uri).1] else acc.2) =
        acc' := by
      simp only [LoadM.get_bind] at ran
      generalize l.fetcher.request uri = asked at ran ⊢
      obtain ⟨ticket, starts, fetcher⟩ := asked
      cases starts <;> cases ran <;> exact ⟨rfl, rfl⟩
    obtain ⟨fetcher', rfl⟩ := result
    rw [← same] at fetcher' ⊢
    refine ⟨fetcher', batch.request settled.consistent moved, ?_⟩
    have sent : (st.fetcher.request uri).1.uri = uri := by
      unfold Fetcher.request
      split <;> rfl
    rw [List.map_append, List.map_singleton, sent, List.append_assoc]
    exact done
  · simpa using holds.2

theorem runLoad_follows (loader : Loader σ) {t : Ticket} {tickets running : List Ticket}
    (batch : Batch tickets (t :: running) st) :
    Follows (runLoad loader t) st fun _ => Batch tickets running := by
  intro l _ l' same ran
  obtain ⟨st', moved, fetcher', batch'⟩ := batch.finish (loader.load t.uri l.source).1
  refine ⟨[_], st', (run_singleton _ _).trans moved, ⟨trivial, fun _ _ => trivial⟩, ?_, batch'⟩
  cases ran
  rw [fetcher', same]

theorem collect_follows {t : Ticket} {tickets : List Ticket} (settled : st.Settled)
    (leaving : Leaving (t :: tickets) st) :
    Follows (collect t : LoadM σ _) st fun result st' =>
      Leaving tickets st' ∧ ∀ d, result = .ok d → (t.uri, d) ∈ st'.given := by
  intro l result l' same ran
  have waits : t ∈ st.waiting := leaving.waits.subset List.mem_cons_self
  rw [collect, LoadM.get_bind] at ran
  cases collected : st.fetcher.collect t with
  | none =>
    -- The load goes on for callers of before, and the caller is told that it failed.
    rw [← same, collected] at ran
    cases ran
    refine ⟨[], st, rfl, trivial, same, ⟨?_, fun t' h => leaving.shared t' (.tail _ h)⟩,
      fun _ same => by cases same⟩
    exact (List.sublist_cons_self t tickets).subperm.trans leaving.waits
  | some outcome =>
    obtain ⟨outcome, fetcher⟩ := outcome
    rw [← same, collected] at ran
    cases ran
    obtain ⟨st', moved, fetcher', given⟩ : ∃ st', st.step (.resume t) = some st' ∧
        st'.fetcher = fetcher ∧ ∀ d, result = .ok d → (t.uri, d) ∈ st'.given := by
      cases result with
      | ok d =>
        refine ⟨_, by rw [step, if_pos waits, collected], rfl, ?_⟩
        rintro _ ⟨⟩
        exact List.mem_cons_self
      | error e => exact ⟨_, by rw [step, if_pos waits, collected], rfl, fun _ same => by cases same⟩
    exact ⟨[.resume t], st', (run_singleton _ _).trans moved,
      ⟨leaving.orderly settled.retained, fun _ _ => trivial⟩, fetcher', leaving.resume moved, given⟩

theorem collectAll_follows {tickets : List Ticket} (settled : st.Settled)
    (leaving : Leaving tickets st) :
    Follows (tickets.mapM collect : LoadM σ _) st fun results st' =>
      List.Forall₂ (fun t result => ∀ d, result = .ok d → (t.uri, d) ∈ st'.given)
        tickets results := by
  induction tickets generalizing st with
  | nil =>
    rw [List.mapM_nil]
    exact .pure .nil
  | cons t tickets ih =>
    rw [List.mapM_cons]
    refine .bind settled (collect_follows settled leaving) fun result st₁ settled₁ holds => ?_
    refine .bind settled₁ (ih settled₁ holds.1).given fun results st₂ _ rest => ?_
    exact .pure (.cons (fun d ok => rest.2 (holds.2 d ok)) rest.1)

/-- Loading several documents at once is a timely run of callers and loads, which gives each
    caller the document that it gets. -/
theorem fetchAll_follows (loader : Loader σ) (uris : List String) (settled : st.Settled) :
    Follows (fetchAll loader uris) st fun results st' =>
      List.Forall₂ (fun uri result => ∀ d, result = .ok d → (uri, d) ∈ st'.given) uris results := by
  refine .bind settled (requestAll_follows settled uris) fun acc st₁ settled₁ requested => ?_
  obtain ⟨tickets, running⟩ := acc
  obtain ⟨batch, rfl⟩ := requested
  refine .bind settled₁ (.forM (fun running st => Batch tickets running st)
    (fun t _ _ _ batch => runLoad_follows loader batch) running settled₁ batch)
    fun _ st₂ settled₂ batch' => ?_
  exact (collectAll_follows settled₂ batch'.leaving).imp fun results st' given =>
    List.forall₂_map_left_iff.2 given

end Loading

end JsonSchema
