import JsonSchema.Loader.Loading
import JsonSchema.Proofs.Store.Bindings

/-!
# Sharing loads

The callers of a fetcher and its loads run in any order: callers request documents, loads end
well or badly, and callers whose load is over resume.

A caller that resumes with a failure takes out of the fetcher whatever load of its document is
shared then, also one that was started after the load that failed. Sharing therefore holds for
runs in which no such caller resumes while another load of its document goes on or has succeeded.

* `Fetching`, `Fetching.step`: the callers and the loads, and what one of them does next.
* `Fetching.Consistent`: what holds in every run.
* `Fetching.Retained`: what holds in timely runs, and why loads are shared in them.
* `Fetching.run_shares`: loads are shared, and what failed is loaded anew.
-/

namespace JsonSchema

/-- Whether a load failed. -/
def Load.isFailed : Load → Bool
  | .failed _ => true
  | _ => false

/-- A fetcher with its callers. Every load has the ticket of the request that started it, and
    every caller that did not resume yet has a ticket. -/
structure Fetching where
  fetcher : Fetcher := {}
  started : List Ticket := []
  waiting : List Ticket := []
  given : List (String × Document) := []

namespace Fetching

/-- What happens next: a caller requests a document, a load ends, or a caller resumes. -/
inductive Move where
  | request (uri : String)
  | finish (ticket : Ticket) (result : Except SchemaError Value)
  | resume (ticket : Ticket)

/-- How far the load of a ticket is. -/
def load? (st : Fetching) (ticket : Ticket) : Option Load := st.fetcher.loads[ticket.load]?

/-- The load of a ticket failed. -/
def Failed (st : Fetching) (ticket : Ticket) : Prop := (st.load? ticket).any Load.isFailed = true

instance (st : Fetching) (ticket : Ticket) : Decidable (st.Failed ticket) :=
  inferInstanceAs (Decidable (_ = true))

/-- The load of a ticket failed, and all its callers were told. -/
def Reported (st : Fetching) (ticket : Ticket) : Prop := st.Failed ticket ∧ ticket ∉ st.waiting

instance (st : Fetching) (ticket : Ticket) : Decidable (st.Reported ticket) :=
  inferInstanceAs (Decidable (_ ∧ _))

/-- What a move leads to. Only a running load ends, and a caller resumes when its load is over. -/
def step (st : Fetching) : Move → Option Fetching
  | .request uri =>
    let (ticket, starts, fetcher) := st.fetcher.request uri
    some { st with
      fetcher
      started := if starts then ticket :: st.started else st.started
      waiting := ticket :: st.waiting }
  | .finish ticket result =>
    if ticket ∈ st.started ∧ st.load? ticket = some .running then
      some { st with fetcher := st.fetcher.complete ticket result }
    else none
  | .resume ticket =>
    if ticket ∈ st.waiting then
      match st.fetcher.collect ticket with
      | some (.ok document, fetcher) =>
        some { st with
          fetcher, waiting := st.waiting.erase ticket, given := (ticket.uri, document) :: st.given }
      | some (.error _, fetcher) => some { st with fetcher, waiting := st.waiting.erase ticket }
      | none => none
    else none

/-- What several moves lead to. -/
def run (st : Fetching) (moves : List Move) : Option Fetching := moves.foldlM step st

/-- No caller resumes with a failure while another load of its document goes on or has
    succeeded. -/
def Orderly (st : Fetching) : Move → Prop
  | .resume ticket =>
    st.Failed ticket → ∀ other ∈ st.started, other.uri = ticket.uri → st.Failed other
  | _ => True

/-- Every move of a run is orderly. -/
def Timely : Fetching → List Move → Prop
  | _, [] => True
  | st, move :: moves => st.Orderly move ∧ ∀ st' ∈ st.step move, st'.Timely moves

instance (st : Fetching) : (move : Move) → Decidable (st.Orderly move)
  | .request _ | .finish _ _ => inferInstanceAs (Decidable True)
  | .resume ticket =>
    inferInstanceAs (Decidable (st.Failed ticket → ∀ other ∈ st.started, _ → st.Failed other))

instance : (st : Fetching) → (moves : List Move) → Decidable (st.Timely moves)
  | _, [] => inferInstanceAs (Decidable True)
  | st, move :: moves =>
    have (st' : Fetching) : Decidable (st'.Timely moves) := instDecidableTimely st' moves
    inferInstanceAs (Decidable (st.Orderly move ∧ ∀ st' ∈ st.step move, st'.Timely moves))

/-- For each document at most one load goes on, at most one succeeded, and all callers that got
    it got the same one. -/
structure Shares (st : Fetching) : Prop where
  running : ∀ t ∈ st.started, ∀ t' ∈ st.started, t.uri = t'.uri →
    st.load? t = some .running → st.load? t' = some .running → t = t'
  loaded : ∀ t ∈ st.started, ∀ t' ∈ st.started, t.uri = t'.uri →
    ∀ d d', st.load? t = some (.loaded d) → st.load? t' = some (.loaded d') → t = t'
  given : ∀ uri d d', (uri, d) ∈ st.given → (uri, d') ∈ st.given → d = d'

/-- After a failure was reported, a request of the document starts a load, or shares one that
    was started later and of which no failure was reported. -/
def Retries (st : Fetching) : Prop :=
  ∀ t ∈ st.started, st.Reported t →
    (st.fetcher.request t.uri).2.1 = true ∨
    ∃ t' ∈ st.started, (st.fetcher.request t.uri).1 = t' ∧ t.load < t'.load ∧ ¬ st.Reported t'

/-! ## Moves -/

variable {st st' : Fetching}

/-- A request that shares a load, or starts one. -/
theorem step_request {uri : String} (moved : st.step (.request uri) = some st') :
    (∃ n, st.fetcher.shared.find? uri = some n ∧
      st' = { st with waiting := ⟨uri, n⟩ :: st.waiting }) ∨
    (st.fetcher.shared.find? uri = none ∧
      st' = { st with
        fetcher :=
          { loads := st.fetcher.loads.push .running
            shared := st.fetcher.shared.bind uri st.fetcher.loads.size }
        started := ⟨uri, st.fetcher.loads.size⟩ :: st.started
        waiting := ⟨uri, st.fetcher.loads.size⟩ :: st.waiting }) := by
  cases found : st.fetcher.shared.find? uri with
  | some n =>
    simp only [step, Fetcher.request, found] at moved
    exact .inl ⟨n, rfl, by simpa using moved.symm⟩
  | none =>
    simp only [step, Fetcher.request, found] at moved
    exact .inr ⟨rfl, by simpa using moved.symm⟩

/-- A load that ends was running, and is over afterwards. -/
theorem step_finish {t : Ticket} {result : Except SchemaError Value}
    (moved : st.step (.finish t result) = some st') :
    t ∈ st.started ∧ st.load? t = some .running ∧ ∃ outcome ≠ Load.running,
      st' = { st with fetcher :=
        { st.fetcher with loads := st.fetcher.loads.setIfInBounds t.load outcome } } := by
  rw [step] at moved
  split at moved
  · next h =>
    cases moved
    refine ⟨h.1, h.2, _, ?_, rfl⟩
    cases result <;> simp
  · cases moved

/-- A caller that resumes gets the document, or the failure, and then no load of the document is
    shared. -/
theorem step_resume {t : Ticket} (moved : st.step (.resume t) = some st') :
    t ∈ st.waiting ∧
    ((∃ d, st.load? t = some (.loaded d) ∧
      st' = { st with waiting := st.waiting.erase t, given := (t.uri, d) :: st.given }) ∨
    (st.Failed t ∧
      st' = { st with
        fetcher := { st.fetcher with shared := st.fetcher.shared.unbind t.uri }
        waiting := st.waiting.erase t })) := by
  rw [step] at moved
  split at moved
  · next waits =>
    refine ⟨waits, ?_⟩
    cases load : st.load? t with
    | none =>
      rw [load?] at load
      simp [Fetcher.collect, load] at moved
    | some load' =>
      rw [load?] at load
      cases load' with
      | running => simp [Fetcher.collect, load] at moved
      | loaded d =>
        simp only [Fetcher.collect, load, Option.some.injEq] at moved
        exact .inl ⟨d, rfl, moved.symm⟩
      | failed message =>
        simp only [Fetcher.collect, load, Option.some.injEq] at moved
        exact .inr ⟨by simp [Failed, load?, load, Load.isFailed], moved.symm⟩
  · cases moved

/-! ## All runs -/

/-- What holds in every run. -/
structure Consistent (st : Fetching) : Prop where
  bounded : ∀ t ∈ st.started, t.load < st.fetcher.loads.size
  begun : ∀ t ∈ st.waiting, t ∈ st.started
  /-- The caller that started a load waits until it is over. -/
  awaited : ∀ t ∈ st.started, st.load? t = some .running → t ∈ st.waiting
  sharedBegun : ∀ t : Ticket, st.fetcher.shared.find? t.uri = some t.load → t ∈ st.started
  sharedNewest : ∀ t : Ticket, st.fetcher.shared.find? t.uri = some t.load →
    ∀ t' ∈ st.started, t'.uri = t.uri → t'.load ≤ t.load
  /-- The first caller that is told of a failure ends the sharing. -/
  sharedUnreported : ∀ t : Ticket, st.fetcher.shared.find? t.uri = some t.load →
    st.Failed t → t ∈ st.waiting
  loaded : ∀ uri d, (uri, d) ∈ st.given →
    ∃ t ∈ st.started, t.uri = uri ∧ st.load? t = some (.loaded d)

theorem consistent_empty : Consistent {} where
  bounded _ h := by cases h
  begun _ h := by cases h
  awaited _ h := by cases h
  sharedBegun _ h := by cases h
  sharedNewest _ h := by cases h
  sharedUnreported _ h := by cases h
  loaded _ _ h := by cases h

theorem not_failed_of_running {t : Ticket} (running : st.load? t = some .running) :
    ¬ st.Failed t := by
  simp [Failed, running, Load.isFailed]

theorem not_failed_of_loaded {t : Ticket} {d : Document} (loaded : st.load? t = some (.loaded d)) :
    ¬ st.Failed t := by
  simp [Failed, loaded, Load.isFailed]

/-- A request that starts a load leaves the other loads as they are. -/
theorem load?_push {t : Ticket} {load : Load} {shared : Bindings String Nat}
    {started waiting : List Ticket} (bounded : t.load < st.fetcher.loads.size) :
    load? { st with fetcher := { loads := st.fetcher.loads.push load, shared }, started, waiting } t
      = st.load? t := by
  simp only [load?]
  rw [Array.getElem?_push_lt bounded, Array.getElem?_eq_getElem bounded]

/-- The load that a request starts is running. -/
theorem load?_push_size {uri : String} {load : Load} {shared : Bindings String Nat}
    {started waiting : List Ticket} :
    load? { st with fetcher := { loads := st.fetcher.loads.push load, shared }, started, waiting }
      ⟨uri, st.fetcher.loads.size⟩ = some load :=
  Array.getElem?_push_size

/-- The end of a load leaves the others as they are. -/
theorem load?_set {t : Ticket} {outcome : Load} (running : st.load? t = some .running)
    (t' : Ticket) :
    load? { st with fetcher :=
      { st.fetcher with loads := st.fetcher.loads.setIfInBounds t.load outcome } } t' =
      if t.load = t'.load then some outcome else st.load? t' := by
  have bounded : t.load < st.fetcher.loads.size := (Array.getElem?_eq_some_iff.1 running).1
  simp only [load?, Array.getElem?_setIfInBounds, bounded, if_true]

theorem Consistent.request {uri : String} (consistent : st.Consistent)
    (moved : st.step (.request uri) = some st') : st'.Consistent := by
  rcases step_request moved with ⟨n, found, rfl⟩ | ⟨fresh, rfl⟩
  · exact { consistent with
      begun := by
        intro t waits
        rcases List.mem_cons.1 waits with rfl | waits
        · exact consistent.sharedBegun _ found
        · exact consistent.begun t waits
      awaited := fun t began running =>
        List.mem_cons_of_mem _ (consistent.awaited t began running)
      sharedUnreported := fun t shared failed =>
        List.mem_cons_of_mem _ (consistent.sharedUnreported t shared failed) }
  · -- What is shared afterwards is the new load, or was shared before.
    have shared : ∀ t : Ticket,
        (st.fetcher.shared.bind uri st.fetcher.loads.size).find? t.uri = some t.load →
        t = ⟨uri, st.fetcher.loads.size⟩ ∨
          uri ≠ t.uri ∧ st.fetcher.shared.find? t.uri = some t.load := by
      intro t found
      rw [Bindings.find?_bind] at found
      split at found
      · next same =>
        cases t
        cases same
        cases found
        exact .inl rfl
      · next other => exact .inr ⟨other, found⟩
    refine ⟨?bounded, ?begun, ?awaited, ?sharedBegun, ?sharedNewest, ?sharedUnreported, ?loaded⟩
    case bounded =>
      intro t began
      show t.load < (st.fetcher.loads.push .running).size
      rw [Array.size_push]
      rcases List.mem_cons.1 began with rfl | began
      · exact Nat.lt_succ_self _
      · exact Nat.lt_succ_of_lt (consistent.bounded t began)
    case begun =>
      intro t waits
      rcases List.mem_cons.1 waits with rfl | waits
      · exact List.mem_cons_self
      · exact List.mem_cons_of_mem _ (consistent.begun t waits)
    case awaited =>
      intro t began running
      rcases List.mem_cons.1 began with rfl | began
      · exact List.mem_cons_self
      · rw [load?_push (consistent.bounded t began)] at running
        exact List.mem_cons_of_mem _ (consistent.awaited t began running)
    case sharedBegun =>
      intro t found
      rcases shared t found with rfl | ⟨-, found⟩
      · exact List.mem_cons_self
      · exact List.mem_cons_of_mem _ (consistent.sharedBegun t found)
    case sharedNewest =>
      intro t found t' began same
      rcases List.mem_cons.1 began with rfl | began
      · rcases shared t found with rfl | ⟨other, -⟩
        · exact Nat.le_refl _
        · exact absurd same other
      · rcases shared t found with rfl | ⟨-, found⟩
        · exact Nat.le_of_lt (consistent.bounded t' began)
        · exact consistent.sharedNewest t found t' began same
    case sharedUnreported =>
      intro t found failed
      rcases shared t found with rfl | ⟨-, found⟩
      · exact List.mem_cons_self
      · have began := consistent.sharedBegun t found
        rw [Failed, load?_push (consistent.bounded t began)] at failed
        exact List.mem_cons_of_mem _ (consistent.sharedUnreported t found failed)
    case loaded =>
      intro uri d given
      obtain ⟨t, began, rfl, load⟩ := consistent.loaded uri d given
      refine ⟨t, List.mem_cons_of_mem _ began, rfl, ?_⟩
      rw [load?_push (consistent.bounded t began)]
      exact load

theorem Consistent.finish {t : Ticket} {result : Except SchemaError Value}
    (consistent : st.Consistent) (moved : st.step (.finish t result) = some st') :
    st'.Consistent := by
  obtain ⟨-, running, outcome, ended, rfl⟩ := step_finish moved
  refine { consistent with
    bounded := ?bounded
    awaited := ?awaited
    sharedUnreported := ?sharedUnreported
    loaded := ?loaded }
  case bounded =>
    intro t' began
    show t'.load < (st.fetcher.loads.setIfInBounds t.load outcome).size
    rw [Array.size_setIfInBounds]
    exact consistent.bounded t' began
  case awaited =>
    intro t' began running'
    rw [load?_set running] at running'
    split at running'
    · exact absurd (Option.some.inj running') ended
    · exact consistent.awaited t' began running'
  case sharedUnreported =>
    intro t' shared failed
    rw [Failed, load?_set running] at failed
    split at failed
    · next same =>
      refine consistent.awaited t' (consistent.sharedBegun t' shared) ?_
      rw [load?, ← same]
      exact running
    · exact consistent.sharedUnreported t' shared failed
  case loaded =>
    intro uri d given
    obtain ⟨t', began, rfl, load⟩ := consistent.loaded uri d given
    refine ⟨t', began, rfl, ?_⟩
    rw [load?_set running, if_neg]
    · exact load
    · intro same
      rw [load?, ← same] at load
      exact absurd (running.symm.trans load) (by simp)

/-- A caller that resumes is no longer awaited for; the other callers are. -/
theorem Consistent.awaited_erase {t t' : Ticket} (consistent : st.Consistent)
    (waits : t ∈ st.waiting) (ended : st.load? t ≠ some .running)
    (began : t' ∈ st.started) (running : st.load? t' = some .running) :
    t' ∈ st.waiting.erase t := by
  refine (List.mem_erase_of_ne ?_).2 (consistent.awaited t' began running)
  rintro rfl
  exact ended running

theorem Consistent.resume {t : Ticket} (consistent : st.Consistent)
    (moved : st.step (.resume t) = some st') : st'.Consistent := by
  obtain ⟨waits, ⟨d, load, rfl⟩ | ⟨failed, rfl⟩⟩ := step_resume moved
  · refine { consistent with
      begun := fun t' waits' => consistent.begun t' (List.mem_of_mem_erase waits')
      awaited := fun t' began running =>
        consistent.awaited_erase waits (by rw [load]; simp) began running
      sharedUnreported := fun t' shared failed => ?sharedUnreported
      loaded := ?loaded }
    case sharedUnreported =>
      refine (List.mem_erase_of_ne ?_).2 (consistent.sharedUnreported t' shared failed)
      rintro rfl
      exact not_failed_of_loaded load failed
    case loaded =>
      intro uri d' given
      rcases List.mem_cons.1 given with same | given
      · cases same
        exact ⟨t, consistent.begun t waits, rfl, load⟩
      · exact consistent.loaded uri d' given
  · -- What is shared afterwards was shared before, and is of another document.
    have shared : ∀ t' : Ticket, (st.fetcher.shared.unbind t.uri).find? t'.uri = some t'.load →
        t.uri ≠ t'.uri ∧ st.fetcher.shared.find? t'.uri = some t'.load := by
      intro t' found
      rw [Bindings.find?_unbind] at found
      split at found
      · cases found
      · next other => exact ⟨other, found⟩
    refine { consistent with
      begun := fun t' waits' => consistent.begun t' (List.mem_of_mem_erase waits')
      awaited := fun t' began running =>
        consistent.awaited_erase waits (fun running => not_failed_of_running running failed)
          began running
      sharedBegun := fun t' found => consistent.sharedBegun t' (shared t' found).2
      sharedNewest := fun t' found => consistent.sharedNewest t' (shared t' found).2
      sharedUnreported := fun t' found failed' => ?sharedUnreported }
    case sharedUnreported =>
      obtain ⟨other, found⟩ := shared t' found
      refine (List.mem_erase_of_ne ?_).2 (consistent.sharedUnreported t' found failed')
      rintro rfl
      exact other rfl

theorem Consistent.step (consistent : st.Consistent) {move : Move}
    (moved : st.step move = some st') : st'.Consistent := by
  cases move with
  | request uri => exact consistent.request moved
  | finish t result => exact consistent.finish moved
  | resume t => exact consistent.resume moved

theorem run_cons {move : Move} {moves : List Move} {st₂ : Fetching} :
    st.run (move :: moves) = some st₂ ↔ ∃ st₁, st.step move = some st₁ ∧ st₁.run moves = some st₂ := by
  rw [run, List.foldlM_cons]
  exact Option.bind_eq_some_iff

theorem Consistent.run (consistent : st.Consistent) {moves : List Move}
    (ran : st.run moves = some st') : st'.Consistent := by
  induction moves generalizing st with
  | nil =>
    cases ran
    exact consistent
  | cons move moves ih =>
    obtain ⟨st₁, moved, ran⟩ := run_cons.1 ran
    exact ih (consistent.step moved) ran

theorem Consistent.retries (consistent : st.Consistent) : st.Retries := by
  intro t began ⟨failed, told⟩
  cases found : st.fetcher.shared.find? t.uri with
  | none => exact .inl (by rw [Fetcher.request, found])
  | some n =>
    have told' : ¬ st.Reported ⟨t.uri, n⟩ := fun reported =>
      reported.2 (consistent.sharedUnreported ⟨t.uri, n⟩ found reported.1)
    refine .inr ⟨⟨t.uri, n⟩, consistent.sharedBegun ⟨t.uri, n⟩ found, ?_, ?_, told'⟩
    · rw [Fetcher.request, found]
    · refine Nat.lt_of_le_of_ne (consistent.sharedNewest ⟨t.uri, n⟩ found t began rfl) ?_
      intro same
      cases t
      cases same
      exact told' ⟨failed, told⟩

/-! ## Timely runs -/

/-- What holds in timely runs: a load that goes on or has succeeded is shared. -/
def Retained (st : Fetching) : Prop :=
  ∀ t ∈ st.started, ¬ st.Failed t → st.fetcher.shared.find? t.uri = some t.load

theorem Retained.step (retained : st.Retained) (consistent : st.Consistent) {move : Move}
    (orderly : st.Orderly move) (moved : st.step move = some st') : st'.Retained := by
  cases move with
  | request uri =>
    rcases step_request moved with ⟨n, found, rfl⟩ | ⟨fresh, rfl⟩
    · exact retained
    · intro t began lives
      show (st.fetcher.shared.bind uri st.fetcher.loads.size).find? t.uri = _
      rw [Bindings.find?_bind]
      rcases List.mem_cons.1 began with rfl | began
      · exact if_pos rfl
      · rw [Failed, load?_push (consistent.bounded t began)] at lives
        have shared := retained t began lives
        rw [if_neg]
        · exact shared
        · rintro rfl
          rw [fresh] at shared
          cases shared
  | finish t result =>
    obtain ⟨-, running, outcome, -, rfl⟩ := step_finish moved
    intro t' began lives
    refine retained t' began fun failed => lives ?_
    rw [Failed, load?_set running, if_neg]
    · exact failed
    · intro same
      have goesOn : st.load? t' = some .running := by
        rw [load?, ← same]
        exact running
      exact not_failed_of_running goesOn failed
  | resume t =>
    obtain ⟨waits, ⟨d, load, rfl⟩ | ⟨failed, rfl⟩⟩ := step_resume moved
    · exact retained
    · intro t' began lives
      show (st.fetcher.shared.unbind t.uri).find? t'.uri = _
      rw [Bindings.find?_unbind, if_neg]
      · exact retained t' began lives
      · intro same
        exact lives (orderly failed t' began same.symm)

theorem Retained.run (retained : st.Retained) (consistent : st.Consistent) {moves : List Move}
    (timely : st.Timely moves) (ran : st.run moves = some st') : st'.Retained := by
  induction moves generalizing st with
  | nil =>
    cases ran
    exact retained
  | cons move moves ih =>
    obtain ⟨st₁, moved, ran⟩ := run_cons.1 ran
    exact ih (retained.step consistent timely.1 moved) (consistent.step moved)
      (timely.2 st₁ moved) ran

/-- Two loads of one document that did not fail are the same. -/
theorem Retained.unique (retained : st.Retained) {t t' : Ticket} (began : t ∈ st.started)
    (began' : t' ∈ st.started) (same : t.uri = t'.uri) (lives : ¬ st.Failed t)
    (lives' : ¬ st.Failed t') : t = t' := by
  have shared := retained t began lives
  rw [same, retained t' began' lives'] at shared
  cases t
  cases t'
  cases same
  cases shared
  rfl

theorem Retained.shares (retained : st.Retained) (consistent : st.Consistent) : st.Shares where
  running _ began _ began' same running running' :=
    retained.unique began began' same (not_failed_of_running running)
      (not_failed_of_running running')
  loaded _ began _ began' same _ _ loaded loaded' :=
    retained.unique began began' same (not_failed_of_loaded loaded) (not_failed_of_loaded loaded')
  given uri d d' given given' := by
    obtain ⟨t, began, rfl, loaded⟩ := consistent.loaded _ _ given
    obtain ⟨t', began', same, loaded'⟩ := consistent.loaded _ _ given'
    have : t = t' := retained.unique began began' same.symm (not_failed_of_loaded loaded)
      (not_failed_of_loaded loaded')
    subst this
    rw [loaded] at loaded'
    exact Load.loaded.inj (Option.some.inj loaded')

end Fetching

end JsonSchema
