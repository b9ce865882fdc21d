import JsonSchema.Proofs.Registry.Loading
import Mathlib.Data.List.Forall2
import Mathlib.Data.Set.Defs

/-!
# What a loader serves

The documents that a fetcher gives come from its loader, or were loaded or requested before. So
where a loader serves only some addresses, only these and those shared at the beginning lead to
documents.

* `LoadM.Gives`: what an operation that may load gives if it succeeds.
* `Fetcher.Serves`: a fetcher loads only what is among some addresses.
* `Loading.fetchAll_gives`: so does loading several documents at once, which leaves the store.
-/

namespace JsonSchema

variable {σ α β : Type}

namespace LoadM

/-- What an operation that may load gives if it succeeds. -/
def Gives (m : LoadM σ α) (l : Loading σ) (post : α → Loading σ → Prop) : Prop :=
  ∀ a l', m l = .ok a l' → post a l'

namespace Gives

variable {l : Loading σ} {m : LoadM σ α} {post : α → Loading σ → Prop}

theorem pure {a : α} (h : post a l) : Gives (pure a : LoadM σ α) l post := by
  rintro _ _ ⟨⟩
  exact h

theorem throw (e : SchemaError) : Gives (MonadExcept.throw e : LoadM σ α) l post := by
  intro _ _ ran
  cases ran

theorem bind {f : α → LoadM σ β} {post' : β → Loading σ → Prop} (first : Gives m l post)
    (second : ∀ a l', post a l' → Gives (f a) l' post') : Gives (m >>= f) l post' := by
  intro b l'' ran
  change EStateM.bind m f l = .ok b l'' at ran
  unfold EStateM.bind at ran
  cases h : m l with
  | ok a l' =>
    rw [h] at ran
    exact second a l' (first a l' h) b l'' ran
  | error e l' =>
    rw [h] at ran
    cases ran

theorem get_bind {f : Loading σ → LoadM σ α} (rest : Gives (f l) l post) :
    Gives (get >>= f) l post := rest

theorem modify {change : Loading σ → Loading σ} {post : PUnit → Loading σ → Prop}
    (h : post ⟨⟩ (change l)) : Gives (modify change : LoadM σ PUnit) l post := by
  rintro _ _ ⟨⟩
  exact h

theorem imp {post' : α → Loading σ → Prop} (h : Gives m l post)
    (weaken : ∀ a l', post a l' → post' a l') : Gives m l post' :=
  fun a l' ran => weaken a l' (h a l' ran)

/-- Steps over a list, of which `inv` says what holds when some are left. -/
theorem foldlM {f : β → α → LoadM σ β} (inv : List α → β → Loading σ → Prop)
    (step : ∀ a rest b l, inv (a :: rest) b l → Gives (f b a) l (inv rest)) (list : List α) {b : β}
    (h : inv list b l) : Gives (list.foldlM f b) l (inv []) := by
  induction list generalizing b l with
  | nil => exact pure h
  | cons a rest ih =>
    rw [List.foldlM_cons]
    exact (step a rest b l h).bind fun _ _ => ih

theorem forM {f : α → LoadM σ PUnit} (inv : List α → Loading σ → Prop)
    (step : ∀ a rest l, inv (a :: rest) l → Gives (f a) l fun _ => inv rest) (list : List α)
    (h : inv list l) : Gives (list.forM f) l fun _ => inv [] := by
  induction list generalizing l with
  | nil => exact pure h
  | cons a rest ih => exact (step a rest l h).bind fun _ _ => ih

theorem mapM {f : α → LoadM σ β} (inv : List α → Loading σ → Prop) {R : α → β → Prop}
    (step : ∀ a rest l, inv (a :: rest) l → Gives (f a) l fun b l' => R a b ∧ inv rest l')
    (list : List α) (h : inv list l) :
    Gives (list.mapM f) l fun bs l' => List.Forall₂ R list bs ∧ inv [] l' := by
  induction list generalizing l with
  | nil =>
    rw [List.mapM_nil]
    exact pure ⟨.nil, h⟩
  | cons a rest ih =>
    rw [List.mapM_cons]
    refine (step a rest l h).bind fun b l₁ first => ?_
    exact (ih first.2).bind fun bs l₂ others => pure ⟨.cons first.1 others.1, others.2⟩

end Gives

end LoadM

namespace Fetcher

variable {S : Set String} {tickets running : List Ticket} {fetcher : Fetcher}

/-- A ticket of a caller, or of a request that shares a load. -/
def Leads (fetcher : Fetcher) (tickets : List Ticket) (t : Ticket) : Prop :=
  fetcher.shared.find? t.uri = some t.load ∨ t ∈ tickets

/-- Only documents with an address in `S` were loaded, and only they will be if the loads that go
    on give no others. -/
structure Serves (S : Set String) (tickets running : List Ticket) (fetcher : Fetcher) : Prop where
  bounded : ∀ t, fetcher.Leads tickets t → t.uri ∈ S ∨ t.load < fetcher.loads.size
  loaded : ∀ t, fetcher.Leads tickets t → ∀ d, fetcher.loads[t.load]? = some (.loaded d) → t.uri ∈ S
  begun : ∀ t ∈ running, t.load < fetcher.loads.size
  alone : ∀ t ∈ running, ∀ t', fetcher.Leads tickets t' → t'.load = t.load →
    t'.uri ∈ S ∨ t'.uri = t.uri

/-- What is shared at the beginning may have been loaded. -/
theorem serves_shared (shared : ∀ b ∈ fetcher.shared, b.1 ∈ S) : fetcher.Serves S [] [] := by
  have mem : ∀ t, fetcher.Leads [] t → t.uri ∈ S := by
    rintro t (found | none)
    · exact shared _ (Bindings.mem_of_find? found)
    · cases none
  exact ⟨fun t leads => .inl (mem t leads), fun t leads _ _ => mem t leads, nofun, nofun⟩

theorem Serves.request (serves : fetcher.Serves S tickets running) (uri : String) :
    (fetcher.request uri).2.2.Serves S (tickets ++ [(fetcher.request uri).1])
      (if (fetcher.request uri).2.1 then running ++ [(fetcher.request uri).1] else running) := by
  unfold Fetcher.request
  cases found : fetcher.shared.find? uri with
  | some n =>
    have leads : ∀ t, fetcher.Leads (tickets ++ [⟨uri, n⟩]) t → fetcher.Leads tickets t := by
      rintro t (shared | mem)
      · exact .inl shared
      · rcases List.mem_append.1 mem with mem | mem
        · exact .inr mem
        · cases List.mem_singleton.1 mem
          exact .inl found
    exact
      { bounded := fun t h => serves.bounded t (leads t h)
        loaded := fun t h => serves.loaded t (leads t h)
        begun := serves.begun
        alone := fun t mem t' h => serves.alone t mem t' (leads t' h) }
  | none =>
    let new : Ticket := ⟨uri, fetcher.loads.size⟩
    let after : Fetcher :=
      { loads := fetcher.loads.push .running
        shared := fetcher.shared.bind uri fetcher.loads.size }
    have leads : ∀ t, after.Leads (tickets ++ [new]) t → t = new ∨ fetcher.Leads tickets t := by
      rintro t (shared | mem)
      · change (fetcher.shared.bind uri fetcher.loads.size).find? t.uri = some t.load at shared
        rw [Bindings.find?_bind] at shared
        split at shared
        · next same =>
          cases t
          cases same
          cases shared
          exact .inl rfl
        · exact .inr (.inl shared)
      · exact (List.mem_append.1 mem).symm.imp List.mem_singleton.1 .inr
    show after.Serves S (tickets ++ [new]) (running ++ [new])
    have size : after.loads.size = fetcher.loads.size + 1 := Array.size_push _
    refine ⟨fun t h => ?bounded, fun t h d loaded => ?loaded, fun t mem => ?begun,
      fun t mem t' h same => ?alone⟩
    case bounded =>
      rw [size]
      rcases leads t h with rfl | h
      · exact .inr (Nat.lt_succ_self _)
      · exact (serves.bounded t h).imp_right Nat.lt_succ_of_lt
    case loaded =>
      have loaded : (fetcher.loads.push .running)[t.load]? = some (.loaded d) := loaded
      rcases leads t h with rfl | h
      · rw [Array.getElem?_push_size] at loaded
        cases loaded
      · rcases serves.bounded t h with mem | lt
        · exact mem
        · rw [Array.getElem?_push_lt lt, ← Array.getElem?_eq_getElem lt] at loaded
          exact serves.loaded t h d loaded
    case begun =>
      rw [size]
      rcases List.mem_append.1 mem with mem | mem
      · exact Nat.lt_succ_of_lt (serves.begun t mem)
      · cases List.mem_singleton.1 mem
        exact Nat.lt_succ_self _
    case alone =>
      rcases List.mem_append.1 mem with mem | mem
      · have lt := serves.begun t mem
        rcases leads t' h with rfl | h
        · rw [← same] at lt
          exact absurd lt (Nat.lt_irrefl _)
        · exact serves.alone t mem t' h same
      · cases List.mem_singleton.1 mem
        rcases leads t' h with rfl | h
        · exact .inr rfl
        · rcases serves.bounded t' h with mem | lt
          · exact .inl mem
          · rw [same] at lt
            exact absurd lt (Nat.lt_irrefl _)

theorem Serves.complete {t : Ticket} (serves : fetcher.Serves S tickets (t :: running))
    {result : Except SchemaError Value} (served : ∀ value, result = .ok value → t.uri ∈ S) :
    (fetcher.complete t result).Serves S tickets running := by
  have size : (fetcher.complete t result).loads.size = fetcher.loads.size := Array.size_setIfInBounds
  refine
    { bounded := fun t' h => by rw [size]; exact serves.bounded t' h
      loaded := fun t' h d loaded => ?_
      begun := fun t' mem => by rw [size]; exact serves.begun t' (List.mem_cons_of_mem _ mem)
      alone := fun t' mem => serves.alone t' (List.mem_cons_of_mem _ mem) }
  change fetcher.Leads tickets t' at h
  change (fetcher.loads.setIfInBounds t.load _)[t'.load]? = _ at loaded
  rw [Array.getElem?_setIfInBounds] at loaded
  by_cases same : t.load = t'.load
  · rw [if_pos same, if_pos (serves.begun t List.mem_cons_self)] at loaded
    rcases serves.alone t List.mem_cons_self t' h same.symm with mem | own
    · exact mem
    · cases result with
      | ok value =>
        rw [own]
        exact served value rfl
      | error e => cases loaded
  · rw [if_neg same] at loaded
    exact serves.loaded t' h d loaded

/-- A caller less. -/
theorem Serves.drop {t : Ticket} (serves : fetcher.Serves S (t :: tickets) []) :
    fetcher.Serves S tickets [] where
  bounded t' h := serves.bounded t' (h.imp_right (List.mem_cons_of_mem _))
  loaded t' h := serves.loaded t' (h.imp_right (List.mem_cons_of_mem _))
  begun _ mem := absurd mem List.not_mem_nil
  alone _ mem := absurd mem List.not_mem_nil

/-- A caller that collects a document asked for one that was loaded. -/
theorem Serves.collect {t : Ticket} (serves : fetcher.Serves S (t :: tickets) [])
    {result : Except SchemaError Document} {fetcher' : Fetcher}
    (collected : fetcher.collect t = some (result, fetcher')) :
    fetcher'.Serves S tickets [] ∧ ∀ d, result = .ok d → t.uri ∈ S := by
  have fewer := serves.drop
  unfold Fetcher.collect at collected
  split at collected
  · next d load =>
    cases collected
    exact ⟨fewer, fun _ _ => serves.loaded t (.inr List.mem_cons_self) d load⟩
  · cases collected
    refine ⟨?_, fun _ same => by cases same⟩
    have leads : ∀ t', ({ fetcher with shared := fetcher.shared.unbind t.uri } : Fetcher).Leads
        tickets t' → fetcher.Leads tickets t' := by
      rintro t' (shared | mem)
      · change (fetcher.shared.unbind t.uri).find? t'.uri = some t'.load at shared
        rw [Bindings.find?_unbind] at shared
        split at shared
        · cases shared
        · exact .inl shared
      · exact .inr mem
    exact { fewer with
      bounded := fun t' h => fewer.bounded t' (leads t' h)
      loaded := fun t' h => fewer.loaded t' (leads t' h)
      alone := fun _ mem => absurd mem List.not_mem_nil }
  · cases collected

end Fetcher

/-- The documents that a loader gives have addresses among some. -/
def Loader.GivesOnly (loader : Loader σ) (S : Set String) : Prop :=
  ∀ uri source value, (loader.load uri source).1 = .ok value → uri ∈ S

namespace Loading

open LoadM (Gives)

variable {S : Set String} {l : Loading σ}

/-- Only the fetcher, the source and the trace were changed. -/
structure Idle (l l' : Loading σ) : Prop where
  store : l'.registry.store = l.registry.store
  compiler : l'.registry.compiler = l.registry.compiler

theorem Idle.refl (l : Loading σ) : Idle l l := ⟨rfl, rfl⟩

theorem Idle.trans {l' l'' : Loading σ} (h : Idle l l') (h' : Idle l' l'') : Idle l l'' :=
  ⟨h'.store.trans h.store, h'.compiler.trans h.compiler⟩

/-- What the callers of several loads leave. -/
structure Serving (S : Set String) (tickets running : List Ticket) (l l' : Loading σ) : Prop where
  idle : Idle l l'
  serves : l'.fetcher.Serves S tickets running

theorem requestAll_gives (serves : l.fetcher.Serves S [] []) (uris : List String) :
    Gives (requestAll uris) l fun acc l' =>
      Serving S acc.1 acc.2 l l' ∧ acc.1.map (·.uri) = uris := by
  refine Gives.imp (Gives.foldlM
    (fun rest acc l' => Serving S acc.1 acc.2 l l' ∧ acc.1.map (·.uri) ++ rest = uris)
    ?_ uris ⟨⟨.refl l, serves⟩, rfl⟩) fun acc l' ⟨serving, done⟩ => ⟨serving, by simpa using done⟩
  intro uri rest acc l₁ ⟨serving, done⟩ acc' l₂ ran
  have requested := serving.serves.request uri
  have sent : (l₁.fetcher.request uri).1.uri = uri := by
    unfold Fetcher.request
    split <;> rfl
  simp only [LoadM.get_bind] at ran
  generalize l₁.fetcher.request uri = asked at ran requested sent
  obtain ⟨ticket, starts, fetcher⟩ := asked
  have next : acc'.1 = acc.1 ++ [ticket] := by cases starts <;> cases ran <;> rfl
  have left : acc'.1.map (·.uri) ++ rest = uris := by
    rw [next, List.map_append, List.map_singleton, sent, List.append_assoc]
    exact done
  cases starts
  all_goals
    cases ran
    exact ⟨⟨serving.idle.trans ⟨rfl, rfl⟩, requested⟩, left⟩

/-- Loading several documents at once leaves the store, and gives documents with addresses among
    some if the loader does. -/
theorem fetchAll_gives {loader : Loader σ} (only : loader.GivesOnly S)
    (serves : l.fetcher.Serves S [] []) (uris : List String) :
    Gives (fetchAll loader uris) l fun results l' => Serving S [] [] l l' ∧
      List.Forall₂ (fun uri result => ∀ d, result = .ok d → uri ∈ S) uris results := by
  refine (requestAll_gives serves uris).bind fun acc l₁ requested => ?_
  obtain ⟨tickets, started⟩ := acc
  obtain ⟨serving, rfl⟩ := requested
  refine Gives.bind (Gives.forM (fun running l' => Serving S tickets running l l') ?_ started serving)
    fun _ l₂ serving => ?_
  · intro t rest l₂ serving
    exact .modify ⟨serving.idle.trans ⟨rfl, rfl⟩, serving.serves.complete fun value =>
      only t.uri l₂.source value⟩
  · refine (Gives.mapM (fun tickets l' => Serving S tickets [] l l') ?_ tickets serving).imp
      fun results l' h => ⟨h.2, List.forall₂_map_left_iff.2 h.1⟩
    intro t rest l₃ serving
    refine .get_bind ?_
    cases collected : l₃.fetcher.collect t with
    | none => exact .pure ⟨nofun, serving.idle, serving.serves.drop⟩
    | some outcome =>
      obtain ⟨result, fetcher⟩ := outcome
      obtain ⟨serves, given⟩ := serving.serves.collect collected
      exact .bind (.modify ⟨serving.idle.trans ⟨rfl, rfl⟩, serves⟩) fun _ _ serving =>
        .pure ⟨given, serving⟩

end Loading

end JsonSchema
