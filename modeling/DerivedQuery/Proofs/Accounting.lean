import DerivedQuery.Metrics
import DerivedQuery.Proofs.CacheTransparency
import DerivedQuery.Proofs.CallTrace

/-!
The counters over whole runs. Every call that gets a plan counts as a compilation or as a reuse, and
every statement counts for the operation of the plan that serves its method. That is the operation
which the method is named for exactly if the engine keeps no plans or the keys of the methods tell
such plans apart.
-/

namespace DerivedQuery

open Outcome

variable {α β : Type}

/-- Whether the store answers with rows or a number, and not with an error. -/
def Transport.succeeds (t : Transport) : Access × Statement → Bool
  | (.query, s) => (t.query s).isOk
  | (.update, s) => (t.update s).isOk

def QueryMethod.operation? (m : QueryMethod) : Option Operation :=
  (QueryName.parse m.name).toOption.map (·.operation)

theorem QueryMethod.operation?_of_plan {m : QueryMethod} {entity : Entity} {p : Plan}
    (h : m.plan entity = .ok p) : m.operation? = some p.operation := by
  obtain ⟨query, hquery, hcompile⟩ := QueryMethod.plan_eq_ok_iff.1 h
  rw [operation?, hquery, (Plan.compiledFrom_of_compile hcompile).operation]
  rfl

def Call.operation? (c : Call) : Option Operation := c.method?.bind (·.operation?)

namespace Engine

/-- The operation of the plan that serves a call. -/
def operation? (e : Engine) (c : Call) : Option Operation :=
  c.method?.bind fun m => (e.served m).toOption.map (·.operation)

def plans (e : Engine) (c : Call) : Bool := c.method?.any fun m => (e.served m).isOk

/-- How the store answers what a call hands to it, in order: the statements of the plan, once it can
be prepared. -/
def answers (e : Engine) : Call → List Bool
  | .execute t _ m arguments =>
    match e.served m, e.entity.preparePlanned (e.served m) arguments with
    | .ok p, .ok s => (p.accesses t s).map t.succeeds
    | _, _ => []
  | _ => []

/-- Each call with the engine that it meets. -/
def visits : Engine → List Call → List (Engine × Call)
  | _, [] => []
  | e, c :: cs => (e, c) :: (e.perform c).1.visits cs

def metrics (e : Engine) (calls : List Call) : Metrics :=
  .ofEvents ((e.replies calls).flatMap (·.events))

/-- How the store answers the calls of one operation. -/
def answersTo (e : Engine) (operation? : Engine → Call → Option Operation) (op : Operation)
    (calls : List Call) : List Bool :=
  (e.visits calls).flatMap fun visit =>
    if operation? visit.1 visit.2 = some op then visit.1.answers visit.2 else []

/-- The counters of each operation count the answers of the store to its calls and the failures
among them. -/
def Accounts (e : Engine) (operation? : Engine → Call → Option Operation) (calls : List Call) :
    Prop :=
  ∀ op, (e.metrics calls).queries op = (e.answersTo operation? op calls).length ∧
    (e.metrics calls).errors op = (e.answersTo operation? op calls).count false

end Engine

/-- What a call leaves on record once it has its plan: notes, and the statements that the store has
answered, under one operation. -/
inductive Event.Answered (t : Transport) (op : Operation) : Event → Prop
  | log (level : LogLevel) (text : String) : Answered t op (.log level text)
  | executed (access : Access) (s : Statement) :
      Answered t op (.executed op access s (t.succeeds (access, s)))

namespace Execution

variable {t : Transport} {p : Plan}

theorem records_log (level : LogLevel) (text : String) (op : Operation) :
    Records (Event.Answered t op) (Outcome.log level text) := by
  rintro ev (_ | ⟨_, ⟨⟩⟩)
  exact .log level text

theorem records_run {op : Operation} {access : Access} {s : Statement}
    {answer : Except QueryError α} (h : answer.isOk = t.succeeds (access, s)) :
    Records (Event.Answered t op) (run op access s answer) := by
  have hexecuted : Event.Answered t op (.executed op access s answer.isOk) := by
    rw [h]
    exact .executed access s
  cases answer with
  | ok a =>
    intro ev hev
    rw [List.mem_singleton.1 hev]
    exact hexecuted
  | error e =>
    intro ev hev
    rcases List.mem_cons.1 hev with rfl | hlog
    · exact hexecuted
    · rw [List.mem_singleton.1 hlog]
      exact .log _ _

theorem records_announce (settings : Settings) (s : Statement) (op : Operation) :
    Records (Event.Answered t op) (announce settings p s) := by
  unfold announce
  split
  · exact records_log _ _ op
  · exact .of_ok ()

theorem records_singleRow (settings : Settings) (p : Plan) (map : RowMapper α) (rows : List Row)
    (op : Operation) : Records (Event.Answered t op) (singleRow settings p map rows) := by
  unfold singleRow
  cases rows with
  | nil => exact .of_ok _
  | cons row rows =>
    cases rows with
    | nil => exact .ofExcept _
    | cons second rows =>
      cases h : settings.strictSingleResult with
      | true => exact .of_fail _
      | false => exact (records_log _ _ op).andThen fun _ => .ofExcept ((map row).map _)

theorem records_shapeRows (settings : Settings) (p : Plan) (map : RowMapper α) (rows : List Row)
    (op : Operation) : Records (Event.Answered t op) (shapeRows settings p map rows) := by
  unfold shapeRows
  split
  · exact records_singleRow settings p map rows op
  · exact .ofExcept _
  · exact .ofExcept _

theorem records_deleteRows (settings : Settings) (t : Transport) (p : Plan) (rows : List Row) :
    Records (Event.Answered t p.operation) (deleteRows settings t p rows) := by
  unfold deleteRows
  split
  · exact .of_ok 0
  · refine .andThen (.ofExcept _) fun deletion => ?_
    exact .andThen (records_announce settings deletion _) fun _ => records_run rfl

theorem records_afterAnnouncement (settings : Settings) (t : Transport) (map : RowMapper α)
    (p : Plan) (s : Statement) :
    Records (Event.Answered t p.operation) (afterAnnouncement settings t map p s) := by
  have hquery : Records (Event.Answered t p.operation) (runQuery t p s) := records_run rfl
  unfold afterAnnouncement
  split
  · exact hquery.andThen fun rows => records_shapeRows settings p map rows _
  · exact hquery.andThen fun _ => .ofExcept _
  · exact hquery.andThen fun _ => .ofExcept _
  · split
    · refine hquery.andThen fun rows => (records_deleteRows settings t p rows).andThen fun _ => ?_
      split
      · exact .ofExcept _
      · exact .of_ok _
    · exact (records_run rfl).andThen fun _ => .of_ok _

end Execution

/-- Running a plan leaves nothing on record but notes and the statements that the store has
answered, under the operation of the plan. -/
theorem Entity.records_executePlanned (entity : Entity) (settings : Settings) (t : Transport)
    (map : RowMapper α) (p : Plan) (arguments : List Argument) :
    Records (Event.Answered t p.operation)
      (entity.executePlanned settings t map (.ok p) arguments) := by
  rw [executePlanned_ok]
  refine .andThen (.ofExcept _) fun bound => ?_
  rw [Execution.dispatch_eq]
  refine .andThen (.ofExcept _) fun sql => ?_
  exact .andThen (Execution.records_announce settings _ _) fun _ =>
    Execution.records_afterAnnouncement settings t map p _

section Counting

variable {t : Transport} {op : Operation} {events : List Event}

/-- What a call leaves on record counts for its operation alone, and each answer counts once. -/
theorem ofEvents_of_answered (h : ∀ ev ∈ events, ev.Answered t op) :
    let counted := Metrics.ofEvents events
    let answers := (events.filterMap Event.statement?).map t.succeeds
    counted.plansCompiled = 0 ∧ counted.planCacheHits = 0 ∧
      ∀ op', counted.queries op' = (if op = op' then answers.length else 0) ∧
        counted.errors op' = if op = op' then answers.count false else 0 := by
  induction events with
  | nil => simp [Metrics.ofEvents]
  | cons ev events ih =>
    obtain ⟨hev, hevents⟩ := List.forall_mem_cons.1 h
    obtain ⟨hcompiled, hhits, hcounted⟩ := ih hevents
    cases hev with
    | log level text => exact ⟨hcompiled, hhits, hcounted⟩
    | executed access s =>
      refine ⟨hcompiled, hhits, fun op' => ?_⟩
      obtain ⟨hqueries, herrors⟩ := hcounted op'
      simp only [Metrics.ofEvents, List.countP_cons, Event.isExecution, Event.isFailure,
        List.filterMap_cons, Event.statement?, List.map_cons, List.length_cons,
        List.count_cons] at hqueries herrors ⊢
      rw [hqueries, herrors]
      by_cases hop : op = op'
      · cases hanswer : t.succeeds (access, s) <;> simp [hop]
      · simp [hop]

end Counting

namespace Engine

theorem ofEvents_plan (e : Engine) (m : QueryMethod) :
    let counted := Metrics.ofEvents (e.plan m).2.events
    counted.plansCompiled + counted.planCacheHits = (if (e.served m).isOk then 1 else 0) ∧
      (∀ op, counted.queries op = 0) ∧ ∀ op, counted.errors op = 0 := by
  rw [served, snd_plan]
  cases hk : e.cache.get? m.key with
  | some kept =>
    rw [PlanCache.getOrCompile_of_kept hk]
    exact ⟨rfl, fun _ => rfl, fun _ => rfl⟩
  | none =>
    cases m.plan e.entity with
    | error err =>
      rw [PlanCache.getOrCompile_error hk]
      exact ⟨rfl, fun _ => rfl, fun _ => rfl⟩
    | ok p =>
      obtain ⟨level, text, hc⟩ := PlanCache.getOrCompile_ok hk p
      rw [hc]
      exact ⟨rfl, fun _ => rfl, fun _ => rfl⟩

theorem events_prepare (e : Engine) (m : QueryMethod) (arguments : List Argument) :
    (e.prepare m arguments).2.events = (e.plan m).2.events := by
  rw [snd_prepare, events_andThen]
  cases (e.plan m).2.result with
  | error err => exact List.append_nil _
  | ok p =>
    -- binding and rendering leave nothing on record
    have hsilent : Records (fun _ => False)
        ((ofExcept (bind e.entity.converter? p.plan arguments)).andThen fun bound =>
          (ofExcept (p.plan.render bound.orderBy bound.page)).andThen fun sql =>
            ok (⟨sql, bound.bindings⟩ : Statement)) :=
      .andThen (.ofExcept _) fun bound => .andThen (.ofExcept _) fun sql => .of_ok _
    dsimp only
    rw [List.eq_nil_iff_forall_not_mem.2 hsilent, List.append_nil]

theorem events_execute (e : Engine) (t : Transport) (map : RowMapper α) (m : QueryMethod)
    (arguments : List Argument) :
    (e.execute t map m arguments).2.events = (e.plan m).2.events ++
      (e.entity.executePlanned e.settings t map (e.served m) arguments).events := by
  rw [snd_execute, events_andThen, served]
  cases (e.plan m).2.result with
  | error err => rfl
  | ok p => rfl

/-- What the answers are, by the plan that serves the method. -/
theorem answers_execute (e : Engine) (t : Transport) (map : RowMapper α) (m : QueryMethod)
    (arguments : List Argument) :
    e.answers (.execute t map m arguments) =
      ((e.entity.executePlanned e.settings t map (e.served m) arguments).statements).map
        t.succeeds := by
  unfold answers
  dsimp only
  rcases e.entity.executePlanned_cases e.settings t map (e.served m) arguments with
    ⟨err, hfail, hprepared⟩ | ⟨p, bound, s, hserved, -, -, -, hprepared, hstatements, -⟩
  · rw [hfail, hprepared]
    cases e.served m <;> rfl
  · rw [hstatements, hprepared, hserved]

theorem operation?_of_served {e : Engine} {c : Call} {m : QueryMethod} {p : Plan}
    (hc : c.method? = some m) (h : e.served m = .ok p) : e.operation? c = some p.operation := by
  simp [operation?, hc, h, Except.toOption]

theorem ofEvents_executePlanned (e : Engine) (t : Transport) (map : RowMapper α) (m : QueryMethod)
    (arguments : List Argument) :
    let c : Call := .execute t map m arguments
    let counted := Metrics.ofEvents
      (e.entity.executePlanned e.settings t map (e.served m) arguments).events
    counted.plansCompiled = 0 ∧ counted.planCacheHits = 0 ∧ ∀ op,
      counted.queries op = (if e.operation? c = some op then (e.answers c).length else 0) ∧
        counted.errors op = if e.operation? c = some op then (e.answers c).count false else 0 := by
  intro c
  rw [answers_execute]
  cases hserved : e.served m with
  | error err =>
    refine ⟨rfl, rfl, fun op => ⟨?_, ?_⟩⟩
    · exact (ite_self 0).symm
    · exact (ite_self 0).symm
  | ok p =>
    have hop : e.operation? c = some p.operation := operation?_of_served rfl hserved
    simp only [hop, Option.some.injEq]
    exact ofEvents_of_answered (e.entity.records_executePlanned e.settings t map p arguments)

/-- One call adds one to the plans if it gets one, and its answers to the counters of the operation
of its plan. -/
theorem ofEvents_perform (e : Engine) (c : Call) :
    let counted := Metrics.ofEvents (e.perform c).2.events
    counted.plansCompiled + counted.planCacheHits = (if e.plans c then 1 else 0) ∧
      ∀ op, counted.queries op =
          (if e.operation? c = some op then (e.answers c).length else 0) ∧
        counted.errors op =
          if e.operation? c = some op then (e.answers c).count false else 0 := by
  cases c with
  | clear => exact ⟨rfl, fun op => ⟨rfl, rfl⟩⟩
  | plan m =>
    obtain ⟨hplans, hqueries, herrors⟩ := e.ofEvents_plan m
    refine ⟨hplans, fun op => ⟨(hqueries op).trans ?_, (herrors op).trans ?_⟩⟩
    · simp [answers]
    · simp [answers]
  | prepare m arguments =>
    have hevents : (e.perform (.prepare m arguments)).2.events = (e.plan m).2.events :=
      e.events_prepare m arguments
    obtain ⟨hplans, hqueries, herrors⟩ := e.ofEvents_plan m
    rw [hevents]
    refine ⟨hplans, fun op => ⟨(hqueries op).trans ?_, (herrors op).trans ?_⟩⟩
    · simp [answers]
    · simp [answers]
  | execute t map m arguments =>
    have hevents : (e.perform (.execute t map m arguments)).2.events = _ :=
      e.events_execute t map m arguments
    obtain ⟨hplans, hqueries, herrors⟩ := e.ofEvents_plan m
    obtain ⟨hcompiled, hhits, hcounted⟩ := e.ofEvents_executePlanned t map m arguments
    rw [hevents, Metrics.ofEvents_append]
    refine ⟨?_, fun op => ⟨?_, ?_⟩⟩
    · rw [Metrics.plansCompiled_add, Metrics.planCacheHits_add, hcompiled, hhits]
      exact hplans
    · rw [Metrics.queries_add, hqueries, (hcounted op).1, Nat.zero_add]
    · rw [Metrics.errors_add, herrors, (hcounted op).2, Nat.zero_add]

/-- The counters of a run are those of its calls, each on the engine that it meets. -/
theorem metrics_cons (e : Engine) (c : Call) (calls : List Call) :
    e.metrics (c :: calls) = Metrics.ofEvents (e.perform c).2.events +
      (e.perform c).1.metrics calls :=
  Metrics.ofEvents_append _ _

theorem accounts_served (e : Engine) (calls : List Call) :
    (e.metrics calls).plansCompiled + (e.metrics calls).planCacheHits =
        (e.visits calls).countP (fun visit => visit.1.plans visit.2) ∧
      e.Accounts operation? calls := by
  induction calls generalizing e with
  | nil => exact ⟨rfl, fun op => ⟨rfl, rfl⟩⟩
  | cons c calls ih =>
    obtain ⟨hplans, hcounted⟩ := e.ofEvents_perform c
    obtain ⟨hplansRest, hrest⟩ := ih (e.perform c).1
    refine ⟨?_, fun op => ?_⟩
    · rw [metrics_cons, visits, List.countP_cons, ← hplansRest, Metrics.plansCompiled_add,
        Metrics.planCacheHits_add]
      dsimp only
      omega
    · obtain ⟨hqueries, herrors⟩ := hcounted op
      obtain ⟨hqueriesRest, herrorsRest⟩ := hrest op
      rw [metrics_cons, Metrics.queries_add, Metrics.errors_add, hqueries, herrors, hqueriesRest,
        herrorsRest]
      unfold answersTo
      rw [visits, List.flatMap_cons, List.length_append, List.count_append]
      by_cases hop : e.operation? c = some op
      · simp only [hop, if_true, and_self]
      · simp only [hop, if_false, List.length_nil, List.count_nil, and_self]

theorem errors_le_queries (e : Engine) (calls : List Call) (op : Operation) :
    (e.metrics calls).errors op ≤ (e.metrics calls).queries op := by
  obtain ⟨hqueries, herrors⟩ := (e.accounts_served calls).2 op
  rw [hqueries, herrors]
  exact List.count_le_length

variable {methods : QueryMethod → Prop} {operation?' : Engine → Call → Option Operation}

/-- Calls that the store answers decide where a run is counted. -/
theorem answersTo_congr {e : Engine} {calls : List Call}
    (h : ∀ visit ∈ e.visits calls, visit.1.answers visit.2 ≠ [] →
      visit.1.operation? visit.2 = operation?' visit.1 visit.2) (op : Operation) :
    e.answersTo operation? op calls = e.answersTo operation?' op calls := by
  apply List.flatMap_congr
  intro visit hvisit
  by_cases hanswers : visit.1.answers visit.2 = []
  · simp only [hanswers, ite_self]
  · rw [h visit hvisit hanswers]

/-- What holds of an engine and is kept by the calls on it holds at each visit. -/
theorem forall_visits {P : Engine → Prop} {e : Engine} (he : P e)
    (hperform : ∀ e, P e → ∀ c, (∀ m ∈ Call.method? c, methods m) → P (e.perform c).1)
    {calls : List Call} (hcalls : ∀ c ∈ calls, ∀ m ∈ c.method?, methods m) :
    ∀ visit ∈ e.visits calls, P visit.1 ∧ ∀ m ∈ visit.2.method?, methods m := by
  induction calls generalizing e with
  | nil => simp [visits]
  | cons c calls ih =>
    obtain ⟨hc, hrest⟩ := List.forall_mem_cons.1 hcalls
    exact List.forall_mem_cons.2 ⟨⟨he, hc⟩, ih (hperform e he c hc) hrest⟩

/-- The store answers no call but an execution with a plan that can be prepared. -/
theorem exists_of_answers_ne_nil {e : Engine} {c : Call} (h : e.answers c ≠ []) :
    ∃ m p arguments s, c.method? = some m ∧ e.served m = .ok p ∧
      e.entity.preparePlanned (.ok p) arguments = .ok s := by
  cases c with
  | execute t map m arguments =>
    unfold answers at h
    dsimp only at h
    split at h
    · next p s hserved hprepared =>
      rw [hserved] at hprepared
      exact ⟨m, p, arguments, s, rfl, hserved, hprepared⟩
    · exact absurd rfl h
  | _ => exact absurd rfl h

end Engine

/-- A method with the key of another that has a plan, one that can be prepared, is named for the
operation of that plan. -/
def QueryMethod.KeysTellOperations (entity : Entity) (methods : QueryMethod → Prop) : Prop :=
  ∀ m m', methods m → methods m' → m.key = m'.key → ∀ p, m.plan entity = .ok p →
    (∃ arguments s, entity.preparePlanned (.ok p) arguments = .ok s) →
    m'.operation? = some p.operation

namespace Engine

variable {methods : QueryMethod → Prop}

/-- An engine whose plans serve methods named for their operation accounts by these names. -/
theorem accounts_of_visits {P : Engine → Prop} {e : Engine} (he : P e)
    (hserved : ∀ e, P e → ∀ m, methods m → ∀ p, e.served m = .ok p →
      (∃ arguments s, e.entity.preparePlanned (.ok p) arguments = .ok s) →
      m.operation? = some p.operation)
    (hperform : ∀ e, P e → ∀ c, (∀ m ∈ Call.method? c, methods m) → P (e.perform c).1)
    {calls : List Call} (hcalls : ∀ c ∈ calls, ∀ m ∈ c.method?, methods m) :
    e.Accounts (fun _ c => c.operation?) calls := by
  have hvisits := forall_visits he hperform hcalls
  intro op
  rw [← answersTo_congr (fun visit hvisit hanswers => ?_) op]
  · exact (e.accounts_served calls).2 op
  · obtain ⟨hP, hmethods⟩ := hvisits visit hvisit
    obtain ⟨m, p, arguments, s, hm, hp, hs⟩ := exists_of_answers_ne_nil hanswers
    rw [operation?_of_served hm hp, Call.operation?, hm]
    exact (hserved visit.1 hP m (hmethods m hm) p hp ⟨arguments, s, hs⟩).symm

theorem answers_ne_nil {e : Engine} {t : Transport} {map : RowMapper α} {m : QueryMethod}
    {arguments : List Argument} {p : Plan} {s : Statement} (hp : e.served m = .ok p)
    (hs : e.entity.preparePlanned (.ok p) arguments = .ok s) :
    e.answers (.execute t map m arguments) ≠ [] := by
  unfold answers
  simp only [hp, hs]
  simpa using Plan.accesses_ne_nil p t s

/-- A call that is served the plan of another method counts for the operation of that plan. -/
theorem operation?_of_accounts {entity : Entity} {settings : Settings} {m m' : QueryMethod}
    {p : Plan} {arguments : List Argument} {s : Statement} (hcap : settings.planCacheCapacity ≠ 0)
    (hp : m.plan entity = .ok p) (hkey : m.key = m'.key)
    (hs : entity.preparePlanned (.ok p) arguments = .ok s) (t : Transport) (map : RowMapper α)
    (h : (create entity settings).Accounts (fun _ c => c.operation?)
      [.plan m, .execute t map m' arguments]) : m'.operation? = some p.operation := by
  let e := ((create entity settings).plan m).1
  let c : Call := .execute t map m' arguments
  have hserved : e.served m' = .ok p := served_after_plan hcap hp hkey
  have hop : e.operation? c = some p.operation := operation?_of_served rfl hserved
  have hanswers : e.answers c ≠ [] := answers_ne_nil hserved hs
  have hvisits : (create entity settings).visits [.plan m, c] =
      [(create entity settings, .plan m), (e, c)] := rfl
  have hplan : (create entity settings).answers (.plan m) = [] := rfl
  have hall : (create entity settings).answersTo operation? p.operation [.plan m, c] =
      e.answers c := by
    simp [answersTo, hvisits, hplan, hop]
  by_contra hne
  have hother : c.operation? ≠ some p.operation := hne
  have hnone : (create entity settings).answersTo (fun _ c => c.operation?) p.operation
      [.plan m, c] = [] := by
    simp [answersTo, hvisits, hplan, hother]
  have hcounted := (((create entity settings).accounts_served [.plan m, c]).2 p.operation).1
  rw [hall, (h p.operation).1, hnone] at hcounted
  exact hanswers (List.eq_nil_of_length_eq_zero hcounted.symm)

end Engine

/-- Every run counts its plans and, for the operation of the plan that serves each call, the answers
of the store and the failures among them. It counts them for the operation that each method is named
for exactly if the engine keeps no plans or the keys of the methods tell operations apart. -/
theorem accounts_by_name_iff (entity : Entity) (settings : Settings)
    (methods : QueryMethod → Prop) :
    (∀ calls : List Call,
      let e := Engine.create entity settings
      (e.metrics calls).plansCompiled + (e.metrics calls).planCacheHits =
          (e.visits calls).countP (fun visit => visit.1.plans visit.2) ∧
        e.Accounts Engine.operation? calls ∧
        ∀ op, (e.metrics calls).errors op ≤ (e.metrics calls).queries op) ∧
      ((∀ calls : List Call, (∀ c ∈ calls, ∀ m ∈ c.method?, methods m) →
        (Engine.create entity settings).Accounts (fun _ c => c.operation?) calls) ↔
        settings.planCacheCapacity = 0 ∨ QueryMethod.KeysTellOperations entity methods) := by
  refine ⟨fun calls => ?_, ?_, ?_⟩
  · obtain ⟨hplans, hcounted⟩ := (Engine.create entity settings).accounts_served calls
    exact ⟨hplans, hcounted, Engine.errors_le_queries _ calls⟩
  · intro h
    by_contra hno
    obtain ⟨hcap, hkeys⟩ := not_or.1 hno
    refine hkeys fun m m' hm hm' hkey p hp ⟨arguments, s, hs⟩ => ?_
    let t : Transport := ⟨fun _ => .ok [], fun _ => .ok 0⟩
    let map : RowMapper Unit := fun _ => .ok ()
    have hrun := h [.plan m, .execute t map m' arguments] (by simp [Call.method?, hm, hm'])
    exact Engine.operation?_of_accounts hcap hp hkey hs t map hrun
  · rintro (hcap | hkeys) calls hcalls
    · refine Engine.accounts_of_visits (P := fun e => e.cache.capacity = 0 ∧ e.cache.entries = [])
        ⟨hcap, rfl⟩ ?_ ?_ hcalls
      · rintro e ⟨-, hempty⟩ m - p hp -
        rw [Engine.served_of_not_kept (by simp [PlanCache.get?, hempty])] at hp
        exact QueryMethod.operation?_of_plan hp
      · rintro e ⟨hcap', hempty⟩ c -
        exact Engine.entries_perform_of_capacity_eq_zero hcap' hempty c
    · refine Engine.accounts_of_visits (P := fun e => e.entity = entity ∧ e.KeepsFor methods)
        ⟨rfl, Engine.keepsFor_create entity settings⟩ ?_ ?_ hcalls
      · rintro e ⟨rfl, hkeeps⟩ m hm p hp hs
        obtain ⟨m', hm', hkey, hplan⟩ := hkeeps.exists_of_served hm hp
        exact hkeys m' m hm' hm hkey p hplan hs
      · rintro e ⟨hentity, hkeeps⟩ c hc
        exact ⟨(e.entity_perform c).trans hentity, hkeeps.perform hc⟩

namespace Example

def countInModule : QueryMethod := ⟨"shop::deleteX", "count", [], .count⟩

def deleteInModule : QueryMethod := ⟨"shop", "deleteX::count", [], .count⟩

/-- Two executions of methods with one key, of which one counts and the other deletes. -/
def modules : List Call :=
  [.execute noTrades Trade.ofRow countInModule [], .execute noTrades Trade.ofRow deleteInModule []]

/-- The deletion is served the plan of the count, so its statement counts as one that counts. -/
theorem modules_not_accounted_by_name :
    ¬(Engine.create trades {}).Accounts (fun _ c => c.operation?) modules := by
  intro h
  have hqueries := (h .delete).1
  revert hqueries
  decide +kernel

end Example

end DerivedQuery
