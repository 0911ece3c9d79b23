import DerivedQuery.Engine
import DerivedQuery.Proofs.Execution
import DerivedQuery.Proofs.PlanCache

/-!
Calls on an engine, one after another. A call depends on the calls before it only through the plan
that serves its method, and each plan that serves was compiled for some method with the same key.
-/

namespace DerivedQuery

open Outcome

/-- A call on an engine; each execution has a store and a row mapper of its own. -/
inductive Call : Type 1 where
  | clear
  | plan (m : QueryMethod)
  | prepare (m : QueryMethod) (arguments : List Argument)
  | execute {α : Type} (t : Transport) (map : RowMapper α) (m : QueryMethod)
      (arguments : List Argument)

def Call.method? : Call → Option QueryMethod
  | .clear => none
  | .plan m | .prepare m _ | .execute _ _ m _ => some m

inductive Response : Type 1 where
  | cleared
  | planned (plan : Except QueryError Plan)
  | prepared (statement : Except QueryError Statement)
  | executed {α : Type} (result : Except QueryError (QueryResult α))

structure Reply : Type 1 where
  events : List Event
  response : Response

/-- The statements that a call handed to the store. -/
def Reply.statements (r : Reply) : List (Access × Statement) := r.events.filterMap Event.statement?

/-- A statement is found by its text. -/
theorem exists_statement_of_sql {statements : List (Access × Statement)} {access : Access}
    {sql : String} (h : (access, sql) ∈ statements.map fun run => (run.1, run.2.sql)) :
    ∃ s, (access, s) ∈ statements ∧ s.sql = sql := by
  obtain ⟨⟨_, s⟩, hs, heq⟩ := List.mem_map.1 h
  obtain ⟨rfl, hsql⟩ := Prod.mk.inj heq
  exact ⟨s, hs, hsql⟩

namespace Engine

variable {α : Type}

def perform (e : Engine) : Call → Engine × Reply
  | .clear => (e.clear, ⟨[], .cleared⟩)
  | .plan m =>
    let (e, planned) := e.plan m
    (e, ⟨planned.events, .planned (planned.result.map (·.plan))⟩)
  | .prepare m arguments =>
    let (e, prepared) := e.prepare m arguments
    (e, ⟨prepared.events, .prepared prepared.result⟩)
  | .execute t map m arguments =>
    let (e, executed) := e.execute t map m arguments
    (e, ⟨executed.events, .executed executed.result⟩)

def after (e : Engine) (calls : List Call) : Engine := calls.foldl (fun e c => (e.perform c).1) e

def replies : Engine → List Call → List Reply
  | _, [] => []
  | e, c :: cs => (e.perform c).2 :: (e.perform c).1.replies cs

def served (e : Engine) (m : QueryMethod) : Except QueryError Plan :=
  (e.plan m).2.result.map (·.plan)

end Engine

/-- Running a method once its plan is known. -/
def Entity.executePlanned {α : Type} (entity : Entity) (settings : Settings) (t : Transport)
    (map : RowMapper α) (planned : Except QueryError Plan) (arguments : List Argument) :
    Outcome (QueryResult α) :=
  (ofExcept planned).andThen fun p =>
    (ofExcept (bind entity.converter? p arguments)).andThen fun bound =>
      Execution.dispatch settings t map p bound

/-- Preparing a statement once the plan is known. -/
def Entity.preparePlanned (entity : Entity) (planned : Except QueryError Plan)
    (arguments : List Argument) : Except QueryError Statement := do
  let p ← planned
  let bound ← bind entity.converter? p arguments
  let sql ← p.render bound.orderBy bound.page
  return ⟨sql, bound.bindings⟩

theorem Entity.executePlanned_ok {α : Type} (entity : Entity) (settings : Settings)
    (t : Transport) (map : RowMapper α) (p : Plan) (arguments : List Argument) :
    entity.executePlanned settings t map (.ok p) arguments =
      (ofExcept (bind entity.converter? p arguments)).andThen fun bound =>
        Execution.dispatch settings t map p bound := rfl

theorem Entity.preparePlanned_ok (entity : Entity) (p : Plan) (arguments : List Argument) :
    entity.preparePlanned (.ok p) arguments =
      (bind entity.converter? p arguments).bind fun bound =>
        (p.render bound.orderBy bound.page).bind fun sql => .ok ⟨sql, bound.bindings⟩ := rfl

theorem Entity.preparePlanned_eq_ok_iff {entity : Entity} {planned : Except QueryError Plan}
    {arguments : List Argument} {s : Statement} :
    entity.preparePlanned planned arguments = .ok s ↔
      ∃ p bound, planned = .ok p ∧ bind entity.converter? p arguments = .ok bound ∧
        p.render bound.orderBy bound.page = .ok s.sql ∧ s.bindings = bound.bindings := by
  constructor
  · intro h
    obtain ⟨p, hp, h⟩ := Fallible.bind_eq_ok_iff.1 h
    obtain ⟨bound, hb, h⟩ := Fallible.bind_eq_ok_iff.1 h
    obtain ⟨sql, hr, h⟩ := Fallible.bind_eq_ok_iff.1 h
    cases h
    exact ⟨p, bound, hp, hb, hr, rfl⟩
  · rintro ⟨p, bound, rfl, hb, hr, hbindings⟩
    rw [preparePlanned_ok, hb, Except.bind, hr, Except.bind, ← hbindings]

/-- A call either fails before it reaches the store, or runs the statement of its plan. -/
theorem Entity.executePlanned_cases {α : Type} (entity : Entity) (settings : Settings)
    (t : Transport) (map : RowMapper α) (planned : Except QueryError Plan)
    (arguments : List Argument) :
    (∃ e, entity.executePlanned settings t map planned arguments = fail e ∧
      entity.preparePlanned planned arguments = .error e) ∨
    ∃ p bound s, planned = .ok p ∧ bind entity.converter? p arguments = .ok bound ∧
      p.render bound.orderBy bound.page = .ok s.sql ∧ s.bindings = bound.bindings ∧
      entity.preparePlanned planned arguments = .ok s ∧
      (entity.executePlanned settings t map planned arguments).statements = p.accesses t s ∧
      (entity.executePlanned settings t map planned arguments).result =
        (Execution.afterAnnouncement settings t map p s).result := by
  cases planned with
  | error e => exact Or.inl ⟨e, rfl, rfl⟩
  | ok p =>
    rw [executePlanned_ok, preparePlanned_ok]
    cases hb : bind entity.converter? p arguments with
    | error e => exact Or.inl ⟨e, rfl, rfl⟩
    | ok bound =>
      rw [ofExcept_ok, ok_andThen, Except.bind]
      cases hr : p.render bound.orderBy bound.page with
      | error e => exact Or.inl ⟨e, Execution.dispatch_of_render_error hr, rfl⟩
      | ok sql =>
        exact Or.inr ⟨p, bound, ⟨sql, bound.bindings⟩, rfl, hb, hr, rfl, rfl,
          Execution.statements_dispatch_of_render hr, Execution.result_dispatch_of_render hr⟩

namespace Engine

variable {α : Type}

theorem snd_execute (e : Engine) (t : Transport) (map : RowMapper α) (m : QueryMethod)
    (arguments : List Argument) :
    (e.execute t map m arguments).2 =
      (e.plan m).2.andThen fun p =>
        (ofExcept (bind e.entity.converter? p.plan arguments)).andThen fun bound =>
          Execution.dispatch e.settings t map p.plan bound := rfl

theorem result_noteFailure (key : String) (o : Outcome CompiledPlan) :
    (noteFailure key o).result = o.result := by
  unfold noteFailure
  split
  · rfl
  · next e h => exact h.symm

theorem statements_noteFailure (key : String) (o : Outcome CompiledPlan) :
    (noteFailure key o).statements = o.statements := by
  unfold noteFailure
  split
  · rfl
  · simp [statements, Event.statement?]

theorem fst_plan (e : Engine) (m : QueryMethod) :
    (e.plan m).1 =
      { e with cache := (e.cache.getOrCompile m.key fun _ => m.plan e.entity).1 } := rfl

theorem snd_plan (e : Engine) (m : QueryMethod) :
    (e.plan m).2 =
      noteFailure m.key (e.cache.getOrCompile m.key fun _ => m.plan e.entity).2 := rfl

theorem statements_plan (e : Engine) (m : QueryMethod) : (e.plan m).2.statements = [] := by
  rw [snd_plan, statements_noteFailure, PlanCache.statements_getOrCompile]

theorem served_of_kept {e : Engine} {m : QueryMethod} {kept : CompiledPlan}
    (h : e.cache.get? m.key = some kept) : e.served m = .ok kept.plan := by
  rw [served, snd_plan, result_noteFailure, PlanCache.getOrCompile_of_kept h]
  rfl

theorem served_of_not_kept {e : Engine} {m : QueryMethod} (h : e.cache.get? m.key = none) :
    e.served m = m.plan e.entity := by
  rw [served, snd_plan, result_noteFailure]
  cases m.plan e.entity with
  | error err => rw [PlanCache.getOrCompile_error h]; rfl
  | ok p =>
    obtain ⟨level, text, hc⟩ := PlanCache.getOrCompile_ok h p
    rw [hc]
    rfl

theorem result_execute (e : Engine) (t : Transport) (map : RowMapper α) (m : QueryMethod)
    (arguments : List Argument) :
    (e.execute t map m arguments).2.result =
      (e.entity.executePlanned e.settings t map (e.served m) arguments).result := by
  rw [snd_execute, result_andThen, Entity.executePlanned, result_andThen, result_ofExcept, served]
  cases (e.plan m).2.result <;> rfl

theorem statements_execute (e : Engine) (t : Transport) (map : RowMapper α) (m : QueryMethod)
    (arguments : List Argument) :
    (e.execute t map m arguments).2.statements =
      (e.entity.executePlanned e.settings t map (e.served m) arguments).statements := by
  rw [snd_execute, Entity.executePlanned, served]
  cases h : (e.plan m).2.result with
  | error err => rw [statements_andThen_of_error _ h, statements_plan]; rfl
  | ok p => rw [statements_andThen_of_ok _ h, statements_plan]; rfl

theorem snd_prepare (e : Engine) (m : QueryMethod) (arguments : List Argument) :
    (e.prepare m arguments).2 =
      (e.plan m).2.andThen fun p =>
        (ofExcept (bind e.entity.converter? p.plan arguments)).andThen fun bound =>
          (ofExcept (p.plan.render bound.orderBy bound.page)).andThen fun sql =>
            ok ⟨sql, bound.bindings⟩ := rfl

theorem result_prepare (e : Engine) (m : QueryMethod) (arguments : List Argument) :
    (e.prepare m arguments).2.result = e.entity.preparePlanned (e.served m) arguments := by
  rw [snd_prepare, result_andThen, Entity.preparePlanned, served]
  cases (e.plan m).2.result with
  | error err => rfl
  | ok p =>
    simp only [result_andThen, result_ofExcept, result_ok]
    rfl

theorem statements_prepare (e : Engine) (m : QueryMethod) (arguments : List Argument) :
    (e.prepare m arguments).2.statements = [] := by
  rw [snd_prepare, statements_andThen_of_silent, statements_plan]
  intro p
  rw [statements_andThen_of_silent]
  · rfl
  · intro bound
    rw [statements_andThen_of_silent fun _ => rfl]
    rfl

theorem mem_entries_plan {e : Engine} {m : QueryMethod} {key : String} {kept : CompiledPlan}
    (h : (key, kept) ∈ (e.plan m).1.cache.entries) :
    (key, kept) ∈ e.cache.entries ∨ m.key = key ∧ m.plan e.entity = .ok kept.plan := by
  rw [fst_plan] at h
  cases hk : e.cache.get? m.key with
  | some plan =>
    rw [PlanCache.getOrCompile_of_kept hk] at h
    exact Or.inl h
  | none =>
    cases hp : m.plan e.entity with
    | error err =>
      rw [hp, PlanCache.getOrCompile_error hk] at h
      exact Or.inl h
    | ok p =>
      obtain ⟨level, text, hc⟩ := PlanCache.getOrCompile_ok hk p
      rw [hp, hc] at h
      rcases PlanCache.mem_extend h with hmem | heq
      · exact Or.inl hmem
      · obtain ⟨rfl, rfl⟩ := Prod.mk.inj heq
        exact Or.inr ⟨rfl, rfl⟩

theorem fst_perform (e : Engine) {c : Call} {m : QueryMethod} (h : c.method? = some m) :
    (e.perform c).1 = (e.plan m).1 := by
  cases c <;> cases h <;> rfl

theorem entity_perform (e : Engine) (c : Call) : (e.perform c).1.entity = e.entity := by
  cases c <;> rfl

theorem settings_perform (e : Engine) (c : Call) : (e.perform c).1.settings = e.settings := by
  cases c <;> rfl

theorem entity_after (e : Engine) (calls : List Call) : (e.after calls).entity = e.entity := by
  induction calls generalizing e with
  | nil => rfl
  | cons c cs ih => exact (ih _).trans (entity_perform e c)

/-- Every plan that the engine keeps was compiled for one of the methods, under its key. -/
def KeepsFor (e : Engine) (methods : QueryMethod → Prop) : Prop :=
  ∀ key kept, (key, kept) ∈ e.cache.entries →
    ∃ m, methods m ∧ m.key = key ∧ m.plan e.entity = .ok kept.plan

variable {methods : QueryMethod → Prop}

theorem keepsFor_create (entity : Entity) (settings : Settings) :
    (create entity settings).KeepsFor methods := by
  intro key kept h
  cases h

theorem KeepsFor.perform {e : Engine} (h : e.KeepsFor methods) {c : Call}
    (hc : ∀ m ∈ c.method?, methods m) : (e.perform c).1.KeepsFor methods := by
  intro key kept hmem
  rw [entity_perform]
  cases hm : c.method? with
  | none =>
    cases c with
    | clear => cases hmem
    | _ => cases hm
  | some m =>
    rw [fst_perform e hm] at hmem
    rcases mem_entries_plan hmem with hold | ⟨hkey, hplan⟩
    · exact h key kept hold
    · exact ⟨m, hc m hm, hkey, hplan⟩

theorem KeepsFor.after {e : Engine} (h : e.KeepsFor methods) {calls : List Call}
    (hc : ∀ c ∈ calls, ∀ m ∈ c.method?, methods m) : (e.after calls).KeepsFor methods := by
  induction calls generalizing e with
  | nil => exact h
  | cons c cs ih =>
    exact ih (h.perform (hc c List.mem_cons_self)) fun c' hc' => hc c' (List.mem_cons_of_mem c hc')

/-- A plan that serves a method is its own, or was kept under its key for another one. -/
theorem KeepsFor.exists_of_served {e : Engine} (h : e.KeepsFor methods) {m : QueryMethod}
    (hm : methods m) {p : Plan} (hp : e.served m = .ok p) :
    ∃ m', methods m' ∧ m'.key = m.key ∧ m'.plan e.entity = .ok p := by
  cases hk : e.cache.get? m.key with
  | none => exact ⟨m, hm, rfl, (served_of_not_kept hk).symm.trans hp⟩
  | some kept =>
    rw [served_of_kept hk] at hp
    obtain rfl : kept.plan = p := by simpa using hp
    exact h m.key kept (PlanCache.mem_of_get? hk)

end Engine

/-- The methods whose plan may serve `m` after some calls: `m` itself, and every method that was
called before and has the key of `m`. -/
def QueryMethod.ServedAs (m : QueryMethod) (calls : List Call) (m' : QueryMethod) : Prop :=
  m'.key = m.key ∧ (m' = m ∨ ∃ c ∈ calls, c.method? = some m')

theorem Engine.exists_servedAs {entity : Entity} {settings : Settings} {calls : List Call}
    {m : QueryMethod} {p : Plan} (h : ((create entity settings).after calls).served m = .ok p) :
    ∃ m', m.ServedAs calls m' ∧ m'.plan entity = .ok p := by
  have hkeeps : ((create entity settings).after calls).KeepsFor
      fun m' => m' = m ∨ ∃ c ∈ calls, c.method? = some m' :=
    (keepsFor_create entity settings).after fun c hc m' hm' => Or.inr ⟨c, hc, hm'⟩
  obtain ⟨m', hm', hkey, hplan⟩ := hkeeps.exists_of_served (Or.inl rfl) h
  rw [entity_after] at hplan
  exact ⟨m', ⟨hkey, hm'⟩, hplan⟩

end DerivedQuery
