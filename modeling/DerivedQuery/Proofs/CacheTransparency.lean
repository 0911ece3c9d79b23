import DerivedQuery.Example.Trades
import DerivedQuery.Proofs.Compile
import DerivedQuery.Proofs.Run

/-!
Kept plans show in no reply, whatever the calls, exactly if methods of one key have one name and
one signature. Keys do not see to that: an object type called `Date` and the type of dates have one
name in a key, and a method can then be served the plan of its overload.
-/

namespace DerivedQuery

/-- What the caller and the store see of a call, given the plan for each method. -/
def Call.visible (entity : Entity) (settings : Settings)
    (plans : QueryMethod → Except QueryError Plan) :
    Call → Response × List (Access × Statement)
  | .clear => (.cleared, [])
  | .plan m => (.planned (plans m), [])
  | .prepare m arguments => (.prepared (entity.preparePlanned (plans m) arguments), [])
  | .execute t map m arguments =>
    let executed := entity.executePlanned settings t map (plans m) arguments
    (.executed executed.result, executed.statements)

/-- What they see when every call compiles its method afresh. -/
def Call.afresh (entity : Entity) (settings : Settings) :
    Call → Response × List (Access × Statement) :=
  Call.visible entity settings fun m => m.plan entity

def Reply.visible (r : Reply) : Response × List (Access × Statement) := (r.response, r.statements)

/-- Two of the methods with one key, of which one has a plan, differ in their repository at most. -/
def QueryMethod.KeysSeparate (entity : Entity) (methods : QueryMethod → Prop) : Prop :=
  ∀ m m', methods m → methods m' → m.key = m'.key → (∃ p, m.plan entity = .ok p) →
    m.name = m'.name ∧ m.parameters = m'.parameters ∧ m.shape = m'.shape

theorem Call.visible_congr {entity : Entity} {settings : Settings}
    {plans plans' : QueryMethod → Except QueryError Plan} {c : Call}
    (h : ∀ m ∈ c.method?, plans m = plans' m) :
    c.visible entity settings plans = c.visible entity settings plans' := by
  cases c with
  | clear => rfl
  | plan m => simp only [visible, h m rfl]
  | prepare m arguments => simp only [visible, h m rfl]
  | execute t map m arguments => simp only [visible, h m rfl]

namespace Engine

variable {methods : QueryMethod → Prop}

theorem visible_perform (e : Engine) (c : Call) :
    (e.perform c).2.visible = c.visible e.entity e.settings e.served := by
  cases c with
  | clear => rfl
  | plan m => exact Prod.ext rfl (e.statements_plan m)
  | prepare m arguments =>
    exact Prod.ext (congrArg Response.prepared (e.result_prepare m arguments))
      (e.statements_prepare m arguments)
  | execute t map m arguments =>
    exact Prod.ext (congrArg Response.executed (e.result_execute t map m arguments))
      (e.statements_execute t map m arguments)

theorem KeepsFor.served_eq {e : Engine} (h : e.KeepsFor methods)
    (hkeys : QueryMethod.KeysSeparate e.entity methods) {m : QueryMethod} (hm : methods m) :
    e.served m = m.plan e.entity := by
  cases hk : e.cache.get? m.key with
  | none => exact served_of_not_kept hk
  | some kept =>
    obtain ⟨m', hm', hkey, hplan⟩ := h m.key kept (PlanCache.mem_of_get? hk)
    obtain ⟨hname, hparameters, hshape⟩ := hkeys m' m hm' hm hkey ⟨_, hplan⟩
    rw [served_of_kept hk, ← hplan, QueryMethod.plan, QueryMethod.plan, hname, hparameters, hshape]

/-- An engine whose plans all serve their own methods replies as if it kept none. -/
theorem map_visible_replies {e : Engine} {P : Engine → Prop} (he : P e)
    (hserved : ∀ e, P e → ∀ m, methods m → e.served m = m.plan e.entity)
    (hperform : ∀ e, P e → ∀ c, (∀ m ∈ Call.method? c, methods m) → P (e.perform c).1)
    {calls : List Call} (hcalls : ∀ c ∈ calls, ∀ m ∈ c.method?, methods m) :
    (e.replies calls).map Reply.visible = calls.map (Call.afresh e.entity e.settings) := by
  induction calls generalizing e with
  | nil => rfl
  | cons c cs ih =>
    have hc := hcalls c List.mem_cons_self
    have hrest := ih (hperform e he c hc) fun c' hc' => hcalls c' (List.mem_cons_of_mem c hc')
    rw [entity_perform, settings_perform] at hrest
    rw [replies, List.map_cons, List.map_cons, visible_perform, hrest]
    exact congrArg (· :: _) (Call.visible_congr fun m hm => hserved e he m (hc m hm))

/-- A memo without room keeps nothing. -/
theorem entries_perform_of_capacity_eq_zero {e : Engine} (hcap : e.cache.capacity = 0)
    (hempty : e.cache.entries = []) (c : Call) :
    (e.perform c).1.cache.capacity = 0 ∧ (e.perform c).1.cache.entries = [] := by
  cases hm : c.method? with
  | none =>
    cases c with
    | clear => exact ⟨hcap, rfl⟩
    | _ => cases hm
  | some m =>
    have hk : e.cache.get? m.key = none := by simp [PlanCache.get?, hempty]
    rw [fst_perform e hm, fst_plan]
    cases m.plan e.entity with
    | error err =>
      rw [PlanCache.getOrCompile_error hk]
      exact ⟨hcap, hempty⟩
    | ok p =>
      obtain ⟨level, text, hc⟩ := PlanCache.getOrCompile_ok hk p
      rw [hc]
      refine ⟨(PlanCache.capacity_extend p).trans hcap, ?_⟩
      simp [PlanCache.extend, hcap, hempty]

/-- The second of two calls is served what the first has left under its key. -/
theorem served_after_plan {entity : Entity} {settings : Settings} {m m' : QueryMethod} {p : Plan}
    (hcap : settings.planCacheCapacity ≠ 0) (hp : m.plan entity = .ok p) (hkey : m.key = m'.key) :
    ((create entity settings).plan m).1.served m' = .ok p := by
  have hk : (create entity settings).cache.get? m.key = none := rfl
  obtain ⟨level, text, hc⟩ := PlanCache.getOrCompile_ok hk p
  have hroom : (create entity settings).cache.size < (create entity settings).cache.capacity :=
    Nat.pos_of_ne_zero hcap
  have hplan : m.plan (create entity settings).entity = .ok p := hp
  have hkept : ((create entity settings).plan m).1.cache.get? m'.key = some ⟨0, p⟩ := by
    rw [fst_plan, hplan, hc, ← hkey]
    exact PlanCache.get?_extend_self hroom hk
  exact served_of_kept hkept

end Engine

/-- An engine replies as if it compiled every method afresh exactly if it keeps no plans or the keys
of the methods tell their names and signatures apart. -/
theorem replies_afresh_iff (entity : Entity) (settings : Settings) (methods : QueryMethod → Prop) :
    (∀ calls : List Call, (∀ c ∈ calls, ∀ m ∈ c.method?, methods m) →
      ((Engine.create entity settings).replies calls).map Reply.visible =
        calls.map (Call.afresh entity settings)) ↔
      settings.planCacheCapacity = 0 ∨ QueryMethod.KeysSeparate entity methods := by
  constructor
  · intro h
    by_contra hno
    obtain ⟨hcap, hkeys⟩ := not_or.1 hno
    refine hkeys fun m m' hm hm' hkey ⟨p, hp⟩ => ?_
    have hcalls := h [.plan m, .plan m'] (by simp [Call.method?, hm, hm'])
    have hsecond :
        (Engine.perform ((Engine.create entity settings).plan m).1 (.plan m')).2.visible =
          (Call.plan m').afresh entity settings := by
      simp only [Engine.replies, List.map_cons, List.cons.injEq] at hcalls
      exact hcalls.2.1
    rw [Engine.visible_perform] at hsecond
    have hserved : ((Engine.create entity settings).plan m).1.served m' = m'.plan entity := by
      simpa [Call.visible, Call.afresh] using hsecond
    have hp' : m'.plan entity = .ok p :=
      hserved.symm.trans (Engine.served_after_plan hcap hp hkey)
    obtain ⟨hname, hparameters, hshape⟩ := QueryMethod.identity_of_plan hp
    obtain ⟨hname', hparameters', hshape'⟩ := QueryMethod.identity_of_plan hp'
    exact ⟨hname.symm.trans hname', hparameters.symm.trans hparameters', hshape.symm.trans hshape'⟩
  · rintro (hcap | hkeys) calls hcalls
    · refine Engine.map_visible_replies (P := fun e => e.cache.capacity = 0 ∧ e.cache.entries = [])
        ⟨hcap, rfl⟩ ?_ ?_ hcalls
      · rintro e ⟨-, hempty⟩ m -
        exact Engine.served_of_not_kept (by simp [PlanCache.get?, hempty])
      · rintro e ⟨hcap', hempty⟩ c -
        exact Engine.entries_perform_of_capacity_eq_zero hcap' hempty c
    · refine Engine.map_visible_replies (P := fun e => e.entity = entity ∧ e.KeepsFor methods)
        ⟨rfl, Engine.keepsFor_create entity settings⟩ ?_ ?_ hcalls
      · rintro e ⟨rfl, hkeeps⟩ m hm
        exact hkeeps.served_eq hkeys hm
      · rintro e ⟨hentity, hkeeps⟩ c hc
        exact ⟨(e.entity_perform c).trans hentity, hkeeps.perform hc⟩

namespace Example

def findByMoment : QueryMethod := ⟨"Trades", "findByAction", [.object "Date"], .many⟩

def findByDate : QueryMethod := ⟨"Trades", "findByAction", [.date], .many⟩

def noTrades : Transport := ⟨fun _ => .ok [], fun _ => .ok 0⟩

def overloads : List Call :=
  [.execute noTrades Trade.ofRow findByMoment [.null],
   .execute noTrades Trade.ofRow findByDate [.null]]

/-- The second overload is served the plan of the first and binds a null of the wrong type. -/
theorem replies_overloads_ne_afresh :
    ((Engine.create trades {}).replies overloads).map Reply.visible ≠
      overloads.map (Call.afresh trades {}) := by
  intro h
  have htypes := congrArg (List.map fun seen : Response × List (Access × Statement) =>
    seen.2.map fun access => access.2.bindings.map (·.value.type)) h
  revert htypes
  decide +kernel

end Example

end DerivedQuery
