import DerivedQuery.Example.Trades
import DerivedQuery.Proofs.Binding
import DerivedQuery.Proofs.Compile
import DerivedQuery.Proofs.Run

/-!
Plan errors of calls. A method without a plan shows one on every call. A method with a plan shows
one too when a call orders its rows by a property that the entity does not have: the property is
looked up when the statement is rendered, and the lookup fails as it does for a plan.
-/

namespace DerivedQuery

open Fallible

variable {α : Type}

/-- The errors that are reported from outside: by a store, by a converter or by a row mapper. -/
def QueryError.isReported : QueryError → Bool
  | .execution .. | .rowMapping .. | .configuration .. | .other .. => true
  | _ => false

theorem QueryError.isPlanError_of_isReported {e : QueryError} (h : e.isReported = true) :
    e.isPlanError = false := by
  cases e with
  | execution | rowMapping | configuration | other => rfl
  | _ => cases h

theorem QueryError.isPlanError_of_isBindingError {e : QueryError} (h : e.isBindingError = true) :
    e.isPlanError = false := by
  cases e with
  | argumentCountMismatch | signatureMismatch | invalidArgument | unsupportedParameter => rfl
  | _ => cases h

namespace Plan

variable {p : Plan} {orderBy : Option OrderBy} {page : Option PageRequest}

/-- Whether the statement of the plan selects rows; only such a statement has an ordering. -/
def selects (p : Plan) : Bool := p.operation != .delete || p.deletesByKey

/-- The call asks for an ordering by a property that is no field of the entity. -/
structure OrdersByUnknown (p : Plan) (orderBy : Option OrderBy) (page : Option PageRequest) :
    Prop where
  selects : p.selects = true
  unknown : ∃ requested, requestedOrder orderBy page = some requested ∧
    ∃ k ∈ requested.keys, ∀ c ∈ p.columns, c.field ≠ k.property

theorem exists_columnKey_error_iff {table : String} {columns : List Column} {k : SortKey} :
    (∃ e, columnKey table columns k = .error e) ↔ ∀ c ∈ columns, c.field ≠ k.property := by
  simp [columnKey_eq_error_iff]

theorem exists_effectiveOrder_error_iff :
    (∃ e, p.effectiveOrder orderBy page = .error e) ↔
      ∃ requested, requestedOrder orderBy page = some requested ∧
        ∃ k ∈ requested.keys, ∀ c ∈ p.columns, c.field ≠ k.property := by
  unfold effectiveOrder
  cases requestedOrder orderBy page with
  | none => simp
  | some requested =>
    simp only [exists_mapM_eq_error_iff, exists_columnKey_error_iff, Option.some.injEq,
      exists_eq_left']

/-- Of what a selection is made of, its ordering alone can fail. -/
theorem render_of_selects (h : p.selects = true) (orderBy : Option OrderBy)
    (page : Option PageRequest) :
    ∃ text, p.render orderBy page = (p.effectiveOrder orderBy page).map text := by
  unfold render select
  cases hop : p.operation with
  | find | count | exist => exact ⟨_, by cases p.effectiveOrder orderBy page <;> rfl⟩
  | delete =>
    have hkey : p.deletesByKey = true := by simpa [selects, hop] using h
    rw [hkey]
    exact ⟨_, by cases p.effectiveOrder orderBy page <;> rfl⟩

theorem render_of_not_selects (h : p.selects = false) (orderBy : Option OrderBy)
    (page : Option PageRequest) : p.render orderBy page = .ok p.bulkDelete := by
  simp only [selects, Bool.or_eq_false_iff, bne_eq_false_iff_eq] at h
  simp [render, h]

/-- A statement cannot be rendered exactly if it is to be ordered by an unknown property. -/
theorem exists_render_error_iff :
    (∃ e, p.render orderBy page = .error e) ↔ p.OrdersByUnknown orderBy page := by
  cases hselects : p.selects with
  | false =>
    rw [render_of_not_selects hselects]
    constructor
    · rintro ⟨e, he⟩
      cases he
    · intro h
      exact absurd h.selects (by simp [hselects])
  | true =>
    obtain ⟨text, hrender⟩ := render_of_selects hselects orderBy page
    have hmap : (∃ e, p.render orderBy page = .error e) ↔
        ∃ e, p.effectiveOrder orderBy page = .error e := by
      rw [hrender]
      cases p.effectiveOrder orderBy page <;> simp [Except.map]
    rw [hmap, exists_effectiveOrder_error_iff]
    exact ⟨fun h => ⟨hselects, h⟩, fun h => h.unknown⟩

theorem fails_effectiveOrder (p : Plan) (orderBy : Option OrderBy) (page : Option PageRequest) :
    Fails (·.isPlanError = true) (p.effectiveOrder orderBy page) := by
  unfold effectiveOrder
  split
  · exact .mapM fun k _ => fails_columnKey p.table p.columns k
  · exact .ok _

theorem fails_render (p : Plan) (orderBy : Option OrderBy) (page : Option PageRequest) :
    Fails (·.isPlanError = true) (p.render orderBy page) := by
  cases hselects : p.selects with
  | false =>
    rw [render_of_not_selects hselects]
    exact .ok _
  | true =>
    obtain ⟨text, hrender⟩ := render_of_selects hselects orderBy page
    rw [hrender]
    exact .map text (fails_effectiveOrder p orderBy page)

end Plan

namespace Engine

theorem fails_served (e : Engine) (m : QueryMethod) :
    Fails (·.isPlanError = true) (e.served m) := by
  cases hk : e.cache.get? m.key with
  | none =>
    rw [served_of_not_kept hk]
    exact m.fails_plan e.entity
  | some kept =>
    rw [served_of_kept hk]
    exact .ok _

theorem exists_plan_error_iff {e : Engine} {m : QueryMethod} :
    (∃ err, (e.plan m).2.result = .error err) ↔ ∃ err, e.served m = .error err := by
  rw [served]
  cases (e.plan m).2.result <;> simp [Except.map]

end Engine

/-- With a plan and its arguments bound, only an ordering by an unknown property is a plan error. -/
theorem isPlanError_dispatch_iff {settings : Settings} {t : Transport} {map : RowMapper α}
    (hquery : ∀ s, Fails (·.isReported = true) (t.query s))
    (hupdate : ∀ s, Fails (·.isReported = true) (t.update s))
    (hmap : ∀ row, Fails (·.isReported = true) (map row)) {p : Plan} {bound : BoundArguments}
    {err : QueryError} (hfail : (Execution.dispatch settings t map p bound).result = .error err) :
    err.isPlanError = true ↔ p.OrdersByUnknown bound.orderBy bound.page := by
  rw [← Plan.exists_render_error_iff]
  cases hrender : p.render bound.orderBy bound.page with
  | error e =>
    rw [Execution.dispatch_of_render_error hrender] at hfail
    obtain rfl : e = err := Except.error.inj hfail
    have hplan : e.isPlanError = true := Plan.fails_render _ _ _ e hrender
    simp [hplan]
  | ok sql =>
    rw [Execution.result_dispatch_of_render hrender] at hfail
    have hreported : ∀ e : QueryError, e.isReported = true → e.isPlanError = false :=
      fun _ => QueryError.isPlanError_of_isReported
    have hcall : err.isPlanError = false :=
      Execution.fails_afterAnnouncement (P := fun e => e.isPlanError = false) (fun _ => rfl)
        (fun _ => rfl) (fun row => (hmap row).mono hreported) (fun s => (hquery s).mono hreported)
        (fun s => (hupdate s).mono hreported) p _ err hfail
    simp [hcall]

/-- A failed call shows a plan error exactly if its method has no plan, or has one but the call
orders the rows by a property that the entity does not have. -/
theorem failed_call_isPlanError_iff (e : Engine) (t : Transport) (map : RowMapper α)
    (m : QueryMethod) (arguments : List Argument)
    (hconverters : ∀ type convert, e.entity.converter? type = some convert →
      ∀ a, Fails (·.isReported = true) (convert a))
    (hquery : ∀ s, Fails (·.isReported = true) (t.query s))
    (hupdate : ∀ s, Fails (·.isReported = true) (t.update s))
    (hmap : ∀ row, Fails (·.isReported = true) (map row)) (err : QueryError)
    (hfail : (e.execute t map m arguments).2.result = .error err) :
    err.isPlanError = true ↔
      (∃ err', (e.plan m).2.result = .error err') ∨
      ∃ p bound, e.served m = .ok p ∧ bind e.entity.converter? p arguments = .ok bound ∧
        p.OrdersByUnknown bound.orderBy bound.page := by
  rw [e.result_execute] at hfail
  rw [Engine.exists_plan_error_iff]
  cases hserved : e.served m with
  | error err' =>
    rw [hserved] at hfail
    obtain rfl : err' = err := Except.error.inj hfail
    have hplan : err'.isPlanError = true := e.fails_served m err' hserved
    simp [hplan]
  | ok p =>
    rw [hserved, Entity.executePlanned_ok] at hfail
    cases hbind : bind e.entity.converter? p arguments with
    | error err' =>
      rw [hbind] at hfail
      obtain rfl : err' = err := Except.error.inj hfail
      have hcall : err'.isPlanError = false := by
        refine fails_bind (P := fun e => e.isPlanError = false)
          (fun _ => QueryError.isPlanError_of_isBindingError) ?_ p arguments err' hbind
        intro type convert hconvert a
        exact (hconverters type convert hconvert a).mono
          fun _ => QueryError.isPlanError_of_isReported
      simp [hcall, hbind]
    | ok bound =>
      rw [hbind] at hfail
      have hiff := isPlanError_dispatch_iff hquery hupdate hmap hfail
      simp [hiff, hbind]

namespace Example

/-- The entity of trades without its converters. -/
def plainTrades : Entity := { trades with converters := {} }

def emptyStore : Transport := ⟨fun _ => .ok [], fun _ => .ok 0⟩

def findSorted : QueryMethod := ⟨"Trades", "findByAction", [.string, .ordering], .many⟩

/-- No trade has a volume. -/
def byVolume : List Argument :=
  [.scalar (.string (some "BUY")), .ordering (.ascending ["volume"])]

def unsortable : Outcome (QueryResult Row) :=
  ((Engine.create plainTrades {}).execute emptyStore .ok findSorted byVolume).2

/-- The fault of the entity that a call ends with. -/
def metadataFault? : Except QueryError (QueryResult Row) → Option MetadataFault
  | .error (.metadata fault) => some fault
  | _ => none

theorem result_unsortable :
    unsortable.result = .error (.metadata (.unknownProperty "trades" "volume")) := by
  have hfault : metadataFault? unsortable.result =
      some (MetadataFault.unknownProperty "trades" "volume") := by
    decide +kernel
  unfold metadataFault? at hfault
  split at hfault
  · next fault hresult => rw [hresult, Option.some.inj hfault]
  · cases hfault

theorem exists_plan_findSorted :
    ∃ p, ((Engine.create plainTrades {}).plan findSorted).2.result = .ok p :=
  Fallible.exists_eq_ok_of_isOk (by decide +kernel)

/-- The method has a plan and nothing outside fails, yet the call shows a plan error. -/
theorem unknown_order_isPlanError :
    (∃ p, ((Engine.create plainTrades {}).plan findSorted).2.result = .ok p) ∧
      (∀ type, plainTrades.converter? type = none) ∧
      (∀ s, ∃ rows, emptyStore.query s = .ok rows) ∧ (∀ s, ∃ n, emptyStore.update s = .ok n) ∧
      ∃ err, unsortable.result = .error err ∧ err.isPlanError = true :=
  ⟨exists_plan_findSorted, fun _ => rfl, fun _ => ⟨[], rfl⟩, fun _ => ⟨0, rfl⟩, _,
    result_unsortable, rfl⟩

theorem failed_call_isPlanError_byVolume :
    ∃ err, unsortable.result = .error err ∧
      ((∃ err', ((Engine.create plainTrades {}).plan findSorted).2.result = .error err') ∨
      ∃ p bound, (Engine.create plainTrades {}).served findSorted = .ok p ∧
        bind plainTrades.converter? p byVolume = .ok bound ∧
        p.OrdersByUnknown bound.orderBy bound.page) := by
  refine ⟨_, result_unsortable, ?_⟩
  refine (failed_call_isPlanError_iff (Engine.create plainTrades {}) emptyStore .ok findSorted
    byVolume ?_ (fun _ => .ok _) (fun _ => .ok _) (fun _ => .ok _) _ result_unsortable).1 rfl
  intro type convert hconvert
  cases hconvert

end Example

end DerivedQuery
