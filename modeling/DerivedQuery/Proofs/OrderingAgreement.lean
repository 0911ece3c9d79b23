import DerivedQuery.Example.Trades
import DerivedQuery.Proofs.CompilationOutcome
import DerivedQuery.Proofs.Paging

/-!
The ordering of a name and the ordering of a call. The keys of either are looked up in the same
columns, the ones when the query is compiled and the others when its statement is rendered. So a
name that orders says what a call of the same name without its ordering can say, and where a call
orders its rows, the ordering of the name is of no account.
-/

namespace DerivedQuery

variable {orderBy : Option OrderBy} {page : Option PageRequest} {o : OrderBy}

/-- No ordering is asked for: there is none, or it has no keys. -/
def Unsorted (orderBy : Option OrderBy) : Prop := orderBy.filter (·.isSorted) = none

def PageRequest.sortedBy (request : PageRequest) (orderBy : OrderBy) : PageRequest :=
  { request with orderBy }

/-- The ordering of a call goes before that of its page. -/
theorem requestedOrder_of_sorted (h : o.isSorted = true) (page : Option PageRequest) :
    requestedOrder (some o) page = some o := by
  simp [requestedOrder, h]

theorem requestedOrder_of_unsorted (h : Unsorted orderBy) (page : Option PageRequest) :
    requestedOrder orderBy page = requestedOrder none page := by
  rw [requestedOrder, h]
  rfl

theorem requestedOrder_sortedBy (h : Unsorted orderBy) (ho : o.isSorted = true)
    (request : PageRequest) : requestedOrder orderBy (some (request.sortedBy o)) = some o := by
  rw [requestedOrder_of_unsorted h]
  simp [requestedOrder, PageRequest.sortedBy, ho]

theorem requestedOrder_eq_none (h : Unsorted orderBy) (hpage : Unsorted (page.map (·.orderBy))) :
    requestedOrder orderBy page = none := by
  rw [requestedOrder, h, hpage]
  rfl

namespace Plan

variable {entity : Entity} {query : QueryName} {parameters : List ParameterType}
  {shape : ResultShape} {p p₀ : Plan} {keys : List ColumnKey}

def sortedBy (p : Plan) (keys : List ColumnKey) : Plan := { p with orderBy := keys }

/-- The statement of a selection that is ordered by these keys. -/
def sortedText (p : Plan) (page : Option PageRequest) (keys : List ColumnKey) : String :=
  p.around ((p.unbounded keys).text ++ boundsText (p.bounds page))

/-- Where a call asks for an ordering, that of the plan does not count. -/
theorem render_of_requested (h : p.selects = true) (ho : requestedOrder orderBy page = some o) :
    p.render orderBy page =
      (o.keys.mapM (columnKey p.table p.columns)).map (p.sortedText page) := by
  rw [render_eq_text h, effectiveOrder, ho]
  rfl

theorem render_of_not_requested (h : p.selects = true) (ho : requestedOrder orderBy page = none) :
    p.render orderBy page = .ok (p.sortedText page p.orderBy) := by
  rw [render_eq_text h, effectiveOrder, ho]
  rfl

theorem render_congr_requested {orderBy' : Option OrderBy}
    (h : requestedOrder orderBy page = requestedOrder orderBy' page) :
    p.render orderBy page = p.render orderBy' page := by
  simp only [render, select, effectiveOrder, h]

/-- The keys of an ordering are all that it adds to a plan. -/
theorem compile_eq_map_sortedBy
    (h : compile entity { query with orderBy := {} } parameters shape = .ok p₀) :
    compile entity query parameters shape =
      (query.orderBy.keys.mapM (columnKey p₀.table p₀.columns)).map p₀.sortedBy := by
  unfold compile at h
  obtain ⟨_, hoperators, h⟩ := Fallible.bind_eq_ok_iff.1 h
  obtain ⟨_, hsignature, h⟩ := Fallible.bind_eq_ok_iff.1 h
  obtain ⟨groups, hgroups, h⟩ := Fallible.bind_eq_ok_iff.1 h
  obtain ⟨_, hnone, h⟩ := Fallible.bind_eq_ok_iff.1 h
  obtain ⟨_, hkey, h⟩ := Fallible.bind_eq_ok_iff.1 h
  cases h
  have hoperators' : checkOperators query = .ok () := hoperators
  have hsignature' : checkSignature query parameters shape = .ok () := hsignature
  have hgroups' : leafGroups entity 0 query.groups = .ok groups := hgroups
  rw [compile, Fallible.bind_of_ok hoperators', Fallible.bind_of_ok hsignature',
    Fallible.bind_of_ok hgroups']
  cases hkeys : query.orderBy.keys.mapM (columnKey entity.table entity.columns) with
  | error e => rfl
  | ok keys =>
    -- the key of the table is there with any ordering
    exact Fallible.bind_of_ok (a := ()) hkey _

/-- Two plans order their statements alike where one has an ordering of its own and the other gets
it from the call; where a call asks for another one, both follow the call. -/
structure OrdersLike (p p₀ : Plan) (o : OrderBy) : Prop where
  own : ∀ (orderBy : Option OrderBy) (page : Option PageRequest), Unsorted orderBy →
    Unsorted (page.map (·.orderBy)) → p.render orderBy page = p₀.render (some o) page
  own_of_page : ∀ (orderBy : Option OrderBy) (request : PageRequest), Unsorted orderBy →
    Unsorted (some request.orderBy) →
    p.render orderBy (some request) = p₀.render orderBy (some (request.sortedBy o))
  requested : ∀ (o' : OrderBy) (page : Option PageRequest), o'.isSorted = true →
    p.render (some o') page = p₀.render (some o') page
  requested_of_page : ∀ (orderBy : Option OrderBy) (o' : OrderBy) (request : PageRequest),
    o'.isSorted = true →
    p.render orderBy (some (request.sortedBy o')) = p₀.render orderBy (some (request.sortedBy o'))

/-- An ordering without keys asks for nothing: the plan is rendered with the ordering it has. -/
structure IgnoresUnsorted (p : Plan) : Prop where
  call : ∀ (orderBy : Option OrderBy) (page : Option PageRequest), Unsorted orderBy →
    p.render orderBy page = p.render none page
  page : ∀ page : Option PageRequest, Unsorted (page.map (·.orderBy)) →
    p.render none page = .ok (p.sortedText page p.orderBy)

theorem ignoresUnsorted (h : p.selects = true) : p.IgnoresUnsorted where
  call _ page horder := render_congr_requested (requestedOrder_of_unsorted horder page)
  page _ hpage := render_of_not_requested h (requestedOrder_eq_none rfl hpage)

/-- A requested ordering is rendered the same, whatever ordering the plan has. -/
theorem render_sortedBy (h : p.selects = true) (ho : requestedOrder orderBy page = some o) :
    (p.sortedBy keys).render orderBy page = p.render orderBy page := by
  have hselects : (p.sortedBy keys).selects = true := h
  rw [render_of_requested hselects ho, render_of_requested h ho]
  rfl

theorem ordersLike_sortedBy (h : p.selects = true) (ho : o.isSorted = true)
    (hkeys : o.keys.mapM (columnKey p.table p.columns) = .ok keys) :
    (p.sortedBy keys).OrdersLike p o := by
  have hselects : (p.sortedBy keys).selects = true := h
  constructor
  case own =>
    intro orderBy page horder hpage
    rw [render_of_not_requested hselects (requestedOrder_eq_none horder hpage),
      render_of_requested h (requestedOrder_of_sorted ho page), hkeys]
    rfl
  case own_of_page =>
    intro orderBy request horder hpage
    have hnone : requestedOrder orderBy (some request) = none :=
      requestedOrder_eq_none horder hpage
    rw [render_of_not_requested hselects hnone,
      render_of_requested h (requestedOrder_sortedBy horder ho request), hkeys]
    rfl
  case requested =>
    intro o' page ho'
    exact render_sortedBy h (requestedOrder_of_sorted ho' page)
  case requested_of_page =>
    intro orderBy o' request ho'
    cases hfirst : orderBy.filter (·.isSorted) with
    | none => exact render_sortedBy h (requestedOrder_sortedBy hfirst ho' request)
    | some first =>
      -- the ordering of the call goes before that of the page
      refine render_sortedBy h (o := first) ?_
      rw [requestedOrder, hfirst, Option.some_or]

/-- A query with an ordering has a plan exactly if the plan without it can be rendered with it, and
else both fail on the first key that is no field of the entity. The plan of the query then orders as
a call of the other plan that asks for the ordering. Where a call asks for another ordering, the two
plans are rendered alike. -/
theorem own_ordering_agrees_with_requested (entity : Entity) (query : QueryName)
    (parameters : List ParameterType) (shape : ResultShape) (p₀ : Plan)
    (hsorted : query.orderBy.isSorted = true)
    (h : compile entity { query with orderBy := {} } parameters shape = .ok p₀)
    (hselects : p₀.selects = true) :
    (∀ page, (∃ p, compile entity query parameters shape = .ok p) ↔
      ∃ sql, p₀.render (some query.orderBy) page = .ok sql) ∧
    (∀ page e, (compile entity query parameters shape = .error e ↔
        p₀.render (some query.orderBy) page = .error e) ∧
      (compile entity query parameters shape = .error e ↔
        ∃ k, IsFirst (entity.Lacks ·.property) query.orderBy.keys k ∧
          e = .metadata (.unknownProperty entity.table k.property))) ∧
    p₀.IgnoresUnsorted ∧
    ∀ p, compile entity query parameters shape = .ok p →
      p.OrdersLike p₀ query.orderBy ∧ p.IgnoresUnsorted := by
  have hcompile := compile_eq_map_sortedBy h
  have hrender : ∀ page, p₀.render (some query.orderBy) page =
      (query.orderBy.keys.mapM (columnKey p₀.table p₀.columns)).map (p₀.sortedText page) :=
    fun page => render_of_requested hselects (requestedOrder_of_sorted hsorted page)
  have hfrom := compiledFrom_of_compile h
  have herror : ∀ e, query.orderBy.keys.mapM (columnKey p₀.table p₀.columns) = .error e ↔
      ∃ k, IsFirst (entity.Lacks ·.property) query.orderBy.keys k ∧
        e = .metadata (.unknownProperty entity.table k.property) := by
    intro e
    rw [hfrom.table, hfrom.columns]
    exact mapM_columnKey_eq_error_iff
  refine ⟨fun page => ?_, fun page e => ?_, ignoresUnsorted hselects, fun p hp => ?_⟩
  · rw [hcompile, hrender, Fallible.exists_map_eq_ok_iff, Fallible.exists_map_eq_ok_iff]
  · rw [hcompile, hrender, Fallible.map_eq_error_iff, Fallible.map_eq_error_iff]
    exact ⟨Iff.rfl, herror e⟩
  · rw [hcompile] at hp
    obtain ⟨keys, hkeys, rfl⟩ := Fallible.map_eq_ok_iff.1 hp
    exact ⟨ordersLike_sortedBy hselects hsorted hkeys, ignoresUnsorted hselects⟩

end Plan

namespace Example

open Plan

/-- The ordering of a name that ends with `OrderByPriceDesc`. -/
def dearestFirst : OrderBy := ⟨[⟨"price", .desc, false⟩]⟩

def dearestText : String :=
  "SELECT shares, trader_id, ticker, price, action, id, value FROM trades " ++
    "WHERE ( action=@tag0 ) ORDER BY price DESC"

theorem own_ordering_agrees_dearestFirst :
    ∃ query p₀ p, QueryName.parse "findByActionOrderByPriceDesc" = .ok query ∧
      query.orderBy = dearestFirst ∧ query.orderBy.isSorted = true ∧
      compile trades { query with orderBy := {} } [.string] .many = .ok p₀ ∧ p₀.selects = true ∧
      compile trades query [.string] .many = .ok p ∧ p.OrdersLike p₀ dearestFirst ∧
      p.render none none = .ok dearestText ∧
      p₀.render (some dearestFirst) none = .ok dearestText := by
  have hparts : (QueryName.parse "findByActionOrderByPriceDesc").toOption.map (fun query =>
      (query.orderBy,
        (compile trades { query with orderBy := {} } [.string] .many).toOption.map (·.selects),
        (compile trades query [.string] .many).toOption.map (·.render none none |>.toOption))) =
      some (dearestFirst, some true, some (some dearestText)) := by
    decide +kernel
  obtain ⟨query, hquery, hparts⟩ := Option.map_eq_some_iff.1 hparts
  obtain ⟨horder, hparts⟩ := Prod.mk.inj hparts
  obtain ⟨hunsorted, hsorted⟩ := Prod.mk.inj hparts
  obtain ⟨p₀, hp₀, hselects⟩ := Option.map_eq_some_iff.1 hunsorted
  obtain ⟨p, hp, htext⟩ := Option.map_eq_some_iff.1 hsorted
  have hcompile₀ := Fallible.eq_ok_of_toOption hp₀
  have hcompile := Fallible.eq_ok_of_toOption hp
  have hrender := Fallible.eq_ok_of_toOption htext
  have hkeys : query.orderBy.isSorted = true := by rw [horder]; rfl
  obtain ⟨-, -, -, hplans⟩ :=
    own_ordering_agrees_with_requested trades query [.string] .many p₀ hkeys hcompile₀ hselects
  have hlike : p.OrdersLike p₀ dearestFirst := horder ▸ (hplans p hcompile).1
  exact ⟨query, p₀, p, Fallible.eq_ok_of_toOption hquery, horder, hkeys, hcompile₀, hselects,
    hcompile, hlike, hrender, (hlike.own none none rfl rfl).symm.trans hrender⟩

end Example

end DerivedQuery
