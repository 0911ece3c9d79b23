import DerivedQuery.Proofs.CallTrace
import DerivedQuery.Proofs.KeyDeletion
import DerivedQuery.Proofs.PlanErrors
import DerivedQuery.Proofs.PlanReferences

/-!
What the arguments of a call can change in the text of its statements. Arguments at markers settle
the ordering and the window of a selection; all others are bound to tags and leave the text as it
is. An ordering reaches the text through the columns of the entity only, so that a property without
a column fails the statement.
-/

namespace DerivedQuery

/-- The arguments are the same wherever a parameter is a marker. -/
def AgreeAtMarkers (parameters : List ParameterType) (arguments arguments' : List Argument) :
    Prop :=
  ∀ (i : Nat) (type : ParameterType), parameters[i]? = some type → type.isMarker = true →
    arguments[i]? = arguments'[i]?

theorem AgreeAtMarkers.of_no_marker {parameters : List ParameterType}
    (h : ∀ type ∈ parameters, type.isMarker = false) (arguments arguments' : List Argument) :
    AgreeAtMarkers parameters arguments arguments' := by
  intro i type htype hmarker
  simp [h type (List.mem_of_getElem? htype)] at hmarker

/-- What is found at the markers alone is found alike. -/
theorem AgreeAtMarkers.findSome?_zip_eq {β : Type} {f : Argument × ParameterType → Option β}
    (hf : ∀ a type, type.isMarker = false → f (a, type) = none) {parameters : List ParameterType}
    {arguments arguments' : List Argument} (h : AgreeAtMarkers parameters arguments arguments')
    (hlength : arguments.length = parameters.length)
    (hlength' : arguments'.length = parameters.length) :
    (arguments.zip parameters).findSome? f = (arguments'.zip parameters).findSome? f := by
  induction parameters generalizing arguments arguments' with
  | nil => simp
  | cons type types ih =>
    obtain ⟨a, as, rfl⟩ := List.exists_cons_of_length_eq_add_one hlength
    obtain ⟨a', as', rfl⟩ := List.exists_cons_of_length_eq_add_one hlength'
    have hhead : f (a, type) = f (a', type) := by
      cases hmarker : type.isMarker with
      | true =>
        have heq : a = a' := by simpa using h 0 type rfl hmarker
        rw [heq]
      | false => rw [hf a type hmarker, hf a' type hmarker]
    have htail : AgreeAtMarkers types as as' := fun i t ht hmarker => h (i + 1) t ht hmarker
    simp only [List.zip_cons_cons, List.findSome?_cons, hhead,
      ih htail (by simpa using hlength) (by simpa using hlength')]

namespace Plan

variable {p : Plan}

theorem requests_eq_of_agree {lookup : String → Option Converter}
    {arguments arguments' : List Argument} {bound bound' : BoundArguments}
    (h : AgreeAtMarkers p.parameters arguments arguments')
    (hb : bind lookup p arguments = .ok bound) (hb' : bind lookup p arguments' = .ok bound') :
    bound.orderBy = bound'.orderBy ∧ bound.page = bound'.page := by
  obtain ⟨hlength, -, -, -, horder, hpage⟩ := bind_eq_ok_iff.1 hb
  obtain ⟨hlength', -, -, -, horder', hpage'⟩ := bind_eq_ok_iff.1 hb'
  rw [horder, horder', hpage, hpage']
  constructor
  · refine h.findSome?_zip_eq (fun a type hmarker => ?_) hlength hlength'
    cases a <;> cases type <;> first | rfl | cases hmarker
  · refine h.findSome?_zip_eq (fun a type hmarker => ?_) hlength hlength'
    cases a <;> cases type <;> first | rfl | cases hmarker

end Plan

namespace Entity

variable {entity : Entity} {p : Plan}

theorem sql_preparePlanned_eq {arguments arguments' : List Argument}
    (h : AgreeAtMarkers p.parameters arguments arguments') {s s' : Statement}
    (hs : entity.preparePlanned (.ok p) arguments = .ok s)
    (hs' : entity.preparePlanned (.ok p) arguments' = .ok s') : s.sql = s'.sql := by
  obtain ⟨_, bound, ⟨⟩, hb, hr, -⟩ := preparePlanned_eq_ok_iff.1 hs
  obtain ⟨_, bound', ⟨⟩, hb', hr', -⟩ := preparePlanned_eq_ok_iff.1 hs'
  obtain ⟨horder, hpage⟩ := Plan.requests_eq_of_agree h hb hb'
  rw [horder, hpage] at hr
  exact Except.ok.inj (hr.symm.trans hr')

/-- The deletion of a call is its prepared statement, or is by the keys of the rows it fetched. -/
theorem sql_of_update {α : Type} {settings : Settings} {t : Transport} {map : RowMapper α}
    {arguments : List Argument} {s d : Statement}
    (hs : entity.preparePlanned (.ok p) arguments = .ok s)
    (hd : (.update, d) ∈ (entity.executePlanned settings t map (.ok p) arguments).statements) :
    p.deletesByKey = false ∧ d.sql = s.sql ∨
      p.deletesByKey = true ∧ ∃ rows, t.query s = .ok rows ∧ d.sql = p.keyDelete rows.length := by
  rcases entity.executePlanned_cases settings t map (.ok p) arguments with
    ⟨e, hexec, -⟩ | ⟨_, bound, own, ⟨⟩, -, -, -, hprepared, hstatements, -⟩
  · rw [hexec] at hd
    cases hd
  obtain rfl : own = s := Except.ok.inj (hprepared.symm.trans hs)
  rw [hstatements] at hd
  rcases Plan.mem_accesses_update.1 hd with ⟨-, hkey, rfl⟩ | ⟨hkey, rows, hrows, -, hdel⟩
  · exact Or.inl ⟨hkey, rfl⟩
  · obtain ⟨keys, -, rfl⟩ := Execution.keyDeletion_eq_ok_iff.1 hdel
    exact Or.inr ⟨hkey, rows, hrows, rfl⟩

end Entity

/-- A sort key as a statement writes it, on one of the columns. -/
inductive Sql.SortsBy (columns : List String) : String → Prop
  | plain {column : String} (h : column ∈ columns) (d : Direction) :
      SortsBy columns (column ++ " " ++ d.text)
  | folded {column : String} (h : column ∈ columns) (d : Direction) :
      SortsBy columns (Sql.lower column ++ " " ++ d.text)

/-- The sort that a call asks for: its own if that has keys, else the one of its page. -/
def runtimeKeys (orderBy : Option OrderBy) (page : Option PageRequest) : List SortKey :=
  match orderBy with
  | some ⟨key :: keys⟩ => key :: keys
  | _ =>
    match page with
    | some request => request.orderBy.keys
    | none => []

namespace Plan

/-- What a selection is made of. Besides the limit and the offset, which are numbers, only the keys
of its ordering are not settled by the plan, and each of them sorts by a column. -/
structure Selection (p : Plan) (entity : Entity) (s : Sql.Select) : Prop where
  distinct : s.distinct = p.distinct
  columns : s.columns = entity.columns.map (·.name)
  table : s.table = entity.table
  condition : s.condition = p.condition
  orderBy : ∀ key ∈ s.orderBy, Sql.SortsBy (entity.columns.map (·.name)) key

/-- Whatever a call asks for, its selection sorts by columns of the entity; where the call names a
property without a column, there is no selection. -/
structure SortsByColumns (p : Plan) (entity : Entity) : Prop where
  selection : ∀ orderBy page sql, p.render orderBy page = .ok sql →
    ∃ s, p.Selection entity s ∧
      (sql = s.text ∨ sql = Sql.anyRow s.text ∨ sql = Sql.count s.text)
  unknown : ∀ orderBy page,
    (∃ key ∈ runtimeKeys orderBy page, ∀ c ∈ entity.columns, c.field ≠ key.property) →
    ∃ key ∈ runtimeKeys orderBy page, (∀ c ∈ entity.columns, c.field ≠ key.property) ∧
      p.render orderBy page = .error (.metadata (.unknownProperty entity.table key.property))

variable {p : Plan} {orderBy : Option OrderBy} {page : Option PageRequest}

theorem effectiveOrder_eq (p : Plan) (orderBy : Option OrderBy) (page : Option PageRequest) :
    p.effectiveOrder orderBy page =
      if runtimeKeys orderBy page = [] then .ok p.orderBy
      else (runtimeKeys orderBy page).mapM (columnKey p.table p.columns) := by
  have hpage : p.effectiveOrder none page =
      if runtimeKeys none page = [] then .ok p.orderBy
      else (runtimeKeys none page).mapM (columnKey p.table p.columns) := by
    obtain _ | ⟨_, _, _ | ⟨key, keys⟩⟩ := page <;> rfl
  obtain _ | ⟨_ | ⟨key, keys⟩⟩ := orderBy
  · exact hpage
  · exact hpage
  · rfl

theorem sortsBy_of_columnKey {columns : List Column} {k : ColumnKey}
    (h : ∃ c ∈ columns, c.name = k.column) : Sql.SortsBy (columns.map (·.name)) k.text := by
  obtain ⟨c, hc, hname⟩ := h
  have hcolumn : k.column ∈ columns.map (·.name) := List.mem_map.2 ⟨c, hc, hname⟩
  unfold ColumnKey.text
  split
  · exact .folded hcolumn k.direction
  · exact .plain hcolumn k.direction

theorem exists_select_of_render (h : p.selects = true) {sql : String}
    (hr : p.render orderBy page = .ok sql) :
    ∃ any s, p.select orderBy page any = .ok s ∧
      (sql = s.text ∨ sql = Sql.anyRow s.text ∨ sql = Sql.count s.text) := by
  unfold render at hr
  split at hr
  · obtain ⟨s, hs, hr⟩ := Fallible.bind_eq_ok_iff.1 hr
    exact ⟨_, s, hs, Or.inl (Except.ok.inj hr).symm⟩
  · obtain ⟨s, hs, hr⟩ := Fallible.bind_eq_ok_iff.1 hr
    exact ⟨_, s, hs, Or.inr (Or.inl (Except.ok.inj hr).symm)⟩
  · obtain ⟨s, hs, hr⟩ := Fallible.bind_eq_ok_iff.1 hr
    exact ⟨_, s, hs, Or.inr (Or.inr (Except.ok.inj hr).symm)⟩
  · next hop =>
    have hkey : p.deletesByKey = true := by simpa [selects, hop] using h
    rw [if_pos hkey] at hr
    obtain ⟨s, hs, hr⟩ := Fallible.bind_eq_ok_iff.1 hr
    exact ⟨_, s, hs, Or.inl (Except.ok.inj hr).symm⟩

namespace CompiledFrom

variable {entity : Entity} {query : QueryName} {parameters : List ParameterType}
  {shape : ResultShape}

theorem exists_column_of_effectiveOrder (h : CompiledFrom entity query parameters shape p)
    {keys : List ColumnKey} (hkeys : p.effectiveOrder orderBy page = .ok keys) :
    ∀ k ∈ keys, ∃ c ∈ entity.columns, c.name = k.column := by
  have hmap : ∃ sort : List SortKey,
      sort.mapM (columnKey entity.table entity.columns) = .ok keys := by
    rw [effectiveOrder_eq, h.table, h.columns] at hkeys
    split at hkeys
    · exact ⟨_, (Except.ok.inj hkeys) ▸ h.orderBy⟩
    · exact ⟨_, hkeys⟩
  obtain ⟨sort, hsort⟩ := hmap
  intro k hk
  obtain ⟨key, -, hkey⟩ := Fallible.exists_mem_of_forall₂ (Fallible.mapM_eq_ok_iff.1 hsort) hk
  exact exists_column_of_columnKey hkey

theorem selection (h : CompiledFrom entity query parameters shape p) {any : Bool} {s : Sql.Select}
    (hs : p.select orderBy page any = .ok s) : p.Selection entity s := by
  obtain ⟨keys, hkeys, hs⟩ := Fallible.bind_eq_ok_iff.1 hs
  cases hs
  refine ⟨rfl, by rw [h.columns], h.table, rfl, ?_⟩
  intro key hkey
  obtain ⟨k, hk, rfl⟩ := List.mem_map.1 hkey
  exact sortsBy_of_columnKey (h.exists_column_of_effectiveOrder hkeys k hk)

theorem sortsByColumns (h : CompiledFrom entity query parameters shape p)
    (hselects : p.selects = true) : p.SortsByColumns entity := by
  constructor
  · intro orderBy page sql hr
    obtain ⟨any, s, hs, hsql⟩ := exists_select_of_render hselects hr
    exact ⟨s, h.selection hs, hsql⟩
  · rintro orderBy page ⟨key, hkey, hunknown⟩
    have hne : runtimeKeys orderBy page ≠ [] := List.ne_nil_of_mem hkey
    have horder := effectiveOrder_eq p orderBy page
    rw [if_neg hne, h.table, h.columns] at horder
    have hfails : ∃ e, (runtimeKeys orderBy page).mapM (columnKey entity.table entity.columns) =
        .error e :=
      Fallible.exists_mapM_eq_error_iff.2 ⟨key, hkey, exists_columnKey_error_iff.2 hunknown⟩
    obtain ⟨e, he⟩ := hfails
    -- the first of the unknown properties is the one that the error names
    obtain ⟨before, first, after, hkeys, -, hfirst⟩ := Fallible.mapM_eq_error_iff.1 he
    obtain ⟨hcolumns, rfl⟩ := columnKey_eq_error_iff.1 hfirst
    obtain ⟨text, hrender⟩ := render_of_selects hselects orderBy page
    refine ⟨first, by rw [hkeys]; simp, hcolumns, ?_⟩
    rw [hrender, horder, he]
    rfl

end CompiledFrom

end Plan

/-- Whatever was called before, the text of what a method prepares and deletes depends on arguments
at markers only, and on the number of rows that a deletion by key has fetched; an ordering is by
columns of the entity. The markers are those of the method itself, or of another one of the same
key whose plan was kept. -/
theorem text_independent_of_bound_arguments (entity : Entity) (settings : Settings)
    (calls : List Call) (m : QueryMethod) :
    let e := (Engine.create entity settings).after calls
    ∃ m', m.ServedAs calls m' ∧
      (∀ arguments arguments' s s', AgreeAtMarkers m'.parameters arguments arguments' →
        (e.prepare m arguments).2.result = .ok s → (e.prepare m arguments').2.result = .ok s' →
        s.sql = s'.sql ∧
        ∀ {α α' : Type} (t t' : Transport) (map : RowMapper α) (map' : RowMapper α') d d',
          (∀ rows rows', t.query s = .ok rows → t'.query s' = .ok rows' →
            rows.length = rows'.length) →
          (.update, d) ∈ (e.execute t map m arguments).2.statements →
          (.update, d') ∈ (e.execute t' map' m arguments').2.statements → d.sql = d'.sql) ∧
      ∀ p, e.served m = .ok p → p.selects = true → p.SortsByColumns entity := by
  intro e
  cases hserved : e.served m with
  | error err =>
    refine ⟨m, ⟨rfl, Or.inl rfl⟩, ?_, fun p hp => by cases hp⟩
    intro arguments arguments' s s' _ hs
    rw [e.result_prepare, hserved] at hs
    cases hs
  | ok p =>
    obtain ⟨m', hm', hplan⟩ := Engine.exists_servedAs hserved
    obtain ⟨query, -, hcompile⟩ := QueryMethod.plan_eq_ok_iff.1 hplan
    have hfrom := Plan.compiledFrom_of_compile hcompile
    refine ⟨m', hm', ?_, ?_⟩
    · intro arguments arguments' s s' hagree hs hs'
      rw [← hfrom.parameters] at hagree
      rw [e.result_prepare, hserved] at hs hs'
      have hsql : s.sql = s'.sql := Entity.sql_preparePlanned_eq hagree hs hs'
      refine ⟨hsql, ?_⟩
      intro α α' t t' map map' d d' hcount hd hd'
      rw [e.statements_execute, hserved] at hd hd'
      rcases Entity.sql_of_update hs hd with ⟨hbulk, hdsql⟩ | ⟨hkey, rows, hrows, hdsql⟩
      · rcases Entity.sql_of_update hs' hd' with ⟨-, hdsql'⟩ | ⟨hkey, -⟩
        · rw [hdsql, hsql, hdsql']
        · simp [hbulk] at hkey
      · rcases Entity.sql_of_update hs' hd' with ⟨hbulk, -⟩ | ⟨-, rows', hrows', hdsql'⟩
        · simp [hkey] at hbulk
        · rw [hdsql, hcount rows rows' hrows hrows', hdsql']
    · rintro _ ⟨⟩ hselects
      exact hfrom.sortsByColumns hselects

namespace Example

/-- A method whose parameter is an object of a type called `Pageable`; it declares no marker. -/
def findForObject : QueryMethod := ⟨"Trades", "find", [.object "Pageable"], .many⟩

def afterPaged : Engine :=
  (Engine.create trades {}).after [.plan ⟨"Trades", "find", [.page], .many⟩]

def firstRows (n : UInt64) : List Argument := [.page { page := 0, size := n }]

/-- The plan kept for a page lets an argument that is no marker change the text. -/
theorem object_changes_text :
    AgreeAtMarkers findForObject.parameters (firstRows 10) (firstRows 20) ∧
      ∃ s s', (afterPaged.prepare findForObject (firstRows 10)).2.result = .ok s ∧
        (afterPaged.prepare findForObject (firstRows 20)).2.result = .ok s' ∧ s.sql ≠ s'.sql := by
  constructor
  · exact .of_no_marker (by decide) _ _
  · have hten : (afterPaged.prepare findForObject (firstRows 10)).2.result.toOption.map (·.sql) =
        some ("SELECT shares, trader_id, ticker, price, action, id, value FROM trades " ++
          "LIMIT 10 OFFSET 0") := by
      decide +kernel
    have htwenty :
        (afterPaged.prepare findForObject (firstRows 20)).2.result.toOption.map (·.sql) =
          some ("SELECT shares, trader_id, ticker, price, action, id, value FROM trades " ++
            "LIMIT 20 OFFSET 0") := by
      decide +kernel
    obtain ⟨s, hs, hsql⟩ := Option.map_eq_some_iff.1 hten
    obtain ⟨s', hs', hsql'⟩ := Option.map_eq_some_iff.1 htwenty
    refine ⟨s, s', Fallible.eq_ok_of_toOption hs, Fallible.eq_ok_of_toOption hs', ?_⟩
    rw [hsql, hsql']
    decide

def deleteTwo : QueryMethod := ⟨"Trades", "deleteTop2ByAction", [.string], .count⟩

def action (name : String) : List Argument := [.scalar (.string (some name))]

theorem text_independent_deleteTwo :
    let e := Engine.create trades {}
    (∃ s s' d d', (e.prepare deleteTwo (action "BUY")).2.result = .ok s ∧
      (e.prepare deleteTwo (action "SELL")).2.result = .ok s' ∧
      (.update, d) ∈ (e.execute twoTrades Trade.ofRow deleteTwo (action "BUY")).2.statements ∧
      (.update, d') ∈ (e.execute twoTrades Trade.ofRow deleteTwo (action "SELL")).2.statements ∧
      s.sql = s'.sql ∧ d.sql = d'.sql) ∧
    ∃ p, e.served deleteTwo = .ok p ∧ p.SortsByColumns trades := by
  intro e
  obtain ⟨m', ⟨-, hm'⟩, htext, hsorts⟩ :=
    text_independent_of_bound_arguments trades {} [] deleteTwo
  -- nothing was called before, so the markers are those of the method itself
  obtain rfl : m' = deleteTwo := by simpa using hm'
  have hagree : AgreeAtMarkers deleteTwo.parameters (action "BUY") (action "SELL") :=
    .of_no_marker (by decide) _ _
  obtain ⟨s, hs⟩ : ∃ s, (e.prepare deleteTwo (action "BUY")).2.result = .ok s :=
    Fallible.exists_eq_ok_of_isOk (by decide +kernel)
  obtain ⟨s', hs'⟩ : ∃ s, (e.prepare deleteTwo (action "SELL")).2.result = .ok s :=
    Fallible.exists_eq_ok_of_isOk (by decide +kernel)
  obtain ⟨d, hd, -⟩ : ∃ d, (.update, d) ∈
      (e.execute twoTrades Trade.ofRow deleteTwo (action "BUY")).2.statements ∧
      d.sql = "DELETE FROM trades WHERE ( id=@tag0 ) OR ( id=@tag1 )" :=
    exists_statement_of_sql (by decide +kernel)
  obtain ⟨d', hd', -⟩ : ∃ d, (.update, d) ∈
      (e.execute twoTrades Trade.ofRow deleteTwo (action "SELL")).2.statements ∧
      d.sql = "DELETE FROM trades WHERE ( id=@tag0 ) OR ( id=@tag1 )" :=
    exists_statement_of_sql (by decide +kernel)
  have hselects : (e.served deleteTwo).toOption.map (·.selects) = some true := by decide +kernel
  obtain ⟨p, hp, hpselects⟩ := Option.map_eq_some_iff.1 hselects
  obtain ⟨hsql, hdeletions⟩ := htext _ _ s s' hagree hs hs'
  have hcount : ∀ rows rows', twoTrades.query s = .ok rows → twoTrades.query s' = .ok rows' →
      rows.length = rows'.length := by
    rintro _ _ ⟨⟩ ⟨⟩
    rfl
  exact ⟨⟨s, s', d, d', hs, hs', hd, hd', hsql,
      hdeletions twoTrades twoTrades Trade.ofRow Trade.ofRow d d' hcount hd hd'⟩,
    p, Fallible.eq_ok_of_toOption hp, hsorts p (Fallible.eq_ok_of_toOption hp) hpselects⟩

end Example

end DerivedQuery
