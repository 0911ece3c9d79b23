import DerivedQuery.Example.Trades
import DerivedQuery.Proofs.PlanErrors

/-!
The pages of a selection. The numbers that a statement gives for its limit and its offset never
exceed what it can name, and no store has more rows than that: so where the exact offset is out of
reach, nothing is left to select either way. Hence a statement selects just the page that a call
asks for, out of the first rows that its method allows, and the pages of a method join without a gap
or an overlap.
-/

namespace DerivedQuery

variable {α : Type}

def firstRows (limit : Option Nat) (rows : List α) : List α :=
  match limit with
  | some n => rows.take n
  | none => rows

/-- The rows of a page, after all the rows of the pages before it. -/
def PageRequest.rowsOf (request : PageRequest) (rows : List α) : List α :=
  (rows.drop (request.page.toNat * request.size.toNat)).take request.size.toNat

/-- The rows that a call asks for: its page of the first `limit` rows. -/
def requestedRows (limit : Option Nat) (page : Option PageRequest) (rows : List α) : List α :=
  match page with
  | some request => request.rowsOf (firstRows limit rows)
  | none => firstRows limit rows

/-- The rows that the numbers after LIMIT and OFFSET leave of a selection. -/
def selectedRows (bounds : Option Nat × Option Nat) (rows : List α) : List α :=
  firstRows bounds.1 (rows.drop (bounds.2.getD 0))

/-- The end of a selection's text: a keyword and its number for each bound that there is. -/
def boundsText : Option Nat × Option Nat → String
  | (none, none) => ""
  | (some limit, none) => " LIMIT " ++ toString limit
  | (none, some offset) => " OFFSET " ++ toString offset
  | (some limit, some offset) => " LIMIT " ++ toString limit ++ " OFFSET " ++ toString offset

theorem clauses_eq_boundsText (bounds : Option Nat × Option Nat) :
    Sql.clause " LIMIT " (bounds.1.map toString) ++ Sql.clause " OFFSET " (bounds.2.map toString) =
      boundsText bounds := by
  obtain ⟨limit, offset⟩ := bounds
  cases limit with
  | none => cases offset <;> exact String.empty_append
  | some limit =>
    cases offset with
    | none => exact String.append_empty
    | some offset => exact (String.append_assoc ..).symm

/-- The offset is exact, or the page lies beyond every row. -/
theorem PageRequest.offset_cases (request : PageRequest) {rows : List α}
    (h : rows.length ≤ greatestCount) :
    request.offset = request.page.toNat * request.size.toNat ∨
      rows.drop request.offset = [] ∧
        rows.drop (request.page.toNat * request.size.toNat) = [] := by
  unfold offset
  rcases Nat.le_total (request.page.toNat * request.size.toNat) greatestCount with hle | hge
  · exact Or.inl (Nat.min_eq_left hle)
  · rw [Nat.min_eq_right hge]
    exact Or.inr ⟨List.drop_eq_nil_of_le h, List.drop_eq_nil_of_le (by omega)⟩

theorem selectedRows_window (limit : Option Nat) (page : Option PageRequest) {rows : List α}
    (h : rows.length ≤ greatestCount) :
    selectedRows (window limit page) rows = requestedRows limit page rows := by
  cases page with
  | none => simp [selectedRows, window, requestedRows]
  | some request =>
    rcases request.offset_cases h with hexact | ⟨hoffset, hpage⟩
    · cases limit with
      | none => simp [selectedRows, window, requestedRows, firstRows, PageRequest.rowsOf, hexact]
      | some top =>
        simp [selectedRows, window, requestedRows, firstRows, PageRequest.rowsOf, hexact,
          List.drop_take, List.take_take]
    · cases limit with
      | none =>
        simp [selectedRows, window, requestedRows, firstRows, PageRequest.rowsOf, hoffset, hpage]
      | some top =>
        simp [selectedRows, window, requestedRows, firstRows, PageRequest.rowsOf, hoffset, hpage,
          List.drop_take]

/-- Pages of one size, put together, are the rows up to the end of the last of them. -/
theorem flatMap_pages (size : Nat) (rows : List α) (n : Nat) :
    ((List.range n).flatMap fun k => (rows.drop (k * size)).take size) = rows.take (n * size) := by
  induction n with
  | zero => simp
  | succ n ih => simp [List.range_succ, ih, Nat.succ_mul, List.take_add]

theorem flatMap_requestedRows (limit : Option Nat) (size last : UInt64) (orderBy : OrderBy)
    (rows : List α) :
    ((List.range (last.toNat + 1)).flatMap fun k =>
        requestedRows limit (some ⟨.ofNat k, size, orderBy⟩) rows) =
      (firstRows limit rows).take ((last.toNat + 1) * size.toNat) := by
  rw [← flatMap_pages size.toNat (firstRows limit rows)]
  apply List.flatMap_congr
  intro k hk
  have hlt : k < UInt64.size := by
    have hlast := last.toNat_lt_size
    have := List.mem_range.1 hk
    omega
  simp [requestedRows, PageRequest.rowsOf, UInt64.toNat_ofNat_of_lt' hlt]

namespace Plan

variable {p : Plan}

/-- The numbers after LIMIT and OFFSET in the statement of a call. -/
def bounds (p : Plan) (page : Option PageRequest) : Option Nat × Option Nat :=
  let (limit, offset) := window p.limit page
  (if p.operation = .exist then limit.or (some 1) else limit, offset)

def unbounded (p : Plan) (keys : List ColumnKey) : Sql.Select :=
  { distinct := p.distinct
    columns := p.columns.map (·.name)
    table := p.table
    condition := p.condition
    orderBy := keys.map ColumnKey.text
    limit := none
    offset := none }

def around (p : Plan) (select : String) : String :=
  match p.operation with
  | .exist => "SELECT EXISTS(" ++ select ++ ")"
  | .count => "SELECT COUNT(1) FROM (" ++ select ++ ")"
  | .find | .delete => select

theorem text_with_bounds (p : Plan) (keys : List ColumnKey) (bounds : Option Nat × Option Nat) :
    ({ p.unbounded keys with limit := bounds.1, offset := bounds.2 } : Sql.Select).text =
      (p.unbounded keys).text ++ boundsText bounds := by
  have hnone : ∀ keyword, Sql.clause keyword ((none : Option Nat).map toString) = "" :=
    fun _ => rfl
  unfold Sql.Select.text unbounded
  rw [hnone, hnone, String.append_empty, String.append_empty, String.append_assoc,
    clauses_eq_boundsText]

theorem select_eq (p : Plan) (orderBy : Option OrderBy) (page : Option PageRequest) :
    p.select orderBy page (p.operation = .exist) =
      (p.effectiveOrder orderBy page).map fun keys =>
        { p.unbounded keys with limit := (p.bounds page).1, offset := (p.bounds page).2 } := by
  unfold select
  cases p.effectiveOrder orderBy page with
  | error e => rfl
  | ok keys => simp [unbounded, bounds, Except.map]

theorem render_eq_around (h : p.selects = true) (orderBy : Option OrderBy)
    (page : Option PageRequest) :
    p.render orderBy page =
      (p.select orderBy page (p.operation = .exist)).map fun s => p.around s.text := by
  unfold render around
  cases hop : p.operation with
  | find | count =>
    simp only [reduceCtorEq, decide_false]
    cases p.select orderBy page false <;> rfl
  | exist =>
    simp only [decide_true]
    cases p.select orderBy page true <;> rfl
  | delete =>
    have hkey : p.deletesByKey = true := by simpa [selects, hop] using h
    simp only [hkey, if_true, reduceCtorEq, decide_false]
    cases p.select orderBy page false <;> rfl

theorem render_eq_text (h : p.selects = true) (orderBy : Option OrderBy)
    (page : Option PageRequest) :
    p.render orderBy page = (p.effectiveOrder orderBy page).map fun keys =>
      p.around ((p.unbounded keys).text ++ boundsText (p.bounds page)) := by
  rw [render_eq_around h, select_eq]
  cases p.effectiveOrder orderBy page with
  | error e => rfl
  | ok keys => simp only [Except.map, text_with_bounds p keys (p.bounds page)]

theorem bounds_of_rows (h : p.operation ≠ .exist) (page : Option PageRequest) :
    p.bounds page = window p.limit page := by
  simp [bounds, h]

/-- One row is enough to see whether there are any. -/
theorem selectedRows_eq_nil_iff_of_exist (h : p.operation = .exist) (page : Option PageRequest)
    (rows : List α) :
    selectedRows (p.bounds page) rows = [] ↔ selectedRows (window p.limit page) rows = [] := by
  cases hlimit : (window p.limit page).1 with
  | some n => simp [bounds, h, hlimit, selectedRows]
  | none => simp [bounds, h, hlimit, selectedRows, firstRows]

/-- A statement ends with its bounds. They select the page requested, of the first rows that the
method allows; the pages from 0 on, put together, are these first rows up to the end of the last
page. A test for rows, which looks at one row only, finds one exactly if the page has any. -/
theorem bounds_select_requested_rows (p : Plan) (h : p.selects = true)
    (page : Option PageRequest) :
    (∀ orderBy, p.render orderBy page = (p.effectiveOrder orderBy page).map fun keys =>
      p.around ((p.unbounded keys).text ++ boundsText (p.bounds page))) ∧
    (p.operation ≠ .exist → ∀ {α : Type} (rows : List α), rows.length ≤ greatestCount →
      selectedRows (p.bounds page) rows = requestedRows p.limit page rows ∧
      ∀ (size last : UInt64) (orderBy : OrderBy),
        ((List.range (last.toNat + 1)).flatMap fun k =>
            selectedRows (p.bounds (some ⟨.ofNat k, size, orderBy⟩)) rows) =
          (firstRows p.limit rows).take ((last.toNat + 1) * size.toNat)) ∧
    (p.operation = .exist → ∀ {α : Type} (rows : List α), rows.length ≤ greatestCount →
      (selectedRows (p.bounds page) rows = [] ↔ requestedRows p.limit page rows = [])) := by
  refine ⟨fun orderBy => render_eq_text h orderBy page, ?_, ?_⟩
  · intro hop α rows hrows
    refine ⟨by rw [bounds_of_rows hop, selectedRows_window p.limit page hrows], ?_⟩
    intro size last orderBy
    rw [← flatMap_requestedRows p.limit size last orderBy rows]
    apply List.flatMap_congr
    intro k _
    rw [bounds_of_rows hop, selectedRows_window p.limit _ hrows]
  · intro hop α rows hrows
    rw [selectedRows_eq_nil_iff_of_exist hop, selectedRows_window p.limit page hrows]

end Plan

namespace Example

def findTopSeven : QueryMethod := ⟨"Trades", "findTop7ByAction", [.string, .page], .many⟩

/-- A page whose exact offset no statement can name. -/
def farPage : PageRequest := { page := .ofNat (Nat.pow 2 63), size := 3 }

theorem bounds_select_seventh_trade :
    ∃ p, findTopSeven.plan trades = .ok p ∧ p.selects = true ∧ p.operation ≠ .exist ∧
      (List.range 10).length ≤ greatestCount ∧
      p.bounds (some { page := 2, size := 3 }) = (some 1, some 6) ∧
      selectedRows (p.bounds (some { page := 2, size := 3 })) (List.range 10) = [6] ∧
      p.bounds (some farPage) = (some 0, some greatestCount) ∧
      selectedRows (p.bounds (some farPage)) (List.range 10) =
        requestedRows p.limit (some farPage) (List.range 10) := by
  have hplan : ((findTopSeven.plan trades).toOption.any fun p =>
      p.selects && p.operation == .find && p.limit == some 7 &&
        p.bounds (some { page := 2, size := 3 }) == (some 1, some 6) &&
        p.bounds (some farPage) == (some 0, some greatestCount)) = true := by
    decide +kernel
  obtain ⟨p, hp, hparts⟩ := (Option.any_eq_true _ _).1 hplan
  simp only [Bool.and_eq_true, beq_iff_eq] at hparts
  obtain ⟨⟨⟨⟨hselects, hop⟩, hlimit⟩, hthird⟩, hfar⟩ := hparts
  have hne : p.operation ≠ .exist := by simp [hop]
  have hrows : (List.range 10).length ≤ greatestCount := by decide +kernel
  obtain ⟨-, hselected, -⟩ := Plan.bounds_select_requested_rows p hselects (some farPage)
  obtain ⟨-, hthirdPage, -⟩ :=
    Plan.bounds_select_requested_rows p hselects (some { page := 2, size := 3 })
  refine ⟨p, Fallible.eq_ok_of_toOption hp, hselects, hne, hrows, hthird, ?_, hfar,
    (hselected hne _ hrows).1⟩
  rw [(hthirdPage hne _ hrows).1, hlimit]
  rfl

end Example

end DerivedQuery
