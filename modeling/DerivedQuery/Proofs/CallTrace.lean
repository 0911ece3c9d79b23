import DerivedQuery.Example.Trades
import DerivedQuery.Proofs.Run

/-!
What the store gets to see of an execution, call by call. Preparing the same method from the same
engine shows the first of these calls, and fails exactly when there is none.
-/

namespace DerivedQuery

variable {α : Type}

namespace Plan

variable {p : Plan} {t : Transport} {s : Statement}

/-- The store finds rows for the statement, and every row has every key column. -/
structure FetchesKeys (p : Plan) (t : Transport) (s : Statement) (rows : List Row) : Prop where
  fetched : t.query s = .ok rows
  ne_nil : rows ≠ []
  keys : ∀ row ∈ rows, ∀ column ∈ p.primaryKey, (row.get? column).isSome

/-- All calls that the store gets, in order, when the statement of a plan is `s`. -/
inductive CallTrace (p : Plan) (t : Transport) (s : Statement) : List (Access × Statement) → Prop
  | read (hop : p.operation ≠ .delete) : CallTrace p t s [(.query, s)]
  | bulkDelete (hop : p.operation = .delete) (hkey : p.deletesByKey = false) :
      CallTrace p t s [(.update, s)]
  | keyDelete {rows : List Row} {deletion : Statement} (hkey : p.deletesByKey = true)
      (hrows : p.FetchesKeys t s rows) (hdeletion : Execution.keyDeletion p rows = .ok deletion) :
      CallTrace p t s [(.query, s), (.update, deletion)]
  | keepRows (hkey : p.deletesByKey = true) (hrows : ∀ rows, ¬p.FetchesKeys t s rows) :
      CallTrace p t s [(.query, s)]

theorem CallTrace.head? {calls : List (Access × Statement)} (h : p.CallTrace t s calls) :
    ∃ access, calls.head? = some (access, s) := by
  cases h with
  | read => exact ⟨.query, rfl⟩
  | bulkDelete => exact ⟨.update, rfl⟩
  | keyDelete => exact ⟨.query, rfl⟩
  | keepRows => exact ⟨.query, rfl⟩

/-- Without a row, or with a row that lacks a key column, nothing is deleted. -/
theorem deletions_of_not_fetchesKeys {rows : List Row} (hrows : t.query s = .ok rows)
    (h : ¬p.FetchesKeys t s rows) : p.deletions rows = [] := by
  by_contra hne
  obtain ⟨⟨access, d⟩, hd⟩ := List.exists_mem_of_ne_nil _ hne
  obtain ⟨-, hrows_ne, hdel⟩ := mem_deletions.1 hd
  exact h ⟨hrows, hrows_ne, Execution.exists_keyDeletion_iff.1 ⟨d, hdel⟩⟩

theorem deletions_of_fetchesKeys {rows : List Row} {d : Statement} (h : p.FetchesKeys t s rows)
    (hd : Execution.keyDeletion p rows = .ok d) : p.deletions rows = [(.update, d)] := by
  unfold deletions
  rw [if_neg (by simpa using h.ne_nil), hd]

/-- The calls of a deletion by key depend on the rows that it has fetched. -/
theorem callTrace_of_deletesByKey (hkey : p.deletesByKey = true) :
    p.CallTrace t s (p.accesses t s) := by
  unfold accesses
  rw [if_pos hkey]
  cases hrows : t.query s with
  | error e =>
    refine .keepRows hkey fun rows h => ?_
    have hfetched := h.fetched
    rw [hrows] at hfetched
    cases hfetched
  | ok rows =>
    by_cases h : p.FetchesKeys t s rows
    · obtain ⟨d, hd⟩ := Execution.exists_keyDeletion_iff.2 h.keys
      simp only [deletions_of_fetchesKeys h hd]
      exact .keyDelete hkey h hd
    · simp only [deletions_of_not_fetchesKeys hrows h]
      refine .keepRows hkey fun rows' h' => h ?_
      obtain rfl : rows = rows' := Except.ok.inj (hrows.symm.trans h'.fetched)
      exact h'

theorem callTrace_accesses (p : Plan) (t : Transport) (s : Statement) :
    p.CallTrace t s (p.accesses t s) := by
  by_cases hkey : p.deletesByKey = true
  · exact callTrace_of_deletesByKey hkey
  · unfold accesses
    rw [if_neg hkey]
    by_cases hop : p.operation = .delete
    · rw [if_pos hop]
      exact .bulkDelete hop (Bool.eq_false_iff.2 hkey)
    · rw [if_neg hop]
      exact .read hop

theorem accesses_ne_nil (p : Plan) (t : Transport) (s : Statement) : p.accesses t s ≠ [] := by
  obtain ⟨access, h⟩ := (callTrace_accesses p t s).head?
  intro hnil
  rw [hnil] at h
  cases h

end Plan

/-- Preparing and executing a method are one up to the first call. A method that cannot be prepared
fails alike without a call; one that can be calls the store as its plan and the rows demand, first
of all with the statement prepared. -/
theorem prepare_shows_first_call (e : Engine) (t : Transport) (map : RowMapper α) (m : QueryMethod)
    (arguments : List Argument) :
    let prepared := (e.prepare m arguments).2
    let executed := (e.execute t map m arguments).2
    prepared.statements = [] ∧
    (∀ err, prepared.result = .error err ↔
      executed.result = .error err ∧ executed.statements = []) ∧
    ∀ s, prepared.result = .ok s →
      (∃ access, executed.statements.head? = some (access, s)) ∧
      ∃ p, e.served m = .ok p ∧ p.CallTrace t s executed.statements := by
  intro prepared executed
  have hprepared : prepared.result = e.entity.preparePlanned (e.served m) arguments :=
    e.result_prepare m arguments
  have hresult : executed.result = _ := e.result_execute t map m arguments
  have hstatements : executed.statements = _ := e.statements_execute t map m arguments
  refine ⟨e.statements_prepare m arguments, ?_⟩
  rw [hprepared, hresult, hstatements]
  rcases e.entity.executePlanned_cases e.settings t map (e.served m) arguments with
    ⟨err', hexec, hprep⟩ | ⟨p, bound, s', hserved, -, -, -, hprep, hcalls, -⟩
  · -- no statement could be rendered
    rw [hexec, hprep]
    refine ⟨fun err => ?_, fun s hs => by cases hs⟩
    simp
  · rw [hprep, hcalls]
    refine ⟨fun err => ?_, ?_⟩
    · simp [Plan.accesses_ne_nil]
    · intro s hs
      cases hs
      have htrace := Plan.callTrace_accesses p t s'
      exact ⟨htrace.head?, p, hserved, htrace⟩

namespace Example

/-- A store of two trades, which are found whatever is asked for. -/
def twoTrades : Transport :=
  ⟨fun _ => .ok [⟨[("id", .string "t1")]⟩, ⟨[("id", .string "t2")]⟩], fun _ => .ok 2⟩

/-- A limit makes a deletion fetch the rows first. -/
example :
    ((Engine.create trades {}).execute twoTrades Trade.ofRow
      ⟨"Trades", "deleteTop2ByAction", [.string], .count⟩
      [.scalar (.string (some "BUY"))]).2.statements.map (fun (access, s) => (access, s.sql)) =
      [(.query, "SELECT shares, trader_id, ticker, price, action, id, value FROM trades " ++
        "WHERE ( action=@tag0 ) LIMIT 2"),
       (.update, "DELETE FROM trades WHERE ( id=@tag0 ) OR ( id=@tag1 )")] := by
  decide +kernel

end Example

end DerivedQuery
