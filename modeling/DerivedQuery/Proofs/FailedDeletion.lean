import DerivedQuery.Example.Trades
import DerivedQuery.Proofs.Run

/-!
A call that fails has deleted nothing, unless the store refused the deletion itself. There is one
exception: rows that a method returns are read only after they have been deleted, so a row that
cannot be read fails the call too late.
-/

namespace DerivedQuery

open Execution

variable {α : Type}

/-- A deletion by key that the store accepts fails later only if a returned row is unreadable. -/
theorem afterAnnouncement_eq_error_iff {p : Plan} {settings : Settings} {t : Transport}
    {map : RowMapper α} {s d : Statement} {rows : List Row} {n : UInt64} {err : QueryError}
    (hkey : p.deletesByKey = true) (hrows : t.query s = .ok rows) (hne : rows ≠ [])
    (hd : keyDeletion p rows = .ok d) (hn : t.update d = .ok n) :
    (afterAnnouncement settings t map p s).result = .error err ↔
      p.shape = .many ∧ mapRows map rows = .error err := by
  rw [result_afterAnnouncement_of_deletesByKey hkey, hrows, Except.bind]
  simp only [List.isEmpty_iff, hne, if_false, hd, Except.bind, hn]
  by_cases hshape : p.shape = .many
  · cases hmap : mapRows map rows <;> simp [hshape, Except.map]
  · simp [hshape]

/-- When a call fails and the store has refused no deletion, something was deleted exactly if the
method deletes by key and returns the rows, all of them have their keys, and one is unreadable. -/
theorem failed_call_deleted_iff (e : Engine) (t : Transport) (map : RowMapper α) (m : QueryMethod)
    (arguments : List Argument) (err : QueryError)
    (hfail : (e.execute t map m arguments).2.result = .error err)
    (haccepted : ∀ s, (.update, s) ∈ (e.execute t map m arguments).2.statements →
      ∃ n, t.update s = .ok n) :
    (∃ d, (.update, d) ∈ (e.execute t map m arguments).2.statements) ↔
      ∃ p s rows, e.served m = .ok p ∧ p.deletesByKey = true ∧ p.shape = .many ∧
        (.query, s) ∈ (e.execute t map m arguments).2.statements ∧ t.query s = .ok rows ∧
        rows ≠ [] ∧ (∀ row ∈ rows, ∀ column ∈ p.primaryKey, (row.get? column).isSome) ∧
        mapRows map rows = .error err := by
  rw [e.result_execute] at hfail
  rw [e.statements_execute] at haccepted ⊢
  rcases e.entity.executePlanned_cases e.settings t map (e.served m) arguments with
    ⟨err', hexec, -⟩ | ⟨p, bound, s, hserved, -, -, -, -, hstatements, hresult⟩
  · -- nothing was run
    simp [hexec]
  rw [hstatements] at haccepted ⊢
  rw [hresult] at hfail
  constructor
  · rintro ⟨d, hd⟩
    obtain ⟨n, hn⟩ := haccepted d hd
    rcases Plan.mem_accesses_update.1 hd with ⟨hop, hkey, rfl⟩ | ⟨hkey, rows, hrows, hne, hdel⟩
    · rw [result_afterAnnouncement_of_bulk hop hkey, hn] at hfail
      cases hfail
    · obtain ⟨hshape, hmap⟩ := (afterAnnouncement_eq_error_iff hkey hrows hne hdel hn).1 hfail
      exact ⟨p, s, rows, hserved, hkey, hshape, Plan.mem_accesses_query.2 ⟨rfl, Or.inl hkey⟩,
        hrows, hne, exists_keyDeletion_iff.1 ⟨d, hdel⟩, hmap⟩
  · rintro ⟨p', s', rows, hserved', hkey, -, hs', hrows, hne, hkeys, -⟩
    obtain rfl : p = p' := by simpa [hserved] using hserved'
    obtain ⟨rfl, -⟩ := Plan.mem_accesses_query.1 hs'
    obtain ⟨d, hdel⟩ := exists_keyDeletion_iff.2 hkeys
    exact ⟨d, Plan.mem_accesses_update.2 (Or.inr ⟨hkey, rows, hrows, hne, hdel⟩)⟩

namespace Example

def deleteTrades : QueryMethod := ⟨"Trades", "deleteByAction", [.string], .many⟩

/-- A store whose only trade has no price. -/
def priceless : Transport :=
  ⟨fun _ => .ok [⟨[("id", .string "t1"), ("action", .string "BUY")]⟩], fun _ => .ok 1⟩

def pricelessCall : Outcome (QueryResult Trade) :=
  ((Engine.create trades {}).execute priceless Trade.ofRow deleteTrades
    [.scalar (.string (some "BUY"))]).2

theorem result_pricelessCall :
    pricelessCall.result = .error (.rowMapping (.missingColumn "price")) := by
  have hfault : (match pricelessCall.result with
      | .error (.rowMapping fault) => some fault
      | _ => none) = some (RowFault.missingColumn "price") := by
    decide +kernel
  split at hfault
  · next fault hresult => rw [hresult, Option.some.inj hfault]
  · cases hfault

theorem statements_pricelessCall :
    pricelessCall.statements.map (fun (access, s) => (access, s.sql)) =
      [(.query, "SELECT shares, trader_id, ticker, price, action, id, value FROM trades " ++
        "WHERE ( action=@tag0 )"),
       (.update, "DELETE FROM trades WHERE ( id=@tag0 )")] := by
  decide +kernel

theorem exists_update_pricelessCall : ∃ d, (Access.update, d) ∈ pricelessCall.statements := by
  have hmem : (Access.update, "DELETE FROM trades WHERE ( id=@tag0 )") ∈
      pricelessCall.statements.map (fun (access, s) => (access, s.sql)) := by
    rw [statements_pricelessCall]
    simp
  obtain ⟨⟨access, d⟩, hd, heq⟩ := List.mem_map.1 hmem
  obtain ⟨rfl, -⟩ := Prod.mk.inj heq
  exact ⟨d, hd⟩

/-- The call fails and the store refuses nothing, yet the trade is gone. -/
theorem unread_trade_is_deleted :
    (∃ err, pricelessCall.result = .error err) ∧
      (∀ s, ∃ n, priceless.update s = .ok n) ∧
        ∃ d, (Access.update, d) ∈ pricelessCall.statements :=
  ⟨⟨_, result_pricelessCall⟩, fun _ => ⟨1, rfl⟩, exists_update_pricelessCall⟩

theorem failed_call_deleted_priceless :
    ∃ p s rows, (Engine.create trades {}).served deleteTrades = .ok p ∧ p.deletesByKey = true ∧
      p.shape = .many ∧ (.query, s) ∈ pricelessCall.statements ∧ priceless.query s = .ok rows ∧
      rows ≠ [] ∧ (∀ row ∈ rows, ∀ column ∈ p.primaryKey, (row.get? column).isSome) ∧
      mapRows Trade.ofRow rows = .error (.rowMapping (.missingColumn "price")) :=
  (failed_call_deleted_iff (Engine.create trades {}) priceless Trade.ofRow deleteTrades
    [.scalar (.string (some "BUY"))] _ result_pricelessCall fun _ _ => ⟨1, rfl⟩).1
    exists_update_pricelessCall

end Example

end DerivedQuery
