import Mathlib.Data.List.Count
import DerivedQuery.Example.Trades
import DerivedQuery.Proofs.Binding
import DerivedQuery.Proofs.KeyDeletion
import DerivedQuery.Proofs.PlanReferences
import DerivedQuery.Proofs.Run

/-!
Tags are numbered three times over: in the leaves of a plan, in the bindings of a call, and in the
text of a deletion by key. The three agree in every statement of every call.
-/

namespace DerivedQuery

open Sql

namespace Statement

/-- The bindings are numbered in order, and the references in the text are increasing and each has
one binding. -/
structure TagsAgree (s : Statement) (shown : List Nat) : Prop where
  tags : s.tags = (List.range s.bindings.length).map tagName
  references : references s.sql.toList = shown.map Text.numeral
  increasing : shown.Pairwise (· < ·)
  below : ∀ k ∈ shown, k < s.bindings.length
  bound : ∀ k ∈ shown, s.tags.count (tagName k) = 1

/-- How often the text refers to the `k`-th tag. -/
def countReferences (s : Statement) (k : Nat) : Nat :=
  (Sql.references s.sql.toList).count (Text.numeral k)

/-- A statement for the leaves of a plan shows the tags of those that compare with a value. -/
structure ShowsLeaves (s : Statement) (p : Plan) : Prop where
  agree : s.TagsAgree p.shown
  length : s.bindings.length = p.leaves.length
  count : ∀ k l, p.leaves[k]? = some l →
    s.countReferences k = if 0 < l.operator.arity then 1 else 0

/-- A statement that shows every tag it binds. -/
structure ShowsBindings (s : Statement) : Prop where
  agree : s.TagsAgree (List.range s.bindings.length)
  count : ∀ k < s.bindings.length, s.countReferences k = 1

variable {s : Statement} {shown : List Nat}

theorem TagsAgree.countReferences_eq (h : s.TagsAgree shown) (k : Nat) :
    s.countReferences k = shown.count k := by
  rw [countReferences, h.references]
  exact List.count_map_of_injective _ _ (fun _ _ => Text.numeral_injective) _

/-- Numbered bindings agree with a text that refers to some of them in order. -/
theorem tagsAgree_of_refersTo (htags : s.tags = (List.range s.bindings.length).map tagName)
    (hrefers : RefersTo s.sql shown) (hincreasing : shown.Pairwise (· < ·))
    (hlt : ∀ k ∈ shown, k < s.bindings.length) : s.TagsAgree shown := by
  refine ⟨htags, hrefers.references_eq, hincreasing, hlt, ?_⟩
  intro k hk
  rw [htags, List.count_map_of_injective _ _ (fun _ _ => tagName_injective)]
  exact List.count_eq_one_of_mem List.nodup_range (List.mem_range.2 (hlt k hk))

end Statement

namespace Plan

variable {p : Plan}

/-- The statement that a plan renders for a call. -/
theorem showsLeaves_of_bind (h : p.WellTagged) {lookup : String → Option Converter}
    {arguments : List Argument} {bound : BoundArguments} {s : Statement}
    (hb : bind lookup p arguments = .ok bound)
    (hr : p.render bound.orderBy bound.page = .ok s.sql) (hs : s.bindings = bound.bindings) :
    s.ShowsLeaves p := by
  have htags : s.tags = (List.range p.leaves.length).map tagName := by
    rw [Statement.tags, hs, tags_of_bind hb, ← h.numbered, List.map_map]
    rfl
  have hlength : s.bindings.length = p.leaves.length := by
    simpa [Statement.tags] using congrArg List.length htags
  have hagree : s.TagsAgree p.shown := by
    refine Statement.tagsAgree_of_refersTo ?_ (refersTo_render h hr) (pairwise_shown h) ?_
    · rw [hlength]
      exact htags
    · intro k hk
      rw [hlength]
      exact lt_of_mem_shown h hk
  exact ⟨hagree, hlength, fun k l hl => (hagree.countReferences_eq k).trans (count_shown h hl)⟩

/-- The statement that deletes fetched rows by their keys. -/
theorem showsBindings_of_keyDeletion (h : p.WellTagged) {rows : List Row} {d : Statement}
    (hd : Execution.keyDeletion p rows = .ok d) : d.ShowsBindings := by
  obtain ⟨keys, hkeys, rfl⟩ := Execution.keyDeletion_eq_ok_iff.1 hd
  have hlength : (bindInOrder keys.flatten).length = rows.length * p.primaryKey.length :=
    (length_bindInOrder _).trans (length_flatten_of_keys hkeys)
  have hagree := Statement.tagsAgree_of_refersTo
    (s := ⟨p.keyDelete rows.length, bindInOrder keys.flatten⟩)
    (by rw [length_bindInOrder]; exact tags_bindInOrder _)
    (by rw [hlength]; exact refersTo_keyDelete h rows.length)
    List.pairwise_lt_range fun k hk => List.mem_range.1 hk
  refine ⟨hagree, fun k hk => ?_⟩
  rw [hagree.countReferences_eq]
  exact List.count_eq_one_of_mem List.nodup_range (List.mem_range.2 hk)

end Plan

/-- Every plan that serves a call has its leaves numbered. -/
theorem Engine.wellTagged_of_served {entity : Entity} (hplain : entity.PlainNames)
    {settings : Settings} {calls : List Call} {m : QueryMethod} {p : Plan}
    (hp : ((create entity settings).after calls).served m = .ok p) : p.WellTagged := by
  have hkeeps : ((create entity settings).after calls).KeepsFor fun _ => True :=
    (keepsFor_create entity settings).after fun _ _ _ _ => trivial
  obtain ⟨m', -, -, hplan⟩ := hkeeps.exists_of_served trivial hp
  rw [entity_after] at hplan
  obtain ⟨query, -, hcompile⟩ := QueryMethod.plan_eq_ok_iff.1 hplan
  exact Plan.wellTagged_of_compiledFrom (Plan.compiledFrom_of_compile hcompile) hplain

/-- Whatever was called before, tags agree in every statement that a call prepares or runs. -/
theorem statements_show_tags (entity : Entity) (hplain : entity.PlainNames) (settings : Settings)
    (calls : List Call) (m : QueryMethod) (arguments : List Argument) :
    let e := (Engine.create entity settings).after calls
    (∀ s, (e.prepare m arguments).2.result = .ok s →
      ∃ p, e.served m = .ok p ∧ s.ShowsLeaves p) ∧
    ∀ {α : Type} (t : Transport) (map : RowMapper α) (access : Access) (s : Statement),
      (access, s) ∈ (e.execute t map m arguments).2.statements →
        ∃ p, e.served m = .ok p ∧
          if access = .update ∧ p.deletesByKey = true then s.ShowsBindings
          else s.ShowsLeaves p := by
  intro e
  constructor
  · intro s hs
    rw [e.result_prepare] at hs
    obtain ⟨p, hp, hs⟩ := Fallible.bind_eq_ok_iff.1 hs
    obtain ⟨bound, hb, hs⟩ := Fallible.bind_eq_ok_iff.1 hs
    obtain ⟨sql, hr, hs⟩ := Fallible.bind_eq_ok_iff.1 hs
    cases hs
    exact ⟨p, hp, Plan.showsLeaves_of_bind (Engine.wellTagged_of_served hplain hp) hb hr rfl⟩
  · intro α t map access s hs
    rw [e.statements_execute] at hs
    rcases e.entity.executePlanned_cases e.settings t map (e.served m) arguments with
      ⟨err, hexec, -⟩ | ⟨p, bound, own, hp, hb, hr, hown, -, hstatements, -⟩
    · rw [hexec] at hs
      cases hs
    have htagged := Engine.wellTagged_of_served hplain hp
    have hshows := Plan.showsLeaves_of_bind htagged hb hr hown
    rw [hstatements] at hs
    refine ⟨p, hp, ?_⟩
    cases access with
    | query =>
      obtain ⟨rfl, -⟩ := Plan.mem_accesses_query.1 hs
      simpa using hshows
    | update =>
      rcases Plan.mem_accesses_update.1 hs with ⟨-, hkey, rfl⟩ | ⟨hkey, rows, -, -, hdel⟩
      · simpa [hkey] using hshows
      · simpa [hkey] using Plan.showsBindings_of_keyDeletion htagged hdel

namespace Example

theorem plainNames_trades : trades.PlainNames := by constructor <;> decide

/-- The leaf in the middle owns a tag that its statement does not show. -/
def findPriced : QueryMethod :=
  ⟨"Trades", "findByActionAndPriceIsNotNullOrTraderId", [.string, .string, .string], .many⟩

def prepared : Outcome Statement :=
  ((Engine.create trades {}).prepare findPriced
    [.scalar (.string (some "BUY")), .null, .scalar (.string (some "t1"))]).2

theorem statements_show_tags_findPriced :
    ∃ s p, prepared.result = .ok s ∧ (Engine.create trades {}).served findPriced = .ok p ∧
      p.shown = [0, 2] ∧ s.ShowsLeaves p := by
  have hok : prepared.result.isOk = true := by decide +kernel
  have hshown : ((Engine.create trades {}).served findPriced).toOption.map (·.shown) =
      some [0, 2] := by
    decide +kernel
  cases hs : prepared.result with
  | error e =>
    rw [hs] at hok
    cases hok
  | ok s =>
    obtain ⟨p, hp, hshows⟩ :=
      (statements_show_tags trades plainNames_trades {} [] findPriced _).1 s hs
    rw [show (Engine.create trades {}).served findPriced = .ok p from hp] at hshown
    exact ⟨s, p, rfl, hp, Option.some.inj hshown, hshows⟩

end Example

end DerivedQuery
