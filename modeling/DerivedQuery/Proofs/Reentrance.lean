import Mathlib.Data.List.Nodup
import DerivedQuery.Proofs.PlanCache

/-!
A memo of plans that is asked again while it waits for a plan. Compilations may ask it for further
plans, these may ask in turn, and every such request finds a memo that has only grown since the
first one began. What a compilation does in answer to its own requests is one tree of requests, so
all trees are all that can happen.
-/

namespace DerivedQuery.PlanCache

namespace Request

def key : Request → String
  | .mk key _ _ => key

def inner : Request → List Request
  | .mk _ inner _ => inner

def result : Request → Except QueryError Plan
  | .mk _ _ result => result

end Request

namespace Answer

def inner : Answer → Option (List Answer)
  | .mk inner _ => inner

def result : Answer → Except QueryError CompiledPlan
  | .mk _ result => result

end Answer

/-- A memo in use: within its capacity, one plan to a key, and all of them compiled before. -/
structure Sound (c : PlanCache) : Prop where
  size_le : c.size ≤ c.capacity
  nodup : (c.entries.map (·.1)).Nodup
  serial_lt : ∀ entry ∈ c.entries, entry.2.serial < c.compiled

/-- What requests do to a memo, however deep they go. -/
structure Grows (c c' : PlanCache) : Prop where
  capacity : c'.capacity = c.capacity
  entries : c.entries <+: c'.entries
  sound : c.Sound → c'.Sound

variable {c c' c'' : PlanCache} {key : String} {kept : CompiledPlan} {r : Request}

theorem sound_empty (capacity : Nat) : (empty capacity).Sound :=
  ⟨Nat.zero_le _, List.nodup_nil, by simp [empty]⟩

theorem sound_clear (c : PlanCache) : c.clear.Sound :=
  ⟨Nat.zero_le _, List.nodup_nil, by simp [PlanCache.clear]⟩

theorem Sound.serial_lt_of_get? (h : c.Sound) (hk : c.get? key = some kept) :
    kept.serial < c.compiled := h.serial_lt _ (mem_of_get? hk)

theorem notMem_keys_of_get? (h : c.get? key = none) : key ∉ c.entries.map (·.1) := by
  intro hmem
  obtain ⟨entry, hentry, hkey⟩ := List.mem_map.1 hmem
  have hfind : c.entries.find? (·.1 == key) = none := by simpa [get?] using h
  simpa [hkey] using List.find?_eq_none.1 hfind entry hentry

theorem Grows.refl (c : PlanCache) : Grows c c := ⟨rfl, List.prefix_refl _, id⟩

theorem Grows.trans (h : Grows c c') (h' : Grows c' c'') : Grows c c'' :=
  ⟨h'.capacity.trans h.capacity, h.entries.trans h'.entries, fun hc => h'.sound (h.sound hc)⟩

/-- A plan once kept stays, and stays the same. -/
theorem Grows.get? (h : Grows c c') (hk : c.get? key = some kept) : c'.get? key = some kept := by
  obtain ⟨added, hadded⟩ := h.entries
  obtain ⟨entry, hfind, rfl⟩ := Option.map_eq_some_iff.1 hk
  rw [PlanCache.get?, ← hadded, List.find?_append, hfind]
  rfl

/-- A compilation is counted even if its plan is dropped. -/
theorem grows_compiled (c : PlanCache) : Grows c { c with compiled := c.compiled + 1 } := by
  refine ⟨rfl, List.prefix_refl _, fun hc => ⟨hc.size_le, hc.nodup, ?_⟩⟩
  intro entry hentry
  exact Nat.lt_succ_of_lt (hc.serial_lt entry hentry)

theorem grows_extend (hnone : c.get? key = none) (plan : Plan) : Grows c (c.extend key plan) := by
  unfold extend
  split
  · exact grows_compiled c
  · next hroom =>
    refine ⟨rfl, List.prefix_append _ _, fun hc => ⟨?_, ?_, ?_⟩⟩
    · simp only [size, List.length_append, List.length_singleton] at hroom ⊢
      omega
    · rw [List.map_append, List.map_singleton, List.nodup_append]
      refine ⟨hc.nodup, List.nodup_singleton _, ?_⟩
      rintro k hk _ hkey rfl
      obtain rfl := List.mem_singleton.1 hkey
      exact notMem_keys_of_get? hnone hk
    · intro entry hentry
      rcases List.mem_append.1 hentry with hold | hnew
      · exact Nat.lt_succ_of_lt (hc.serial_lt entry hold)
      · obtain rfl := List.mem_singleton.1 hnew
        exact Nat.lt_succ_self _

theorem grows_settle (c : PlanCache) (key : String) (result : Except QueryError Plan) :
    Grows c (c.settle key result).1 := by
  cases result with
  | error e => exact .refl c
  | ok plan =>
    cases hk : c.get? key with
    | some kept =>
      rw [settle_of_kept hk]
      exact grows_compiled c
    | none =>
      obtain ⟨level, text, hsettle⟩ := settle_of_not_kept hk plan
      rw [hsettle]
      exact grows_extend hk plan

/-- Without a kept plan the inner requests come first, and the result is settled with the memo that
they have left. -/
theorem serve_of_not_kept (h : c.get? r.key = none) :
    serve r c =
      (((serveAll r.inner c).1.settle r.key r.result).1,
        .mk (some (serveAll r.inner c).2)
          ((serveAll r.inner c).1.settle r.key r.result).2.result) := by
  obtain ⟨key, inner, result⟩ := r
  have hk : c.get? key = none := h
  rw [serve, hk]
  rfl

theorem serve_of_kept (h : c.get? r.key = some kept) : serve r c = (c, .mk none (.ok kept)) := by
  obtain ⟨key, inner, result⟩ := r
  have hk : c.get? key = some kept := h
  rw [serve, hk]

/-- Where no compilation asks for other plans, as in an engine, a request is one `getOrCompile`. -/
theorem serve_of_no_inner (key : String) (result : Except QueryError Plan) (c : PlanCache) :
    ((serve (.mk key [] result) c).1, (serve (.mk key [] result) c).2.result) =
      ((c.getOrCompile key fun _ => result).1, (c.getOrCompile key fun _ => result).2.result) := by
  cases hk : c.get? key with
  | some kept =>
    rw [serve_of_kept (r := .mk key [] result) hk, getOrCompile_of_kept hk]
    rfl
  | none =>
    rw [serve_of_not_kept (r := .mk key [] result) hk, getOrCompile, hk]
    rfl

mutual

theorem grows_serve (r : Request) (c : PlanCache) : Grows c (serve r c).1 := by
  obtain ⟨key, inner, result⟩ := r
  cases hk : c.get? key with
  | some kept =>
    rw [serve_of_kept (r := .mk key inner result) hk]
    exact .refl c
  | none =>
    rw [serve_of_not_kept (r := .mk key inner result) hk]
    exact (grows_serveAll inner c).trans (grows_settle _ key result)

theorem grows_serveAll (rs : List Request) (c : PlanCache) : Grows c (serveAll rs c).1 := by
  cases rs with
  | nil => exact .refl c
  | cons r rs =>
    rw [serveAll]
    exact (grows_serve r c).trans (grows_serveAll rs _)

end

mutual

/-- The requests that answering a request takes, itself first and its inner ones to any depth, each
with the memo that it finds. -/
def calls : Request → PlanCache → List (Request × PlanCache)
  | .mk key inner result, c =>
    (.mk key inner result, c) ::
      match c.get? key with
      | some _ => []
      | none => callsAll inner c

def callsAll : List Request → PlanCache → List (Request × PlanCache)
  | [], _ => []
  | r :: rs, c => calls r c ++ callsAll rs (serve r c).1

end

mutual

theorem grows_of_mem_calls (r : Request) (c : PlanCache) {call : Request × PlanCache}
    (h : call ∈ calls r c) : Grows c call.2 := by
  obtain ⟨key, inner, result⟩ := r
  rw [calls] at h
  rcases List.mem_cons.1 h with rfl | h
  · exact .refl c
  · cases hk : c.get? key with
    | some kept => simp [hk] at h
    | none =>
      rw [hk] at h
      exact grows_of_mem_callsAll inner c h

theorem grows_of_mem_callsAll (rs : List Request) (c : PlanCache) {call : Request × PlanCache}
    (h : call ∈ callsAll rs c) : Grows c call.2 := by
  cases rs with
  | nil => cases h
  | cons r rs =>
    rw [callsAll] at h
    rcases List.mem_append.1 h with h | h
    · exact grows_of_mem_calls r c h
    · exact (grows_serve r c).trans (grows_of_mem_callsAll rs _ h)

end

/-- How a memo `c` answers a request by `a` and what it is afterwards, `c'`. -/
structure Answered (r : Request) (c c' : PlanCache) (a : Answer) : Prop where
  size_le : c.size ≤ c.capacity ∧ c'.size ≤ c'.capacity
  capacity : c'.capacity = c.capacity
  /-- A kept plan is the answer. Nothing is compiled and nothing changes. -/
  reused : ∀ kept, c.get? r.key = some kept → a.result = .ok kept ∧ a.inner = none ∧ c' = c
  /-- Otherwise the compilation runs. -/
  ran : c.get? r.key = none → a.inner = some (serveAll r.inner c).2
  stays : ∀ key kept, c.get? key = some kept → c'.get? key = some kept
  /-- The memo is left as the inner requests have left it. -/
  failed : c.get? r.key = none → ∀ e, r.result = .error e →
    a.result = .error e ∧ c' = (serveAll r.inner c).1
  returned : ∀ p, a.result = .ok p →
    c'.get? r.key = some p ∨ c'.size = c'.capacity ∧ c'.get? r.key = none
  /-- The plan that an inner request has stored is the answer, not the one compiled after it. -/
  overtaken : c.get? r.key = none → ∀ plan kept, r.result = .ok plan →
    (serveAll r.inner c).1.get? r.key = some kept →
      a.result = .ok kept ∧ kept ≠ ⟨(serveAll r.inner c).1.compiled, plan⟩ ∧
        c'.entries = (serveAll r.inner c).1.entries

/-- A compiled plan is kept, unless the memo is full. -/
theorem get?_extend (hc : c.Sound) (hnone : c.get? key = none) (plan : Plan) :
    (c.extend key plan).get? key = some ⟨c.compiled, plan⟩ ∨
      (c.extend key plan).size = (c.extend key plan).capacity ∧
        (c.extend key plan).get? key = none := by
  by_cases hroom : c.size < c.capacity
  · exact Or.inl (get?_extend_self hroom hnone)
  · have hfull : c.capacity ≤ c.size := Nat.not_lt.1 hroom
    right
    unfold extend
    rw [if_pos hfull]
    exact ⟨Nat.le_antisymm hc.size_le hfull, hnone⟩

theorem get?_settle (hc : c.Sound) {result : Except QueryError Plan} {p : CompiledPlan}
    (h : (c.settle key result).2.result = .ok p) :
    (c.settle key result).1.get? key = some p ∨
      (c.settle key result).1.size = (c.settle key result).1.capacity ∧
        (c.settle key result).1.get? key = none := by
  cases result with
  | error e => cases h
  | ok plan =>
    cases hk : c.get? key with
    | some kept =>
      rw [settle_of_kept hk] at h ⊢
      obtain rfl : kept = p := Except.ok.inj h
      exact Or.inl hk
    | none =>
      obtain ⟨level, text, hsettle⟩ := settle_of_not_kept hk plan
      rw [hsettle] at h ⊢
      obtain rfl : (⟨c.compiled, plan⟩ : CompiledPlan) = p := Except.ok.inj h
      exact get?_extend hc hk plan

theorem answered_of_kept (hc : c.Sound) (hk : c.get? r.key = some kept) :
    Answered r c (serve r c).1 (serve r c).2 := by
  have habsent : c.get? r.key ≠ none := by simp [hk]
  rw [serve_of_kept hk]
  refine ⟨⟨hc.size_le, hc.size_le⟩, rfl, ?_, (absurd · habsent), fun _ _ => id,
    (absurd · habsent), ?_, (absurd · habsent)⟩
  · intro kept' hk'
    obtain rfl : kept = kept' := Option.some.inj (hk.symm.trans hk')
    exact ⟨rfl, rfl, rfl⟩
  · intro p hp
    obtain rfl : kept = p := Except.ok.inj hp
    exact Or.inl hk

/-- Every request to a memo in use is answered as described. -/
theorem answered_serve (hc : c.Sound) (r : Request) :
    Answered r c (serve r c).1 (serve r c).2 := by
  cases hk : c.get? r.key with
  | some kept => exact answered_of_kept hc hk
  | none =>
    have hgrows := grows_serve r c
    have hinner : (serveAll r.inner c).1.Sound := (grows_serveAll r.inner c).sound hc
    rw [serve_of_not_kept hk] at hgrows ⊢
    refine ⟨⟨hc.size_le, (hgrows.sound hc).size_le⟩, hgrows.capacity, ?_, fun _ => rfl,
      fun _ _ => hgrows.get?, ?_, fun _ => get?_settle hinner, ?_⟩
    · intro kept hkept
      rw [hk] at hkept
      cases hkept
    · intro _ e he
      rw [he]
      exact ⟨rfl, rfl⟩
    · intro _ plan kept hplan hkept
      rw [hplan, settle_of_kept hkept]
      refine ⟨rfl, ?_, rfl⟩
      rintro rfl
      exact Nat.lt_irrefl _ (hinner.serial_lt_of_get? hkept)

/-- What is done with a memo from outside of all compilations. -/
inductive Step where
  | get (key : String)
  | clear
  | request (r : Request)

/-- Looking up a key changes nothing. -/
def step (c : PlanCache) : Step → PlanCache
  | .get _ => c
  | .clear => c.clear
  | .request r => (serve r c).1

def after (c : PlanCache) (steps : List Step) : PlanCache := steps.foldl step c

/-- All requests of some steps, at whatever depth, each with the memo that it finds. -/
def callsDuring : PlanCache → List Step → List (Request × PlanCache)
  | _, [] => []
  | c, .request r :: steps => calls r c ++ callsDuring (c.step (.request r)) steps
  | c, s :: steps => callsDuring (c.step s) steps

theorem sound_step (hc : c.Sound) (s : Step) :
    (c.step s).Sound ∧ (c.step s).capacity = c.capacity := by
  cases s with
  | get key => exact ⟨hc, rfl⟩
  | clear => exact ⟨sound_clear c, rfl⟩
  | request r => exact ⟨(grows_serve r c).sound hc, (grows_serve r c).capacity⟩

theorem sound_after (hc : c.Sound) (steps : List Step) :
    (c.after steps).Sound ∧ (c.after steps).capacity = c.capacity := by
  induction steps generalizing c with
  | nil => exact ⟨hc, rfl⟩
  | cons s steps ih =>
    obtain ⟨hstep, hcapacity⟩ := sound_step hc s
    obtain ⟨hafter, hafter_capacity⟩ := ih hstep
    exact ⟨hafter, hafter_capacity.trans hcapacity⟩

theorem grows_after {steps : List Step} (h : .clear ∉ steps) : Grows c (c.after steps) := by
  induction steps generalizing c with
  | nil => exact .refl c
  | cons s steps ih =>
    obtain ⟨hs, hsteps⟩ := not_or.1 (List.mem_cons.not.1 h)
    refine Grows.trans ?_ (ih hsteps)
    cases s with
    | get key => exact .refl c
    | clear => exact absurd rfl hs
    | request r => exact grows_serve r c

theorem sound_of_mem_callsDuring (hc : c.Sound) {steps : List Step} {call : Request × PlanCache}
    (h : call ∈ c.callsDuring steps) : call.2.Sound ∧ call.2.capacity = c.capacity := by
  induction steps generalizing c with
  | nil => cases h
  | cons s steps ih =>
    obtain ⟨hstep, hcapacity⟩ := sound_step hc s
    have hlater : call ∈ (c.step s).callsDuring steps →
        call.2.Sound ∧ call.2.capacity = c.capacity := by
      intro hcall
      obtain ⟨hsound, hcalled⟩ := ih hstep hcall
      exact ⟨hsound, hcalled.trans hcapacity⟩
    cases s with
    | get key => exact hlater h
    | clear => exact hlater h
    | request r =>
      rcases List.mem_append.1 h with hnow | h
      · have hgrows := grows_of_mem_calls r c hnow
        exact ⟨hgrows.sound hc, hgrows.capacity⟩
      · exact hlater h

/-- A memo never holds more plans than it has room for, nor two for one key, and answers every
request as described, also those that compilations make. What it keeps, it keeps until it is
cleared. -/
theorem requests_answered (capacity : Nat) (steps : List Step) :
    (((empty capacity).after steps).size ≤ capacity ∧
      (((empty capacity).after steps).entries.map (·.1)).Nodup) ∧
    (∀ call ∈ (empty capacity).callsDuring steps, call.2.capacity = capacity ∧
      Answered call.1 call.2 (serve call.1 call.2).1 (serve call.1 call.2).2) ∧
    ∀ more, .clear ∉ more → ∀ key kept,
      ((empty capacity).after steps).get? key = some kept →
        ((empty capacity).after (steps ++ more)).get? key = some kept := by
  obtain ⟨hsound, hcapacity⟩ := sound_after (sound_empty capacity) steps
  refine ⟨⟨?_, hsound.nodup⟩, ?_, ?_⟩
  · have hsize := hsound.size_le
    rwa [hcapacity] at hsize
  · intro call hcall
    obtain ⟨hfound, hroom⟩ := sound_of_mem_callsDuring (sound_empty capacity) hcall
    exact ⟨hroom, answered_serve hfound call.1⟩
  · intro more hmore key kept hkept
    have hgrows :
        Grows ((empty capacity).after steps) ((empty capacity).after (steps ++ more)) := by
      rw [after, after, List.foldl_append]
      exact grows_after hmore
    exact hgrows.get? hkept

example (p q : Plan) :
    (serve (.mk "k" [.mk "k" [] (.ok p)] (.ok q)) (empty 1)).2.result = .ok ⟨0, p⟩ := rfl

end DerivedQuery.PlanCache
