import DerivedQuery.Example.Trades
import DerivedQuery.Proofs.Compile
import DerivedQuery.Proofs.Numeral
import DerivedQuery.Proofs.Readable
import DerivedQuery.Proofs.SelfDelimiting

/-!
What the text of a condition gives away. Where columns have plain names, the text is that of one
list of groups only: it shows where each comparison ends, which column it compares, by which
operator and whether in lower case. Patterns alone look alike, since only their bound values differ.
-/

namespace DerivedQuery

/-- The operator as a comparison shows it: patterns differ in their bound values only. -/
def Operator.written : Operator → Operator
  | .startingWith | .endingWith | .containing => .like
  | .notContaining => .notLike
  | op => op

namespace Sql

open Text

/-- What stands around the column of a comparison and the number of its tag. -/
structure Frame where
  /-- The calls that are open before the column. -/
  calls : List (List Char)
  /-- The characters behind the column, up to the number. -/
  mark : List Char
  /-- The characters behind the number, where the tag is shown. -/
  closing : Option (List Char)
  deriving DecidableEq

namespace Frame

def tail (f : Frame) (tag : Nat) : List Char :=
  match f.closing with
  | some closing => numeral tag ++ closing
  | none => []

def binary (mark : String) : Frame := ⟨[], mark.toList, some []⟩

def constant (mark : String) : Frame := ⟨[], mark.toList, none⟩

def plain : Operator → Frame
  | .equals => binary "="
  | .differs => binary "<>"
  | .less => binary "<"
  | .lessEqual => binary "<="
  | .greater => binary ">"
  | .greaterEqual => binary ">="
  | .like | .startingWith | .endingWith | .containing => binary " LIKE "
  | .notLike | .notContaining => binary " NOT LIKE "
  | .isIn => ⟨[], " IN UNNEST(".toList, some [')']⟩
  | .notIn => ⟨[], " NOT IN UNNEST(".toList, some [')']⟩
  | .regex => ⟨["REGEXP_CONTAINS".toList], [','], some [')']⟩
  | .isNull => constant "=NULL"
  | .isNotNull => constant "<>NULL"
  | .isTrue => constant "=TRUE"
  | .isFalse => constant "=FALSE"
  | _ => ⟨[], [], none⟩

/-- The frame of an operator, with both sides in lower case if `fold` is set. -/
def of (op : Operator) (fold : Bool) : Frame :=
  let f := plain op
  if fold then
    { calls := f.calls ++ ["LOWER".toList]
      mark := ')' :: f.mark ++ if f.closing.isSome then "LOWER(@tag".toList else []
      closing := f.closing.map (')' :: ·) }
  else
    { f with mark := f.mark ++ if f.closing.isSome then "@tag".toList else [] }

end Frame

end Sql

open Text Sql

theorem Leaf.toList_text {l : Leaf} (h : l.operator.isSupported = true) :
    l.text.toList = calls (Frame.of l.operator l.fold).calls ++
      (l.column.toList ++ ((Frame.of l.operator l.fold).mark ++
        (Frame.of l.operator l.fold).tail l.tag)) := by
  obtain ⟨tag, op, column, fold⟩ := l
  cases op <;> cases h <;> cases fold <;>
    simp [Leaf.text, Leaf.sides, Operator.comparison?, Sql.lower, toList_reference, Frame.of,
      Frame.plain, Frame.binary, Frame.constant, Frame.tail, calls]

namespace Sql.Frame

theorem isName_of_mem_calls (op : Operator) (fold : Bool) : ∀ f ∈ (of op fold).calls, IsName f := by
  cases op <;> cases fold <;> simp [of, plain, binary, constant, IsName] <;> decide

theorem endsName_mark {op : Operator} (h : op.isSupported = true) (fold : Bool) (s : List Char) :
    EndsName ((of op fold).mark ++ s) := by
  cases op <;> cases h <;> cases fold <;> exact ⟨_, _, rfl, by decide, by decide⟩

theorem endsNumeral_closing {op : Operator} {fold : Bool} {closing : List Char}
    (h : (of op fold).closing = some closing) : EndsNumeral closing := by
  cases op <;> cases fold <;> cases h <;> decide

/-- Of two marks after the same calls, one begins with the other only if they are the same. -/
theorem written_of_prefix {op op' : Operator} {fold fold' : Bool} (h : op.isSupported = true)
    (h' : op'.isSupported = true) (hcalls : (of op fold).calls = (of op' fold').calls)
    (hmark : (of op fold).mark <+: (of op' fold').mark) :
    op.written = op'.written ∧ fold = fold' := by
  have hall : ∀ op ∈ Operator.all.filter (·.isSupported),
      ∀ op' ∈ Operator.all.filter (·.isSupported),
      (of op fold).calls = (of op' fold').calls → (of op fold).mark <+: (of op' fold').mark →
        op.written = op'.written ∧ fold = fold' := by
    cases fold <;> cases fold' <;> decide +kernel
  exact hall op (List.mem_filter.2 ⟨op.mem_all, h⟩) op' (List.mem_filter.2 ⟨op'.mem_all, h'⟩)
    hcalls hmark

/-- The frame shows only what is written. -/
theorem of_written (op : Operator) (fold : Bool) : of op.written fold = of op fold := by
  cases op <;> rfl

theorem tail_append_inj {op : Operator} {fold : Bool} {tag tag' : Nat} {s t : List Char}
    (hs : EndsNumeral s) (ht : EndsNumeral t)
    (h : (of op fold).tail tag ++ s = (of op fold).tail tag' ++ t) : s = t := by
  unfold tail at h
  split at h
  · next closing hclosing =>
    have hends := endsNumeral_closing hclosing
    rw [List.append_assoc, List.append_assoc] at h
    have hspan := congrArg spanDigits h
    rw [spanDigits_numeral_append tag (hends.append hs),
      spanDigits_numeral_append tag' (hends.append ht)] at hspan
    exact List.append_cancel_left (Prod.mk.inj hspan).2
  · exact h

end Sql.Frame

/-- What a comparison shows: its column, the operator as it is written, and whether both sides are
in lower case. -/
structure Comparison where
  column : String
  operator : Operator
  fold : Bool
  deriving DecidableEq, Repr

def Leaf.comparison (l : Leaf) : Comparison := ⟨l.column, l.operator.written, l.fold⟩

/-- A leaf that a plan has for an entity with plain names. -/
structure Leaf.Plain (l : Leaf) : Prop where
  supported : l.operator.isSupported = true
  name : IsName l.column.toList

theorem Leaf.selfDelimiting :
    SelfDelimiting (fun l : Leaf => l.text.toList) comparison Plain EndsNumeral := by
  rintro l l' ⟨h, hname⟩ ⟨h', hname'⟩ s t hs ht heq
  simp only [toList_text h, toList_text h', List.append_assoc] at heq
  obtain ⟨hcalls, hcolumn, hrest⟩ := calls_append_inj (Frame.isName_of_mem_calls _ _)
    (Frame.isName_of_mem_calls _ _) hname hname' (Frame.endsName_mark h _ _)
    (Frame.endsName_mark h' _ _) heq
  have hwritten : l.operator.written = l'.operator.written ∧ l.fold = l'.fold := by
    -- both marks begin the same text, so one of them begins with the other
    rcases List.prefix_or_prefix_of_prefix (List.prefix_append _ _) ⟨_, hrest.symm⟩
      with hmark | hmark
    · exact Frame.written_of_prefix h h' hcalls hmark
    · obtain ⟨hop, hfold⟩ := Frame.written_of_prefix h' h hcalls.symm hmark
      exact ⟨hop.symm, hfold.symm⟩
  obtain ⟨hop, hfold⟩ := hwritten
  have hframe : Frame.of l'.operator l'.fold = Frame.of l.operator l.fold := by
    rw [← Frame.of_written l.operator, hop, hfold, Frame.of_written]
  rw [hframe] at hrest
  refine ⟨?_, Frame.tail_append_inj hs ht (List.append_cancel_left hrest)⟩
  rw [comparison, comparison, String.toList_injective hcolumn, hop, hfold]

/-- A comparison with the value bound to a tag. -/
def Comparison.text (c : Comparison) (tag : Nat) : String :=
  Leaf.text ⟨tag, c.operator, c.column, c.fold⟩

theorem Leaf.text_comparison (l : Leaf) : l.comparison.text l.tag = l.text := by
  obtain ⟨tag, op, column, fold⟩ := l
  cases op <;> rfl

/-- A group of a plan, which has at least one leaf. -/
structure PlainGroup (g : List Leaf) : Prop where
  ne_nil : g ≠ []
  leaves : ∀ l ∈ g, l.Plain

theorem toList_group (g : List Leaf) :
    (Sql.group (g.map Leaf.text)).toList =
      ['(', ' '] ++
        ([' ', 'A', 'N', 'D', ' '].intercalate (g.map (·.text.toList)) ++ [' ', ')']) := by
  simp [Sql.group, String.toList_intercalate, Function.comp_def]

theorem toList_condition (gs : List (List Leaf)) :
    (Sql.condition (gs.map (·.map Leaf.text))).toList =
      [' ', 'O', 'R', ' '].intercalate (gs.map fun g => (Sql.group (g.map Leaf.text)).toList) := by
  simp [Sql.condition, String.toList_intercalate, Function.comp_def]

/-- A group is closed by its parenthesis, whatever follows. -/
theorem selfDelimiting_group :
    SelfDelimiting (fun g : List Leaf => (Sql.group (g.map Leaf.text)).toList)
      (·.map Leaf.comparison) PlainGroup fun _ => True := by
  intro g g' hg hg' s t _ _ h
  simp only [toList_group, List.append_assoc] at h
  have hends : ∀ u, EndsNumeral ([' ', ')'] ++ u) := fun u => by simp [EndsNumeral, isDigit]
  have hnot : ∀ u, ¬[' ', 'A', 'N', 'D', ' '] <+: [' ', ')'] ++ u := fun u => by simp
  obtain ⟨hcomparisons, hrest⟩ := Leaf.selfDelimiting.intercalate_inj
    (fun u => by simp [EndsNumeral, isDigit]) hg.leaves hg'.leaves hg.ne_nil hg'.ne_nil (hends s)
    (hends t) (hnot s) (hnot t) (List.append_cancel_left h)
  exact ⟨hcomparisons, List.append_cancel_left hrest⟩

theorem comparisons_eq_of_condition_eq {gs gs' : List (List Leaf)} (hgs : ∀ g ∈ gs, PlainGroup g)
    (hgs' : ∀ g ∈ gs', PlainGroup g) (hne : gs ≠ []) (hne' : gs' ≠ [])
    (h : Sql.condition (gs.map (·.map Leaf.text)) = Sql.condition (gs'.map (·.map Leaf.text))) :
    gs.map (·.map Leaf.comparison) = gs'.map (·.map Leaf.comparison) := by
  have htext := congrArg String.toList h
  rw [toList_condition, toList_condition] at htext
  have hnot : ¬[' ', 'O', 'R', ' '] <+: ([] : List Char) := by simp
  exact (selfDelimiting_group.intercalate_inj (fun _ => trivial) hgs hgs' hne hne' trivial trivial
    hnot hnot (congrArg (· ++ []) htext)).1

/-- The comparison that a condition comes to for an entity; its tag plays no part. -/
def Entity.comparison (entity : Entity) (c : Condition) : Except QueryError Comparison :=
  (Plan.leaf entity 0 c).map Leaf.comparison

/-- The comparisons that a query comes to, group by group. -/
def QueryName.comparisons (query : QueryName) (entity : Entity) :
    Except QueryError (List (List Comparison)) :=
  query.groups.mapM (·.mapM entity.comparison)

namespace Plan

variable {entity : Entity} {query : QueryName} {parameters : List ParameterType}
  {shape : ResultShape} {p : Plan}

def comparisons (p : Plan) : List (List Comparison) := p.groups.map (·.map Leaf.comparison)

theorem comparison_of_leaf {tag : Nat} {c : Condition} {l : Leaf} (h : leaf entity tag c = .ok l) :
    entity.comparison c = .ok l.comparison := by
  unfold Entity.comparison leaf
  unfold leaf at h
  cases hresolve : entity.resolve c.path with
  | error fault => simp [hresolve] at h
  | ok column =>
    simp only [hresolve, Except.ok.injEq] at h
    rw [← h]
    rfl

theorem comparisons_of_leafGroup {tag : Nat} {cs : List Condition} {ls : List Leaf}
    (h : leafGroup entity tag cs = .ok ls) :
    cs.mapM entity.comparison = .ok (ls.map Leaf.comparison) := by
  rw [Fallible.mapM_eq_ok_iff, List.forall₂_map_right_iff]
  induction cs generalizing tag ls with
  | nil => cases h; exact .nil
  | cons c cs ih =>
    obtain ⟨l, ls', hl, hls, rfl⟩ := exists_of_leafGroup_cons h
    exact .cons (comparison_of_leaf hl) (ih hls)

theorem comparisons_of_leafGroups {tag : Nat} {gs : List (List Condition)} {ls : List (List Leaf)}
    (h : leafGroups entity tag gs = .ok ls) :
    gs.mapM (·.mapM entity.comparison) = .ok (ls.map (·.map Leaf.comparison)) := by
  rw [Fallible.mapM_eq_ok_iff, List.forall₂_map_right_iff]
  induction gs generalizing tag ls with
  | nil => cases h; exact .nil
  | cons g gs ih =>
    obtain ⟨l, hl, h⟩ := Fallible.bind_eq_ok_iff.1 h
    obtain ⟨ls', hls, h⟩ := Fallible.bind_eq_ok_iff.1 h
    cases h
    exact .cons (comparisons_of_leafGroup hl) (ih hls)

theorem CompiledFrom.comparisons (h : CompiledFrom entity query parameters shape p) :
    query.comparisons entity = .ok p.comparisons := comparisons_of_leafGroups h.groups

theorem CompiledFrom.plainGroup (h : CompiledFrom entity query parameters shape p)
    (hnames : ∀ c ∈ entity.columns, IsName c.name.toList) (hgroups : ∀ g ∈ query.groups, g ≠ []) :
    ∀ g ∈ p.groups, PlainGroup g := by
  intro g hg
  refine ⟨h.ne_nil_of_mem_groups hgroups g hg, fun l hl => ?_⟩
  have hmem : l ∈ p.leaves := List.mem_flatten.2 ⟨g, hg, hl⟩
  obtain ⟨column, hcolumn, hname⟩ := h.exists_column l hmem
  exact ⟨h.supported l hmem, hname ▸ hnames column hcolumn⟩

end Plan

theorem map_text_eq (ls : List Leaf) :
    ls.map Leaf.text = List.zipWith Comparison.text (ls.map Leaf.comparison) (ls.map (·.tag)) := by
  simp only [List.zipWith_map, List.zipWith_self, Leaf.text_comparison]

/-- Comparisons in groups make up the text once their tags are known. -/
theorem texts_eq_of_comparisons_eq {gs gs' : List (List Leaf)}
    (h : gs.map (·.map Leaf.comparison) = gs'.map (·.map Leaf.comparison))
    (htags : gs.flatten.map (·.tag) = gs'.flatten.map (·.tag)) :
    gs.map (·.map Leaf.text) = gs'.map (·.map Leaf.text) := by
  rw [List.eq_iff_flatten_eq] at h ⊢
  obtain ⟨hflat, hlengths⟩ := h
  constructor
  · rw [← List.map_flatten, ← List.map_flatten] at hflat ⊢
    rw [map_text_eq, map_text_eq, hflat, htags]
  · simpa [Function.comp_def] using hlengths

theorem Plan.comparisons_eq_of_condition_eq {p p' : Plan} (hp : ∀ g ∈ p.groups, PlainGroup g)
    (hp' : ∀ g ∈ p'.groups, PlainGroup g) (h : p.condition = p'.condition) :
    p.comparisons = p'.comparisons := by
  unfold condition at h
  unfold comparisons
  cases hgs : p.groups with
  | nil =>
    cases hgs' : p'.groups with
    | nil => rfl
    | cons g' gs' => simp [hgs, hgs'] at h
  | cons g gs =>
    cases hgs' : p'.groups with
    | nil => simp [hgs, hgs'] at h
    | cons g' gs' =>
      rw [hgs] at hp h
      rw [hgs'] at hp' h
      exact DerivedQuery.comparisons_eq_of_condition_eq hp hp' (by simp) (by simp)
        (by simpa using h)

theorem Plan.condition_eq_of_comparisons_eq {p p' : Plan}
    (htags : p.leaves.map (·.tag) = List.range p.leaves.length)
    (htags' : p'.leaves.map (·.tag) = List.range p'.leaves.length)
    (h : p.comparisons = p'.comparisons) : p.condition = p'.condition := by
  have hlength : p.leaves.length = p'.leaves.length := by
    have hflat := congrArg (·.flatten.length) h
    simpa [comparisons, leaves, ← List.map_flatten] using hflat
  have hempty : p.groups.isEmpty = p'.groups.isEmpty := by
    have hgroups := congrArg List.isEmpty h
    simpa only [comparisons, List.isEmpty_map] using hgroups
  have htexts := texts_eq_of_comparisons_eq h (by rw [← leaves, ← leaves, htags, htags', hlength])
  rw [condition, condition, hempty, htexts]

/-- Two names have one condition for an entity with plain column names exactly if they come to the
same comparisons in the same groups: the same columns, the same folding, and the same operators up
to the patterns, which are written alike. -/
theorem QueryName.condition_eq_iff_comparisons_eq (entity : Entity)
    (hnames : ∀ c ∈ entity.columns, IsName c.name.toList) {name name' : String}
    {query query' : QueryName} (hquery : parse name = .ok query)
    (hquery' : parse name' = .ok query') {parameters parameters' : List ParameterType}
    {shape shape' : ResultShape} {p p' : Plan}
    (hp : Plan.compile entity query parameters shape = .ok p)
    (hp' : Plan.compile entity query' parameters' shape' = .ok p') :
    p.condition = p'.condition ↔
      ∃ groups, query.comparisons entity = .ok groups ∧ query'.comparisons entity = .ok groups := by
  have hfrom := Plan.compiledFrom_of_compile hp
  have hfrom' := Plan.compiledFrom_of_compile hp'
  rw [hfrom.comparisons, hfrom'.comparisons]
  constructor
  · intro h
    have hgroups := hfrom.plainGroup hnames (ne_nil_of_mem_groups hquery)
    have hgroups' := hfrom'.plainGroup hnames (ne_nil_of_mem_groups hquery')
    exact ⟨_, rfl, congrArg _ (Plan.comparisons_eq_of_condition_eq hgroups hgroups' h).symm⟩
  · rintro ⟨groups, hgroups, hgroups'⟩
    refine Plan.condition_eq_of_comparisons_eq hfrom.tags hfrom'.tags ?_
    exact (Except.ok.inj hgroups).trans (Except.ok.inj hgroups').symm

namespace Example

def comparisonsOf (name : String) : Except QueryError (List (List Comparison)) := do
  let query ← QueryName.parse name
  let _ ← Plan.compile trades query [.string] .many
  query.comparisons trades

def orUnpriced : List (List Comparison) :=
  [[⟨"action", .like, false⟩], [⟨"price", .isNull, false⟩]]

def andUnpriced : List (List Comparison) :=
  [[⟨"action", .like, false⟩, ⟨"price", .isNull, false⟩]]

/-- The two kinds of pattern are told apart by their bindings only, and `And` from `Or` by the
text. -/
theorem condition_like_eq_condition_containing :
    ∃ query query' query'' p p' p'', QueryName.parse "findByActionLikeOrPriceIsNull" = .ok query ∧
      QueryName.parse "readByActionContainingOrPriceIsNull" = .ok query' ∧
      QueryName.parse "findByActionLikeAndPriceIsNull" = .ok query'' ∧
      Plan.compile trades query [.string] .many = .ok p ∧
      Plan.compile trades query' [.string] .many = .ok p' ∧
      Plan.compile trades query'' [.string] .many = .ok p'' ∧ query ≠ query' ∧
      p.condition = p'.condition ∧ p.condition ≠ p''.condition := by
  have hlike : comparisonsOf "findByActionLikeOrPriceIsNull" = .ok orUnpriced :=
    Fallible.eq_ok_of_toOption (by decide +kernel)
  have hcontaining : comparisonsOf "readByActionContainingOrPriceIsNull" = .ok orUnpriced :=
    Fallible.eq_ok_of_toOption (by decide +kernel)
  have hjoint : comparisonsOf "findByActionLikeAndPriceIsNull" = .ok andUnpriced :=
    Fallible.eq_ok_of_toOption (by decide +kernel)
  obtain ⟨query, hquery, hlike⟩ := Fallible.bind_eq_ok_iff.1 hlike
  obtain ⟨p, hp, hgroups⟩ := Fallible.bind_eq_ok_iff.1 hlike
  obtain ⟨query', hquery', hcontaining⟩ := Fallible.bind_eq_ok_iff.1 hcontaining
  obtain ⟨p', hp', hgroups'⟩ := Fallible.bind_eq_ok_iff.1 hcontaining
  obtain ⟨query'', hquery'', hjoint⟩ := Fallible.bind_eq_ok_iff.1 hjoint
  obtain ⟨p'', hp'', hgroups''⟩ := Fallible.bind_eq_ok_iff.1 hjoint
  have hplain : ∀ c ∈ trades.columns, IsName c.name.toList := by decide
  have hne : query ≠ query' := by
    rintro rfl
    have htexts := (QueryName.text_of_parse hquery).symm.trans (QueryName.text_of_parse hquery')
    revert htexts
    decide
  have hdiffers : p.condition ≠ p''.condition := by
    intro heq
    obtain ⟨groups, hor, hand⟩ :=
      (QueryName.condition_eq_iff_comparisons_eq trades hplain hquery hquery'' hp hp'').1 heq
    have hsame : orUnpriced = andUnpriced :=
      (Except.ok.inj (hgroups.symm.trans hor)).trans (Except.ok.inj (hand.symm.trans hgroups''))
    revert hsame
    decide
  exact ⟨query, query', query'', p, p', p'', hquery, hquery', hquery'', hp, hp', hp'', hne,
    (QueryName.condition_eq_iff_comparisons_eq trades hplain hquery hquery' hp hp').2
      ⟨orUnpriced, hgroups, hgroups'⟩, hdiffers⟩

end Example

end DerivedQuery
