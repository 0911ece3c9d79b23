import DerivedQuery.Text.Search

/-!
Patterns with numbered groups, matched at the front of a text. Of all the ways in which a pattern
can match, the search takes the first one: an earlier alternative before a later one, and more text
or less text first, as a repetition is greedy or lazy.
-/

namespace DerivedQuery.Text

inductive Pattern where
  | oneOf (words : List (List Char))
  | one (test : Char → Bool)
  | many (greedy : Bool) (test : Char → Bool)
  | maybe (greedy : Bool) (p : Pattern)
  | seq (p q : Pattern)
  | group (number : Nat) (p : Pattern)
  | textEnd

/-- What the groups of a pattern matched, the latest one in front. -/
structure Groups where
  texts : List (Nat × List Char)

/-- The text of a group, empty when the group took no part. -/
def Groups.text (groups : Groups) (number : Nat) : List Char :=
  (groups.texts.lookup number).getD []

/-- What stands in `s` before its ending `rest`. -/
def taken (s rest : List Char) : List Char :=
  s.take (s.length - rest.length)

namespace Pattern

variable {β : Type}

/-- Tries `k` on what is left of the text after some of the characters that pass the test: first
after all of them when greedy, first after none of them when lazy. -/
def searchMany (greedy : Bool) (test : Char → Bool) (k : List Char → Option β) :
    List Char → Option β
  | [] => k []
  | c :: s =>
    if test c then
      if greedy then searchMany greedy test k s <|> k (c :: s)
      else k (c :: s) <|> searchMany greedy test k s
    else k (c :: s)

/-- Tries `k` on what each way to match leaves of the text, until it gives a result. -/
def search (p : Pattern) (s : List Char) (groups : Groups)
    (k : List Char → Groups → Option β) : Option β :=
  match p with
  | oneOf words => words.findSome? fun w => (dropInitial? w s).bind fun rest => k rest groups
  | one test =>
    match s with
    | [] => none
    | c :: rest => if test c then k rest groups else none
  | many greedy test => searchMany greedy test (fun rest => k rest groups) s
  | maybe greedy p =>
    if greedy then p.search s groups k <|> k s groups else k s groups <|> p.search s groups k
  | seq p q => p.search s groups fun rest groups => q.search rest groups k
  | group number p =>
    p.search s groups fun rest groups => k rest ⟨(number, taken s rest) :: groups.texts⟩
  | textEnd => if s = [] then k s groups else none

/-- The groups of the first match at the front of a text. -/
def atFront? (p : Pattern) (s : List Char) : Option Groups :=
  p.search s ⟨[]⟩ fun _ groups => some groups

end Pattern

end DerivedQuery.Text
