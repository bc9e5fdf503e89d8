import BlockScript.Prediction
import BlockScript.Tree

/-!
Parsing by ordered choice among all readings. A `Parse` says what a phrase matches from one place of
a token sequence on: the places where a match may end, and, for a set of ends that would do, the
first reading that has one of them.
-/

namespace BlockScript

abbrev Forest := List (Tree Nat)

structure Parse where
  /-- In increasing order. -/
  ends : List Nat
  choose : List Nat → Forest × Nat

namespace Parse

instance : Inhabited Parse := ⟨[], fun _ => ([], 0)⟩

def merge : List Nat → List Nat → List Nat
  | [], ys => ys
  | xs, [] => xs
  | x :: xs, y :: ys =>
    if x < y then x :: merge xs (y :: ys)
    else if y < x then y :: merge (x :: xs) ys
    else x :: merge xs ys
termination_by xs ys => xs.length + ys.length

def meets (xs goal : List Nat) : Bool := xs.any goal.contains

def empty (i : Nat) : Parse := ⟨[i], fun _ => ([], i)⟩

def failure (i : Nat) : Parse := ⟨[], fun _ => ([], i)⟩

def token (kinds : Array Terminal) (accepts : Terminal → Bool) (i : Nat) : Parse :=
  if (kinds[i]?).any accepts then ⟨[i + 1], fun _ => ([.leaf i], i + 1)⟩ else failure i

def orElse (p q : Parse) : Parse where
  ends := merge p.ends q.ends
  choose goal := if meets p.ends goal then p.choose goal else q.choose goal

def andThen (p : Parse) (next : Nat → Parse) : Parse :=
  let tails := p.ends.map fun i => (i, next i)
  { ends := tails.foldl (fun acc t => merge acc t.2.ends) []
    choose := fun goal =>
      let (front, i) := p.choose ((tails.filter fun t => meets t.2.ends goal).map (·.1))
      match tails.lookup i with
      | none => (front, i)
      | some tail =>
        let (back, j) := tail.choose goal
        (front ++ back, j) }

/-- The places reached from `pending` by repeating `step`, each with the step taken from it. -/
def rounds (step : Nat → Parse) : Nat → List Nat → List (Nat × Parse)
  | 0, _ | _, [] => []
  | bound + 1, i :: pending =>
    let here := step i
    (i, here) :: rounds step bound (merge pending (here.ends.filter (i < ·)))

def promising (reached : List (Nat × Parse)) (goal : List Nat) : List Nat :=
  reached.foldr (fun (i, here) later =>
    if goal.contains i || meets here.ends later then i :: later else later) []

def follow (join : Forest → Forest → Forest) (good : List Nat) :
    List (Nat × Parse) → Forest × Nat → Forest × Nat
  | [], state => state
  | (i, here) :: later, (forest, j) =>
    if i = j then
      let onward := here.ends.filter good.contains
      if onward.isEmpty then (forest, j)
      else
        let (more, k) := here.choose onward
        follow join good later (join forest more, k)
    else follow join good later (forest, j)

def many (step : Nat → Parse) (bound i : Nat) : Parse :=
  let reached := rounds step bound [i]
  { ends := reached.map (·.1)
    choose := fun goal => follow (· ++ ·) (promising reached goal) reached ([], i) }

/-- An operand and what operators make of it. -/
def climb (kind : Nonterminal) (operand : Parse) (step : Nat → Parse) (bound : Nat) : Parse :=
  let reached := rounds step bound operand.ends
  { ends := reached.map (·.1)
    choose := fun goal =>
      let good := promising reached goal
      let (forest, i) := operand.choose (operand.ends.filter good.contains)
      follow (fun left more => [.node kind (left ++ more)]) good reached
        ([.node kind forest], i) }

def wrap (kind : Nonterminal) (p : Parse) : Parse :=
  { p with choose := fun goal =>
      let (forest, i) := p.choose goal
      ([.node kind forest], i) }

end Parse

namespace Grammar

abbrev Lookup := Nat → Nonterminal → Nat → Parse

def Phrase.parse (kinds : Array Terminal) (lookup : Lookup) : Phrase → Nat → Parse
  | .empty, i => .empty i
  | .anyOf allowed, i => .token kinds allowed.contains i
  | .noneOf refused, i => .token kinds (fun k => k != .EOF && !refused.contains k) i
  | .operand nonterminal floor, i => lookup i nonterminal floor
  | .seq p q, i => (p.parse kinds lookup i).andThen (q.parse kinds lookup)
  | .alt p q, i => (p.parse kinds lookup i).orElse (q.parse kinds lookup i)
  | .opt p, i => (p.parse kinds lookup i).orElse (.empty i)
  | .star p, i => .many (p.parse kinds lookup) (kinds.size + 1) i
  | .plus p, i => (p.parse kinds lookup i).andThen (.many (p.parse kinds lookup) (kinds.size + 1))

def Production.parse (kinds : Array Terminal) (lookup : Lookup) (kind : Nonterminal)
    (floor i : Nat) : Production → Parse
  | .plain phrase => (phrase.parse kinds lookup i).wrap kind
  | .climbing operand operators =>
    let usable := operators.filter (floor ≤ ·.strength)
    let step j := usable.foldr (fun o p => (o.phrase.parse kinds lookup j).orElse p) (.failure j)
    .climb kind (operand.parse kinds lookup i) step (kinds.size + 1)

end Grammar

namespace Chart
open Grammar

abbrev Row := Array (Array (Thunk Parse))

def Row.get (row : Row) (i : Nat) (kind : Nonterminal) (floor : Nat) : Parse :=
  match row[kind.ctorIdx]? with
  | none => .failure i
  | some cell =>
    match cell[floor]? with
    | none => .failure i
    | some parse => parse.get

abbrev Later := Array Row

def lookup (i : Nat) (here : Row) (last : Nat) (later : Later) : Lookup := fun j kind floor =>
  if j = i then here.get j kind floor
  else
    match later[last - j]? with
    | none => .failure j
    | some row => row.get j kind floor

def byLevel : List (List Nonterminal) :=
  (List.range Nonterminal.levels).map fun n => Nonterminal.all.filter (·.level == n)

def row (kinds : Array Terminal) (i last : Nat) (later : Later) : Row :=
  byLevel.foldl
    (fun below group =>
      group.foldl
        (fun filled kind =>
          let production := Grammar.production kind
          filled.setIfInBounds kind.ctorIdx
            ((Array.range production.floors).map fun floor =>
              Thunk.mk fun _ =>
                production.parse kinds (lookup i below last later) kind floor i))
        below)
    (Array.replicate Nonterminal.all.length #[])

def rows (kinds : Array Terminal) (last : Nat) : Nat → Later
  | 0 => #[]
  | count + 1 =>
    let later := rows kinds last count
    later.push (row kinds (last - count) last later)

def start (kinds : Array Terminal) (kind : Nonterminal) : Parse :=
  match (rows kinds kinds.size (kinds.size + 1)).back? with
  | none => .failure 0
  | some row => row.get 0 kind 0

end Chart

/-- Why a token sequence is no script: the number of the token at which a reader that decides by
looking ahead gives up. -/
structure Unexpected where
  index : Nat

/-- Reads the kinds of the tokens of a script as a tree of token numbers. -/
def parse (kinds : Array Terminal) : Except Unexpected (Tree Nat) :=
  let all := kinds.push .EOF
  let reading := Chart.start all .sqlScript
  if reading.ends.contains all.size then
    match reading.choose [all.size] with
    | ([tree], _) => .ok tree
    | _ => .error ⟨kinds.size⟩
  else .error ⟨min ((Prediction.stuckAt? all .sqlScript).getD kinds.size) kinds.size⟩

end BlockScript
