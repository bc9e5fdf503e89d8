import BlockScript.Prediction.Network
import Std.Data.HashMap
import Std.Data.HashSet

/-!
Outlooks: the nodes at which a reader may be who tries the ways of a choice side by side, each with
what is left to do behind a production, a stack of places with the next one on top.
-/

namespace BlockScript.Prediction

structure Layer where
  /-- The places on top, in increasing order, with the layers below them. -/
  places : List (Nat × Nat)
  hasBottom : Bool
deriving BEq, Hashable, Inhabited

structure Pool where
  layers : Array Layer := #[⟨[], true⟩]
  numbers : Std.HashMap Layer Nat := {(⟨[], true⟩, 0)}
  /-- Unions that were worked out before. -/
  unions : Std.HashMap (Nat × Nat) Nat := {}
  /-- Whether anything may be below the bottom. -/
  isOpen : Bool

namespace Pool

def bottom : Nat := 0

def layer (p : Pool) (id : Nat) : Layer := p.layers.getD id default

def number (l : Layer) : StateM Pool Nat := fun ⟨layers, numbers, unions, isOpen⟩ =>
  match numbers[l]? with
  | some id => (id, ⟨layers, numbers, unions, isOpen⟩)
  | none =>
    let id := layers.size
    (id, ⟨layers.push l, numbers.insert l id, unions, isOpen⟩)

def push (place below : Nat) : StateM Pool Nat := number ⟨[(place, below)], false⟩

def mergePlaces (union : Nat → Nat → StateM Pool Nat) :
    List (Nat × Nat) → List (Nat × Nat) → StateM Pool (List (Nat × Nat))
  | [], ys => return ys
  | xs, [] => return xs
  | (a, below) :: xs, (b, other) :: ys => do
    if a < b then return (a, below) :: (← mergePlaces union xs ((b, other) :: ys))
    else if b < a then return (b, other) :: (← mergePlaces union ((a, below) :: xs) ys)
    else
      let both ← union below other
      return (a, both) :: (← mergePlaces union xs ys)
termination_by xs ys => xs.length + ys.length

def known? (a b : Nat) : StateM Pool (Option Nat) :=
  modifyGet fun p =>
    (if p.isOpen && (a == bottom || b == bottom) then some bottom else p.unions[(a, b)]?, p)

/-- The layer that has the stacks of two layers. -/
def union : Nat → Nat → Nat → StateM Pool Nat
  | 0, a, _ => return a
  | depth + 1, a, b => do
    if a == b then return a
    match ← known? a b with
    | some id => return id
    | none =>
      let (l, m) ← modifyGet fun p => ((p.layer a, p.layer b), p)
      let id ← number ⟨← mergePlaces (union depth) l.places m.places, l.hasBottom || m.hasBottom⟩
      modify fun p => { p with unions := p.unions.insert (a, b) id }
      return id

end Pool
structure Thread where
  node : Nat
  way : Nat
  pending : Nat
  /-- Whether the production of the choice was left. -/
  isOutside : Bool := false
  /-- Whether it was left by the end of a call without a floor. -/
  isFree : Bool := false
deriving BEq, Hashable, Inhabited

abbrev Outlook := Std.HashMap (Nat × Nat) Thread

structure View where
  network : Network
  choice : Nat
  /-- The floor of the production in which the choice is. -/
  floor : Nat
  /-- Whether all that is left to do is known. -/
  isExact : Bool

/-- A thread that is on its way, and how many productions it is in that were entered since the
choice. There is no such number once it has left a production that was not entered since. -/
structure Step where
  thread : Thread
  depth? : Option Nat
deriving BEq, Hashable

structure Spread where
  pool : Pool
  outlook : Outlook := {}
  seen : Std.HashSet Step := {}

def Step.to (step : Step) (target : Nat) : Step :=
  { step with thread := { step.thread with node := target } }

namespace Spread

def onPool (f : StateM Pool α) : StateM Spread α := fun ⟨pool, outlook, seen⟩ =>
  let (a, pool) := f.run pool
  (a, ⟨pool, outlook, seen⟩)

def meet (step : Step) : StateM Spread Bool := fun ⟨pool, outlook, seen⟩ =>
  let (wasSeen, seen) := seen.containsThenInsert step
  (wasSeen, ⟨pool, outlook, seen⟩)

def put (t : Thread) : StateM Spread Unit :=
  modify fun ⟨pool, outlook, seen⟩ => ⟨pool, outlook.insert (t.node, t.way) t, seen⟩

def arrive (t : Thread) : StateM Spread Unit := do
  match ← modifyGet fun s => (s.outlook[(t.node, t.way)]?, s) with
  | none => put t
  | some old =>
    let depth ← modifyGet fun s => (s.pool.layers.size + 1, s)
    put { old with
      pending := ← onPool (Pool.union depth old.pending t.pending)
      isOutside := old.isOutside || t.isOutside
      isFree := old.isFree || t.isFree }

/-- Whether a round of operators need not be tried, because the operand that ended here is itself
the last part of a round of the same operators, or of an alternative before them. -/
def isCovered (network : Network) (pool : Pool) (t : Thread) : Bool :=
  let here := network.node t.node
  match here.role with
  | .operators ending =>
    let top := pool.layer t.pending
    !top.hasBottom && top.places.all fun (place, _) =>
      let behind := network.node place
      behind.owner == here.owner &&
        match behind.arcs with
        | [.free target] =>
          target == ending ||
            ((network.node target).role == .join &&
              (network.node target).arcs.all (·.isFreeTo t.node))
        | _ => false
  | _ => false

def leave (view : View) (step : Step) : StateM Spread (List Step) := do
  let t := step.thread
  let depth? := step.depth?.bind fun d => if d = 0 then none else some (d - 1)
  let top ← modifyGet fun s => (s.pool.layer t.pending, s)
  if t.pending != Pool.bottom then
    if top.hasBottom then arrive { t with pending := Pool.bottom }
    return top.places.map fun (place, below) => ⟨{ t with node := place, pending := below }, depth?⟩
  else
    let owner := (view.network.node t.node).owner
    match view.isExact, view.network.returns.getD owner [] with
    | false, r :: rest =>
      let choice := view.network.node view.choice
      let isSame := choice.owner == owner && choice.role matches .operators _
      return (r :: rest).map fun r =>
        ⟨{ t with
            node := r.place
            isOutside := true
            isFree := t.isFree || (isSame && r.isOutermost) }, none⟩
    | _, _ =>
      arrive t
      return []

/-- Where an arc leads a thread without a token. -/
def along (view : View) (isEnd : Bool) (step : Step) : Arc → StateM Spread (List Step)
  | .free target => return [step.to target]
  | .call start behind _ => do
    let pending ← onPool (Pool.push behind step.thread.pending)
    return [⟨{ step.thread with node := start, pending }, step.depth?.map (· + 1)⟩]
  | .guard strength target =>
    if step.depth? == some 0 && strength < view.floor then return []
    else return [step.to target]
  | arc => return if isEnd then ((arc.take? .EOF).map step.to).toList else []

def alongAll (view : View) (isEnd : Bool) (step : Step) : List Arc → StateM Spread (List Step)
  | [] => return []
  | arc :: rest => do
    let next ← along view isEnd step arc
    return next ++ (← alongAll view isEnd step rest)

def next (view : View) (isEnd : Bool) (step : Step) : StateM Spread (List Step) := do
  let t := step.thread
  let here := view.network.node t.node
  if here.role == .final then leave view step
  else
    if here.arcs.any Arc.isToken then arrive t
    let isCovered ← modifyGet fun s => (isCovered view.network s.pool t, s)
    alongAll view isEnd step (if isCovered then here.arcs.tail else here.arcs)

def spread (view : View) (isEnd : Bool) : Nat → List Step → StateM Spread Unit
  | 0, _ | _, [] => return
  | steps + 1, step :: rest => do
    if ← meet step then spread view isEnd steps rest
    else
      let more ← next view isEnd step
      spread view isEnd steps (more ++ rest)

def granted : Nat := 100000000

end Spread

namespace Outlook

def threads (o : Outlook) : List Thread := o.toList.map (·.2)

def onlyWay? (o : Outlook) : Option Nat :=
  match o.threads with
  | [] => none
  | t :: rest => if rest.all (·.way == t.way) then some t.way else none

def waysBy [BEq κ] [Hashable κ] (key : Thread → κ) (o : Outlook) : List (List Nat) :=
  let table : Std.HashMap κ (List Nat) := o.fold (fun table _ t =>
    let ways := table.getD (key t) []
    if ways.contains t.way then table else table.insert (key t) (t.way :: ways)) {}
  table.toList.map (·.2)

def waysTogether (o : Outlook) : List (List Nat) := o.waysBy fun t => (t.node, t.pending)

def waysByNode (o : Outlook) : List (List Nat) := o.waysBy (·.node)

def allFinal (network : Network) (o : Outlook) : Bool :=
  o.threads.all fun t => (network.node t.node).role == .final

/-- Whether looking further will not tell the ways apart: some come together, and no node is reached
on one way only. -/
def isUndecided (network : Network) (o : Outlook) : Bool :=
  o.allFinal network ||
    (o.waysTogether.any (1 < ·.length) && o.waysByNode.all (1 < ·.length))

def wayOut? (network : Network) (o : Outlook) : Option Nat :=
  ((o.threads.filter fun t => t.isOutside || (network.node t.node).role == .final).map
    (·.way)).min?

end Outlook
end BlockScript.Prediction
