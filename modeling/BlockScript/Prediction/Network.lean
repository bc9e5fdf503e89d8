import BlockScript.Grammar

/-!
The grammar as a network. A node is a place in a production, an arc a way from it to another one.
-/

namespace BlockScript.Prediction
open Grammar

inductive Arc where
  /-- Goes on without a token. -/
  | free (target : Nat)
  | anyOf (kinds : List Terminal) (target : Nat)
  | noneOf (kinds : List Terminal) (target : Nat)
  /-- Enters a production, to go on behind it. -/
  | call (start behind floor : Nat)
  /-- Lets operators of a strength pass, if it is not below the floor. -/
  | guard (strength target : Nat)

namespace Arc

def take? (kind : Terminal) : Arc → Option Nat
  | anyOf kinds target => if kinds.contains kind then some target else none
  | noneOf kinds target => if kind != .EOF && !kinds.contains kind then some target else none
  | _ => none

def isToken : Arc → Bool
  | anyOf .. | noneOf .. => true
  | _ => false

def isFreeTo (target : Nat) : Arc → Bool
  | free t => t == target
  | _ => false

end Arc

inductive Role where
  | plain
  | choice
  /-- The choice between one more operator and none, with the node in which the operators end. -/
  | operators (ending : Nat)
  /-- The end of the alternatives of a choice. -/
  | join
  /-- The end of a production. -/
  | final
deriving DecidableEq

structure Node where
  /-- The number of the nonterminal. -/
  owner : Nat
  role : Role := .plain
  arcs : List Arc := []

structure Return where
  place : Nat
  isOutermost : Bool

structure Network where
  nodes : Array Node := #[]
  /-- The places behind the calls of each nonterminal. -/
  returns : Array (List Return) := #[]

namespace Network

def node (n : Network) (id : Nat) : Node := n.nodes.getD id { owner := 0 }

def startOf (kind : Nonterminal) : Nat := 2 * kind.ctorIdx

def finalOf (kind : Nonterminal) : Nat := 2 * kind.ctorIdx + 1

abbrev Builder := StateM Network

def add (node : Node) : Builder Nat :=
  modifyGet fun n => (n.nodes.size, { n with nodes := n.nodes.push node })

def put (id : Nat) (node : Node) : Builder Unit :=
  modify fun n => { n with nodes := n.nodes.setIfInBounds id node }

def addReturn (kind : Nonterminal) (r : Return) : Builder Unit :=
  modify fun n => { n with returns := n.returns.modify kind.ctorIdx (r :: ·) }

def parting (owner : Nat) : List Nat → Builder Nat
  | [entry] => return entry
  | entries => add { owner, role := .choice, arcs := entries.map .free }

/-- Adds the nodes of a phrase that ends in a node. -/
def addPhrase (owner : Nat) : Phrase → (apart : Bool) → Nat → Builder (List Nat)
  | .empty, _, ending => return [ending]
  | .anyOf kinds, _, ending => return [← add { owner, arcs := [.anyOf kinds ending] }]
  | .noneOf kinds, _, ending => return [← add { owner, arcs := [.noneOf kinds ending] }]
  | .operand kind floor, _, ending => do
    let behind ← add { owner, arcs := [.free ending] }
    addReturn kind ⟨behind, floor == 0⟩
    return [← add { owner, arcs := [.call (startOf kind) behind floor] }]
  | .seq p q, _, ending => do
    match ← addPhrase owner q false ending with
    | [middle] => addPhrase owner p false middle
    | _ => return []
  | .alt p q, apart, ending => do
    let join ← if apart then pure ending else add { owner, role := .join, arcs := [.free ending] }
    let first ← addPhrase owner p true join
    let entries := first ++ (← addPhrase owner q false join)
    if apart then return entries else return [← parting owner entries]
  | .opt p, _, ending => do
    let join ← add { owner, role := .join, arcs := [.free ending] }
    let entries ← addPhrase owner p true join
    return [← parting owner (entries ++ [join])]
  | .star p, _, ending => do
    let loop ← add { owner }
    let join ← add { owner, role := .join, arcs := [.free loop] }
    let round ← parting owner (← addPhrase owner p true join)
    put loop { owner, role := .choice, arcs := [.free round, .free ending] }
    return [loop]
  | .plus p, _, ending => do
    let again ← add { owner }
    let join ← add { owner, role := .join, arcs := [.free again] }
    let round ← parting owner (← addPhrase owner p true join)
    put again { owner, role := .choice, arcs := [.free round, .free ending] }
    return [round]

def addOperators (owner ending : Nat) : List Grammar.Operator → Builder (List Nat)
  | [] => return []
  | o :: rest => do
    let entries ← addPhrase owner o.phrase false ending
    let guards ← entries.mapM fun entry => add { owner, arcs := [.guard o.strength entry] }
    return guards ++ (← addOperators owner ending rest)

def addProduction (kind : Nonterminal) : Builder Unit := do
  let owner := kind.ctorIdx
  let entries ← match production kind with
    | .plain phrase => addPhrase owner phrase false (finalOf kind)
    | .climbing operand operators => do
      let loop ← add { owner }
      let join ← add { owner, role := .join, arcs := [.free loop] }
      let round ← parting owner (← addOperators owner join operators)
      put loop { owner, role := .operators join, arcs := [.free round, .free (finalOf kind)] }
      addPhrase owner operand false loop
  put (startOf kind) { owner, arcs := entries.map .free }

def whole : Network :=
  let ends := Nonterminal.all.toArray.flatMap fun kind =>
    #[{ owner := kind.ctorIdx }, { owner := kind.ctorIdx, role := .final }]
  let bare : Network := { nodes := ends, returns := Array.replicate Nonterminal.all.length [] }
  ((Nonterminal.all.forM addProduction).run bare).2

end Network
end BlockScript.Prediction
