import BlockScript.Nonterminal

/-!
Parse trees. The leaves are of any type: a parser that sees only the kinds of tokens builds a tree
of token numbers, which becomes a tree of tokens by `map`.
-/

namespace BlockScript

inductive Tree (α : Type) where
  | leaf (value : α)
  | node (kind : Nonterminal) (children : List (Tree α))
deriving Inhabited

namespace Tree

mutual
def map (f : α → β) : Tree α → Tree β
  | .leaf a => .leaf (f a)
  | .node kind children => .node kind (mapAll f children)

def mapAll (f : α → β) : List (Tree α) → List (Tree β)
  | [] => []
  | t :: rest => map f t :: mapAll f rest
end

mutual
def leaves : Tree α → List α
  | .leaf a => [a]
  | .node _ children => leavesAll children

def leavesAll : List (Tree α) → List α
  | [] => []
  | t :: rest => leaves t ++ leavesAll rest
end

def children : Tree α → List (Tree α)
  | .leaf _ => []
  | .node _ children => children

def kind? : Tree α → Option Nonterminal
  | .leaf _ => none
  | .node kind _ => some kind

end Tree
end BlockScript
