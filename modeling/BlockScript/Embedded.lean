import BlockScript.Compile.Reject
import BlockScript.Text.Slice
import BlockScript.Token
import BlockScript.Tree

/-!
Queries embedded in code. The text of a query is kept, except that each reference to a name that the
code declares becomes a placeholder for its value.
-/

namespace BlockScript

namespace Tree

def text (t : Tree Token) : String := String.join (t.leaves.map (·.text))

def capitals (t : Tree Token) : String := t.text.toUpper

def firstToken? (t : Tree Token) : Option Token := t.leaves.head?

def lastToken? (t : Tree Token) : Option Token := t.leaves.getLast?

end Tree

namespace Reference

def placeholder (r : Reference) : String :=
  ":\"" ++ ".".intercalate (r.root :: r.attrs) ++ "\""

def sameVariable (r other : Reference) : Bool := r.root == other.root

end Reference

namespace Embedded

def spannedText (source : String) (t : Tree Token) : String :=
  match t.firstToken?, t.lastToken? with
  | some first, some last =>
    String.ofList ((source.toList.drop first.start).take (last.stop + 1 - first.start))
  | _, _ => ""

/-- Puts placeholders for the declared references among `references`, which are in the order of the
text. -/
def substitute (declared : List String) : List Reference → Int → List Char → List Char
  | [], _, text => text
  | r :: rest, offset, text =>
    if declared.contains r.root then
      substitute declared rest (offset + 3)
        (Slice.upTo text (r.start + offset) ++ r.placeholder.toList ++
          Slice.since text (r.stop + offset + 1))
    else substitute declared rest offset text

def distinct (references : List Reference) : List Reference :=
  references.foldl (fun kept r => if kept.any r.sameVariable then kept else kept ++ [r]) []

def bound (declared : List String) (references : List Reference) : List Reference :=
  ((distinct references).filter fun r => declared.contains r.root).mergeSort
    fun a b => a.root ≤ b.root

def bind (query : String) (references : List Reference) (declared : List String) :
    String × List Reference :=
  (String.ofList (substitute declared references 0 query.toList), bound declared references)

inductive Found where
  | reference (value : Reference)
  | query (text : String)

def joinParts : List Found → Except Reject (List Found)
  | [] => .ok []
  | [part] => .ok [part]
  | [.reference record, .reference field] =>
    .ok [.reference { record with attrs := record.attrs ++ [field.root], stop := field.stop }]
  | [_, _] => .error .misplaced
  | _ => .ok []

/-- A query that spans `t`, with the references found in it, whose offsets become relative to it. -/
def assemble (source : String) (declared : List String) (t : Tree Token) (found : List Found) :
    Except Reject (String × List Reference) := do
  let shift : Int := (t.firstToken?.map (·.start)).getD 0
  let references ← found.mapM fun
    | .reference r => .ok { r with start := r.start - shift, stop := r.stop - shift }
    | .query _ => .error .misplaced
  return bind (spannedText source t) references declared

mutual
def collect (source : String) (declared : List String) : Tree Token → Except Reject (List Found)
  | .leaf _ => .ok []
  | .node kind children =>
    match kind with
    | .regularId =>
      let t : Tree Token := .node kind children
      match t.firstToken?, t.lastToken? with
      | some first, some last =>
        .ok [.reference { root := t.capitals, start := first.start, stop := last.stop }]
      | _, _ => .error .misplaced
    | .generalElement => do joinParts (← collectAll source declared children)
    | .selectStatement => do
      let found ← collectAll source declared children
      let (text, references) ← assemble source declared (.node kind children) found
      return .query text :: references.map .reference
    | _ => collectAll source declared children

def collectAll (source : String) (declared : List String) :
    List (Tree Token) → Except Reject (List Found)
  | [] => .ok []
  | t :: rest => do
    let found ← collect source declared t
    return found ++ (← collectAll source declared rest)
end

def query (source : String) (declared : List String) (t : Tree Token) :
    Except Reject (String × List Reference) := do
  assemble source declared t (← collectAll source declared t.children)

end Embedded
end BlockScript
