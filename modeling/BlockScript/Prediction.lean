import BlockScript.Prediction.Outlook

/-!
Reading with lookahead. At a choice the reader tries all ways side by side, token by token, until
one is left.
-/

namespace BlockScript.Prediction

abbrev Decision := Except Nat Nat

/-- The outlook from a choice. -/
def outlookFrom (view : View) (pool : Pool) (pending : Nat) : Outlook × Pool :=
  let choice := view.network.node view.choice
  let spreadWay (s : Spread) (way : Nat × Arc) : Spread :=
    match way.2 with
    | .free target =>
      ((Spread.spread view false Spread.granted
        [⟨{ node := target, way := way.1, pending }, some 0⟩]).run s).2
    | _ => s
  let ways := (List.range choice.arcs.length).map (· + 1) |>.zip choice.arcs
  let s := ways.foldl spreadWay { pool }
  let kept := match choice.role, view.isExact with
    | .operators _, false => s.outlook.filter fun _ t =>
        t.way == 1 || t.isFree ||
          (s.outlook[(t.node, 1)]?).all fun first => first.pending != t.pending
    | _, _ => s.outlook
  (kept, s.pool)

/-- The outlook behind a token. -/
def outlookBehind (view : View) (kind : Terminal) (o : Outlook) (pool : Pool) : Outlook × Pool :=
  let isEnd := kind == .EOF
  let moved := o.threads.flatMap fun t =>
    (view.network.node t.node).arcs.filterMap fun arc =>
      (arc.take? kind).map fun target => { t with node := target }
  let waiting := if view.isExact || isEnd then
      o.threads.filter fun t => (view.network.node t.node).role == .final
    else []
  let isDecided := !isEnd && waiting.isEmpty &&
    moved.tail.all (·.way == (moved.headD default).way)
  let s := if isDecided then ((moved.forM Spread.arrive).run { pool }).2
    else ((Spread.spread view isEnd Spread.granted (moved.map (⟨·, none⟩))).run { pool }).2
  let reached := if isEnd then
      s.outlook.filter fun _ t => (view.network.node t.node).role == .final
    else s.outlook
  let isReached := reached.any fun _ t => (view.network.node t.node).role == .final
  if view.isExact && isReached then (reached, s.pool)
  else
    let s := ((waiting.forM Spread.arrive).run { s with outlook := reached }).2
    (s.outlook, s.pool)

def decideExactly (view : View) (kinds : Array Terminal) :
    Nat → Nat → Outlook → Pool → Decision
  | 0, i, _, _ => .error i
  | steps + 1, i, o, pool =>
    let kind := kinds.getD i .EOF
    let (next, pool) := outlookBehind view kind o pool
    if next.isEmpty then
      match o.wayOut? view.network with
      | some way => .ok way
      | none => .error i
    else
      match next.onlyWay? with
      | some way => .ok way
      | none =>
        match (next.waysTogether.map fun ways => ways.min?.getD 0).eraseDups with
        | [way] => .ok way
        | _ => decideExactly view kinds steps (if kind == .EOF then i else i + 1) next pool

def decide (view : View) (kinds : Array Terminal) (exactly : Unit → Decision) :
    Nat → Nat → Outlook → Pool → Decision
  | 0, i, _, _ => .error i
  | steps + 1, i, o, pool =>
    let kind := kinds.getD i .EOF
    let (next, pool) := outlookBehind view kind o pool
    if next.isEmpty then
      match o.wayOut? view.network with
      | some way => .ok way
      | none => .error i
    else
      match next.onlyWay? with
      | some way => .ok way
      | none =>
        if next.isUndecided view.network then exactly ()
        else decide view kinds exactly steps (if kind == .EOF then i else i + 1) next pool

structure Entered where
  behind : Nat
  floor : Nat

def choose (network : Network) (kinds : Array Terminal) (choice i : Nat)
    (entered : List Entered) (floor : Nat) : Decision :=
  let steps := 2 * kinds.size + 4
  let loose : View := { network, choice, floor, isExact := false }
  let exact : View := { loose with isExact := true }
  let exactly (_ : Unit) : Decision :=
    let (pending, pool) := (entered.reverse.foldlM (fun below e => Pool.push e.behind below)
      Pool.bottom).run { isOpen := false }
    let (o, pool) := outlookFrom exact pool pending
    decideExactly exact kinds steps i o pool
  let (o, pool) := outlookFrom loose { isOpen := true } Pool.bottom
  decide loose kinds exactly steps i o pool

/-- Reads on from a node, for at most so many steps. -/
def readOn (network : Network) (kinds : Array Terminal) :
    Nat → Nat → Nat → List Entered → Nat → Option Nat
  | 0, _, _, _, _ => none
  | steps + 1, id, i, entered, floor =>
    let node := network.node id
    if node.role == .final then
      match entered with
      | [] => none
      | e :: outer => readOn network kinds steps e.behind i outer e.floor
    else
      let way : Decision := match node.arcs with
        | _ :: _ :: _ => choose network kinds id i entered floor
        | _ => .ok 1
      match way with
      | .error stuck => some stuck
      | .ok way =>
        match node.arcs[way - 1]? with
        | some (.free target) | some (.guard _ target) =>
          readOn network kinds steps target i entered floor
        | some (.call start behind inner) =>
          readOn network kinds steps start i (⟨behind, floor⟩ :: entered) inner
        | some arc =>
          match arc.take? (kinds.getD i .EOF) with
          | some target => readOn network kinds steps target (i + 1) entered floor
          | none => some i
        | none => some i

def stuckAt? (kinds : Array Terminal) (kind : Nonterminal) : Option Nat :=
  readOn Network.whole kinds Spread.granted (Network.startOf kind) 0 [] 0

end BlockScript.Prediction
