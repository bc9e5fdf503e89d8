import BlockScript.Build
import BlockScript.Session
import BlockScript.Workload.Samples

/-!
Workloads: exercises of the library that grow with a size. Each comes to a few figures by which two
runs can be compared.
-/

namespace BlockScript.Workload

open Snapshot (int bool sequence)

def count (n : Nat) : Snapshot := .int n

def numbered (stem : String) (n : Nat) : List String :=
  (List.range n).map fun i => stem ++ toString i

def content : Snapshot → Snapshot
  | .cell s => s
  | s => s

def number : Snapshot → Int
  | .int n => n
  | .bool true => 1
  | .cell (.int n) => n
  | .cell (.bool true) => 1
  | _ => 0

mutual
def phrase? (kind : Nonterminal) : Tree Token → Option (Tree Token)
  | .leaf _ => none
  | .node k children =>
    if k == kind then some (.node k children) else phraseAmong? kind children

def phraseAmong? (kind : Nonterminal) : List (Tree Token) → Option (Tree Token)
  | [] => none
  | t :: rest => (phrase? kind t).or (phraseAmong? kind rest)
end

def wideQuery (n : Nat) : String :=
  "select " ++ ", ".intercalate (numbered "c" n) ++
    " from tbl where r.a = v0 and x.y.z = 1"

def references (offset : Nat) : List String → List Reference
  | [] => []
  | word :: rest =>
    { root := word.toUpper, start := offset, stop := offset + word.length - 1 } ::
      references (offset + word.length + 1) rest

def binding (n : Nat) : Snapshot :=
  let source := "declare cursor q is " ++ wideQuery n ++ "; begin null; end;"
  let parsed := do
    let script ← (Script.read source).toOption
    let tree ← phrase? .selectStatement script.tree
    (Embedded.query source ["R", "V0"] tree).toOption
  match parsed with
  | none => .none
  | some (query, bound) =>
    let arguments := match Compile.execution query bound with
      | .call _ arguments => arguments.length
      | _ => 0
    let words := numbered "v" n
    let (given, behind) := Embedded.bind ("select " ++ " ".intercalate words ++ " end")
      (references 7 words) (numbered "V" n)
    sequence [
      sequence [.text query, count (bound.length + 1), count arguments],
      count arguments, sequence [.text given, count behind.length]]

open Session

def snapshots (steps : List Step) : List Snapshot :=
  (Session.run steps).1.map fun o => o.result.toOption.getD .none

def step (register : String) (action : Action) : Step := ⟨register, action⟩

def sum (figures : List Snapshot) : Int := figures.foldl (fun total s => total + number s) 0

def calculating (n : Nat) : Snapshot :=
  let total : Argument := .register "total"
  let arithmetic (op : Binary) (x : Int) := step "total" (.binary op total (.cell (.int x)))
  let rounds := (List.range n).flatMap fun (i : Nat) =>
    [arithmetic (.arithmetic .add) i, arithmetic (.arithmetic .sub) 1,
      arithmetic (.arithmetic .mul) 2, arithmetic (.arithmetic .div) 2, arithmetic .mod 97]
  let totals := snapshots (step "total" (.value (.cell (.int 0))) :: rounds)
  let compared (op : Comparison) (x y : Argument) := step "r" (.binary (.comparison op) x y)
  let comparisons := (List.range n).flatMap fun (i : Nat) =>
    let a : Argument := .cell (.int i)
    let b : Argument := .cell (.int (i + 1))
    [compared .eq a a, compared .le a a, compared .ge a a, compared .ne a b, compared .lt a b,
      compared .le a b, compared .ne b a, compared .gt b a, compared .ge b a,
      compared .eq a (.int i), compared .le a (.int i), compared .ge a (.int i),
      compared .lt a (.int (i + 1))]
  let flags := (snapshots [step "r" (.unary .bool (.cell (.bool true))),
    step "r" (.call "ISNULL" [.cell .null])]).map content
  sequence ([content (totals.getLast?.getD .none),
    int (sum (snapshots comparisons) + sum flags)] ++ flags)

def fetching (n : Nat) : Snapshot :=
  let row (i : Nat) := s!"({i}, 'name{i}')"
  let rows := "[" ++ ", ".intercalate ((List.range n).map row) ++ "]"
  let cursor : Argument := .register "cursor"
  let ask (name : String) := step "r" (.callMember cursor name [])
  let fetch := step "r" (.callMember cursor "FETCH" [.register "id", .register "name"])
  let opening := snapshots (opened rows ++ [ask "ISOPEN"])
  let reading := snapshots (opened rows ++
    (List.range (n + 1)).flatMap (fun _ => [fetch, ask "FOUND"]) ++
    [ask "NOTFOUND", step "r" (.value (.register "id")), step "r" (.value (.register "name")),
      step "r" (.callMember cursor "CLOSE" []), ask "ISOPEN", step "r" (.value (.register "mock"))])
  let figures := reading.drop (opened rows).length
  let found := (figures.take (2 * (n + 1))).filter fun s => content s matches .bool true
  match opening.getLast?, figures.drop (2 * (n + 1)) with
  | some isOpen, [notFound, id, name, _, isOpenAtLast, mock] =>
    sequence [count found.length, isOpen, content notFound, bool (mock matches .mock _ _ true),
      content id, content name, bool (isOpenAtLast matches .bool false)]
  | _, _ => .none
where
  opened (rows : String) : List Step :=
    [step "mock" (.call "MOCKPLCURSOR.MOCKSQL" [.cell (.text ".*")]),
      step "r" (.callMember (.register "mock") "RETURNS" [.cell (.text rows)]),
      step "r" (.call "PLCURSOR.SETUP" [.text "mock@database"]),
      step "cursor" (.call "PLCURSOR.CURSOR"
        [.text "select id, name from users", .list [], .list []]),
      step "id" (.value (.cell .null)), step "name" (.value (.cell .null)),
      step "r" (.callMember (.register "cursor") "OPEN" [.list [], .dict []])]

def spelling (n : Nat) : Snapshot :=
  let routine (name : String) (xs : List Argument) := step "r" (.call ("PLGLOBALS." ++ name) xs)
  let text : Argument := .cell (.text "  hello world 0  ")
  let capitals := (List.range n).flatMap fun _ => [step "r" (.call "PLGLOBALS.UPPER" [text])]
  let lengths := routine "LENGTH" [text] :: (List.range n).flatMap fun _ =>
    [routine "LENGTH" [text], routine "INSTR" [text, .cell (.text "l")]]
  let status := (Session.run
    [routine "RAISE_APPLICATION_ERROR" [.cell (.int (-20001)), .cell (.text "boom")]]).2
  sequence [int (sum (snapshots lengths)),
    ((snapshots capitals).head?.map content).getD (.bool true), content status.errorText]

def recording (n : Nat) : Snapshot :=
  let record := "record"
  let fill := step record (.call "PLRECORD" []) ::
    (numbered "F" n).zipIdx.map (fun (f, i) => step record (.assignMember f (.int (2 * i)))) ++
    [step record (.assignMember "ID" (.text "a")), step record (.assignMember "NAME" (.text "b"))]
  let keys := step "r" (.unary .keys (.register record))
  match (snapshots (fill ++ [keys])).getLast?, (snapshots fill).getLast? with
  | some (.sequence names), some (.record fields) =>
    sequence [int (sum (fields.map (·.2))), count names.length, count fields.length]
  | _, _ => .none

def tabling (n : Nat) : Snapshot :=
  let table : Argument := .register "table"
  let ask (name : String) (xs : List Argument) := step "r" (.callMember table name xs)
  let indices : List Nat := (List.range n).map fun i => i + 1
  let fill := step "table" (.call "PLTABLE" []) ::
    indices.map fun (i : Nat) => step "table" (.assignItem (.int i) (.int (2 * i)))
  let questions := indices.flatMap fun (i : Nat) =>
    [step "r" (.item table (.int i)), ask "EXISTS" [.int i]]
  let sizes := [ask "COUNT" [], ask "LAST" []]
  let answers := (snapshots (fill ++ questions ++ sizes)).drop fill.length
  let triple := snapshots [step "table" (.call "PLTABLE" []),
    step "table" (.assignItem (.int 3) (.int 0)), ask "COUNT" []]
  let three := triple.getLast?.getD .none
  sequence [int (sum answers + number three), answers.getD (2 * n) .none, three]

def provided : List String :=
  ["__name__", "__builtins__", "m", "NULL", "ISNULL", "NOT", "CONCAT", "mrange", "extract_value",
    "is_mutable", "PLTABLE", "PLTABLE_OF", "PLRECORD", "PLCURSOR", "PLGLOBALS", "DBMS_OUTPUT",
    "execute_immediate_into"]

def namesKnown (text : String) : Snapshot :=
  match Build.program text with
  | .error _ => .none
  | .ok program =>
    let machine := match (Run.executeAll {} granted program.body).run {} with
      | .ok _ machine | .error _ machine => machine
    count (addAllNew provided machine.globals.names).length

def running (n : Nat) : Snapshot := sequence ((Sample.texts.take n).map namesKnown)

end BlockScript.Workload
