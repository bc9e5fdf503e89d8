import BlockScript.Library
import BlockScript.Proofs.Phrases

/-!
The imperative core of block scripts, its meaning and its parse trees: integer variables,
assignments, branches, loops, counting loops and jumps out of them. A tree spells a piece of syntax
with letters of any case, with any number of parentheses, and wherever its tokens stand.
-/

namespace BlockScript.Core

inductive Calculation where
  | add | sub | mul
deriving DecidableEq

inductive Arith where
  | number (n : Nat)
  | name (id : String)
  | negative (operand : Arith)
  | calculate (left : Arith) (operation : Calculation) (right : Arith)
deriving DecidableEq

inductive Condition where
  | compare (left : Arith) (comparison : Comparison) (right : Arith)
  | both (left right : Condition)
  | either (left right : Condition)
  | negation (operand : Condition)

inductive Jump where
  | exit | skip

/-- An `elsif` is a branch among the alternatives. A loop without a test goes on until it is left,
and a jump without a test is always made. -/
inductive Command where
  | assign (name : String) (value : Arith)
  | null
  | branch (test : Condition) (body orelse : List Command)
  | loop (test : Option Condition) (body : List Command)
  | count (index : String) (lower upper : Arith) (body : List Command)
  | jump (target : Jump) (test : Option Condition)

structure Initial where
  negated : Bool
  magnitude : Nat

structure Block where
  declarations : List (String × Initial)
  body : List Command

abbrev State := String → Int

def State.set (σ : State) (name : String) (value : Int) : State :=
  fun other => if other = name then value else σ other

def Calculation.apply : Calculation → Int → Int → Int
  | add => (· + ·)
  | sub => (· - ·)
  | mul => (· * ·)

def Arith.value (σ : State) : Arith → Int
  | number n => n
  | name id => σ id
  | negative operand => -operand.value σ
  | calculate left operation right => operation.apply (left.value σ) (right.value σ)

def relates : Comparison → Int → Int → Bool
  | .eq, x, y => x = y
  | .ne, x, y => x ≠ y
  | .gt, x, y => y < x
  | .ge, x, y => y ≤ x
  | .lt, x, y => x < y
  | .le, x, y => x ≤ y

def Condition.holds (σ : State) : Condition → Bool
  | compare left comparison right => relates comparison (left.value σ) (right.value σ)
  | both left right => left.holds σ && right.holds σ
  | either left right => left.holds σ || right.holds σ
  | negation operand => !operand.holds σ

def passes (σ : State) (test : Option Condition) : Bool := test.all (·.holds σ)

inductive Outcome where
  | next
  | jumped (target : Jump)

/-- What can be run: a command, a sequence of them, or the rounds of a counting loop that are left,
with the next value of the index. -/
inductive Task where
  | command (c : Command)
  | sequence (cs : List Command)
  | rounds (index : String) (from_ : Int) (left : Nat) (body : List Command)

/-- `Exec task σ outcome τ`: the task, begun in the state `σ`, ends with the outcome in the state
`τ`. -/
inductive Exec : Task → State → Outcome → State → Prop where
  | nil : Exec (.sequence []) σ .next σ
  | cons (first : Exec (.command c) σ .next τ) (rest : Exec (.sequence cs) τ outcome υ) :
      Exec (.sequence (c :: cs)) σ outcome υ
  | leave (first : Exec (.command c) σ (.jumped target) τ) :
      Exec (.sequence (c :: cs)) σ (.jumped target) τ
  | assign : Exec (.command (.assign name e)) σ .next (σ.set name (e.value σ))
  | null : Exec (.command .null) σ .next σ
  | branchTrue (test : c.holds σ = true) (run : Exec (.sequence body) σ outcome τ) :
      Exec (.command (.branch c body orelse)) σ outcome τ
  | branchFalse (test : c.holds σ = false) (run : Exec (.sequence orelse) σ outcome τ) :
      Exec (.command (.branch c body orelse)) σ outcome τ
  | jump (test : passes σ c = true) : Exec (.command (.jump target c)) σ (.jumped target) σ
  | stay (test : passes σ c = false) : Exec (.command (.jump target c)) σ .next σ
  | loopEnd (test : passes σ c = false) : Exec (.command (.loop c body)) σ .next σ
  | loopExit (test : passes σ c = true) (run : Exec (.sequence body) σ (.jumped .exit) τ) :
      Exec (.command (.loop c body)) σ .next τ
  | loopAgain (test : passes σ c = true) (run : Exec (.sequence body) σ outcome τ)
      (on : outcome ≠ .jumped .exit) (again : Exec (.command (.loop c body)) τ .next υ) :
      Exec (.command (.loop c body)) σ .next υ
  | count
      (run : Exec (.rounds i (lower.value σ) (upper.value σ + 1 - lower.value σ).toNat body)
        σ .next τ) :
      Exec (.command (.count i lower upper body)) σ .next τ
  | roundsEnd : Exec (.rounds i n 0 body) σ .next σ
  | roundsExit (run : Exec (.sequence body) (σ.set i n) (.jumped .exit) τ) :
      Exec (.rounds i n (k + 1) body) σ .next τ
  | roundsAgain (run : Exec (.sequence body) (σ.set i n) outcome τ)
      (on : outcome ≠ .jumped .exit) (again : Exec (.rounds i (n + 1) k body) τ .next υ) :
      Exec (.rounds i n (k + 1) body) σ .next υ

def Initial.value (i : Initial) : Int := if i.negated then -(i.magnitude : Int) else i.magnitude

namespace Block

def declared (b : Block) : List String := b.declarations.map (·.1)

def initialState (b : Block) : State := fun name =>
  ((b.declarations.lookup name).map Initial.value).getD 0

def Ends (b : Block) (σ : State) : Prop := Exec (.sequence b.body) b.initialState .next σ

end Block

def Arith.isOver (names : List String) : Arith → Bool
  | number _ => true
  | name id => names.contains id
  | negative operand => operand.isOver names
  | calculate left _ right => left.isOver names && right.isOver names

def Condition.isOver (names : List String) : Condition → Bool
  | compare left _ right => left.isOver names && right.isOver names
  | both left right | either left right => left.isOver names && right.isOver names
  | negation operand => operand.isOver names

mutual
/-- Names are used where they are visible: only variables are assigned to, an index differs from all
names visible around its loop, and jumps stand in loops. -/
def Command.isScoped (vars indices : List String) (inLoop : Bool) : Command → Bool
  | .assign name value => vars.contains name && value.isOver (vars ++ indices)
  | .null => true
  | .branch test body orelse =>
    test.isOver (vars ++ indices) && areScoped vars indices inLoop body &&
      areScoped vars indices inLoop orelse
  | .loop test body =>
    test.all (·.isOver (vars ++ indices)) && areScoped vars indices true body
  | .count index lower upper body =>
    lower.isOver (vars ++ indices) && upper.isOver (vars ++ indices) &&
      !(vars ++ indices).contains index && areScoped vars (index :: indices) true body
  | .jump _ test => inLoop && test.all (·.isOver (vars ++ indices))

def areScoped (vars indices : List String) (inLoop : Bool) : List Command → Bool
  | [] => true
  | c :: cs => c.isScoped vars indices inLoop && areScoped vars indices inLoop cs
end

mutual
def Command.indices : Command → List String
  | .branch _ body orelse => indicesOf body ++ indicesOf orelse
  | .loop _ body => indicesOf body
  | .count index _ _ body => index :: indicesOf body
  | _ => []

def indicesOf : List Command → List String
  | [] => []
  | c :: cs => c.indices ++ indicesOf cs
end

def IsOwn (name : String) : Prop :=
  ∀ package names, Library.exports? package = some names → name ∉ names.names

namespace Block

def names (b : Block) : List String := b.declared ++ indicesOf b.body

structure WellFormed (b : Block) : Prop where
  distinct : b.declared.Nodup
  visible : areScoped b.declared [] false b.body = true
  own : ∀ name ∈ b.names, IsOwn name

end Block
def IsWord (name : String) : Prop :=
  ∃ first rest, name.toList = first :: rest ∧ first.isUpper ∧ rest.all Lexeme.isWordChar

inductive SpellsName : Tree Token → String → Prop where
  | mk (token : Token) (is : token.kind = .REGULAR_ID) (word : IsWord token.text.toUpper) :
      SpellsName (.node .regularId [.leaf token]) token.text.toUpper

inductive SpellsReference : Tree Token → String → Prop where
  | mk (id : SpellsName t name) :
      SpellsReference (.node .generalElement [.node .generalElementPart [.node .idExpression [t]]])
        name

/-- The phrases that, with one part, are that part: the rungs between an expression and what it is
made of. -/
def rungs : List Nonterminal :=
  [.unaryExpression, .constant, .condition, .expressions, .expression, .logicalExpression,
    .multisetExpression, .relationalExpression, .compoundExpression, .concatenation,
    .modelExpression, .atom, .lowerBound, .upperBound]

def Calculation.terminal : Calculation → Terminal
  | add => .PLUS_SIGN
  | sub => .MINUS_SIGN
  | mul => .ASTERISK

inductive SpellsArith : Tree Token → Arith → Prop where
  | rung (known : kind ∈ rungs) (inner : SpellsArith t e) : SpellsArith (.node kind [t]) e
  | parentheses (opening : IsLeaf .LEFT_PAREN l) (inner : SpellsArith t e)
      (closing : IsLeaf .RIGHT_PAREN r) : SpellsArith (.node .atom [l, t, r]) e
  | number (token : Token) (is : token.kind = .UNSIGNED_INTEGER) (some_digit : token.text ≠ "")
      (digits : token.text.toList.all Char.isDigit)
      (bound : Nat.ofDigitChars 10 token.text.toList 0 ≤ 2 ^ 53) :
      SpellsArith (.node .numeric [.leaf token]) (.number (Nat.ofDigitChars 10 token.text.toList 0))
  | name (reference : SpellsReference t name) : SpellsArith t (.name name)
  | negative (token : Token) (is : token.kind = .MINUS_SIGN) (sign : token.text = "-")
      (operand : SpellsArith t e) :
      SpellsArith (.node .unaryExpression [.leaf token, t]) (.negative e)
  | calculate (left : SpellsArith l a) (sign : IsLeaf operation.terminal o)
      (right : SpellsArith r b) :
      SpellsArith (.node .concatenation [l, o, r]) (.calculate a operation b)

def comparisons : List (String × Comparison) :=
  [("=", .eq), ("!=", .ne), ("<>", .ne), ("<", .lt), ("<=", .le), (">", .gt), (">=", .ge)]

inductive SpellsCondition : Tree Token → Condition → Prop where
  | rung (known : kind ∈ rungs) (inner : SpellsCondition t c) : SpellsCondition (.node kind [t]) c
  | parentheses (opening : IsLeaf .LEFT_PAREN l) (inner : SpellsCondition t c)
      (closing : IsLeaf .RIGHT_PAREN r) : SpellsCondition (.node .atom [l, t, r]) c
  | compare (left : SpellsArith l a) (right : SpellsArith r b)
      (sign : ((Tree.node .relationalOperator signs).text, comparison) ∈ comparisons) :
      SpellsCondition (.node .relationalExpression [l, .node .relationalOperator signs, r])
        (.compare a comparison b)
  | both (left : SpellsCondition l c) (word : IsLeaf .AND w) (right : SpellsCondition r d) :
      SpellsCondition (.node .logicalExpression [l, w, r]) (.both c d)
  | either (left : SpellsCondition l c) (word : IsLeaf .OR w) (right : SpellsCondition r d) :
      SpellsCondition (.node .logicalExpression [l, w, r]) (.either c d)
  | negation (word : IsLeaf .NOT w) (operand : SpellsCondition t c) :
      SpellsCondition (.node .logicalExpression [w, t]) (.negation c)

inductive SpellsRange : Tree Token → String → Arith → Arith → Prop where
  | mk (index : SpellsName t name) (word : IsLeaf .IN i) (lower : SpellsArith l a)
      (dots : IsLeaf .DOUBLE_PERIOD d) (upper : SpellsArith u b) :
      SpellsRange
        (.node .cursorLoopParam [.node .indexName [.node .identifier [.node .idExpression [t]]], i,
          .node .lowerBound [l], d, .node .upperBound [u]])
        name a b

def Jump.phrase : Jump → Nonterminal
  | exit => .exitStatement
  | skip => .continueStatement

def Jump.word : Jump → Terminal
  | exit => .EXIT
  | skip => .CONTINUE

/-- Where a list of trees stands: in a sequence of statements, or among the alternatives of a
branch. -/
inductive Region where
  | statements | alternatives

inductive SpellsCommands : Region → List (Tree Token) → List Command → Prop where
  | nil : SpellsCommands .statements [] []
  | assign (target : SpellsReference l name) (sign : IsLeaf .ASSIGN_OP a) (value : SpellsArith v e)
      (semicolon : IsLeaf .SEMICOLON s) (rest : SpellsCommands .statements ts cs) :
      SpellsCommands .statements
        (.node .statement [.node .assignmentStatement [l, a, v]] :: s :: ts) (.assign name e :: cs)
  | null (word : IsLeaf .NULL n) (semicolon : IsLeaf .SEMICOLON s)
      (rest : SpellsCommands .statements ts cs) :
      SpellsCommands .statements
        (.node .statement [.node .nullStatement [n]] :: s :: ts) (.null :: cs)
  | branch (if_ : IsLeaf .IF i) (test : SpellsCondition c test') (then_ : IsLeaf .THEN t)
      (body : SpellsCommands .statements bs body') (some_command : body' ≠ [])
      (orelse : SpellsCommands .alternatives os orelse') (end_ : IsLeaf .END e)
      (endIf : IsLeaf .IF f) (semicolon : IsLeaf .SEMICOLON s)
      (rest : SpellsCommands .statements ts cs) :
      SpellsCommands .statements
        (.node .statement
          [.node .ifStatement
            (i :: .node .condition [c] :: t :: .node .seqOfStatements bs :: (os ++ [e, f]))] ::
          s :: ts)
        (.branch test' body' orelse' :: cs)
  | forever (loop : IsLeaf .LOOP l) (body : SpellsCommands .statements bs body')
      (some_command : body' ≠ []) (end_ : IsLeaf .END e) (endLoop : IsLeaf .LOOP f)
      (semicolon : IsLeaf .SEMICOLON s) (rest : SpellsCommands .statements ts cs) :
      SpellsCommands .statements
        (.node .statement [.node .loopStatement [l, .node .seqOfStatements bs, e, f]] :: s :: ts)
        (.loop none body' :: cs)
  | while_ (word : IsLeaf .WHILE w) (test : SpellsCondition c test') (loop : IsLeaf .LOOP l)
      (body : SpellsCommands .statements bs body') (some_command : body' ≠ [])
      (end_ : IsLeaf .END e) (endLoop : IsLeaf .LOOP f) (semicolon : IsLeaf .SEMICOLON s)
      (rest : SpellsCommands .statements ts cs) :
      SpellsCommands .statements
        (.node .statement
          [.node .loopStatement
            [w, .node .condition [c], l, .node .seqOfStatements bs, e, f]] :: s :: ts)
        (.loop (some test') body' :: cs)
  | count (for_ : IsLeaf .FOR w) (range : SpellsRange p i a b) (loop : IsLeaf .LOOP l)
      (body : SpellsCommands .statements bs body') (some_command : body' ≠ [])
      (end_ : IsLeaf .END e) (endLoop : IsLeaf .LOOP f) (semicolon : IsLeaf .SEMICOLON s)
      (rest : SpellsCommands .statements ts cs) :
      SpellsCommands .statements
        (.node .statement [.node .loopStatement [w, p, l, .node .seqOfStatements bs, e, f]] ::
          s :: ts)
        (.count i a b body' :: cs)
  | jump (word : IsLeaf target.word w) (semicolon : IsLeaf .SEMICOLON s)
      (rest : SpellsCommands .statements ts cs) :
      SpellsCommands .statements
        (.node .statement [.node target.phrase [w]] :: s :: ts) (.jump target none :: cs)
  | jumpWhen (word : IsLeaf target.word w) (when_ : IsLeaf .WHEN v) (test : SpellsCondition c test')
      (semicolon : IsLeaf .SEMICOLON s) (rest : SpellsCommands .statements ts cs) :
      SpellsCommands .statements
        (.node .statement [.node target.phrase [w, v, .node .condition [c]]] :: s :: ts)
        (.jump target (some test') :: cs)
  | none_ : SpellsCommands .alternatives [] []
  | otherwise (else_ : IsLeaf .ELSE w) (body : SpellsCommands .statements bs body')
      (some_command : body' ≠ []) :
      SpellsCommands .alternatives [.node .elsePart [w, .node .seqOfStatements bs]] body'
  | elsif (word : IsLeaf .ELSIF w) (test : SpellsCondition c test') (then_ : IsLeaf .THEN t)
      (body : SpellsCommands .statements bs body') (some_command : body' ≠ [])
      (orelse : SpellsCommands .alternatives os orelse') :
      SpellsCommands .alternatives
        (.node .elsifPart [w, .node .condition [c], t, .node .seqOfStatements bs] :: os)
        [.branch test' body' orelse']

def Initial.arith (i : Initial) : Arith :=
  if i.negated then .negative (.number i.magnitude) else .number i.magnitude

inductive SpellsDeclarations : List (Tree Token) → List (String × Initial) → Prop where
  | nil : SpellsDeclarations [] []
  | cons (id : SpellsName t name) (type : IsLeaf .NUMBER n) (sign : IsLeaf .ASSIGN_OP a)
      (value : SpellsArith v initial.arith) (semicolon : IsLeaf .SEMICOLON s)
      (rest : SpellsDeclarations ts ds) :
      SpellsDeclarations
        (.node .declareSpec
          [.node .variableDeclaration
            [.node .identifier [.node .idExpression [t]],
              .node .typeSpec [.node .datatype [.node .nativeDatatypeElement [n]]],
              .node .defaultValuePart [a, v], s]] :: ts)
        ((name, initial) :: ds)

inductive SpellsBlock : Tree Token → Block → Prop where
  | mk (declare : IsLeaf .DECLARE d) (declarations : SpellsDeclarations ds declarations')
      (begin_ : IsLeaf .BEGIN b) (body : SpellsCommands .statements ts body')
      (some_command : body' ≠ []) (end_ : IsLeaf .END e) (semicolon : IsLeaf .SEMICOLON s)
      (eof : IsLeaf .EOF f) :
      SpellsBlock
        (.node .sqlScript
          [.node .unitStatement
            [.node .anonymousBlock
              [d, .node .seqOfDeclareSpecs ds, b, .node .seqOfStatements ts, e, s]], f])
        ⟨declarations', body'⟩

def leafOf (kind : Terminal) (text : String) : Tree Token := .leaf ⟨kind, text, {}, 0, 0⟩

def climb (kinds : List Nonterminal) (t : Tree Token) : Tree Token :=
  kinds.foldr (fun kind t => .node kind [t]) t

def operandRungs : List Nonterminal := [.concatenation, .modelExpression, .unaryExpression, .atom]

def sideRungs : List Nonterminal := .relationalExpression :: .compoundExpression :: operandRungs

def nameTree (id : String) : Tree Token := .node .regularId [leafOf .REGULAR_ID id]

def referenceTree (id : String) : Tree Token :=
  .node .generalElement [.node .generalElementPart [.node .idExpression [nameTree id]]]

def numeralTree (digits : String) : Tree Token :=
  climb (sideRungs ++ [.constant]) (.node .numeric [leafOf .UNSIGNED_INTEGER digits])

lemma climb_of_rungs {P : Tree Token → Prop} (known : ∀ kind ∈ kinds, kind ∈ rungs) (inner : P t)
    (step : ∀ {kind t}, kind ∈ rungs → P t → P (.node kind [t])) : P (climb kinds t) := by
  induction kinds with
  | nil => exact inner
  | cons kind kinds ih =>
    exact step (known kind mem_cons_self) (ih fun other mem => known other (mem_cons_of_mem _ mem))

lemma spellsArith_climb (known : ∀ kind ∈ kinds, kind ∈ rungs) (spelled : SpellsArith t e) :
    SpellsArith (climb kinds t) e :=
  climb_of_rungs (P := (SpellsArith · e)) known spelled .rung

lemma spellsCondition_climb (known : ∀ kind ∈ kinds, kind ∈ rungs)
    (spelled : SpellsCondition t c) : SpellsCondition (climb kinds t) c :=
  climb_of_rungs (P := (SpellsCondition · c)) known spelled .rung

lemma spells_name {id : String} (upper : id.toUpper = capitals) (word : IsWord capitals) :
    SpellsName (nameTree id) capitals := by
  subst upper
  exact .mk _ rfl word

lemma spells_numeral (some_digit : digits ≠ "") (all : digits.toList.all Char.isDigit)
    (bound : Nat.ofDigitChars 10 digits.toList 0 ≤ 2 ^ 53) :
    SpellsArith (numeralTree digits) (.number (Nat.ofDigitChars 10 digits.toList 0)) :=
  spellsArith_climb (by decide) (.number _ rfl some_digit all bound)

end BlockScript.Core
