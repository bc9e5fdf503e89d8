import BlockScript.Proofs.PackageAccess
import BlockScript.Proofs.PackageCells
import BlockScript.Proofs.RecordCopies
import BlockScript.Proofs.EnclosingScopes

/-!
The value of a variable of a package. A declaration gives the variable a new cell.
-/

namespace BlockScript

open Target Eval

namespace Run

open Machine Compile

lemma bears_advances : Bears Machine.Follows Machine.Advances fun _ _ => True where
  here _ := .refl _
  trans := .trans
  follow _ follows := follows.advances
  note _ store _ := ⟨Nat.le_of_eq (by rw [store]), fun a _ => by rw [store]⟩
  push _ _ := .push _ _
  package _ found := .put found rfl
  bind _ found _ := .put found rfl
  fresh _ _ _ := trivial
  unset _ taken := absurd trivial taken

section

variable {package : String}

lemma advances_of_evaluate (ran : evaluate place steps e m = .ok v m') : m.Advances m' :=
  (((bears_advances.safe steps).evaluate place e m (.refl m)).ok ran).1

lemma evaluate_reading (holds : m.Holds owner name c v)
    (sees : place.Sees m package (.object b)) (of : m.IsClassOf owner b) (steps) :
    evaluate place (steps + 3) (.call (.attribute (.name package) name) []) m =
      .ok (.object c) m := by
  have named : evaluate place (steps + 2) (.attribute (.name package) name) m =
      .ok (.object c) m := by
    exact (bind_ok sees.lookUp).trans (holds.member_eq of)
  exact (bind_ok named).trans (call_cell holds.cell)

lemma execute_writing (holds : m.Holds owner name c v) (sees : place.Sees m package (.object b))
    (of : m.IsClassOf owner b) (valued : evaluate place steps e m = .ok w m1) {new : Value}
    (holds1 : m1.Holds owner name c v1) (taken : m1.taken? w = some new) :
    ∃ m', execute place (steps + 1) (.update (.attribute (.name package) name) e) m =
      .ok .next m' ∧ m'.Holds owner name c new := by
  obtain ⟨more, rfl⟩ : ∃ more, steps = more + 1 := by
    cases steps with
    | zero => cases valued
    | succ more => exact ⟨more, rfl⟩
  have of1 := of.advance (advances_of_evaluate valued)
  obtain ⟨m2, unfolds, assigned⟩ := assign_taken holds1.cell taken
  -- of the old objects nothing but the cell has changed
  have follows := ((keeps_assign (A := Machine.Follows) (.object c) w m1).ok assigned).1
  have there : c < m2.store.size := get?_lt (unfolds.kept c _ (by simp) holds1.cell)
  have holds2 : (m2.put c (.cell new)).Holds owner name c new :=
    ⟨(follows.slot? _).trans holds1.declared, get?_put_self there _, fun a derives => by
      rw [follows.slot?]
      exact holds1.heirs a (follows.derives_iff.1 derives)⟩
  have of2 := of1.advance follows.advances
  refine ⟨_, ?_, holds2.take of2⟩
  refine (bind_ok sees.lookUp).trans ((bind_ok (holds.member_eq of)).trans ?_)
  rw [bind_ok valued, bind_ok assigned, bind_ok (Library.setMember_package (holds2.has of2) _)]
  rfl

end

/-- The value that a variable starts with, by what stands behind its name: nothing, or a literal
with a sign or without. -/
inductive Starts : List Draft → Value → Prop where
  | nothing : Starts [] .null
  | literal (l : Literal) : Starts [.cell (.constant l)] (literal l)
  | null : Starts [.cell (.call (.ident "NULL") [])] .null
  | negative {n : Number} (number : (literal l).number? = some n) :
      Starts [.negative (.cell (.constant l))] n.neg.toValue

def Place.Imports (place : Place) (m : Machine) : Prop :=
  lookUp place "m" m = .ok (.routine .wrap) m ∧ lookUp place "NULL" m = .ok (.library .null) m

lemma evaluate_library_inv {id : String} (known : lookUp place id m = .ok v m)
    (solid : ∀ a, v ≠ .object a) (other : v ≠ .routine .locals)
    (ran : evaluate place steps (.call (.name id) args) m = .ok w m') :
    ∃ k values m1, evaluateAll place (k + 1) args m = .ok values m1 ∧
      Library.callValue (call k) v values m1 = .ok w m' := by
  match steps with
  | 0 => cases ran
  | 1 => cases ran
  | k + 2 =>
    change (lookUp place id >>= _) m = _ at ran
    rw [bind_ok known] at ran
    obtain ⟨values, m1, all, called⟩ := ok_of_bind ran
    refine ⟨k, values, m1, all, ?_⟩
    have plain : call (k + 1) v values m1 = .ok w m' := by simp_all
    cases v with
    | object a => exact absurd rfl (solid a)
    | _ => exact plain

lemma wrap_toValue (n : Number) (m) :
    wrap n.toValue m = .ok (.object m.store.size) (m.push (.cell n.toValue)) := by
  cases n <;> rfl

lemma wrap_literal (l : Literal) (m) :
    wrap (literal l) m = .ok (.object m.store.size) (m.push (.cell (literal l))) := by
  cases l <;> rfl

lemma evaluate_wrap_inv (imports : place.Imports m)
    (all : ∀ k values' m1, evaluateAll place k args m = .ok values' m1 → values' = values ∧ m1 = m)
    (wrapped : Library.apply .wrap values m = .ok (.object m.store.size) (m.push (.cell v)))
    (ran : evaluate place steps (.call (.name "m") args) m = .ok w m') :
    w = .object m.store.size ∧ m' = m.push (.cell v) := by
  obtain ⟨k, given, m1, listed, called⟩ := evaluate_library_inv imports.1 nofun nofun ran
  obtain ⟨rfl, rfl⟩ := all _ _ _ listed
  cases wrapped.symm.trans called
  exact ⟨rfl, rfl⟩

lemma evaluateAll_nil_inv (all : evaluateAll place steps [] m = .ok values m') :
    values = [] ∧ m' = m := by
  cases steps <;> cases all
  exact ⟨rfl, rfl⟩

lemma evaluateAll_single_inv (all : evaluateAll place steps [e] m = .ok values m') :
    ∃ k u, evaluate place k e m = .ok u m' ∧ values = [u] := by
  cases steps with
  | zero => cases all
  | succ k =>
    obtain ⟨u, m1, first, rest⟩ := ok_of_bind all
    obtain ⟨others, m2, none, returned⟩ := ok_of_bind rest
    obtain ⟨rfl, rfl⟩ := evaluateAll_nil_inv none
    cases returned
    exact ⟨k, u, first, rfl⟩

lemma follows_push (m : Machine) (v) : m.Follows (m.push (.cell v)) := .push m id

lemma toExpr_wrap (args : List Draft) :
    toExpr (.call (.ident "m") args) = (toExprs args).map (.call (.name "m")) := by
  rw [toExpr, toExpr_ident (by decide)]
  cases toExprs args <;> rfl

lemma evaluate_starts (starts : Starts ds v) (imports : place.Imports m)
    (written : toExpr (ds.headD (.call (.ident "m") [])) = some e)
    (ran : evaluate place steps e m = .ok w m') :
    ∃ c, w = .object c ∧ m'.store.get? c = some (.cell v) ∧ m.Follows m' := by
  have constant (l k values m1) (all : evaluateAll place k [.constant l] m = .ok values m1) :
      values = [literal l] ∧ m1 = m := by
    obtain ⟨k, u, first, rfl⟩ := evaluateAll_single_inv all
    cases k <;> cases first
    exact ⟨rfl, rfl⟩
  cases starts with
  | nothing =>
    obtain rfl : .call (.name "m") [] = e := Option.some.inj ((toExpr_wrap []).symm.trans written)
    obtain ⟨rfl, rfl⟩ := evaluate_wrap_inv imports (fun _ _ _ => evaluateAll_nil_inv) rfl ran
    exact ⟨_, rfl, get?_push_size m _, follows_push m _⟩
  | literal l =>
    obtain rfl : .call (.name "m") [.constant l] = e :=
      Option.some.inj ((toExpr_wrap [.constant l]).symm.trans written)
    obtain ⟨rfl, rfl⟩ := evaluate_wrap_inv imports (constant l) (wrap_literal l m) ran
    exact ⟨_, rfl, get?_push_size m _, follows_push m _⟩
  | null =>
    have none : toExpr (.call (.ident "NULL") []) = some (.call (.name "NULL") []) := by
      rfl
    obtain rfl : .call (.name "m") [.call (.name "NULL") []] = e := by
      refine Option.some.inj (Eq.trans ?_ written)
      change _ = toExpr (.call (.ident "m") [.call (.ident "NULL") []])
      rfl
    have absent (k values m1)
        (all : evaluateAll place k [.call (.name "NULL") []] m = .ok values m1) :
        values = [.null] ∧ m1 = m := by
      obtain ⟨k, u, first, rfl⟩ := evaluateAll_single_inv all
      obtain ⟨k, given, m2, listed, called⟩ := evaluate_library_inv imports.2 (by simp) (by simp) first
      obtain ⟨rfl, rfl⟩ := evaluateAll_nil_inv listed
      cases called
      exact ⟨rfl, rfl⟩
    obtain ⟨rfl, rfl⟩ := evaluate_wrap_inv imports absent rfl ran
    exact ⟨_, rfl, get?_push_size m _, follows_push m _⟩
  | @negative l n number =>
    obtain rfl : .negative (.call (.name "m") [.constant l]) = e := by
      refine Option.some.inj (Eq.trans ?_ written)
      change _ = toExpr (.negative (.call (.ident "m") [.constant l]))
      rfl
    cases steps with
    | zero => cases ran
    | succ k =>
      obtain ⟨u, m1, first, negated⟩ := ok_of_bind ran
      obtain ⟨rfl, rfl⟩ := evaluate_wrap_inv imports (constant l) (wrap_literal l m) first
      have bare (m) : negBare (literal l) m = .ok n.neg.toValue m := by
        have same : negBare (literal l) = (literal l).number?.elim (fail .unsuited)
            (pure ·.neg.toValue) := by cases l <;> rfl
        rw [same, number]
        rfl
      rw [neg, bind_ok (cell?_cell (get?_push_size m _))] at negated
      dsimp only at negated
      rw [bind_ok (bare _), wrap_toValue] at negated
      cases negated
      exact ⟨_, rfl, get?_push_size _ _, (follows_push m _).trans (follows_push _ _)⟩

lemma compile_declaration (id : IsIdentifier t) (starts : Starts ds v)
    (parts : compileAll src ts s = .ok (ds, s1))
    (comp : compile src (.node .variableDeclaration (t :: ts)) s = .ok ([d], s2)) :
    d = .assign (.ident t.capitals) (ds.headD (.call (.ident "m") [])) := by
  obtain ⟨_, s3, whole, assembled⟩ := parts_of_compile comp
  obtain ⟨rest, rfl, later⟩ := compileAll_identifier_inv id whole
  cases parts.symm.trans later
  cases starts <;>
  · cases assembled
    rfl

lemma toStmts_declaration (written : toStmts (.assign (.ident name) init) = some [stmt]) :
    ∃ e, stmt = .assign name e ∧ toExpr init = some e := by
  rw [toStmts, identifier?] at written
  obtain ⟨x, named, rest⟩ := bind_eq_some_iff.1 written
  obtain ⟨e, initial, result⟩ := bind_eq_some_iff.1 rest
  obtain ⟨y, label, plain⟩ := bind_eq_some_iff.1 named
  cases label
  split at plain
  · grind
  · cases plain

lemma holds_declared (starts : Starts ds v)
    (written : toExpr (ds.headD (.call (.ident "m") [])) = some e)
    (here : place.package = some owner) (found : m.store.get? owner = some (.package p))
    (alone : ∀ b, ¬ m.Derives b owner) (imports : place.Imports m)
    (ran : execute place steps (.assign name e) m = .ok flow m')
    (bound : m'.slot? (.package owner name) = some (.object c)) : m'.Holds owner name c v := by
  cases steps with
  | zero => cases ran
  | succ steps =>
    obtain ⟨w, m1, evaluated, ran⟩ := ok_of_bind ran
    obtain ⟨d, rfl, cell, follows⟩ := evaluate_starts starts imports written evaluated
    have slot : place.slot name = .package owner name := by
      rw [Place.slot, here]
    have has : m1.Has (place.slot name) := by
      rw [slot]
      exact ⟨p, (follows.get?_program (o := .package p) trivial).2 found⟩
    rw [bind_ok (bindName_eq has _)] at ran
    cases ran
    rw [slot] at has bound ⊢
    cases (slot?_bound_self has).symm.trans bound
    refine ⟨slot?_bound_self has, ?_, fun b derives => ?_⟩
    · rw [get?_bound_cell has ⟨v, cell⟩]
      exact cell
    · exact absurd (follows.derives_iff.1 derives.bound_old) (alone b)

/-- `History source package name owner c v m`: a variable of a package was declared by the class at
`owner`, with the cell at `c`. The machine `m` comes from assignments to the variable, in any of the
places that can refer to it, and from whatever passes it by, and `v` was assigned last. -/
inductive History (source package name : String) (owner c : Nat) : Value → Machine → Prop where
  | declared (id : IsIdentifier t) (named : t.capitals = name)
      (parts : compileAll source ts s = .ok (ds, s₁)) (starts : Starts ds v)
      (compiled : compile source (.node .variableDeclaration (t :: ts)) s = .ok ([d], s₂))
      (written : toStmts d = some [stmt]) (here : place.package = some owner)
      (found : m.store.get? owner = some (.package p)) (alone : ∀ b, ¬ m.Derives b owner)
      (imports : place.Imports m) (ran : execute place steps stmt m = .ok flow m')
      (bound : m'.slot? (.package owner name) = some (.object c)) :
      History source package name owner c v m'
  | passed (before : History source package name owner c v m)
      (passes : m.PassesBy owner name c m') : History source package name owner c v m'
  /-- The value is found first, and meanwhile there can be other assignments to the variable. -/
  | assigned (before : History source package name owner c v m)
      (access : Access source package name s u)
      (compiled : compile source (.node .assignmentStatement (u :: ts)) s = .ok ([d], s'))
      (written : toStmts d = some [.update target e])
      (sees : place.Sees m package (.object b)) (of : m.IsClassOf owner b)
      (valued : evaluate place steps e m = .ok w m₁)
      (during : History source package name owner c v₁ m₁) (taken : m₁.taken? w = some latest)
      (ran : execute place (steps + 1) (.update target e) m = .ok flow m') :
      History source package name owner c latest m'

section

variable {package : String} (plain : isIdentifier package = true)
  (plain' : isIdentifier name = true)
include plain plain'

lemma Access.written (access : Access src package name s u)
    (comp : compile src (.node .assignmentStatement (u :: ts)) s = .ok ([d], s'))
    (written : toStmts d = some stmts) :
    ∃ e, stmts = [.update (.attribute (.name package) name) e] := by
  obtain ⟨value, same⟩ := access.assigned comp
  cases same
  exact toStmts_writing plain plain' written

/-- All along a history the variable has its cell, with what was assigned last. -/
lemma History.holds (history : History src package name owner c v m) : m.Holds owner name c v := by
  induction history with
  | declared id named parts starts comp written here found alone imports ran bound =>
    subst named
    cases compile_declaration id starts parts comp
    obtain ⟨e, rfl, initial⟩ := toStmts_declaration written
    exact holds_declared starts initial here found alone imports ran bound
  | passed before passes ih => exact ih.pass passes
  | assigned before access comp written sees of valued during taken ran holds holds1 =>
    obtain ⟨e, same⟩ := Access.written plain plain' access comp written
    cases same
    obtain ⟨m', result, holds'⟩ := execute_writing holds sees of valued holds1 taken
    cases result.symm.trans ran
    exact holds'

end

lemma toStmts_classDef {body : List Draft}
    (written : toStmts (.classDef name body [.ident base]) = some [stmt]) :
    ∃ stmts, stmt = .classDef name [base] stmts := by
  obtain ⟨_, -, rest⟩ := bind_eq_some_iff.1 written
  obtain ⟨bases, named, rest⟩ := bind_eq_some_iff.1 rest
  obtain ⟨stmts, -, result⟩ := bind_eq_some_iff.1 rest
  rw [mapM_cons, List.mapM_nil, identifier?] at named
  obtain ⟨x, label, single⟩ := bind_eq_some_iff.1 named
  obtain ⟨y, same, plain⟩ := bind_eq_some_iff.1 label
  cases same
  split at plain
  · grind
  · cases plain

lemma basesOf_single (sees : place.Sees m base (.object a))
    (found : basesOf place [base] m = .ok bases m') :
    bases = [a] ∧ m' = m := by
  rw [basesOf, mapM_cons] at found
  obtain ⟨b, m1, first, rest⟩ := ok_of_bind found
  cases rest
  rw [bind_ok sees.lookUp] at first
  dsimp only at first
  rw [bind_ok (load?_eq m a)] at first
  cases there : m.store.get? a with
  | none =>
    rw [there] at first
    cases first
  | some o =>
    rw [there] at first
    cases o <;> cases first
    exact ⟨rfl, rfl⟩

lemma execute_body {package : String} (named : namesOf ts .packageName = package :: others)
    (comp : compile src (.node .createPackageBody ts) s = .ok ([d], s'))
    (written : toStmts d = some [stmt])
    (specified : Place.Sees {} m (specificationName package) (.object a))
    (ran : execute {} steps stmt m = .ok flow m') :
    Place.Sees {} m' package (.object m.store.size) ∧ m'.Derives m.store.size a := by
  rw [compile, named] at comp
  obtain ⟨_, _, entered, next⟩ := bind_inv comp
  obtain ⟨parts, s1, -, returned⟩ := bind_inv next
  cases returned
  obtain ⟨body, rfl⟩ := toStmts_classDef written
  cases steps with
  | zero => cases ran
  | succ steps =>
    obtain ⟨bases, m1, based, rest⟩ := ok_of_bind ran
    obtain ⟨rfl, rfl⟩ := basesOf_single specified based
    obtain ⟨b, m2, allocated, rest⟩ := ok_of_bind rest
    cases allocated
    obtain ⟨flow', m3, inner, rest⟩ := ok_of_bind rest
    cases rest
    have made : (m1.push (.package { name := package, bases := [a], members := [] })).Derives
        m1.store.size a := ⟨_, get?_push_size m1 _, rfl⟩
    have ends := (bears_advances.safe steps).executeAll { package := some m1.store.size } body
      (fun _ _ _ _ _ => trivial)
      (m1.push (.package { name := package, bases := [a], members := [] })) (.refl _)
    have derived : m3.Derives m1.store.size a := made.advance (ends.ok inner).1
    exact ⟨⟨rfl, [], none, .program, Bindings.get?_set_self _ _ _⟩, derived⟩

/-- All along the history of a variable of a package, the classes of the package have one cell for
it, with the value that was assigned last. Every reference to the variable reads this cell, and
every assignment to it succeeds and goes on with the history. Operations on other values, new
objects and other names pass the variable by, and in a program whose declarations make what they
bind, assignments to all other variables do. -/
theorem latest_assignment_read {source package name : String} {owner c : Nat} {v : Value}
    {m : Machine} (plain : isIdentifier package = true) (plain' : isIdentifier name = true)
    (history : History source package name owner c v m) :
    (m.store.get? c = some (.cell v) ∧
      ∀ b, m.IsClassOf owner b → Library.member (.object b) name m = .ok (.object c) m) ∧
    (∀ s u, Access source package name s u →
      ∃ d s' e, compile source u s = .ok ([d], s') ∧ toExpr d = some e ∧
        ∀ (place : Run.Place) (b steps : Nat), place.Sees m package (.object b) →
          m.IsClassOf owner b → evaluate place (steps + 3) e m = .ok (.object c) m) ∧
    (∀ s u ts d s' stmts, Access source package name s u →
      compile source (.node .assignmentStatement (u :: ts)) s = .ok ([d], s') →
      toStmts d = some stmts →
      ∃ target e, stmts = [.update target e] ∧
        ∀ (place : Run.Place) (b steps : Nat) (w v₁ latest : Value) (m₁ : Machine),
          place.Sees m package (.object b) → m.IsClassOf owner b →
          evaluate place steps e m = .ok w m₁ → History source package name owner c v₁ m₁ →
          m₁.taken? w = some latest →
          ∃ m', execute place (steps + 1) (.update target e) m = .ok .next m' ∧
            History source package name owner c latest m') ∧
    (∀ (children : List (Tree Token)) (others : List String) (s s' : Scope) (d : Draft)
      (stmt : Stmt) (steps a : Nat) (m₁ m₂ : Machine) (flow : Flow),
      namesOf children .packageName = package :: others →
      compile source (.node .createPackageBody children) s = .ok ([d], s') →
      toStmts d = some [stmt] → Place.Sees {} m₁ (specificationName package) (.object a) →
      execute {} steps stmt m₁ = .ok flow m₂ →
      Place.Sees {} m₂ package (.object m₁.store.size) ∧ m₂.IsClassOf a m₁.store.size) ∧
    (∀ m', m.Follows m' → m'.store.get? c = m.store.get? c → m.PassesBy owner name c m') ∧
    (∀ o, (∀ p, o = .package p → p.members.get? name = none) →
      m.PassesBy owner name c (m.push o)) ∧
    (∀ s w, m.Has s → (∀ b, s ≠ .package b name) → m.PassesBy owner name c (m.bound s w)) ∧
    (∀ (role : String → Role) (program : List Stmt) (calls : Calls) (place : Run.Place)
      (body : List Stmt), (∀ x u, Library.exported? x = some u → role x = .library) →
      areTame role [] false program = true → Reached program calls place body m →
      ∀ (t : Slot) (d : Nat), t.Counts calls → ¬ m.SameVariable (.package owner name) t →
        m.slot? t = some (.object d) → m.IsCell d →
        ∀ w, Ends (PassesBy owner name c) (assign (.object d) w) m fun _ _ => True) := by
  have holds := history.holds plain plain'
  refine ⟨⟨holds.cell, fun b of => holds.member_eq of⟩, ?_, ?_, ?_,
    fun m' follows same => holds.passesBy follows same,
    fun o unnamed => holds.passesBy_push unnamed,
    fun s w has other => holds.passesBy_bound has other, ?_⟩
  · intro s u access
    obtain ⟨s', compiled⟩ := access.compiled
    exact ⟨_, s', _, compiled, toExpr_reading plain plain',
      fun place b steps sees of => evaluate_reading holds sees of steps⟩
  · intro s u ts d s' stmts access compiled written
    obtain ⟨e, rfl⟩ := Access.written plain plain' access compiled written
    refine ⟨_, e, rfl, ?_⟩
    intro place b steps w v₁ latest m₁ sees of valued during taken
    obtain ⟨m', ran, -⟩ := execute_writing holds sees of valued (during.holds plain plain') taken
    exact ⟨m', ran, .assigned history access compiled written sees of valued during taken ran⟩
  · intro children others s s' d stmt steps a m₁ m₂ flow named compiled written specified ran
    obtain ⟨sees, derives⟩ := execute_body named compiled written specified ran
    exact ⟨sees, .inr derives⟩
  · intro role program calls place body known tame reached t d counts different bound cell w
    obtain ⟨mine, kept⟩ := reached.kept known tame
    have apart : d ≠ c := by
      rintro rfl
      exact different (kept.separated.apart _ t d trivial counts cell holds.declared bound)
    refine Ends.of_forall_leads fun m' leads => ?_
    have follows : m.Follows m' := Ends.of_leads (keeps_assign (.object d) w m) leads
    have same := Ends.of_leads (ends_assign_only d w m) leads c _ apart holds.cell
    exact holds.passesBy follows (same.trans holds.cell.symm)

/-! A package whose procedure assigns to the variable of its specification, and a block that reads
the variable. -/

open Core (leafOf nameTree referenceTree numeralTree)

def specificationTree : Tree Token :=
  .node .createPackage (headingTrees "p" ++ ([variableTree "x"] ++ []))

def bodyTrees : List (Tree Token) := headingTrees "p" ++ [procedureTree "q" (assignmentTree "x")]

def qualifiedTree (package id : String) : Tree Token :=
  .node .generalElement [.node .generalElementPart
    [.node .idExpression [nameTree package], leafOf .PERIOD ".",
      .node .idExpression [nameTree id]]]

def readingTree : Tree Token :=
  .node .anonymousBlock
    [leafOf .BEGIN "begin",
      .node .seqOfStatements
        [.node .statement [.node .assignmentStatement
          [referenceTree "y", leafOf .ASSIGN_OP ":=", qualifiedTree "p" "x"]],
          leafOf .SEMICOLON ";"],
      leafOf .END "end", leafOf .SEMICOLON ";"]

lemma isPart_x : IsPart (.node .idExpression [nameTree "x"]) "X" := ⟨⟨_, rfl⟩, by decide +kernel⟩

lemma isPart_p : IsPart (.node .idExpression [nameTree "p"]) "P" := ⟨⟨_, rfl⟩, by decide +kernel⟩

def completedScope : Scope :=
  { package := some "P", declared := ["X", "P", "Q"], ownMembers := none }

lemma compile_specification : ∃ gs, compile "" specificationTree {} = .ok (gs, specifiedScope) :=
  ⟨_, by with_unfolding_all rfl⟩

lemma compile_bodyTrees : ∃ ds, compile "" (.node .createPackageBody bodyTrees) specifiedScope =
      .ok (ds, completedScope) :=
  ⟨_, by with_unfolding_all rfl⟩

lemma access_bare :
    Access "" "P" "X" (specifiedScope.enterBody "P").routine (referenceTree "x") := by
  have before : compileAll "" (headingTrees "p" ++ []) (specifiedScope.enterBody "P") =
      .ok (_, specifiedScope.enterBody "P") := rfl
  have visits : Visits "" (specifiedScope.enterBody "P") (procedureTree "q" (assignmentTree "x"))
      (specifiedScope.enterBody "P").routine (referenceTree "x") :=
    visits_statement (.first (.inl (by decide)) .here)
  have stands : InRoutine "" "P" specifiedScope [] (specifiedScope.enterBody "P").routine
      (referenceTree "x") :=
    .mk (by decide) (by simp) before (isMember_procedure "q" _) (by decide) visits
  exact .alone stands (.inl (by decide)) not_mem_nil (by decide) (.alone isPart_x)

lemma compile_bare : ∃ s', compile "" (assignmentTree "x") (specifiedScope.enterBody "P").routine =
      .ok ([.update (memberDraft "P" "X") (.cell (.constant (.int 1)))], s') :=
  ⟨_, by with_unfolding_all rfl⟩

lemma visits_qualified :
    Visits "" completedScope readingTree (completedScope.require "Y") (qualifiedTree "p" "x") := by
  refine .inside (.inl (by decide)) (show _ = [_] ++ _ :: _ from rfl) rfl ?_
  refine .first (.inl (by decide)) ?_
  refine .first (.inl (by decide)) ?_
  exact .inside (.inl (by decide)) (show _ = [_, _] ++ _ :: _ from rfl)
    (by with_unfolding_all rfl) .here

lemma access_qualified :
    Access "" "P" "X" (completedScope.require "Y") (qualifiedTree "p" "x") := by
  obtain ⟨ds, body⟩ := compile_bodyTrees
  have named : namesOf bodyTrees .packageName = ["P"] := by decide +kernel
  exact .outside (.mk named body (by decide) compileAll_nil rfl visits_qualified (by decide))
    (.both isPart_p ⟨_, rfl⟩ isPart_x)

def specifyingMachine : Machine :=
  (outcome 3 [.importAll "PLHELPER"]).push
    (.package { name := "_P_spec", bases := [], members := [] })

def declaredMachine : Machine :=
  (execute { package := some 1 } 4 (.assign "X" (.call (.name "m") []))).after specifyingMachine

def callingMachine : Machine :=
  ((declaredMachine.push (.package { name := "P", bases := [1], members := [] })).bound
    (.global "P") (.object 3)).push (.frame { own := [], values := [], outer := none })

def assignedMachine : Machine :=
  (execute { frame := some 4 } 5 (.update (.attribute (.name "P") "X") (newCell 1))).after
    callingMachine

lemma history_declared : History "" "P" "X" 1 2 .null declaredMachine := by
  have written : toStmts (.assign (.ident (identifierTree "x").capitals) (.call (.ident "m") [])) =
      some [.assign "X" (.call (.name "m") [])] := by
    with_unfolding_all rfl
  have cell : specifyingMachine.store.get? 0 = some (.cell (.int 0)) := by rfl
  have package : specifyingMachine.store.get? 1 =
      some (.package { name := "_P_spec", bases := [], members := [] }) := by rfl
  have size : specifyingMachine.store.size = 2 := by rfl
  have ran : execute { package := some 1 } 4 (.assign "X" (.call (.name "m") []))
      specifyingMachine = .ok .next declaredMachine := rfl
  have comp : compile "" (declarationTree "x") {} = .ok ([.assign
      (.ident (identifierTree "x").capitals) (.call (.ident "m") [])], _) := rfl
  refine .declared (isIdentifier_tree "x") capitals_x (show compileAll "" _ {} = _ from rfl)
    .nothing comp written rfl package (fun b derives => ?_) ⟨rfl, rfl⟩ ran (by rfl)
  obtain ⟨p, found, bases⟩ := derives
  have small : b < 2 := size ▸ get?_lt found
  obtain rfl | rfl : b = 0 ∨ b = 1 := by omega
  · cases cell.symm.trans found
  · grind

lemma history_calling : History "" "P" "X" 1 2 .null callingMachine := by
  have global : History "" "P" "X" 1 2 .null
      (declaredMachine.push (.package { name := "P", bases := [1], members := [] })) :=
    history_declared.passed ((history_declared.holds (by decide) (by decide)).passesBy_push
      fun p same => by cases same; rfl)
  have named := global.passed ((global.holds (by decide) (by decide)).passesBy_bound
    (s := .global "P") (w := .object 3) trivial nofun)
  exact named.passed ((named.holds (by decide) (by decide)).passesBy_push nofun)

lemma derives_calling : callingMachine.Derives 3 1 := ⟨_, rfl, rfl⟩

lemma history_assigned : History "" "P" "X" 1 2 (.int 1) assignedMachine := by
  obtain ⟨s', comp⟩ := compile_bare
  have written : toStmts (.update (memberDraft "P" "X") (.cell (.constant (.int 1)))) =
      some [.update (.attribute (.name "P") "X") (newCell 1)] := by rfl
  have frame : callingMachine.store.get? 4 =
      some (.frame { own := [], values := [], outer := none }) := by rfl
  have sees : Place.Sees { frame := some 4 } callingMachine "P" (.object 3) :=
    ⟨rfl, [4], none, .around frame not_mem_nil .program, by rfl⟩
  have valued : evaluate { frame := some 4 } 4 (newCell 1) callingMachine =
      .ok (.object 5) (callingMachine.push (.cell (.int 1))) := by rfl
  have during := history_calling.passed
    ((history_calling.holds (by decide) (by decide)).passesBy_push (o := .cell (.int 1)) (by simp))
  exact .assigned history_calling access_bare comp written sees
    (.inr derives_calling) valued during (by rfl) rfl

/-- The block reads what the procedure has assigned, and both classes have it. -/
theorem assigned_variable_read :
    ∃ gs s ds s₁ s₂ d s₃ e,
      compile "" specificationTree {} = .ok (gs, s) ∧
      compile "" (.node .createPackageBody bodyTrees) s = .ok (ds, s₁) ∧
      Visits "" s₁ readingTree s₂ (qualifiedTree "p" "x") ∧
      compile "" (qualifiedTree "p" "x") s₂ = .ok ([d], s₃) ∧ toExpr d = some e ∧
      evaluate {} 3 e assignedMachine = .ok (.object 2) assignedMachine ∧
      assignedMachine.store.get? 2 = some (.cell (.int 1)) ∧
      Library.member (.object 1) "X" assignedMachine = .ok (.object 2) assignedMachine ∧
      Library.member (.object 3) "X" assignedMachine = .ok (.object 2) assignedMachine := by
  obtain ⟨gs, specification⟩ := compile_specification
  obtain ⟨ds, body⟩ := compile_bodyTrees
  obtain ⟨⟨cell, members⟩, reads, -⟩ :=
    latest_assignment_read (by decide) (by decide) history_assigned
  obtain ⟨d, s₃, e, compiled, written, read⟩ := reads _ _ access_qualified
  have heir : assignedMachine.IsClassOf 1 3 := .inr ⟨_, rfl, rfl⟩
  have sees : Place.Sees {} assignedMachine "P" (.object 3) := ⟨rfl, [], none, .program, rfl⟩
  exact ⟨gs, _, ds, _, _, d, s₃, e, specification, body, visits_qualified, compiled, written,
    read {} 3 0 sees heir, cell, members 1 (.inl rfl), members 3 heir⟩

def initialiserProgram : List Stmt :=
  [.importAll "PLHELPER", .classDef "_P_spec" [] [.assign "X" (newCell 1)],
    .classDef "P" ["_P_spec"] [.function "Q" [] true [.pass]],
    .assign "Y" (.call (.attribute (.name "P") "X") []), .assign "Z" (.call (.name "m") []),
    .update (.name "Y") (newCell 7),
    .update (.name "Z") (.call (.attribute (.name "P") "X") [])]

/-- An assignment to the other variable changes what is read of the package, though nothing is
assigned to a variable of the package. -/
theorem unassigned_variable_changed :
    (∀ target e, .update target e ∈ initialiserProgram →
      target = .name "Y" ∨ target = .name "Z") ∧
    ¬ (outcome 12 initialiserProgram).SameVariable (.global "Y") (.package 1 "X") ∧
    (outcome 12 initialiserProgram).slot? (.global "Y") = some (.object 2) ∧
    (outcome 12 initialiserProgram).slot? (.package 1 "X") = some (.object 2) ∧
    (outcome 12 initialiserProgram).store.get? 2 = some (.cell (.int 7)) ∧
    (outcome 12 initialiserProgram).slot? (.global "Z") = some (.object 5) ∧
    (outcome 12 initialiserProgram).store.get? 5 = some (.cell (.int 7)) := by
  obtain ⟨own, seven⟩ := of_hasNumber (outcome 12 initialiserProgram) (.global "Y") 2 7
  obtain ⟨shared, -⟩ := of_hasNumber (outcome 12 initialiserProgram) (.package 1 "X") 2 7
  obtain ⟨copy, same⟩ := of_hasNumber (outcome 12 initialiserProgram) (.global "Z") 5 7
  refine ⟨fun target e member => ?_, fun same => ?_, own, shared, seven, copy, same⟩
  · simp [initialiserProgram] at member
    exact member.imp And.left And.left
  · exact absurd (same.eq_of_not_package (by simp)) (by simp)

end Run
end BlockScript
