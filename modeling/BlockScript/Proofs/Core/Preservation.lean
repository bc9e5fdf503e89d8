import BlockScript.Proofs.Core.Program
import BlockScript.Proofs.Core.Simulation
import BlockScript.Report
import BlockScript.Target.Check

/-!
Blocks of the imperative core keep their meaning: the program of a block ends exactly if the block
does, never fails, and shows each declared variable with its value.
-/

namespace BlockScript

variable {p : Target.Program}

lemma mem_eraseReps_loop [BEq α] [LawfulBEq α] (x a : α) (as acc : List α) :
    x ∈ List.eraseRepsBy.loop (· == ·) a as acc ↔ x ∈ a :: as ∨ x ∈ acc := by
  induction as generalizing a acc with
  | nil => simp [List.eraseRepsBy.loop, or_comm]
  | cons b as ih =>
    rw [List.eraseRepsBy.loop]
    split
    · grind
    · grind

lemma mem_eraseReps [BEq α] [LawfulBEq α] {as : List α} : x ∈ as.eraseReps ↔ x ∈ as := by
  cases as with
  | nil => rfl
  | cons a as => simp [List.eraseReps, List.eraseRepsBy, mem_eraseReps_loop]

lemma Target.Program.mem_ownNames : name ∈ p.ownNames ↔ name ∈ boundInAll p.body := by
  rw [ownNames, mem_eraseReps, List.mem_mergeSort]

lemma Report.mem_bindings {failure : Option Failure} :
    (name, s) ∈ (Report.of p m failure).bindings ↔ name ∈ Target.boundInAll p.body ∧
        ∃ v, m.globals.get? name = some v ∧ s = .ofVariable m.store v := by
  rw [Report.of, List.mem_filterMap]
  constructor
  · rintro ⟨other, own, shown⟩
    obtain ⟨v, bound, same⟩ := map_eq_some_iff.1 shown
    cases same
    exact ⟨Target.Program.mem_ownNames.1 own, v, bound, rfl⟩
  · rintro ⟨own, v, bound, rfl⟩
    exact ⟨name, Target.Program.mem_ownNames.2 own, by rw [bound]; rfl⟩

lemma Snapshot.ofVariable_cell (found : s.get? a = some (.cell (.int n))) :
    Snapshot.ofVariable s (.object a) = .cell (.int n) := by
  simp [ofVariable, take, takeWithin, found]

namespace Run
open Eval

lemma report?_isSome (settles : Settles enough (executeAll {} steps p.body {}) P)
    (granted : enough) : ∃ r, report? steps p = some r := by
  obtain ⟨flow, m, ended, -⟩ := settles.ends granted
  exact ⟨.of p m none, by simp only [report?, EStateM.run, ended]⟩

lemma report?_settled (settles : Settles enough (executeAll {} steps p.body {}) P)
    (reported : report? steps p = some r) : ∃ flow m, P flow m ∧ r = .of p m none := by
  rw [report?, EStateM.run] at reported
  rcases result : executeAll {} steps p.body {} with ⟨flow, m⟩ | ⟨cause | _, m⟩ <;>
    rw [result] at settles reported
  · cases reported
    exact ⟨flow, m, settles, rfl⟩
  · exact settles.elim
  · cases reported

end Run
end BlockScript

namespace BlockScript.Core
open Compile Eval Run Target

lemma settles_line {Q : Machine → Prop} (granted : enough → 1 ≤ steps)
    (first : Settles enough (execute place (steps - 1) s m) fun flow m' => flow = .next ∧ Q m')
    (rest : ∀ m', Q m' → Settles enough (executeAll place (steps - 1) stmts m') P) :
    Settles enough (executeAll place steps (s :: stmts) m) P := by
  cases steps with
  | zero => exact .short granted (by decide)
  | succ k =>
    refine first.bind ?_
    rintro _ m' ⟨rfl, due⟩
    exact rest m' due

def imported (m : Machine) (package : String) : Machine :=
  { m with globals := m.globals.setAll ((Library.exports? package).getD []) }

lemma importAll_eq (known : (Library.exports? pkg).isSome) :
    Run.importAll pkg m = .ok () (imported m pkg) := by
  obtain ⟨names, exported⟩ := Option.isSome_iff_exists.1 known
  rw [Run.importAll, imported, exported]
  rfl

lemma settles_imports {packages : List String}
    (known : ∀ pkg ∈ packages, (Library.exports? pkg).isSome)
    (granted : enough → packages.length < steps)
    (rest : Settles enough
      (executeAll {} (steps - packages.length) stmts (packages.foldl imported m)) P) :
    Settles enough (executeAll {} steps (packages.map .importAll ++ stmts) m) P := by
  induction packages generalizing steps m with
  | nil => exact rest
  | cons pkg packages ih =>
    have enough_steps (given) : packages.length + 1 < steps := granted given
    refine settles_line (Q := fun m' => m' = imported m pkg)
      (fun given => by have := enough_steps given; omega) ?_ ?_
    · rcases steps with _ | _ | k
      · exact .short enough_steps (by omega)
      · exact .short enough_steps (by omega)
      · rw [Nat.add_sub_cancel, execute, bind_ok (importAll_eq (known pkg mem_cons_self))]
        exact ⟨rfl, rfl⟩
    · rintro _ rfl
      refine ih (fun other mem => known other (mem_cons_of_mem _ mem))
        (fun given => by have := enough_steps given; omega) ?_
      rwa [Nat.sub_sub, Nat.add_comm 1]

lemma settles_initial (sees : place.Sees m Routine.wrap.name (.routine .wrap)) (i : Initial) :
    Settles (6 ≤ steps) (evaluate place steps i.arith.target m) fun v m' =>
      ∃ m1, m.Grows m1 ∧ v = .object m1.store.size ∧ m' = m1.push (.cell (.int i.value)) := by
  rw [Initial.arith, Initial.value]
  split
  · cases steps with
    | zero => exact .exhausted (by decide)
    | succ k =>
      refine ((settles_number sees i.magnitude).fewer (by omega)).bind ?_
      rintro _ _ ⟨rfl, rfl⟩
      exact .of_ok (neg_cell (m.get?_push_size _)) ⟨_, .push m _, rfl, rfl⟩
  · refine ((settles_number sees i.magnitude).fewer (by omega)).mono ?_
    rintro _ _ ⟨rfl, rfl⟩
    exact ⟨m, .refl m, rfl, rfl⟩

lemma settles_declarations {names : List String} {site : Site names given}
    {ds : List (String × Initial)} (agrees : Agrees site scope σ m)
    (ne : (ds.map (·.1)).Nodup) (fresh : ∀ d ∈ ds, d.1 ∉ scope)
    (own : ∀ d ∈ ds, d.1 ∈ names)
    (values : ∀ d ∈ ds, σ d.1 = d.2.value) (granted : enough → ds.length + 8 ≤ steps)
    (rest : ∀ m', Agrees site (ds.map (·.1) ++ scope) σ m' →
      Settles enough (executeAll site.place (steps - ds.length) stmts m') P) :
    Settles enough (executeAll site.place steps (ds.map declarationTarget ++ stmts) m) P := by
  induction ds generalizing scope steps m with
  | nil => exact rest m agrees
  | cons d ds ih =>
    obtain ⟨name, initial⟩ := d
    have enough_steps (given) : ds.length + 1 + 8 ≤ steps := granted given
    rw [map_cons, nodup_cons] at ne
    have value : σ.set name initial.value = σ := by
      rw [← values (name, initial) mem_cons_self]
      funext other
      rw [State.set]
      split <;> simp_all
    have here := own (name, initial) mem_cons_self
    refine settles_line (Q := Agrees site (name :: scope) σ)
      (fun given => by have := enough_steps given; omega) ?_ fun m' same => ?_
    · rcases steps with _ | _ | k
      · exact .short enough_steps (by omega)
      · exact .short enough_steps (by omega)
      · rw [Nat.add_sub_cancel]
        refine ((settles_initial (agrees.helper .wrap (by decide)) initial).fewer ?_).bind ?_
        · exact fun given => by have := enough_steps given; omega
        rintro _ _ ⟨m1, grows, rfl, rfl⟩
        have has := ((agrees.binds name (mem_append_left _ here)).advance
          (grows.trans (.push m1 (.cell (.int initial.value)))).advances).has
        rw [bind_ok (bindName_eq has _)]
        refine ⟨rfl, ?_⟩
        rw [← value]
        exact (agrees.grows grows).declare here (fresh _ mem_cons_self)
    · refine ih same ne.2 ?_ (fun d mem => own d (mem_cons_of_mem _ mem))
        (fun d mem => values d (mem_cons_of_mem _ mem))
        (fun given => by have := enough_steps given; omega) fun m'' all => ?_
      · grind
      · rw [Nat.sub_sub, Nat.add_comm 1]
        refine rest m'' (all.narrow ?_)
        intro other mem
        simp only [map_cons, cons_append, mem_cons, mem_append] at mem ⊢
        tauto

section

variable {b : Block}

lemma lookup_of_mem {ds : List (String × β)} (ne : (ds.map (·.1)).Nodup) (mem : d ∈ ds) :
    ds.lookup d.1 = some d.2 := by
  induction ds with
  | nil => cases mem
  | cons e ds ih => grind

lemma initialState_declared (ne : b.declared.Nodup) (mem : d ∈ b.declarations) :
    b.initialState d.1 = d.2.value := by
  rw [Block.initialState, lookup_of_mem ne mem]
  rfl

lemma IsOwn.ne_helper (own : IsOwn name) (known : r ∈ helpers) : r.name ≠ name := by
  rintro rfl
  have exported : ∀ r ∈ helpers, r.name ∈ ((Library.exports? "PLHELPER").getD []).names := by
    decide
  exact own "PLHELPER" _ rfl (exported r known)

def Block.WellFormed.site (well : b.WellFormed) : Site b.names [] where
  place := {}
  base := alwaysImported.foldl imported {}
  unshared name member _ known := (well.own name member).ne_helper known
  new _ _ := not_mem_nil
  known := nofun

lemma agrees_imported (well : b.WellFormed) (σ : State) :
    Agrees well.site [] σ (alwaysImported.foldl imported {}) where
  helper r known := by
    refine ⟨rfl, [], none, .program, ?_⟩
    fin_cases known <;> rfl
  binds _ _ := ⟨rfl, nofun⟩
  visible := nil_subset _
  cell := nofun
  apart := nofun
  younger := nofun
  spares := .refl well.site

lemma settles_program (well : b.WellFormed) (granted : enough → b.declarations.length + 11 ≤ steps)
    (body : ∀ m', Agrees well.site (b.declared ++ []) b.initialState m' →
      Settles enough ((Task.sequence b.body).run {} (steps - 3 - b.declarations.length) m') P) :
    Settles enough (executeAll {} steps b.program.body {}) P := by
  have own : ∀ d ∈ b.declarations, d.1 ∈ b.names := fun d mem =>
    mem_append_left _ (mem_map_of_mem mem)
  refine settles_imports (by decide) (fun given => ?_) ?_
  · have := granted given
    change 3 < steps
    omega
  · refine settles_declarations (agrees_imported well b.initialState) well.distinct
      (fun _ _ => not_mem_nil) own
      (fun d => initialState_declared well.distinct) (fun given => ?_) body
    have := granted given
    change b.declarations.length + 8 ≤ steps - 3
    omega

def Block.ShownBy (b : Block) (r : Report) (σ : State) : Prop :=
  ∀ name ∈ b.declared, ∀ s, (name, s) ∈ r.bindings ↔ s = .cell (.int (σ name))

lemma boundInAll_append (first second : List Stmt) :
    boundInAll (first ++ second) = boundInAll first ++ boundInAll second := by
  induction first with
  | nil => rfl
  | cons s first ih => simp [boundInAll, ih]

lemma boundInAll_declarations (ds : List (String × Initial)) :
    boundInAll (ds.map declarationTarget) = ds.map (·.1) := by
  induction ds with
  | nil => rfl
  | cons d ds ih => simp [boundInAll, declarationTarget, Stmt.bound, ih]

lemma shownBy_of_agrees {well : b.WellFormed} (agrees : Agrees well.site b.declared σ m) :
    b.ShownBy (.of b.program m failure) σ := by
  intro name mem s
  obtain ⟨a, bound, found⟩ := agrees.cell name mem
  have own : name ∈ boundInAll b.program.body := by
    rw [Block.program, boundInAll_append, boundInAll_append, boundInAll_declarations]
    exact mem_append_right _ (mem_append_left _ mem)
  rw [Report.mem_bindings]
  constructor
  · rintro ⟨-, v, other, rfl⟩
    cases bound.symm.trans other
    exact Snapshot.ofVariable_cell found
  · rintro rfl
    exact ⟨own, .object a, bound, (Snapshot.ofVariable_cell found).symm⟩

lemma fits_body (well : b.WellFormed) : (Task.sequence b.body).Fits b.names b.declared [] false :=
  ⟨well.visible, fun _ mem => mem_append_right _ mem⟩

lemma report?_of_ends (well : b.WellFormed) (ends : b.Ends σ) :
    ∃ enough, ∀ steps, enough ≤ steps → ∃ r, report? steps b.program = some r ∧
      r.failure = none ∧ b.ShownBy r σ := by
  obtain ⟨enough, run⟩ := attains_derived ends (fits_body well)
  refine ⟨enough + b.declarations.length + 11, fun steps granted => ?_⟩
  have settles : Settles (enough + b.declarations.length + 11 ≤ steps)
      (executeAll {} steps b.program.body {})
      fun _ m => b.ShownBy (.of b.program m none) σ := by
    refine settles_program well (by omega) fun m' agrees => ?_
    refine ((run _ m' agrees).fewer (by omega)).mono ?_
    rintro _ m ⟨-, -, -, same⟩
    exact shownBy_of_agrees (by simpa using same)
  obtain ⟨r, reported⟩ := report?_isSome settles granted
  obtain ⟨-, m, shown, rfl⟩ := report?_settled settles reported
  exact ⟨_, reported, rfl, shown⟩

lemma ends_of_report? (well : b.WellFormed) (reported : report? steps b.program = some r) :
    r.failure = none ∧ ∃ σ, b.Ends σ ∧ b.ShownBy r σ := by
  have settles : Settles False (executeAll {} steps b.program.body {})
      fun _ m => ∃ σ, b.Ends σ ∧ b.ShownBy (.of b.program m none) σ := by
    refine settles_program well False.elim fun m' agrees => ?_
    refine Settles.mono (reaches_derived _ (fits_body well) agrees) ?_
    rintro _ m ⟨outcome, -, σ, derived, same⟩
    cases derived.next_outside (fits_body well)
    exact ⟨σ, derived, shownBy_of_agrees (by simpa using same)⟩
  obtain ⟨-, m, ended, rfl⟩ := report?_settled settles reported
  exact ⟨rfl, ended⟩

end

mutual
theorem isWellPlaced_target (c : Command) (visible : c.isScoped vars indices inLoop = true) :
    c.target.isWellPlaced inLoop false = true := by
  match c with
  | .assign .. | .null => rfl
  | .branch test body orelse =>
    rw [Command.isScoped, and_eq_true, and_eq_true] at visible
    rw [Command.target, Stmt.isWellPlaced, areWellPlaced_targets body visible.1.2,
      areWellPlaced_targets orelse visible.2]
    rfl
  | .loop test body =>
    rw [Command.isScoped, and_eq_true] at visible
    have inner := areWellPlaced_targets body visible.2
    cases test <;> exact inner
  | .count index lower upper body =>
    rw [Command.isScoped, and_eq_true] at visible
    exact areWellPlaced_targets body visible.2
  | .jump target test =>
    rw [Command.isScoped, and_eq_true] at visible
    cases test <;> cases target <;> simp [Command.target, Jump.target, Stmt.isWellPlaced,
      areWellPlaced, visible.1]

theorem areWellPlaced_targets (cs : List Command)
    (visible : areScoped vars indices inLoop cs = true) :
    areWellPlaced inLoop false (targets cs) = true := by
  match cs with
  | [] => rfl
  | c :: cs =>
    rw [areScoped, and_eq_true] at visible
    rw [targets, areWellPlaced, isWellPlaced_target c visible.1, areWellPlaced_targets cs visible.2]
    rfl
end

lemma isWellPlaced_program {b : Block} (well : b.WellFormed) : b.program.isWellPlaced = true := by
  have decls : ∀ (ds : List (String × Initial)) stmts,
      areWellPlaced false false (ds.map declarationTarget ++ stmts) =
        areWellPlaced false false stmts := by
    intro ds stmts
    induction ds with
    | nil => rfl
    | cons d ds ih => exact ih
  exact (decls b.declarations (targets b.body)).trans (areWellPlaced_targets b.body well.visible)

lemma isWord_of_name (spelled : SpellsName t name) : IsWord name := by
  cases spelled with
  | mk token is word => exact word

lemma isWord_declared (spelled : SpellsDeclarations ts ds) : ∀ d ∈ ds, IsWord d.1 := by
  induction spelled with
  | nil => nofun
  | cons id type sign value semi rest ih =>
    intro d mem
    rcases mem_cons.1 mem with rfl | later
    · exact isWord_of_name id
    · exact ih d later

lemma isWord_index (spelled : SpellsCommands region ts cs) : ∀ i ∈ indicesOf cs, IsWord i := by
  induction spelled with
  | count for_ range loop body some_command end_ endLoop semi rest ihBody ihRest =>
    cases range with
    | mk index word lower dots upper =>
      intro i mem
      simp only [indicesOf, Command.indices, cons_append, mem_cons, mem_append] at mem
      rcases mem with rfl | inner | later
      · exact isWord_of_name index
      · exact ihBody i inner
      · exact ihRest i later
  | _ => grind [indicesOf, Command.indices]

lemma isWord_names (spelled : SpellsBlock t b) : ∀ name ∈ b.names, IsWord name := by
  cases spelled with
  | mk declare decls begin_ body some_command end_ semi eof =>
    intro name mem
    rcases mem_append.1 mem with declared | index
    · obtain ⟨d, inside, rfl⟩ := mem_map.1 declared
      exact isWord_declared decls d inside
    · exact isWord_index body name index

lemma identifier_char (known : Lexeme.isWordChar c = true) :
    (c.isAlphanum || c == '_') = true ↔ c ≠ '$' ∧ c ≠ '#' := by
  constructor
  · intro allowed
    constructor <;> rintro rfl <;> exact absurd allowed (by decide)
  · simp only [Lexeme.isWordChar, or_eq_true, beq_iff_eq] at known
    simp only [Char.isAlphanum, Char.isAlpha, or_eq_true, beq_iff_eq]
    tauto

lemma isPlain_iff (word : IsWord name) : IsPlain name ↔ '$' ∉ name.toList ∧ '#' ∉ name.toList := by
  obtain ⟨first, rest, split, upper, inner⟩ := word
  have first_ne {c} (odd : c.isUpper = false) : c ≠ first := by
    rintro rfl
    rw [upper] at odd
    cases odd
  rw [IsPlain, isIdentifier, split]
  simp only [Char.isAlpha, upper, Bool.true_or, Bool.true_and, all_eq_true, mem_cons,
    not_or, first_ne (show '$'.isUpper = false by decide),
    first_ne (show '#'.isUpper = false by decide), not_false_eq_true, true_and]
  rw [all_eq_true] at inner
  constructor
  · grind
  · rintro ⟨noDollar, noSign⟩ c mem
    refine (identifier_char (inner c mem)).2 ⟨?_, ?_⟩ <;> rintro rfl <;> contradiction

/-- A program does what a block says: it ends exactly if the block does, does not fail, and shows
the values that the block ends with. -/
structure Preserves (b : Block) (p : Program) : Prop where
  placed : p.isWellPlaced = true
  ends : ∀ σ, b.Ends σ → ∃ enough, ∀ steps, enough ≤ steps →
    ∃ r, report? steps p = some r ∧ r.failure = none ∧ b.ShownBy r σ
  reported : ∀ steps r, report? steps p = some r →
    r.failure = none ∧ ∃ σ, b.Ends σ ∧ b.ShownBy r σ

lemma preserves_program (well : b.WellFormed) : Preserves b b.program where
  placed := isWellPlaced_program well
  ends _ ends := report?_of_ends well ends
  reported _ _ reported := ends_of_report? well reported

/-- A tree of a block has a program exactly if its names are identifiers. -/
lemma program_of_tree {t : Tree Token} {b : Block} (spelled : SpellsBlock t b)
    (well : b.WellFormed) :
    ∃ draft, script ⟨src, t⟩ = .ok draft ∧
      ((∀ name ∈ b.names, IsPlain name) → ofDraft draft = .ok b.program) ∧
      (∀ name ∈ b.names, ¬ IsPlain name → ofDraft draft = .error .illFormed) := by
  obtain ⟨parts, renders, drafted⟩ := @script_drafted t b src spelled well.visible
  exact ⟨_, drafted, ofDraft_written renders, fun name known odd =>
    ofDraft_unwritten renders known odd⟩

def doublingTree (id : String) : Tree Token :=
  let declaration := .node .declareSpec
    [.node .variableDeclaration
      [.node .identifier [.node .idExpression [nameTree id]],
        .node .typeSpec [.node .datatype [.node .nativeDatatypeElement [leafOf .NUMBER "number"]]],
        .node .defaultValuePart
          [leafOf .ASSIGN_OP ":=",
            climb [.expression, .logicalExpression, .multisetExpression] (numeralTree "1")],
        leafOf .SEMICOLON ";"]]
  let test := climb [.expression, .logicalExpression, .multisetExpression]
    (.node .relationalExpression
      [climb sideRungs (referenceTree id),
        .node .relationalOperator [leafOf .LESS_THAN_OP "<"], numeralTree "9"])
  let sum := climb [.expression, .logicalExpression, .multisetExpression, .relationalExpression,
      .compoundExpression]
    (.node .concatenation
      [climb operandRungs (referenceTree id), leafOf .PLUS_SIGN "+",
        climb operandRungs (referenceTree id)])
  let loop := .node .statement
    [.node .loopStatement
      [leafOf .WHILE "while", .node .condition [test], leafOf .LOOP "loop",
        .node .seqOfStatements
          [.node .statement
            [.node .assignmentStatement [referenceTree id, leafOf .ASSIGN_OP ":=", sum]],
            leafOf .SEMICOLON ";"],
        leafOf .END "end", leafOf .LOOP "loop"]]
  .node .sqlScript
    [.node .unitStatement
      [.node .anonymousBlock
        [leafOf .DECLARE "declare", .node .seqOfDeclareSpecs [declaration], leafOf .BEGIN "begin",
          .node .seqOfStatements [loop, leafOf .SEMICOLON ";"], leafOf .END "end",
          leafOf .SEMICOLON ";"]],
      leafOf .EOF "<EOF>"]

def doublingBlock (name : String) : Block where
  declarations := [(name, ⟨false, 1⟩)]
  body := [.loop (some (.compare (.name name) .lt (.number 9)))
    [.assign name (.calculate (.name name) .add (.name name))]]

lemma spells_doubling {id capitals : String} (upper : id.toUpper = capitals)
    (word : IsWord capitals) : SpellsBlock (doublingTree id) (doublingBlock capitals) := by
  subst upper
  have name : SpellsName (nameTree id) id.toUpper := .mk _ rfl word
  have operand : SpellsArith (climb operandRungs (referenceTree id)) (.name id.toUpper) :=
    spellsArith_climb (by decide) (.name (.mk name))
  have side : SpellsArith (climb sideRungs (referenceTree id)) (.name id.toUpper) :=
    spellsArith_climb (by decide) (.name (.mk name))
  have one : SpellsArith (numeralTree "1") (.number 1) :=
    spells_numeral (by decide) (by decide) (by decide)
  have nine : SpellsArith (numeralTree "9") (.number 9) :=
    spells_numeral (by decide) (by decide) (by decide)
  refine .mk ⟨_, rfl⟩ (.cons name ⟨_, rfl⟩ ⟨_, rfl⟩ (spellsArith_climb (by decide) one) ⟨_, rfl⟩ .nil)
    ⟨_, rfl⟩ (.while_ ⟨_, rfl⟩ ?_ ⟨_, rfl⟩ ?_ (cons_ne_nil _ _) ⟨_, rfl⟩ ⟨_, rfl⟩ ⟨_, rfl⟩ .nil)
    (cons_ne_nil _ _) ⟨_, rfl⟩ ⟨_, rfl⟩ ⟨_, rfl⟩
  · exact spellsCondition_climb (by decide) (.compare side nine (by decide))
  · exact .assign (.mk name) ⟨_, rfl⟩
      (spellsArith_climb (by decide) (.calculate operand ⟨_, rfl⟩ operand)) ⟨_, rfl⟩ .nil

def libraryPackages : List String :=
  ["PLHELPER", "PLGLOBALS", "PLCURSOR", "MOCKPLCURSOR", "PLTABLE", "PLRECORD", "DBMS_OUTPUT"]

lemma isOwn_of_not_mem
    (new : ∀ pkg ∈ libraryPackages, name ∉ ((Library.exports? pkg).getD []).names) :
    IsOwn name := by
  intro pkg names exported
  have known : pkg ∈ libraryPackages := by
    unfold Library.exports? at exported
    split at exported
    iterate 7 decide
    cases exported
  have unknown := new pkg known
  rwa [exported] at unknown

lemma wellFormed_doubling (own : IsOwn name) : (doublingBlock name).WellFormed := by
  constructor
  · simp [doublingBlock, Block.declared]
  · simp [doublingBlock, Block.declared, areScoped, Command.isScoped, Condition.isOver,
      Arith.isOver]
  · intro other mem
    cases mem_singleton.1 mem
    exact own

theorem block_preserved_iff {source : String} {t : Tree Token} {b : Block} (spelled : SpellsBlock t b)
    (well : b.WellFormed) :
    (∃ draft p, script ⟨source, t⟩ = .ok draft ∧ ofDraft draft = .ok p ∧ Preserves b p) ↔
      ∀ name ∈ b.names, '$' ∉ name.toList ∧ '#' ∉ name.toList := by
  obtain ⟨draft, drafted, written, unwritten⟩ := @program_of_tree source t b spelled well
  constructor
  · rintro ⟨draft', p, drafted', built, -⟩ name known
    rw [← isPlain_iff (isWord_names spelled name known)]
    by_contra odd
    cases drafted.symm.trans drafted'
    cases (unwritten name known odd).symm.trans built
  · intro allowed
    have plain : ∀ name ∈ b.names, IsPlain name := fun name known =>
      (isPlain_iff (isWord_names spelled name known)).2 (allowed name known)
    exact ⟨draft, b.program, drafted, written plain, preserves_program well⟩

theorem doubling_preserved :
    SpellsBlock (doublingTree "x") (doublingBlock "X") ∧ (doublingBlock "X").WellFormed ∧
      ∃ draft p, script ⟨"", doublingTree "x"⟩ = .ok draft ∧ ofDraft draft = .ok p ∧
        Preserves (doublingBlock "X") p := by
  have spelled : SpellsBlock (doublingTree "x") (doublingBlock "X") :=
    spells_doubling (by decide +kernel) ⟨'X', [], by decide, by decide, by decide⟩
  have well : (doublingBlock "X").WellFormed := wellFormed_doubling (isOwn_of_not_mem (by decide))
  refine ⟨spelled, well, (block_preserved_iff spelled well).2 ?_⟩
  decide

/-- It cannot be called `a$b`, though the lexer takes that for a name. -/
theorem doubling_not_preserved :
    SpellsBlock (doublingTree "a$b") (doublingBlock "A$B") ∧ (doublingBlock "A$B").WellFormed ∧
      ¬ ∃ draft p, script ⟨"", doublingTree "a$b"⟩ = .ok draft ∧ ofDraft draft = .ok p ∧
        Preserves (doublingBlock "A$B") p := by
  have spelled : SpellsBlock (doublingTree "a$b") (doublingBlock "A$B") :=
    spells_doubling (by decide +kernel) ⟨'A', ['$', 'B'], by decide, by decide, by decide⟩
  have well : (doublingBlock "A$B").WellFormed :=
    wellFormed_doubling (isOwn_of_not_mem (by decide))
  refine ⟨spelled, well, ?_⟩
  obtain ⟨draft, drafted, -, unwritten⟩ := @program_of_tree "" _ _ spelled well
  rintro ⟨draft', p, drafted', built, -⟩
  cases drafted.symm.trans drafted'
  have odd : ¬ IsPlain "A$B" := by decide
  cases (unwritten "A$B" mem_cons_self odd).symm.trans built

end BlockScript.Core
