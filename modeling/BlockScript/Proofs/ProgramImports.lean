import BlockScript.Proofs.PackageMembers
import BlockScript.Proofs.Settling
import BlockScript.Target.OfDraft

/-!
What a program imports. Compiling drops no import, so a package that any part of a script imports,
in a block, a routine or the body of a package, is imported by the program, and before all else.
-/

namespace BlockScript

def Scope.Gathers (s s' : Scope) : Prop := s.imports ⊆ s'.imports

lemma Scope.Gathers.trans {s : Scope} (first : s.Gathers s') (second : s'.Gathers s'') :
    s.Gathers s'' :=
  List.Subset.trans first second

lemma Scope.isOrder_gathers : Scope.IsOrder Scope.Gathers where
  refl _ := List.Subset.refl _
  trans _ _ _ := .trans
  requires _ _ := fun _ known => mem_addAllNew.2 (.inl known)

lemma Scope.enters_gathers : Scope.Enters Scope.Gathers where
  specification _ := List.Subset.refl _
  body _ _ := List.Subset.refl _
  declares _ _ := List.Subset.refl _

namespace Compile

open Scope (isOrder_gathers enters_gathers)

/-- `Meets source s t s' u`: as `Visits`, but also through a script and the bodies of packages. -/
inductive Meets (source : String) : Scope → Tree Token → Scope → Tree Token → Prop where
  | here : Meets source s t s t
  | visits (around : Visits source s t s₁ v) (there : Meets source s₁ v s' u) :
      Meets source s t s' u
  | script (split : ts = front ++ t :: back)
      (before : compileAll source front s = .ok (ds, s₁)) (there : Meets source s₁ t s' u) :
      Meets source s (.node .sqlScript ts) s' u
  | package (named : namesOf children .packageName = name :: others)
      (split : children = front ++ t :: back)
      (before : compileAll source front (s.enterBody name) = .ok (ds, s₁))
      (there : Meets source s₁ t s' u) : Meets source s (.node .createPackageBody children) s' u

lemma gathers_compileAll (comp : compileAll src ts s = .ok (ds, s')) : s.Gathers s' :=
  moves_compileAll isOrder_gathers (.inl enters_gathers) (.inl enters_gathers.declares) comp

lemma gathers_assemble (parts : compileAll src ts s = .ok (es, s1))
    (made : assemble (.node kind ts) kind es s1 = .ok (ds, s')) : s1.Gathers s' :=
  moves_assemble isOrder_gathers ⟨.inl enters_gathers, .inl enters_gathers.declares⟩ (fun _ => parts)
    made

lemma CompilesParts.inv (passes : CompilesParts kind ts)
    (comp : compile src (.node kind ts) s = .ok (ds, s')) :
    ∃ es s1, compileAll src ts s = .ok (es, s1) ∧ s1.Gathers s' := by
  rcases passes with ordinary | ⟨rfl, plain⟩ | ⟨rfl, noType, noRow, named⟩ | ⟨rfl, plain⟩
  · obtain ⟨es, s1, parts, made⟩ := parts_of_compile comp ordinary
    exact ⟨es, s1, parts, gathers_assemble parts made⟩
  · rw [compile, plain] at comp
    exact ⟨ds, s', comp, isOrder_gathers.refl s'⟩
  · rw [compile, noType, noRow, named] at comp
    obtain ⟨es, s1, parts, rest⟩ := bind_inv comp
    obtain ⟨d, s2, first, returned⟩ := bind_inv rest
    obtain ⟨-, rfl⟩ := lift_inv first
    cases returned
    exact ⟨es, _, parts, isOrder_gathers.refl _⟩
  · rw [compile, plain] at comp
    obtain ⟨es, s1, parts, made⟩ := bind_inv comp
    exact ⟨es, s1, parts, gathers_assemble parts made⟩

lemma compiled_inside (split : ts = front ++ t :: back)
    (whole : compileAll src ts s = .ok (ds, s')) (before : compileAll src front s = .ok (es, s1))
    (there : ∀ {fs s2}, compile src t s1 = .ok (fs, s2) →
      ∃ gs s3, compile src u r = .ok (gs, s3) ∧ s3.Gathers s2) :
    ∃ gs s3, compile src u r = .ok (gs, s3) ∧ s3.Gathers s' := by
  subst split
  obtain ⟨_, _, _, before', rest, -⟩ := compileAll_append_inv whole
  cases before.symm.trans before'
  obtain ⟨fs, _, s2, here, later, -⟩ := compileAll_cons_inv rest
  obtain ⟨gs, s3, inner, gathered⟩ := there here
  exact ⟨gs, s3, inner, gathered.trans (gathers_compileAll later)⟩

lemma Visits.compiled (visits : Visits src s t s' u) (comp : compile src t s = .ok (ds, s1)) :
    ∃ es s2, compile src u s' = .ok (es, s2) ∧ s2.Gathers s1 := by
  induction visits generalizing ds s1 with
  | here => exact ⟨ds, s1, comp, isOrder_gathers.refl s1⟩
  | inside passes split before there ih =>
    obtain ⟨parts, s2, whole, assembled⟩ := passes.inv comp
    obtain ⟨es, s4, inner, gathered⟩ := compiled_inside split whole before ih
    exact ⟨es, s4, inner, gathered.trans assembled⟩
  | counting index split before there ih =>
    rw [compile, index] at comp
    obtain ⟨_, _, declared, rest⟩ := bind_inv comp
    cases declared
    obtain ⟨parts, s2, whole, made⟩ := bind_inv rest
    obtain ⟨es, s4, inner, gathered⟩ := compiled_inside split whole before ih
    exact ⟨es, s4, inner, gathered.trans (gathers_assemble whole made)⟩
  | routine is split before there ih =>
    obtain ⟨parts, s2, id, d, whole, -, -, rfl⟩ := compile_routine_inv is comp
    obtain ⟨es, s4, inner, gathered⟩ := compiled_inside split whole before ih
    refine ⟨es, s4, inner, fun package known => ?_⟩
    exact Scope.mem_addAllNew.2 (.inr (gathered known))

lemma script_inv (comp : compile src (.node .sqlScript ts) s = .ok (ds, s')) :
    ∃ parts s1, compileAll src ts s = .ok (parts, s1) ∧ s' = s1.requireAll alwaysImported ∧
      ds = [.program (imports [] s'.imports ++ parts)] := by
  obtain ⟨parts, s1, units, rest⟩ := bind_inv comp
  cases rest
  exact ⟨parts, s1, units, rfl, rfl⟩

lemma Meets.compiled (meets : Meets src s t s' u) (comp : compile src t s = .ok (ds, s1)) :
    ∃ es s2, compile src u s' = .ok (es, s2) ∧ s2.Gathers s1 := by
  induction meets generalizing ds s1 with
  | here => exact ⟨ds, s1, comp, isOrder_gathers.refl s1⟩
  | visits around there ih =>
    obtain ⟨fs, s2, part, outer⟩ := around.compiled comp
    obtain ⟨es, s3, inner, gathered⟩ := ih part
    exact ⟨es, s3, inner, gathered.trans outer⟩
  | script split before there ih =>
    obtain ⟨parts, s2, whole, rfl, -⟩ := script_inv comp
    obtain ⟨es, s4, inner, gathered⟩ := compiled_inside split whole before ih
    exact ⟨es, s4, inner, gathered.trans (isOrder_gathers.requires _ _)⟩
  | package named split before there ih =>
    rw [compile, named] at comp
    obtain ⟨_, _, entered, rest⟩ := bind_inv comp
    cases entered
    obtain ⟨parts, s2, whole, returned⟩ := bind_inv rest
    cases returned
    obtain ⟨es, s4, inner, gathered⟩ := compiled_inside split whole before ih
    exact ⟨es, s4, inner, gathered⟩

end Compile

namespace Target

variable {w : Written} {first stmts ss : List Stmt} {package : String} {packages : List String}

def Written.Starts (first : List Stmt) : Written → Prop
  | .lines before last =>
    first <+: before ∨ first = before ++ [last] ∧ ∃ package, last = .importAll package
  | _ => False

lemma Written.Starts.whole (starts : (Written.lines before last).Starts first) :
    first <+: before ++ [last] := by
  rcases starts with earlier | ⟨rfl, -⟩
  · exact earlier.trans (List.prefix_append before [last])
  · exact List.prefix_refl _

lemma Written.Starts.line (starts : w.Starts first) (written : w.line s = some w') :
    w'.Starts first := by
  cases w with
  | lines before last =>
    cases written
    exact .inl starts.whole
  | _ => cases starts

lemma Written.Starts.lines (starts : w.Starts first)
    (written : ss.foldlM (fun w s => Written.line s w) w = some w') : w'.Starts first := by
  induction ss generalizing w with
  | nil => grind
  | cons s ss ih =>
    obtain ⟨w1, here, written⟩ := bind_eq_some_iff.1 written
    exact ih (starts.line here) written

lemma Written.Starts.bare (starts : w.Starts first) (written : w.bare true e = some w') :
    w'.Starts first := by
  cases w with
  | lines before last =>
    rw [Written.bare] at written
    split at written
    · cases written
      exact .inl starts.whole
    · obtain ⟨last', ran, rfl⟩ := map_eq_some_iff.1 written
      rcases starts with earlier | ⟨-, package, rfl⟩
      · exact .inl earlier
      · cases ran
  | _ => cases starts

lemma Written.Starts.outermost (starts : w.Starts first)
    (written : toOutermost w ds = some stmts) : first <+: stmts := by
  induction ds generalizing w with
  | nil =>
    cases w with
    | lines before last =>
      cases written
      exact starts.whole
    | _ => cases starts
  | cons d ds ih =>
    rw [toOutermost] at written
    split at written
    all_goals
      obtain ⟨_, -, written⟩ := bind_eq_some_iff.1 written
      obtain ⟨w1, here, written⟩ := bind_eq_some_iff.1 written
    · exact ih (starts.bare here) written
    · exact ih (starts.lines here) written

lemma toOutermost_import (written : toOutermost w (.importAll package :: ds) = some stmts) :
    ∃ w1, w.line (.importAll package) = some w1 ∧ toOutermost w1 ds = some stmts := by
  obtain ⟨lines, own, rest⟩ := bind_eq_some_iff.1 written
  obtain ⟨w1, folded, behind⟩ := bind_eq_some_iff.1 rest
  rw [toStmts] at own
  obtain ⟨_, -, single⟩ := bind_eq_some_iff.1 own
  cases single
  obtain ⟨w2, here, last⟩ := bind_eq_some_iff.1 folded
  cases last
  exact ⟨_, here, behind⟩

lemma imports_behind
    (written : toOutermost (.lines before (.importAll package)) (packages.map .importAll ++ ds) =
      some stmts) :
    before ++ (package :: packages).map .importAll <+: stmts := by
  induction packages generalizing package before with
  | nil =>
    have starts : (Written.lines before (.importAll package)).Starts
        (before ++ [.importAll package]) := .inr ⟨rfl, package, rfl⟩
    exact starts.outermost written
  | cons next packages ih =>
    obtain ⟨w1, here, written⟩ := toOutermost_import written
    cases here
    simpa using ih written

lemma imports_first (written : toOutermost .nothing (packages.map .importAll ++ ds) = some stmts) :
    packages.map .importAll <+: stmts := by
  cases packages with
  | nil => exact List.nil_prefix
  | cons package packages =>
    obtain ⟨w1, here, written⟩ := toOutermost_import written
    cases here
    exact imports_behind written

end Target

namespace Run

open Target Eval

variable {package : String}

lemma execute_import_known (exported : Library.exports? package = some names) (steps m) :
    execute place (steps + 1) (.importAll package) m =
      .ok .next { m with globals := m.globals.setAll names } := by
  have imported : importAll package m = .ok () { m with globals := m.globals.setAll names } := by
    rw [importAll, exported]
    rfl
  exact bind_ok imported

lemma execute_import_unknown (missing : Library.exports? package = none) (steps m) :
    execute place (steps + 1) (.importAll package) m =
      .error (.failed (.unknownPackage package)) m := by
  have stopped : importAll package m = .error (.failed (.unknownPackage package)) m := by
    rw [importAll, missing]
    rfl
  exact bind_error stopped

/-- Of the packages that are imported first one is not there: the program stops, at the latest when
it comes to that one, and so far it has only named things. -/
lemma executeAll_unknown (missing : Library.exports? unknown = none) {packages : List String}
    (mem : unknown ∈ packages) (rest : List Stmt) (steps m) :
    ∃ stop m', executeAll {} steps (packages.map .importAll ++ rest) m = .error stop m' ∧
      m'.store = m.store ∧ m'.database = m.database ∧ m'.printed = m.printed ∧
      (packages.length < steps →
        ∃ package ∈ packages, stop = .failed (.unknownPackage package)) := by
  induction packages generalizing steps m with
  | nil => cases mem
  | cons package packages ih =>
    rcases steps with _ | _ | steps
    · exact ⟨_, m, rfl, rfl, rfl, rfl, fun enough => absurd enough (Nat.not_lt_zero _)⟩
    · exact ⟨_, m, rfl, rfl, rfl, rfl, fun enough => by simp at enough⟩
    · cases exported : Library.exports? package with
      | none =>
        refine ⟨_, m, ?_, rfl, rfl, rfl, fun _ => ⟨package, mem_cons_self, rfl⟩⟩
        exact bind_error (execute_import_unknown exported steps m)
      | some names =>
        have later : unknown ∈ packages := by
          refine (mem_cons.1 mem).resolve_left ?_
          rintro rfl
          cases missing.symm.trans exported
        obtain ⟨stop, m', ran, store, db, printed, failed⟩ :=
          ih later (steps + 1) { m with globals := m.globals.setAll names }
        refine ⟨stop, m', ?_, store, db, printed, fun enough => ?_⟩
        · rw [map_cons, cons_append, executeAll, bind_ok (execute_import_known exported steps m)]
          exact ran
        · grind

end Run

namespace Compile

open Target Run

lemma script_begins (comp : compile src (.node .sqlScript ts) s = .ok ([d], s'))
    (written : ofDraft d = .ok program) : s'.imports.map .importAll <+: program.body := by
  obtain ⟨parts, s1, -, -, single⟩ := script_inv comp
  cases single
  rw [ofDraft] at written
  split at written
  · cases written
  · split at written
    case _ stmts outermost =>
      cases written
      have all : imports [] s'.imports = s'.imports.map .importAll :=
        congrArg _ (filter_eq_self.2 fun _ _ => rfl)
      rw [all] at outermost
      exact imports_first outermost
    · cases written

/-- A script with a part that imports a package that is not there becomes a program that stops
before it does anything. -/
lemma stops_unknown (comp : compile src (.node .sqlScript ts) s = .ok ([d], s'))
    (written : ofDraft d = .ok program) (imported : unknown ∈ s'.imports)
    (missing : Library.exports? unknown = none) (steps m) :
    ∃ stop m', executeAll {} steps program.body m = .error stop m' ∧
      m'.store = m.store ∧ m'.database = m.database ∧ m'.printed = m.printed ∧
      (program.body.length < steps → ∃ package, stop = .failed (.unknownPackage package)) := by
  obtain ⟨rest, whole⟩ := script_begins comp written
  rw [← whole]
  obtain ⟨stop, m', ran, store, db, printed, failed⟩ :=
    executeAll_unknown missing imported rest steps m
  refine ⟨stop, m', ran, store, db, printed, fun enough => ?_⟩
  obtain ⟨package, -, same⟩ := failed (by simp at enough; omega)
  exact ⟨package, same⟩

end Compile
end BlockScript
