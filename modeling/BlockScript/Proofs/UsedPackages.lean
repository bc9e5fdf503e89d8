import BlockScript.Proofs.EnclosingScopes
import BlockScript.Proofs.OwnNames

/-!
Which packages a program imports. Whatever a script uses without knowing it is imported by the
program, once and before all else, if the use stands in a block, in a package or in a routine of one
of these.
-/

namespace BlockScript

lemma nodup_addNew (nodup : names.Nodup) (name : String) : (addNew names name).Nodup := by
  unfold addNew
  split
  case isTrue => exact nodup
  case isFalse unknown =>
    rw [nodup_append]
    refine ⟨nodup, List.nodup_singleton name, ?_⟩
    grind

lemma nodup_addAllNew (nodup : names.Nodup) (more : List String) :
    (addAllNew names more).Nodup := by
  induction more generalizing names with
  | nil => exact nodup
  | cons name more ih => exact ih (nodup_addNew nodup name)

namespace Scope

def StaysDistinct (s s' : Scope) : Prop := s.imports.Nodup → s'.imports.Nodup

lemma isOrder_staysDistinct : IsOrder StaysDistinct where
  refl _ nodup := nodup
  trans _ _ _ first second nodup := second (first nodup)
  requires _ packages nodup := nodup_addAllNew nodup packages

lemma enters_staysDistinct : Enters StaysDistinct where
  specification _ nodup := nodup
  body _ _ nodup := nodup
  declares _ _ nodup := nodup

end Scope

namespace Compile

open Scope (isOrder_staysDistinct enters_staysDistinct)

inductive Contributes (source : String) : Scope → Tree Token → Scope → Tree Token → Prop where
  | meets (there : Meets source s t s' u) : Contributes source s t s' u
  | specification (around : Meets source s t s₁ (.node .createPackage children))
      (split : children = front ++ v :: back)
      (before : compileAll source front s₁.enterSpecification = .ok (ds, s₂))
      (there : Visits source s₂ v s' u) : Contributes source s t s' u

section

variable {inner : List (Tree Token)}

lemma Contributes.compiled (contributes : Contributes src s t s' u)
    (comp : compile src t s = .ok (ds, s1)) :
    ∃ es s2, compile src u s' = .ok (es, s2) ∧ s2.Gathers s1 := by
  cases contributes with
  | meets there => exact there.compiled comp
  | specification around split before there =>
    obtain ⟨_, s2, package, outer⟩ := around.compiled comp
    obtain ⟨parts, s3, d, names, whole, -, -, rfl⟩ := compile_specification_inv package
    obtain ⟨es, s4, here, gathered⟩ := compiled_inside split whole before there.compiled
    exact ⟨es, s4, here, gathered.trans outer⟩

lemma Refers.imported (refers : Refers u inner name) (use : IsUse u)
    (free : lacksAll packages inner = true) (parts : compileAll src inner s = .ok (ds, s1))
    (comp : compile src u s = .ok (es, s')) (unlocal : name ∉ s1.declared)
    (other : s.package ≠ some name) (bare : Bare name es) : name ∈ s'.imports := by
  obtain ⟨d, s2, rfl, begins, grows, grows', unused | ⟨-, root, rooted, rfl⟩⟩ :=
    refers.inv free parts comp
  · exact absurd use unused.1
  obtain ⟨e, same, begins'⟩ := bare
  cases same
  have unlocal2 : name ∉ s2.declared := fun mem => unlocal (grows'.declared mem)
  rcases (begins_name_iff unlocal2 rooted begins).1 begins' with own | foreign
  · exact absurd (grows.package.symm.trans own) other
  · exact (imported_iff unlocal2 rooted grows' unlocal).2 (.inr foreign)

lemma Refers.unused (refers : Refers u inner name) (noUse : ¬ IsUse u)
    (free : lacksAll packages inner = true) (parts : compileAll src inner s = .ok (ds, s1))
    (comp : compile src u s = .ok (es, s')) : s' = s1 := by
  obtain ⟨d, s2, -, -, -, -, unused | use⟩ := refers.inv free parts comp
  · exact unused.2
  · exact absurd use.1 noUse

lemma script_imports (comp : compile src (.node .sqlScript ts) {} = .ok (ds, s')) :
    s'.imports.Nodup ∧ ∀ package ∈ alwaysImported, package ∈ s'.imports := by
  obtain ⟨parts, s1, units, rfl, -⟩ := script_inv comp
  have distinct : s1.imports.Nodup := moves_compileAll isOrder_staysDistinct
    (.inl enters_staysDistinct) (.inl enters_staysDistinct.declares) units List.nodup_nil
  exact ⟨nodup_addAllNew distinct alwaysImported,
    fun package always => Scope.mem_addAllNew.2 (.inr always)⟩

end

open Target

/-- The program for a script begins with its imports, each of them once. What every program needs is
among them, and so is every name that is used as it is in a block, a package or a routine of these
and is neither declared there nor the package around it. A type or exception that is named, and a
routine that stands by itself, whatever it uses, add no import. -/
theorem used_packages_imported {source : String} {ts : List (Tree Token)} {d : Draft} {s' : Scope}
    (compiled : compile source (.node .sqlScript ts) {} = .ok ([d], s')) :
    (∀ program, ofDraft d = .ok program → s'.imports.map .importAll <+: program.body) ∧
    (∀ package ∈ alwaysImported, s'.imports.count package = 1) ∧
    (∀ {s s₁ : Scope} {u : Tree Token} {inner : List (Tree Token)} {name : String}
      {es : List Draft}, Contributes source {} (.node .sqlScript ts) s u → Refers u inner name →
      IsUse u → lacks packages u = true → compileAll source inner s = .ok (es, s₁) →
      ∃ fs s₂, compile source u s = .ok (fs, s₂) ∧
        (name ∉ s₁.declared → s.package ≠ some name → Bare name fs →
          s'.imports.count name = 1)) ∧
    (∀ {s s₁ s₂ : Scope} {u : Tree Token} {inner : List (Tree Token)} {name : String}
      {es fs : List Draft}, Refers u inner name → ¬ IsUse u → lacks packages u = true →
      compileAll source inner s = .ok (es, s₁) → compile source u s = .ok (fs, s₂) →
      s₂.imports = s₁.imports) ∧
    ∀ {kind : Nonterminal} {children : List (Tree Token)} {s s₁ : Scope} {es : List Draft},
      kind ∈ [.createProcedureBody, .createFunctionBody] →
      compile source (.node kind children) s = .ok (es, s₁) → s₁.imports = s.imports := by
  obtain ⟨distinct, always⟩ := script_imports compiled
  refine ⟨fun program written => script_begins compiled written,
    fun package known => List.count_eq_one_of_mem distinct (always package known), ?_, ?_,
    fun is alone => alone_imports is alone⟩
  · intro s s₁ u inner name es contributes refers use free parts
    obtain ⟨fs, s₂, here, gathered⟩ := contributes.compiled compiled
    refine ⟨fs, s₂, here, fun unlocal other bare => ?_⟩
    have imported := refers.imported use (refers.lacking free) parts here unlocal other bare
    exact List.count_eq_one_of_mem distinct (gathered imported)
  · intro s s₁ s₂ u inner name es fs refers noUse free parts here
    rw [refers.unused noUse (refers.lacking free) parts here]

theorem enclosing_variable_imported :
    ∃ d s', compile "" (scriptTree (enclosingTree "x" (routineTree "q" (assignmentTree "x")))) {} =
      .ok ([d], s') ∧ s'.imports.count "X" = 1 ∧ s'.imports.count "PLCURSOR" = 1 := by
  obtain ⟨-, always, used, -⟩ := used_packages_imported compile_enclosing
  have meets : Meets "" {} (scriptTree (enclosingTree "x" (routineTree "q" (assignmentTree "x")))) {}
      (Core.referenceTree "x") := meets_enclosed (.visits (visits_assigned _) .here)
  obtain ⟨fs, s₂, here, imported⟩ := used (.meets meets) (.reference namesOf_x) (.inl rfl)
    (by decide) compile_x
  have reference : compile "" (Core.referenceTree "x") {} =
      .ok ([.call (.ident "X") []], Scope.require {} "X") := by with_unfolding_all rfl
  cases reference.symm.trans here
  refine ⟨_, _, compile_enclosing, imported not_mem_nil nofun ⟨_, rfl, .call .refl⟩,
    always "PLCURSOR" (by decide)⟩

/-- A procedure that stands by itself calls what the program does not import. -/
theorem standalone_call_unimported :
    ∃ s', compile "" (scriptTree (.node .createProcedureBody
        [Core.leafOf .PROCEDURE "procedure", .node .procedureName [identifierTree "p"],
          .node .body [.node .seqOfStatements [.node .statement [callTree "q"]]]])) {} =
      .ok ([.program [.importAll "PLGLOBALS", .importAll "PLHELPER", .importAll "PLCURSOR",
        .expr (.function "P" [] [.expr (.call (.ident "Q") [])] [])]], s') ∧
      "Q" ∉ s'.imports :=
  ⟨_, by with_unfolding_all rfl, by decide⟩

end Compile
end BlockScript
