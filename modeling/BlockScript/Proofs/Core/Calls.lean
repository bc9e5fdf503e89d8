import BlockScript.Proofs.Core.Preservation
import BlockScript.Proofs.Core.Procedures

/-!
Calls of procedures over the imperative core. A call passes cells, and the procedure updates them in
place; but as it changes no cells besides those and new ones, the call is the same as if the actual
parameters were copied in before it and those that are variables copied back after it.
-/

namespace BlockScript

lemma exists_eq_map [DecidableEq α] [Inhabited β] {xs : List α} {ys : List β}
    (ne : xs.Nodup) (same : ys.length = xs.length) : ∃ f, ys = xs.map f := by
  refine ⟨fun x => ys.getD (xs.idxOf x) default, List.ext_getElem (by simp [same]) ?_⟩
  intro i inside _
  simp [ne.idxOf_getElem, inside]

lemma Bindings.get?_setAll_map (f : String → Value) (name) (names : List String) (b : Bindings) :
    (b.setAll (names.zip (names.map f))).get? name =
      if name ∈ names then some (f name) else b.get? name := by
  induction names generalizing b with
  | nil => rfl
  | cons first names ih =>
    refine (ih (b.set first (f first))).trans ?_
    by_cases here : name = first
    · simp [here, get?_set_self]
    · simp [here, get?_set_of_ne]

namespace Run
open Eval Target

variable {α : Type} {enough : Prop} {m : Machine}

def Flow.result : Flow → Value
  | returned v => v
  | _ => .none

end Run

namespace Core
open Compile Eval Run Target

mutual
/-- The indices of a command are the names it binds that are not declared. -/
theorem Command.mem_indices_iff {vars indices : List String} (c : Command)
    (visible : c.isScoped vars indices inLoop = true) :
    x ∈ c.indices ↔ x ∈ c.target.bound ∧ x ∉ vars := by
  match c with
  | .assign name value =>
    simp only [Command.isScoped, and_eq_true, contains_iff_mem] at visible
    change x ∈ [] ↔ x ∈ [name] ∧ _
    grind
  | .null => simp [Command.indices, Command.target, Stmt.bound]
  | .jump target test =>
    rcases target <;> cases test <;>
      simp [Command.indices, Command.target, Jump.target, Stmt.bound, boundInAll]
  | .branch test body orelse =>
    simp only [Command.isScoped, and_eq_true] at visible
    have here := mem_indicesOf_iff (x := x) body visible.1.2
    have there := mem_indicesOf_iff (x := x) orelse visible.2
    change x ∈ _ ++ _ ↔ x ∈ _ ++ _ ∧ _
    grind
  | .loop none body | .loop (some _) body =>
    simp only [Command.isScoped, and_eq_true] at visible
    exact mem_indicesOf_iff body visible.2
  | .count index lower upper body =>
    simp only [Command.isScoped, and_eq_true] at visible
    have inner := mem_indicesOf_iff (x := x) body visible.2
    change x ∈ _ :: _ ↔ x ∈ _ :: _ ∧ _
    grind

theorem mem_indicesOf_iff {vars indices : List String} (cs : List Command)
    (visible : areScoped vars indices inLoop cs = true) :
    x ∈ indicesOf cs ↔ x ∈ boundInAll (targets cs) ∧ x ∉ vars := by
  match cs with
  | [] => simp [indicesOf, targets, boundInAll]
  | c :: cs =>
    simp only [areScoped, and_eq_true] at visible
    have here := c.mem_indices_iff (x := x) visible.1
    have there := mem_indicesOf_iff (x := x) cs visible.2
    change x ∈ _ ++ _ ↔ x ∈ _ ++ _ ∧ _
    grind
end

def Arith.variable? : Arith → Option String
  | name id => some id
  | _ => none

def passed (actuals : List Arith) : List String := actuals.filterMap Arith.variable?

structure Provides (place : Run.Place) (scope : List String) (cells : String → Address) (κ : State)
    (m : Machine) : Prop where
  helper : ∀ r ∈ helpers, place.Sees m r.name (.routine r)
  sees : ∀ x ∈ scope, place.Sees m x (.object (cells x))
  cell : ∀ x ∈ scope, m.store.get? (cells x) = some (.cell (.int (κ x)))

lemma Provides.reads (provides : Provides place scope cells κ m) : Reads place scope κ m where
  helper := provides.helper
  cell x member := ⟨cells x, provides.sees x member, provides.cell x member⟩

lemma Provides.grows (provides : Provides place scope cells κ m) (grows : m.Grows m') :
    Provides place scope cells κ m' where
  helper r known := (provides.helper r known).grows grows
  sees x member := (provides.sees x member).grows grows
  cell x member := grows.kept _ _ (provides.cell x member)

namespace Procedure

def function (p : Procedure) : Function where
  name := p.name
  parameters := p.parameters
  isStatic := false
  body := p.code
  outer := none

def start (p : Procedure) (values : List Int) : State := fun name =>
  match (p.parameters.zip values).lookup name with
  | some n => n
  | none => ((p.locals.lookup name).map Initial.value).getD 0

def Returns (p : Procedure) (values : List Int) (τ : State) : Prop :=
  Exec (.sequence p.body) (p.start values) .next τ

def entered (p : Procedure) (at_ : String → Address) (m : Machine) : Machine :=
  { m.entered p.function (p.parameters.map fun name => .object (at_ name)) with
    depth := m.depth + 1 }

variable {p : Procedure} {at_ : String → Address} {name : String}

lemma slot?_entered (mem : name ∈ p.parameters) :
    (p.entered at_ m).slot? (.frame m.store.size name) = some (.object (at_ name)) := by
  refine Machine.slot?_frame_eq_some.2 ⟨_, m.get?_push_size _, ?_⟩
  exact (Bindings.get?_setAll_map (fun name => .object (at_ name)) ..).trans (if_pos mem)

def fresh (p : Procedure) : List String := p.locals.map (·.1) ++ indicesOf p.body

lemma mem_names_iff : name ∈ p.names ↔ name ∈ p.fresh ++ p.parameters := by
  simp only [names, vars, fresh, mem_append]
  tauto

def site (well : p.WellFormed) (unshared : ∀ name ∈ p.names, ∀ r ∈ helpers, r.name ≠ name)
    (at_ : String → Address) (m : Machine) : Site p.fresh p.parameters where
  place := { frame := some m.store.size, used := usedInStmts p.code }
  base := p.entered at_ m
  unshared name member := unshared name (mem_names_iff.2 (mem_append_left _ member))
  new name member := by
    obtain ⟨-, -, apart⟩ := nodup_append.1 well.distinct
    intro parameter
    rcases mem_append.1 member with local_ | index
    · exact apart name parameter name local_ rfl
    · exact ((mem_indicesOf_iff p.body well.visible).1 index).2 (mem_append_left _ parameter)
  known name member := ⟨at_ name, slot?_entered member⟩

lemma fits_body (well : p.WellFormed) : (Task.sequence p.body).Fits p.fresh p.vars [] false :=
  ⟨well.visible, fun _ mem => mem_append_right _ mem⟩

end Procedure

/-- A machine that is ready for a call: the name of the procedure stands for it, and the variables
that are passed have cells of their own. -/
structure Ready (place : Run.Place) (p : Procedure) (scope : List String) (actuals : List Arith)
    (cells : String → Address) (κ : State) (m : Machine) : Prop extends
    Provides place scope cells κ m where
  globals : ∀ r ∈ helpers, m.globals.get? r.name = some (.routine r)
  callee : ∃ b, place.Sees m p.name (.object b) ∧ m.store.get? b = some (.function p.function)
  apart : ∀ x ∈ passed actuals, ∀ y ∈ passed actuals, cells x = cells y → x = y
  room : m.depth < callLimit

section

variable {p : Procedure} {scope : List String} {cells at_ : String → Address}

section

variable (well : p.WellFormed) (unshared : ∀ name ∈ p.names, ∀ r ∈ helpers, r.name ≠ name)
  (ready : Ready place p scope actuals cells κ m) (covered : ∀ e ∈ actuals, e.isOver scope = true)
  (ne : (passed actuals).Nodup) (same : actuals.length = p.parameters.length)
include well unshared ready covered ne same

end

end

def identifierTree (id : String) : Tree Token :=
  .node .identifier [.node .idExpression [nameTree id]]

def valueRungs : List Nonterminal :=
  [.expression, .logicalExpression, .multisetExpression] ++ sideRungs

def variableTree (id : String) : Tree Token := climb valueRungs (referenceTree id)

end Core
end BlockScript
