import BlockScript.Proofs.LibraryEffects

/-!
Programs whose declarations make what they bind. A name of a program has a role: names of routines,
packages and types are bound only to such things, and names of the library are not bound at all.
-/

namespace BlockScript

namespace Library

variable {name : String}

def packages : List String :=
  ["PLHELPER", "PLGLOBALS", "PLCURSOR", "MOCKPLCURSOR", "PLTABLE", "PLRECORD", "DBMS_OUTPUT"]

def exported? (name : String) : Option Value :=
  if name = "locals" then some (.routine .locals)
  else packages.findSome? fun package => (exports? package).bind (Bindings.get? · name)

def changing : List (LibraryClass × String) :=
  [(.standard, "SQLCODE"), (.standard, "SQLERRM"), (.cursors, "rowcount"),
    (.cursors, "_connection_string")]

def fixedMember? (owner : LibraryClass) (name : String) : Option Value :=
  if (owner, name) ∈ changing then none
  else
    match classMember? owner name {} with
    | .ok v _ => v
    | .error .. => none

def IsNamed : Value → Prop
  | .routine _ | .library _ | .none | .text _ => True
  | _ => False

lemma exported?_of_mem (exports : exports? pkg = some names) :
    ∀ e ∈ names, exported? e.1 = some e.2 ∧ IsNamed e.2 := by
  unfold exports? at exports
  split at exports <;> cases exports
  all_goals simp only [forall_mem_cons, not_mem_nil, false_implies, implies_true]
  all_goals first | rfl | trivial

lemma isNamed_of_exported? (exported : exported? name = some v) : IsNamed v := by
  unfold exported? at exported
  split at exported
  · cases exported
    trivial
  · obtain ⟨pkg, -, found⟩ := List.exists_of_findSome?_eq_some exported
    obtain ⟨names, exports, found⟩ := bind_eq_some_iff.1 found
    obtain ⟨before, after, rfl, -⟩ := List.lookup_eq_some_iff.1 found
    exact (exported?_of_mem exports (name, v) List.mem_append_cons_self).2

lemma classMember?_of_not_changing (fixed : (owner, name) ∉ changing) :
    ∃ o, ∀ m, classMember? owner name m = .ok o m := by
  unfold classMember?
  split
  case h_10 => cases Routine.ofName? (owner.name ++ "." ++ name) <;> exact ⟨_, fun _ => rfl⟩
  all_goals first | exact ⟨_, fun _ => rfl⟩ | exact absurd (by decide) fixed

lemma classMember?_fixed (fixed : fixedMember? owner name = some v) (m) :
    classMember? owner name m = .ok (some v) m := by
  unfold fixedMember? at fixed
  split at fixed
  · cases fixed
  case _ same =>
    obtain ⟨o, result⟩ := classMember?_of_not_changing same
    grind

end Library

namespace Target

inductive Role where
  | free | routine | package | type | library
deriving DecidableEq

variable (role : String → Role)

def Expr.known? : Expr → Option Value
  | .name id => if role id = .library then Library.exported? id else none
  | .attribute (.name id) attr =>
    if role id = .library then
      match Library.exported? id with
      | some (.library c) => Library.fixedMember? c attr
      | _ => none
    else none
  | _ => none

def Expr.isRoutine : Expr → Bool
  | .name id => role id = .routine
  | .attribute (.name id) attr => role id = .package ∧ role attr = .routine
  | _ => false

def Expr.isType : Expr → Bool
  | .name id =>
    match Expr.known? role (.name id) with
    | some (.library _) => true
    | _ => role id = .type
  | .attribute (.name id) attr => role id = .package ∧ role attr = .type
  | .call func _ =>
    match func.known? role with
    | some (.routine .tableOf) => true
    | _ => false
  | _ => false

mutual
/-- Whether an expression makes its value: no variable that was there before can hold the same cell.
-/
def Expr.makes : Expr → Bool
  | .constant _ | .binary .. | .compare .. | .compareBoth .. | .negative _ | .list _ => true
  | .connect _ operands => makesAll operands
  | .call func args =>
    func.isRoutine role || func.isType role ||
      match func.known? role with
      | some (.routine r) =>
        !Library.handsOn r || (r == .wrap || r == .nvl || r == .replace) && makesAll args
      | some (.library _) => true
      | _ => false
  | e => e.isType role

def makesAll : List Expr → Bool
  | [] => true
  | e :: rest => e.makes && makesAll rest
end

def Expr.isOneOf (names : List String) : Expr → Bool
  | .call (.name id) [] => names.contains id
  | _ => false

def ownVariables (parameters : List String) (body : List Stmt) : List String :=
  (boundInAll body).filter fun name => !parameters.contains name

mutual
/-- Whether all declarations of a statement make what they bind. -/
def Stmt.isTame (mine : List String) (inPackage : Bool) : Stmt → Bool
  | .assign target value =>
    role target = .free ∧ value.makes role ∨ role target = .type ∧ value.isType role
  | .update (.name _) _ => !inPackage
  | .branch _ body orelse => areTame mine inPackage body && areTame mine inPackage orelse
  | .whileLoop _ body => areTame mine inPackage body
  | .forLoop target _ body => role target = .free && areTame mine inPackage body
  | .returnValue (some e) => e.makes role || e.isOneOf mine
  | .guard body handlers =>
    areTame mine inPackage body && areTameIn mine inPackage handlers
  | .function name parameters _ body =>
    (role name = .free ∨ role name = .routine) && parameters.all (role · = .free) &&
      areTame (ownVariables parameters body) false body
  | .classDef name _ body =>
    (role name = .free ∨ role name = .package) && areTame [] true body
  | _ => true

def areTame (mine : List String) (inPackage : Bool) : List Stmt → Bool
  | [] => true
  | s :: rest => s.isTame mine inPackage && areTame mine inPackage rest

def areTameIn (mine : List String) (inPackage : Bool) : List Handler → Bool
  | [] => true
  | .mk _ body :: rest => areTame mine inPackage body && areTameIn mine inPackage rest
end

def Handler.body : Handler → List Stmt
  | .mk _ body => body

def Stmt.blocks : Stmt → List (List Stmt)
  | .branch _ body orelse => [body, orelse]
  | .whileLoop _ body | .forLoop _ _ body => [body]
  | .guard body handlers => body :: handlers.map Handler.body
  | _ => []

variable {role} {s : Stmt} {body : List Stmt}

lemma isTame_of_mem (tame : areTame role mine inPackage body = true) (mem : s ∈ body) :
    s.isTame role mine inPackage = true := by
  induction body with
  | nil => cases mem
  | cons t rest ih =>
    rw [areTame, and_eq_true] at tame
    obtain rfl | mem := mem_cons.1 mem
    · exact tame.1
    · exact ih tame.2 mem

lemma areTame_of_handler (tame : areTameIn role mine inPackage hs = true)
    (mem : handler ∈ hs) : areTame role mine inPackage handler.body = true := by
  induction hs with
  | nil => cases mem
  | cons first rest ih =>
    obtain ⟨exception, body⟩ := first
    rw [areTameIn, and_eq_true] at tame
    obtain rfl | mem := mem_cons.1 mem
    · exact tame.1
    · exact ih tame.2 mem

lemma areTame_of_block (tame : s.isTame role mine inPackage = true)
    (mem : block ∈ s.blocks) : areTame role mine inPackage block = true := by
  unfold Stmt.blocks at mem
  split at mem
  · rw [Stmt.isTame, and_eq_true] at tame
    obtain rfl | mem := mem_cons.1 mem
    · exact tame.1
    · cases mem_singleton.1 mem
      exact tame.2
  · cases mem_singleton.1 mem
    exact tame
  · cases mem_singleton.1 mem
    rw [Stmt.isTame, and_eq_true] at tame
    exact tame.2
  · rw [Stmt.isTame, and_eq_true] at tame
    obtain rfl | mem := mem_cons.1 mem
    · exact tame.1
    · obtain ⟨handler, isHandler, rfl⟩ := mem_map.1 mem
      exact areTame_of_handler tame.2 isHandler
  · cases mem

end Target
end BlockScript
