import BlockScript.Proofs.LetterCase
import BlockScript.Proofs.Scopes

/-!
Trees that read alike, compiled in scopes that are alike. Compilation looks at a scope only to ask
what a name stands for there, and at a token only for its kind, for its text in capitals and, if it
is a quoted text, for that text.
-/

namespace BlockScript

structure KeepsWords (move : Token → Token) : Prop where
  kind : ∀ token, (move token).kind = token.kind
  capitals : ∀ token, (move token).text.toUpper = token.text.toUpper

namespace Tree

mutual
theorem map_id (t : Tree α) : t.map id = t := by
  match t with
  | .leaf _ => rfl
  | .node kind ts => rw [map, mapAll_id ts]

theorem mapAll_id (ts : List (Tree α)) : mapAll id ts = ts := by
  match ts with
  | [] => rfl
  | t :: ts => rw [mapAll, map_id t, mapAll_id ts]
end

lemma mapAll_eq_map (ts : List (Tree Token)) : mapAll move ts = ts.map (map move) := by
  induction ts with
  | nil => rfl
  | cons t ts ih => rw [mapAll, ih, map_cons]

mutual
theorem leaves_map (t : Tree Token) : (t.map move).leaves = t.leaves.map move := by
  match t with
  | .leaf _ => rfl
  | .node kind ts => rw [map, leaves, leaves, leavesAll_mapAll ts]

theorem leavesAll_mapAll (ts : List (Tree Token)) :
    leavesAll (mapAll move ts) = (leavesAll ts).map move := by
  match ts with
  | [] => rfl
  | t :: ts => rw [mapAll, leavesAll, leavesAll, leaves_map t, leavesAll_mapAll ts, map_append]
end

@[simp]
lemma kind?_map (t : Tree Token) : (t.map move).kind? = t.kind? := by
  cases t <;> rfl

@[simp]
lemma children_map (t : Tree Token) : (t.map move).children = mapAll move t.children := by
  cases t <;> rfl

lemma text_map (same : ∀ token, (move token).text = token.text) (t : Tree Token) :
    (t.map move).text = t.text := by
  have texts : (Token.text ∘ move) = Token.text := funext same
  rw [text, text, leaves_map, List.map_map, texts]

lemma toUpper_join (ss) : (String.join ss).toUpper = String.join (ss.map String.toUpper) := by
  induction ss with
  | nil => simp [String.toUpper]
  | cons s ss ih =>
    rw [map_cons, String.join_cons, String.join_cons, ← ih]
    simp [String.toUpper, ← String.toList_inj]

lemma capitals_map (keeps : KeepsWords move) (t : Tree Token) :
    (t.map move).capitals = t.capitals := by
  rw [capitals, capitals, text, text, toUpper_join, toUpper_join, leaves_map, List.map_map,
    List.map_map, List.map_map]
  exact congrArg String.join (map_congr_left fun token _ => keeps.capitals token)

end Tree

namespace Scope

def importing (s : Scope) (root : String) : Scope :=
  if s.package == some root || s.declared.contains root then s else s.require root

lemma importing_eq (s : Scope) (root) : ∃ packages, s.importing root = s.requireAll packages := by
  unfold importing
  split
  · exact ⟨[], rfl⟩
  · exact ⟨[root], rfl⟩

lemma importing_of_requireAll {R : Scope → Scope → Prop} {s s' : Scope}
    (kept : ∀ packages others, R (s.requireAll packages) (s'.requireAll others)) (root) :
    R (s.importing root) (s'.importing root) := by
  obtain ⟨packages, here⟩ := s.importing_eq root
  obtain ⟨others, there⟩ := s'.importing_eq root
  grind

structure IsCongruence (R : Scope → Scope → Prop) : Prop where
  declares : ∀ {s s'} names, R s s' → R (s.declareAll names) (s'.declareAll names)
  requires : ∀ {s s'} packages others, R s s' → R (s.requireAll packages) (s'.requireAll others)
  imports : ∀ {s s'} root, R s s' → R (s.importing root) (s'.importing root)
  cursor : ∀ {s s'} parameters, R s s' → R (s.cursor parameters) (s'.cursor parameters)

end Scope

inductive SameResult {α : Type} (E : Reject → Reject → Prop) :
    Except Reject α → Except Reject α → Prop where
  | ok (value : α) : SameResult E (.ok value) (.ok value)
  | error {reason other : Reject} (alike : E reason other) :
      SameResult E (.error reason) (.error other)

lemma SameResult.refl [Std.Refl E] (x : Except Reject α) : SameResult E x x := by
  cases x with
  | error reason => exact .error (Std.Refl.refl reason)
  | ok value => exact .ok value

namespace Compile

def queries : List Nonterminal := [.dataManipulationLanguageStatements, .selectStatement]

def routines : List Nonterminal := [.procedureBody, .functionBody]

def units : List Nonterminal :=
  [.sqlScript, .createProcedureBody, .createFunctionBody, .createPackage, .createPackageBody]

def enclosed : List Nonterminal := routines ++ [.createProcedureBody, .createFunctionBody]

inductive Matching {α : Type} (R : Scope → Scope → Prop) (E : Reject → Reject → Prop) :
    Except Reject (α × Scope) → Except Reject (α × Scope) → Prop where
  | ok {s s' : Scope} (value : α) (related : R s s') :
      Matching R E (.ok (value, s)) (.ok (value, s'))
  | error {reason other : Reject} (alike : E reason other) :
      Matching R E (.error reason) (.error other)

def Similar {α : Type} (R : Scope → Scope → Prop) (E : Reject → Reject → Prop)
    (x y : Compile α) : Prop :=
  ∀ s s', R s s' → Matching R E (x s) (y s')

namespace Matching

variable {α β : Type} {R Q : Scope → Scope → Prop} {E : Reject → Reject → Prop} {s s' : Scope}
  {x y : Except Reject α} {f g : α → Compile β}

lemma eq {x y : Except Reject (α × Scope)} (matching : Matching Eq Eq x y) : x = y := by
  cases matching with
  | ok value same => rw [same]
  | error same => rw [same]

lemma lift (same : SameResult E x y) (rel : R s s') :
    Matching R E ((liftM x : Compile α) s) ((liftM y : Compile α) s') := by
  cases same with
  | ok value => exact .ok value rel
  | error alike => exact .error alike

lemma bind {x y : Compile α} (first : Matching R E (x s) (y s'))
    (next : ∀ value r r', R r r' → y s' = .ok (value, r') → Matching Q E (f value r) (g value r')) :
    Matching Q E ((x >>= f) s) ((y >>= g) s') := by
  simp only [Bind.bind, StateT.bind]
  generalize x s = left at first ⊢
  generalize y s' = right at first next ⊢
  cases first with
  | ok value after => exact next value _ _ after rfl
  | error alike => exact .error alike

lemma lifted (same : SameResult E x y)
    (next : ∀ value, y = .ok value → Matching R E (f value s) (g value s')) :
    Matching R E ((liftM x >>= f) s) ((liftM y >>= g) s') := by
  cases same with
  | ok value => exact next value rfl
  | error alike => exact .error alike

lemma modified {f g : Scope → Scope} {x y : PUnit → Compile β}
    (next : Matching R E (x ⟨⟩ (f s)) (y ⟨⟩ (g s'))) :
    Matching R E ((modify f >>= x) s) ((modify g >>= y) s') :=
  next

lemma reading {f g : Scope → Compile β} (next : Matching R E (f s s) (g s' s')) :
    Matching R E ((get >>= f) s) ((get >>= g) s') :=
  next

lemma within {inner inner' : Scope} {x y : Compile α} {f g : α × Scope → Compile β}
    (first : Matching Q E (x inner) (y inner'))
    (next : ∀ value r r', Q r r' → Matching R E (f (value, r) s) (g (value, r') s')) :
    Matching R E ((within inner x >>= f) s) ((Compile.within inner' y >>= g) s') := by
  simp only [Compile.within, StateT.run]
  generalize x inner = left at first ⊢
  generalize y inner' = right at first ⊢
  cases first with
  | ok value after => exact next value _ _ after
  | error alike => exact .error alike

lemma uses [Std.Refl E] {ref : Draft} {x y : Compile β} {r r' : Scope}
    (next : ∀ root, Matching R E (x (r.importing root)) (y (r'.importing root))) :
    Matching R E ((liftM (r.use ref) >>= fun used => set used >>= fun _ => x) s)
      ((liftM (r'.use ref) >>= fun used => set used >>= fun _ => y) s') := by
  unfold Scope.use
  rcases Scope.rootOf ref with reason | root
  · exact .error (Std.Refl.refl reason)
  · exact next root

end Matching

section

lemma hasPhrase_mapAll : hasPhrase (Tree.mapAll move ts) kind = hasPhrase ts kind := by
  rw [hasPhrase, hasPhrase, Tree.mapAll_eq_map, List.any_map]
  congr 1
  funext t
  simp

variable (keeps : KeepsWords move)
include keeps

lemma has_mapAll : has (Tree.mapAll move ts) terminal = has ts terminal := by
  rw [has, has, Tree.mapAll_eq_map, List.any_map]
  congr 1
  funext t
  cases t with
  | leaf token => simp [Tree.map, keeps.kind token]
  | node kind children => rfl

lemma count_mapAll : count (Tree.mapAll move ts) terminal = count ts terminal := by
  rw [count, count, Tree.mapAll_eq_map, List.countP_map]
  congr 1
  funext t
  cases t with
  | leaf token => simp [Tree.map, keeps.kind token]
  | node kind children => rfl

lemma namesOf_mapAll : namesOf (Tree.mapAll move ts) kind = namesOf ts kind := by
  rw [namesOf, namesOf, Tree.mapAll_eq_map, List.filter_map, List.map_map]
  have same : ((·.kind? == some kind) ∘ Tree.map move) = fun t => t.kind? == some kind := by
    funext t
    simp
  rw [same]
  exact map_congr_left fun t _ => Tree.capitals_map keeps t

lemma arithmetic?_mapAll : arithmetic? (Tree.mapAll move ts) = arithmetic? ts := by
  rw [arithmetic?, arithmetic?, Tree.mapAll_eq_map, List.findSome?_map]
  congr 1
  funext t
  cases t with
  | leaf token => simp [Tree.map, keeps.kind token]
  | node kind children => rfl

lemma wordConstant?_mapAll : wordConstant? (Tree.mapAll move ts) = wordConstant? ts := by
  simp [wordConstant?, has_mapAll keeps]

lemma parameterNames_mapAll : parameterNames (Tree.mapAll move ts) = parameterNames ts := by
  rw [parameterNames, parameterNames, Tree.mapAll_eq_map, List.filter_map, List.flatMap_map]
  have same : ((·.kind? == some .parameter) ∘ Tree.map move) =
      fun t => t.kind? == some Nonterminal.parameter := by
    funext t
    simp
  simp [same, namesOf_mapAll keeps]

end

/-- Tokens keep their kinds and the texts that are quoted, and of other texts all but the case of
letters, as far as rejections do not quote them. -/
structure KeepsReading (E : Reject → Reject → Prop) (move : Token → Token) : Prop
    extends KeepsWords move where
  quoted : ∀ token, token.kind = .CHAR_STRING → (move token).text = token.text
  rejected : ∀ (what : String → Unsupported) (t : Tree Token),
    E (.unsupported (what (t.map move).text)) (.unsupported (what t.text))

section

variable (reads : KeepsReading E move)
include reads

lemma text_reads (ignores : IgnoresCase f) (t : Tree Token) : f (t.map move).text = f t.text :=
  ignores.eq (Tree.capitals_map reads.toKeepsWords t)

lemma quotedString_reads : quotedString (Tree.mapAll move ts) = quotedString ts := by
  match ts with
  | [] => rfl
  | [.node _ _] => rfl
  | _ :: _ :: _ => simp [quotedString, Tree.mapAll]
  | [.leaf token] =>
    simp only [quotedString, Tree.mapAll, Tree.map, reads.kind token]
    by_cases quoted : token.kind = .CHAR_STRING
    · rw [reads.quoted token quoted]
    · simp [quoted]

lemma unary_reads : unary (Tree.mapAll move ts) parts = unary ts parts := by
  cases ts with
  | nil => rfl
  | cons t ts => simp [unary, Tree.mapAll, text_reads reads minus_ignoresCase t]

variable [Std.Refl E] (t : Tree Token)

lemma concatenation_reads :
    SameResult E (concatenation (t.map move) parts) (concatenation t parts) := by
  simp only [concatenation, Tree.children_map, count_mapAll reads.toKeepsWords,
    arithmetic?_mapAll reads.toKeepsWords]
  split
  · exact .refl _
  split
  · exact .refl _
  · exact .refl _
  · exact .error (reads.rejected .concatenation t)

lemma logical_reads : SameResult E (logical (t.map move) parts) (logical t parts) := by
  simp only [logical, Tree.children_map, has_mapAll reads.toKeepsWords]
  cases head parts with
  | error reason => exact .refl _
  | ok operand =>
    split
    · exact .refl _
    split
    · exact .refl _
    split
    · exact .refl _
    · exact .error (reads.rejected .connective t)

lemma stringFunction_reads :
    SameResult E (stringFunction (t.map move) parts) (stringFunction t parts) := by
  simp only [stringFunction, Tree.children_map, has_mapAll reads.toKeepsWords]
  split
  · exact .refl _
  split
  · exact .refl _
  split
  · exact .refl _
  split
  · exact .refl _
  · exact .error (reads.rejected .stringFunction t)

lemma transaction_reads : SameResult E (transaction (t.map move)) (transaction t) := by
  simp only [transaction, Tree.children_map, hasPhrase_mapAll]
  split
  · exact .refl _
  split
  · exact .refl _
  · exact .error (reads.rejected .transaction t)

end

instance (kind : Nonterminal) (ts : List (Tree Token)) : Decidable (CompilesParts kind ts) :=
  inferInstanceAs (Decidable (_ ∨ _))

def opening (source : String) (kind : Nonterminal) (ts : List (Tree Token)) (s : Scope) :
    Option Scope :=
  match kind with
  | .cursorLoopParam => (namesOf ts .indexName).head?.map s.declare
  | .cursorDeclaration =>
    match cursorParameters source ts s with
    | .ok (names, r) => some (r.cursor names)
    | .error _ => none
  | .procedureBody | .functionBody => some (s.routine.declareAll (parameterNames ts))
  | .createProcedureBody | .createFunctionBody => some s.standalone
  | .createPackage => some s.enterSpecification
  | .createPackageBody => (namesOf ts .packageName).head?.map s.enterBody
  | .sqlScript => some s
  | _ => if CompilesParts kind ts then some s else none

lemma opening_of_compilesParts (passes : CompilesParts kind ts) :
    opening src kind ts s = some s := by
  unfold opening
  split
  -- Of a phrase that opens another scope the condition is false.
  all_goals exact if_pos passes

def asked (source : String) (kind : Nonterminal) (ts : List (Tree Token)) (s : Scope) :
    Option (String × Scope) :=
  match kind with
  | .typeName => (namesOf ts .idExpression).head?.map (·, s)
  | .generalElementPart => do
    let (_, r) ← (compileAll source ts s).toOption
    return (← (namesOf ts .idExpression).head?, r)
  | .routineName | .exceptionName => do
    let (parts, r) ← (compileAll source ts s).toOption
    return (← (← parts.head?).id?, r)
  | _ => none

def Throughout (source : String) (P : Tree Token → Scope → Prop) : List (Tree Token) → Scope → Prop
  | [], _ => True
  | t :: ts, s => P t s ∧ ∀ ds r, compile source t s = .ok (ds, r) → Throughout source P ts r

def ThroughoutParameters (source : String) (P : Tree Token → Scope → Prop) :
    List (Tree Token) → Scope → Prop
  | [], _ => True
  | .node .parameterSpec us :: ts, s => Throughout source P us s ∧
    ∀ ds r, compileAll source us s = .ok (ds, r) → ThroughoutParameters source P ts r
  | _ :: ts, s => ThroughoutParameters source P ts s

section

variable {src : String} {P : Tree Token → Prop} {t : Tree Token} {ts : List (Tree Token)}

lemma throughout_of_forall (each : ∀ t ∈ ts, P t) (s) : Throughout src (fun t _ => P t) ts s := by
  induction ts generalizing s with
  | nil => trivial
  | cons t ts ih =>
    obtain ⟨here, rest⟩ := forall_mem_cons.1 each
    exact ⟨here, fun _ r _ => ih rest r⟩

lemma throughoutParameters_skip {P : Tree Token → Scope → Prop} {s : Scope}
    (other : t.kind? ≠ some .parameterSpec) :
    ThroughoutParameters src P (t :: ts) s = ThroughoutParameters src P ts s := by
  rw [ThroughoutParameters]
  rintro us rfl
  exact other rfl

lemma throughoutParameters_of_forall
    (each : ∀ us, .node .parameterSpec us ∈ ts → ∀ t ∈ us, P t) (s) :
    ThroughoutParameters src (fun t _ => P t) ts s := by
  induction ts generalizing s with
  | nil => trivial
  | cons t ts ih =>
    have rest := ih fun us mem => each us (mem_cons_of_mem t mem)
    by_cases is : t.kind? = some .parameterSpec
    · cases t with
      | leaf token => cases is
      | node kind us =>
        cases is
        exact ⟨throughout_of_forall (each us mem_cons_self) s, fun _ r _ => rest r⟩
    · rw [throughoutParameters_skip is]
      exact rest s

end

/-- What relations between scopes, around routines and in them, have to do with what holds of the
trees that are compiled in those scopes. The relations are kept by what a phrase does to its scope,
related scopes answer what is asked of them alike, and what holds of a phrase holds of its parts. The
scope of a cursor may be related to another in a way of its own. -/
structure Accords {ι : Type} (source source' : String) (move : Token → Token)
    (R : ι → Scope → Scope → Prop) (R' : Scope → Scope → Prop) (P Q : Tree Token → Scope → Prop) :
    Prop where
  requires : ∀ {i s s'} packages, R i s s' → R i (s.requireAll packages) (s'.requireAll packages)
  imports : ∀ {i s s'} root, R i s s' → R i (s.importing root) (s'.importing root)
  merges : ∀ {i s s' r r'}, R i s s' → R' r r' →
    R i (s.requireAll r.imports) (s'.requireAll r'.imports)
  declares : ∀ {kind ts r}, P (.node kind ts) r → kind ∈ quiet → ∀ {i s s'} names, R i s s' →
    R i (s.declareAll names) (s'.declareAll names)
  asks : ∀ {i kind ts r name s s'}, P (.node kind ts) r →
    asked source' kind ts r = some (name, s') → R i s s' → s.resolve name = s'.resolve name
  query : ∀ {i kind ts s s'}, P (.node kind ts) s' → kind ∈ queries → R i s s' →
    Embedded.query source s.declared (.node kind (Tree.mapAll move ts)) =
      Embedded.query source' s'.declared (.node kind ts)
  cursor : ∀ {i ts r s s'} names, P (.node .cursorDeclaration ts) r → R i s s' →
    ∃ j, R j (s.cursor names) (s'.cursor names)
  routine : ∀ {i kind ts s s'} names, P (.node kind ts) s' → kind ∈ routines → R i s s' →
    R' (s.routine.declareAll names) (s'.routine.declareAll names)
  standalone : ∀ {i kind ts s s'}, P (.node kind ts) s' → kind ∈ units → R i s s' →
    R' s.standalone s'.standalone
  specification : ∀ {i ts s s'}, P (.node .createPackage ts) s' → R i s s' →
    R i s.enterSpecification s'.enterSpecification
  body : ∀ {i ts s s'} package, P (.node .createPackageBody ts) s' → R i s s' →
    R i (s.enterBody package) (s'.enterBody package)
  script : ∀ {i ts r s s'}, P (.node .sqlScript ts) r → R i s s' → s.imports = s'.imports
  inside : ∀ {kind ts s r}, P (.node kind ts) s → kind ∉ enclosed →
    opening source' kind ts s = some r → Throughout source' P ts r
  enclosed : ∀ {kind ts s r}, P (.node kind ts) s → kind ∈ enclosed →
    opening source' kind ts s = some r → Throughout source' Q ts r
  parameters : ∀ {ts s}, P (.node .cursorDeclaration ts) s → ThroughoutParameters source' P ts s

variable {s : Scope}

lemma asked_of_parts (is : kind = .routineName ∨ kind = .exceptionName)
    (parts : compileAll src ts s = .ok (ds, r)) (first : head ds = .ok d)
    (named : nameOf d = .ok name) : asked src kind ts s = some (name, r) := by
  obtain ⟨⟨d, rest⟩, split, returned⟩ := steps_of_bind first
  cases returned
  cases first_inv split
  cases nameOf_inv named
  rcases is with rfl | rfl <;> simp [asked, parts, Draft.id?, Except.toOption]

lemma resolvePath_congr {s' : Scope}
    (same : ∀ name path, names = name :: path → s.resolve name = s'.resolve name) :
    s.resolvePath names = s'.resolvePath names := by
  cases names with
  | nil => rfl
  | cons name path => rw [Scope.resolvePath, Scope.resolvePath, same name path rfl]

section

variable {src src' : String} {move : Token → Token} {R : ι → Scope → Scope → Prop}
  {R' : Scope → Scope → Prop} {P : Tree Token → Scope → Prop} {E : Reject → Reject → Prop}
  [Std.Refl E] (accords : Accords src src' move R R' P Q) {i : ι} {parts : List Draft}
  {kind : Nonterminal} {ts : List (Tree Token)} {s s' r : Scope} {x y : Compile (List Draft)}

section

variable (declares : ∀ {s s'} names, R i s s' → R i (s.declareAll names) (s'.declareAll names))
  (rel : R i s s')
include declares rel

lemma matching_variableOf : Matching (R i) E (variableOf parts s) (variableOf parts s') :=
  .lifted (.refl _) fun _ _ => .lifted (.refl _) fun name _ =>
    .modified (.ok _ (declares [name] rel))

include accords

lemma matching_typeDeclaration (ts) :
    Matching (R i) E (typeDeclaration ts parts s) (typeDeclaration ts parts s') := by
  refine .lifted (.refl _) fun _ _ => .lifted (.refl _) fun name _ =>
    .modified ((?_ : Similar (R i) E _ _) _ _ (declares [name] rel))
  split
  · split
    · exact fun _ _ declared => .modified (.ok _ (accords.requires _ declared))
    · exact fun _ _ declared => .modified (.ok _ (accords.requires ["PLTABLE"] declared))
  · split
    · exact fun _ _ declared => .modified (.ok _ (accords.requires ["PLRECORD"] declared))
    · exact fun _ _ _ => .error (Std.Refl.refl _)

end

section

variable (rel : R i s s') (holds : P (.node kind ts) r)
  (made : kind ∉ special → compileAll src' ts r = .ok (parts, s'))
include accords rel

lemma matching_element : Matching (R i) E (element parts s) (element parts s') := by
  refine .lifted (.refl _) fun _ _ => .reading
    (.uses fun root => (?_ : Similar (R i) E _ _) _ _ (accords.imports root rel))
  split
  · exact fun _ _ imported => .ok _ imported
  · exact fun _ _ imported => .lifted (.refl _) fun _ _ => .ok _ imported
  · exact fun _ _ _ => .error (Std.Refl.refl _)

include holds made

lemma matching_routineName (is : kind = .routineName) :
    Matching (R i) E (routineName parts s) (routineName parts s') := by
  refine .lifted (.refl _) fun d first => .lifted (.refl _) fun root named => .reading ?_
  subst is
  have asks : asked src' .routineName ts r = some (root, s') :=
    asked_of_parts (.inl rfl) (made (by decide)) first named
  rw [accords.asks holds asks rel]
  refine .uses fun root => (?_ : Similar (R i) E _ _) _ _ (accords.imports root rel)
  split
  · exact fun _ _ imported => .ok _ imported
  · exact fun _ _ imported => .ok _ imported

lemma matching_exceptionName (is : kind = .exceptionName) {t t' : Tree Token} :
    Matching (R i) E (assemble t .exceptionName parts s) (assemble t' .exceptionName parts s') := by
  simp only [assemble, Bind.bind, StateT.bind, mapM_lift]
  rcases given : parts.mapM nameOf with reason | names
  · exact .error (Std.Refl.refl _)
  have same : s.resolvePath names = s'.resolvePath names := by
    refine resolvePath_congr fun name path split => ?_
    subst split
    cases parts with
    | nil => cases given
    | cons d ds =>
      rw [mapM_cons] at given
      obtain ⟨own, named, later⟩ := steps_of_bind given
      obtain ⟨others, -, returned⟩ := steps_of_bind later
      cases returned
      exact accords.asks holds (asked_of_parts (.inr is) (made (is ▸ by decide)) rfl named) rel
  change Matching (R i) E ((liftM (s.resolvePath names) >>= fun d => pure [d] : Compile _) s)
    ((liftM (s'.resolvePath names) >>= fun d => pure [d] : Compile _) s')
  rw [same]
  exact .lifted (.refl _) fun _ _ => .ok _ rel

lemma matching_elementPart (is : kind = .generalElementPart) :
    Matching (R i) E (elementPart ts parts s) (elementPart ts parts s') := by
  have same : s.resolvePath (namesOf ts .idExpression) = s'.resolvePath (namesOf ts .idExpression) :=
    resolvePath_congr fun name path names => by
      subst is
      have asks : asked src' .generalElementPart ts r = some (name, s') := by
        simp [asked, made (by decide), names, Except.toOption]
      exact accords.asks holds asks rel
  refine .reading ?_
  rw [same]
  exact .lifted (.refl _) fun _ _ => .ok _ rel

variable (reads : KeepsReading E move)
include reads

lemma matching_assemble : Matching (R i) E (assemble ((Tree.node kind ts).map move) kind parts s)
      (assemble (.node kind ts) kind parts s') := by
  have keeps := reads.toKeepsWords
  have children : (Tree.node kind ts).children = ts := rfl
  have loops : loop (Tree.mapAll move ts) parts = loop ts parts := by
    simp [loop, hasPhrase_mapAll, has_mapAll keeps]
  have jumps (target) : jump target (Tree.mapAll move ts) parts = jump target ts parts := by
    simp [jump, hasPhrase_mapAll]
  have types : typeDeclaration (Tree.mapAll move ts) parts = typeDeclaration ts parts := by
    simp [typeDeclaration, hasPhrase_mapAll]
  have attributes : cursorAttribute (Tree.mapAll move ts) parts = cursorAttribute ts parts := by
    simp [cursorAttribute, has_mapAll keeps]
  have elements : elementPart (Tree.mapAll move ts) parts = elementPart ts parts := by
    simp [elementPart, hasPhrase_mapAll, namesOf_mapAll keeps]
  by_cases exception : kind = .exceptionName
  · subst exception
    exact matching_exceptionName accords rel holds made rfl
  unfold assemble
  simp only [Tree.children_map, children, loops, jumps, types, attributes, elements,
    unary_reads reads]
  split
  all_goals first
    | exact .ok _ rel
    | exact .lift (.refl _) rel
    | exact .lifted (.refl _) fun _ _ => .ok _ rel
    | skip
  · exact absurd rfl exception
  · exact .bind (matching_routineName accords rel holds made rfl) fun _ _ _ after _ => .ok _ after
  · exact .lifted (.refl _) fun names _ =>
      .modified (.ok _ (accords.declares holds (by decide) names rel))
  · exact .bind (matching_variableOf (accords.declares holds (by decide)) rel)
      fun _ _ _ after _ => .ok _ after
  · exact .lift (concatenation_reads reads (.node _ ts)) rel
  · exact .lifted (logical_reads reads (.node _ ts)) fun _ _ => .ok _ rel
  · exact .bind (matching_typeDeclaration accords (accords.declares holds (by decide)) rel ts)
      fun _ _ _ after _ => .ok _ after
  · exact .lifted (stringFunction_reads reads (.node _ ts)) fun _ _ => .ok _ rel
  · exact .bind (matching_element accords rel) fun _ _ _ after _ => .ok _ after
  · exact .bind (matching_elementPart accords rel holds made rfl) fun _ _ _ after _ => .ok _ after

end

include accords

lemma matching_routine (rel : R i s s') (holds : P (.node kind ts) s')
    (is : kind ∈ routines) {names : List String}
    (body : R' (s.routine.declareAll names) (s'.routine.declareAll names) →
      Matching R' E (x (s.routine.declareAll names)) (y (s'.routine.declareAll names))) :
    Matching (R i) E ((do
        let (parts, inner) ← within ((← get).routine.declareAll names) x
        let (name, function) ← routine parts
        modify fun s => (s.declare name).requireAll inner.imports
        return [function] : Compile (List Draft)) s)
      ((do
        let (parts, inner) ← within ((← get).routine.declareAll names) y
        let (name, function) ← routine parts
        modify fun s => (s.declare name).requireAll inner.imports
        return [function] : Compile (List Draft)) s') := by
  have declares : kind ∈ quiet := by
    have among : ∀ kind ∈ routines, kind ∈ quiet := by decide
    exact among kind is
  refine .reading (.within (body (accords.routine names holds is rel)) fun _ r r' after =>
    .lifted (.refl _) fun made _ => .modified (.ok _ ?_))
  exact accords.merges (accords.declares holds declares [made.1] rel) after

lemma matching_standalone (rel : R i s s') (holds : P (.node kind ts) s')
    (is : kind ∈ units) (declares : kind ∈ quiet)
    (body : R' s.standalone s'.standalone → Matching R' E (x s.standalone) (y s'.standalone)) :
    Matching (R i) E ((do
        let (parts, _) ← within (← get).standalone x
        let (name, function) ← standalone parts
        modify (·.declare name)
        return [function] : Compile (List Draft)) s)
      ((do
        let (parts, _) ← within (← get).standalone y
        let (name, function) ← standalone parts
        modify (·.declare name)
        return [function] : Compile (List Draft)) s') :=
  .reading (.within (body (accords.standalone holds is rel)) fun _ _ _ _ =>
    .lifted (.refl _) fun made _ =>
      .modified (.ok _ (accords.declares holds declares [made.1] rel)))

lemma matching_special (reads : KeepsReading E move) (is : kind ∈ special) (rel : R i s s')
    (holds : P (.node kind ts) s')
    (routine : ∀ {r r'}, kind ∈ enclosed → opening src' kind ts s' = some r' → R' r r' →
      Matching R' E (compileAll src (Tree.mapAll move ts) r) (compileAll src' ts r'))
    (inner : ∀ {j r r'}, kind ∉ enclosed → opening src' kind ts s' = some r' → R j r r' →
      Matching (R j) E (compileAll src (Tree.mapAll move ts) r) (compileAll src' ts r'))
    (params : kind = .cursorDeclaration → Matching (R i) E
      (cursorParameters src (Tree.mapAll move ts) s) (cursorParameters src' ts s')) :
    Matching (R i) E (compile src (.node kind (Tree.mapAll move ts)) s)
      (compile src' (.node kind ts) s') := by
  have keeps := reads.toKeepsWords
  have capitals : (Tree.node kind (Tree.mapAll move ts)).capitals = (Tree.node kind ts).capitals :=
    Tree.capitals_map keeps (.node kind ts)
  have numerals : numeral (Tree.node kind (Tree.mapAll move ts)).text =
      numeral (Tree.node kind ts).text := text_reads reads numeral_ignoresCase (.node kind ts)
  have operators : operatorOf (Tree.node kind (Tree.mapAll move ts)).text =
      operatorOf (Tree.node kind ts).text := text_reads reads operatorOf_ignoresCase (.node kind ts)
  have ended : SameResult E (transaction (.node kind (Tree.mapAll move ts)))
      (transaction (.node kind ts)) := transaction_reads reads (.node kind ts)
  have assembled (parts : List Draft) {r r' : Scope} (after : R i r r') :
      Matching (R i) E (assemble (.node kind (Tree.mapAll move ts)) kind parts r)
        (assemble (.node kind ts) kind parts r') :=
    matching_assemble accords after holds (absurd is) reads
  have queried (isQuery : kind ∈ queries) {f : String × List Reference → Compile (List Draft)}
      (next : ∀ found, Matching (R i) E (f found s) (f found s')) :
      Matching (R i) E ((get >>= fun s => liftM
          (Embedded.query src s.declared (.node kind (Tree.mapAll move ts))) >>= f) s)
        ((get >>= fun s => liftM (Embedded.query src' s.declared (.node kind ts)) >>= f) s') := by
    refine .reading ?_
    rw [accords.query holds isQuery rel]
    exact .lifted (.refl _) fun found _ => next found
  have quotes : E (.unsupported (.dynamicQuery (Tree.node kind (Tree.mapAll move ts)).text))
      (.unsupported (.dynamicQuery (Tree.node kind ts).text)) :=
    reads.rejected .dynamicQuery (.node kind ts)
  unfold special at is
  fin_cases is
  all_goals rw [compile, compile]
  all_goals
    try simp only [capitals, numerals, operators, hasPhrase_mapAll, has_mapAll keeps,
      namesOf_mapAll keeps, parameterNames_mapAll keeps, quotedString_reads reads,
      wordConstant?_mapAll keeps]
  all_goals first
    | exact .ok _ rel
    | exact .lifted (.refl _) fun _ _ => .ok _ rel
    | skip
  · have same : s.resolvePath (namesOf ts .idExpression) =
        s'.resolvePath (namesOf ts .idExpression) :=
      resolvePath_congr fun _ _ names => accords.asks holds (by simp [asked, names]) rel
    refine .bind (.reading ?_) fun _ _ _ after _ => .ok _ after
    rw [namesOf_mapAll keeps, same]
    exact .lift (.refl _) rel
  · exact .lifted ended fun _ _ => .ok _ rel
  · split
    · exact .ok _ rel
    · exact .ok _ rel
  · exact queried (by decide) fun _ => .ok _ rel
  · exact queried (by decide) fun _ => .ok _ rel
  · cases given : wordConstant? ts with
    | some value => exact .ok _ rel
    | none => exact inner (by decide) (opening_of_compilesParts (.inr (.inl ⟨rfl, given⟩))) rel
  · split
    case isTrue => exact .ok _ rel
    case isFalse noType =>
      split
      case isTrue => exact .modified (.ok _ (accords.requires ["PLRECORD"] rel))
      case isFalse noRow =>
        split
        case isTrue named =>
          have passes : CompilesParts .typeSpec ts :=
            .inr (.inr (.inl ⟨rfl, by simpa using noType, by simpa using noRow, named⟩))
          exact .bind (inner (by decide) (opening_of_compilesParts passes) rel) fun _ _ _ after _ =>
            .lifted (.refl _) fun _ _ => .ok _ after
        case isFalse => exact .ok _ rel
  · split
    case isTrue => exact .error quotes
    case isFalse plain =>
      have passes : CompilesParts .executeImmediate ts :=
        .inr (.inr (.inr ⟨rfl, by simpa using plain⟩))
      exact .bind (inner (by decide) (opening_of_compilesParts passes) rel) fun parts _ _ after _ =>
        assembled parts after
  · cases given : namesOf ts .indexName with
    | nil => exact .error (Std.Refl.refl _)
    | cons index others =>
      exact .modified (.bind (inner (by decide) (by simp [opening, given])
        (accords.declares holds (by decide) [index] rel)) fun parts _ _ after _ =>
          assembled parts after)
  · refine .bind (params rfl) fun names r r' after given => .reading ?_
    obtain ⟨j, entered⟩ := accords.cursor names holds after
    exact .within (inner (by decide) (by simp [opening, given]) entered)
      fun _ _ _ _ => .lifted (.refl _) fun made _ =>
        .modified (.ok _ (accords.declares holds (by decide) [made.1] after))
  iterate 2
    exact matching_routine accords rel holds (by decide) fun entered =>
      routine (by decide) rfl entered
  iterate 2
    exact matching_standalone accords rel holds (by decide) (by decide) fun entered =>
      routine (by decide) rfl entered
  · exact .modified (.bind (inner (by decide) rfl (accords.specification holds rel))
      fun _ _ _ after _ => .lifted (.refl _) fun made _ =>
        .modified (.ok _ (accords.declares holds (by decide) made.2 after)))
  · cases named : namesOf ts .packageName with
    | nil => exact .error (Std.Refl.refl _)
    | cons pkg others =>
      exact .modified (.bind (inner (by decide) (by simp [opening, named]) (accords.body pkg holds rel))
        fun _ _ _ after _ => .ok _ after)
  · refine .bind (inner (by decide) rfl rel) fun _ r r' after _ =>
      .modified (.reading ?_)
    have required := accords.requires alwaysImported after
    rw [accords.script holds required]
    exact .ok _ required

end

lemma special_of_routine : ∀ kind ∈ enclosed, kind ∈ special := by decide

section

variable {src src' : String} {move : Token → Token} {E : Reject → Reject → Prop}
  {R' : Scope → Scope → Prop} {Q : Tree Token → Scope → Prop} [Std.Refl E]
  (reads : KeepsReading E move) (within : Accords src src' move (fun _ : Unit => R') R' Q Q)
include reads within

mutual
/-- Trees that read alike compile alike in related scopes. -/
theorem matching_compile {ι : Type} {R : ι → Scope → Scope → Prop} {P : Tree Token → Scope → Prop}
    {i : ι} (accords : Accords src src' move R R' P Q) (t) {s s' : Scope}
    (holds : P t s') (rel : R i s s') :
    Matching (R i) E (compile src (t.map move) s) (compile src' t s') := by
  match t with
  | .leaf _ => exact .ok _ rel
  | .node kind ts =>
    rw [Tree.map]
    by_cases is : kind ∈ special
    · refine matching_special accords reads is rel holds ?_ ?_ ?_
      · intro r r' isRoutine opens entered
        exact matching_compileAll (i := ()) within ts
          (accords.enclosed holds isRoutine opens) entered
      · intro j r r' noRoutine opens entered
        exact matching_compileAll accords ts (accords.inside holds noRoutine opens) entered
      · rintro rfl
        exact matching_cursorParameters accords ts (accords.parameters holds) rel
    · have noRoutine : kind ∉ enclosed := fun mem => is (special_of_routine kind mem)
      rw [compile_node is, compile_node is]
      exact .bind (matching_compileAll accords ts
          (accords.inside holds noRoutine (opening_of_compilesParts (.inl is))) rel)
        fun _ _ _ after made => matching_assemble accords after holds (fun _ => made) reads

theorem matching_compileAll {ι : Type} {R : ι → Scope → Scope → Prop}
    {P : Tree Token → Scope → Prop} {i : ι} (accords : Accords src src' move R R' P Q)
    (ts) {s s' : Scope} (holds : Throughout src' P ts s')
    (rel : R i s s') :
    Matching (R i) E (compileAll src (Tree.mapAll move ts) s) (compileAll src' ts s') := by
  match ts with
  | [] => exact .ok _ rel
  | t :: ts =>
    exact .bind (matching_compile accords t holds.1 rel) fun _ _ _ after first => .bind
        (matching_compileAll accords ts (holds.2 _ _ first) after)
        fun _ _ _ last _ => .ok _ last

theorem matching_cursorParameters {ι : Type} {R : ι → Scope → Scope → Prop} {i : ι}
    (accords : Accords src src' move R R' P Q) (ts) {s s' : Scope}
    (holds : ThroughoutParameters src' P ts s')
    (rel : R i s s') :
    Matching (R i) E (cursorParameters src (Tree.mapAll move ts) s)
      (cursorParameters src' ts s') := by
  match ts with
  | [] => exact .ok _ rel
  | .leaf _ :: ts => exact matching_cursorParameters accords ts holds rel
  | .node kind children :: ts =>
    by_cases is : kind = .parameterSpec
    · subst is
      exact .bind (matching_compileAll accords children holds.1 rel)
        fun _ _ _ after own => .lifted (.refl _) fun _ _ => .lifted (.refl _) fun _ _ =>
          .bind (matching_cursorParameters accords ts (holds.2 _ _ own) after)
            fun _ _ _ last _ => .ok _ last
    · rw [Tree.mapAll, Tree.map, cursorParameters_skip (by simpa [Tree.kind?] using is),
        cursorParameters_skip (by simpa [Tree.kind?] using is)]
      rw [throughoutParameters_skip (by simpa [Tree.kind?] using is)] at holds
      exact matching_cursorParameters accords ts holds rel
end

end

variable {E : Reject → Reject → Prop} [Std.Refl E] {P : Tree Token → Prop}

lemma not_query_of_opening (opens : opening src kind ts s = some r) : kind ∉ queries := by
  intro isQuery
  fin_cases isQuery
  all_goals simp +decide [opening, CompilesParts] at opens

lemma accords_eq (inside : ∀ {kind ts}, P (.node kind ts) → kind ∉ queries → ∀ t ∈ ts, P t)
    (query : ∀ {kind ts declared}, P (.node kind ts) → kind ∈ queries →
      Embedded.query src declared (.node kind (Tree.mapAll move ts)) =
        Embedded.query src' declared (.node kind ts)) :
    Accords src src' move (fun _ : Unit => Eq) Eq (fun t _ => P t) fun t _ => P t where
  requires _ same := by rw [same]
  imports _ same := by rw [same]
  merges same inner := by rw [same, inner]
  declares _ _ _ _ _ _ same := by rw [same]
  asks _ _ same := by rw [same]
  query holds isQuery same := by rw [same, query holds isQuery]
  cursor _ _ same := ⟨(), by rw [same]⟩
  routine _ _ _ same := by rw [same]
  standalone _ _ same := by rw [same]
  specification _ same := by rw [same]
  body _ _ same := by rw [same]
  script _ same := by rw [same]
  inside holds _ opens := throughout_of_forall (inside holds (not_query_of_opening opens)) _
  enclosed holds _ opens := throughout_of_forall (inside holds (not_query_of_opening opens)) _
  parameters holds := throughoutParameters_of_forall (fun _ mem =>
    inside (inside holds (by decide) _ mem) (by decide)) _

lemma accords_refl : Accords src src id (fun _ : Unit => Eq) Eq (fun _ _ => True) fun _ _ => True :=
  accords_eq (fun _ _ _ _ => trivial) fun _ _ => by rw [Tree.mapAll_id]

lemma keepsReading_id : KeepsReading E id := by
  refine ⟨⟨fun _ => rfl, fun _ => rfl⟩, fun _ _ => rfl, fun what t => ?_⟩
  rw [Tree.map_id]
  exact Std.Refl.refl _

lemma matching_self {R : ι → Scope → Scope → Prop} {P Q : Tree Token → Scope → Prop}
    (within : Accords src src id (fun _ : Unit => R') R' Q Q)
    (accords : Accords src src id R R' P Q) {i : ι}
    (holds : Throughout src P ts s') (rel : R i s s') :
    Matching (R i) E (compileAll src ts s) (compileAll src ts s') := by
  have matching := matching_compileAll (E := E) keepsReading_id within accords ts holds rel
  rwa [Tree.mapAll_id] at matching

end Compile
end BlockScript
