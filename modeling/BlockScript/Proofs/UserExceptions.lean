import BlockScript.Proofs.Branches
import BlockScript.Proofs.Owners
import BlockScript.Proofs.PackageAccess
import BlockScript.Proofs.SharedCells

/-!
Exceptions that scripts declare. Every declaration binds its name to one and the same class, that of
all user exceptions.
-/

namespace BlockScript

open Target Eval

namespace Compile

inductive NamesException : Tree Token → List String → Prop where
  | alone (id : IsIdentifier t) : NamesException (.node .exceptionName [t]) [t.capitals]
  | both (id : IsIdentifier t) (dot : IsLeaf .PERIOD w) (part : IsPart u name) :
      NamesException (.node .exceptionName [t, w, u]) [t.capitals, name]

inductive DeclaresException : Tree Token → String → Prop where
  | mk (id : IsIdentifier t) (word : IsPart u "EXCEPTION") (closing : IsLeaf .SEMICOLON c) :
      DeclaresException (.node .variableDeclaration
        [t, .node .typeSpec [.node .typeName [u]], c]) t.capitals

inductive RaisesException : Tree Token → List String → Prop where
  | mk (word : IsLeaf .RAISE r) (names : NamesException t path) :
      RaisesException (.node .raiseStatement [r, t]) path

inductive HandlesException : Tree Token → List String → Prop where
  | mk (opening : IsLeaf .WHEN w) (names : NamesException t path) (middle : IsLeaf .THEN h) :
      HandlesException (.node .exceptionHandler [w, t, h, q]) path

variable {path : List String} {after : List (Tree Token)}

lemma compile_named (names : NamesException t path) (resolved : s.resolvePath path = .ok d) :
    compile src t s = .ok ([d], s) := by
  cases names with
  | alone id =>
    cases resolved
    exact compile_of_parts (compileAll_single (compile_identifier id)) rfl
  | @both t w u name id dot part =>
    cases resolved
    exact compile_of_parts (compileAll_cons (compile_identifier id)
      (dot.skip.trans (compileAll_single part.compiled))) rfl

lemma compile_exception (decl : DeclaresException t x)
    (standard : s.resolve "EXCEPTION" = .member (.ident "PLGLOBALS") "EXCEPTION") :
    compile src t s = .ok ([.assign (.ident x)
      (.call (.member (.ident "PLGLOBALS") "EXCEPTION") [])], s.declare x) := by
  obtain @⟨t, u, c, id, word, closing⟩ := decl
  have type : compile src (.node .typeName [u]) s =
      .ok ([.member (.ident "PLGLOBALS") "EXCEPTION"], s) := by
    rw [compile]
    simp only [typeName, word.namesOf]
    rw [← standard]
    rfl
  have mark : compile src (.node .typeSpec [.node .typeName [u]]) s =
      .ok ([.typeMark (.member (.ident "PLGLOBALS") "EXCEPTION")], s) := by
    rw [compile]
    simp only [has_node, has_nil, hasPhrase_node, beq_self_eq_true, Bool.true_or, if_true,
      Bool.false_eq_true, if_false, bind, StateT.bind, compileAll_single type]
    rfl
  exact compile_of_parts (compileAll_cons (compile_identifier id)
      (compileAll_cons mark (closing.skip.trans compileAll_nil))) rfl

lemma compile_raising (raises : RaisesException t path) (resolved : s.resolvePath path = .ok d) :
    compile src t s = .ok ([.raiseError d], s) := by
  obtain ⟨word, names⟩ := raises
  exact compile_of_parts (word.skip.trans (compileAll_single (compile_named names resolved))) rfl

lemma resolvePath_named (names : NamesException t path) (s : Scope) :
    ∃ d, s.resolvePath path = .ok d := by
  cases names <;> exact ⟨_, rfl⟩

lemma compile_handling_inv (handles : HandlesException t path)
    (comp : compile src t s = .ok (gs, s₁)) :
    ∃ d ds, s.resolvePath path = .ok d ∧ gs = [.handler d ds] := by
  obtain @⟨w, t, path, h, q, opening, names, middle⟩ := handles
  obtain ⟨d, resolved⟩ := resolvePath_named names s
  obtain ⟨parts, s₂, inner, whole⟩ := parts_of_compile comp
  rw [opening.skip] at inner
  obtain ⟨own, rest, s₃, named, -, rfl⟩ := compileAll_cons_inv inner
  cases (compile_named names resolved).symm.trans named
  cases whole
  exact ⟨d, rest, resolved, rfl⟩

def IsHandlerOf (path : List String) (g : Draft) : Prop :=
  ∃ (s : Scope) (d : Draft) (ds : List Draft), s.resolvePath path = .ok d ∧ g = .handler d ds

lemma compileAll_handlers (handle : Forall₂ HandlesException hs paths)
    (comp : compileAll src hs s = .ok (gs, s₁)) : Forall₂ IsHandlerOf paths gs := by
  induction handle generalizing s gs with
  | nil => simp_all
  | cons first _ ih =>
    obtain ⟨own, rest, s₂, here, later, rfl⟩ := compileAll_cons_inv comp
    obtain ⟨d, ds, resolved, rfl⟩ := compile_handling_inv first here
    exact .cons ⟨s, d, ds, resolved, rfl⟩ (ih later)

lemma compile_guarded (block : kind ∈ [.anonymousBlock, .body])
    (handle : Forall₂ HandlesException hs paths) (some_handler : hs ≠ [])
    (front : compileAll src before s = .ok (ds, s₁))
    (handlers : compileAll src hs s₁ = .ok (gs, s₂))
    (back : compileAll src after s₂ = .ok (es, s₃))
    (others : ∀ d ∈ ds ++ es, d.isHandler = false) :
    compile src (.node kind (before ++ hs ++ after)) s =
      .ok ([.guard (unnamed (ds ++ es)) gs], s₃) := by
  have each : ∀ g ∈ gs, g.isHandler = true := by
    intro g mem
    obtain ⟨i, small, rfl⟩ := List.getElem_of_mem mem
    have all := compileAll_handlers handle handlers
    obtain ⟨s, d, ds, -, same⟩ := (List.forall₂_iff_get.1 all).2 i (by rwa [all.length_eq]) small
    rw [List.get_eq_getElem] at same
    rw [same]
    rfl
  have some_draft : gs ≠ [] := by
    have length := handle.length_eq.trans (compileAll_handlers handle handlers).length_eq
    rintro rfl
    exact some_handler (List.eq_nil_of_length_eq_zero length)
  have parts := compileAll_append (compileAll_append front handlers) back
  have whole : body (ds ++ gs ++ es) = [.guard (unnamed (ds ++ es)) gs] := by
    obtain ⟨plain, plain'⟩ := forall_mem_append.1 others
    have handlersOnly : (ds ++ gs ++ es).filter Draft.isHandler = gs := by
      rw [filter_append, filter_append, filter_eq_self.2 each,
        filter_eq_nil_iff.2 fun d inside => by simp [plain d inside],
        filter_eq_nil_iff.2 fun d inside => by simp [plain' d inside]]
      simp
    have othersOnly : (ds ++ gs ++ es).filter (!·.isHandler) = ds ++ es := by
      rw [filter_append, filter_append, filter_eq_self.2 fun d inside => by simp [plain d inside],
        filter_eq_nil_iff.2 fun g inside => by simp [each g inside],
        filter_eq_self.2 fun d inside => by simp [plain' d inside]]
      simp
    rw [body_eq, handlersOnly, othersOnly, if_neg (by simpa using some_draft)]
  fin_cases block
  · apply compile_ordinary (by decide) parts
    rw [← whole]
    rfl
  · apply compile_ordinary (by decide) parts
    rw [← whole]
    rfl

def IsWrittenFor (path : List String) (h : Handler) : Prop :=
  ∃ (s : Scope) (d : Draft) (e : Expr) (body : List Stmt),
    s.resolvePath path = .ok d ∧ toExpr d = some e ∧ h = .mk e body

lemma toHandlers_of (are : Forall₂ IsHandlerOf paths gs)
    (written : toHandlers gs = some handlers) : Forall₂ IsWrittenFor paths handlers := by
  induction are generalizing handlers with
  | nil =>
    cases written
    exact .nil
  | cons first _ ih =>
    obtain ⟨s, d, ds, resolved, rfl⟩ := first
    rw [toHandlers] at written
    obtain ⟨e, named, inner⟩ := bind_eq_some_iff.1 written
    obtain ⟨body, -, rest⟩ := bind_eq_some_iff.1 inner
    obtain ⟨later, others, result⟩ := bind_eq_some_iff.1 rest
    cases result
    exact .cons ⟨s, d, e, body, resolved, named, rfl⟩ (ih others)

lemma toStmts_guard_of (are : Forall₂ IsHandlerOf paths gs)
    (written : toStmts (.guard ds gs) = some stmts) :
    ∃ body handlers, stmts = [.guard body handlers] ∧ Forall₂ IsWrittenFor paths handlers := by
  obtain ⟨body, -, rest⟩ := bind_eq_some_iff.1 written
  obtain ⟨handlers, given, result⟩ := bind_eq_some_iff.1 rest
  cases result
  exact ⟨body, handlers, rfl, toHandlers_of are given⟩

lemma toStmts_exception (plain : isIdentifier x = true) :
    toStmts (.assign (.ident x) (.call (memberDraft "PLGLOBALS" "EXCEPTION") [])) =
      some [.assign x (.call (.attribute (.name "PLGLOBALS") "EXCEPTION") [])] := by
  have named : identifier? (.ident x) = some x := by
    simp [identifier?, Draft.ident, label?, plain]
  rw [toStmts, named, toExpr_reading (by decide) (by decide)]
  rfl

lemma toStmts_raising (written : toExpr d = some e) :
    toStmts (.raiseError d) = some [.raiseError (some e)] := by
  have present : d ≠ .missing := by
    rintro rfl
    cases written
  rw [toStmts, written]
  · rfl
  · exact present

end Compile

namespace Run

variable {place : Place} {m m' : Machine} {steps : Nat} {x y : Exception} {id : String}
  {body : List Stmt}

def Stands (place : Place) (m : Machine) (e : Expr) (x : Exception) : Prop :=
  ∀ steps causes, evaluate place (steps + 2) e { m with handling := causes } =
    .ok (.library (.exception x)) { m with handling := causes }

lemma stands_name (sees : place.Sees m id (.library (.exception x))) :
    Stands place m (.name id) x := by
  intro steps causes
  have here : place.Sees { m with handling := causes } id (.library (.exception x)) :=
    sees.of_cells rfl fun _ _ found _ => found
  exact here.lookUp

lemma stands_member (sees : place.Sees m package (.object a))
    (known : Library.packageMember? m.store id (m.store.size + 1) a =
      some (.library (.exception x))) : Stands place m (.attribute (.name package) id) x := by
  intro steps causes
  have here : place.Sees { m with handling := causes } package (.object a) :=
    sees.of_cells rfl fun _ _ found _ => found
  have isPackage : ∃ p, m.store.get? a = some (.package p) := by
    rw [Library.packageMember?] at known
    split at known
    · exact ⟨_, ‹_›⟩
    · cases known
  obtain ⟨p, found⟩ := isPackage
  refine (bind_ok here.lookUp).trans ?_
  refine (bind_ok (load?_eq _ a)).trans ?_
  simp only [found]
  change Library.ofOption (Library.packageMember? m.store id (m.store.size + 1) a) _ = _
  rw [known]
  rfl

lemma stands_others (sees : place.Sees m "PLGLOBALS" (.library .standard)) :
    Stands place m (.attribute (.name "PLGLOBALS") "OTHERS") .general := by
  intro steps causes
  have here : place.Sees { m with handling := causes } "PLGLOBALS" (.library .standard) :=
    sees.of_cells rfl fun _ _ found _ => found
  exact bind_ok here.lookUp

/-- The body of the first handler that takes an exception, from the handlers and what they name. -/
def taker? (y : Exception) : List Handler → List Exception → Option (List Stmt)
  | .mk _ body :: rest, x :: xs => if y.isA x then some body else taker? y rest xs
  | _, _ => none

lemma taker?_user_isSome (same : handlers.length = xs.length) :
    (taker? .user handlers xs).isSome ↔ .user ∈ xs ∨ .general ∈ xs := by
  induction handlers generalizing xs with
  | nil =>
    cases List.eq_nil_of_length_eq_zero same.symm
    simp [taker?]
  | cons h rest ih =>
    obtain ⟨e, body⟩ := h
    cases xs with
    | nil => cases same
    | cons x xs =>
      have later := ih (Nat.succ.inj same)
      cases x <;> simp [taker?, Exception.isA, later]

lemma handling_ok (ran : action { m with handling := cause :: m.handling } =
      .ok r { m with handling := cause :: m.handling }) : handling cause action m = .ok r m := by
  unfold handling
  rw [bind_ok (show (get : Eval Machine) m = .ok m m from rfl)]
  change EStateM.bind _ _ { m with handling := cause :: m.handling } = _
  simp only [EStateM.bind, tryCatch, tryCatchThe, MonadExceptOf.tryCatch, EStateM.tryCatch, bind, ran]
  rfl

def AllStand (place : Place) (m : Machine) : List Handler → List Exception → Prop :=
  Forall₂ fun h x => ∃ e body, h = .mk e body ∧ Stands place m e x

lemma handle_eq (stand : AllStand place m handlers xs) :
    ∃ k ≥ steps, handle place (steps + handlers.length + 3) (.raised y) handlers m =
      (taker? y handlers xs).elim (fail (.raised y))
        (fun body => handling (.raised y) (executeAll place k body)) m := by
  induction stand with
  | nil => exact ⟨steps, le_rfl, rfl⟩
  | @cons h x rest xs first _ ih =>
    obtain ⟨e, body, rfl, stands⟩ := first
    have named : handling (.raised y)
        (do exceptionOf (← evaluate place (steps + (rest.length + 1) + 2) e)) m = .ok x m :=
      handling_ok (bind_ok (stands _ _))
    have here : handle place (steps + (Handler.mk e body :: rest).length + 3) (.raised y)
        (.mk e body :: rest) m = (if y.isA x then
          handling (.raised y) (executeAll place (steps + (rest.length + 1) + 2) body)
        else handle place (steps + (rest.length + 1) + 2) (.raised y) rest) m := bind_ok named
    rw [here]
    by_cases taken : y.isA x = true
    · refine ⟨steps + (rest.length + 1) + 2, by omega, ?_⟩
      rw [taker?, if_pos taken, if_pos taken]
      rfl
    · rw [taker?, if_neg taken, if_neg taken]
      exact ih

lemma execute_guarded (stand : AllStand place m' handlers xs)
    (failed : executeAll place (steps + handlers.length + 3) body m =
      .error (.failed (.raised y)) m') :
    ∃ k ≥ steps, execute place (steps + handlers.length + 4) (.guard body handlers) m =
      (taker? y handlers xs).elim (fail (.raised y))
        (fun body => handling (.raised y) (executeAll place k body)) m' := by
  obtain ⟨k, enough, handled⟩ := @handle_eq _ _ steps y _ _ stand
  refine ⟨k, enough, ?_⟩
  rw [← handled]
  unfold execute
  simp only [tryCatch, tryCatchThe, MonadExceptOf.tryCatch, EStateM.tryCatch, failed]
  rfl

lemma execute_raising (stands : Stands place m e x) :
    execute place (steps + 3) (.raiseError (some e)) m = .error (.failed (.raised x)) m :=
  bind_ok (stands steps m.handling)

lemma execute_exception (standard : lookUp place "PLGLOBALS" m = .ok (.library .standard) m)
    (has : m.Has (place.slot name)) :
    execute place (steps + 5) (.assign name (.call (.attribute (.name "PLGLOBALS") "EXCEPTION") []))
      m = .ok .next (m.bound (place.slot name) (.library (.exception .user))) := by
  have op : evaluate place (steps + 3) (.attribute (.name "PLGLOBALS") "EXCEPTION") m =
      .ok (.routine .exception) m :=
    bind_ok standard
  have value : evaluate place (steps + 4)
      (.call (.attribute (.name "PLGLOBALS") "EXCEPTION") []) m =
      .ok (.library (.exception .user)) m := by
    unfold evaluate
    dsimp only
    rw [bind_ok op]
    rfl
  unfold execute
  dsimp only
  rw [bind_ok value, bind_ok (bindName_eq has _)]
  rfl

open Compile

/-- User exceptions are not told apart. Each declaration gives its name the same class, and raising
it fails with that class. The handlers of a block are tried in their order, each for what its name
stands for, and so the first one that names any user exception, or all exceptions, runs its
statements; the exception goes on just if there is none. -/
theorem user_exceptions_interchangeable (source : String) :
    (∀ {t x} {s : Scope}, DeclaresException t x → isIdentifier x = true →
      s.resolve "EXCEPTION" = memberDraft "PLGLOBALS" "EXCEPTION" →
      ∃ d stmt, compile source t s = .ok ([d], s.declare x) ∧ toStmts d = some [stmt] ∧
        ∀ {place m} steps, lookUp place "PLGLOBALS" m = .ok (.library .standard) m →
          m.Has (place.slot x) → execute place (steps + 5) stmt m =
            .ok .next (m.bound (place.slot x) (.library (.exception .user)))) ∧
    (∀ {place m id x}, Place.Sees place m id (.library (.exception x)) →
      Stands place m (.name id) x) ∧
    (∀ {place m package a id x}, Place.Sees place m package (.object a) →
      Library.packageMember? m.store id (m.store.size + 1) a = some (.library (.exception x)) →
      Stands place m (.attribute (.name package) id) x) ∧
    (∀ {place m}, Place.Sees place m "PLGLOBALS" (.library .standard) →
      Stands place m (.attribute (.name "PLGLOBALS") "OTHERS") .general) ∧
    (∀ {t path d e} {s : Scope}, RaisesException t path → s.resolvePath path = .ok d →
      toExpr d = some e → compile source t s = .ok ([.raiseError d], s) ∧
        toStmts (.raiseError d) = some [.raiseError (some e)] ∧
        ∀ {place m x} steps, Stands place m e x →
          execute place (steps + 3) (.raiseError (some e)) m = .error (.failed (.raised x)) m) ∧
    (∀ {kind before hs after paths s s₁ s₂ s₃ ds gs es}, kind ∈ [.anonymousBlock, .body] →
      List.Forall₂ HandlesException hs paths → hs ≠ [] →
      compileAll source before s = .ok (ds, s₁) → compileAll source hs s₁ = .ok (gs, s₂) →
      compileAll source after s₂ = .ok (es, s₃) → (∀ d ∈ ds ++ es, d.isHandler = false) →
      compile source (.node kind (before ++ hs ++ after)) s =
        .ok ([.guard (unnamed (ds ++ es)) gs], s₃) ∧
      ∀ {stmts}, toStmts (.guard (unnamed (ds ++ es)) gs) = some stmts →
        ∃ body handlers, stmts = [.guard body handlers] ∧
          List.Forall₂ IsWrittenFor paths handlers) ∧
    (∀ {place m m' body handlers xs} steps, AllStand place m' handlers xs →
      executeAll place (steps + handlers.length + 3) body m = .error (.failed (.raised .user)) m' →
      ∃ k ≥ steps, execute place (steps + handlers.length + 4) (.guard body handlers) m =
        (taker? .user handlers xs).elim (fail (.raised .user))
          (fun body => handling (.raised .user) (executeAll place k body)) m' ∧
        ((taker? .user handlers xs).isSome ↔ .user ∈ xs ∨ .general ∈ xs)) := by
  refine ⟨fun declares plain standard => ?_, stands_name, stands_member,
    stands_others, fun raises resolved written => ?_,
    fun block handle some_handler front handlers back others => ?_,
    fun steps stand failed => ?_⟩
  · exact ⟨_, _, compile_exception declares standard, toStmts_exception plain,
      fun steps known has => execute_exception known has⟩
  · exact ⟨compile_raising raises resolved, toStmts_raising written,
      fun steps stands => execute_raising stands⟩
  · exact ⟨compile_guarded block handle some_handler front handlers back others,
      toStmts_guard_of (compileAll_handlers handle handlers)⟩
  · obtain ⟨k, enough, ran⟩ := execute_guarded stand failed
    exact ⟨k, enough, ran, taker?_user_isSome stand.length_eq⟩

def exceptionMachine : Machine :=
  { globals := [("A", .library (.exception .user)), ("B", .library (.exception .user))] }

def exceptionTree (id : String) : Tree Token :=
  .node .variableDeclaration [identifierTree id, .node .typeSpec [.node .typeName
    [.node .idExpression [Core.nameTree "exception"]]], Core.leafOf .SEMICOLON ";"]

theorem second_exception_taken :
    (∃ d stmt, compile "" (exceptionTree "a") {} = .ok ([d], Scope.declare {} "A") ∧
      toStmts d = some [stmt]) ∧
    ∃ k ≥ 2, execute {} 7 (.guard [.raiseError (some (.name "B"))] [.mk (.name "A") [.pass]])
      exceptionMachine = handling (.raised .user) (executeAll {} k [.pass]) exceptionMachine := by
  obtain ⟨declared, named, -, -, -, -, guarded⟩ := user_exceptions_interchangeable ""
  have sees (id) (here : id = "A" ∨ id = "B") :
      Place.Sees {} exceptionMachine id (.library (.exception .user)) := by
    refine ⟨rfl, [], none, .program, ?_⟩
    rcases here with rfl | rfl <;> rfl
  have declares : DeclaresException (exceptionTree "a") "A" := by
    have named : (identifierTree "a").capitals = "A" := by decide +kernel
    rw [← named]
    exact ⟨⟨_, rfl⟩, ⟨⟨_, rfl⟩, by decide +kernel⟩, ⟨_, rfl⟩⟩
  obtain ⟨d, stmt, compiled, written, -⟩ := declared (s := {}) declares (by decide +kernel) rfl
  refine ⟨⟨d, stmt, compiled, written⟩, ?_⟩
  have handles : AllStand {} exceptionMachine [.mk (.name "A") [.pass]] [.user] :=
    .cons ⟨_, _, rfl, named (sees "A" (.inl rfl))⟩ .nil
  have failed : executeAll {} 6 [.raiseError (some (.name "B"))] exceptionMachine =
      .error (.failed (.raised .user)) exceptionMachine :=
    bind_error (execute_raising (named (sees "B" (.inr rfl))))
  obtain ⟨k, enough, ran, -⟩ := guarded 2 handles failed
  exact ⟨k, enough, ran⟩

def exceptionProgram : List Stmt :=
  let declared := Expr.call (.attribute (.name "PLGLOBALS") "EXCEPTION") []
  [.importAll "PLGLOBALS", .assign "A" declared, .assign "B" declared,
    .guard [.raiseError (some (.name "B"))] [.mk (.name "A") [.assign "Y" (.constant (.int 1))]]]

theorem second_exception_not_passed :
    (outcome 12 exceptionProgram).slot? (.global "Y") = some (.int 1) := by
  rfl

end Run
end BlockScript
