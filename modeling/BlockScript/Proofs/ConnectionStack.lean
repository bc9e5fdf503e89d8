import BlockScript.Proofs.LibraryEffects

/-!
The connections of a database, from its start on. Whatever calls of the library are made, failing or
not, the log says how the connections came and went: each event happens on the connection on top,
the end of a transaction closes it if there is another one below, and the first connection stays.
-/

namespace BlockScript

open Eval Machine Library Asking Option

def Event.isConnect : Event → Bool
  | .connect _ => true
  | _ => false

inductive Event.IsEnd : Event → Prop
  | commit : IsEnd .commit
  | rollback : IsEnd .rollback

lemma Event.IsEnd.isConnect {e : Event} (ends : e.IsEnd) : e.isConnect = false := by
  cases ends <;> rfl

lemma Event.IsEnd.ne_close {e : Event} (ends : e.IsEnd) : e ≠ .close := by cases ends <;> nofun

namespace Database

variable {d d' : Database} {log : List Entry} {made top : Nat}

/-- A log, the number of connections that were made in it, and those that are open behind it, the
latest first. -/
inductive Logged : List Entry → Nat → List Nat → Prop
  | start : Logged [] 0 []
  | connect {log : List Entry} {made : Nat} {stack : List Nat} (logged : Logged log made stack)
      (target : Snapshot) : Logged (log ++ [⟨made, .connect target⟩]) (made + 1) (made :: stack)
  | execute {log : List Entry} {made top : Nat} {stack : List Nat}
      (logged : Logged log made (top :: stack)) (query binds : Snapshot) :
      Logged (log ++ [⟨top, .execute query binds⟩]) made (top :: stack)
  | endLast {log : List Entry} {made top : Nat} {e : Event} (logged : Logged log made [top])
      (ends : e.IsEnd) : Logged (log ++ [⟨top, e⟩]) made [top]
  | endAbove {log : List Entry} {made top next : Nat} {stack : List Nat} {e : Event}
      (logged : Logged log made (top :: next :: stack)) (ends : e.IsEnd) :
      Logged (log ++ [⟨top, e⟩] ++ [⟨top, .close⟩]) made (next :: stack)
  | close {log : List Entry} {made top next : Nat} {stack : List Nat}
      (logged : Logged log made (top :: next :: stack)) :
      Logged (log ++ [⟨top, .close⟩]) made (next :: stack)

def firstConnected? (log : List Entry) : Option Nat :=
  (log.find? (·.event.isConnect)).map (·.connection)

/-- Nothing happens on a connection after it was closed. -/
def Silent (log : List Entry) : Prop :=
  log.Pairwise fun entry later => entry.event = .close → later.connection ≠ entry.connection

/-- What is always true of a log and the connections that are open behind it. -/
structure Orderly (log : List Entry) (made : Nat) (stack : List Nat) : Prop where
  stackMade : ∀ id ∈ stack, id < made
  logMade : ∀ entry ∈ log, entry.connection < made
  apart : stack.Nodup
  unclosed : ∀ entry ∈ log, entry.event = .close → entry.connection ∉ stack
  silent : Silent log
  bottom : stack.getLast? = firstConnected? log

lemma firstConnected?_append_of_some {id : Nat} (known : firstConnected? log = some id) :
    firstConnected? (log ++ more) = some id := by
  rw [firstConnected?, List.find?_append, map_or, ← firstConnected?, known, some_or]

lemma firstConnected?_append_other (other : e.isConnect = false) (id : Nat) :
    firstConnected? (log ++ [⟨id, e⟩]) = firstConnected? log := by
  rw [firstConnected?, List.find?_append, map_or, ← firstConnected?, List.find?_singleton,
    other]
  exact or_none

lemma firstConnected?_append_connect (none : firstConnected? log = none) (id : Nat)
    (target : Snapshot) : firstConnected? (log ++ [⟨id, .connect target⟩]) = some id := by
  rw [firstConnected?, List.find?_append, map_or, ← firstConnected?, none]
  rfl

namespace Orderly

variable {id : Nat}

lemma start : Orderly [] 0 [] where
  stackMade := nofun
  logMade := nofun
  apart := .nil
  unclosed := nofun
  silent := .nil
  bottom := rfl

section

variable (orderly : Orderly log made stack)
include orderly

lemma connect (target : Snapshot) :
    Orderly (log ++ [⟨made, .connect target⟩]) (made + 1) (made :: stack) where
  stackMade id member := by
    rcases mem_cons.1 member with rfl | member
    · omega
    · exact Nat.lt_succ_of_lt (orderly.stackMade id member)
  logMade entry member := by
    rcases mem_append.1 member with member | member
    · exact Nat.lt_succ_of_lt (orderly.logMade entry member)
    · grind
  apart := nodup_cons.2 ⟨fun member => Nat.lt_irrefl _ (orderly.stackMade made member),
    orderly.apart⟩
  unclosed entry member isClose onStack := by
    rcases mem_append.1 member with member | member
    · rcases mem_cons.1 onStack with same | onStack
      · have known := orderly.logMade entry member
        omega
      · exact orderly.unclosed entry member isClose onStack
    · grind
  silent := by
    refine pairwise_append.2 ⟨orderly.silent, List.pairwise_singleton _ _, ?_⟩
    intro entry member later isLater _
    obtain rfl := mem_singleton.1 isLater
    have known := orderly.logMade entry member
    dsimp only
    omega
  bottom := by
    cases stack with
    | nil => exact (firstConnected?_append_connect orderly.bottom.symm made target).symm
    | cons top stack =>
      refine (firstConnected?_append_of_some (orderly.bottom.symm.trans ?_)).symm
      exact List.getLast?_eq_some_getLast _

lemma silent_append (onStack : id ∈ stack) (e : Event) : Silent (log ++ [⟨id, e⟩]) := by
  refine pairwise_append.2 ⟨orderly.silent, List.pairwise_singleton _ _, ?_⟩
  intro entry mem later isLater isClose same
  obtain rfl := mem_singleton.1 isLater
  exact orderly.unclosed entry mem isClose (same ▸ onStack)

lemma logMade_append (onStack : id ∈ stack) (e : Event) :
    ∀ entry ∈ log ++ [⟨id, e⟩], entry.connection < made := by
  intro entry mem
  rcases mem_append.1 mem with mem | mem
  · exact orderly.logMade entry mem
  · obtain rfl := mem_singleton.1 mem
    exact orderly.stackMade id onStack

lemma use (onStack : id ∈ stack) (isUse : e.isConnect = false) (noClose : e ≠ .close) :
    Orderly (log ++ [⟨id, e⟩]) made stack where
  stackMade := orderly.stackMade
  logMade := orderly.logMade_append onStack e
  apart := orderly.apart
  unclosed entry mem isClose := by
    rcases mem_append.1 mem with mem | mem
    · exact orderly.unclosed entry mem isClose
    · grind
  silent := orderly.silent_append onStack e
  bottom := by rw [firstConnected?_append_other isUse, orderly.bottom]

end

lemma close (orderly : Orderly log made (top :: next :: stack)) :
    Orderly (log ++ [⟨top, .close⟩]) made (next :: stack) where
  stackMade id member := orderly.stackMade id (mem_cons_of_mem _ member)
  logMade := orderly.logMade_append mem_cons_self .close
  apart := (nodup_cons.1 orderly.apart).2
  unclosed entry member isClose onStack := by
    rcases mem_append.1 member with member | member
    · exact orderly.unclosed entry member isClose (mem_cons_of_mem _ onStack)
    · obtain rfl := mem_singleton.1 member
      exact (nodup_cons.1 orderly.apart).1 onStack
  silent := orderly.silent_append mem_cons_self .close
  bottom := by
    rw [firstConnected?_append_other rfl, ← orderly.bottom, List.getLast?_cons_cons]

end Orderly

lemma Logged.orderly (logged : Logged log made stack) : Orderly log made stack := by
  induction logged with
  | start => exact .start
  | connect _ target ih => exact ih.connect target
  | execute _ query binds ih => exact ih.use mem_cons_self rfl nofun
  | endLast _ ends ih => exact ih.use mem_cons_self ends.isConnect ends.ne_close
  | endAbove _ ends ih => exact (ih.use mem_cons_self ends.isConnect ends.ne_close).close
  | close _ ih => exact ih.close

def ids (d : Database) : List Nat := d.connections.map (·.id)

/-- The log of a database is the history of its connections. -/
def IsLogged (d : Database) : Prop := Logged d.entries d.made d.ids

structure Ended (e : Event) (d d' : Database) : Prop where
  made : d'.made = d.made
  last : ∀ top, d.ids = [top] → d'.entries = d.entries ++ [⟨top, e⟩] ∧ d'.ids = [top]
  above : ∀ top next stack, d.ids = top :: next :: stack →
    d'.entries = d.entries ++ [⟨top, e⟩] ++ [⟨top, .close⟩] ∧ d'.ids = next :: stack

lemma ids_record (d : Database) (id : Nat) (e : Event) : (d.record id e).ids = d.ids := rfl

lemma ids_update (d : Database) (id : Nat) (same : ∀ c, (f c).id = c.id) :
    (d.update id f).ids = d.ids := by
  rw [ids, update, List.map_map, ids]
  refine map_congr_left fun c _ => ?_
  dsimp only [Function.comp_apply]
  split
  · exact same c
  · rfl

lemma closeTop_single (single : d.ids = [top]) : d.closeTop = d := by
  unfold ids at single
  unfold closeTop
  split
  case _ is =>
    rw [is] at single
    cases single
  case _ => rfl

lemma closeTop_above (above : d.ids = top :: next :: stack) :
    d.closeTop.made = d.made ∧ d.closeTop.entries = d.entries ++ [⟨top, .close⟩] ∧
      d.closeTop.ids = next :: stack := by
  unfold ids at above
  unfold closeTop
  split
  case _ is =>
    rw [is] at above
    cases above
    exact ⟨rfl, rfl, rfl⟩
  case _ other => match is : d.connections, above with
    | _ :: _ :: _, _ => exact absurd is (other _ _ _)

lemma ended (top : d.top? = some c) (e : Event) (same : ∀ c, (f c).id = c.id) :
    Ended e d (((d.record c.id e).update c.id f).closeTop) := by
  have kept : ((d.record c.id e).update c.id f).ids = d.ids := ids_update _ _ same
  have first : d.ids.head? = some c.id := by
    rw [ids, List.head?_map, show d.connections.head? = some c from top]
    rfl
  refine ⟨?_, fun id single => ?_, fun id next stack above => ?_⟩
  · unfold closeTop
    split <;> rfl
  · rw [single] at first
    cases first
    rw [closeTop_single (kept.trans single)]
    exact ⟨rfl, kept.trans single⟩
  · rw [above] at first
    cases first
    exact (closeTop_above (kept.trans above)).2

lemma ids_of_top? (top : d.top? = some c) : ∃ stack, d.ids = c.id :: stack := by
  unfold top? at top
  cases is : d.connections with
  | nil => grind
  | cons c' stack =>
    rw [is] at top
    cases top
    exact ⟨stack.map (·.id), by rw [ids, is]; rfl⟩

namespace IsLogged

lemma rest (logged : d.IsLogged) (rests : d.Rests d') : d'.IsLogged := by
  unfold IsLogged ids at logged ⊢
  rwa [rests.entries, rests.made, rests.connections]

lemma ended (logged : d.IsLogged) (top : d.top? = some c) (isEnd : e.IsEnd)
    (ended : Ended e d d') : d'.IsLogged := by
  unfold IsLogged at logged ⊢
  rw [ended.made]
  obtain ⟨stack, is⟩ := ids_of_top? top
  cases stack with
  | nil =>
    obtain ⟨entries, now⟩ := ended.last _ is
    rw [is] at logged
    rw [entries, now]
    exact logged.endLast isEnd
  | cons next stack =>
    obtain ⟨entries, now⟩ := ended.above _ _ _ is
    rw [is] at logged
    rw [entries, now]
    exact logged.endAbove isEnd

lemma close (logged : d.IsLogged) : d.closeTop.IsLogged := by
  unfold IsLogged at logged ⊢
  match is : d.ids with
  | [] =>
    have none : d.connections = [] := List.map_eq_nil_iff.1 is
    rw [closeTop, none]
    exact logged
  | [top] => rwa [closeTop_single is]
  | top :: next :: stack =>
    obtain ⟨made, entries, now⟩ := closeTop_above is
    rw [made, entries, now]
    rw [is] at logged
    exact logged.close

lemma move {move : Move} (logged : d.IsLogged) (moved : Moves move d d') : d'.IsLogged := by
  cases moved with
  | connect _ target => exact Logged.connect logged target
  | execute top query binds =>
    obtain ⟨stack, is⟩ := ids_of_top? top
    unfold IsLogged at logged ⊢
    rw [ids_record, is]
    rw [is] at logged
    exact logged.execute query binds
  | commit top => exact logged.ended top .commit (Database.ended top _ fun _ => rfl)
  | rollback top => exact logged.ended top .rollback (Database.ended top _ fun _ => rfl)
  | close => exact logged.close

lemma runs (logged : d.IsLogged) (runs : Runs moves d d') : d'.IsLogged := by
  induction runs with
  | rest rests => exact logged.rest rests
  | move rests moved _ ih => exact ih ((logged.rest rests).move moved)

end IsLogged

lemma Moves.grows {move : Move} (moved : Moves move d d') :
    ∃ more, d'.entries = d.entries ++ more := by
  have closed (d : Database) : ∃ more, d.closeTop.entries = d.entries ++ more := by
    unfold closeTop
    split
    · exact ⟨_, rfl⟩
    · exact ⟨[], (append_nil _).symm⟩
  have ended (id e f) :
      ∃ more, (((d.record id e).update id f).closeTop).entries = d.entries ++ more := by
    obtain ⟨more, grown⟩ := closed ((d.record id e).update id f)
    exact ⟨[⟨id, e⟩] ++ more, by rw [grown, ← append_assoc]; rfl⟩
  cases moved with
  | connect | execute => exact ⟨_, rfl⟩
  | commit | rollback => exact ended _ _ _
  | close => exact closed d

lemma Runs.grows (runs : Runs moves d d') : ∃ more, d'.entries = d.entries ++ more := by
  induction runs with
  | rest rests => exact ⟨[], rests.entries.trans (append_nil _).symm⟩
  | move rests moved _ ih =>
    obtain ⟨first, grown⟩ := moved.grows
    obtain ⟨second, grown'⟩ := ih
    exact ⟨first ++ second, by rw [grown', grown, rests.entries, append_assoc]⟩

lemma Runs.bottom (logged : d.IsLogged) (runs : Runs moves d d') {id : Nat}
    (bottom : d.ids.getLast? = some id) : d'.ids.getLast? = some id := by
  obtain ⟨more, grown⟩ := runs.grows
  rw [(logged.runs runs).orderly.bottom, grown]
  exact firstConnected?_append_of_some (logged.orderly.bottom.symm.trans bottom)

end Database

/-- Whatever happens to the connections comes down to moves. -/
structure Machine.Moving (m m' : Machine) : Prop where
  follows : m.Follows m'
  runs : ∃ moves, Database.Runs moves m.database m'.database

namespace Machine.Moving

lemma trans (first : Moving m m') (second : Moving m' m'') : Moving m m'' := by
  obtain ⟨moves, runs⟩ := first.runs
  obtain ⟨moves', runs'⟩ := second.runs
  exact ⟨first.follows.trans second.follows, moves ++ moves', runs.trans runs'⟩

lemma of_same (follows : m.Follows m') (same : m'.database = m.database) : Moving m m' :=
  ⟨follows, [], .rest (by rw [same]; exact .refl _)⟩

end Machine.Moving

instance : Storing Moving where
  follows := Moving.follows
  refl m := .of_same (.refl m) rfl
  trans := .trans
  push m _ other := .of_same (push m other) rfl
  pushCell contains := .of_same (pushCell contains) rfl
  pushQuery m _ query := .of_same (.push m query.not_isOfProgram) rfl
  addField found missing := .of_same (addField found missing) rfl
  putValues found _ same := .of_same (.put found same) rfl
  putCell cell contains := .of_same (Assigning.putCell cell contains) rfl
  store cell := .of_same (Storing.store cell) rfl
  rest _ _ rests := ⟨.of_same rfl rfl, [], .rest rests⟩
  move _ _ _ moved := ⟨.of_same rfl rfl, _, .of_moves moved⟩
  putAnswer found _ same := .of_same (.put found same) rfl
  put found _ same := .of_same (.put found same) rfl
  note store globals database := .of_same (.of_same globals store) database

structure Machine.Aside (m m' : Machine) : Prop where
  follows : m.Follows m'
  database : m'.database = m.database

instance : Assigning Aside where
  follows := Aside.follows
  refl m := ⟨.refl m, rfl⟩
  trans first second := ⟨first.follows.trans second.follows, second.database.trans first.database⟩
  push m _ other := ⟨push m other, rfl⟩
  pushCell contains := ⟨pushCell contains, rfl⟩
  addField found missing := ⟨addField found missing, rfl⟩
  putValues found _ same := ⟨.put found same, rfl⟩
  putCell cell contains := ⟨Assigning.putCell cell contains, rfl⟩

namespace Connect

inductive IsCall : Eval Value → Prop
  | routine (r : Routine) (arguments : List Value) : IsCall (apply r arguments)
  | method (a : Address) (method : Method) (arguments : List Value) :
      IsCall (applyMethod a method arguments)

/-- Any number of calls of the library, each of which succeeds or fails. -/
inductive Operates : Machine → Machine → Prop
  | rest {m m' : Machine} (rests : m.database.Rests m'.database) : Operates m m'
  | call {m m' m'' : Machine} {x : Eval Value} (rests : m.database.Rests m'.database)
      (isCall : IsCall x) (later : Operates (x.after m') m'') : Operates m m''

lemma IsCall.moving (isCall : IsCall x) (m : Machine) : m.Moving (x.after m) := by
  have ends : Keeps Moving x := by
    cases isCall with
    | routine r args => exact keeps_apply r args
    | method a method args => exact (gives_applyMethod a method args).keeps
  exact (ends m).after

lemma Operates.runs (operates : Operates m m') :
    ∃ moves, Database.Runs moves m.database m'.database := by
  induction operates with
  | rest rests => exact ⟨[], .rest rests⟩
  | call rests isCall _ ih =>
    obtain ⟨first, runs⟩ := (isCall.moving _).runs
    obtain ⟨second, runs'⟩ := ih
    exact ⟨first ++ second, (runs.of_rests rests).trans runs'⟩

inductive Ready (d : Database) : Database → Prop
  | same (some : d.connections ≠ []) : Ready d d
  | made (none : d.connections = []) (target : Snapshot) : Ready d (d.connect target)

/-- The calls that end a transaction. -/
inductive Concludes : Event → Eval Value → Prop
  | commit : Concludes .commit (apply .commit [])
  | rollback : Concludes .rollback (apply .rollback [])

inductive IsNone : Value → Prop
  | unset : IsNone .none
  | null : IsNone .null
  | empty : IsNone (.text "")

inductive Connects (m : Machine) : Eval Value → Value → Prop
  | autonomous : Connects m (apply .autonomous []) m.database.target
  | setup {v target : Value} (none : m.database.connections = [])
      (given : connectionTarget v m = .ok target m) :
      Connects m (apply .setup [v]) target
  | connection (none : m.database.connections = []) :
      Connects m (apply .connection []) m.database.target
  | opened (none : m.database.connections = []) (a : Address) (arguments locals : Value) :
      Connects m (applyMethod a .cursorOpen [arguments, locals]) m.database.target
  | executed (none : m.database.connections = []) (query binds locals : Value) :
      Connects m (apply .execute [query, binds, locals]) m.database.target
  | ended (none : m.database.connections = []) {e : Event} {x : Eval Value}
      (concludes : Concludes e x) : Connects m x m.database.target

variable {target : Value}

lemma start_of_some (some : m.database.connections ≠ []) : start false m = .ok () m := by
  have isThere : (!m.database.connections.isEmpty && !false) = true := by simp [some]
  rw [start, bind_ok (get_eq m)]
  rw [if_pos isThere]
  rfl

lemma start_of_try (tries : isForced = true ∨ m.database.connections = []) : start isForced m = (do
      unless ← truth m.database.target do fail .noConnectionString
      let target ← snapshot m.database.target
      onDatabase (·.connect target) : Eval Unit) m := by
  have isWanted : ¬ (!m.database.connections.isEmpty && !isForced) = true := by
    rcases tries with rfl | none
    · simp
    · simp [none]
  rw [start, bind_ok (get_eq m)]
  rw [if_neg isWanted]

lemma truth_of_isNone (isNone : IsNone target) (m) : truth target m = .ok false m := by
  cases isNone <;> rfl

lemma start_fails (tries : isForced = true ∨ m.database.connections = [])
    (isNone : IsNone m.database.target) :
    start isForced m = .error (.failed .noConnectionString) m := by
  rw [start_of_try tries, bind_ok (truth_of_isNone isNone m)]
  rfl

lemma top_ready (used : top m = .ok c m') :
    Ready m.database m'.database ∧ m'.database.top? = some c := by
  refine ⟨?_, ((ends_top (R := Moving) m).ok used).2⟩
  obtain ⟨_, m1, started, used⟩ := ok_of_bind used
  rw [bind_ok (get_eq m1)] at used
  have same : m' = m1 := by
    cases is : m1.database.top? with
    | none =>
      rw [is] at used
      cases used
    | some c =>
      rw [is] at used
      cases used
      rfl
  subst same
  by_cases none : m.database.connections = []
  · rw [start_of_try (.inr none)] at started
    obtain ⟨isSet, m2, asked, started⟩ := ok_of_bind started
    have kept := ((keeps_truth (R := Aside) _ m).ok asked).1
    cases isSet with
    | false => cases started
    | true =>
      cases started
      change Ready m.database (m2.database.connect _)
      rw [kept.database]
      exact .made none _
  · rw [start_of_some none] at started
    cases started
    exact .same none

lemma Concludes.ended (concludes : Concludes e x) (result : x m = .ok v m') :
    ∃ d, Ready m.database d ∧ Database.Ended e d m'.database := by
  cases concludes with
  | commit | rollback =>
    obtain ⟨_, m1, result, rest⟩ := ok_of_bind result
    cases rest
    obtain ⟨c, m2, used, result⟩ := ok_of_bind result
    obtain ⟨ready, top⟩ := top_ready used
    cases result
    exact ⟨m2.database, ready, Database.ended top _ fun _ => rfl⟩

def Fails {α : Type} (x : Eval α) (m : Machine) : Prop :=
  ∃ stop m', x m = .error stop m' ∧ m.database.Rests m'.database

lemma Fails.bind {x : Eval α} (fails : Fails x m) : Fails (x >>= f) m := by
  obtain ⟨stop, m', failed, rests⟩ := fails
  exact ⟨stop, m', bind_error failed, rests⟩

lemma Fails.after {x : Eval α} (keeps : Keeps Aside x)
    (fails : ∀ v m', m'.database = m.database → Fails (f v) m') : Fails (x >>= f) m := by
  have ends := keeps m
  unfold Ends at ends
  split at ends
  case _ v m' result =>
    obtain ⟨stop, m'', failed, rests⟩ := fails v m' ends.1.database
    rw [ends.1.database] at rests
    exact ⟨stop, m'', (bind_ok result).trans failed, rests⟩
  case _ stop m' result => exact ⟨stop, m', bind_error result, by rw [ends.database]; exact .refl _⟩

lemma top_fails (none : m.database.connections = []) (isNone : IsNone m.database.target) :
    Fails top m :=
  .bind ⟨_, m, start_fails (.inr none) isNone, .refl _⟩

lemma openWith_fails (none : m.database.connections = []) (isNone : IsNone m.database.target)
    (a) (args locals : Value) : Fails (Query.openWith a args locals) m := by
  refine .after (Query.keeps_cursorAt a) fun c m1 first => ?_
  refine .after (Query.keeps_bind c args locals) fun binds m2 second => ?_
  rw [← first, ← second] at none isNone
  exact (top_fails none isNone).bind

lemma Connects.fails (connects : Connects m x target) (isNone : IsNone target) : Fails x m := by
  cases connects with
  | autonomous => exact .bind ⟨_, m, start_fails (.inl rfl) isNone, .refl _⟩
  | setup none given =>
    refine ⟨.failed .noConnectionString, { m with database := { m.database with target } }, ?_,
      ⟨rfl, rfl, rfl⟩⟩
    refine (bind_ok given).trans ?_
    exact bind_error (start_fails (.inr none) isNone)
  | connection none => exact (top_fails none isNone).bind
  | opened none a args locals => exact openWith_fails none isNone a args locals
  | executed none query binds locals =>
    refine .after (keeps_new id) fun params m1 first => ?_
    refine .after (fun m => .of_ok rfl ⟨.push m id, rfl⟩ trivial) fun a m2 second => ?_
    refine .after (keeps_new id) fun args m3 third => ?_
    rw [← first, ← second, ← third] at none isNone
    exact (openWith_fails none isNone a args locals).bind.bind
  | ended none concludes =>
    cases concludes with
    | commit | rollback => exact (top_fails none isNone).bind.bind

/-- From a database without connections on, whatever calls of the library are made: the log is the
history of the connections, each of which is used while it is on top; the one at the bottom is the
first that was connected, and stays there; none that is open was closed, and none that was closed is
used again. The end of a transaction is on the connection on top, which is closed just if there is
another one, and an attempt to connect to nothing fails and leaves all as it was. -/
theorem connection_stack {m₀ m : Machine} (fresh : Database.Rests {} m₀.database)
    (reached : Operates m₀ m) :
    m.database.IsLogged ∧
      m.database.ids.getLast? = Database.firstConnected? m.database.entries ∧
      (∀ entry ∈ m.database.entries, entry.event = .close → entry.connection ∉ m.database.ids) ∧
      Database.Silent m.database.entries ∧
      (∀ m' bottom, Operates m m' → m.database.ids.getLast? = some bottom →
        m'.database.ids.getLast? = some bottom) ∧
      (∀ e x v m', Concludes e x → x m = .ok v m' →
        ∃ d, Ready m.database d ∧ Database.Ended e d m'.database) ∧
      (∀ x target, Connects m x target → IsNone target → Fails x m) := by
  obtain ⟨moves, runs⟩ := reached.runs
  have empty : Database.IsLogged {} := Database.Logged.start
  have logged : m.database.IsLogged := (empty.rest fresh).runs runs
  have orderly := logged.orderly
  refine ⟨logged, orderly.bottom, orderly.unclosed, orderly.silent, ?_, ?_, ?_⟩
  · intro m' bottom later isBottom
    obtain ⟨moves', runs'⟩ := later.runs
    exact runs'.bottom logged isBottom
  · exact fun e x v m' concludes result => concludes.ended result
  · exact fun x target connects isNone => connects.fails isNone

def autonomousMachine : Machine :=
  (apply .autonomous []).after ((apply .setup [.text "d"]).after {})

lemma autonomous_reached : Operates {} autonomousMachine :=
  .call (.refl _) (.routine .setup [.text "d"])
    (.call (.refl _) (.routine .autonomous []) (.rest (.refl _)))

/-- Whatever is done to two connections, the first one stays at the bottom. -/
theorem autonomous_bottom_stays :
    autonomousMachine.database.ids = [1, 0] ∧
      ∀ m', Operates autonomousMachine m' → m'.database.ids.getLast? = some 0 := by
  have two : autonomousMachine.database.ids = [1, 0] := by rfl
  obtain ⟨-, -, -, -, stays, -⟩ := connection_stack (.refl {}) autonomous_reached
  exact ⟨two, fun m' later => stays m' 0 later (by rw [two]; rfl)⟩

end Connect
end BlockScript
