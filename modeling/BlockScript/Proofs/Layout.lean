import BlockScript.Proofs.Resemblance

/-!
Layout and letter case. The grammar sees only the kinds of tokens, so sources whose tokens are of
the same kinds have the same tree. What a lookup finds in the chart is given by recursion, without a
table: over the places from the last to the first, and at one place over the levels.
-/

namespace BlockScript

namespace Nonterminal

lemma ctorIdx_lt (kind : Nonterminal) : kind.ctorIdx < all.length := by
  rw [all, List.length_map, List.length_range]
  cases kind <;> decide

lemma mem_all (kind) : kind ∈ all := by
  have room := ctorIdx_lt kind
  rw [all, List.length_map, List.length_range] at room
  exact List.mem_map.2 ⟨kind.ctorIdx, List.mem_range.2 room, ofNat_ctorIdx kind⟩

lemma level_lt (kind : Nonterminal) : kind.level < levels := by
  have listed : ∀ k ∈ all, k.level < levels := by decide +kernel
  exact listed kind (mem_all kind)

lemma ctorIdx_inj {kind other : Nonterminal} (same : kind.ctorIdx = other.ctorIdx) :
    kind = other := by
  rw [← ofNat_ctorIdx kind, same, ofNat_ctorIdx]

end Nonterminal

namespace Chart
open Grammar

def cells (kinds : Array Terminal) (i : Nat) (below : Lookup) (kind : Nonterminal) :
    Array (Thunk Parse) :=
  (Array.range (production kind).floors).map fun floor =>
    Thunk.mk fun _ => (production kind).parse kinds below kind floor i

def stage (kinds : Array Terminal) (i last : Nat) (later : Later) (n : Nat) : Row :=
  (List.range n).foldl
    (fun below n =>
      (Nonterminal.all.filter (·.level == n)).foldl
        (fun filled kind =>
          filled.setIfInBounds kind.ctorIdx (cells kinds i (lookup i below last later) kind))
        below)
    (Array.replicate Nonterminal.all.length #[])

lemma row_eq_stage (kinds : Array Terminal) (i last : Nat) (later : Later) :
    row kinds i last later = stage kinds i last later Nonterminal.levels := by
  rfl

section

variable {f : Nonterminal → α} {group : List Nonterminal} {table : Array α}

lemma size_filled :
    (group.foldl (fun filled kind => filled.setIfInBounds kind.ctorIdx (f kind)) table).size =
      table.size := by
  induction group generalizing table with
  | nil => rfl
  | cons kind group ih => rw [List.foldl_cons, ih, Array.size_setIfInBounds]

lemma getElem?_filled (kind) (room : kind.ctorIdx < table.size) :
    (group.foldl (fun filled kind => filled.setIfInBounds kind.ctorIdx (f kind))
      table)[kind.ctorIdx]? = if kind ∈ group then some (f kind) else table[kind.ctorIdx]? := by
  induction group generalizing table with
  | nil => simp
  | cons other group ih =>
    rw [List.foldl_cons, ih (by rwa [Array.size_setIfInBounds])]
    by_cases later : kind ∈ group
    · simp [later]
    · by_cases here : kind = other
      · grind
      · have apart : ¬ other.ctorIdx = kind.ctorIdx :=
          fun same => here (Nonterminal.ctorIdx_inj same).symm
        simp [here, apart]

end

lemma stage_succ (n) : stage kinds i last later (n + 1) =
    (Nonterminal.all.filter (·.level == n)).foldl
      (fun filled kind => filled.setIfInBounds kind.ctorIdx
        (cells kinds i (lookup i (stage kinds i last later n) last later) kind))
      (stage kinds i last later n) := by
  simp [stage, List.range_succ]

lemma size_stage (n) : (stage kinds i last later n).size = Nonterminal.all.length := by
  induction n with
  | zero => exact Array.size_replicate
  | succ n ih => rw [stage_succ, size_filled, ih]

lemma getElem?_stage (n kind) :
    (stage kinds i last later n)[kind.ctorIdx]? = some (if kind.level < n then
        cells kinds i (lookup i (stage kinds i last later kind.level) last later) kind
      else #[]) := by
  have room := Nonterminal.ctorIdx_lt kind
  induction n with
  | zero =>
    change (Array.replicate Nonterminal.all.length #[])[kind.ctorIdx]? = _
    simp [room]
  | succ n ih =>
    rw [stage_succ, getElem?_filled kind (by rwa [size_stage])]
    by_cases now : kind.level = n
    · have listed : kind ∈ Nonterminal.all.filter (·.level == n) := by
        simp [Nonterminal.mem_all, now]
      rw [if_pos listed, if_pos (by omega), now]
    · have unlisted : kind ∉ Nonterminal.all.filter (·.level == n) := by
        simp [now]
      grind

lemma get_eq {row : Row} (found : row[kind.ctorIdx]? = some cell) (j floor : Nat) :
    row.get j kind floor = ((cell[floor]?).map Thunk.get).getD (.failure j) := by
  rw [Row.get, found]
  dsimp only
  cases cell[floor]? <;> rfl

lemma getElem?_cells (below : Lookup) (kind) (floor : Nat) :
    ((cells kinds i below kind)[floor]?).map Thunk.get = if floor < (production kind).floors then
        some ((production kind).parse kinds below kind floor i) else none := by
  unfold cells
  rw [Array.getElem?_map, Array.getElem?_range]
  split <;> rfl

/-- The parse of a nonterminal at a place, if it has a level below `n`. -/
def cell? (kinds : Array Terminal) (i : Nat) (later : Lookup) :
    Nat → Nonterminal → Nat → Option Parse
  | 0, _, _ => none
  | n + 1, kind, floor =>
    if kind.level ≤ n ∧ floor < (production kind).floors then
      some ((production kind).parse kinds
        (fun j below strength =>
          if j = i then
            (if below.level < kind.level then cell? kinds i later n below strength else none).getD
              (.failure j)
          else later j below strength)
        kind floor i)
    else none

def found (kinds : Array Terminal) (last : Nat) : Nat → Lookup
  | 0 => fun j _ _ => .failure j
  | count + 1 => fun j kind floor =>
    if last - j = count then
      (cell? kinds (last - count) (found kinds last count) Nonterminal.levels kind floor).getD
        (.failure j)
    else found kinds last count j kind floor

lemma get_stage (known : ∀ j kind floor, j ≠ i →
      lookup i #[] last later j kind floor = beyond j kind floor) (n) (enough : n ≤ m)
    (j : Nat) (kind) (floor : Nat) :
    (stage kinds i last later n).get j kind floor =
      (if kind.level < n then cell? kinds i beyond m kind floor else none).getD (.failure j) := by
  induction n using Nat.strongRecOn generalizing m j kind floor with
  | ind n ih =>
    rw [get_eq (getElem?_stage n kind)]
    by_cases filled : kind.level < n
    · rw [if_pos filled, if_pos filled, getElem?_cells]
      obtain ⟨m, rfl⟩ : ∃ k, m = k + 1 := ⟨m - 1, by omega⟩
      have same : lookup i (stage kinds i last later kind.level) last later =
          fun j below strength => if j = i then
              (if below.level < kind.level then cell? kinds i beyond m below strength
                else none).getD (.failure j)
            else beyond j below strength := by
        funext j below strength
        by_cases here : j = i
        · rw [lookup, if_pos here, if_pos here]
          exact ih kind.level filled (by omega) j below strength
        · rw [if_neg here, ← known j below strength here]
          simp [lookup, if_neg here]
      rw [same, cell?]
      by_cases room : floor < (production kind).floors
      · rw [if_pos room, if_pos ⟨by omega, room⟩]
      · rw [if_neg room, if_neg fun both => room both.2]
    · grind

lemma size_rows (count : Nat) : (rows kinds last count).size = count := by
  induction count with
  | zero => rfl
  | succ count ih => rw [rows, Array.size_push, ih]

lemma lookup_rows (count : Nat) (apart : j ≠ i) (kind) (floor : Nat) :
    lookup i here last (rows kinds last count) j kind floor =
      found kinds last count j kind floor := by
  induction count generalizing i here j kind floor with
  | zero =>
    rw [lookup, if_neg apart]
    rfl
  | succ count ih =>
    have before : lookup i here last (rows kinds last count) j kind floor =
        found kinds last count j kind floor := ih apart kind floor
    rw [lookup, if_neg apart] at before ⊢
    rw [rows, Array.getElem?_push, size_rows]
    dsimp only [found]
    by_cases now : last - j = count
    · rw [if_pos now, if_pos now]
      dsimp only
      rw [row_eq_stage,
        get_stage (fun _ _ _ other => ih other _ _) Nonterminal.levels (Nat.le_refl _),
        if_pos (Nonterminal.level_lt kind)]
    · grind

/-- The parse from the beginning of a text, by recursion. -/
lemma start_eq_found (kinds : Array Terminal) (kind) :
    start kinds kind = found kinds kinds.size (kinds.size + 1) 0 kind 0 := by
  have first : lookup 1 #[] kinds.size (rows kinds kinds.size (kinds.size + 1)) 0 kind 0 =
      found kinds kinds.size (kinds.size + 1) 0 kind 0 := lookup_rows _ Nat.zero_ne_one kind 0
  rw [← first, start, Array.back?_eq_getElem?, size_rows]
  rfl

def reading? (kinds : Array Terminal) : Option (Tree Nat) :=
  let all := kinds.push .EOF
  let reading := found all all.size (all.size + 1) 0 .sqlScript 0
  if reading.ends.contains all.size then
    match reading.choose [all.size] with
    | ([tree], _) => some tree
    | _ => none
  else none

lemma parse_of_reading? (read : reading? kinds = some tree) : parse kinds = .ok tree := by
  rw [parse, start_eq_found]
  simp only [reading?] at read
  split at read
  · grind
  · cases read

end Chart

inductive Rejection where
  | lacking
  | misplaced
  | miscounted
  | unreadable
  | unknownOperator
  | unsupported
deriving DecidableEq

namespace Reject

def kind : Reject → Rejection
  | .lacking => .lacking
  | .misplaced => .misplaced
  | .miscounted => .miscounted
  | .unreadable => .unreadable
  | .unknownOperator => .unknownOperator
  | .unsupported _ => .unsupported

def Alike (reason other : Reject) : Prop := reason.kind = other.kind

instance : Std.Refl Alike := ⟨fun _ => rfl⟩

end Reject

lemma SameResult.symm (same : SameResult Reject.Alike x y) : SameResult Reject.Alike y x := by
  cases same with
  | error alike => exact .error (Eq.symm alike)
  | ok value => exact .ok value

lemma SameResult.trans (first : SameResult Reject.Alike x y)
    (second : SameResult Reject.Alike y z) : SameResult Reject.Alike x z := by
  cases first with
  | error alike =>
    cases second with
    | error alike' => exact .error (Eq.trans alike alike')
  | ok value => exact second

namespace Token

/-- Two tokens of one kind whose texts differ at most in the case of letters, and not at all if they
are quoted. -/
def Alike (a b : Token) : Prop :=
  a.kind = b.kind ∧
    if a.kind = .CHAR_STRING then a.text = b.text else a.text.toUpper = b.text.toUpper

lemma alike_iff : Alike a b ↔ a.kind = b.kind ∧ if a.kind = .CHAR_STRING then a.text = b.text
    else a.text.toList.map Char.toUpper = b.text.toList.map Char.toUpper := by
  simp [Alike, ← String.toList_inj, String.toUpper]

instance (a b : Token) : Decidable (Alike a b) := decidable_of_iff' _ alike_iff

def plain (token : Token) : Token where
  kind := token.kind
  text := if token.kind = .CHAR_STRING then token.text else token.text.toUpper
  position := {}
  start := 0
  stop := 0

lemma Alike.plain_eq (alike : Alike a b) : a.plain = b.plain := by
  obtain ⟨kinds, texts⟩ := alike
  unfold plain
  split at texts
  · grind
  · grind

lemma keepsReading_plain : Compile.KeepsReading Reject.Alike plain where
  kind _ := rfl
  capitals token := by
    unfold plain
    split
    · rfl
    · exact toUpper_toUpper token.text
  quoted token quoted := if_pos quoted
  rejected _ _ := rfl

end Token

namespace Tree

mutual
theorem map_map (f : α → β) (g : β → γ) (t : Tree α) : (t.map f).map g = t.map (g ∘ f) := by
  match t with
  | .leaf _ => rfl
  | .node kind ts => rw [map, map, map, mapAll_mapAll f g ts]

theorem mapAll_mapAll (f : α → β) (g : β → γ) (ts : List (Tree α)) :
    mapAll g (mapAll f ts) = mapAll (g ∘ f) ts := by
  match ts with
  | [] => rfl
  | t :: ts => rw [mapAll, mapAll, mapAll, map_map f g t, mapAll_mapAll f g ts]
end

end Tree

namespace Compile

mutual
theorem everyPhrase_map {allowed : Nonterminal → Bool} (t) :
    everyPhrase allowed (t.map move) = everyPhrase allowed t := by
  match t with
  | .leaf _ => rfl
  | .node kind ts => rw [Tree.map, everyPhrase, everyPhrase, everyPhraseAll_mapAll ts]

theorem everyPhraseAll_mapAll (ts) :
    everyPhraseAll allowed (Tree.mapAll move ts) = everyPhraseAll allowed ts := by
  match ts with
  | [] => rfl
  | t :: ts =>
    rw [Tree.mapAll, everyPhraseAll, everyPhraseAll, everyPhrase_map t, everyPhraseAll_mapAll ts]
end

lemma script_plain (free : lacks queries s.tree = true) (src) :
    SameResult Reject.Alike (script ⟨src, s.tree.map Token.plain⟩) (script s) := by
  have accords : Accords src s.text Token.plain (fun _ : Unit => Eq) Eq
      (fun t _ => lacks queries t = true) fun t _ => lacks queries t = true :=
    accords_eq (fun lack _ => lacks_inside lack)
      fun lack isQuery => absurd isQuery (lacks_node.1 lack).1
  have similar : Matching Eq Reject.Alike (compile src (s.tree.map Token.plain) {})
      (compile s.text s.tree {}) :=
    matching_compile (i := ()) Token.keepsReading_plain accords accords s.tree free rfl
  unfold script
  simp only [StateT.run]
  generalize compile src (s.tree.map Token.plain) {} = left at similar ⊢
  generalize compile s.text s.tree {} = right at similar ⊢
  cases similar with
  | ok parts => exact .refl _
  | error alike => exact .error alike

end Compile

namespace Script

variable {text : String}

def words (text : String) : List Token := (scan text).tokens.filter Token.visible

lemma tokens_eq_scan (scanned : tokens text = .ok found) :
    found = scan text ∧ (scan text).faults = [] := by
  unfold tokens at scanned
  split at scanned
  · cases scanned
  · grind

lemma tokens_of_clean (plain : encodable text = true) (clean : (scan text).faults = []) :
    tokens text = .ok (scan text) := by
  unfold tokens
  simp [plain, clean]

lemma read_inv (given : read text = .ok s) :
    ∃ tree finish, parse ((words text).toArray.map (·.kind)) = .ok tree ∧
      s = ⟨text, tree.map fun i => (words text).toArray.getD i (endToken text finish)⟩ := by
  unfold read at given
  cases scanned : tokens text with
  | error fault => simp [scanned, bind, Except.bind] at given
  | ok found =>
    obtain ⟨rfl, -⟩ := tokens_eq_scan scanned
    simp only [scanned, bind, Except.bind] at given
    split at given
    · cases given
    · rename_i tree parsed
      cases given
      exact ⟨tree, (scan text).finish, parsed, rfl⟩

def read? (text : String) : Option Script :=
  if encodable text ∧ (scan text).faults = [] then
    (Chart.reading? ((words text).toArray.map (·.kind))).map fun tree =>
      ⟨text, tree.map fun i => (words text).toArray.getD i (endToken text (scan text).finish)⟩
  else none

lemma read_of_read? (given : read? text = some s) : read text = .ok s := by
  unfold read? at given
  split at given
  · rename_i clean
    have scanned := tokens_of_clean clean.1 clean.2
    obtain ⟨tree, found, rfl⟩ := map_eq_some_iff.1 given
    have parsed := Chart.parse_of_reading? found
    rw [words] at parsed
    unfold read
    simp only [scanned, bind, Except.bind, parsed]
    rfl
  · cases given

lemma kinds_alike (alike : Forall₂ Token.Alike ws ws') :
    ws.map (·.kind) = ws'.map (·.kind) := by
  induction alike with
  | nil => rfl
  | cons first _ ih => rw [map_cons, map_cons, first.1, ih]

lemma plain_getD (alike : Forall₂ Token.Alike ws ws') (ends : e.plain = e'.plain) (i) :
    (ws.toArray.getD i e).plain = (ws'.toArray.getD i e').plain := by
  simp only [Array.getD_eq_getD_getElem?, List.getElem?_toArray]
  induction alike generalizing i with
  | nil => exact ends
  | cons first _ ih =>
    cases i with
    | zero => exact first.plain_eq
    | succ i => exact ih i

/-- Texts of alike words have the same tree, as far as a tree can be read. -/
lemma read_alike (given : read text = .ok s) (given' : read text' = .ok s')
    (alike : Forall₂ Token.Alike (words text) (words text')) :
    s.tree.map Token.plain = s'.tree.map Token.plain := by
  obtain ⟨tree, finish, parsed, rfl⟩ := read_inv given
  obtain ⟨tree', finish', parsed', rfl⟩ := read_inv given'
  rw [List.map_toArray, kinds_alike alike, ← List.map_toArray, parsed'] at parsed
  cases parsed
  simp only [Tree.map_map]
  congr 1
  funext i
  have ends : (endToken text finish).plain = (endToken text' finish').plain := rfl
  exact plain_getD alike ends i

end Script

namespace Compile

/-- Layout and letter case do not matter: texts that are read and whose words agree in kind, in
quoted text, and in the letters of any other text compile to the same or are rejected for the same
kind of reason, if they hold no queries. -/
theorem script_of_alike_words {text text' : String} {s s' : Script}
    (given : Script.read text = .ok s) (given' : Script.read text' = .ok s')
    (alike : List.Forall₂ Token.Alike (Script.words text) (Script.words text'))
    (free : lacks queries s.tree = true) : SameResult Reject.Alike (script s) (script s') := by
  have trees := Script.read_alike given given' alike
  have free' : lacks queries s'.tree = true := by
    unfold lacks at free ⊢
    rw [← @everyPhrase_map Token.plain, ← trees, everyPhrase_map, free]
  have left := script_plain free ""
  rw [trees] at left
  exact left.symm.trans (script_plain free' "")

def greeting : String := "begin Put('Hi'); end;"

def spacedGreeting : String := "BEGIN\n  put /* a greeting */ ('Hi');\nEND; -- done"

theorem greeting_of_alike_words :
    ∃ s s', Script.read greeting = .ok s ∧ Script.read spacedGreeting = .ok s' ∧
      List.Forall₂ Token.Alike (Script.words greeting) (Script.words spacedGreeting) ∧
      lacks queries s.tree = true ∧ SameResult Reject.Alike (script s) (script s') := by
  have found : (Script.read? greeting).any (lacks queries ·.tree) = true := by decide +kernel
  have found' : (Script.read? spacedGreeting).isSome = true := by decide +kernel
  obtain ⟨s, given, free⟩ := (Option.any_eq_true _ _).1 found
  obtain ⟨s', given'⟩ := Option.isSome_iff_exists.1 found'
  have alike : List.Forall₂ Token.Alike (Script.words greeting) (Script.words spacedGreeting) := by
    decide +kernel
  exact ⟨s, s', Script.read_of_read? given, Script.read_of_read? given', alike, free,
    script_of_alike_words (Script.read_of_read? given) (Script.read_of_read? given') alike free⟩

end Compile
end BlockScript
