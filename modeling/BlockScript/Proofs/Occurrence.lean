import BlockScript.Proofs.Marks

/-!
Drafts that stand in other drafts. A branch, a loop and a selection keep what they are put together
from: a part of theirs stands in the draft that they become, wherever the marks before it allow a
branch to reach it.
-/

namespace BlockScript

def Draft.parts : Draft → List Draft
  | .name part | .negative part | .expr part | .raiseError part | .returnValue part
  | .parameter part | .typeMark part => [part]
  | .attribute value part | .subscript value part | .update value part | .assign value part
  | .binary value _ part => [value, part]
  | .compare left middle right => [left, middle, right]
  | .connect _ parts | .list parts | .program parts => parts
  | .call part parts | .whileLoop part parts | .handler part parts => part :: parts
  | .forLoop target range body => target :: range :: body
  | .branch test body orelse => test :: (body ++ orelse)
  | .guard body handlers => body ++ handlers
  | .function _ parameters body decorators => parameters ++ body ++ decorators
  | .classDef _ body bases => body ++ bases
  | .missing | .text _ | .constant _ | .operator _ | .pass | .continueLoop | .breakLoop
  | .importAll _ | .elsifMark | .elseMark | .query _ | .reference _ => []

/-- A draft is one of some drafts, or stands in what one of them is made of. -/
inductive StandsIn (d : Draft) : List Draft → Prop where
  | here (member : d ∈ ds) : StandsIn d ds
  | inside (member : e ∈ ds) (within : StandsIn d e.parts) : StandsIn d ds

namespace StandsIn

lemma mono (stands : StandsIn d ds) (subset : ds ⊆ es) : StandsIn d es := by
  cases stands with
  | here mem => exact .here (subset mem)
  | inside mem within => exact .inside (subset mem) within

lemma trans (inner : StandsIn d e.parts) (outer : StandsIn e ds) : StandsIn d ds := by
  induction outer with
  | here mem => exact .inside mem inner
  | inside mem _ ih => exact .inside mem ih

lemma of_single (inner : StandsIn d [e]) (outer : StandsIn e ds) : StandsIn d ds := by
  cases inner with
  | here mem => grind
  | inside mem within =>
    rw [mem_singleton.1 mem] at within
    exact within.trans outer

end StandsIn

@[simp]
lemma standsIn_nil : ¬ StandsIn d [] := by
  intro stands
  cases stands with
  | here mem => cases mem
  | inside mem _ => cases mem

@[simp]
lemma standsIn_cons : StandsIn d (e :: ds) ↔ d = e ∨ StandsIn d e.parts ∨ StandsIn d ds := by
  constructor
  · intro stands
    cases stands with
    | here mem => exact (mem_cons.1 mem).imp_right fun later => .inr (.here later)
    | inside mem within =>
      rcases mem_cons.1 mem with rfl | later
      · exact .inr (.inl within)
      · exact .inr (.inr (.inside later within))
  · rintro (rfl | within | later)
    · exact .here mem_cons_self
    · exact .inside mem_cons_self within
    · exact later.mono (List.subset_cons_self _ _)

namespace Compile

variable {parts : List Draft} {c c' : Chain}

/-! Branches. What has been gathered stays in the body or the alternatives, until a mark for the last
alternative makes the body the only one. -/

def Chain.Headed (c : Chain) : Prop := c.body ⊆ c.latest :: c.body.tail

lemma Chain.Headed.step (stepped : c.step part = .ok c') : c'.Headed := by
  unfold Chain.step at stepped
  split at stepped
  · cases stepped
    exact nil_subset _
  · split at stepped
    · cases stepped
    · cases stepped
      exact nil_subset _
  · cases stepped
    exact List.Subset.refl _

lemma Chain.Headed.fold (headed : c.Headed) (folded : parts.foldlM Chain.step c = .ok c') :
    c'.Headed := by
  induction parts generalizing c with
  | nil =>
    cases folded
    exact headed
  | cons part parts ih =>
    obtain ⟨next, stepped, rest⟩ := steps_of_bind folded
    exact ih (.step stepped) rest

lemma step_keeps (stands : StandsIn x (c.body ++ c.orelse)) (stepped : c.step part = .ok c')
    (plain : part ≠ .elseMark) : StandsIn x (c'.body ++ c'.orelse) := by
  unfold Chain.step at stepped
  split at stepped
  · exact absurd rfl plain
  · split at stepped
    · cases stepped
    case _ test body is =>
      cases stepped
      rw [is] at stands
      exact .inside mem_cons_self stands
  · cases stepped
    exact stands.mono (List.subset_cons_self _ _)

/-- What stands behind these parts is kept: no mark among them ends a branch, except one that has no
further mark behind it. -/
def Passable : List Draft → Prop
  | [] => True
  | .elseMark :: rest => AllUnmarked rest
  | _ :: rest => Passable rest

lemma passable_cons (plain : part ≠ .elseMark) : Passable (part :: parts) = Passable parts := by
  rw [Passable]
  exact plain

lemma passable_of_unmarked (unmarked : AllUnmarked parts) : Passable parts := by
  induction parts with
  | nil => trivial
  | cons part parts ih =>
    rw [passable_cons (unmarked part mem_cons_self).2]
    exact ih fun d mem => unmarked d (mem_cons_of_mem _ mem)

lemma Passable.tail (passable : Passable parts) : Passable parts.tail := by
  match parts with
  | [] => trivial
  | part :: rest =>
    unfold Passable at passable
    split at passable
    case _ is => cases is
    case _ is =>
      cases is
      exact passable_of_unmarked passable
    case _ is =>
      cases is
      exact passable

lemma Passable.append (plain : ∀ part ∈ front, part ≠ .elseMark) (passable : Passable between) :
    Passable (front ++ between) := by
  induction front with
  | nil => exact passable
  | cons part front ih =>
    rw [cons_append, passable_cons (plain part mem_cons_self)]
    exact ih fun p mem => plain p (mem_cons_of_mem _ mem)

lemma fold_keeps (stands : StandsIn x c.body) (passable : Passable front)
    (folded : front.reverse.foldlM Chain.step c = .ok c') : StandsIn x (c'.body ++ c'.orelse) := by
  induction front generalizing c' with
  | nil =>
    cases folded
    exact stands.mono (List.subset_append_left _ _)
  | cons part rest ih =>
    rw [reverse_cons, foldlM_append] at folded
    obtain ⟨middle, before, last⟩ := steps_of_bind folded
    simp only [foldlM_cons, List.foldlM_nil, bind_pure] at last
    by_cases plain : part = .elseMark
    · subst plain
      rw [gather passable] at before
      cases before
      cases last
      exact stands.mono (List.subset_append_right _ _)
    · rw [passable_cons plain] at passable
      exact step_keeps (ih passable before) last plain

lemma branch_keeps (unmarked : IsUnmarked x) (passable : Passable front)
    (whole : branch (front ++ x :: back) = .ok d) : StandsIn x d.parts := by
  obtain ⟨chain, folded, made⟩ := steps_of_bind whole
  cases made
  rw [List.reverse_append, foldlM_append, reverse_cons, foldlM_append] at folded
  obtain ⟨middle, before, rest⟩ := steps_of_bind folded
  obtain ⟨start, -, last⟩ := steps_of_bind before
  simp only [foldlM_cons, step_unmarked unmarked] at last
  cases last
  have headed : chain.Headed := .fold (List.Subset.refl _) rest
  have stands := fold_keeps (.here mem_cons_self) passable rest
  refine stands.mono (List.append_subset.2 ⟨fun p mem => ?_, fun p mem => ?_⟩)
  · rcases mem_cons.1 (headed mem) with rfl | later
    · exact mem_cons_self
    · exact mem_cons_of_mem _ (mem_append_left _ later)
  · exact mem_cons_of_mem _ (mem_append_right _ mem)

lemma compareWith_cons (plain : part ≠ .elsifMark)
    (compared : compareWith sel (part :: parts) = .ok ys) :
    ∃ rest, compareWith sel parts = .ok rest ∧ ys = part :: rest := by
  rw [compareWith] at compared
  · obtain ⟨rest, later, made⟩ := steps_of_bind compared
    cases made
    exact ⟨rest, later, rfl⟩
  · grind
  · grind

lemma compareWith_unmarked (unmarked : AllUnmarked front)
    (compared : compareWith sel (front ++ back) = .ok ys) :
    ∃ rest, compareWith sel back = .ok rest ∧ ys = front ++ rest := by
  induction front generalizing ys with
  | nil => exact ⟨ys, compared, rfl⟩
  | cons part front ih =>
    obtain ⟨later, others, rfl⟩ := compareWith_cons (unmarked part mem_cons_self).1 compared
    obtain ⟨rest, behind, rfl⟩ := ih (fun d mem => unmarked d (mem_cons_of_mem _ mem)) others
    exact ⟨rest, behind, rfl⟩

lemma compareWith_keeps (unmarked : IsUnmarked x) : ∀ {front ys},
    Passable front → compareWith sel (front ++ x :: back) = .ok ys →
      ∃ front' y back', ys = front' ++ y :: back' ∧ front'.length = front.length ∧
        Passable front' ∧ IsUnmarked y ∧ StandsIn x [y]
  | [], _, _, compared => by
    obtain ⟨rest, -, rfl⟩ := compareWith_cons unmarked.1 compared
    exact ⟨[], x, rest, rfl, rfl, trivial, unmarked, .here mem_cons_self⟩
  | part :: front, ys, passable, compared => by
    by_cases mark : part = .elsifMark
    · subst mark
      match front with
      | [] =>
        obtain ⟨rest, -, made⟩ := steps_of_bind compared
        cases made
        exact ⟨[.elsifMark], _, rest, rfl, rfl, trivial, ⟨nofun, nofun⟩,
          .inside mem_cons_self (.here (by simp [Draft.parts]))⟩
      | value :: front =>
        obtain ⟨rest, later, made⟩ := steps_of_bind compared
        cases made
        obtain ⟨front', y, back', rfl, same, passable, unmarkedY, stands⟩ :=
          compareWith_keeps unmarked passable.tail.tail later
        exact ⟨.elsifMark :: .binary sel (.comparison .eq) value :: front', y, back', rfl,
          by simp [same], passable, unmarkedY, stands⟩
    · obtain ⟨rest, later, rfl⟩ := compareWith_cons mark compared
      by_cases last : part = .elseMark
      · subst last
        obtain ⟨behind, others, rfl⟩ := compareWith_unmarked passable later
        obtain ⟨back', -, rfl⟩ := compareWith_cons unmarked.1 others
        exact ⟨.elseMark :: front, x, back', rfl, rfl, passable, unmarked, .here mem_cons_self⟩
      · rw [passable_cons last] at passable
        obtain ⟨front', y, back', rfl, same, passable, unmarkedY, stands⟩ :=
          compareWith_keeps unmarked passable later
        rw [← passable_cons last] at passable
        exact ⟨part :: front', y, back', rfl, by simp [same], passable, unmarkedY, stands⟩

lemma searchedCase_keeps (unmarked : IsUnmarked x) (passable : Passable front)
    (behind : front ≠ []) (whole : searchedCase (front ++ x :: back) = .ok d) :
    StandsIn x d.parts := by
  cases front with
  | nil => exact absurd rfl behind
  | cons part front => exact branch_keeps unmarked passable.tail whole

lemma selectedCase_keeps (unmarked : IsUnmarked x) (passable : Passable front)
    (behind : 2 ≤ front.length) (whole : selectedCase (front ++ x :: back) = .ok d) :
    StandsIn x d.parts := by
  cases front with
  | nil => exact absurd behind (by decide)
  | cons sel front =>
    obtain ⟨_, ⟨⟩, rest⟩ := steps_of_bind whole
    obtain ⟨ys, compared, later⟩ := steps_of_bind rest
    obtain ⟨front', y, back', rfl, same, passable, unmarked, stands⟩ :=
      compareWith_keeps unmarked passable.tail compared
    cases front' with
    | nil => grind
    | cons part front' => exact stands.of_single (branch_keeps unmarked passable.tail later)

lemma loopOf_keeps (mem : x ∈ parts) (counts : has ts .FOR = true →
      ∃ target range body rest, parts = .forLoop target range body :: rest ∧ x ∈ rest)
    (whole : loopOf ts parts = .ok d) : StandsIn x d.parts := by
  unfold loopOf at whole
  split at whole
  · cases parts with
    | nil => cases whole
    | cons test body =>
      cases whole
      exact .here mem
  · split at whole
    case _ counted =>
      obtain ⟨target, range, body, rest, rfl, later⟩ := counts counted
      cases whole
      exact .here (by simp [withBody, Draft.parts, later])
    · cases whole
      exact .here (mem_cons_of_mem _ mem)

end Compile
end BlockScript
