import CodeScribe.Proofs.Tail.SameEnd

/-! Trees whose place decides only whether their last line stays open. -/
namespace CodeScribe

namespace Head

private theorem sameEnd_planClosed {newline : Newline} (h : Head) (signature : List Char)
    (text : Bool → Plan) :
    SameEnd newline (h.planClosed signature true text) (h.planClosed signature false text) := by
  unfold planClosed plan
  split
  · have hend : SameEnd newline (text false ++ [.put ';']) (text false ++ [.put ';'] ++ [.endLine]) :=
      .ended _
    rw [List.append_assoc] at hend
    exact hend.behind _
  · exact .refl _

end Head

/-- Whether a close bracket is there to be seen, when there are brackets at all. -/
def Frame.closes (f : Frame) : Bool := f.brackets.all fun brackets => !brackets.closing.toList.isEmpty

private theorem Frame.sameEnd_plan {newline : Newline} {f : Frame} (hf : f.closes = true)
    {children : Bool → Plan} (hc : SameEnd newline (children true) (children false)) :
    SameEnd newline (f.plan children true) (f.plan children false) := by
  unfold plan planFooter
  cases hfooter : f.footer with
  | some footer =>
    have hglues : f.glues true = f.glues false := by simp [glues, hfooter]
    have hfilled : f.planChildren children true = f.planChildren children false := by
      rw [planChildren, planChildren, hglues]
    have hend : SameEnd newline (Plan.text footer.toList ++ [])
        (Plan.text footer.toList ++ [.endLine]) := by
      rw [List.append_nil]
      exact .ended _
    rw [hfilled]
    exact hend.behind _
  | none =>
    have hfilled : SameEnd newline (f.planChildren children true) (f.planChildren children false) := by
      have htrue : f.glues true = true := by simp [glues, hfooter]
      have hfalse : f.glues false = f.expression := by simp [glues, hfooter]
      unfold planChildren
      rw [htrue, hfalse]
      cases hb : f.brackets with
      | some brackets =>
        have hclosing : brackets.closing.toList ≠ [] := by
          simpa [closes, hb] using hf
        cases f.expression
        · exact (SameEnd.close hclosing).behind _
        · exact .refl _
      | none =>
        cases f.expression
        · exact hc
        · exact .refl _
    simpa using hfilled.behind _

namespace Node

/-- Whether nodes end in a run of separators with a forced one in it. -/
def endsForced : List Node → Bool
  | [] => false
  | node :: rest => (node.separation? = some true && allSeparators rest) || endsForced rest

mutual

/-- Every text that can come last has something on its last line, every close bracket is there, and no
block ends in a forced separator. -/
def endsLines (newline : Newline) : Node → Bool
  | .raw text verbatim => rawEnds newline text verbatim
  | .block frame children => frame.closes && !endsForced children && allEndLines newline children
  | .typeDecl _ _ _ members => allEndLines newline members
  | .methodDecl _ _ frame body => frame.closes && !endsForced body && allEndLines newline body
  | .namespaceDecl _ entries => allEndLines newline entries
  | .doc _ => true
  | .attributes _ => true
  | .constraints _ => true
  | .separator _ => true

def allEndLines (newline : Newline) : List Node → Bool
  | [] => true
  | node :: rest => node.endsLines newline && allEndLines newline rest

end

private theorem attributeLine_ne_nil (entry : String) : attributeLine entry ≠ [] := by
  unfold attributeLine
  split
  · next h =>
    intro hnil
    simp [hnil] at h
  · simp

private theorem constraintLine_ne_nil (entry : String) : constraintLine entry ≠ [] := by
  unfold constraintLine
  split
  · next h =>
    intro hnil
    simp [hnil] at h
  · simp

section
variable {newline : Newline} (lineStart : List Char)

/-- Separators at the end of a sequence do nothing, unless one of them is forced and the sequence is not
in tail position. -/
theorem planAll_of_separators {spacing : Spacing} {tail : Bool} {nodes : List Node} {gap : Gap}
    (hsep : allSeparators nodes = true)
    (h : tail = true ∨ (endsForced nodes = false ∧ gap.forced = false)) :
    planAll lineStart spacing tail nodes gap = [] := by
  induction nodes generalizing gap with
  | nil => rcases h with rfl | ⟨_, hgap⟩ <;> simp_all [planAll]
  | cons node rest ih =>
    obtain ⟨hnode, hrest⟩ : node.isSeparator = true ∧ allSeparators rest = true := by
      simpa [allSeparators] using hsep
    obtain ⟨forced, hs⟩ := Option.isSome_iff_exists.mp hnode
    simp only [planAll, hs]
    refine ih hrest (h.imp_right fun ⟨hforced, hgap⟩ => ?_)
    obtain ⟨hfirst, hmore⟩ : forced = false ∧ endsForced rest = false := by
      simpa [endsForced, hs, hrest] using hforced
    exact ⟨hmore, by simp [Gap.widen, hgap, hfirst]⟩

mutual

/-- The plans of a tree in and out of tail position differ at most in the end of their last line. -/
theorem sameEnd_plan : ∀ n : Node, n.endsLines newline = true →
    SameEnd newline (n.plan lineStart true) (n.plan lineStart false)
  | .raw text verbatim, h => sameEnd_planRaw h
  | .block frame children, h => by
    obtain ⟨⟨hclose, hforced⟩, hchildren⟩ : (frame.closes = true ∧ endsForced children = false) ∧
        allEndLines newline children = true := by
      simpa [endsLines] using h
    exact Frame.sameEnd_plan hclose (sameEnd_planAll .statements children {} (fun _ => rfl) hforced
      hchildren)
  | .typeDecl head bases terminated members, _ => by
    cases terminated with
    | true => exact (head.sameEnd_planClosed _ _).behind _
    | false => exact ((SameEnd.braced _).behind _).behind _
  | .methodDecl head style frame body, _ => by
    cases style with
    | block => exact ((SameEnd.braced _).behind _).behind _
    | arrow => exact (head.sameEnd_planClosed _ _).behind _
    | abstract => exact (head.sameEnd_planClosed _ _).behind _
  | .namespaceDecl name entries, _ => (SameEnd.braced _).behind _
  | .doc _, _ => .refl _
  | .attributes entries, _ => .lines (by simp [attributeLine_ne_nil])
  | .constraints entries, _ => .lines (by simp [constraintLine_ne_nil])
  | .separator _, _ => .refl _

/-- Only the last node of a sequence is in tail position, and only a forced separator behind it could
tell. -/
theorem sameEnd_planAll (spacing : Spacing) : ∀ (nodes : List Node) (gap : Gap),
    (allSeparators nodes = true → gap.forced = false) → endsForced nodes = false →
    allEndLines newline nodes = true →
      SameEnd newline (planAll lineStart spacing true nodes gap)
        (planAll lineStart spacing false nodes gap)
  | [], gap, hgap, _, _ => by
    rw [planAll, planAll, hgap rfl]
    exact .refl _
  | node :: rest, gap, hgap, hforced, hnodes => by
    obtain ⟨hlast, hrest⟩ : (node.separation? = some true → allSeparators rest = false) ∧
        endsForced rest = false := by
      simpa [endsForced] using hforced
    obtain ⟨hnode, hall⟩ : node.endsLines newline = true ∧ allEndLines newline rest = true := by
      simpa [allEndLines] using hnodes
    cases hs : node.separation? with
    | some forced =>
      simp only [planAll, hs]
      refine sameEnd_planAll spacing rest (gap.widen forced) (fun hsep => ?_) hrest hall
      -- with nothing but separators left, this one is the last and may not be forced
      have hfirst : gap.forced = false := hgap (by simpa [allSeparators, isSeparator, hs] using hsep)
      have hunforced : forced = false := by
        rw [Bool.eq_false_iff]
        rintro rfl
        rw [hlast hs] at hsep
        exact Bool.noConfusion hsep
      simp [Gap.widen, hfirst, hunforced]
    | none =>
      simp only [planAll, hs, Bool.true_and, Bool.false_and]
      cases hsep : allSeparators rest with
      | true =>
        have hnothing (tail : Bool) : planAll lineStart spacing tail rest
            { previous := some node.isDeclaration } = [] :=
          planAll_of_separators lineStart hsep (.inr ⟨hrest, rfl⟩)
        have hended := (sameEnd_plan node hnode).trans (.ended (node.plan lineStart false))
        rw [hnothing, hnothing]
        simpa using hended.behind _
      | false =>
        exact (sameEnd_planAll spacing rest _ (fun _ => rfl) hrest hall).behind _

end

end

/-- The place of a tree decides only whether its last line stays open: once the line is ended, the writer
is the same in and out of tail position. -/
theorem endLine_render {n : Node} {w : Writer} (h : n.endsLines w.config.newline = true) :
    (n.render true w).endLine = (n.render false w).endLine := by
  rw [n.writes_plan true w rfl, n.writes_plan false w rfl]
  exact n.sameEnd_plan w.config.docPrefix.toList h w rfl

end Node

/-- A joined call whose last argument is a block of verbatim text and separators. -/
def nestedCall : Node :=
  .block { header := some "Call(", joined := true }
    [.raw "x,\n" false,
      .block {} [.separator true, .block { brackets := some Brackets.square } [.raw "1" false],
        .raw "@\"a\nb\"\r\n" true, .separator false]]

/-- A writer in the middle of a line, three levels deep. -/
def midway : Writer :=
  { config := { newline := .crlf }, output := "if (y)\r\n  ".toList, line := "z".toList, depth := 3 }

theorem endLine_render_nestedCall :
    nestedCall.endsLines midway.config.newline = true ∧
      (nestedCall.render true midway).endLine = (nestedCall.render false midway).endLine ∧
      nestedCall.render true midway ≠ nestedCall.render false midway := by
  have h : nestedCall.endsLines midway.config.newline = true := by decide +kernel
  refine ⟨h, Node.endLine_render h, fun he => ?_⟩
  have hopen := congrArg Writer.isLineOpen he
  exact absurd hopen (by decide +kernel)

end CodeScribe
