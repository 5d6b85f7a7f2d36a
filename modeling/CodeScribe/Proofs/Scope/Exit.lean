import CodeScribe.Proofs.Scope.Node

/-! Leaving scopes while a tree is laid out: which trees keep every line inside its scope, for every writer
that starts with no open line. -/
namespace CodeScribe
open Pen (fresh)

/-- A writer leaves each scope at the depth at which it has entered that scope. -/
def Writer.Returns (w : Writer) (p : Plan) : Prop :=
  ∀ before after, p = before ++ .leave :: after →
    ∃ outer inner, before = outer ++ .enter :: inner ∧ Balanced inner ∧
      (w.follow (before ++ [.leave])).depth = (w.follow outer).depth

private theorem Balanced.returns {p : Plan} (h : Balanced p) (w : Writer) : w.Returns p := by
  intro before after heq
  obtain ⟨outer, inner, rfl, hinner⟩ := h.entered heq
  refine ⟨outer, inner, rfl, hinner, ?_⟩
  have hscope := (Balanced.planScope hinner).depth_follow (w.follow outer)
  rw [← Writer.follow_append] at hscope
  rw [← hscope]
  simp [Plan.scope]

/-- A body in braces that has a footer, or is neither an expression nor joined, ends its last line. -/
theorem Node.bodiesEnd_of_plain (lineStart : List Char) (head : Head) {frame : Frame}
    (body : List Node)
    (hplain : frame.footer.isSome = true ∨ (frame.expression = false ∧ frame.joined = false)) :
    (Node.methodDecl head .block frame body).bodiesEnd lineStart =
      Node.allBodiesEnd lineStart body := by
  have hend := @Frame.follow_plan_of_plain frame
    (fun glue => Node.planAll lineStart .statements glue body {}) hplain
    (Node.follow_planAll lineStart .statements body {})
  rw [bodiesEnd, hend]
  simp [Pen.isOpen, fresh]

/-- Laying out a node makes the moves of its plan, and leaves each scope at the depth it was entered.
When all method bodies in braces end their last line, no line is open where a scope is left, whatever
the classifier is; and a writer that hides no line has no line open there only for such trees. -/
theorem Node.closes_render_iff (n : Node) (tail : Bool) {w : Writer} (hopen : w.isLineOpen = false) :
    n.render tail w = w.follow (n.plan w.config.docPrefix.toList tail) ∧
      w.Returns (n.plan w.config.docPrefix.toList tail) ∧
      (n.bodiesEnd w.config.docPrefix.toList = true →
        w.Closes (n.plan w.config.docPrefix.toList tail)) ∧
      (w.classify.Shows → w.Closes (n.plan w.config.docPrefix.toList tail) →
        n.bodiesEnd w.config.docPrefix.toList = true) := by
  have hcloses (pen : Pen) := n.closes_plan w.config.docPrefix.toList tail pen
  refine ⟨n.writes_plan tail w rfl, (n.balanced_plan _ tail).returns w, ?_, ?_⟩
  · intro hend
    exact Writer.closes_of_plan ⟨id, id⟩ ((hcloses w.pen).trans hend)
  · intro hshows hclosed
    have hempty : w.line = [] := by
      rw [Writer.isLineOpen, Bool.or_eq_false_iff] at hopen
      simpa using hopen.1
    have hline : '\n' ∉ w.line := by simp [hempty]
    rw [← hcloses w.pen]
    exact Writer.plan_closes hshows hline hclosed

/-- A method whose body is an expression with a footer, inside a type. -/
def footedType : Node :=
  .typeDecl { signature := "class C", constraints := ["T : I"] } [] false
    [.methodDecl { signature := "int M()" } .block
      { header := some "return", footer := some ";", expression := true, joined := true }
      [.block { brackets := some Brackets.parens, expression := true } [.raw "1" false]]]

theorem closes_footedType :
    (Writer.new {}).isLineOpen = false ∧
      (Writer.new {}).Closes (footedType.plan "///".toList false) ∧
      (footedType.render false (Writer.new {})).isLineOpen = false := by
  have hopen : (Writer.new {}).isLineOpen = false := rfl
  have hend : footedType.bodiesEnd "///".toList = true := by decide +kernel
  refine ⟨hopen, (footedType.closes_render_iff false hopen).2.2.1 hend, ?_⟩
  decide +kernel

/-- A method in braces whose body is an expression. -/
def openMethod : Node :=
  .methodDecl { signature := "int M()" } .block { expression := true } [.raw "Value" false]

/-- The closing brace of an expression body is glued to its last line. -/
theorem render_openMethod :
    (Writer.new {}).isLineOpen = false ∧
      (openMethod.render false (Writer.new {})).text = "int M()\n\x7b\nValue\x7d\n".toList ∧
      ¬ (Writer.new {}).Closes (openMethod.plan "///".toList false) := by
  refine ⟨rfl, by decide +kernel, fun hclosed => ?_⟩
  have hplan := Writer.plan_closes (w := Writer.new {}) Classifier.shows_indentAll (by decide) hclosed
  exact absurd hplan (by decide +kernel)

end CodeScribe
