import CodeScribe.Proofs.Scope.Balanced
import CodeScribe.Proofs.Scope.Pen

/-! Lines and scopes in the layout of a tree. No line straddles the end of a scope, except where the body
of a method in braces leaves its last line open. -/
namespace CodeScribe
open Pen (fresh)

namespace Plan
variable {p : Plan}

private theorem closes_text (cs : List Char) (pen : Pen) : closes (text cs) pen = true :=
  closes_of_no_leave (by simp [text]) pen

private theorem closes_line (cs : List Char) (pen : Pen) : closes (line cs) pen = true := by
  apply closes_of_no_leave
  unfold line text
  split <;> simp

private theorem closes_close (tail : Bool) (cs : List Char) (pen : Pen) :
    closes (close tail cs) pen = true := by
  cases tail
  · exact closes_line cs pen
  · exact closes_text cs pen

private theorem closes_lines (tail : Bool) (texts : List (List Char)) (pen : Pen) :
    closes (lines tail texts) pen = true := by
  induction texts generalizing pen with
  | nil => rfl
  | cons cs rest ih =>
    cases rest with
    | nil => exact closes_close tail cs pen
    | cons next rest =>
      have hsplit : lines tail (cs :: next :: rest) = line cs ++ lines tail (next :: rest) := rfl
      rw [hsplit, closes_append, closes_line, ih, Bool.and_self]

private theorem closes_rawLine (cs : List Char) (pen : Pen) : closes (rawLine cs) pen = true := by
  apply closes_of_no_leave
  unfold rawLine
  split <;> simp

private theorem closes_planRaw (text : String) (verbatim tail : Bool) (pen : Pen) :
    closes (planRaw text verbatim tail) pen = true :=
  match verbatim, tail with
  | false, false => closes_line _ pen
  | false, true => closes_text _ pen
  | true, false => closes_rawLine _ pen
  | true, true => rfl

/-- A written line is complete, however the writer stood before. -/
theorem follow_line (cs : List Char) (pen : Pen) : pen.follow (line cs) = fresh := by
  unfold line
  split
  · next h =>
    obtain ⟨front, rfl⟩ := Text.endsIn_iff.mp h
    rw [text, List.map_append, Pen.follow_append]
    rfl
  · rw [Pen.follow_append]
    rfl

private theorem closes_scope (body : Plan) (pen : Pen) :
    closes (scope body) pen = (closes body pen && !(pen.follow body).isOpen) := by
  rw [scope, closes, closes_append, closes]
  simp [Stroke.move, closes]

private theorem closes_braced (tail : Bool) (body : Plan) (pen : Pen) :
    closes (braced tail body) pen = (closes body fresh && !(fresh.follow body).isOpen) := by
  rw [braced, closes_append, closes_append, closes_line, follow_line, closes_scope, closes_close,
    Bool.true_and, Bool.and_true]

end Plan
open Plan (closes closes_append)

namespace Head

private theorem closes_planPreamble (h : Head) (lineStart : List Char) (pen : Pen) :
    closes (h.planPreamble lineStart) pen = true := by
  have hcomment (pen : Pen) : closes (h.planComment lineStart) pen = true := by
    unfold planComment
    cases h.doc with
    | none => rfl
    | some doc =>
      dsimp only
      split
      · rfl
      · exact Plan.closes_lines false _ pen
  rw [planPreamble, closes_append, hcomment, Plan.closes_lines, Bool.and_self]

/-- Constraints and what follows them end their scope on a complete line. -/
theorem closes_plan (h : Head) (signature : List Char) {rest : Bool → Plan} {b : Bool}
    (hrest : ∀ nested pen, closes (rest nested) pen = b)
    (hend : ∀ pen : Pen, (pen.follow (rest true)).isOpen = false) (pen : Pen) :
    closes (h.plan signature rest) pen = b := by
  unfold plan
  split
  · rw [closes_append, Plan.closes_text, hrest, Bool.true_and]
  · rw [closes_append, Plan.closes_line, Plan.closes_scope, closes_append, Plan.closes_lines, hrest,
      Pen.follow_append, hend]
    simp

private theorem closes_planOpen (h : Head) (signature : List Char) (pen : Pen) :
    closes (h.planOpen signature) pen = true :=
  h.closes_plan signature (fun _ _ => rfl) (fun _ => rfl) pen

private theorem closes_planClosed (h : Head) (signature : List Char) (tail : Bool) {text : Bool → Plan}
    {b : Bool} (htext : ∀ nested pen, closes (text nested) pen = b) (pen : Pen) :
    closes (h.planClosed signature tail text) pen = b := by
  apply h.closes_plan signature
  · intro nested pen
    rw [closes_append, htext, Plan.closes_of_no_leave, Bool.and_true]
    split <;> simp
  · intro pen
    rw [Pen.follow_append]
    rfl

end Head

private theorem Frame.closes_plan (f : Frame) {children : Bool → Plan} {b : Bool}
    (hchildren : ∀ glue pen, closes (children glue) pen = b)
    (hend : fresh.follow (children false) = fresh) (tail : Bool) (pen : Pen) :
    closes (f.plan children tail) pen = b := by
  have hheader (pen : Pen) : closes f.planHeader pen = true := by
    unfold planHeader
    cases f.header with
    | none => rfl
    | some header =>
      dsimp only
      split
      · exact Plan.closes_text _ pen
      · exact Plan.closes_line _ pen
  have hfilled (pen : Pen) : closes (f.planChildren children tail) pen = b := by
    unfold planChildren
    cases f.brackets with
    | none => exact hchildren _ pen
    | some brackets =>
      rw [closes_append, closes_append, Plan.closes_line, Plan.follow_line, Plan.closes_scope,
        Plan.closes_close, hchildren, hend]
      simp [Pen.isOpen, fresh]
  have hfooter (pen : Pen) : closes (f.planFooter tail) pen = true := by
    unfold planFooter
    cases f.footer with
    | none => rfl
    | some footer =>
      rw [closes_append, Plan.closes_text, Plan.closes_of_no_leave]
      · rfl
      · split <;> simp
  rw [plan, closes_append, closes_append, hheader, hfilled, hfooter, Bool.true_and, Bool.and_true]

/-- The body of a method in braces ends its last line, whatever its statements are like. -/
theorem Frame.follow_plan_of_plain (f : Frame) {children : Bool → Plan}
    (hplain : f.footer.isSome = true ∨ (f.expression = false ∧ f.joined = false))
    (hend : fresh.follow (children false) = fresh) : fresh.follow (f.plan children false) = fresh := by
  rw [plan, Pen.follow_append, Pen.follow_append]
  rcases hplain with hfooter | ⟨hexpression, hjoined⟩
  · obtain ⟨footer, hf⟩ := Option.isSome_iff_exists.mp hfooter
    rw [planFooter, hf]
    dsimp only
    rw [Pen.follow_append]
    rfl
  · have hheader : fresh.follow f.planHeader = fresh := by
      unfold planHeader
      cases f.header with
      | none => rfl
      | some header => simp [hjoined, Plan.follow_line]
    have hglues : f.glues false = false := by simp [glues, hexpression, hjoined]
    have hfilled : fresh.follow (f.planChildren children false) = fresh := by
      unfold planChildren
      cases f.brackets with
      | none => rwa [hglues]
      | some brackets =>
        dsimp only
        rw [hglues, Pen.follow_append]
        exact Plan.follow_line _ _
    rw [hheader, hfilled]
    unfold planFooter
    cases f.footer with
    | none => rfl
    | some footer =>
      dsimp only
      rw [Pen.follow_append]
      rfl

section
variable (lineStart : List Char)

/-- Nodes written in order, none of them in tail position, leave no line open. -/
theorem Node.follow_planAll (spacing : Spacing) (nodes : List Node) (gap : Gap) :
    fresh.follow (Node.planAll lineStart spacing false nodes gap) = fresh := by
  have hblank (b : Bool) : fresh.follow (if b then Plan.blankLine else []) = fresh := by
    cases b <;> rfl
  induction nodes generalizing gap with
  | nil => exact hblank _
  | cons node rest ih =>
    cases hs : node.separation? with
    | some forced =>
      simp only [Node.planAll, hs]
      exact ih (gap.widen forced)
    | none =>
      simp only [Node.planAll, hs, Bool.false_and]
      rw [Pen.follow_append, Pen.follow_append]
      exact ih { previous := some node.isDeclaration }

mutual

/-- Every method body in braces ends its last line, wherever it stands in the tree. -/
def Node.bodiesEnd : Node → Bool
  | .raw _ _ => true
  | .block _ children => Node.allBodiesEnd children
  | .typeDecl _ _ terminated members => terminated || Node.allBodiesEnd members
  | .methodDecl _ style frame body =>
    match style with
    | .block =>
      Node.allBodiesEnd body && !(fresh.follow
        (frame.plan (fun glue => Node.planAll lineStart .statements glue body {}) false)).isOpen
    | .arrow => Node.allBodiesEnd body
    | .abstract => true
  | .namespaceDecl _ entries => Node.allBodiesEnd entries
  | .doc _ => true
  | .attributes _ => true
  | .constraints _ => true
  | .separator _ => true

def Node.allBodiesEnd : List Node → Bool
  | [] => true
  | node :: rest => node.bodiesEnd && Node.allBodiesEnd rest

end

mutual

/-- The plan of a node closes its lines before it leaves a scope exactly when all bodies in braces end
theirs, whatever the tail flag is and however the writer stands. -/
theorem Node.closes_plan : ∀ (n : Node) (tail : Bool) (pen : Pen),
    closes (n.plan lineStart tail) pen = n.bodiesEnd lineStart
  | .raw text verbatim, tail, pen => Plan.closes_planRaw text verbatim tail pen
  | .block frame children, tail, pen =>
    frame.closes_plan (fun glue pen => Node.closes_planAll .statements glue children {} pen)
      (Node.follow_planAll lineStart .statements children {}) tail pen
  | .typeDecl head bases terminated members, tail, pen => by
    have hbody := Node.closes_planAll .members false members {} fresh
    have hend := Node.follow_planAll lineStart .members members {}
    rw [Node.plan, closes_append, head.closes_planPreamble, bodiesEnd, Bool.true_and]
    cases terminated with
    | true => exact head.closes_planClosed _ tail (fun _ _ => rfl) _
    | false =>
      simp only [Bool.false_eq_true, if_false, Bool.false_or]
      rw [closes_append, head.closes_planOpen, Plan.closes_braced, hbody, hend]
      simp [Pen.isOpen, fresh]
  | .methodDecl head style frame body, tail, pen => by
    have hbody (inTail : Bool) (pen : Pen) : closes
        (frame.plan (fun glue => Node.planAll lineStart .statements glue body {}) inTail) pen
          = Node.allBodiesEnd lineStart body :=
      frame.closes_plan (fun glue pen => Node.closes_planAll .statements glue body {} pen)
        (Node.follow_planAll lineStart .statements body {}) inTail pen
    have hpreamble (p : Plan) : closes (head.planPreamble lineStart ++ p) pen =
        closes p (pen.follow (head.planPreamble lineStart)) := by
      rw [closes_append, head.closes_planPreamble, Bool.true_and]
    cases style with
    | block =>
      refine (hpreamble _).trans ?_
      rw [closes_append, head.closes_planOpen, Plan.closes_braced, hbody, bodiesEnd, Bool.true_and]
    | arrow =>
      refine (hpreamble _).trans (head.closes_planClosed _ tail ?_ _)
      intro nested pen
      rw [closes_append, hbody, Plan.closes_of_no_leave, Bool.true_and, bodiesEnd]
      cases nested <;> simp [Plan.text]
    | abstract => exact (hpreamble _).trans (head.closes_planClosed _ tail (fun _ _ => rfl) _)
  | .namespaceDecl name entries, tail, pen => by
    have hbody := Node.closes_planAll .entries false entries {} fresh
    have hend := Node.follow_planAll lineStart .entries entries {}
    rw [Node.plan, closes_append, Plan.closes_line, Plan.closes_braced, hbody, hend, bodiesEnd]
    simp [Pen.isOpen, fresh]
  | .doc comment, _, pen => Plan.closes_lines false _ pen
  | .attributes entries, tail, pen => Plan.closes_lines tail _ pen
  | .constraints entries, tail, pen => Plan.closes_lines tail _ pen
  | .separator _, _, _ => rfl

private theorem Node.closes_planAll (spacing : Spacing) (tail : Bool) : ∀ (nodes : List Node) (gap : Gap)
    (pen : Pen), closes (Node.planAll lineStart spacing tail nodes gap) pen =
      Node.allBodiesEnd lineStart nodes
  | [], gap, pen => by
    rw [Node.planAll, allBodiesEnd]
    apply Plan.closes_of_no_leave
    split <;> simp [Plan.blankLine]
  | node :: rest, gap, pen => by
    cases hs : node.separation? with
    | some forced =>
      have hnode : node.bodiesEnd lineStart = true := by
        cases node <;> simp_all [Node.separation?, bodiesEnd]
      simp only [Node.planAll, hs]
      rw [Node.closes_planAll spacing tail rest, allBodiesEnd, hnode, Bool.true_and]
    | none =>
      have hgap (pen : Pen) :
          closes (if gap.blank spacing node.isDeclaration then Plan.blankLine else []) pen = true := by
        apply Plan.closes_of_no_leave
        split <;> simp [Plan.blankLine]
      have hend (pen : Pen) :
          closes (if tail && Node.allSeparators rest then [] else [.endLine]) pen = true := by
        apply Plan.closes_of_no_leave
        split <;> simp
      simp only [Node.planAll, hs]
      rw [closes_append, closes_append, closes_append, hgap, hend, Node.closes_plan node,
        Node.closes_planAll spacing tail rest, allBodiesEnd, Bool.true_and, Bool.and_true]

end

end
end CodeScribe
