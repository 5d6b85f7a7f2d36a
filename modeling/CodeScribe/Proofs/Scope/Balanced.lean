import CodeScribe.Proofs.Plan.Follow

/-! Indentation scopes of a plan. Every scope that the plan of a node enters is left again, and a writer
comes out of it at the depth it went in with. -/
namespace CodeScribe

/-- Plans in which scopes are entered and left in pairs. -/
inductive Balanced : Plan → Prop
  | nil : Balanced []
  | stroke {s : Stroke} {p : Plan} : s ≠ .enter → s ≠ .leave → Balanced p → Balanced (s :: p)
  | scope {body p : Plan} : Balanced body → Balanced p → Balanced (.enter :: (body ++ .leave :: p))

namespace Balanced
variable {p q : Plan}

private theorem append (hp : Balanced p) (hq : Balanced q) : Balanced (p ++ q) := by
  induction hp with
  | nil => exact hq
  | stroke he hl _ ih => exact .stroke he hl ih
  | @scope body p hbody _ _ ih =>
    rw [List.cons_append, List.append_assoc, List.cons_append]
    exact .scope hbody ih

theorem of_flat (h : ∀ s ∈ p, s ≠ .enter ∧ s ≠ .leave) : Balanced p := by
  induction p with
  | nil => exact .nil
  | cons s p ih =>
    obtain ⟨he, hl⟩ := h s List.mem_cons_self
    exact .stroke he hl (ih fun t ht => h t (List.mem_cons_of_mem s ht))

private theorem ite (b : Bool) (hp : Balanced p) (hq : Balanced q) : Balanced (if b then p else q) := by
  cases b
  · exact hq
  · exact hp

/-- A balanced plan ends at the depth at which it starts. -/
theorem depth_follow (h : Balanced p) (w : Writer) : (w.follow p).depth = w.depth := by
  induction h generalizing w with
  | nil => rfl
  | @stroke s p he hl _ ih =>
    have hs : (s.apply w).depth = w.depth := by
      cases s <;> simp_all [Stroke.apply, Writer.breakLine]
    rw [Writer.follow_cons, ih, hs]
  | scope _ _ ihbody ih =>
    rw [Writer.follow_cons, Writer.follow_append, Writer.follow_cons, ih]
    simp [Stroke.apply, Writer.undeepen, ihbody, Writer.deepen]

/-- Where a balanced plan leaves a scope, it has entered that scope before. -/
theorem entered (h : Balanced p) {before after : Plan} (heq : p = before ++ .leave :: after) :
    ∃ outer inner, before = outer ++ .enter :: inner ∧ Balanced inner := by
  induction h generalizing before after with
  | nil => simp at heq
  | @stroke s p he hl _ ih =>
    cases before with
    | nil => exact absurd (List.cons.inj heq).1 hl
    | cons t before =>
      obtain ⟨outer, inner, hbefore, hinner⟩ := ih (List.cons.inj heq).2
      exact ⟨t :: outer, inner, by rw [hbefore]; rfl, hinner⟩
  | @scope body p hbody hp ihbody ih =>
    cases before with
    | nil => cases (List.cons.inj heq).1
    | cons t before =>
      obtain ⟨rfl, htail⟩ := List.cons.inj heq
      rcases List.append_eq_append_iff.mp htail with ⟨gap, hgap, hrest⟩ | ⟨gap, hgap, hrest⟩
      · cases gap with
        | nil => exact ⟨[], body, by simp [hgap], hbody⟩
        | cons u gap =>
          obtain ⟨rfl, hp'⟩ := List.cons.inj hrest
          obtain ⟨outer, inner, hinside, hinner⟩ := ih hp'
          refine ⟨.enter :: (body ++ .leave :: outer), inner, ?_, hinner⟩
          simp [hgap, hinside]
      · cases gap with
        | nil => exact ⟨[], body, by simp [hgap], hbody⟩
        | cons u gap =>
          obtain ⟨rfl, -⟩ := List.cons.inj hrest
          obtain ⟨outer, inner, hinside, hinner⟩ := ihbody hgap
          exact ⟨.enter :: outer, inner, by simp [hinside], hinner⟩

theorem text (cs : List Char) : Balanced (Plan.text cs) := by
  apply of_flat
  simp [Plan.text]

theorem line (cs : List Char) : Balanced (Plan.line cs) :=
  ite _ (text cs) ((text cs).append (of_flat (by simp)))

private theorem lines (tail : Bool) (texts : List (List Char)) : Balanced (Plan.lines tail texts) := by
  induction texts with
  | nil => exact .nil
  | cons cs rest ih =>
    cases rest with
    | nil => exact ite tail (text cs) (line cs)
    | cons next rest => exact (line cs).append ih

private theorem close (tail : Bool) (cs : List Char) : Balanced (Plan.close tail cs) :=
  ite tail (text cs) (line cs)

theorem blankLine : Balanced Plan.blankLine := of_flat (by simp [Plan.blankLine])

theorem planScope (hp : Balanced p) : Balanced (Plan.scope p) := .scope hp .nil

private theorem braced (tail : Bool) (hp : Balanced p) : Balanced (Plan.braced tail p) :=
  ((line ['{']).append hp.planScope).append (close tail ['}'])

theorem planRaw (text : String) (verbatim tail : Bool) : Balanced (planRaw text verbatim tail) :=
  match verbatim, tail with
  | false, false => line _
  | false, true => .text _
  | true, false => ite _ (of_flat (by simp)) (of_flat (by simp))
  | true, true => of_flat (by simp [CodeScribe.planRaw])

end Balanced

namespace Head

private theorem balanced_planPreamble (h : Head) (lineStart : List Char) :
    Balanced (h.planPreamble lineStart) := by
  refine Balanced.append ?_ (.lines false _)
  unfold planComment
  cases h.doc with
  | none => exact .nil
  | some doc => exact .ite _ .nil (.lines false _)

private theorem balanced_plan (h : Head) (signature : List Char) {rest : Bool → Plan}
    (hr : ∀ nested, Balanced (rest nested)) : Balanced (h.plan signature rest) :=
  .ite _ ((Balanced.text signature).append (hr false))
    ((Balanced.line signature).append ((Balanced.lines true _).append (hr true)).planScope)

private theorem balanced_planOpen (h : Head) (signature : List Char) : Balanced (h.planOpen signature) :=
  h.balanced_plan signature fun _ => .of_flat (by simp)

private theorem balanced_planClosed (h : Head) (signature : List Char) (tail : Bool) {text : Bool → Plan}
    (ht : ∀ nested, Balanced (text nested)) : Balanced (h.planClosed signature tail text) :=
  h.balanced_plan signature fun nested =>
    (ht nested).append (.stroke (by simp) (by simp) (.ite _ (.of_flat (by simp)) .nil))

end Head

private theorem Frame.balanced_plan (f : Frame) {children : Bool → Plan}
    (hc : ∀ glue, Balanced (children glue)) (tail : Bool) : Balanced (f.plan children tail) := by
  have hheader : Balanced f.planHeader := by
    unfold planHeader
    cases f.header with
    | none => exact .nil
    | some header => exact .ite _ (.text _) (.line _)
  have hchildren : Balanced (f.planChildren children tail) := by
    unfold planChildren
    cases f.brackets with
    | none => exact hc _
    | some brackets => exact ((Balanced.line _).append (hc false).planScope).append (.close _ _)
  have hfooter : Balanced (f.planFooter tail) := by
    unfold planFooter
    cases f.footer with
    | none => exact .nil
    | some footer => exact (Balanced.text _).append (.ite _ .nil (.of_flat (by simp)))
  exact (hheader.append hchildren).append hfooter

mutual

/-- The plan of a node leaves every scope that it enters. -/
theorem Node.balanced_plan (lineStart : List Char) : ∀ (n : Node) (tail : Bool),
    Balanced (n.plan lineStart tail)
  | .raw text verbatim, tail => .planRaw text verbatim tail
  | .block frame children, tail =>
    frame.balanced_plan (fun glue => Node.balanced_planAll lineStart .statements glue children {}) tail
  | .typeDecl head bases terminated members, tail =>
    (head.balanced_planPreamble lineStart).append
      (.ite terminated (head.balanced_planClosed _ tail fun _ => .nil)
        ((head.balanced_planOpen _).append
          (.braced tail (Node.balanced_planAll lineStart .members false members {}))))
  | .methodDecl head style frame body, tail => by
    have hbody (inTail : Bool) := frame.balanced_plan
      (fun glue => Node.balanced_planAll lineStart .statements glue body {}) inTail
    refine (head.balanced_planPreamble lineStart).append ?_
    cases style with
    | block => exact (head.balanced_planOpen _).append (.braced tail (hbody false))
    | arrow =>
      apply head.balanced_planClosed
      intro nested
      exact (Balanced.ite nested (.stroke (by simp) (by simp) (.text _)) (.text _)).append (hbody true)
    | abstract => exact head.balanced_planClosed _ tail fun _ => .nil
  | .namespaceDecl name entries, tail =>
    (Balanced.line _).append
      (.braced tail (Node.balanced_planAll lineStart .entries false entries {}))
  | .doc comment, _ => .lines false _
  | .attributes entries, tail => .lines tail _
  | .constraints entries, tail => .lines tail _
  | .separator _, _ => .nil

private theorem Node.balanced_planAll (lineStart : List Char) (spacing : Spacing) (tail : Bool) :
    ∀ (nodes : List Node) (gap : Gap), Balanced (Node.planAll lineStart spacing tail nodes gap)
  | [], gap => .ite _ .blankLine .nil
  | node :: rest, gap => by
    cases hs : node.separation? with
    | some forced =>
      simp only [Node.planAll, hs]
      exact Node.balanced_planAll lineStart spacing tail rest (gap.widen forced)
    | none =>
      have hend : Balanced (if tail && Node.allSeparators rest then [] else [.endLine]) :=
        .ite _ .nil (.of_flat (by simp))
      have hrest := Node.balanced_planAll lineStart spacing tail rest
        { previous := some node.isDeclaration }
      simp only [Node.planAll, hs]
      exact (((Balanced.ite _ .blankLine .nil).append (Node.balanced_plan lineStart node _)).append
        hend).append hrest

end

end CodeScribe
