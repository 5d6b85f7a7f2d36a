import CodeScribe.Proofs.Plan.Basic
import CodeScribe.Proofs.Writer

/-! Following a plan: rendering a node or a document makes exactly the moves of its plan. -/
namespace CodeScribe

namespace Writer

@[simp] theorem follow_nil (w : Writer) : w.follow [] = w := rfl

@[simp] theorem follow_cons (w : Writer) (s : Stroke) (p : Plan) :
    w.follow (s :: p) = (s.apply w).follow p := rfl

theorem follow_append (w : Writer) (p q : Plan) :
    w.follow (p ++ q) = (w.follow p).follow q := List.foldl_append ..

theorem follow_text {cs : List Char} (h : '\n' ∉ cs) (w : Writer) :
    w.follow (Plan.text cs) = { w with line := w.line ++ cs } := by
  induction cs generalizing w with
  | nil => simp [Plan.text]
  | cons c cs ih =>
    have hc : c ≠ '\n' := by rintro rfl; simp at h
    have hcs := ih fun hm => h (List.mem_cons_of_mem c hm)
    rw [Plan.text, List.map_cons, follow_cons, ← Plan.text, hcs, Stroke.apply, put_of_ne w hc]
    simp

end Writer

namespace Stroke

theorem config_apply (s : Stroke) (w : Writer) : (s.apply w).config = w.config := by
  cases s <;> simp [apply, Writer.breakLine, Writer.deepen, Writer.undeepen]

theorem classify_apply (s : Stroke) (w : Writer) : (s.apply w).classify = w.classify := by
  cases s <;> simp [apply, Writer.breakLine, Writer.deepen, Writer.undeepen]

end Stroke

theorem Writer.config_follow (p : Plan) (w : Writer) : (w.follow p).config = w.config := by
  induction p generalizing w with
  | nil => rfl
  | cons s p ih => rw [follow_cons, ih, s.config_apply]

theorem Writer.classify_follow (p : Plan) (w : Writer) : (w.follow p).classify = w.classify := by
  induction p generalizing w with
  | nil => rfl
  | cons s p ih => rw [follow_cons, ih, s.classify_apply]

/-- Under the given settings, the function makes exactly the moves of the plan. -/
def Writes (config : Config) (f : Writer → Writer) (p : Plan) : Prop :=
  ∀ w, w.config = config → f w = w.follow p

namespace Writes
variable {config : Config} {f g : Writer → Writer} {p q : Plan}

private theorem id : Writes config (fun w => w) [] := fun _ _ => rfl

theorem comp (hf : Writes config f p) (hg : Writes config g q) :
    Writes config (fun w => g (f w)) (p ++ q) := by
  intro w hw
  rw [Writer.follow_append, ← hf w hw]
  apply hg
  rw [hf w hw, Writer.config_follow, hw]

private theorem ite (b : Bool) (hf : Writes config f p) (hg : Writes config g q) :
    Writes config (fun w => if b then f w else g w) (if b then p else q) := by
  cases b
  · exact hg
  · exact hf

theorem text (cs : List Char) : Writes config (·.append cs) (Plan.text cs) := by
  intro w _
  induction cs generalizing w with
  | nil => rfl
  | cons c cs ih => exact ih (w.put c) (by simp_all)

theorem line (cs : List Char) : Writes config (·.appendLine cs) (Plan.line cs) := by
  intro w hw
  unfold Writer.appendLine Plan.line
  split
  · exact text cs w hw
  · rw [Writer.follow_append, ← text cs w hw]
    rfl

theorem rawLine (cs : List Char) : Writes config (·.appendRawLine cs) (Plan.rawLine cs) := by
  intro w _
  unfold Writer.appendRawLine Plan.rawLine
  split <;> rfl

private theorem blankLine : Writes config (·.blankLine) Plan.blankLine := fun _ _ => rfl

private theorem endLine : Writes config (·.endLine) [.endLine] := fun _ _ => rfl

private theorem lines (tail : Bool) (texts : List (List Char)) :
    Writes config (·.appendLines tail texts) (Plan.lines tail texts) := by
  induction texts with
  | nil => exact id
  | cons cs rest ih =>
    cases rest with
    | nil => exact ite tail (text cs) (line cs)
    | cons next rest => exact (line cs).comp ih

private theorem close (tail : Bool) (cs : List Char) :
    Writes config (·.close tail cs) (Plan.close tail cs) :=
  ite tail (text cs) (line cs)

private theorem scope (hf : Writes config f p) : Writes config (·.indented 1 f) (Plan.scope p) := by
  intro w hw
  simp only [Writer.indented, Plan.scope, Writer.follow_cons, Writer.follow_append, Writer.follow_nil]
  rw [hf (w.deepen 1) hw]
  rfl

private theorem braced (tail : Bool) (hf : Writes config f p) :
    Writes config (·.braced tail f) (Plan.braced tail p) :=
  ((line ['{']).comp hf.scope).comp (close tail ['}'])

end Writes

section
variable {config : Config}

private theorem DocComment.writes_plan (d : DocComment) :
    Writes config d.render (d.plan config.docPrefix.toList) := by
  intro w hw
  subst hw
  exact Writes.lines false _ w rfl

private theorem writes_planRaw (text : String) (verbatim tail : Bool) :
    Writes config (renderRaw text verbatim tail) (planRaw text verbatim tail) :=
  match verbatim, tail with
  | false, false => .line _
  | false, true => .text _
  | true, false => .rawLine _
  | true, true => fun _ _ => rfl

namespace Head

theorem writes_planPreamble (h : Head) :
    Writes config h.preamble (h.planPreamble config.docPrefix.toList) := by
  have hattributes : Writes config (·.appendLines false (h.attributes.map attributeLine))
      (Plan.lines false (h.attributes.map attributeLine)) := .lines false _
  intro w hw
  unfold preamble planPreamble planComment
  cases h.doc with
  | none => exact (Writes.id.comp hattributes) w hw
  | some doc => exact ((Writes.ite doc.isEmpty .id doc.writes_plan).comp hattributes) w hw

private theorem writes_plan (h : Head) (signature : List Char) {rest : Bool → Writer → Writer}
    {p : Bool → Plan} (hr : ∀ nested, Writes config (rest nested) (p nested)) :
    Writes config (h.render signature rest) (h.plan signature p) :=
  .ite h.constraints.isEmpty ((Writes.text signature).comp (hr false))
    ((Writes.line signature).comp ((Writes.lines true _).comp (hr true)).scope)

private theorem writes_planOpen (h : Head) (signature : List Char) :
    Writes config (h.renderOpen signature) (h.planOpen signature) :=
  h.writes_plan signature fun _ => .endLine

private theorem writes_planClosed (h : Head) (signature : List Char) (tail : Bool)
    {text : Bool → Writer → Writer} {p : Bool → Plan}
    (ht : ∀ nested, Writes config (text nested) (p nested)) :
    Writes config (h.renderClosed signature tail text) (h.planClosed signature tail p) := by
  apply h.writes_plan signature
  intro nested
  have hs : Writes config (fun w => (text nested w).append [';']) (p nested ++ [.put ';']) :=
    (ht nested).comp (.text [';'])
  have he : Writes config (fun w => if nested || !tail then w.endLine else w)
      (if nested || !tail then [.endLine] else []) := .ite _ .endLine .id
  simpa using hs.comp he

end Head

private theorem Frame.writes_plan (f : Frame) {children : Bool → Writer → Writer} {p : Bool → Plan}
    (hc : ∀ glue, Writes config (children glue) (p glue)) (tail : Bool) :
    Writes config (f.render children tail) (f.plan p tail) := by
  have hheader (cs : List Char) : Writes config
      (fun w => if f.joined then w.append cs else w.appendLine cs)
      (if f.joined then Plan.text cs else Plan.line cs) := .ite f.joined (.text cs) (.line cs)
  have hbrackets (brackets : Brackets) : Writes config
      (fun w => ((w.appendLine brackets.opening.toList).indented 1 (children false)).close
        (f.glues tail) brackets.closing.toList)
      (Plan.line brackets.opening.toList ++ Plan.scope (p false)
        ++ Plan.close (f.glues tail) brackets.closing.toList) :=
    ((Writes.line _).comp (hc false).scope).comp (.close _ _)
  have hfooter (cs : List Char) : Writes config
      (fun w => if tail then w.append cs else (w.append cs).endLine)
      (Plan.text cs ++ (if tail then [] else [.endLine])) :=
    (Writes.text cs).comp (.ite tail .id .endLine)
  intro w hw
  unfold render plan planHeader planChildren planFooter
  cases f.header with
  | none =>
    cases f.brackets with
    | none =>
      cases f.footer with
      | none => exact ((Writes.id.comp (hc _)).comp .id) w hw
      | some footer => exact ((Writes.id.comp (hc _)).comp (hfooter _)) w hw
    | some brackets =>
      cases f.footer with
      | none => exact ((Writes.id.comp (hbrackets brackets)).comp .id) w hw
      | some footer => exact ((Writes.id.comp (hbrackets brackets)).comp (hfooter _)) w hw
  | some header =>
    cases f.brackets with
    | none =>
      cases f.footer with
      | none => exact (((hheader _).comp (hc _)).comp .id) w hw
      | some footer => exact (((hheader _).comp (hc _)).comp (hfooter _)) w hw
    | some brackets =>
      cases f.footer with
      | none => exact (((hheader _).comp (hbrackets brackets)).comp .id) w hw
      | some footer => exact (((hheader _).comp (hbrackets brackets)).comp (hfooter _)) w hw

mutual

/-- Rendering a node makes the moves of its plan. -/
theorem Node.writes_plan : ∀ (n : Node) (tail : Bool),
    Writes config (n.render tail) (n.plan config.docPrefix.toList tail)
  | .raw text verbatim, tail => writes_planRaw text verbatim tail
  | .block frame children, tail =>
    frame.writes_plan (fun glue => Node.writes_planAll .statements glue children {}) tail
  | .typeDecl head bases terminated members, tail => by
    have hbody := Node.writes_planAll .members false members {}
    have hrest : Writes config
        (fun w => if terminated
          then head.renderClosed (typeSignature head bases) tail (fun _ inner => inner) w
          else (head.renderOpen (typeSignature head bases) w).braced tail
            (Node.renderAll .members false members {}))
        (if terminated then head.planClosed (typeSignature head bases) tail (fun _ => [])
          else head.planOpen (typeSignature head bases)
            ++ Plan.braced tail
              (Node.planAll config.docPrefix.toList .members false members {})) :=
      .ite terminated (head.writes_planClosed _ tail fun _ => .id)
        ((head.writes_planOpen _).comp (.braced tail hbody))
    exact head.writes_planPreamble.comp hrest
  | .methodDecl head style frame body, tail => by
    have hbody (inTail : Bool) : Writes config
        (frame.render (fun glue => Node.renderAll .statements glue body {}) inTail)
        (frame.plan
          (fun glue => Node.planAll config.docPrefix.toList .statements glue body {}) inTail) :=
      frame.writes_plan (fun glue => Node.writes_planAll .statements glue body {}) inTail
    have harrow (nested : Bool) : Writes config
        (fun w => if nested then w.endLine.append "=> ".toList else w.append " => ".toList)
        (if nested then .endLine :: Plan.text "=> ".toList else Plan.text " => ".toList) :=
      .ite nested (Writes.endLine.comp (.text _)) (.text _)
    cases style with
    | block =>
      exact head.writes_planPreamble.comp
        ((head.writes_planOpen _).comp (.braced tail (hbody false)))
    | arrow =>
      exact head.writes_planPreamble.comp
        (head.writes_planClosed _ tail fun nested => (harrow nested).comp (hbody true))
    | abstract =>
      exact head.writes_planPreamble.comp (head.writes_planClosed _ tail fun _ => .id)
  | .namespaceDecl name entries, tail =>
    (Writes.line _).comp (.braced tail (Node.writes_planAll .entries false entries {}))
  | .doc comment, _ => comment.writes_plan
  | .attributes entries, tail => .lines tail _
  | .constraints entries, tail => .lines tail _
  | .separator _, _ => .id

private theorem Node.writes_planAll (spacing : Spacing) (tail : Bool) : ∀ (nodes : List Node) (gap : Gap),
    Writes config (Node.renderAll spacing tail nodes gap)
      (Node.planAll config.docPrefix.toList spacing tail nodes gap)
  | [], gap => .ite (gap.forced && !tail) .blankLine .id
  | node :: rest, gap => by
    intro w hw
    cases hs : node.separation? with
    | some forced =>
      simp only [Node.renderAll, Node.planAll, hs]
      exact Node.writes_planAll spacing tail rest (gap.widen forced) w hw
    | none =>
      have hgap : Writes config
          (fun w => if gap.blank spacing node.isDeclaration then w.blankLine else w)
          (if gap.blank spacing node.isDeclaration then Plan.blankLine else []) :=
        .ite _ .blankLine .id
      have hend : Writes config
          (fun w => if tail && Node.allSeparators rest then w else w.endLine)
          (if tail && Node.allSeparators rest then [] else [.endLine]) := .ite _ .id .endLine
      have hrest := Node.writes_planAll spacing tail rest { previous := some node.isDeclaration }
      simp only [Node.renderAll, Node.planAll, hs]
      exact (((hgap.comp (node.writes_plan _)).comp hend).comp hrest) w hw

end

end

namespace Document

private theorem writes_planPreamble (d : Document) : Writes d.config d.writePreamble d.planPreamble := by
  intro w hw
  unfold writePreamble planPreamble planPragma
  cases d.config.pragma with
  | none =>
    exact (((Writes.id.comp (.ite _ .blankLine .id)).comp (.lines false _)).comp
      (.ite _ .blankLine .id)) w hw
  | some pragma =>
    exact ((((Writes.line _).comp (.ite _ .blankLine .id)).comp (.lines false _)).comp
      (.ite _ .blankLine .id)) w hw

private theorem writes_planEntries (d : Document) : Writes d.config d.writeEntries d.planEntries := by
  have hentries : Writes d.config (Node.renderAll .entries false d.nodes {})
      (Node.planAll d.config.docPrefix.toList .entries false d.nodes {}) :=
    Node.writes_planAll .entries false d.nodes {}
  unfold writeEntries planEntries
  cases d.enclosing with
  | none => exact hentries
  | some name =>
    cases d.config.namespaceStyle with
    | block => exact (Writes.line _).comp (.braced false hentries)
    | fileScoped => exact ((Writes.line _).comp .blankLine).comp hentries

/-- Rendering a document makes the moves of its plan, whatever its texts are. -/
theorem follow_plan (d : Document) :
    d.writeEntries (d.writePreamble d.writer) = d.writer.follow d.plan :=
  d.writes_planPreamble.comp d.writes_planEntries d.writer rfl

end Document
end CodeScribe
