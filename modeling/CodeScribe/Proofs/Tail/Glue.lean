import CodeScribe.Proofs.Tail.Node
import CodeScribe.Proofs.Ink.Basic

/-! Text glued to the end of a tree. A footer, or the semicolon behind an arrow, goes on where the text in
front of it has ended, however deep the tree is that has left its line open. -/
namespace CodeScribe

namespace Writer
variable {w : Writer}

theorem isLineOpen_of_line (h : w.line ≠ []) : w.isLineOpen = true := by
  simp [isLineOpen, h]

/-- On an open line, text without a line feed goes on where the line has ended. -/
theorem text_append_of_open (hclassify : w.classify = Classifier.indentAll)
    (hopen : w.isLineOpen = true) {cs : List Char} (hfeed : '\n' ∉ cs) :
    (w.follow (Plan.text cs)).text = w.text ++ cs := by
  have hcont : ({ w with line := w.line ++ cs } : Writer).format (w.line ++ cs) =
      if (w.line ++ cs).isEmpty then []
      else (if w.atLineStart then w.indentation else []) ++ (w.line ++ cs) :=
    format_indentAll (w := { w with line := w.line ++ cs }) hclassify _
  rw [follow_text hfeed, text, text, hcont, format_indentAll hclassify]
  cases hl : w.line with
  | nil =>
    have hmidway : w.atLineStart = false := by simpa [isLineOpen, hl] using hopen
    cases cs <;> simp [hmidway]
  | cons c rest => simp [List.append_assoc]

/-- A line that shows something is ended by the terminator alone. -/
theorem text_endLine_of_seen (hfaithful : w.classify.Faithful) (hseen : Text.visible w.line ≠ []) :
    w.endLine.text = w.text ++ w.config.newline.text := by
  have hopen : w.line ≠ [] := by
    rintro hl
    simp [hl] at hseen
  have hshown : w.shown = w.pending := by
    have hblank : ¬ Text.allBlank (w.format w.line) = true := by
      rwa [Text.allBlank_iff, visible_format hfaithful]
    rw [shown, if_neg hblank, pending, if_neg (by simpa using hopen)]
  have hnothing : w.flushLine.pending = [] := rfl
  rw [endLine_of_open hopen, text_eq, text_eq, output_flushLine, hshown, hnothing, List.append_nil]

/-- What a footer adds to a text that has left its line open. -/
private theorem text_follow_footer (hclassify : w.classify = Classifier.indentAll)
    (hopen : w.isLineOpen = true) {footer : List Char} (hseen : Text.allBlank footer = false)
    (hfeed : '\n' ∉ footer) (tail : Bool) :
    (w.follow (Plan.text footer ++ (if tail then [] else [.endLine]))).text =
      w.text ++ footer ++ (if tail then [] else w.config.newline.text) := by
  have htext := text_append_of_open hclassify hopen hfeed
  cases tail with
  | true => simp [htext]
  | false =>
    have hvisible : Text.visible (w.follow (Plan.text footer)).line ≠ [] := by
      rw [follow_text hfeed, Text.visible_append]
      intro hnil
      rw [Text.allBlank_iff.mpr (List.append_eq_nil_iff.mp hnil).2] at hseen
      exact Bool.noConfusion hseen
    have hfaithful : (w.follow (Plan.text footer)).classify.Faithful := by
      rw [classify_follow, hclassify]
      exact Classifier.faithful_indentAll
    have hend := text_endLine_of_seen hfaithful hvisible
    rw [config_follow, htext] at hend
    rw [follow_append]
    exact hend

end Writer

/-- A text that shows something and stays on one line. -/
def Text.isInline (cs : List Char) : Bool := !allBlank cs && !cs.contains '\n'

mutual

/-- Whether the node, in tail position, ends midway on a line: raw text that, less one line end, shows
something and does not end in a line feed; a block without footer that ends in an inline close bracket,
or in such a node when it has no brackets. -/
def Node.openEnded : Node → Bool
  | .raw text _ =>
    let body := Text.chopLineEnd text.toList
    !Text.allBlank body && !Text.endsIn '\n' body
  | .block frame children =>
    frame.footer.isNone && (match frame.brackets with
      | some brackets => Text.isInline brackets.closing.toList
      | none => Node.lastOpenEnded children)
  | _ => false

/-- Whether the last node that is no separator ends midway on a line. -/
def Node.lastOpenEnded : List Node → Bool
  | [] => false
  | node :: rest =>
    if Node.allSeparators rest then node.openEnded else Node.lastOpenEnded rest

end

/-- Whether a footer finds the text of the block in front of it open: there is a close bracket that does
not end its line, or there are no brackets and the last child ends midway on a line. -/
def Frame.holdsFooter (f : Frame) (children : List Node) : Bool :=
  match f.brackets with
  | some brackets => !brackets.closing.toList.isEmpty && !Text.endsIn '\n' brackets.closing.toList
  | none => Node.lastOpenEnded children

section
variable (lineStart : List Char)

private theorem isLineOpen_follow_text {cs : List Char} (hne : cs ≠ []) (hend : Text.endsIn '\n' cs = false)
    (w : Writer) : (w.follow (Plan.text cs)).isLineOpen = true :=
  Writer.isLineOpen_of_line (Writer.line_follow_text hne hend w)

private theorem isLineOpen_follow_planRaw {text : String} (verbatim : Bool)
    (h : (Node.raw text verbatim).openEnded = true) (w : Writer) :
    (w.follow (planRaw text verbatim true)).isLineOpen = true := by
  obtain ⟨hblank, hend⟩ : Text.allBlank (Text.chopLineEnd text.toList) = false ∧
      Text.endsIn '\n' (Text.chopLineEnd text.toList) = false := by
    simpa [Node.openEnded] using h
  have hne : Text.chopLineEnd text.toList ≠ [] := by
    intro hnil
    simp [hnil, Text.allBlank] at hblank
  cases verbatim with
  | false => exact isLineOpen_follow_text hne hend w
  | true =>
    have hmidway := Writer.atLineStart_appendRaw hne hend w
    simp [planRaw, Stroke.apply, Writer.isLineOpen, hmidway]

/-- A block leaves its line open in front of what is glued to it, when its last child does. -/
theorem Frame.isLineOpen_follow {f : Frame} {children : List Node} {tail : Bool}
    (hglues : f.glues tail = true) (hholds : f.holdsFooter children = true)
    (hlast : f.brackets = none → ∀ (gap : Gap) (w : Writer),
      (w.follow (Node.planAll lineStart .statements true children gap)).isLineOpen = true)
    (w : Writer) :
    (w.follow (f.planHeader ++ f.planChildren
      (fun glue => Node.planAll lineStart .statements glue children {}) tail)).isLineOpen = true := by
  rw [Writer.follow_append, planChildren, hglues]
  unfold holdsFooter at hholds
  cases hb : f.brackets with
  | none => exact hlast hb {} _
  | some brackets =>
    rw [hb] at hholds
    obtain ⟨hne, hend⟩ : brackets.closing.toList ≠ [] ∧
        Text.endsIn '\n' brackets.closing.toList = false := by
      simpa using hholds
    dsimp only
    rw [Writer.follow_append]
    exact isLineOpen_follow_text hne hend _

private theorem Text.isInline_unended {cs : List Char} (h : Text.isInline cs = true) :
    cs ≠ [] ∧ Text.endsIn '\n' cs = false := by
  obtain ⟨hblank, hfeed⟩ : Text.allBlank cs = false ∧ '\n' ∉ cs := by
    simpa [Text.isInline] using h
  refine ⟨?_, endsIn_of_not_mem hfeed⟩
  rintro rfl
  simp [Text.allBlank] at hblank

private theorem Frame.holdsFooter_of_openEnded {f : Frame} {children : List Node}
    (h : (Node.block f children).openEnded = true) :
    f.footer = none ∧ f.holdsFooter children = true := by
  rw [Node.openEnded, Bool.and_eq_true, Option.isNone_iff_eq_none] at h
  refine ⟨h.1, ?_⟩
  unfold holdsFooter
  cases hb : f.brackets with
  | none => simpa [hb] using h.2
  | some brackets =>
    have hinline : Text.isInline brackets.closing.toList = true := by simpa [hb] using h.2
    obtain ⟨hne, hend⟩ := Text.isInline_unended hinline
    simp [hne, hend]

mutual

/-- A node that ends midway leaves its line open in tail position, to any depth of last children. -/
theorem Node.isLineOpen_follow : ∀ n : Node, n.openEnded = true → ∀ w : Writer,
    (w.follow (n.plan lineStart true)).isLineOpen = true
  | .raw text verbatim, h, w => isLineOpen_follow_planRaw verbatim h w
  | .block frame children, h, w => by
    obtain ⟨hfooter, hholds⟩ := Frame.holdsFooter_of_openEnded h
    have hglues : frame.glues true = true := by simp [Frame.glues, hfooter]
    have hopen := Frame.isLineOpen_follow lineStart hglues hholds
      (fun hb gap => Node.isLineOpen_followAll .statements children
        (by simpa [Frame.holdsFooter, hb] using hholds) gap) w
    rw [Node.plan, Frame.plan, Frame.planFooter, hfooter, List.append_nil]
    exact hopen
  | .typeDecl .., h, _ => by simp [Node.openEnded] at h
  | .methodDecl .., h, _ => by simp [Node.openEnded] at h
  | .namespaceDecl .., h, _ => by simp [Node.openEnded] at h
  | .doc _, h, _ => by simp [Node.openEnded] at h
  | .attributes _, h, _ => by simp [Node.openEnded] at h
  | .constraints _, h, _ => by simp [Node.openEnded] at h
  | .separator _, h, _ => by simp [Node.openEnded] at h

private theorem Node.isLineOpen_followAll (spacing : Spacing) : ∀ nodes : List Node,
    Node.lastOpenEnded nodes = true → ∀ (gap : Gap) (w : Writer),
      (w.follow (Node.planAll lineStart spacing true nodes gap)).isLineOpen = true
  | [], h, _, _ => by simp [Node.lastOpenEnded] at h
  | node :: rest, h, gap, w => by
    cases hsep : Node.allSeparators rest with
    | true =>
      have hnode : node.openEnded = true := by simpa [Node.lastOpenEnded, hsep] using h
      have hs : node.separation? = none := by
        cases node <;> simp_all [Node.openEnded, Node.separation?]
      have hnothing : Node.planAll lineStart spacing true rest
          { previous := some node.isDeclaration } = [] :=
        Node.planAll_of_separators lineStart hsep (.inl rfl)
      simp only [Node.planAll, hs, hsep, hnothing, Bool.and_self, if_true, List.append_nil]
      rw [Writer.follow_append]
      exact Node.isLineOpen_follow node hnode _
    | false =>
      have hrest : Node.lastOpenEnded rest = true := by simpa [Node.lastOpenEnded, hsep] using h
      cases hs : node.separation? with
      | some forced =>
        simp only [Node.planAll, hs]
        exact Node.isLineOpen_followAll spacing rest hrest _ w
      | none =>
        simp only [Node.planAll, hs]
        rw [Writer.follow_append]
        exact Node.isLineOpen_followAll spacing rest hrest _ _

end

end

/-- A footer goes on where the text of its block has ended, and so does the semicolon of a method with an
arrow. -/
theorem Node.text_footer_glued :
    (∀ (frame : Frame) (children : List Node) (footer : String) (tail : Bool) (w : Writer),
      (frame.joined || frame.expression) = true → frame.holdsFooter children = true →
      Text.allBlank footer.toList = false → '\n' ∉ footer.toList →
      w.classify = Classifier.indentAll →
        ((Node.block { frame with footer := some footer } children).render tail w).text =
          ((Node.block { frame with footer := some "" } children).render true w).text
            ++ footer.toList ++ (if tail then [] else w.config.newline.text)) ∧
    (∀ (head : Head) (frame : Frame) (body : List Node) (tail : Bool) (w : Writer),
      head.constraints = [] → (Node.block frame body).openEnded = true →
      w.classify = Classifier.indentAll →
        ((Node.methodDecl head .arrow frame body).render tail w).text =
          ((Node.block frame body).render true
            (((head.preamble w).append head.signature.toList).append " => ".toList)).text
            ++ [';'] ++ (if tail then [] else w.config.newline.text)) := by
  constructor
  · intro frame children footer tail w hunit hholds hseen hfeed hclassify
    have hglues (text : String) (inTail : Bool) :
        ({ frame with footer := some text } : Frame).glues inTail = true := by
      simpa [Frame.glues] using hunit
    have hopen := Frame.isLineOpen_follow w.config.docPrefix.toList (hglues footer true) hholds
      (fun hb gap => Node.isLineOpen_followAll _ .statements children
        (by simpa [Frame.holdsFooter, show frame.brackets = none from hb] using hholds) gap) w
    -- header and children do not depend on the footer: both blocks write the same text in front of it
    generalize hfilled : Frame.planHeader _ ++ Frame.planChildren _ _ _ = filled at hopen
    have hblock (text : String) (inTail : Bool) :
        (Node.block { frame with footer := some text } children).render inTail w =
          (w.follow filled).follow
            (Plan.text text.toList ++ (if inTail then [] else [.endLine])) := by
      rw [Node.writes_plan _ inTail w rfl, ← Writer.follow_append, ← hfilled, Node.plan, Frame.plan]
      simp only [Frame.planChildren, hglues]
      rfl
    have hindent : (w.follow filled).classify = Classifier.indentAll := by
      rw [Writer.classify_follow, hclassify]
    rw [hblock, hblock, Writer.text_follow_footer hindent hopen hseen hfeed, Writer.config_follow]
    simp [Plan.text]
  · intro head frame body tail w hconstraints hbody hclassify
    obtain ⟨lead, harrow⟩ : ∃ lead : Writer,
        lead = ((head.preamble w).append head.signature.toList).append " => ".toList := ⟨_, rfl⟩
    have hlead : lead = w.follow _ := harrow.trans
      (((head.writes_planPreamble.comp (.text head.signature.toList)).comp (.text " => ".toList)) w rfl)
    -- without constraints, a method with an arrow is its body with a semicolon for a footer
    have hmethod : (Node.methodDecl head .arrow frame body).render tail w =
        ((Node.block frame body).render true lead).follow
          (Plan.text [';'] ++ (if tail then [] else [.endLine])) := by
      have hclosed : (Node.methodDecl head .arrow frame body).render tail w =
          head.renderClosed head.signature.toList tail (fun nested inner =>
            (Node.block frame body).render true (if nested then inner.endLine.append "=> ".toList
              else inner.append " => ".toList)) (head.preamble w) := rfl
      rw [hclosed, Head.renderClosed, Head.render, hconstraints, harrow]
      cases tail <;> rfl
    rw [← harrow]
    have hplan := (Node.block frame body).writes_plan true lead rfl
    have hopen := Node.isLineOpen_follow lead.config.docPrefix.toList _ hbody lead
    rw [← hplan] at hopen
    have hindent : ((Node.block frame body).render true lead).classify = Classifier.indentAll := by
      rw [hplan, Writer.classify_follow, hlead, Writer.classify_follow, hclassify]
    have hconfig : ((Node.block frame body).render true lead).config = w.config := by
      rw [hplan, Writer.config_follow, hlead, Writer.config_follow]
    rw [hmethod, Writer.text_follow_footer hindent hopen (by rfl) (by decide), hconfig]

/-- A call with a lambda whose last statement is a block in braces. -/
def lambda : Node :=
  .block { header := some "item =>", brackets := some Brackets.braces }
    [.raw "Log(item);" false,
      .block { header := some "if (item.Ready)", brackets := some Brackets.braces }
        [.raw "Use(item);" false]]

def forEach : Frame := { header := some "items.ForEach(", expression := true, joined := true }

theorem text_footer_glued_forEach :
    forEach.holdsFooter [.block {} [lambda, .separator true]] = true ∧
      ((Node.block { forEach with footer := some ");" } [.block {} [lambda, .separator true]]).render
          false (Writer.new {})).text =
        "items.ForEach(item =>\n\x7b\n    Log(item);\n    if (item.Ready)\n    \x7b\n".toList
          ++ "        Use(item);\n    \x7d\n\x7d);\n".toList ∧
      (Node.block {} [lambda]).openEnded = true ∧
      ((Node.methodDecl { signature := "T M()" } .arrow {} [lambda]).render true (Writer.new {})).text =
        ((Node.block {} [lambda]).render true
          (((Head.preamble { signature := "T M()" } (Writer.new {})).append "T M()".toList).append
            " => ".toList)).text ++ [';'] ++ [] := by
  have hholds : forEach.holdsFooter [.block {} [lambda, .separator true]] = true := by decide +kernel
  have hbody : (Node.block {} [lambda]).openEnded = true := by decide +kernel
  have hfooter := Node.text_footer_glued.1 forEach [.block {} [lambda, .separator true]] ");" false
    (Writer.new {}) rfl hholds (by decide +kernel) (by decide) rfl
  refine ⟨hholds, hfooter.trans (by decide +kernel), hbody, ?_⟩
  exact Node.text_footer_glued.2 { signature := "T M()" } {} [lambda] true (Writer.new {}) rfl hbody rfl

/-- A block whose close bracket ends its own line. -/
def endedCall : Frame := { brackets := some ⟨"(", ")\n"⟩, expression := true }

/-- Behind brackets, it is the close bracket that counts and not the last child: a footer is indented when
the bracket has ended its line. -/
theorem text_footer_indented :
    endedCall.expression = true ∧ Node.lastOpenEnded [.raw "x" false] = true ∧
      ((Writer.new {}).deepen 1).classify = Classifier.indentAll ∧
      ((Node.block { endedCall with footer := some ";" } [.raw "x" false]).render false
        ((Writer.new {}).deepen 1)).text = "    (\n        x\n    )\n    ;\n".toList ∧
      ((Node.block { endedCall with footer := some ";" } [.raw "x" false]).render false
          ((Writer.new {}).deepen 1)).text ≠
        ((Node.block { endedCall with footer := some "" } [.raw "x" false]).render true
          ((Writer.new {}).deepen 1)).text ++ ";".toList ++ Newline.lf.text := by
  refine ⟨rfl, by decide +kernel, rfl, by decide +kernel, by decide +kernel⟩

end CodeScribe
