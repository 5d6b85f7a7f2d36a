import CodeScribe.Proofs.Depth.Shift
import CodeScribe.Proofs.Ink.Basic
import CodeScribe.Proofs.Scope.Balanced

/-! Runs at two depths. Where every line is indented, the deeper run writes the text of the other one,
moved to the right. -/
namespace CodeScribe
open Text (shift shiftLast visible)

def Config.indentation (config : Config) (levels : Nat) : List Char :=
  (List.replicate levels config.indent.unit).flatten

private theorem Config.indentation_add (config : Config) (m n : Nat) :
    config.indentation (m + n) = config.indentation n ++ config.indentation m := by
  rw [indentation, Nat.add_comm, List.replicate_add, List.flatten_append]
  rfl

private theorem Writer.format_at_start {w : Writer} (hclassify : w.classify = Classifier.indentAll)
    (hstart : w.atLineStart = true) (line : List Char) :
    w.format line = shiftLast (w.config.indentation w.depth) line := by
  rw [format_indentAll hclassify, if_pos hstart]
  rfl

/-- Two writers that differ in their depth, and in the indentation of what they have written. -/
structure Deeper (k : Nat) (w v : Writer) : Prop where
  config : v.config = w.config
  line : v.line = w.line
  depth : v.depth = w.depth + k
  classify : w.classify = Classifier.indentAll ∧ v.classify = Classifier.indentAll
  start : w.atLineStart = true ∧ v.atLineStart = true
  unbroken : '\n' ∉ w.line
  output : v.output = shift (w.config.indentation k) w.output

namespace Deeper
variable {k : Nat} {w v : Writer}

private theorem withLine (h : Deeper k w v) {line : List Char} (hline : '\n' ∉ line) :
    Deeper k { w with line := line } { v with line := line } :=
  ⟨h.config, rfl, h.depth, h.classify, h.start, hline, h.output⟩

private theorem format (h : Deeper k w v) (line : List Char) :
    v.format line = shiftLast (w.config.indentation k) (w.format line) := by
  rw [Writer.format_at_start h.classify.1 h.start.1, Writer.format_at_start h.classify.2 h.start.2,
    h.config, h.depth, Config.indentation_add]
  cases line <;> simp [shiftLast]

private theorem shown (h : Deeper k w v) : v.shown = shiftLast (w.config.indentation k) w.shown := by
  have hfaithful : ∀ u : Writer, u.classify = Classifier.indentAll → u.classify.Faithful :=
    fun u hu => hu ▸ Classifier.faithful_indentAll
  have hblank : Text.allBlank (v.format v.line) = Text.allBlank (w.format w.line) := by
    apply Text.allBlank_congr
    rw [Writer.visible_format (hfaithful v h.classify.2), Writer.visible_format (hfaithful w h.classify.1),
      h.line]
  rw [Writer.shown, Writer.shown, hblank, h.line]
  split
  · rfl
  · exact h.format w.line

/-- What is shown is nothing, or something that can be seen. -/
private theorem shown_seen (w : Writer) : w.shown = [] ∨ visible w.shown ≠ [] := by
  rw [Writer.shown]
  split
  · exact .inl rfl
  · next hb => exact .inr fun hv => hb (Text.allBlank_iff.mpr hv)

private theorem complete (h : w.atLineStart = true) : w.output = [] ∨ Text.endsIn '\n' w.output = true := by
  simpa [Writer.atLineStart] using h

private theorem breakLine (h : Deeper k w v) : Deeper k w.breakLine v.breakLine where
  config := h.config
  line := h.line
  depth := h.depth
  classify := h.classify
  start := ⟨Writer.atLineStart_breakLine w, Writer.atLineStart_breakLine v⟩
  unbroken := h.unbroken
  output := by
    have hempty : '\n' ∉ ([] : List Char) := by simp
    have hbreak := Text.shift_terminated (w.config.indentation k) hempty w.config.newline (.inl rfl)
    rw [List.nil_append] at hbreak
    rw [Writer.breakLine, Writer.breakLine, h.output, h.config,
      Text.shift_append _ (complete h.start.1), hbreak]
    rfl

private theorem flushLine (h : Deeper k w v) : Deeper k w.flushLine v.flushLine where
  config := by simp [h.config]
  line := rfl
  depth := by simp [h.depth]
  classify := by simp [h.classify]
  start := ⟨Writer.atLineStart_flushLine w, Writer.atLineStart_flushLine v⟩
  unbroken := by simp
  output := by
    have hfeed : '\n' ∉ w.shown := by
      rw [Writer.shown]
      split
      · simp
      · exact Writer.not_mem_format (by decide) (by decide) h.unbroken
    rw [Writer.output_flushLine, Writer.output_flushLine, Writer.config_flushLine, h.shown, h.output,
      h.config, List.append_assoc w.output, Text.shift_append _ (complete h.start.1),
      Text.shift_terminated _ hfeed _ (shown_seen w), List.append_assoc]

private theorem endLine (h : Deeper k w v) : Deeper k w.endLine v.endLine := by
  rw [Writer.endLine, Writer.endLine, h.line, h.start.1, h.start.2]
  split
  · exact h.flushLine
  · exact h

private theorem put (h : Deeper k w v) (c : Char) : Deeper k (w.put c) (v.put c) := by
  by_cases hc : c = '\n'
  · have hcut : '\n' ∉ Text.chop '\r' w.line := fun hm =>
      h.unbroken ((Text.chop_isPrefix '\r' w.line).subset hm)
    rw [hc, Writer.put_newline, Writer.put_newline, h.line]
    exact (h.withLine hcut).flushLine
  · rw [Writer.put_of_ne w hc, Writer.put_of_ne v hc, h.line]
    exact h.withLine (by simp [h.unbroken, Ne.symm hc])

private theorem deepen (h : Deeper k w v) (levels : Nat) : Deeper k (w.deepen levels) (v.deepen levels) :=
  ⟨h.config, h.line, by simp only [Writer.deepen, h.depth]; omega, h.classify, h.start, h.unbroken,
    h.output⟩

/-- A scope is left only where there is one, so that the difference in depth stays. -/
private theorem undeepen (h : Deeper k w v) {levels : Nat} (hdepth : levels ≤ w.depth) :
    Deeper k (w.undeepen levels) (v.undeepen levels) :=
  ⟨h.config, h.line, by simp only [Writer.undeepen, h.depth]; omega, h.classify, h.start, h.unbroken,
    h.output⟩

end Deeper

def Stroke.isRaw : Stroke → Bool
  | .raw _ => true
  | _ => false

/-- Whether every line of a plan is indented. -/
def Plan.reflows (p : Plan) : Bool := p.all (!·.isRaw)

/-- A run that indents every line, made deeper, writes the same lines deeper. -/
theorem Deeper.follow {k : Nat} {p : Plan} (hp : Balanced p) (hr : p.reflows = true) {w v : Writer}
    (h : Deeper k w v) : Deeper k (w.follow p) (v.follow p) := by
  induction hp generalizing w v with
  | nil => exact h
  | @stroke s p he hl _ ih =>
    have hsplit : s.isRaw = false ∧ p.reflows = true := by simpa [Plan.reflows] using hr
    refine ih hsplit.2 ?_
    cases s with
    | put c => exact h.put c
    | flush => exact h.flushLine
    | raw text => simp [Stroke.isRaw] at hsplit
    | breakLine => exact h.breakLine
    | endLine => exact h.endLine
    | enter => exact absurd rfl he
    | leave => exact absurd rfl hl
  | @scope body p hbody _ ihbody ih =>
    have hsplit : body.reflows = true ∧ p.reflows = true := by
      simpa [Plan.reflows, Stroke.isRaw] using hr
    -- the body is balanced, so it comes back to the depth at which its scope is left
    have hinner := ihbody hsplit.1 (h.deepen 1)
    have hdepth : ((w.deepen 1).follow body).depth = w.depth + 1 := hbody.depth_follow _
    rw [Writer.follow_cons, Writer.follow_append, Writer.follow_cons, Writer.follow_cons,
      Writer.follow_append, Writer.follow_cons]
    exact ih hsplit.2 (hinner.undeepen (by omega))

theorem Deeper.text {k : Nat} {w v : Writer} (h : Deeper k w v) :
    v.text = shift (w.config.indentation k) w.text := by
  have hfeed : '\n' ∉ w.pending := by
    rw [Writer.pending]
    split
    · simp
    · exact Writer.not_mem_format (by decide) (by decide) h.unbroken
  have hpending : v.pending = shiftLast (w.config.indentation k) w.pending := by
    rw [Writer.pending, Writer.pending, h.line]
    split
    · rfl
    · exact h.format w.line
  rw [Writer.text_eq, Writer.text_eq, h.output, hpending, Text.shift_append _ (complete h.start.1),
    Text.shift_of_not_mem _ hfeed]

end CodeScribe
