import CodeScribe.Proofs.Depth.Node
import CodeScribe.Proofs.Directives.Lines

/-! Runs with and without directives at column zero. A writer that moves them there writes the rows of one
that does not, each at column zero if it is a directive. -/
namespace CodeScribe
open Text (flushLeft isDirective)

/-- A line with neither kind of line end in it. -/
def Text.IsRow (line : List Char) : Prop := '\n' ∉ line ∧ '\r' ∉ line
open Text (IsRow)

namespace Writer

private theorem format_preprocessorLines {w : Writer} (hclassify : w.classify = Classifier.preprocessorLines)
    (hstart : w.atLineStart = true) (line : List Char) :
    w.format line = if isDirective line then Text.trimStart line
      else if line.isEmpty then [] else w.indentation ++ line := by
  rw [format, format?, hclassify, Classifier.content?_preprocessorLines, isDirective]
  by_cases h : (Text.trimStart line).head? = some '#'
  · have hne : Text.trimStart line ≠ [] := by
      intro hnil
      simp [hnil] at h
    simp [h, hne, Classifier.preprocessorLines]
  · simp [h, hstart, Classifier.preprocessorLines, Classifier.indentAll]

end Writer

/-- Two writers, of which the second one moves directives to column zero, and the rows that the first one has
written. -/
structure Flushed (rows : List (List Char)) (w v : Writer) : Prop where
  line : v.line = w.line
  depth : v.depth = w.depth
  indent : v.config.indent = w.config.indent
  newline : v.config.newline = w.config.newline
  classify : w.classify = Classifier.indentAll ∧ v.classify = Classifier.preprocessorLines
  start : w.atLineStart = true ∧ v.atLineStart = true
  unbroken : IsRow w.line
  whole : ∀ row ∈ rows, IsRow row
  output : w.output = rows.flatMap (· ++ w.config.newline.text) ∧
    v.output = (rows.map flushLeft).flatMap (· ++ w.config.newline.text)

namespace Flushed
variable {rows : List (List Char)} {w v : Writer}

private theorem withLine (h : Flushed rows w v) {line : List Char} (hline : IsRow line) :
    Flushed rows { w with line := line } { v with line := line } :=
  ⟨rfl, h.depth, h.indent, h.newline, h.classify, h.start, hline, h.whole, h.output⟩

private theorem format (h : Flushed rows w v) (line : List Char) :
    v.format line = flushLeft (w.format line) := by
  have hindentation : v.indentation = w.indentation := by
    rw [Writer.indentation, Writer.indentation, h.depth, h.indent]
  rw [Writer.format_indentAll h.classify.1, if_pos h.start.1,
    Writer.format_preprocessorLines h.classify.2 h.start.2, hindentation]
  have hblank := w.allBlank_indentation
  by_cases hempty : line = []
  · subst hempty
    rfl
  · simp only [List.isEmpty_iff, if_neg hempty, flushLeft, Text.isDirective_append hblank,
      Text.trimStart_append hblank]

private theorem shown (h : Flushed rows w v) : v.shown = flushLeft w.shown := by
  have hformat := h.format w.line
  rw [Writer.shown, Writer.shown, h.line, hformat, Text.allBlank_congr (Text.visible_flushLeft _)]
  split
  · rfl
  · rfl

private theorem isRow_shown (h : Flushed rows w v) : IsRow w.shown :=
  ⟨Writer.not_mem_shown (by decide) (by decide) h.unbroken.1,
    Writer.not_mem_shown (by decide) (by decide) h.unbroken.2⟩

/-- Another row on both sides. -/
private theorem row (h : Flushed rows w v) (row : List Char) :
    w.output ++ row ++ w.config.newline.text = (rows ++ [row]).flatMap (· ++ w.config.newline.text) ∧
      v.output ++ flushLeft row ++ v.config.newline.text =
        ((rows ++ [row]).map flushLeft).flatMap (· ++ w.config.newline.text) := by
  rw [h.output.1, h.output.2, h.newline]
  simp

private theorem breakLine (h : Flushed rows w v) : Flushed (rows ++ [[]]) w.breakLine v.breakLine where
  line := h.line
  depth := h.depth
  indent := h.indent
  newline := h.newline
  classify := h.classify
  start := ⟨Writer.atLineStart_breakLine w, Writer.atLineStart_breakLine v⟩
  unbroken := h.unbroken
  whole := by
    rw [List.forall_mem_append]
    exact ⟨h.whole, by simp [IsRow]⟩
  output := by
    have hrow := h.row []
    rwa [List.append_nil, show flushLeft [] = [] from rfl, List.append_nil] at hrow

private theorem flushLine (h : Flushed rows w v) : Flushed (rows ++ [w.shown]) w.flushLine v.flushLine where
  line := rfl
  depth := by simp [h.depth]
  indent := by simp [h.indent]
  newline := by simp [h.newline]
  classify := by simp [h.classify]
  start := ⟨Writer.atLineStart_flushLine w, Writer.atLineStart_flushLine v⟩
  unbroken := by simp [IsRow]
  whole := by
    rw [List.forall_mem_append]
    exact ⟨h.whole, by simp [h.isRow_shown]⟩
  output := by
    rw [Writer.output_flushLine, Writer.output_flushLine, Writer.config_flushLine, h.shown]
    exact h.row w.shown

private theorem put (h : Flushed rows w v) {c : Char} (hc : c ≠ '\r') :
    ∃ rows, Flushed rows (w.put c) (v.put c) := by
  by_cases hfeed : c = '\n'
  · have hcut : IsRow (Text.chop '\r' w.line) := by
      rw [Text.chop_of_not_mem h.unbroken.2]
      exact h.unbroken
    rw [hfeed, Writer.put_newline, Writer.put_newline, h.line]
    exact ⟨_, (h.withLine hcut).flushLine⟩
  · rw [Writer.put_of_ne w hfeed, Writer.put_of_ne v hfeed, h.line]
    have hline : IsRow (w.line ++ [c]) := by
      simp [IsRow, h.unbroken.1, h.unbroken.2, Ne.symm hc, Ne.symm hfeed]
    exact ⟨rows, h.withLine hline⟩

private theorem endLine (h : Flushed rows w v) : ∃ rows, Flushed rows w.endLine v.endLine := by
  rw [Writer.endLine, Writer.endLine, h.line, h.start.1, h.start.2]
  split
  · exact ⟨_, h.flushLine⟩
  · exact ⟨rows, h⟩

private theorem deepen (h : Flushed rows w v) (levels : Nat) :
    Flushed rows (w.deepen levels) (v.deepen levels) :=
  ⟨h.line, congrArg (· + levels) h.depth, h.indent, h.newline, h.classify, h.start, h.unbroken, h.whole,
    h.output⟩

private theorem undeepen (h : Flushed rows w v) (levels : Nat) :
    Flushed rows (w.undeepen levels) (v.undeepen levels) :=
  ⟨h.line, congrArg (· - levels) h.depth, h.indent, h.newline, h.classify, h.start, h.unbroken, h.whole,
    h.output⟩

/-- Both writers make the moves of one plan, without verbatim text and carriage returns. -/
theorem follow {p : Plan} (hp : p.reflows = true) (hink : '\r' ∉ p.ink) (h : Flushed rows w v) :
    ∃ rows, Flushed rows (w.follow p) (v.follow p) := by
  induction p generalizing rows w v with
  | nil => exact ⟨rows, h⟩
  | cons s p ih =>
    have hsplit : s.isRaw = false ∧ Plan.reflows p = true := by simpa using hp
    have hinks : '\r' ∉ s.ink ∧ '\r' ∉ Plan.ink p := by simpa [Plan.ink] using hink
    have hstep : ∃ rows, Flushed rows (s.apply w) (s.apply v) := by
      cases s with
      | put c =>
        have hc : c ≠ '\r' := by
          rintro rfl
          simp [Stroke.ink] at hinks
        exact h.put hc
      | flush => exact ⟨_, h.flushLine⟩
      | raw text => exact absurd hsplit.1 (by simp [Stroke.isRaw])
      | breakLine => exact ⟨_, h.breakLine⟩
      | endLine => exact h.endLine
      | enter => exact ⟨rows, h.deepen 1⟩
      | leave => exact ⟨rows, h.undeepen 1⟩
    obtain ⟨rows', h'⟩ := hstep
    exact ih hsplit.2 hinks.2 h'

private theorem pending (h : Flushed rows w v) : v.pending = flushLeft w.pending := by
  rw [Writer.pending, Writer.pending, h.line]
  split
  · rfl
  · exact h.format w.line

private theorem isRow_pending (h : Flushed rows w v) : IsRow w.pending :=
  ⟨Writer.not_mem_pending (by decide) (by decide) h.unbroken.1,
    Writer.not_mem_pending (by decide) (by decide) h.unbroken.2⟩

/-- The finished texts have the same lines, but for the blanks in front of directives. -/
theorem lines_normalize (h : Flushed rows w v) (config config' : Config) :
    Text.lines (normalize config' v.text) = (Text.lines (normalize config w.text)).map flushLeft := by
  have hreturn : ∀ row ∈ rows ++ [w.pending], IsRow row := by
    rw [List.forall_mem_append]
    exact ⟨h.whole, by simp [h.isRow_pending]⟩
  have hflush (row : List Char) (hrow : IsRow row) : IsRow (flushLeft row) :=
    ⟨fun hm => hrow.1 (Text.flushLeft_subset row hm), fun hm => hrow.2 (Text.flushLeft_subset row hm)⟩
  have hoff : unifyLineEnds w.text = Text.join ['\n'] (rows ++ [w.pending]) := by
    rw [Writer.text_eq, h.output.1]
    exact unifyLineEnds_rows _ (fun row hrow => (h.whole row hrow).2) h.isRow_pending.2
  have hon : unifyLineEnds v.text = Text.join ['\n'] ((rows ++ [w.pending]).map flushLeft) := by
    rw [Writer.text_eq, h.output.2, h.pending, List.map_append, List.map_singleton]
    refine unifyLineEnds_rows _ (fun row hrow => ?_) (hflush _ h.isRow_pending).2
    obtain ⟨before, hmem, rfl⟩ := List.mem_map.mp hrow
    exact (hflush before (h.whole before hmem)).2
  rw [lines_normalize_rows config hoff fun row hrow => (hreturn row hrow).1,
    lines_normalize_rows config' hon, Text.trimLines_map_flushLeft]
  intro row hrow
  obtain ⟨before, hmem, rfl⟩ := List.mem_map.mp hrow
  exact (hflush before (hreturn before hmem)).1

end Flushed
end CodeScribe
