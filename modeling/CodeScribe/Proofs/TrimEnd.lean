import CodeScribe.Proofs.Directives.Lines
import CodeScribe.Proofs.Tail.Glue

/-! Blanks dropped at the end of what is written. A writer shows its pending line as it would be completed,
but drops blanks from the line as it is, and from the finished output only when nothing of the line stays. -/
namespace CodeScribe

private theorem Text.ne_nil_of_seen {cs : List Char} (h : allBlank cs = false) : cs ≠ [] := by
  rintro rfl
  exact Bool.noConfusion h

private theorem Text.trimEnd_ne_nil {cs : List Char} (h : allBlank cs = false) : trimEnd cs ≠ [] := by
  intro hnil
  rw [← isEmpty_trimEnd, hnil] at h
  exact Bool.noConfusion h

namespace Classifier

/-- A classifier that judges a line alike with and without the blanks at its end. -/
def Trims (classify : Classifier) : Prop :=
  ∀ line, (classify (Text.trimEnd line)).kind = (classify line).kind ∧
    (classify (Text.trimEnd line)).content? (Text.trimEnd line) =
      ((classify line).content? line).map Text.trimEnd

private theorem trims_indentAll : Trims indentAll := by
  intro line
  rw [content?_indentAll, content?_indentAll]
  exact ⟨rfl, rfl⟩

private theorem trims_preprocessorLines : Trims preprocessorLines := by
  intro line
  have hkind (cs : List Char) :
      (preprocessorLines cs).kind = if Text.isDirective cs then .flush else .indented := by
    simp only [preprocessorLines, Text.isDirective, beq_iff_eq]
    split <;> rfl
  have hcontent (cs : List Char) : (preprocessorLines cs).content? cs = some (Text.flushLeft cs) := by
    simp only [content?_preprocessorLines, Text.flushLeft, Text.isDirective, beq_iff_eq]
  rw [hkind, hkind, hcontent, hcontent, Text.isDirective_trimEnd, Text.flushLeft_trimEnd]
  exact ⟨rfl, rfl⟩

end Classifier

namespace Writer
variable {w : Writer}

/-- A line without the blanks at its end is shown without them. -/
theorem format_trimEnd (h : w.classify.Trims) (line : List Char) :
    w.format (Text.trimEnd line) = Text.trimEnd (w.format line) := by
  obtain ⟨hkind, hcontent⟩ := h line
  rw [format, format, format?, format?, hkind, hcontent]
  cases (w.classify line).content? line with
  | none => rfl
  | some text =>
    simp only [Option.map_some, Option.getD_some, Text.isEmpty_trimEnd]
    cases hblank : Text.allBlank text with
    | true =>
      have hindented : Text.trimEnd (w.indentation ++ text) = [] := by
        rw [Text.trimEnd_append, if_pos hblank, Text.trimEnd_of_allBlank w.allBlank_indentation]
      rw [if_pos rfl]
      split
      · rfl
      · split
        · exact hindented.symm
        · exact (Text.trimEnd_of_allBlank hblank).symm
    | false =>
      have hseen : ¬ text.isEmpty = true := by simpa using Text.ne_nil_of_seen hblank
      rw [if_neg Bool.false_ne_true, if_neg hseen]
      split
      · rw [Text.trimEnd_append, hblank, if_neg Bool.false_ne_true]
      · rfl

private theorem trimEnd_of_blank (h : Text.allBlank w.line = true) :
    w.trimEnd = { w with line := [], output := Text.trimEnd w.output } :=
  if_pos ((Text.isEmpty_trimEnd w.line).trans h)

private theorem trimEnd_of_seen (h : Text.allBlank w.line = false) :
    w.trimEnd = { w with line := Text.trimEnd w.line } :=
  if_neg (by rw [Text.isEmpty_trimEnd, h]; exact Bool.false_ne_true)

/-- Trimming drops the blanks at the end of what is shown. -/
theorem text_trimEnd (hfaithful : w.classify.Faithful) (htrims : w.classify.Trims) :
    w.trimEnd.text = Text.trimEnd w.text := by
  have hpending : Text.allBlank w.pending = Text.allBlank w.line :=
    Text.allBlank_congr (visible_pending hfaithful)
  rw [text_eq w, Text.trimEnd_append, hpending]
  cases hblank : Text.allBlank w.line with
  | true =>
    rw [trimEnd_of_blank hblank, if_pos rfl]
    exact List.append_nil _
  | false =>
    have hline : ¬ w.line.isEmpty = true := by simpa using Text.ne_nil_of_seen hblank
    have htrimmed : ¬ (Text.trimEnd w.line).isEmpty = true := by simpa using Text.trimEnd_ne_nil hblank
    rw [trimEnd_of_seen hblank, if_neg Bool.false_ne_true, pending, if_neg hline, ← format_trimEnd htrims]
    exact congrArg (w.output ++ ·) (if_neg htrimmed)

/-- What stays of a text when its end is trimmed ends in the middle of a line. -/
theorem isLineOpen_trimEnd (h : w.trimEnd.text ≠ []) : w.trimEnd.isLineOpen = true := by
  cases hblank : Text.allBlank w.line with
  | true =>
    rw [trimEnd_of_blank hblank] at h ⊢
    have hshown : Text.trimEnd w.output ≠ [] := by
      intro hnil
      exact h (by rw [text, hnil]; rfl)
    have hend : Text.endsIn '\n' (Text.trimEnd w.output) = false := by
      rw [Bool.eq_false_iff]
      intro hfeed
      exact absurd (Text.isBlank_of_endsIn_trimEnd hfeed) (by decide)
    simp [isLineOpen, atLineStart, hshown, hend]
  | false =>
    rw [trimEnd_of_seen hblank]
    exact isLineOpen_of_line (Text.trimEnd_ne_nil hblank)

/-- Trimming the end of a writer trims what it shows, across the pending line and the finished output. If
something stays, text without a line feed goes on right behind it, and no indentation comes in between. -/
theorem trimEnd_shown :
    (∀ w : Writer, w.classify = Classifier.indentAll ∨ w.classify = Classifier.preprocessorLines →
      w.trimEnd.text = Text.trimEnd w.text) ∧
    ∀ (w : Writer) (cs : List Char), w.classify = Classifier.indentAll → Text.trimEnd w.text ≠ [] →
      '\n' ∉ cs → (w.trimEnd.append cs).text = Text.trimEnd w.text ++ cs := by
  have htext (w : Writer)
      (h : w.classify = Classifier.indentAll ∨ w.classify = Classifier.preprocessorLines) :
      w.trimEnd.text = Text.trimEnd w.text := by
    rcases h with h | h
    · exact text_trimEnd (by rw [h]; exact Classifier.faithful_indentAll)
        (by rw [h]; exact Classifier.trims_indentAll)
    · exact text_trimEnd (by rw [h]; exact Classifier.faithful_preprocessorLines)
        (by rw [h]; exact Classifier.trims_preprocessorLines)
  refine ⟨htext, fun w cs h hstays hfeed => ?_⟩
  have hshown := htext w (.inl h)
  have hopen : w.trimEnd.isLineOpen = true := isLineOpen_trimEnd (by rwa [hshown])
  have hclassify : w.trimEnd.classify = Classifier.indentAll := by rw [classify_trimEnd, h]
  have happend : w.trimEnd.append cs = w.trimEnd.follow (Plan.text cs) := Writes.text cs w.trimEnd rfl
  rw [happend, text_append_of_open hclassify hopen hfeed, hshown]

end Writer

/-- A writer with blanks at the end of its output and in its pending line, two levels deep. -/
def blankWriter : Writer where
  config := { newline := .crlf }
  output := "if (x)\r\n    y \t\r\n\u00a0\n".toList
  line := " \u3000\t".toList
  depth := 2

theorem trimEnd_shown_blankWriter :
    (blankWriter.classify = Classifier.indentAll ∨ blankWriter.classify = Classifier.preprocessorLines) ∧
      blankWriter.trimEnd.text = "if (x)\r\n    y".toList ∧ Text.trimEnd blankWriter.text ≠ [] ∧
      '\n' ∉ "; // z".toList ∧
      (blankWriter.trimEnd.append "; // z".toList).text = "if (x)\r\n    y; // z".toList := by
  have hclassify : blankWriter.classify = Classifier.indentAll := rfl
  have htrim : Text.trimEnd blankWriter.text = "if (x)\r\n    y".toList := by decide +kernel
  have hstays : Text.trimEnd blankWriter.text ≠ [] := by rw [htrim]; decide
  have hfeed : '\n' ∉ "; // z".toList := by decide
  have hshown := Writer.trimEnd_shown.1 blankWriter (.inl hclassify)
  have hmore := Writer.trimEnd_shown.2 blankWriter "; // z".toList hclassify hstays hfeed
  rw [htrim] at hshown hmore
  exact ⟨.inl hclassify, hshown, hstays, hfeed, hmore⟩

end CodeScribe
