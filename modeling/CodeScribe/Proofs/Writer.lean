import CodeScribe.Writer.Basic
import CodeScribe.Proofs.Text

/-! The moves of a writer, field by field: what each one writes, and what it leaves alone. -/
namespace CodeScribe.Writer
variable (w : Writer)

/-- The pending line as it is completed, without its terminator. -/
def shown : List Char := if Text.allBlank (w.format w.line) then [] else w.format w.line

/-- The pending line as it would be completed now, or nothing. -/
def pending : List Char := if w.line.isEmpty then [] else w.format w.line

theorem text_eq : w.text = w.output ++ w.pending := rfl

@[simp] theorem config_note (line : List Char) : (w.note line).config = w.config := by
  unfold note; split <;> rfl

@[simp] theorem output_note (line : List Char) : (w.note line).output = w.output := by
  unfold note; split <;> rfl

@[simp] theorem depth_note (line : List Char) : (w.note line).depth = w.depth := by
  unfold note; split <;> rfl

@[simp] theorem classify_note (line : List Char) : (w.note line).classify = w.classify := by
  unfold note; split <;> rfl

@[simp] theorem config_flushLine : w.flushLine.config = w.config := by
  simp [flushLine, breakLine]

@[simp] theorem output_flushLine :
    w.flushLine.output = w.output ++ w.shown ++ w.config.newline.text := by
  simp [flushLine, breakLine, shown]

@[simp] theorem line_flushLine : w.flushLine.line = [] := rfl

@[simp] theorem depth_flushLine : w.flushLine.depth = w.depth := by
  simp [flushLine, breakLine]

@[simp] theorem classify_flushLine : w.flushLine.classify = w.classify := by
  simp [flushLine, breakLine]

theorem put_newline : w.put '\n' = { w with line := Text.chop '\r' w.line }.flushLine := rfl

theorem put_of_ne {c : Char} (h : c ≠ '\n') : w.put c = { w with line := w.line ++ [c] } :=
  if_neg h

/-- Ending a line completes the pending text, breaks a line left open by raw text, or does nothing. -/
theorem endLine_cases :
    (w.line ≠ [] ∧ w.endLine = w.flushLine) ∨
    (w.line = [] ∧ w.atLineStart = true ∧ w.endLine = w) ∨
    (w.line = [] ∧ w.atLineStart = false ∧ w.endLine = w.breakLine) := by
  unfold endLine
  cases hl : w.line with
  | cons c rest => left; simp
  | nil =>
    right
    cases ha : w.atLineStart
    · right; simp
    · left; simp

@[simp] theorem config_put (c : Char) : (w.put c).config = w.config := by
  unfold put; split <;> simp

@[simp] theorem depth_put (c : Char) : (w.put c).depth = w.depth := by
  unfold put; split <;> simp

@[simp] theorem classify_put (c : Char) : (w.put c).classify = w.classify := by
  unfold put; split <;> simp

@[simp] theorem config_endLine : w.endLine.config = w.config := by
  rcases w.endLine_cases with ⟨_, h⟩ | ⟨_, _, h⟩ | ⟨_, _, h⟩ <;> simp [h, breakLine]

@[simp] theorem depth_endLine : w.endLine.depth = w.depth := by
  rcases w.endLine_cases with ⟨_, h⟩ | ⟨_, _, h⟩ | ⟨_, _, h⟩ <;> simp [h, breakLine]

@[simp] theorem classify_endLine : w.endLine.classify = w.classify := by
  rcases w.endLine_cases with ⟨_, h⟩ | ⟨_, _, h⟩ | ⟨_, _, h⟩ <;> simp [h, breakLine]

@[simp] theorem config_appendRaw (cs : List Char) : (w.appendRaw cs).config = w.config := by
  unfold appendRaw settle
  split <;> simp

@[simp] theorem output_appendRaw (cs : List Char) : (w.appendRaw cs).output = w.text ++ cs := by
  unfold appendRaw settle text
  split <;> simp_all

@[simp] theorem line_appendRaw (cs : List Char) : (w.appendRaw cs).line = [] := by
  unfold appendRaw settle
  split <;> simp_all

@[simp] theorem depth_appendRaw (cs : List Char) : (w.appendRaw cs).depth = w.depth := by
  unfold appendRaw settle
  split <;> simp

@[simp] theorem classify_appendRaw (cs : List Char) : (w.appendRaw cs).classify = w.classify := by
  unfold appendRaw settle
  split <;> simp

theorem line_trimEnd : w.trimEnd.line = Text.trimEnd w.line := by
  simp only [trimEnd]
  split
  · next h => exact (List.isEmpty_iff.mp h).symm
  · rfl

theorem output_trimEnd :
    w.trimEnd.output = if Text.trimEnd w.line = [] then Text.trimEnd w.output else w.output := by
  simp only [trimEnd, List.isEmpty_iff]
  split <;> rfl

@[simp] theorem config_trimEnd : w.trimEnd.config = w.config := by
  simp only [trimEnd]
  split <;> rfl

@[simp] theorem depth_trimEnd : w.trimEnd.depth = w.depth := by
  simp only [trimEnd]
  split <;> rfl

@[simp] theorem classify_trimEnd : w.trimEnd.classify = w.classify := by
  simp only [trimEnd]
  split <;> rfl

@[simp] theorem fault_trimEnd : w.trimEnd.fault = w.fault := by
  simp only [trimEnd]
  split <;> rfl

theorem atLineStart_breakLine : w.breakLine.atLineStart = true := by
  have hend : Text.endsIn '\n' (w.output ++ w.config.newline.text) = true := by
    rw [Text.endsIn_append] <;> cases w.config.newline <;> simp [Newline.text, Text.endsIn]
  simp [atLineStart, breakLine, hend]

theorem atLineStart_flushLine : w.flushLine.atLineStart = true := atLineStart_breakLine _

theorem isLineOpen_eq_false_iff {w : Writer} : w.isLineOpen = false ↔ w.line = [] ∧ w.atLineStart = true := by
  simp [isLineOpen]

theorem isLineOpen_flushLine : w.flushLine.isLineOpen = false :=
  isLineOpen_eq_false_iff.mpr ⟨w.line_flushLine, w.atLineStart_flushLine⟩

theorem isLineOpen_breakLine (h : w.line = []) : w.breakLine.isLineOpen = false :=
  isLineOpen_eq_false_iff.mpr ⟨h, w.atLineStart_breakLine⟩

theorem line_endLine : w.endLine.line = [] := by
  rcases w.endLine_cases with ⟨-, he⟩ | ⟨hline, -, he⟩ | ⟨hline, -, he⟩ <;> rw [he]
  · exact w.line_flushLine
  · exact hline
  · exact hline

theorem isLineOpen_endLine : w.endLine.isLineOpen = false := by
  rcases w.endLine_cases with ⟨-, he⟩ | ⟨hline, hstart, he⟩ | ⟨hline, -, he⟩ <;> rw [he]
  · exact w.isLineOpen_flushLine
  · exact isLineOpen_eq_false_iff.mpr ⟨hline, hstart⟩
  · exact w.isLineOpen_breakLine hline

theorem isLineOpen_blankLine : w.blankLine.isLineOpen = false :=
  w.endLine.isLineOpen_breakLine w.line_endLine

section
variable {w}

theorem mem_indentation {c : Char} (h : c ∈ w.indentation) : c = ' ' ∨ c = '\t' := by
  simp only [indentation, List.mem_flatten, List.mem_replicate] at h
  obtain ⟨unit, ⟨_, rfl⟩, hc⟩ := h
  cases hu : w.config.indent with
  | spaces width =>
    rw [hu, Indent.unit] at hc
    exact .inl (List.eq_of_mem_replicate hc)
  | tab =>
    rw [hu, Indent.unit] at hc
    exact .inr (List.mem_singleton.mp hc)

/-- A line is written with characters of its own and of the indentation only. -/
theorem mem_format {c : Char} {line : List Char} (h : c ∈ w.format line) :
    c ∈ line ∨ c ∈ w.indentation := by
  cases hs : (w.classify line).content? line with
  | none =>
    simp only [format, format?, hs, Option.map_none, Option.getD_none] at h
    exact .inl h
  | some text =>
    have hsub : text ⊆ line := Text.slice?_subset hs
    simp only [format, format?, hs, Option.map_some, Option.getD_some] at h
    split at h
    · simp at h
    · split at h
      · rcases List.mem_append.mp h with hi | ht
        · exact .inr hi
        · exact .inl (hsub ht)
      · exact .inl (hsub h)

theorem not_mem_format {c : Char} (hspace : c ≠ ' ') (htab : c ≠ '\t') {line : List Char}
    (h : c ∉ line) : c ∉ w.format line := by
  intro hm
  rcases mem_format hm with hl | hi
  · exact h hl
  · rcases mem_indentation hi with hc | hc
    · exact hspace hc
    · exact htab hc

theorem not_mem_shown {c : Char} (hspace : c ≠ ' ') (htab : c ≠ '\t') (h : c ∉ w.line) :
    c ∉ w.shown := by
  unfold shown
  split
  · simp
  · exact not_mem_format hspace htab h

theorem not_mem_pending {c : Char} (hspace : c ≠ ' ') (htab : c ≠ '\t') (h : c ∉ w.line) :
    c ∉ w.pending := by
  unfold pending
  split
  · simp
  · exact not_mem_format hspace htab h

end

end CodeScribe.Writer
