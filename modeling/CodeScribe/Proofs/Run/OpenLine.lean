import CodeScribe.Proofs.Run.Ink
import CodeScribe.Proofs.Run.Lines

/-! The test for an open line. A line is open by what is pending or by the end of the output, and the test
sees both: under the supplied classifiers it tells at every point of a run whether the text ends in the middle
of a line. -/
namespace CodeScribe

namespace Writer
variable {w : Writer}

/-- A line feed at the end of a text completes its last line. -/
theorem isLineOpen_appendLine (w : Writer) (cs : List Char) : (w.appendLine cs).isLineOpen = false := by
  unfold appendLine
  split
  · next hend =>
    obtain ⟨front, rfl⟩ := Text.endsIn_iff.mp hend
    rw [append, List.foldl_append, List.foldl_cons, List.foldl_nil, put_newline]
    exact isLineOpen_flushLine _
  · exact (w.append cs).isLineOpen_flushLine

private theorem isLineOpen_appendRawLine (w : Writer) (cs : List Char) :
    (w.appendRawLine cs).isLineOpen = false := by
  unfold appendRawLine
  split
  · next hend =>
    have hne : cs ≠ [] := by
      rintro rfl
      exact Bool.noConfusion hend
    rw [isLineOpen_eq_false_iff, line_appendRaw, atLineStart, output_appendRaw, Text.endsIn_append hne, hend,
      Bool.or_true]
    exact ⟨rfl, rfl⟩
  · exact isLineOpen_breakLine _ (w.line_appendRaw cs)

/-- Ending a line changes nothing exactly when there is none to end. -/
theorem endLine_eq_self_iff : w.endLine = w ↔ w.isLineOpen = false := by
  constructor
  · intro h
    rw [← h]
    exact w.isLineOpen_endLine
  · intro h
    obtain ⟨hline, hstart⟩ := isLineOpen_eq_false_iff.mp h
    rw [endLine, hline, hstart]
    rfl

/-- A line is open exactly when the text ends in the middle of one. -/
theorem isLineOpen_iff_text (hshows : w.classify.Shows) (hline : '\n' ∉ w.line) :
    w.isLineOpen = true ↔ w.text ≠ [] ∧ w.text.getLast? ≠ some '\n' := by
  have hmidway : (w.text.isEmpty || Text.endsIn '\n' w.text) = false ↔
      w.text ≠ [] ∧ w.text.getLast? ≠ some '\n' := by
    simp [Text.endsIn]
  rw [← hmidway]
  by_cases hl : w.line = []
  · have htext : w.text = w.output := by rw [text, hl]; exact List.append_nil _
    rw [htext]
    simp [isLineOpen, hl, atLineStart]
  · simp [midway_text hshows hline hl, isLineOpen, hl]

/-- The test for an open line agrees with the text that shows, the moves that are to end a line leave none open,
and ending a line does nothing, to the writer or to the text, exactly when none is. -/
structure TellsOpen (w : Writer) : Prop where
  pending : '\n' ∉ w.line
  isOpen : w.isLineOpen = true ↔ w.text ≠ [] ∧ w.text.getLast? ≠ some '\n'
  appendLine : ∀ cs, (w.appendLine cs).isLineOpen = false
  appendRawLine : ∀ cs, (w.appendRawLine cs).isLineOpen = false
  endLine : w.endLine.isLineOpen = false
  blankLine : w.blankLine.isLineOpen = false
  endLine_eq : w.endLine = w ↔ w.isLineOpen = false
  text_endLine : w.endLine.text = w.text ↔ w.isLineOpen = false

private theorem tellsOpen (hshows : w.classify.Shows) (hline : '\n' ∉ w.line) : w.TellsOpen where
  pending := hline
  isOpen := isLineOpen_iff_text hshows hline
  appendLine := w.isLineOpen_appendLine
  appendRawLine := w.isLineOpen_appendRawLine
  endLine := w.isLineOpen_endLine
  blankLine := w.isLineOpen_blankLine
  endLine_eq := endLine_eq_self_iff
  text_endLine := by
    have hended := isLineOpen_iff_text (w := w.endLine) (by rwa [classify_endLine])
      (by rw [line_endLine]; exact List.not_mem_nil)
    constructor
    · intro h
      -- the text decides whether a line is open, and behind the end of a line none is
      rw [h, ← isLineOpen_iff_text hshows hline, isLineOpen_endLine] at hended
      exact Bool.eq_false_iff.mpr (hended.not.mp Bool.false_ne_true)
    · intro h
      rw [endLine_eq_self_iff.mpr h]

/-- No step leaves a line feed pending, or a classifier that hides lines. -/
theorem ties_shows :
    machine.Ties Machine.still Step.Supplied fun w _ => w.classify.Shows ∧ '\n' ∉ w.line where
  step {s w _} hs hsupplied h := by
    refine ⟨?_, ties_newline_not_mem_line.step (b := ()) hs trivial h.2⟩
    change (s.run w).writer.classify.Shows
    rcases s.writer_run_cases hs w with ⟨-, he⟩ | ⟨classify, rfl, he⟩ | he
    · rw [he, classify_trimEnd]
      exact h.1
    · rw [he]
      exact Classifier.shows_of_supplied hsupplied
    · rw [he, classify_follow]
      exact h.1
  deepen _ h := h
  undeepen _ _ h := h
  override hsupplied h := ⟨Classifier.shows_of_supplied hsupplied, h.2⟩
  restore _ hentered h := ⟨hentered.1, h.2⟩

end Writer

/-- Under the supplied classifiers, at every point of a run the test for an open line tells the truth: no line
feed is pending, and a line is open exactly when the text is not empty and does not end in a line feed. Lines
that are written or ended are not open, and ending one does nothing exactly when none is. -/
theorem Step.session_tellsOpen (config : Config) {steps : List Step}
    (h : ∀ s ∈ allParts steps, s.Supplied) :
    let run := session steps (Writer.new config)
    run.1.TellsOpen ∧ ∀ w aborted, Observation.state w aborted ∈ run.2 → w.TellsOpen := by
  obtain ⟨hlast, hseen⟩ := session_invariant (w := Writer.new config) Writer.ties_shows h
    ⟨Classifier.shows_indentAll, List.not_mem_nil⟩
  refine ⟨Writer.tellsOpen hlast.1 hlast.2, fun w aborted hw => ?_⟩
  obtain ⟨hshows, hline⟩ := hseen w aborted hw
  exact Writer.tellsOpen hshows hline

/-- A run in which trimming leaves a line open that is not pending, and an abort one that is. -/
def openRun : List Step := [
  .append "a \n\t", .trimEnd,
  .indented 2 [.classified Classifier.preprocessorLines [.append "\n #b", .abort, .endLine]],
  .endLine]

theorem session_tellsOpen_openRun :
    (∀ s ∈ Step.allParts openRun, s.Supplied) ∧
      Observation.state { Writer.new {} with output := ['a'] } false ∈
        (Step.session openRun (Writer.new {})).2 ∧
      ({ Writer.new {} with output := ['a'] } : Writer).TellsOpen ∧
      Observation.state { Writer.new {} with output := "a\n".toList, line := " #b".toList } true ∈
        (Step.session openRun (Writer.new {})).2 ∧
      ({ Writer.new {} with output := "a\n".toList, line := " #b".toList } : Writer).TellsOpen ∧
      (Step.session openRun (Writer.new {})).1.TellsOpen := by
  have hsupplied : ∀ s ∈ Step.allParts openRun, s.Supplied := by
    simp [openRun, Step.allParts, Step.parts, Step.Supplied]
  obtain ⟨hlast, hseen⟩ := Step.session_tellsOpen {} hsupplied
  have htrimmed : Observation.state { Writer.new {} with output := ['a'] } false ∈
      (Step.session openRun (Writer.new {})).2 := List.mem_of_getElem? (i := 1) rfl
  have haborted : Observation.state { Writer.new {} with output := "a\n".toList, line := " #b".toList } true ∈
      (Step.session openRun (Writer.new {})).2 := List.mem_of_getElem? (i := 5) rfl
  exact ⟨hsupplied, htrimmed, hseen _ _ htrimmed, haborted, hseen _ _ haborted, hlast⟩

end CodeScribe
