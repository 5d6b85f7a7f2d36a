import CodeScribe.Proofs.Blanks.Sound
import CodeScribe.Proofs.Run.Writer
import CodeScribe.Proofs.Scope.Pen

/-! Text as it is taken: the lines that it completes, one by one, whatever pieces it comes in. -/
namespace CodeScribe

namespace Writer

/-- The part of a line that its classifier selects, indented if it starts a line of the output. A line
that its classifier gets wrong is kept as it is. -/
def written (w : Writer) (atStart : Bool) (line : List Char) : List Char :=
  let verdict := w.classify line
  match verdict.content? line with
  | none => line
  | some content =>
    if content ≠ [] ∧ verdict.kind = .indented ∧ atStart then
      (List.replicate w.depth w.config.indent.unit).flatten ++ content
    else content

/-- A completed line in the output, with its terminator. -/
def row (w : Writer) (atStart : Bool) (line : List Char) : List Char :=
  let text := w.written atStart line
  (if Text.allBlank text then [] else text) ++ w.config.newline.text

/-- Completed lines in the output. Behind the first one, each starts a line there. -/
def rows (w : Writer) : List (List Char) → List Char
  | [] => []
  | line :: rest => w.row w.atLineStart line ++ rest.flatMap (w.row true)

/-- What the classifier gets wrong about a line. -/
def fault? (w : Writer) (line : List Char) : Option LineFault :=
  let verdict := w.classify line
  match verdict.content? line with
  | none => some ⟨line, verdict.start, verdict.stop⟩
  | some _ => none

/-- The writer behind a text, line by line. Each completed line loses a carriage return at its end, and
what follows the last line feed stays pending. -/
def taken (w : Writer) (text : List Char) : Writer :=
  let completed := (Text.ended (w.line ++ text)).map (Text.chop '\r')
  { w with
    output := w.output ++ w.rows completed
    line := Text.stub (w.line ++ text)
    fault := w.fault <|> completed.findSome? w.fault? }

variable {w : Writer}

private theorem format_eq_written (line : List Char) : w.format line = w.written w.atLineStart line := by
  unfold format format? written
  cases hcontent : (w.classify line).content? line with
  | none => simp only [hcontent, Option.map_none, Option.getD_none]
  | some content =>
    simp only [hcontent, Option.map_some, Option.getD_some, indentation]
    cases content with
    | nil => rfl
    | cons c content => simp

theorem note_fault (line : List Char) : w.note line = { w with fault := w.fault <|> w.fault? line } := by
  unfold note format? fault?
  cases hcontent : (w.classify line).content? line with
  | none => simp [hcontent]
  | some content => simp [hcontent]

/-- A line feed writes the row of the pending line. -/
theorem put_newline_eq (w : Writer) : w.put '\n' =
    { w with
      output := w.output ++ w.row w.atLineStart (Text.chop '\r' w.line)
      line := []
      fault := w.fault <|> w.fault? (Text.chop '\r' w.line) } := by
  rw [row, ← format_eq_written, ← List.append_assoc, put_newline, flushLine, note_fault]
  rfl

private theorem taken_nil (h : '\n' ∉ w.line) : w.taken [] = w := by
  obtain ⟨hrows, hstub⟩ : Text.ended w.line = [] ∧ Text.stub w.line = w.line := Text.ended_append [] h
  rw [taken, List.append_nil, hrows, hstub]
  simp [rows]

private theorem rows_of_lineStart (h : w.atLineStart = true) (lines : List (List Char)) :
    w.rows lines = lines.flatMap (w.row true) := by
  cases lines with
  | nil => rfl
  | cons line rest => rw [rows, h, List.flatMap_cons]

/-- A character that ends no line joins the pending one. -/
private theorem taken_put_of_ne {c : Char} (hc : c ≠ '\n') (cs : List Char) :
    (w.put c).taken cs = w.taken (c :: cs) := by
  rw [put_of_ne w hc, taken, taken, List.append_assoc, List.singleton_append]
  rfl

/-- A line feed completes the pending line, and the next one starts a line of the output. -/
private theorem taken_put_newline (h : '\n' ∉ w.line) (cs : List Char) :
    (w.put '\n').taken cs = w.taken ('\n' :: cs) := by
  obtain ⟨hrows, hstub⟩ : Text.ended w.line = [] ∧ Text.stub w.line = w.line := Text.ended_append [] h
  obtain ⟨hfeed, hrest⟩ := Text.ended_feed w.line cs
  have hstart : (w.put '\n').atLineStart = true := atLineStart_flushLine _
  have hbehind : (w.put '\n').taken cs =
      { w with
        output := w.output ++ w.row w.atLineStart (Text.chop '\r' w.line)
          ++ ((Text.ended cs).map (Text.chop '\r')).flatMap (w.row true)
        line := Text.stub cs
        fault := (w.fault <|> w.fault? (Text.chop '\r' w.line))
          <|> ((Text.ended cs).map (Text.chop '\r')).findSome? w.fault? } := by
    rw [taken, rows_of_lineStart hstart, put_newline_eq]
    rfl
  have hfault (lines : List (List Char)) :
      ((w.fault <|> w.fault? (Text.chop '\r' w.line)) <|> lines.findSome? w.fault?) =
        (w.fault <|> (Text.chop '\r' w.line :: lines).findSome? w.fault?) := by
    rw [List.findSome?_cons]
    cases w.fault <;> cases w.fault? (Text.chop '\r' w.line) <;> rfl
  rw [hbehind, hfault, List.append_assoc, taken, hfeed, hrest, hrows, hstub]
  rfl

/-- Taking a text character by character takes it line by line. -/
theorem append_eq_taken (h : '\n' ∉ w.line) (cs : List Char) : w.append cs = w.taken cs := by
  induction cs generalizing w with
  | nil => rw [taken_nil h]; rfl
  | cons c cs ih =>
    by_cases hc : c = '\n'
    · subst hc
      rw [← taken_put_newline h, ← ih (by simp [put_newline])]
      rfl
    · rw [← taken_put_of_ne hc, ← ih (by simp [put_of_ne w hc, h, Ne.symm hc])]
      rfl

private theorem newline_not_mem_line_follow (p : Plan) (h : '\n' ∉ w.line) : '\n' ∉ (w.follow p).line := by
  induction p generalizing w with
  | nil => exact h
  | cons s p ih => exact ih (s.newline_not_mem_line h)

/-- No step leaves a line feed pending. -/
theorem ties_newline_not_mem_line :
    machine.Ties Machine.still (fun _ => True) fun w _ => '\n' ∉ w.line where
  step {s w _} hs _ h := by
    change '\n' ∉ (s.run w).writer.line
    rcases s.writer_run_cases hs w with ⟨-, he⟩ | ⟨classify, -, he⟩ | he
    · rw [he, line_trimEnd]
      exact fun hm => h ((Text.trimEnd_isPrefix _).subset hm)
    · rw [he]
      exact h
    · rw [he]
      exact newline_not_mem_line_follow _ h
  deepen _ h := h
  undeepen _ _ h := h
  override _ h := h
  restore _ _ h := h

/-- No run leaves a line feed pending, and then text is taken line by line, however it is cut. -/
theorem foldl_append_eq_taken :
    (∀ (config : Config) (steps : List Step),
      '\n' ∉ (Step.session steps (new config)).1.line ∧
        ∀ w aborted, Observation.state w aborted ∈ (Step.session steps (new config)).2 →
          '\n' ∉ w.line) ∧
      ∀ (w : Writer) (texts : List (List Char)), '\n' ∉ w.line →
        texts.foldl append w = w.taken texts.flatten := by
  refine ⟨fun config steps => ?_, fun w texts h => ?_⟩
  · exact Step.session_invariant ties_newline_not_mem_line (fun _ _ => trivial) List.not_mem_nil
  · have hflat : texts.foldl append w = w.append texts.flatten := by
      rw [append, List.foldl_flatten]
      rfl
    rw [hflat, append_eq_taken h]

end Writer

/-- A writer midway in a line of its output, with a carriage return pending and a classifier that fails. -/
def cutWriter : Writer where
  config := { newline := .crlf }
  output := ['x']
  line := [' ', 'a', '\r']
  depth := 1
  classify := fun line => if line.head? = some 'b' then ⟨.indented, 0, 9⟩ else Classifier.indentAll line

/-- Cuts in front of line feeds, one of them behind the carriage return of its line. -/
theorem foldl_append_cutWriter :
    '\n' ∉ cutWriter.line ∧
      [['\n', 'b', '\r'], ['\n', ' '], ['\n', 'c', '\n', '\r', 'd']].foldl Writer.append cutWriter =
        { cutWriter with
          output := "x a\r\nb\r\n\r\n    c\r\n".toList
          line := ['\r', 'd']
          fault := some ⟨['b'], 0, 9⟩ } := by
  have hline : '\n' ∉ cutWriter.line := by decide
  refine ⟨hline, (Writer.foldl_append_eq_taken.2 _ _ hline).trans ?_⟩
  rfl

end CodeScribe
