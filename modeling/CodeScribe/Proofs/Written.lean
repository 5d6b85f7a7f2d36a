import CodeScribe.Proofs.Classifier
import CodeScribe.Proofs.Plan.Follow

/-! What a document writes before its finished form. The supplied classifiers never fail, so a
document fails only when it declares a second namespace at its top. -/
namespace CodeScribe

namespace Writer
variable {w : Writer}

theorem format_indentAll (h : w.classify = Classifier.indentAll) (line : List Char) :
    w.format line =
      if line.isEmpty then [] else (if w.atLineStart then w.indentation else []) ++ line := by
  have hkind : (Classifier.indentAll line).kind = .indented := rfl
  rw [format, format?, h, Classifier.content?_indentAll]
  cases w.atLineStart <;> simp [hkind]

private theorem isSome_format? (h : w.classify.Faithful) (line : List Char) :
    (w.format? line).isSome = true := by
  obtain ⟨text, hs, _⟩ := h line
  simp [format?, hs]

private theorem note_eq (h : w.classify.Faithful) (line : List Char) : w.note line = w :=
  if_pos (isSome_format? h line)

private theorem fault_flushLine (h : w.classify.Faithful) : w.flushLine.fault = w.fault := by
  simp [flushLine, note_eq h, breakLine]

private theorem fault_appendRaw (h : w.classify.Faithful) (cs : List Char) :
    (w.appendRaw cs).fault = w.fault := by
  unfold appendRaw settle
  split
  · rfl
  · rw [note_eq h]

private theorem fault_endLine (h : w.classify.Faithful) : w.endLine.fault = w.fault := by
  rcases w.endLine_cases with ⟨_, he⟩ | ⟨_, _, he⟩ | ⟨_, _, he⟩ <;> rw [he]
  · exact fault_flushLine h
  · rfl

private theorem fault_put (h : w.classify.Faithful) (c : Char) : (w.put c).fault = w.fault := by
  unfold put
  split
  · exact fault_flushLine (w := { w with line := Text.chop '\r' w.line }) h
  · rfl

end Writer

private theorem Stroke.fault_apply (s : Stroke) {w : Writer} (h : w.classify.Faithful) :
    (s.apply w).fault = w.fault := by
  cases s with
  | put c => exact Writer.fault_put h c
  | flush => exact Writer.fault_flushLine h
  | raw text => exact Writer.fault_appendRaw h text
  | breakLine => rfl
  | endLine => exact Writer.fault_endLine h
  | enter => rfl
  | leave => rfl

theorem Writer.fault_follow (p : Plan) {w : Writer} (h : w.classify.Faithful) :
    (w.follow p).fault = w.fault := by
  induction p generalizing w with
  | nil => rfl
  | cons s p ih =>
    have hs : (s.apply w).classify.Faithful := by rwa [s.classify_apply]
    rw [follow_cons, ih hs, s.fault_apply h]

namespace Document

/-- What both supplied classifiers are, the classifier of a document is. -/
theorem classify_writer {P : Classifier → Prop} (hall : P Classifier.indentAll)
    (hlines : P Classifier.preprocessorLines) (d : Document) : P d.writer.classify := by
  unfold writer
  cases d.config.flushDirectives
  · exact hall
  · exact hlines

theorem faithful_writer (d : Document) : d.writer.classify.Faithful :=
  d.classify_writer Classifier.faithful_indentAll Classifier.faithful_preprocessorLines

theorem shows_writer (d : Document) : d.writer.classify.Shows :=
  d.classify_writer Classifier.shows_indentAll Classifier.shows_preprocessorLines

/-- What the document writes, before its line ends are unified and its end is trimmed. -/
def written (d : Document) : List Char := (d.writer.follow d.plan).text

private theorem finish_eq (d : Document) :
    (d.writeEntries (d.writePreamble d.writer)).finish = .ok d.written := by
  rw [d.follow_plan, Writer.finish, Writer.fault_follow d.plan d.faithful_writer]
  rfl

/-- A document inside a namespace that declares another one at its top. -/
def Doubled (d : Document) : Prop := d.enclosing.isSome ∧ d.nestedNamespace?.isSome

theorem render_of_not_doubled {d : Document} (h : ¬ d.Doubled) :
    d.render = .ok (String.ofList (normalize d.config d.written)) := by
  have hf := d.finish_eq
  unfold render
  cases he : d.enclosing <;> cases hn : d.nestedNamespace?
  · simp [hf]
  · simp [hf]
  · simp [hf]
  · exact absurd ⟨by simp [he], by simp [hn]⟩ h

theorem render_of_nested {d : Document} {current name : String} (he : d.enclosing = some current)
    (hn : d.nestedNamespace? = some name) :
    d.render = .error (.nestedNamespace name current) := by
  simp [render, he, hn]

theorem not_doubled_of_render {d : Document} {text : String} (h : d.render = .ok text) :
    ¬ d.Doubled := by
  intro hd
  obtain ⟨current, he⟩ := Option.isSome_iff_exists.mp hd.1
  obtain ⟨name, hn⟩ := Option.isSome_iff_exists.mp hd.2
  rw [render_of_nested he hn] at h
  cases h

end Document
end CodeScribe
