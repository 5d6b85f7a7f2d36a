import CodeScribe.Proofs.Written

/-! The visible characters of a run: every move adds those of its own text, in order. -/
namespace CodeScribe
open Text (visible)

namespace Writer
variable {w : Writer}

private theorem visible_indentation (w : Writer) : visible w.indentation = [] := by
  simp only [visible, List.filter_eq_nil_iff]
  intro c hc
  rcases w.mem_indentation hc with rfl | rfl <;> decide

theorem allBlank_indentation (w : Writer) : Text.allBlank w.indentation = true :=
  Text.allBlank_iff.mpr w.visible_indentation

/-- A line is written with blanks added in front or dropped there, and otherwise as it is. -/
theorem visible_format (h : w.classify.Faithful) (line : List Char) :
    visible (w.format line) = visible line := by
  obtain ⟨text, hs, hv⟩ := h line
  simp only [format, format?, hs, Option.map_some, Option.getD_some, ← hv]
  split
  · next he => simp [List.isEmpty_iff.mp he]
  · split
    · rw [Text.visible_append, visible_indentation, List.nil_append]
    · rfl

theorem visible_shown (h : w.classify.Faithful) : visible w.shown = visible w.line := by
  rw [← visible_format h w.line, shown]
  split
  · next hb => rw [Text.allBlank_iff.mp hb, Text.visible_nil]
  · rfl

theorem visible_pending (h : w.classify.Faithful) : visible w.pending = visible w.line := by
  unfold pending
  split
  · next he => rw [List.isEmpty_iff.mp he]
  · exact visible_format h w.line

/-- The visible characters written so far, in order. -/
def ink (w : Writer) : List Char := visible (w.output ++ w.line)

theorem visible_text (h : w.classify.Faithful) : visible w.text = w.ink := by
  rw [text_eq, ink, Text.visible_append, Text.visible_append, visible_pending h]

private theorem visible_newline (newline : Newline) : visible newline.text = [] := by
  cases newline <;> rfl

private theorem ink_flushLine (h : w.classify.Faithful) : w.flushLine.ink = w.ink := by
  simp [ink, visible_shown h, visible_newline]

private theorem ink_breakLine (w : Writer) : w.breakLine.ink = w.ink := by
  simp [ink, breakLine, visible_newline]

private theorem ink_endLine (h : w.classify.Faithful) : w.endLine.ink = w.ink := by
  rcases w.endLine_cases with ⟨_, he⟩ | ⟨_, _, he⟩ | ⟨_, _, he⟩ <;> rw [he]
  · exact ink_flushLine h
  · exact w.ink_breakLine

private theorem ink_appendRaw (h : w.classify.Faithful) (cs : List Char) :
    (w.appendRaw cs).ink = w.ink ++ visible cs := by
  rw [← visible_text h]
  simp [ink]

private theorem ink_put (h : w.classify.Faithful) (c : Char) : (w.put c).ink = w.ink ++ visible [c] := by
  by_cases hc : c = '\n'
  · subst hc
    have hchop : Character.isBlank '\r' = true := rfl
    have hbreak : visible ['\n'] = [] := rfl
    have hcut : ({ w with line := Text.chop '\r' w.line } : Writer).classify.Faithful := h
    rw [put_newline, ink_flushLine hcut, hbreak]
    simp [ink, Text.visible_chop hchop]
  · simp [put_of_ne w hc, ink]

end Writer

def Stroke.ink : Stroke → List Char
  | .put c => [c]
  | .raw text => text
  | _ => []

def Plan.ink (p : Plan) : List Char := p.flatMap Stroke.ink

/-- One move adds the visible characters of its own text and no others. -/
theorem Stroke.ink_apply (s : Stroke) {w : Writer} (h : w.classify.Faithful) :
    (s.apply w).ink = w.ink ++ visible s.ink := by
  cases s with
  | put c => exact Writer.ink_put h c
  | flush => simpa [apply, ink] using Writer.ink_flushLine h
  | raw text => exact Writer.ink_appendRaw h text
  | breakLine => simpa [apply, ink] using w.ink_breakLine
  | endLine => simpa [apply, ink] using Writer.ink_endLine h
  | enter => simp [apply, ink, Writer.ink, Writer.deepen]
  | leave => simp [apply, ink, Writer.ink, Writer.undeepen]

/-- A whole run adds the visible characters of its plan. -/
theorem Writer.ink_follow (p : Plan) {w : Writer} (h : w.classify.Faithful) :
    (w.follow p).ink = w.ink ++ visible p.ink := by
  induction p generalizing w with
  | nil => simp [Plan.ink]
  | cons s p ih =>
    have hs : (s.apply w).classify.Faithful := by rwa [s.classify_apply]
    rw [Writer.follow_cons, ih hs, s.ink_apply h]
    simp [Plan.ink]

end CodeScribe
