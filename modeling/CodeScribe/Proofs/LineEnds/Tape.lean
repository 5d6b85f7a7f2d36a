import CodeScribe.Proofs.Written

/-! What a run prints, with its line terminators told apart from the characters of texts. Two runs of
one plan whose settings differ in the line terminator alone print the same tape. -/
namespace CodeScribe

/-- One item of output: a character of a text or of the indentation, or a line terminator. -/
inductive Mark where
  | ink (c : Char)
  | terminator
  deriving DecidableEq, Repr

def Mark.spell (newline : Newline) : Mark → List Char
  | .ink c => [c]
  | .terminator => newline.text

abbrev Tape := List Mark

namespace Tape

def ofText (cs : List Char) : Tape := cs.map .ink

def spell (newline : Newline) (t : Tape) : List Char := t.flatMap (Mark.spell newline)

@[simp] theorem spell_nil (newline : Newline) : spell newline [] = [] := rfl

@[simp] theorem spell_cons (newline : Newline) (m : Mark) (t : Tape) :
    spell newline (m :: t) = m.spell newline ++ spell newline t := rfl

@[simp] theorem spell_append (newline : Newline) (t u : Tape) :
    spell newline (t ++ u) = spell newline t ++ spell newline u := List.flatMap_append

@[simp] theorem spell_ofText (newline : Newline) (cs : List Char) :
    spell newline (ofText cs) = cs := by
  simp [spell, ofText, List.flatMap_map, Mark.spell]

private theorem spell_eq_nil_iff (newline : Newline) (t : Tape) : spell newline t = [] ↔ t = [] := by
  cases t with
  | nil => simp
  | cons m t => cases m <;> cases newline <;> simp [Mark.spell, Newline.text]

/-- Whether a tape ends a line does not depend on the line terminator. -/
theorem endsIn_spell (newline : Newline) (t : Tape) :
    Text.endsIn '\n' (spell newline t) = Text.endsIn '\n' (spell .lf t) := by
  rcases t.eq_nil_or_concat with rfl | ⟨front, m, rfl⟩
  · rfl
  · have hone (nl : Newline) : Text.endsIn '\n' (spell nl (front ++ [m])) =
        Text.endsIn '\n' (m.spell nl) := by
      have hne : m.spell nl ≠ [] := by
        have h := spell_eq_nil_iff nl [m]
        simpa using h
      rw [spell_append, Text.endsIn_append] <;> simp [hne]
    rw [List.concat_eq_append, hone, hone]
    cases m with
    | ink c => rfl
    | terminator => cases newline <;> rfl

end Tape
open Tape (ofText spell)

/-- What a move prints. Text that stays pending is not printed yet. -/
def Stroke.marks : Stroke → Writer → Tape
  | .put c, w =>
    if c = '\n' then ofText { w with line := Text.chop '\r' w.line : Writer }.shown ++ [.terminator]
    else []
  | .flush, w => ofText w.shown ++ [.terminator]
  | .raw text, w => ofText (w.pending ++ text)
  | .breakLine, _ => [.terminator]
  | .endLine, w =>
    if w.line.isEmpty then (if w.atLineStart then [] else [.terminator])
    else ofText w.shown ++ [.terminator]
  | .enter, _ => []
  | .leave, _ => []

/-- What a run prints from here on, the line left pending at its end included. -/
def Writer.tape (w : Writer) : Plan → Tape
  | [] => ofText w.pending
  | s :: p => s.marks w ++ (s.apply w).tape p

theorem Stroke.output_apply (s : Stroke) (w : Writer) :
    (s.apply w).output = w.output ++ spell w.config.newline (s.marks w) := by
  cases s with
  | put c =>
    by_cases hc : c = '\n'
    · simp [apply, marks, hc, Writer.put_newline, Mark.spell]
    · simp [apply, marks, hc, Writer.put_of_ne]
  | flush => simp [apply, marks, Mark.spell]
  | raw text => simp [apply, marks, Writer.text_eq]
  | breakLine => simp [apply, marks, Writer.breakLine, Mark.spell]
  | endLine =>
    rcases w.endLine_cases with ⟨hl, he⟩ | ⟨hl, ha, he⟩ | ⟨hl, ha, he⟩
    · simp [apply, marks, hl, he, Mark.spell]
    · simp [apply, marks, hl, ha, he]
    · simp [apply, marks, hl, ha, he, Writer.breakLine, Mark.spell]
  | enter => simp [apply, marks, Writer.deepen]
  | leave => simp [apply, marks, Writer.undeepen]

theorem Writer.text_follow (p : Plan) (w : Writer) :
    (w.follow p).text = w.output ++ spell w.config.newline (w.tape p) := by
  induction p generalizing w with
  | nil => simp [tape, text_eq]
  | cons s p ih =>
    rw [follow_cons, ih, s.output_apply, s.config_apply, tape, Tape.spell_append, List.append_assoc]

/-- Two writers that differ at most in their line terminator and in the terminators printed so far. -/
structure Twins (w v : Writer) : Prop where
  line : w.line = v.line
  depth : w.depth = v.depth
  classify : w.classify = v.classify
  indent : w.config.indent = v.config.indent
  lineStart : w.atLineStart = v.atLineStart

namespace Twins
variable {w v : Writer}

private theorem format (h : Twins w v) (line : List Char) : w.format line = v.format line := by
  simp only [Writer.format, Writer.format?, Writer.indentation, h.classify, h.lineStart, h.depth,
    h.indent]

theorem pending (h : Twins w v) : w.pending = v.pending := by
  rw [Writer.pending, Writer.pending, h.line, h.format]

private theorem shown (h : Twins w v) : w.shown = v.shown := by
  rw [Writer.shown, Writer.shown, h.line, h.format]

private theorem withLine (h : Twins w v) (line : List Char) :
    Twins { w with line := line } { v with line := line } :=
  ⟨rfl, h.depth, h.classify, h.indent, h.lineStart⟩

theorem marks (h : Twins w v) (s : Stroke) : s.marks w = s.marks v := by
  cases s with
  | put c =>
    have hcut := (h.withLine (Text.chop '\r' w.line)).shown
    simp only [Stroke.marks, hcut, ← h.line]
  | flush => simp only [Stroke.marks, h.shown]
  | raw text => simp only [Stroke.marks, h.pending]
  | breakLine => rfl
  | endLine => simp only [Stroke.marks, h.line, h.lineStart, h.shown]
  | enter => rfl
  | leave => rfl

end Twins

private theorem Stroke.atLineStart_apply (s : Stroke) (w : Writer) :
    (s.apply w).atLineStart =
      if s.marks w = [] then w.atLineStart else Text.endsIn '\n' (spell .lf (s.marks w)) := by
  rw [Writer.atLineStart, s.output_apply]
  split
  · next hm => simp [hm, Writer.atLineStart]
  · next hm =>
    have hne : spell w.config.newline (s.marks w) ≠ [] := by rwa [ne_eq, Tape.spell_eq_nil_iff]
    have hempty : (w.output ++ spell w.config.newline (s.marks w)).isEmpty = false := by
      rw [List.isEmpty_eq_false_iff]
      exact List.append_ne_nil_of_right_ne_nil _ hne
    rw [hempty, Bool.false_or, Text.endsIn_append hne, Tape.endsIn_spell]

namespace Twins
variable {w v : Writer}

/-- Every move keeps twins twins. -/
theorem apply (h : Twins w v) (s : Stroke) : Twins (s.apply w) (s.apply v) where
  line := by
    cases s with
    | put c =>
      by_cases hc : c = '\n'
      · simp [Stroke.apply, hc, Writer.put_newline]
      · simp [Stroke.apply, Writer.put_of_ne _ hc, h.line]
    | flush => rfl
    | raw text => simp [Stroke.apply]
    | breakLine => exact h.line
    | endLine =>
      simp only [Stroke.apply, Writer.endLine, h.line, h.lineStart]
      split
      · rfl
      · split
        · exact h.line
        · exact h.line
    | enter => exact h.line
    | leave => exact h.line
  depth := by
    cases s <;> simp [Stroke.apply, Writer.breakLine, Writer.deepen, Writer.undeepen, h.depth]
  classify := by rw [s.classify_apply, s.classify_apply, h.classify]
  indent := by rw [s.config_apply, s.config_apply, h.indent]
  lineStart := by rw [s.atLineStart_apply, s.atLineStart_apply, h.marks s, h.lineStart]

theorem tape (h : Twins w v) (p : Plan) : w.tape p = v.tape p := by
  induction p generalizing w v with
  | nil => rw [Writer.tape, Writer.tape, h.pending]
  | cons s p ih => rw [Writer.tape, Writer.tape, h.marks s, ih (h.apply s)]

end Twins
end CodeScribe
