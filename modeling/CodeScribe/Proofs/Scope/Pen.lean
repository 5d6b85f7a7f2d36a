import CodeScribe.Proofs.Classifier
import CodeScribe.Proofs.Plan.Follow

/-! Open lines, read off a plan. A writer has at most the line open that its plan says, and exactly that
one when its classifier hides no line. -/
namespace CodeScribe

/-- How a line is open: with text pending, or midway in the output. -/
structure Pen where
  pending : Bool
  midway : Bool
  deriving DecidableEq, Repr

namespace Pen

def fresh : Pen := ⟨false, false⟩

def isOpen (pen : Pen) : Bool := pen.pending || pen.midway

/-- At most as open. -/
structure Within (pen bound : Pen) : Prop where
  pending : pen.pending = true → bound.pending = true
  midway : pen.midway = true → bound.midway = true

private theorem Within.isOpen {pen bound : Pen} (h : pen.Within bound) (ho : pen.isOpen = true) :
    bound.isOpen = true := by
  rw [Pen.isOpen, Bool.or_eq_true] at ho ⊢
  exact ho.imp h.pending h.midway

end Pen

def Stroke.move : Stroke → Pen → Pen
  | .put c, pen => if c = '\n' then .fresh else { pen with pending := true }
  | .flush, _ => .fresh
  | .raw text, pen => ⟨false, if text.isEmpty then pen.isOpen else !Text.endsIn '\n' text⟩
  | .breakLine, pen => { pen with midway := false }
  | .endLine, _ => .fresh
  | .enter, pen => pen
  | .leave, pen => pen

def Pen.follow (pen : Pen) (p : Plan) : Pen := p.foldl (fun q s => s.move q) pen

/-- Whether no line is open when a scope is left. -/
def Plan.closes : Plan → Pen → Bool
  | [], _ => true
  | s :: p, pen => (s != .leave || !pen.isOpen) && Plan.closes p (s.move pen)

namespace Pen

@[simp] theorem follow_nil (pen : Pen) : pen.follow [] = pen := rfl

@[simp] theorem follow_cons (pen : Pen) (s : Stroke) (p : Plan) :
    pen.follow (s :: p) = (s.move pen).follow p := rfl

theorem follow_append (pen : Pen) (p q : Plan) :
    pen.follow (p ++ q) = (pen.follow p).follow q := List.foldl_append ..

end Pen

theorem Plan.closes_append (p q : Plan) (pen : Pen) :
    Plan.closes (p ++ q) pen = (Plan.closes p pen && Plan.closes q (pen.follow p)) := by
  induction p generalizing pen with
  | nil => rfl
  | cons s p ih =>
    rw [List.cons_append, closes, closes, ih, Pen.follow_cons, Bool.and_assoc]

theorem Plan.closes_of_no_leave {p : Plan} (h : .leave ∉ p) (pen : Pen) : Plan.closes p pen = true := by
  induction p generalizing pen with
  | nil => rfl
  | cons s p ih =>
    have hs : s ≠ .leave := by rintro rfl; simp at h
    rw [closes, ih fun hm => h (List.mem_cons_of_mem s hm)]
    simp [hs]

namespace Writer
variable {w : Writer}

def pen (w : Writer) : Pen := ⟨!w.line.isEmpty, !w.atLineStart⟩

private theorem isLineOpen_eq (w : Writer) : w.isLineOpen = w.pen.isOpen := rfl

private theorem pen_flushLine (w : Writer) : w.flushLine.pen = .fresh := by
  rw [pen, line_flushLine, atLineStart_flushLine]
  rfl

private theorem pen_endLine (w : Writer) : w.endLine.pen = .fresh := by
  rcases w.endLine_cases with ⟨_, he⟩ | ⟨hl, ha, he⟩ | ⟨hl, _, he⟩
  · rw [he, pen_flushLine]
  · rw [he, pen, hl, ha]
    rfl
  · rw [he, pen, atLineStart_breakLine, breakLine, hl]
    rfl

private theorem pen_put (w : Writer) (c : Char) : (w.put c).pen = Stroke.move (.put c) w.pen := by
  by_cases hc : c = '\n'
  · rw [Stroke.move, if_pos hc, hc, put_newline, pen_flushLine]
  · rw [Stroke.move, if_neg hc, put_of_ne w hc]
    simp [pen, atLineStart]

/-- Raw text decides by its own end whether the output is midway, unless it is empty. -/
theorem pen_appendRaw {text : List Char} (h : text ≠ []) (w : Writer) :
    (w.appendRaw text).pen = Stroke.move (.raw text) w.pen := by
  have hempty : text.isEmpty = false := by simpa using h
  simp [pen, atLineStart, Stroke.move, Text.endsIn_append h, h]

private theorem pen_appendRaw_nil (w : Writer) :
    (w.appendRaw []).pen =
      ⟨false, !(w.text.isEmpty || Text.endsIn '\n' w.text)⟩ := by
  simp [pen, atLineStart]

theorem format_ne_nil (hshows : w.classify.Shows) {line : List Char} (h : line ≠ []) :
    w.format line ≠ [] := by
  cases hs : (w.classify line).content? line with
  | none => simpa only [format, format?, hs, Option.map_none, Option.getD_none] using h
  | some text =>
    have htext : text ≠ [] := by
      rintro rfl
      exact hshows line h hs
    simp only [format, format?, hs, Option.map_some, Option.getD_some]
    rw [if_neg (by simpa using htext)]
    split
    · exact List.append_ne_nil_of_right_ne_nil _ htext
    · exact htext

/-- A pending line that is shown stays on its line when the output is continued. -/
theorem midway_text (hshows : w.classify.Shows) (hline : '\n' ∉ w.line) (hopen : w.line ≠ []) :
    (w.text.isEmpty || Text.endsIn '\n' w.text) = false := by
  have hne := format_ne_nil hshows hopen
  have hend : Text.endsIn '\n' (w.format w.line) = false :=
    Text.endsIn_of_not_mem (not_mem_format (by decide) (by decide) hline)
  rw [text_eq, pending, if_neg (by simpa using hopen), Text.endsIn_append hne, hend]
  simp [hne]

end Writer

namespace Stroke

private theorem within_move (s : Stroke) {pen bound : Pen} (h : pen.Within bound) :
    (s.move pen).Within (s.move bound) := by
  cases s with
  | put c =>
    rw [move, move]
    split
    · exact ⟨id, id⟩
    · exact ⟨id, h.midway⟩
  | flush => exact ⟨id, id⟩
  | raw text =>
    rw [move, move]
    split
    · exact ⟨id, h.isOpen⟩
    · exact ⟨id, id⟩
  | breakLine => exact ⟨h.pending, id⟩
  | endLine => exact ⟨id, id⟩
  | enter => exact h
  | leave => exact h

/-- Whatever the classifier is, a move opens the line no further than it says. -/
theorem pen_apply_within (s : Stroke) (w : Writer) : (s.apply w).pen.Within (s.move w.pen) := by
  cases s with
  | put c => exact w.pen_put c ▸ ⟨id, id⟩
  | flush => exact w.pen_flushLine ▸ ⟨id, id⟩
  | raw text =>
    by_cases ht : text = []
    · subst ht
      rw [apply, Writer.pen_appendRaw_nil]
      refine ⟨id, fun hmid => ?_⟩
      by_cases hl : w.line = []
      · have htext : w.text = w.output := by simp [Writer.text_eq, Writer.pending, hl]
        rw [htext] at hmid
        simp only [move, List.isEmpty_nil, if_true, Pen.isOpen, Bool.or_eq_true]
        exact .inr hmid
      · simp [move, Pen.isOpen, Writer.pen, hl]
    · exact Writer.pen_appendRaw ht w ▸ ⟨id, id⟩
  | breakLine =>
    rw [apply, Writer.pen, Writer.atLineStart_breakLine]
    exact ⟨id, id⟩
  | endLine => exact w.pen_endLine ▸ ⟨id, id⟩
  | enter => exact ⟨id, id⟩
  | leave => exact ⟨id, id⟩

/-- A move opens the line exactly as far as it says when no line is hidden. -/
theorem pen_apply (s : Stroke) {w : Writer} (hshows : w.classify.Shows) (hline : '\n' ∉ w.line) :
    (s.apply w).pen = s.move w.pen := by
  cases s with
  | put c => exact w.pen_put c
  | flush => exact w.pen_flushLine
  | raw text =>
    by_cases ht : text = []
    · subst ht
      rw [apply, Writer.pen_appendRaw_nil]
      by_cases hl : w.line = []
      · simp [move, Pen.isOpen, Writer.pen, hl, Writer.text_eq, Writer.pending, Writer.atLineStart]
      · rw [Writer.midway_text hshows hline hl]
        simp [move, Pen.isOpen, Writer.pen, hl]
    · exact Writer.pen_appendRaw ht w
  | breakLine =>
    rw [apply, Writer.pen, Writer.atLineStart_breakLine]
    rfl
  | endLine => exact w.pen_endLine
  | enter => rfl
  | leave => rfl

theorem newline_not_mem_line (s : Stroke) {w : Writer} (h : '\n' ∉ w.line) :
    '\n' ∉ (s.apply w).line := by
  cases s with
  | put c =>
    by_cases hc : c = '\n'
    · simp [apply, hc, Writer.put_newline]
    · simp [apply, Writer.put_of_ne w hc, h, Ne.symm hc]
  | flush => simp [apply]
  | raw text => simp [apply]
  | breakLine => exact h
  | endLine =>
    rcases w.endLine_cases with ⟨_, he⟩ | ⟨_, _, he⟩ | ⟨_, _, he⟩
    · simp [apply, he]
    · simpa [apply, he] using h
    · simpa [apply, he, Writer.breakLine] using h
  | enter => exact h
  | leave => exact h

end Stroke

namespace Writer
variable {w : Writer}

private theorem pen_follow_within (p : Plan) {pen : Pen} (h : w.pen.Within pen) :
    (w.follow p).pen.Within (pen.follow p) := by
  induction p generalizing w pen with
  | nil => exact h
  | cons s p ih =>
    have hs := s.pen_apply_within w
    have hm := s.within_move h
    exact ih ⟨fun hp => hm.pending (hs.pending hp), fun hm' => hm.midway (hs.midway hm')⟩

/-- Whenever a run leaves a scope, no line is open. -/
def Closes (w : Writer) (p : Plan) : Prop :=
  ∀ before after, p = before ++ .leave :: after → (w.follow before).isLineOpen = false

theorem closes_of_plan {p : Plan} {pen : Pen} (h : w.pen.Within pen)
    (hp : Plan.closes p pen = true) : w.Closes p := by
  rintro before after rfl
  rw [Plan.closes_append, Plan.closes, Bool.and_eq_true, Bool.and_eq_true] at hp
  have hclosed : (pen.follow before).isOpen = false := by simpa using hp.2.1
  rw [isLineOpen_eq, Bool.eq_false_iff]
  intro ho
  rw [(pen_follow_within before h).isOpen ho] at hclosed
  exact Bool.noConfusion hclosed

theorem plan_closes {p : Plan} (hshows : w.classify.Shows) (hline : '\n' ∉ w.line)
    (h : w.Closes p) : Plan.closes p w.pen = true := by
  induction p generalizing w with
  | nil => rfl
  | cons s p ih =>
    have hrest : (s.apply w).Closes p := by
      rintro before after rfl
      exact h (s :: before) after rfl
    have hp := ih (by rwa [s.classify_apply]) (s.newline_not_mem_line hline) hrest
    rw [Plan.closes, ← s.pen_apply hshows hline, hp, Bool.and_true]
    by_cases hs : s = .leave
    · subst hs
      have hopen := h [] p rfl
      rw [follow_nil, isLineOpen_eq] at hopen
      simp [hopen]
    · simp [hs]

end Writer
end CodeScribe
