import CodeScribe.Proofs.Depth.Node
import CodeScribe.Proofs.Ink.Flat
import CodeScribe.Proofs.InputEnds.Texts

/-! Runs over texts with either kind of line end. The writers agree throughout, except that verbatim text
keeps its carriage returns in the output, where they merge with the line feeds behind them. -/
namespace CodeScribe
open Tape (spell ofText)

private theorem Text.endsIn_append_eq_false {c : Char} {xs ys : List Char} (hx : endsIn c xs = false)
    (hy : endsIn c ys = false) : endsIn c (xs ++ ys) = false := by
  cases ys with
  | nil => rwa [List.append_nil]
  | cons d ys => rwa [endsIn_append (by simp)]

private theorem unifyLineEnds_behind {xs : List Char} (h : Text.endsIn '\r' xs = false) (ys : List Char) :
    unifyLineEnds (xs ++ ys) = unifyLineEnds xs ++ unifyLineEnds ys :=
  unifyLineEnds_append fun hend => absurd hend (by simp [h])

/-- Whether the texts that a move writes as they stand, pending ones included, hold no carriage return. -/
def Stroke.Unreturned (s : Stroke) (w : Writer) : Prop :=
  ∀ text, s = .raw text → '\r' ∉ w.line ∧ '\r' ∉ text

/-- No move leaves a carriage return at the end of what it prints, raw text apart. -/
theorem Stroke.return_not_endsIn_marks (newline : Newline) {s : Stroke} {w : Writer}
    (h : s.Unreturned w) : Text.endsIn '\r' (spell newline (s.marks w)) = false := by
  have hbreak (t : Tape) : Text.endsIn '\r' (spell newline (t ++ [.terminator])) = false := by
    rw [Tape.spell_append, Text.endsIn_append] <;>
      cases newline <;> simp [Mark.spell, Newline.text, Text.endsIn]
  cases s with
  | put c =>
    by_cases hc : c = '\n'
    · rw [marks, if_pos hc]
      exact hbreak _
    · rw [marks, if_neg hc]
      rfl
  | flush => exact hbreak _
  | raw text =>
    obtain ⟨hline, htext⟩ := h text rfl
    have hpending := Writer.not_mem_pending (by decide : '\r' ≠ ' ') (by decide) hline
    rw [marks, Tape.spell_ofText]
    exact Text.endsIn_of_not_mem (by simp [hpending, htext])
  | breakLine => exact hbreak []
  | endLine =>
    rw [marks]
    split
    · split
      · rfl
      · exact hbreak []
    · exact hbreak _
  | enter => rfl
  | leave => rfl

/-- Two writers that differ at most in carriage returns that stand in front of line feeds in the output. -/
structure Recast (w v : Writer) : Prop where
  twins : Twins w v
  config : v.config = w.config
  output : unifyLineEnds v.output = unifyLineEnds w.output
  ended : Text.endsIn '\r' w.output = false ∧ Text.endsIn '\r' v.output = false

namespace Recast
variable {w v : Writer}

theorem refl (h : Text.endsIn '\r' w.output = false) : Recast w w :=
  ⟨⟨rfl, rfl, rfl, rfl, rfl⟩, rfl, rfl, h, h⟩

/-- What is printed alike on both sides changes nothing. -/
theorem apply (h : Recast w v) {s : Stroke} (hs : s.Unreturned w) : Recast (s.apply w) (s.apply v) where
  twins := h.twins.apply s
  config := by rw [s.config_apply, s.config_apply, h.config]
  output := by
    rw [s.output_apply, s.output_apply, h.config, ← h.twins.marks s,
      unifyLineEnds_behind h.ended.2, unifyLineEnds_behind h.ended.1, h.output]
  ended := by
    have hmarks := Stroke.return_not_endsIn_marks w.config.newline hs
    rw [s.output_apply, s.output_apply, h.config, ← h.twins.marks s]
    exact ⟨Text.endsIn_append_eq_false h.ended.1 hmarks, Text.endsIn_append_eq_false h.ended.2 hmarks⟩

private theorem follow {p : Plan} (hp : p.reflows = true) (h : Recast w v) :
    Recast (w.follow p) (v.follow p) := by
  induction p generalizing w v with
  | nil => exact h
  | cons s p ih =>
    have hsplit : s.isRaw = false ∧ Plan.reflows p = true := by simpa using hp
    have hs : s.Unreturned w := by
      rintro text rfl
      exact absurd hsplit.1 (by simp [Stroke.isRaw])
    exact ih hsplit.2 (h.apply hs)

theorem text (h : Recast w v) : unifyLineEnds v.text = unifyLineEnds w.text := by
  rw [Writer.text_eq, Writer.text_eq, ← h.twins.pending, unifyLineEnds_behind h.ended.2,
    unifyLineEnds_behind h.ended.1, h.output]

/-- Verbatim text with either kind of line end. -/
theorem appendRaw (h : Recast w v) (hline : '\r' ∉ w.line) {text : List Char} (htext : '\r' ∉ text) :
    Recast (w.appendRaw text) (v.appendRaw (terminateWith .crlf text)) := by
  have hpending : Text.endsIn '\r' w.pending = false :=
    Text.endsIn_of_not_mem (Writer.not_mem_pending (by decide) (by decide) hline)
  have hw : Text.endsIn '\r' w.text = false := Text.endsIn_append_eq_false h.ended.1 hpending
  have hv : Text.endsIn '\r' v.text = false := by
    rw [Writer.text_eq, ← h.twins.pending]
    exact Text.endsIn_append_eq_false h.ended.2 hpending
  have hend := Text.endsIn_of_not_mem htext
  have hstart : (w.appendRaw text).atLineStart =
      (v.appendRaw (terminateWith .crlf text)).atLineStart := by
    -- an empty text leaves the last character of the output where it was
    by_cases hne : text = []
    · rw [hne]
      exact (h.twins.apply (.raw [])).lineStart
    · have hne' : terminateWith .crlf text ≠ [] := by rwa [ne_eq, terminateWith_eq_nil_iff]
      have hsome (xs : List Char) {ys : List Char} (h : ys ≠ []) : (xs ++ ys).isEmpty = false := by
        simp [h]
      simp only [Writer.atLineStart, Writer.output_appendRaw, Text.endsIn_append hne,
        Text.endsIn_append hne', endsIn_terminateWith, hsome _ hne, hsome _ hne']
  refine ⟨⟨by simp, by simp [h.twins.depth], by simp [h.twins.classify], by simp [h.twins.indent],
    hstart⟩, by simp [h.config], ?_, ?_⟩
  · rw [Writer.output_appendRaw, Writer.output_appendRaw, unifyLineEnds_behind hv,
      unifyLineEnds_behind hw, unifyLineEnds_terminateWith .crlf htext, unifyLineEnds_of_not_mem htext,
      h.text]
  · rw [Writer.output_appendRaw, Writer.output_appendRaw]
    exact ⟨Text.endsIn_append_eq_false hw hend,
      Text.endsIn_append_eq_false hv (by rwa [endsIn_terminateWith])⟩

end Recast

/-- Plans that take writers which differ in such carriage returns only to such writers. -/
def Recasts (p q : Plan) : Prop :=
  ∀ w v, Recast w v → '\r' ∉ w.line → Recast (w.follow p) (v.follow q) ∧ '\r' ∉ (w.follow p).line

/-- Indented text is laid out alike with either kind of line end. -/
theorem Writer.follow_text_terminateWith {cs : List Char} (hcs : '\r' ∉ cs) {w : Writer}
    (hline : '\r' ∉ w.line) :
    w.follow (Plan.text (terminateWith .crlf cs)) = w.follow (Plan.text cs) := by
  induction cs generalizing w with
  | nil => rfl
  | cons c cs ih =>
    rw [List.mem_cons, not_or] at hcs
    by_cases hc : c = '\n'
    · have hpair : (w.put '\r').put '\n' = w.put '\n' := by
        rw [put_of_ne w (by decide), put_newline, put_newline, Text.chop_concat,
          Text.chop_of_not_mem hline]
      have hrest := ih hcs.2 (w := w.put '\n') (by simp [put_newline])
      rw [hc, terminateWith_feed]
      change ((w.put '\r').put '\n').follow (Plan.text (terminateWith .crlf cs)) = _
      rw [hpair, hrest]
      rfl
    · have hrest := ih hcs.2 (w := w.put c) (by simp [put_of_ne w hc, hline, hcs.1])
      rw [terminateWith_cons_of_ne .crlf hc]
      exact hrest

private theorem Writer.line_follow_line (cs : List Char) (w : Writer) :
    (w.follow (Plan.line cs)).line = [] := by
  unfold Plan.line
  split
  · next h =>
    obtain ⟨front, rfl⟩ := Text.endsIn_iff.mp h
    rw [Plan.text, List.map_append, follow_append]
    rfl
  · rw [follow_append]
    rfl

namespace Recasts
variable {p q p' q' : Plan}

theorem nil : Recasts [] [] := fun _ _ h hline => ⟨h, hline⟩

theorem append (hp : Recasts p q) (hq : Recasts p' q') : Recasts (p ++ p') (q ++ q') := by
  intro w v h hline
  obtain ⟨h', hline'⟩ := hp w v h hline
  rw [Writer.follow_append, Writer.follow_append]
  exact hq _ _ h' hline'

theorem ite (b : Bool) (hp : Recasts p q) (hq : Recasts p' q') :
    Recasts (if b then p else p') (if b then q else q') := by
  cases b
  · exact hq
  · exact hp

/-- A plan without carriage returns serves for both. -/
theorem same (h : '\r' ∉ p.ink) : Recasts p p := by
  induction p with
  | nil => exact nil
  | cons s p ih =>
    have hsplit : '\r' ∉ s.ink ∧ '\r' ∉ Plan.ink p := by simpa [Plan.ink] using h
    intro w v hwv hline
    have hs : s.Unreturned w := by
      rintro text rfl
      exact ⟨hline, hsplit.1⟩
    exact ih hsplit.2 _ _ (hwv.apply hs) (s.return_not_mem_apply hline hsplit.1).1

theorem text {cs : List Char} (h : '\r' ∉ cs) :
    Recasts (Plan.text cs) (Plan.text (terminateWith .crlf cs)) := by
  intro w v hwv hline
  rw [Writer.follow_text_terminateWith h (hwv.twins.line ▸ hline)]
  exact same (by simpa using h) w v hwv hline

theorem raw {cs : List Char} (h : '\r' ∉ cs) :
    Recasts [.raw cs] [.raw (terminateWith .crlf cs)] := fun _ _ hwv hline =>
  ⟨hwv.appendRaw hline h, by simp [Stroke.apply]⟩

theorem line {cs : List Char} (h : '\r' ∉ cs) :
    Recasts (Plan.line cs) (Plan.line (terminateWith .crlf cs)) := by
  unfold Plan.line
  rw [endsIn_terminateWith]
  split
  · exact text h
  · exact (text h).append (same (by simp [Plan.ink, Stroke.ink]))

theorem rawLine {cs : List Char} (h : '\r' ∉ cs) :
    Recasts (Plan.rawLine cs) (Plan.rawLine (terminateWith .crlf cs)) := by
  unfold Plan.rawLine
  rw [endsIn_terminateWith]
  split
  · exact raw h
  · exact (raw h).append (same (by simp [Plan.ink, Stroke.ink]))

/-- A complete line, whatever carriage returns it has. -/
theorem fixedLine (cs : List Char) : Recasts (Plan.line cs) (Plan.line cs) := by
  intro w v hwv _
  exact ⟨hwv.follow (Plan.reflows_line cs), by rw [Writer.line_follow_line]; simp⟩

theorem fixedLines (texts : List (List Char)) :
    Recasts (Plan.lines false texts) (Plan.lines false texts) := by
  induction texts with
  | nil => exact nil
  | cons cs rest ih =>
    cases rest with
    | nil => exact fixedLine cs
    | cons next rest => exact (fixedLine cs).append ih

theorem lines {texts : List (List Char)} (h : ∀ cs ∈ texts, '\r' ∉ cs) (tail : Bool) :
    Recasts (Plan.lines tail texts) (Plan.lines tail (texts.map (terminateWith .crlf))) := by
  induction texts with
  | nil => exact nil
  | cons cs rest ih =>
    have hcs := h cs List.mem_cons_self
    cases rest with
    | nil => exact ite tail (text hcs) (line hcs)
    | cons next rest => exact (line hcs).append (ih fun cs hm => h cs (List.mem_cons_of_mem _ hm))

theorem close {cs : List Char} (h : '\r' ∉ cs) (tail : Bool) :
    Recasts (Plan.close tail cs) (Plan.close tail (terminateWith .crlf cs)) :=
  ite tail (text h) (line h)

theorem scope (hp : Recasts p q) : Recasts (Plan.scope p) (Plan.scope q) := by
  have henter : Recasts [.enter] [.enter] := same (by simp [Plan.ink, Stroke.ink])
  have hleave : Recasts [.leave] [.leave] := same (by simp [Plan.ink, Stroke.ink])
  exact henter.append (hp.append hleave)

theorem braced (tail : Bool) (hp : Recasts p q) :
    Recasts (Plan.braced tail p) (Plan.braced tail q) :=
  ((line (by decide)).append hp.scope).append (close (by decide) tail)

end Recasts

end CodeScribe
