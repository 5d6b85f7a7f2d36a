import CodeScribe.Proofs.Ink.Basic
import CodeScribe.Proofs.LineEnds.Torn

/-! The choice of a line terminator. It changes nothing but the terminators, unless a line that is
seen ends with a carriage return of its own. -/
namespace CodeScribe
open Tape (ofText spell)

namespace Document

def withNewline (d : Document) (newline : Newline) : Document :=
  { d with config := { d.config with newline := newline } }

/-- What the document prints, before its line ends are unified and its end is trimmed. -/
def tape (d : Document) : Tape := d.writer.tape d.plan

theorem written_eq (d : Document) : d.written = spell d.config.newline d.tape :=
  d.writer.text_follow d.plan

/-- The tape of a document does not depend on its line terminator. -/
theorem tape_withNewline (d : Document) (newline : Newline) :
    (d.withNewline newline).tape = d.tape := by
  have htwins : Twins (d.withNewline newline).writer d.writer := ⟨rfl, rfl, rfl, rfl, rfl⟩
  have hplan : (d.withNewline newline).plan = d.plan := rfl
  rw [tape, hplan, htwins.tape, tape]

private theorem normalize_written (d : Document) :
    normalize d.config d.written = terminateWith d.config.newline
      (finished d.config (unifyLineEnds (spell d.config.newline (Tape.body d.tape)))) := by
  rw [normalize_eq, written_eq, Tape.trimEnd_unifyLineEnds_spell]

private theorem return_not_mem_body (d : Document) (newline : Newline) :
    '\r' ∉ finished d.config (unifyLineEnds (spell newline (Tape.body d.tape))) :=
  return_not_mem_finished d.config (return_not_mem_unifyLineEnds _)

end Document

section
variable {w : Writer}

private theorem return_not_mem_ofText {cs : List Char} (h : '\r' ∉ cs) :
    Mark.ink '\r' ∉ ofText cs := by
  simpa [ofText] using h

/-- A move without a carriage return of its own leaves none in the line and prints none. -/
theorem Stroke.return_not_mem_apply (s : Stroke) (hw : '\r' ∉ w.line) (hs : '\r' ∉ s.ink) :
    '\r' ∉ (s.apply w).line ∧ Mark.ink '\r' ∉ s.marks w := by
  have hshown := return_not_mem_ofText (Writer.not_mem_shown (by decide) (by decide) hw)
  cases s with
  | put c =>
    by_cases hc : c = '\n'
    · have hcut : '\r' ∉ Text.chop '\r' w.line := fun hm =>
        hw ((Text.chop_isPrefix '\r' w.line).subset hm)
      have hprinted := return_not_mem_ofText
        (Writer.not_mem_shown (w := { w with line := Text.chop '\r' w.line }) (by decide) (by decide) hcut)
      exact ⟨by simp [apply, hc, Writer.put_newline], by simpa [marks, hc] using hprinted⟩
    · have hne : '\r' ≠ c := by simpa [ink] using hs
      exact ⟨by simp [apply, Writer.put_of_ne w hc, hw, hne], by simp [marks, hc]⟩
  | flush => exact ⟨by simp [apply], by simpa [marks] using hshown⟩
  | raw text =>
    have hpending := Writer.not_mem_pending (by decide : '\r' ≠ ' ') (by decide) hw
    refine ⟨by simp [apply], return_not_mem_ofText ?_⟩
    rw [List.mem_append]
    rintro (h | h)
    · exact hpending h
    · exact hs h
  | breakLine => exact ⟨hw, by simp [marks]⟩
  | endLine =>
    rcases w.endLine_cases with ⟨hl, he⟩ | ⟨hl, ha, he⟩ | ⟨hl, ha, he⟩
    · exact ⟨by simp [apply, he], by simpa [marks, hl] using hshown⟩
    · exact ⟨by simp [apply, he, hl], by simp [marks, hl, ha]⟩
    · exact ⟨by simp [apply, he, hl, Writer.breakLine], by simp [marks, hl, ha]⟩
  | enter => exact ⟨hw, by simp [marks]⟩
  | leave => exact ⟨hw, by simp [marks]⟩

theorem Writer.return_not_mem_tape {p : Plan} (hw : '\r' ∉ w.line) (hp : '\r' ∉ p.ink) :
    Mark.ink '\r' ∉ w.tape p := by
  induction p generalizing w with
  | nil => exact return_not_mem_ofText (not_mem_pending (by decide) (by decide) hw)
  | cons s p ih =>
    have hsplit : '\r' ∉ s.ink ∧ '\r' ∉ Plan.ink p := by simpa [Plan.ink] using hp
    obtain ⟨hline, hmarks⟩ := s.return_not_mem_apply hw hsplit.1
    rw [tape, List.mem_append]
    rintro (h | h)
    · exact hmarks h
    · exact ih hline hsplit.2 h

end

/-- Texts without carriage returns tear no line, so that the choice of a terminator is safe. -/
theorem Document.untorn_of_no_return {d : Document} (h : '\r' ∉ d.plan.ink) : ¬ Tape.Torn d.tape := by
  intro ht
  have hmem : Mark.ink '\r' ∈ Tape.body d.tape := ht.subset List.mem_cons_self
  have hbody : Tape.body d.tape <+: d.tape := List.rdropWhile_prefix _ _
  exact Writer.return_not_mem_tape (by simp [writer]) h (hbody.subset hmem)

/-- A text with a carriage return in front of every line feed. -/
def crlfEnds (text : String) : String := String.ofList (terminateWith .crlf text.toList)

/-- The longer terminator gives the text of the shorter one with its line ends replaced, except for
documents that end a line, in front of something visible, with a carriage return of their own. -/
theorem Document.render_crlf_iff (d : Document) :
    (d.withNewline .crlf).render = (d.withNewline .lf).render.map crlfEnds ↔
      d.Doubled ∨ ¬ Tape.Torn d.tape := by
  by_cases hd : d.Doubled
  · obtain ⟨current, he⟩ := Option.isSome_iff_exists.mp hd.1
    obtain ⟨name, hn⟩ := Option.isSome_iff_exists.mp hd.2
    have hfail (newline : Newline) :
        (d.withNewline newline).render = .error (.nestedNamespace name current) :=
      render_of_nested he hn
    rw [hfail, hfail]
    exact iff_of_true rfl (.inl hd)
  · have hok (newline : Newline) : (d.withNewline newline).render = .ok (String.ofList
        (terminateWith newline (finished d.config
          (unifyLineEnds (spell newline (Tape.body d.tape)))))) := by
      have hrender := render_of_not_doubled (d := d.withNewline newline) hd
      rwa [normalize_written, tape_withNewline] at hrender
    rw [hok, hok, Except.map, terminateWith_lf, crlfEnds, String.toList_ofList,
      ← Tape.unifyLineEnds_body_iff]
    constructor
    · intro h
      right
      have hchars := congrArg unifyLineEnds (String.ofList_injective (Except.ok.inj h))
      rw [unifyLineEnds_terminateWith .crlf (d.return_not_mem_body .crlf),
        unifyLineEnds_terminateWith .crlf (d.return_not_mem_body .lf)] at hchars
      exact finished_injective d.config hchars
    · rintro (h | h)
      · exact absurd h hd
      · rw [h]

/-- A text whose first line ends with a carriage return and a line end. -/
def tornDocument : Document := { nodes := [.raw "a\r\r\nb" false] }

/-- One line break under the shorter terminator is two under the longer one. -/
theorem render_crlf_torn :
    (tornDocument.withNewline .lf).render = .ok "a\nb\n" ∧
      (tornDocument.withNewline .crlf).render = .ok "a\r\n\r\nb\r\n" ∧
      (tornDocument.withNewline .crlf).render ≠
        (tornDocument.withNewline .lf).render.map crlfEnds := by
  have hlf : (tornDocument.withNewline .lf).render = .ok "a\nb\n" := by decide +kernel
  have hcrlf : (tornDocument.withNewline .crlf).render = .ok "a\r\n\r\nb\r\n" := by decide +kernel
  refine ⟨hlf, hcrlf, ?_⟩
  rw [hlf, hcrlf]
  decide +kernel

end CodeScribe
