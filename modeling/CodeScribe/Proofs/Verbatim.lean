import CodeScribe.Proofs.LineEnds.Tape
import CodeScribe.Proofs.Plan.Raw

/-! Verbatim texts. A tree adds to what is written and changes none of it, so that its verbatim texts stand
in the output as they are, one behind the other. -/
namespace CodeScribe

/-- A text in which the parts stand one behind the other, with anything around them. -/
inductive Text.Spread : List (List Char) → List Char → Prop
  | nil (rest : List Char) : Spread [] rest
  | cons (gap part : List Char) {parts : List (List Char)} {rest : List Char} :
      Spread parts rest → Spread (part :: parts) (gap ++ part ++ rest)
open Text (Spread)

namespace Text.Spread
variable {parts more : List (List Char)} {cs ds : List Char}

private theorem behind (gap : List Char) (h : Spread parts cs) : Spread parts (gap ++ cs) := by
  cases h with
  | nil rest => exact .nil _
  | cons gap' part h =>
    rw [← List.append_assoc, ← List.append_assoc]
    exact .cons _ part h

private theorem append (h : Spread parts cs) (h' : Spread more ds) : Spread (parts ++ more) (cs ++ ds) := by
  induction h with
  | nil rest => exact h'.behind rest
  | cons gap part _ ih =>
    rw [List.append_assoc]
    exact .cons gap part ih

end Text.Spread

open Plan (raws)

private theorem Stroke.spread_apply (s : Stroke) (w : Writer) :
    ∃ added, (s.apply w).output = w.output ++ added ∧ Spread (raws [s]) added := by
  refine ⟨_, s.output_apply w, ?_⟩
  cases s with
  | raw text =>
    rw [marks, Tape.spell_ofText]
    have h := Spread.cons w.pending text (.nil [])
    rwa [List.append_nil] at h
  | _ => exact .nil _

private theorem Writer.spread_follow (p : Plan) (w : Writer) :
    ∃ added, (w.follow p).output = w.output ++ added ∧ Spread (raws p) added := by
  induction p generalizing w with
  | nil => exact ⟨[], (List.append_nil _).symm, .nil []⟩
  | cons s p ih =>
    obtain ⟨front, hfront, hs⟩ := s.spread_apply w
    obtain ⟨back, hback, hp⟩ := ih (s.apply w)
    refine ⟨front ++ back, ?_, ?_⟩
    · rw [follow_cons, hback, hfront, List.append_assoc]
    · rw [Plan.raws_cons]
      exact hs.append hp

/-- Rendering only appends, and verbatim text is untouched. Whatever a writer holds, a tree adds to its
output, and the verbatim texts of the tree stand in what is added, unchanged, one behind the other. Raw text
goes behind all that is written, the pending line included. -/
theorem Node.render_appends :
    (∀ (n : Node) (tail : Bool) (w : Writer), ∃ added,
      (n.render tail w).output = w.output ++ added ∧ Spread (n.verbatims tail) added ∧
        (n.render tail w).output <+: (n.render tail w).text) ∧
    ∀ (w : Writer) (cs : List Char), (w.appendRaw cs).text = w.text ++ cs := by
  constructor
  · intro n tail w
    obtain ⟨added, houtput, hspread⟩ := w.spread_follow (n.plan w.config.docPrefix.toList tail)
    rw [← n.writes_plan tail w rfl] at houtput
    rw [n.raws_plan] at hspread
    exact ⟨added, houtput, hspread, List.prefix_append _ _⟩
  · intro w cs
    rw [Writer.text_eq, Writer.output_appendRaw, Writer.pending, Writer.line_appendRaw]
    exact List.append_nil _

end CodeScribe
