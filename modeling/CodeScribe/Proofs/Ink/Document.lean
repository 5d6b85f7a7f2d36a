import CodeScribe.Proofs.Ink.Flat
import CodeScribe.Proofs.LineEnds.Unify

/-! Layout touches blanks only: a rendered document shows exactly the visible characters of its
flat form, in order. -/
namespace CodeScribe
open Text (visible)

private theorem visible_normalize (config : Config) (cs : List Char) :
    visible (normalize config cs) = visible cs := by
  have hbody : visible (Text.trimEnd (unifyLineEnds cs)) = visible cs := by
    rw [Text.visible_trimEnd, visible_unifyLineEnds]
  have hbreak : visible ['\n'] = [] := rfl
  unfold normalize
  by_cases he : (Text.trimEnd (unifyLineEnds cs)).isEmpty
  · rw [if_pos he, ← hbody, List.isEmpty_iff.mp he]
  · rw [if_neg he, visible_terminateWith]
    split
    · rw [Text.visible_append, hbreak, List.append_nil, hbody]
    · exact hbody

/-- Layout neither loses, doubles nor moves a visible character, and so every bracket of the tree
is there as often as the tree has it. -/
theorem Document.visible_render {d : Document} {text : String} (h : d.render = .ok text) :
    visible text.toList = visible d.flat ∧
      ∀ c, Character.isBlank c = false → text.toList.count c = d.flat.count c := by
  have hrender := render_of_not_doubled (not_doubled_of_render h)
  have hwritten : visible d.written = visible d.flat := by
    rw [written, Writer.visible_text (by rw [Writer.classify_follow]; exact d.faithful_writer),
      Writer.ink_follow d.plan d.faithful_writer, d.visible_ink_plan]
    rfl
  have hvisible : visible text.toList = visible d.flat := by
    rw [h] at hrender
    cases hrender
    rw [String.toList_ofList, visible_normalize, hwritten]
  refine ⟨hvisible, fun c hc => ?_⟩
  have hcount (cs : List Char) : (visible cs).count c = cs.count c :=
    List.count_filter (by simp [hc])
  rw [← hcount text.toList, ← hcount d.flat, hvisible]

/-- A document with a comment, constraints, an arrow in front of a bracketed block, a directive that
is moved, and blanks and carriage returns that are dropped. -/
def boxDocument : Document where
  config := { newline := .crlf, indent := .tab }
  enclosing := some "N"
  nodes := [
    .methodDecl
      { signature := "T Get()", doc := some { trailer := ["one\n\ntwo"] }, constraints := ["T : I"] }
      .arrow {}
      [.block { header := some "new T", brackets := some Brackets.braces }
        [.raw "  \r\n #if X\n1,\n" false, .separator true]]]

def boxText : String :=
  "namespace N\r\n\x7b\r\n\t/// one\r\n\t///\r\n\t/// two\r\n\tT Get()\r\n\t\twhere T : I\r\n"
    ++ "\t\t=> new T\r\n\t\t\x7b\r\n\r\n#if X\r\n\t\t\t1,\r\n\r\n\t\t\x7d;\r\n\x7d\r\n"

theorem visible_render_box :
    boxDocument.render = .ok boxText ∧ visible boxText.toList = visible boxDocument.flat ∧
      boxText.toList.count '{' = boxDocument.flat.count '{' :=
  have h : boxDocument.render = .ok boxText := by decide +kernel
  ⟨h, (Document.visible_render h).1, (Document.visible_render h).2 '{' rfl⟩

end CodeScribe
