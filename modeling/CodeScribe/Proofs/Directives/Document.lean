import CodeScribe.Proofs.Directives.Run
import CodeScribe.Proofs.InputEnds.Ink
import Mathlib.Data.List.Forall2

/-! The setting that moves preprocessor directives to column zero. It takes the blanks in front of
directives from the lines of a document, and changes nothing else. -/
namespace CodeScribe
open Text (flushLeft isDirective)

namespace Document

def withFlush (d : Document) (flush : Bool) : Document :=
  { d with config := { d.config with flushDirectives := flush } }

private theorem flushed_writer (d : Document) :
    Flushed [] (d.withFlush false).writer (d.withFlush true).writer where
  line := rfl
  depth := rfl
  indent := rfl
  newline := rfl
  classify := ⟨rfl, rfl⟩
  start := ⟨rfl, rfl⟩
  unbroken := by simp [writer, Text.IsRow]
  whole := by simp
  output := ⟨rfl, rfl⟩

/-- The lines of a document with the setting are those without it, each at column zero if it is a
directive. -/
theorem lines_withFlush {d : Document} (hplain : Node.anyVerbatim d.nodes = false)
    (hreturn : ∀ s ∈ d.strings, '\r' ∉ s.toList) :
    Text.lines (normalize (d.withFlush true).config (d.withFlush true).written) =
      (Text.lines (normalize (d.withFlush false).config (d.withFlush false).written)).map flushLeft := by
  obtain ⟨rows, hrun⟩ := d.flushed_writer.follow (reflows_plan hplain) (return_not_mem_plan hreturn)
  exact hrun.lines_normalize _ _

/-- Moving directives to column zero moves directives and nothing else. -/
theorem render_withFlush {d : Document} (hplain : Node.anyVerbatim d.nodes = false)
    (hreturn : ∀ s ∈ d.strings, '\r' ∉ s.toList) :
    (∃ e, (d.withFlush false).render = .error e ∧ (d.withFlush true).render = .error e) ∨
    ∃ off on, (d.withFlush false).render = .ok off ∧ (d.withFlush true).render = .ok on ∧
      (Text.lines on.toList).length = (Text.lines off.toList).length ∧
      List.Forall₂ Text.MovedLeft (Text.lines off.toList) (Text.lines on.toList) ∧
      ∀ line ∈ Text.lines on.toList, isDirective line = true → line.head? = some '#' := by
  by_cases hd : d.Doubled
  · obtain ⟨current, henclosing⟩ := Option.isSome_iff_exists.mp hd.1
    obtain ⟨name, hname⟩ := Option.isSome_iff_exists.mp hd.2
    exact .inl ⟨_, render_of_nested henclosing hname, render_of_nested henclosing hname⟩
  · have hoff := render_of_not_doubled (d := d.withFlush false) hd
    have hon := render_of_not_doubled (d := d.withFlush true) hd
    refine .inr ⟨_, _, hoff, hon, ?_⟩
    rw [String.toList_ofList, String.toList_ofList, lines_withFlush hplain hreturn]
    generalize Text.lines (normalize (d.withFlush false).config (d.withFlush false).written) = lines
    refine ⟨List.length_map _, ?_, ?_⟩
    · rw [List.forall₂_map_right_iff, List.forall₂_same]
      exact fun line _ => Text.movedLeft_flushLeft line
    · intro line hline hdirective
      obtain ⟨before, -, rfl⟩ := List.mem_map.mp hline
      exact Text.head?_flushLeft hdirective

end Document

/-- A document with directives in its first line, in a text of several lines, and in lines that a header or a
footer begins. -/
def directiveDocument : Document where
  config := { pragma := some "#nullable enable", indent := .tab, newline := .crlf }
  enclosing := some "A"
  nodes := [
    .typeDecl { signature := "class B" } [] false [
      .raw " #if C\nint d; # e\n\u2003# else " false, .separator true,
      .block { header := some "#pragma f ", joined := true, footer := some "\n # g" } [
        .raw "h;\n" false]]]

theorem render_withFlush_directiveDocument :
    let off := "#nullable enable\r\n\r\nnamespace A\r\n\x7b\r\n\tclass B\r\n\t\x7b\r\n\t\t #if C\r\n"
      ++ "\t\tint d; # e\r\n\t\t\u2003# else \r\n\r\n\t\t#pragma f h;\r\n\t\t # g\r\n\t\x7d\r\n\x7d\r\n"
    let on := "#nullable enable\r\n\r\nnamespace A\r\n\x7b\r\n\tclass B\r\n\t\x7b\r\n#if C\r\n"
      ++ "\t\tint d; # e\r\n# else \r\n\r\n#pragma f h;\r\n# g\r\n\t\x7d\r\n\x7d\r\n"
    Node.anyVerbatim directiveDocument.nodes = false ∧
      (∀ s ∈ directiveDocument.strings, '\r' ∉ s.toList) ∧
      (directiveDocument.withFlush false).render = .ok off ∧
      (directiveDocument.withFlush true).render = .ok on ∧
      List.Forall₂ Text.MovedLeft (Text.lines off.toList) (Text.lines on.toList) ∧
      ∀ line ∈ Text.lines on.toList, isDirective line = true → line.head? = some '#' := by
  intro off on
  have hplain : Node.anyVerbatim directiveDocument.nodes = false := rfl
  have hreturn : ∀ s ∈ directiveDocument.strings, '\r' ∉ s.toList := by decide +kernel
  have hoff : (directiveDocument.withFlush false).render = .ok off := by decide +kernel
  have hon : (directiveDocument.withFlush true).render = .ok on := by decide +kernel
  refine ⟨hplain, hreturn, hoff, hon, ?_⟩
  rcases Document.render_withFlush hplain hreturn with ⟨e, he, -⟩ | ⟨text, text', ht, ht', -, hlines⟩
  · rw [hoff] at he
    cases he
  · rw [hoff] at ht
    rw [hon] at ht'
    cases ht
    cases ht'
    exact hlines

end CodeScribe
