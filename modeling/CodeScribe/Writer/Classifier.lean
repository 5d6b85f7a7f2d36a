import CodeScribe.Text.Basic

/-! Classification of lines: which part of a line is written, and whether it is indented. -/
namespace CodeScribe

inductive LineKind where
  | indented
  | flush
  deriving DecidableEq, Repr

/-- The verdict on one line: its kind and the byte range of it that is written. -/
structure LineClass where
  kind : LineKind
  start : Nat
  stop : Nat
  deriving DecidableEq, Repr

/-- A rule that judges lines. Nothing forces the range to lie inside the line. -/
abbrev Classifier := List Char → LineClass

namespace Classifier

def indentAll : Classifier := fun line => ⟨.indented, 0, Text.byteLength line⟩

/-- Preprocessor directives start at column zero, without the blanks before their hash sign.
Other lines are indented as they stand. -/
def preprocessorLines : Classifier := fun line =>
  let rest := Text.trimStart line
  if rest.head? = some '#' then
    ⟨.flush, Text.byteLength line - Text.byteLength rest, Text.byteLength line⟩
  else
    indentAll line

end Classifier

/-- The part of a line that a verdict selects, when its range is on character boundaries. -/
def LineClass.content? (verdict : LineClass) (line : List Char) : Option (List Char) :=
  Text.slice? verdict.start verdict.stop line

end CodeScribe
