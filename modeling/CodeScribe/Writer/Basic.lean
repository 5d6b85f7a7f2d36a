import CodeScribe.Config
import CodeScribe.Text.Quoted
import CodeScribe.Writer.Classifier

/-! A writer that assembles text fragments into indented lines.
A line takes the depth and the classifier in force when it is completed. -/
namespace CodeScribe

/-- A classifier selected a range that the line does not have. -/
structure LineFault where
  line : List Char
  start : Nat
  stop : Nat
  deriving DecidableEq, Repr

def LineFault.message (f : LineFault) : String :=
  "line classifier returned content range " ++ toString f.start ++ ".." ++ toString f.stop
    ++ " for a " ++ toString (Text.byteLength f.line) ++ "-byte line "
    ++ String.ofList (Text.quoted f.line)

/-- Finished output, and the line that is still being assembled. -/
structure Writer where
  config : Config
  output : List Char := []
  line : List Char := []
  depth : Nat := 0
  classify : Classifier := Classifier.indentAll
  /-- The first line that its classifier got wrong. -/
  fault : Option LineFault := none

namespace Writer

def new (config : Config) : Writer := { config }

def atLineStart (w : Writer) : Bool := w.output.isEmpty || Text.endsIn '\n' w.output

/-- Whether text written now would continue a line. -/
def isLineOpen (w : Writer) : Bool := !w.line.isEmpty || !w.atLineStart

def indentation (w : Writer) : List Char :=
  (List.replicate w.depth w.config.indent.unit).flatten

/-- One line as it is written, without its terminator; none when its classifier gets it wrong.
Only a line that starts at column zero is indented, and an empty one never is. -/
def format? (w : Writer) (line : List Char) : Option (List Char) :=
  let verdict := w.classify line
  (verdict.content? line).map fun text =>
    if text.isEmpty then []
    else if verdict.kind = .indented && w.atLineStart then w.indentation ++ text
    else text

def format (w : Writer) (line : List Char) : List Char := (w.format? line).getD line

/-- Remembers that the classifier got `line` wrong, unless an earlier fault is known. -/
def note (w : Writer) (line : List Char) : Writer :=
  if (w.format? line).isSome then w
  else
    let verdict := w.classify line
    { w with fault := w.fault <|> some ⟨line, verdict.start, verdict.stop⟩ }

def breakLine (w : Writer) : Writer := { w with output := w.output ++ w.config.newline.text }

/-- Completes the pending line. A line of blanks is written empty. -/
def flushLine (w : Writer) : Writer :=
  let text := w.format w.line
  let shown := if Text.allBlank text then [] else text
  { w.note w.line with output := w.output ++ shown, line := [] }.breakLine

/-- Takes one character. A line feed completes the pending line,
which loses one carriage return at its end. -/
def put (w : Writer) (c : Char) : Writer :=
  if c = '\n' then { w with line := Text.chop '\r' w.line }.flushLine
  else { w with line := w.line ++ [c] }

/-- Takes a text. What follows its last line feed stays pending. -/
def append (w : Writer) (text : List Char) : Writer := text.foldl put w

def appendLine (w : Writer) (text : List Char) : Writer :=
  if Text.endsIn '\n' text then w.append text else (w.append text).flushLine

def settle (w : Writer) : Writer :=
  if w.line.isEmpty then w
  else { w.note w.line with output := w.output ++ w.format w.line, line := [] }

def appendRaw (w : Writer) (text : List Char) : Writer :=
  let settled := w.settle
  { settled with output := settled.output ++ text }

def appendRawLine (w : Writer) (text : List Char) : Writer :=
  if Text.endsIn '\n' text then w.appendRaw text else (w.appendRaw text).breakLine

def endLine (w : Writer) : Writer :=
  if !w.line.isEmpty then w.flushLine
  else if w.atLineStart then w
  else w.breakLine

def blankLine (w : Writer) : Writer := w.endLine.breakLine

/-- Drops the blanks at the end of everything written so far.
The finished output is touched only when nothing of the pending line stays. -/
def trimEnd (w : Writer) : Writer :=
  let line := Text.trimEnd w.line
  if line.isEmpty then { w with line := [], output := Text.trimEnd w.output }
  else { w with line }

def deepen (w : Writer) (levels : Nat) : Writer := { w with depth := w.depth + levels }

/-- Closes an indentation scope. A line still pending takes the depth of the scope outside. -/
def undeepen (w : Writer) (levels : Nat) : Writer := { w with depth := w.depth - levels }

def indented (w : Writer) (levels : Nat) (body : Writer → Writer) : Writer :=
  (body (w.deepen levels)).undeepen levels

def text (w : Writer) : List Char :=
  w.output ++ (if w.line.isEmpty then [] else w.format w.line)

def finish (w : Writer) : Except LineFault (List Char) :=
  match w.fault with
  | some fault => .error fault
  | none => .ok w.text

end Writer
end CodeScribe
