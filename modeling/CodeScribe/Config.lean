import CodeScribe.Text.Basic

/-! Settings of one generated document: indentation, line ends, imports and namespaces. -/
namespace CodeScribe

inductive Indent where
  | spaces (width : Nat)
  | tab
  deriving DecidableEq, Repr

def Indent.unit : Indent → List Char
  | .spaces width => List.replicate width ' '
  | .tab => ['\t']

inductive Newline where
  | lf
  | crlf
  deriving DecidableEq, Repr

def Newline.text : Newline → List Char
  | .lf => ['\n']
  | .crlf => ['\r', '\n']

inductive Qualify where
  | unchanged
  | always
  | never
  deriving DecidableEq, Repr

def globalMarker : String := "global::"

/-- One marker in front is stripped, kept or put there; further markers belong to the name. -/
def Qualify.apply (q : Qualify) (name : String) : String :=
  match q with
  | .unchanged => name
  | .always => globalMarker ++ Text.withoutStart globalMarker name
  | .never => Text.withoutStart globalMarker name

inductive NamespaceStyle where
  | block
  | fileScoped
  deriving DecidableEq, Repr

structure Config where
  indent : Indent := .spaces 4
  newline : Newline := .lf
  /-- Whether a finished document that is not empty ends with a line terminator. -/
  trailingNewline : Bool := true
  qualify : Qualify := .unchanged
  namespaceStyle : NamespaceStyle := .block
  /-- First line of the document, such as a nullability directive. -/
  pragma : Option String := none
  /-- What every line of a documentation comment starts with. -/
  docPrefix : String := "///"
  /-- Whether preprocessor directives are moved to column zero. -/
  flushDirectives : Bool := true
  deriving DecidableEq, Repr

end CodeScribe
