import CodeScribe.Import
import CodeScribe.Node.Render

/-! One generated source file, from its parts to its finished text. -/
namespace CodeScribe

inductive RenderError where
  | lineFault (fault : LineFault)
  | nestedNamespace (name current : String)
  deriving DecidableEq, Repr

def RenderError.message : RenderError → String
  | .lineFault fault => fault.message
  | .nestedNamespace name current =>
    "cannot declare namespace '" ++ name ++ "' inside a document already wrapped in namespace '"
      ++ current ++ "'"

structure Document where
  config : Config := {}
  imports : Imports := {}
  enclosing : Option String := none
  nodes : List Node := []

/-- A text in which every line ends with a line feed alone. -/
def unifyLineEnds : List Char → List Char
  | [] => []
  | '\r' :: '\n' :: rest => '\n' :: unifyLineEnds rest
  | '\r' :: rest => '\n' :: unifyLineEnds rest
  | c :: rest => c :: unifyLineEnds rest

def terminateWith (newline : Newline) (cs : List Char) : List Char :=
  cs.flatMap fun c => if c = '\n' then newline.text else [c]

/-- The finished form: no blanks at the end but the line terminator asked for,
and one kind of line terminator throughout. Blank text becomes empty. -/
def normalize (config : Config) (cs : List Char) : List Char :=
  let body := Text.trimEnd (unifyLineEnds cs)
  if body.isEmpty then []
  else terminateWith config.newline (if config.trailingNewline then body ++ ['\n'] else body)

namespace Document

def new (config : Config) : Document := { config }

def add (d : Document) (node : Node) : Document := { d with nodes := d.nodes ++ [node] }

def enclose (d : Document) (name : String) : Document := { d with enclosing := some name }

def importNamespace (d : Document) (name : String) : Document :=
  { d with imports := (d.imports.addNamespace name d.config.qualify).2 }

def importStatic (d : Document) (name : String) : Document :=
  { d with imports := (d.imports.addStatic name d.config.qualify).2 }

def importAlias (d : Document) (name target : String) : Document :=
  { d with imports := (d.imports.addAlias name target d.config.qualify).2 }

def nestedNamespace? (d : Document) : Option String :=
  d.nodes.findSome? fun
    | .namespaceDecl name _ => some name
    | _ => none

def writer (d : Document) : Writer :=
  { config := d.config
    classify := if d.config.flushDirectives then Classifier.preprocessorLines
      else Classifier.indentAll }

/-- Writes the first line and the imports, and a blank line after them if there are any. -/
def writePreamble (d : Document) (w : Writer) : Writer :=
  let lines := d.imports.lines.map String.toList
  let opened :=
    match d.config.pragma with
    | some pragma => w.appendLine pragma.toList
    | none => w
  let spaced := if d.config.pragma.isSome && !lines.isEmpty then opened.blankLine else opened
  let imported := spaced.appendLines false lines
  if d.config.pragma.isSome || !lines.isEmpty then imported.blankLine else imported

def writeEntries (d : Document) (w : Writer) : Writer :=
  let entries := Node.renderAll .entries false d.nodes {}
  match d.enclosing, d.config.namespaceStyle with
  | none, _ => entries w
  | some name, .fileScoped =>
    entries (w.appendLine ("namespace ".toList ++ name.toList ++ [';'])).blankLine
  | some name, .block =>
    (w.appendLine ("namespace ".toList ++ name.toList)).braced false entries

/-- The finished text. A document inside a namespace cannot declare another one at its top. -/
def render (d : Document) : Except RenderError String :=
  match d.enclosing, d.nestedNamespace? with
  | some current, some name => .error (.nestedNamespace name current)
  | _, _ =>
    match (d.writeEntries (d.writePreamble d.writer)).finish with
    | .error fault => .error (.lineFault fault)
    | .ok text => .ok (String.ofList (normalize d.config text))

end Document
end CodeScribe
