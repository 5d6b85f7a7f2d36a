import CodeScribe.Node.Basic
import CodeScribe.Writer.Basic

/-! Layout of the tree. A node in tail position leaves its last line open,
so that the text that encloses it can be glued on. -/
namespace CodeScribe

/-- Where blank lines go between the entries of a sequence, apart from separators. -/
inductive Spacing where
  | statements
  /-- Around type and method declarations. -/
  | members
  /-- Between any two entries. -/
  | entries
  deriving DecidableEq, Repr

def Spacing.separates : Spacing → Bool → Bool → Bool
  | .statements, _, _ => false
  | .members, previous, next => previous || next
  | .entries, _, _ => true

/-- What a sequence knows on its way from one entry to the next. -/
structure Gap where
  previous : Option Bool := none
  separated : Bool := false
  forced : Bool := false
  deriving DecidableEq, Repr

def Gap.widen (g : Gap) (forced : Bool) : Gap :=
  { g with separated := true, forced := g.forced || forced }

def Gap.blank (g : Gap) (spacing : Spacing) (next : Bool) : Bool :=
  match g.previous with
  | some previous => g.separated || spacing.separates previous next
  | none => g.forced

/-- Writes lines; in tail position the last one stays open. -/
def Writer.appendLines (w : Writer) (tail : Bool) : List (List Char) → Writer
  | [] => w
  | [line] => if tail then w.append line else w.appendLine line
  | line :: rest => (w.appendLine line).appendLines tail rest

def Writer.close (w : Writer) (tail : Bool) (text : List Char) : Writer :=
  if tail then w.append text else w.appendLine text

def Writer.braced (w : Writer) (tail : Bool) (body : Writer → Writer) : Writer :=
  ((w.appendLine ['{']).indented 1 body).close tail ['}']

/-- Writes a documentation comment. It has no tail position: every line is completed. -/
def DocComment.render (d : DocComment) (w : Writer) : Writer :=
  w.appendLines false (d.lines w.config.docPrefix.toList)

/-- Writes literal text. In tail position one final line end is dropped. -/
def renderRaw (text : String) (verbatim tail : Bool) (w : Writer) : Writer :=
  match verbatim, tail with
  | false, false => w.appendLine text.toList
  | false, true => w.append (Text.chopLineEnd text.toList)
  | true, false => w.appendRawLine text.toList
  | true, true => w.appendRaw (Text.chopLineEnd text.toList)

namespace Head

/-- Writes the comment and the attributes. A comment without sections is left out. -/
def preamble (h : Head) (w : Writer) : Writer :=
  let commented :=
    match h.doc with
    | some doc => if doc.isEmpty then w else doc.render w
    | none => w
  commented.appendLines false (h.attributes.map attributeLine)

/-- Writes the signature and the constraints, and `rest` on the line left open.
Constraints are one level deeper; then `rest` learns it and completes its line there. -/
def render (h : Head) (signature : List Char) (rest : Bool → Writer → Writer) (w : Writer) :
    Writer :=
  if h.constraints.isEmpty then rest false (w.append signature)
  else (w.appendLine signature).indented 1 fun inner =>
    rest true (inner.appendLines true (h.constraints.map constraintLine))

def renderOpen (h : Head) (signature : List Char) (w : Writer) : Writer :=
  h.render signature (fun _ inner => inner.endLine) w

def renderClosed (h : Head) (signature : List Char) (tail : Bool)
    (text : Bool → Writer → Writer) (w : Writer) : Writer :=
  h.render signature (fun nested inner =>
    let closed := (text nested inner).append [';']
    if nested || !tail then closed.endLine else closed) w

end Head

/-- Writes a block, given how its children are written in and out of tail position. -/
def Frame.render (f : Frame) (children : Bool → Writer → Writer) (tail : Bool) (w : Writer) :
    Writer :=
  let headed :=
    match f.header with
    | none => w
    | some header =>
      if f.joined then w.append header.toList else w.appendLine header.toList
  let filled :=
    match f.brackets with
    | some brackets =>
      ((headed.appendLine brackets.opening.toList).indented 1 (children false)).close
        (f.glues tail) brackets.closing.toList
    | none => children (f.glues tail) headed
  match f.footer with
  | none => filled
  | some footer =>
    let closed := filled.append footer.toList
    if tail then closed else closed.endLine

mutual

def Node.render : Node → Bool → Writer → Writer
  | .raw text verbatim, tail, w => renderRaw text verbatim tail w
  | .block frame children, tail, w =>
    frame.render (fun glue => Node.renderAll .statements glue children {}) tail w
  | .typeDecl head bases terminated members, tail, w =>
    let opened := head.preamble w
    let signature := typeSignature head bases
    if terminated then head.renderClosed signature tail (fun _ inner => inner) opened
    else (head.renderOpen signature opened).braced tail (Node.renderAll .members false members {})
  | .methodDecl head style frame body, tail, w =>
    let opened := head.preamble w
    let signature := head.signature.toList
    let statements := frame.render (fun glue => Node.renderAll .statements glue body {})
    match style with
    | .block => (head.renderOpen signature opened).braced tail (statements false)
    | .arrow =>
      head.renderClosed signature tail (fun nested inner =>
        statements true
          (if nested then inner.endLine.append "=> ".toList else inner.append " => ".toList)) opened
    | .abstract => head.renderClosed signature tail (fun _ inner => inner) opened
  | .namespaceDecl name entries, tail, w =>
    (w.appendLine ("namespace ".toList ++ name.toList)).braced tail
      (Node.renderAll .entries false entries {})
  | .doc comment, _, w => comment.render w
  | .attributes entries, tail, w => w.appendLines tail (entries.map attributeLine)
  | .constraints entries, tail, w => w.appendLines tail (entries.map constraintLine)
  | .separator _, _, w => w

/-- Writes nodes in order, from a given gap on. Only the last node can be in tail position. -/
def Node.renderAll (spacing : Spacing) (tail : Bool) : List Node → Gap → Writer → Writer
  | [], gap, w => if gap.forced && !tail then w.blankLine else w
  | node :: rest, gap, w =>
    match node.separation? with
    | some forced => Node.renderAll spacing tail rest (gap.widen forced) w
    | none =>
      let spaced := if gap.blank spacing node.isDeclaration then w.blankLine else w
      let isTail := tail && Node.allSeparators rest
      let written := node.render isTail spaced
      Node.renderAll spacing tail rest { previous := some node.isDeclaration }
        (if isTail then written else written.endLine)

end

end CodeScribe
