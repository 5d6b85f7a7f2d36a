import CodeScribe.Document

/-! Rendering as a plan: the moves of the writer in order, fixed by the tree before anything is
written. Following the plan of a document is rendering it. -/
namespace CodeScribe

/-- One elementary move of a writer. -/
inductive Stroke where
  | put (c : Char)
  | flush
  | raw (text : List Char)
  | breakLine
  | endLine
  | enter
  | leave
  deriving DecidableEq, Repr

def Stroke.apply : Stroke → Writer → Writer
  | .put c, w => w.put c
  | .flush, w => w.flushLine
  | .raw text, w => w.appendRaw text
  | .breakLine, w => w.breakLine
  | .endLine, w => w.endLine
  | .enter, w => w.deepen 1
  | .leave, w => w.undeepen 1

abbrev Plan := List Stroke

def Writer.follow (w : Writer) (p : Plan) : Writer := p.foldl (fun v s => s.apply v) w

namespace Plan

def text (cs : List Char) : Plan := cs.map .put

def line (cs : List Char) : Plan := if Text.endsIn '\n' cs then text cs else text cs ++ [.flush]

def rawLine (cs : List Char) : Plan := if Text.endsIn '\n' cs then [.raw cs] else [.raw cs, .breakLine]

def blankLine : Plan := [.endLine, .breakLine]

def lines (tail : Bool) : List (List Char) → Plan
  | [] => []
  | [cs] => if tail then text cs else line cs
  | cs :: rest => line cs ++ lines tail rest

def close (tail : Bool) (cs : List Char) : Plan := if tail then text cs else line cs

def scope (body : Plan) : Plan := .enter :: (body ++ [.leave])

def braced (tail : Bool) (body : Plan) : Plan := line ['{'] ++ scope body ++ close tail ['}']

end Plan

def DocComment.plan (d : DocComment) (lineStart : List Char) : Plan :=
  Plan.lines false (d.lines lineStart)

def planRaw (text : String) (verbatim tail : Bool) : Plan :=
  match verbatim, tail with
  | false, false => Plan.line text.toList
  | false, true => Plan.text (Text.chopLineEnd text.toList)
  | true, false => Plan.rawLine text.toList
  | true, true => [.raw (Text.chopLineEnd text.toList)]

namespace Head

def planComment (h : Head) (lineStart : List Char) : Plan :=
  match h.doc with
  | some doc => if doc.isEmpty then [] else doc.plan lineStart
  | none => []

def planPreamble (h : Head) (lineStart : List Char) : Plan :=
  h.planComment lineStart ++ Plan.lines false (h.attributes.map attributeLine)

def plan (h : Head) (signature : List Char) (rest : Bool → Plan) : Plan :=
  if h.constraints.isEmpty then Plan.text signature ++ rest false
  else Plan.line signature
    ++ Plan.scope (Plan.lines true (h.constraints.map constraintLine) ++ rest true)

def planOpen (h : Head) (signature : List Char) : Plan := h.plan signature fun _ => [.endLine]

def planClosed (h : Head) (signature : List Char) (tail : Bool) (text : Bool → Plan) : Plan :=
  h.plan signature fun nested =>
    text nested ++ .put ';' :: (if nested || !tail then [.endLine] else [])

end Head

namespace Frame

def planHeader (f : Frame) : Plan :=
  match f.header with
  | none => []
  | some header => if f.joined then Plan.text header.toList else Plan.line header.toList

def planChildren (f : Frame) (children : Bool → Plan) (tail : Bool) : Plan :=
  match f.brackets with
  | some brackets =>
    Plan.line brackets.opening.toList ++ Plan.scope (children false)
      ++ Plan.close (f.glues tail) brackets.closing.toList
  | none => children (f.glues tail)

def planFooter (f : Frame) (tail : Bool) : Plan :=
  match f.footer with
  | none => []
  | some footer => Plan.text footer.toList ++ (if tail then [] else [.endLine])

def plan (f : Frame) (children : Bool → Plan) (tail : Bool) : Plan :=
  f.planHeader ++ f.planChildren children tail ++ f.planFooter tail

end Frame

mutual

/-- The plan of a node. Only comments depend on a setting, the start of their lines. -/
def Node.plan (lineStart : List Char) : Node → Bool → Plan
  | .raw text verbatim, tail => planRaw text verbatim tail
  | .block frame children, tail =>
    frame.plan (fun glue => Node.planAll lineStart .statements glue children {}) tail
  | .typeDecl head bases terminated members, tail =>
    let signature := typeSignature head bases
    head.planPreamble lineStart
      ++ (if terminated then head.planClosed signature tail (fun _ => [])
        else head.planOpen signature
          ++ Plan.braced tail (Node.planAll lineStart .members false members {}))
  | .methodDecl head style frame body, tail =>
    let signature := head.signature.toList
    let statements := frame.plan fun glue => Node.planAll lineStart .statements glue body {}
    head.planPreamble lineStart
      ++ (match style with
        | .block => head.planOpen signature ++ Plan.braced tail (statements false)
        | .arrow =>
          head.planClosed signature tail fun nested =>
            (if nested then .endLine :: Plan.text "=> ".toList else Plan.text " => ".toList)
              ++ statements true
        | .abstract => head.planClosed signature tail (fun _ => []))
  | .namespaceDecl name entries, tail =>
    Plan.line ("namespace ".toList ++ name.toList)
      ++ Plan.braced tail (Node.planAll lineStart .entries false entries {})
  | .doc comment, _ => comment.plan lineStart
  | .attributes entries, tail => Plan.lines tail (entries.map attributeLine)
  | .constraints entries, tail => Plan.lines tail (entries.map constraintLine)
  | .separator _, _ => []

/-- The plan of nodes in order, from a given gap on. -/
def Node.planAll (lineStart : List Char) (spacing : Spacing) (tail : Bool) :
    List Node → Gap → Plan
  | [], gap => if gap.forced && !tail then Plan.blankLine else []
  | node :: rest, gap =>
    match node.separation? with
    | some forced => Node.planAll lineStart spacing tail rest (gap.widen forced)
    | none =>
      let isTail := tail && Node.allSeparators rest
      (if gap.blank spacing node.isDeclaration then Plan.blankLine else [])
        ++ node.plan lineStart isTail ++ (if isTail then [] else [.endLine])
        ++ Node.planAll lineStart spacing tail rest { previous := some node.isDeclaration }

end

namespace Document

def planPragma (d : Document) : Plan :=
  match d.config.pragma with
  | some pragma => Plan.line pragma.toList
  | none => []

def planPreamble (d : Document) : Plan :=
  let lines := d.imports.lines.map String.toList
  d.planPragma
  ++ (if d.config.pragma.isSome && !lines.isEmpty then Plan.blankLine else [])
  ++ Plan.lines false lines
  ++ (if d.config.pragma.isSome || !lines.isEmpty then Plan.blankLine else [])

def planEntries (d : Document) : Plan :=
  let entries := Node.planAll d.config.docPrefix.toList .entries false d.nodes {}
  match d.enclosing, d.config.namespaceStyle with
  | none, _ => entries
  | some name, .fileScoped =>
    Plan.line ("namespace ".toList ++ name.toList ++ [';']) ++ Plan.blankLine ++ entries
  | some name, .block =>
    Plan.line ("namespace ".toList ++ name.toList) ++ Plan.braced false entries

def plan (d : Document) : Plan := d.planPreamble ++ d.planEntries

end Document

end CodeScribe
