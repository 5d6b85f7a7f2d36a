import CodeScribe.Proofs.Ink.Basic

/-! The flat form of a document: its texts in order, without any layout. The plan of a document
brings in the visible characters of its flat form. -/
namespace CodeScribe
open Text (visible)

/-- Every line of the comment with its start, and nothing between them. -/
def DocComment.flat (d : DocComment) (lineStart : List Char) : List Char :=
  d.texts.flatMap fun text => (Text.pieces '\n' text).flatMap (lineStart ++ ·)

/-- Each attribute has one pair of square brackets, be it the entry's own. -/
def flatAttribute (entry : String) : List Char :=
  match entry.toList with
  | '[' :: rest => '[' :: rest
  | cs => ['['] ++ cs ++ [']']

/-- Each constraint has the keyword once, be it the entry's own. -/
def flatConstraint (entry : String) : List Char :=
  if "where ".toList <+: entry.toList then entry.toList else "where".toList ++ entry.toList

/-- A colon in front of the first base and a comma between two. -/
def flatBases : List String → List Char
  | [] => []
  | base :: more => [':'] ++ base.toList ++ more.flatMap ([','] ++ ·.toList)

/-- Comment, attributes, signature with the bases of a type, and constraints. -/
def Head.flat (h : Head) (lineStart : List Char) (bases : List String) : List Char :=
  (h.doc.elim [] (·.flat lineStart)) ++ h.attributes.flatMap flatAttribute
    ++ (h.signature.toList ++ flatBases bases) ++ h.constraints.flatMap flatConstraint

def Frame.flat (f : Frame) (children : List Char) : List Char :=
  f.header.elim [] String.toList ++ f.brackets.elim [] (·.opening.toList) ++ children
    ++ f.brackets.elim [] (·.closing.toList) ++ f.footer.elim [] String.toList

def MethodStyle.flat (style : MethodStyle) (body : List Char) : List Char :=
  match style with
  | .block => ['{'] ++ body ++ ['}']
  | .arrow => ['=', '>'] ++ body ++ [';']
  | .abstract => [';']

/-- What opens a namespace, up to its bracket or semicolon. -/
def flatNamespace (name : String) : List Char :=
  ['n', 'a', 'm', 'e', 's', 'p', 'a', 'c', 'e'] ++ name.toList

mutual

/-- The texts of a node in order. -/
def Node.flat (lineStart : List Char) : Node → List Char
  | .raw text _ => text.toList
  | .block frame children => frame.flat (Node.flatAll lineStart children)
  | .typeDecl head bases terminated members =>
    head.flat lineStart bases
      ++ (if terminated then [';'] else ['{'] ++ Node.flatAll lineStart members ++ ['}'])
  | .methodDecl head style frame body =>
    head.flat lineStart []
      ++ style.flat (frame.flat (Node.flatAll lineStart body))
  | .namespaceDecl name entries =>
    flatNamespace name ++ ['{'] ++ Node.flatAll lineStart entries ++ ['}']
  | .doc comment => comment.flat lineStart
  | .attributes entries => entries.flatMap flatAttribute
  | .constraints entries => entries.flatMap flatConstraint
  | .separator _ => []

def Node.flatAll (lineStart : List Char) : List Node → List Char
  | [] => []
  | node :: rest => node.flat lineStart ++ Node.flatAll lineStart rest

end

/-- First line, import lines, the opening of the namespace, the nodes, the close of the namespace. -/
def Document.flat (d : Document) : List Char :=
  let entries := Node.flatAll d.config.docPrefix.toList d.nodes
  d.config.pragma.elim [] String.toList ++ d.imports.lines.flatMap String.toList
    ++ (match d.enclosing, d.config.namespaceStyle with
      | none, _ => entries
      | some name, .fileScoped => flatNamespace name ++ [';'] ++ entries
      | some name, .block => flatNamespace name ++ ['{'] ++ entries ++ ['}'])

namespace Plan

@[simp] theorem ink_nil : ink [] = [] := rfl

@[simp] theorem ink_cons (s : Stroke) (p : Plan) : ink (s :: p) = s.ink ++ ink p := rfl

@[simp] theorem ink_append (p q : Plan) : ink (p ++ q) = ink p ++ ink q := List.flatMap_append ..

@[simp] theorem ink_text (cs : List Char) : ink (text cs) = cs := by
  induction cs with
  | nil => rfl
  | cons c cs ih => exact congrArg (c :: ·) ih

@[simp] theorem ink_line (cs : List Char) : ink (line cs) = cs := by
  unfold line
  split <;> simp [Stroke.ink]

@[simp] theorem ink_rawLine (cs : List Char) : ink (rawLine cs) = cs := by
  unfold rawLine
  split <;> simp [Stroke.ink]

@[simp] theorem ink_blankLine : ink blankLine = [] := rfl

@[simp] theorem ink_close (tail : Bool) (cs : List Char) : ink (close tail cs) = cs := by
  unfold close
  split <;> simp

@[simp] theorem ink_scope (p : Plan) : ink (scope p) = ink p := by
  simp [scope, Stroke.ink]

@[simp] theorem ink_braced (tail : Bool) (p : Plan) : ink (braced tail p) = ['{'] ++ ink p ++ ['}'] := by
  simp [braced]

@[simp] theorem ink_lines (tail : Bool) (texts : List (List Char)) :
    ink (lines tail texts) = texts.flatten := by
  induction texts with
  | nil => rfl
  | cons cs rest ih =>
    cases rest with
    | nil => cases tail <;> simp [lines]
    | cons next rest => simp [lines, ih]

end Plan

private theorem Plan.visible_ink_lines {α : Type} {f g : α → List Char}
    (h : ∀ x, visible (f x) = visible (g x)) (tail : Bool) (xs : List α) :
    visible (lines tail (xs.map f)).ink = visible (xs.flatMap g) := by
  rw [ink_lines, ← List.flatMap_def, Text.visible_flatMap h]

private theorem join_eq_flatMap (separator first : List Char) (rest : List (List Char)) :
    Text.join separator (first :: rest) = first ++ rest.flatMap (separator ++ ·) := by
  induction rest generalizing first with
  | nil => simp [Text.join_singleton]
  | cons next rest ih =>
    rw [Text.join_cons (List.cons_ne_nil next rest), ih, List.flatMap_cons, List.append_assoc,
      List.append_assoc]

private theorem visible_attributeLine (entry : String) :
    visible (attributeLine entry) = visible (flatAttribute entry) := by
  unfold attributeLine flatAttribute
  split
  · next hhead =>
    obtain ⟨rest, hrest⟩ := List.head?_eq_some_iff.mp hhead
    simp only [hrest]
  · next hhead =>
    split
    · next rest hrest => exact absurd (congrArg List.head? hrest) hhead
    · rfl

private theorem visible_constraintLine (entry : String) :
    visible (constraintLine entry) = visible (flatConstraint entry) := by
  have hkeyword : visible "where ".toList = visible "where".toList := rfl
  simp only [constraintLine, flatConstraint, List.isPrefixOf_iff_prefix]
  split
  · rfl
  · rw [Text.visible_append, Text.visible_append, hkeyword]

private theorem visible_typeSignature (head : Head) (bases : List String) :
    visible (typeSignature head bases) = visible (head.signature.toList ++ flatBases bases) := by
  cases bases with
  | nil => simp [typeSignature, flatBases]
  | cons base more =>
    have hcolon : visible " : ".toList = visible [':'] := rfl
    have hcomma (next : String) : visible (", ".toList ++ next.toList) = visible ([','] ++ next.toList) :=
      rfl
    simp only [typeSignature, flatBases, List.isEmpty_cons, Bool.false_eq_true, if_false, List.map_cons,
      join_eq_flatMap, List.flatMap_map, Text.visible_append, hcolon, Text.visible_flatMap hcomma,
      List.append_assoc]

/-- The lines of a comment show its flat form; the blank behind the start of a line is layout. -/
theorem DocComment.visible_lines (d : DocComment) (lineStart : List Char) :
    visible (d.lines lineStart).flatten = visible (d.flat lineStart) := by
  have hline (piece : List Char) :
      visible (if (Text.chop '\r' piece).isEmpty then lineStart
        else lineStart ++ ' ' :: Text.chop '\r' piece) = visible (lineStart ++ piece) := by
    have hchop := Text.visible_chop (c := '\r') rfl piece
    split
    · next h => rw [List.isEmpty_iff.mp h] at hchop; simp [← hchop]
    · have hspace : visible [' '] = [] := rfl
      rw [Text.visible_append, Text.visible_cons, hspace, hchop]
      simp
  have hlines : (d.lines lineStart).flatten = d.texts.flatMap fun text =>
      (Text.pieces '\n' text).flatMap fun piece => if (Text.chop '\r' piece).isEmpty then lineStart
        else lineStart ++ ' ' :: Text.chop '\r' piece := by
    simp only [lines, List.flatMap_def, List.flatten_flatten, List.map_map, Function.comp_def]
  rw [hlines, flat]
  exact Text.visible_flatMap (fun text => Text.visible_flatMap hline (Text.pieces '\n' text)) d.texts

private theorem visible_ink_planRaw (text : String) (verbatim tail : Bool) :
    visible (planRaw text verbatim tail).ink = visible text.toList := by
  cases verbatim <;> cases tail <;> simp [planRaw, Stroke.ink, Text.visible_chopLineEnd]

namespace Head

private theorem visible_ink_planComment (h : Head) (lineStart : List Char) :
    visible (h.planComment lineStart).ink = visible (h.doc.elim [] (·.flat lineStart)) := by
  unfold planComment
  cases h.doc with
  | none => rfl
  | some doc =>
    by_cases he : doc.isEmpty
    · have htexts : doc.texts = [] := by
        simp only [DocComment.isEmpty, Bool.and_eq_true, Option.isNone_iff_eq_none,
          List.isEmpty_iff] at he
        simp [DocComment.texts, he]
      simp [he, DocComment.flat, htexts]
    · simpa [he, DocComment.plan] using doc.visible_lines lineStart

private theorem visible_ink_planPreamble (h : Head) (lineStart : List Char) :
    visible (h.planPreamble lineStart).ink
      = visible (h.doc.elim [] (·.flat lineStart) ++ h.attributes.flatMap flatAttribute) := by
  rw [planPreamble, Plan.ink_append, Text.visible_append, Text.visible_append, h.visible_ink_planComment,
    Plan.visible_ink_lines visible_attributeLine]

private theorem visible_ink_plan (h : Head) (signature : List Char) {rest : Bool → Plan} {cs : List Char}
    (hr : ∀ nested, visible (rest nested).ink = visible cs) : visible (h.plan signature rest).ink
      = visible (signature ++ h.constraints.flatMap flatConstraint ++ cs) := by
  unfold plan
  split
  · next he => simp [List.isEmpty_iff.mp he, hr]
  · have hconstraints := Plan.visible_ink_lines visible_constraintLine true h.constraints
    simp [hr, hconstraints, -Plan.ink_lines]

private theorem visible_ink_planOpen (h : Head) (signature : List Char) :
    visible (h.planOpen signature).ink
      = visible (signature ++ h.constraints.flatMap flatConstraint) := by
  have hend (nested : Bool) : visible (Plan.ink ((fun _ => [.endLine]) nested)) = visible [] := rfl
  have hplan := h.visible_ink_plan signature hend
  rwa [List.append_nil] at hplan

private theorem visible_ink_planClosed (h : Head) (signature : List Char) (tail : Bool)
    {rest : Bool → Plan} {cs : List Char} (hr : ∀ nested, visible (rest nested).ink = visible cs) :
    visible (h.planClosed signature tail rest).ink
      = visible (signature ++ h.constraints.flatMap flatConstraint ++ (cs ++ [';'])) := by
  apply h.visible_ink_plan signature
  intro nested
  rw [Plan.ink_append, Text.visible_append, Text.visible_append, hr]
  cases nested <;> cases tail <;> rfl

end Head

private theorem Frame.visible_ink_plan (f : Frame) {children : Bool → Plan} {cs : List Char}
    (hc : ∀ glue, visible (children glue).ink = visible cs) (tail : Bool) :
    visible (f.plan children tail).ink = visible (f.flat cs) := by
  have hheader : f.planHeader.ink = f.header.elim [] String.toList := by
    unfold planHeader
    cases f.header <;> cases f.joined <;> simp
  have hfooter : (f.planFooter tail).ink = f.footer.elim [] String.toList := by
    unfold planFooter
    cases f.footer <;> cases tail <;> simp [Stroke.ink]
  rw [plan, flat, Plan.ink_append, Plan.ink_append, hheader, hfooter]
  unfold planChildren
  cases f.brackets <;> simp [hc]

private theorem visible_flatNamespace (name : String) :
    visible (flatNamespace name) = visible "namespace ".toList ++ visible name.toList := by
  have hsplit : "namespace ".toList = ['n', 'a', 'm', 'e', 's', 'p', 'a', 'c', 'e'] ++ [' '] := by
    decide
  have hspace : visible [' '] = [] := rfl
  rw [hsplit, flatNamespace, Text.visible_append, Text.visible_append, hspace, List.append_nil]

private theorem visible_ink_nothing (nested : Bool) :
    visible (Plan.ink ((fun _ => []) nested)) = visible [] := rfl

mutual

/-- The plan of a node shows the flat form of the node. -/
theorem Node.visible_ink_plan (lineStart : List Char) : ∀ (n : Node) (tail : Bool),
    visible (n.plan lineStart tail).ink = visible (n.flat lineStart)
  | .raw text verbatim, tail => by
    simp only [Node.plan, Node.flat]
    exact visible_ink_planRaw text verbatim tail
  | .block frame children, tail => by
    have hchildren (glue : Bool) :=
      Node.visible_ink_planAll lineStart .statements glue children {}
    simp only [Node.plan, Node.flat]
    exact frame.visible_ink_plan hchildren tail
  | .typeDecl head bases terminated members, tail => by
    have hmembers := Node.visible_ink_planAll lineStart .members false members {}
    have hclosed := head.visible_ink_planClosed (typeSignature head bases) tail visible_ink_nothing
    have hsignature := visible_typeSignature head bases
    rw [Text.visible_append] at hsignature
    simp only [Node.plan, Node.flat, Head.flat, Plan.ink_append, Text.visible_append,
      head.visible_ink_planPreamble]
    cases terminated
    · simp only [Bool.false_eq_true, if_false, head.visible_ink_planOpen, Plan.ink_append,
        Plan.ink_braced, Text.visible_append, hsignature, hmembers, List.append_assoc]
    · simp [hclosed, hsignature]
  | .methodDecl head style frame body, tail => by
    have hstatements (glue : Bool) :=
      Node.visible_ink_planAll lineStart .statements glue body {}
    have hbody := frame.visible_ink_plan hstatements
    have harrow (nested : Bool) : visible (Plan.ink
        ((if nested then .endLine :: Plan.text "=> ".toList else Plan.text " => ".toList)
          ++ frame.plan (fun glue => Node.planAll lineStart .statements glue body {}) true))
        = visible (['=', '>'] ++ frame.flat (Node.flatAll lineStart body)) := by
      rw [Plan.ink_append, Text.visible_append, Text.visible_append, hbody]
      cases nested <;> rfl
    simp only [Node.plan, Node.flat, Head.flat, flatBases, List.append_nil, Plan.ink_append,
      Text.visible_append, head.visible_ink_planPreamble]
    cases style with
    | block =>
      simp only [MethodStyle.flat, head.visible_ink_planOpen, Plan.ink_append, Plan.ink_braced,
        Text.visible_append, hbody, List.append_assoc]
    | arrow =>
      simp only [MethodStyle.flat, head.visible_ink_planClosed _ tail harrow, Text.visible_append,
        List.append_assoc]
    | abstract =>
      have hclosed := head.visible_ink_planClosed head.signature.toList tail visible_ink_nothing
      simp [MethodStyle.flat, hclosed]
  | .namespaceDecl name entries, tail => by
    have hentries := Node.visible_ink_planAll lineStart .entries false entries {}
    simp only [Node.plan, Node.flat, Plan.ink_append, Plan.ink_line, Plan.ink_braced,
      Text.visible_append, visible_flatNamespace, hentries, List.append_assoc]
  | .doc comment, _ => by
    simp only [Node.plan, Node.flat, DocComment.plan, Plan.ink_lines]
    exact comment.visible_lines lineStart
  | .attributes entries, tail => by
    simp only [Node.plan, Node.flat]
    exact Plan.visible_ink_lines visible_attributeLine tail entries
  | .constraints entries, tail => by
    simp only [Node.plan, Node.flat]
    exact Plan.visible_ink_lines visible_constraintLine tail entries
  | .separator _, _ => rfl

private theorem Node.visible_ink_planAll (lineStart : List Char) (spacing : Spacing) (tail : Bool) :
    ∀ (nodes : List Node) (gap : Gap),
    visible (Node.planAll lineStart spacing tail nodes gap).ink
      = visible (Node.flatAll lineStart nodes)
  | [], gap => by
    unfold Node.planAll
    split <;> rfl
  | node :: rest, gap => by
    cases hs : node.separation? with
    | some forced =>
      have hnode : node.flat lineStart = [] := by
        cases node <;> simp_all [Node.separation?, Node.flat]
      simp only [Node.planAll, Node.flatAll, hs, hnode, List.nil_append]
      exact Node.visible_ink_planAll lineStart spacing tail rest (gap.widen forced)
    | none =>
      have hrest := Node.visible_ink_planAll lineStart spacing tail rest
        { previous := some node.isDeclaration }
      have hgap : Plan.ink (if gap.blank spacing node.isDeclaration then Plan.blankLine else []) = [] := by
        split <;> rfl
      have hend : Plan.ink (if tail && Node.allSeparators rest then [] else [.endLine]) = [] := by
        split <;> rfl
      simp only [Node.planAll, Node.flatAll, hs, Plan.ink_append, Text.visible_append, hrest, hgap,
        hend, node.visible_ink_plan lineStart, List.nil_append, List.append_nil]

end

theorem Document.visible_ink_plan (d : Document) : visible d.plan.ink = visible d.flat := by
  have hentries := Node.visible_ink_planAll d.config.docPrefix.toList .entries false d.nodes {}
  have hpragma : d.planPragma.ink = d.config.pragma.elim [] String.toList := by
    unfold planPragma
    cases d.config.pragma <;> simp
  have hblank (b : Bool) : Plan.ink (if b then Plan.blankLine else []) = [] := by
    cases b <;> rfl
  have hpreamble : d.planPreamble.ink
      = d.config.pragma.elim [] String.toList ++ d.imports.lines.flatMap String.toList := by
    simp only [planPreamble, Plan.ink_append, Plan.ink_lines, hpragma, hblank, List.flatMap_def,
      List.append_nil]
  rw [plan, Plan.ink_append, hpreamble, flat]
  simp only [Text.visible_append, List.append_assoc]
  congr 2
  unfold planEntries
  cases d.enclosing with
  | none => exact hentries
  | some name =>
    cases d.config.namespaceStyle with
    | block =>
      simp only [Plan.ink_append, Plan.ink_line, Plan.ink_braced, Text.visible_append,
        visible_flatNamespace, hentries, List.append_assoc]
    | fileScoped =>
      simp only [Plan.ink_append, Plan.ink_line, Plan.ink_blankLine, Text.visible_append,
        visible_flatNamespace, hentries, List.append_assoc, List.nil_append]

end CodeScribe
