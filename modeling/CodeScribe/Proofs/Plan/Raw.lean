import CodeScribe.Proofs.Plan.Basic

/-! The verbatim texts of a plan. They are those of its tree, in order. -/
namespace CodeScribe

def Stroke.raw? : Stroke → Option (List Char)
  | .raw text => some text
  | _ => none

def Plan.raws (p : Plan) : List (List Char) := p.filterMap Stroke.raw?

namespace Plan

@[simp] theorem raws_nil : raws [] = [] := rfl

theorem raws_cons (s : Stroke) (p : Plan) : raws (s :: p) = raws [s] ++ raws p :=
  List.filterMap_append (l := [s])

@[simp] theorem raws_append (p q : Plan) : raws (p ++ q) = raws p ++ raws q := List.filterMap_append

@[simp] theorem raws_text (cs : List Char) : raws (text cs) = [] := by
  rw [raws, text, List.filterMap_map, List.filterMap_eq_nil_iff]
  exact fun _ _ => rfl

@[simp] theorem raws_line (cs : List Char) : raws (line cs) = [] := by
  unfold line
  split
  · exact raws_text cs
  · rw [raws_append, raws_text]
    rfl

@[simp] theorem raws_blankLine : raws blankLine = [] := rfl

@[simp] theorem raws_close (tail : Bool) (cs : List Char) : raws (close tail cs) = [] := by
  unfold close
  split
  · exact raws_text cs
  · exact raws_line cs

@[simp] theorem raws_lines (tail : Bool) (texts : List (List Char)) : raws (lines tail texts) = [] := by
  induction texts with
  | nil => rfl
  | cons cs rest ih =>
    cases rest with
    | nil => exact raws_close tail cs
    | cons next rest => simp [lines, ih]

@[simp] theorem raws_endLine (inTail : Bool) : raws (if inTail then [] else [.endLine]) = [] := by
  split <;> rfl

@[simp] theorem raws_gap (wide : Bool) : raws (if wide then blankLine else []) = [] := by
  split <;> rfl

@[simp] theorem raws_scope (body : Plan) : raws (scope body) = raws body := by
  rw [scope, raws_cons, raws_append]
  exact List.append_nil (raws body)

@[simp] theorem raws_braced (tail : Bool) (body : Plan) : raws (braced tail body) = raws body := by
  simp [braced]

end Plan
open Plan (raws)

/-- Whether the children of a block are in tail position. -/
def Frame.inTail (f : Frame) (tail : Bool) : Bool := f.brackets.isNone && f.glues tail

mutual

/-- The verbatim texts that a tree writes, in order. One in tail position loses a line end. -/
def Node.verbatims : Node → Bool → List (List Char)
  | .raw text verbatim, tail =>
    if verbatim then [if tail then Text.chopLineEnd text.toList else text.toList] else []
  | .block frame children, tail => Node.allVerbatims (frame.inTail tail) children
  | .typeDecl _ _ terminated members, _ => if terminated then [] else Node.allVerbatims false members
  | .methodDecl _ style frame body, _ =>
    match style with
    | .block => Node.allVerbatims (frame.inTail false) body
    | .arrow => Node.allVerbatims (frame.inTail true) body
    | .abstract => []
  | .namespaceDecl _ entries, _ => Node.allVerbatims false entries
  | .doc _, _ => []
  | .attributes _, _ => []
  | .constraints _, _ => []
  | .separator _, _ => []

def Node.allVerbatims (tail : Bool) : List Node → List (List Char)
  | [] => []
  | node :: rest => node.verbatims (tail && Node.allSeparators rest) ++ Node.allVerbatims tail rest

end

private theorem Node.verbatims_separator {n : Node} {forced : Bool} (h : n.separation? = some forced)
    (tail : Bool) : n.verbatims tail = [] := by
  cases n with
  | separator => rfl
  | _ => cases h

private theorem raws_planRaw (text : String) (verbatim tail : Bool) :
    raws (planRaw text verbatim tail) =
      if verbatim then [if tail then Text.chopLineEnd text.toList else text.toList] else [] :=
  match verbatim, tail with
  | false, false => Plan.raws_line _
  | false, true => Plan.raws_text _
  | true, false => by
    rw [planRaw, Plan.rawLine]
    split <;> rfl
  | true, true => rfl

namespace Head
variable (h : Head) (lineStart signature : List Char)

@[simp] theorem raws_planPreamble : raws (h.planPreamble lineStart) = [] := by
  have hcomment : raws (h.planComment lineStart) = [] := by
    unfold planComment
    cases h.doc with
    | none => rfl
    | some doc =>
      dsimp only
      split
      · rfl
      · exact Plan.raws_lines false _
  rw [planPreamble, Plan.raws_append, hcomment, Plan.raws_lines, List.append_nil]

private theorem raws_plan {rest : Bool → Plan} {texts : List (List Char)}
    (hr : ∀ nested, raws (rest nested) = texts) : raws (h.plan signature rest) = texts := by
  unfold plan
  split <;> simp [hr]

@[simp] theorem raws_planOpen : raws (h.planOpen signature) = [] :=
  h.raws_plan signature fun _ => rfl

private theorem raws_planClosed (tail : Bool) {text : Bool → Plan} {texts : List (List Char)}
    (ht : ∀ nested, raws (text nested) = texts) : raws (h.planClosed signature tail text) = texts := by
  apply h.raws_plan signature
  intro nested
  rw [Plan.raws_append, ht]
  split <;> exact List.append_nil texts

end Head

private theorem Frame.raws_plan (f : Frame) {children : Bool → Plan} {texts : Bool → List (List Char)}
    (hc : ∀ glue, raws (children glue) = texts glue) (tail : Bool) :
    raws (f.plan children tail) = texts (f.inTail tail) := by
  have hheader : raws f.planHeader = [] := by
    unfold planHeader
    cases f.header <;> cases f.joined <;> simp
  have hchildren : raws (f.planChildren children tail) = texts (f.inTail tail) := by
    unfold planChildren inTail
    cases f.brackets <;> simp [hc]
  have hfooter : raws (f.planFooter tail) = [] := by
    unfold planFooter
    cases f.footer <;> simp
  rw [plan, Plan.raws_append, Plan.raws_append, hheader, hchildren, hfooter, List.append_nil,
    List.nil_append]

section
variable (lineStart : List Char)

mutual

theorem Node.raws_plan : ∀ (n : Node) (tail : Bool), raws (n.plan lineStart tail) = n.verbatims tail
  | .raw text verbatim, tail => raws_planRaw text verbatim tail
  | .block frame children, tail =>
    frame.raws_plan (fun glue => Node.raws_planAll .statements glue children {}) tail
  | .typeDecl head bases terminated members, tail => by
    have hmembers := Node.raws_planAll .members false members {}
    rw [Node.plan, Plan.raws_append, head.raws_planPreamble, Node.verbatims]
    cases terminated with
    | true => exact head.raws_planClosed _ tail fun _ => rfl
    | false => simp [hmembers]
  | .methodDecl head style frame body, tail => by
    have hbody := frame.raws_plan fun glue => Node.raws_planAll .statements glue body {}
    have hpreamble {p : Plan} {texts : List (List Char)} (hp : raws p = texts) :
        raws (head.planPreamble lineStart ++ p) = texts := by
      rw [Plan.raws_append, head.raws_planPreamble, hp, List.nil_append]
    cases style with
    | block => exact hpreamble (by simp [hbody, Node.verbatims])
    | arrow =>
      refine hpreamble (head.raws_planClosed _ tail fun nested => ?_)
      rw [Plan.raws_append, hbody]
      cases nested <;> rfl
    | abstract => exact hpreamble (head.raws_planClosed _ tail fun _ => rfl)
  | .namespaceDecl name entries, tail => by
    have hentries := Node.raws_planAll .entries false entries {}
    simp [Node.plan, Node.verbatims, hentries]
  | .doc comment, _ => Plan.raws_lines false _
  | .attributes entries, tail => Plan.raws_lines tail _
  | .constraints entries, tail => Plan.raws_lines tail _
  | .separator _, _ => rfl

private theorem Node.raws_planAll (spacing : Spacing) (tail : Bool) : ∀ (nodes : List Node) (gap : Gap),
    raws (Node.planAll lineStart spacing tail nodes gap) = Node.allVerbatims tail nodes
  | [], gap => Plan.raws_gap (gap.forced && !tail)
  | node :: rest, gap => by
    cases hs : node.separation? with
    | some forced =>
      simp only [Node.planAll, hs]
      rw [Node.raws_planAll spacing tail rest (gap.widen forced), Node.allVerbatims,
        Node.verbatims_separator hs, List.nil_append]
    | none =>
      simp only [Node.planAll, hs]
      rw [Plan.raws_append, Plan.raws_append, Plan.raws_append, Plan.raws_gap, Plan.raws_endLine,
        Node.raws_plan node _, Node.raws_planAll spacing tail rest _, Node.allVerbatims, List.nil_append,
        List.append_nil]

end

end

/-- The preamble of a document writes no verbatim text. -/
theorem Document.raws_plan (d : Document) : raws d.plan = Node.allVerbatims false d.nodes := by
  have hpragma : raws d.planPragma = [] := by
    unfold planPragma
    cases d.config.pragma with
    | none => rfl
    | some pragma => exact Plan.raws_line _
  have hpreamble : raws d.planPreamble = [] := by
    simp only [planPreamble, Plan.raws_append, hpragma, Plan.raws_gap, Plan.raws_lines, List.append_nil]
  have hentries := Node.raws_planAll d.config.docPrefix.toList .entries false d.nodes {}
  rw [plan, Plan.raws_append, hpreamble, List.nil_append]
  unfold planEntries
  cases d.enclosing with
  | none => exact hentries
  | some name => cases d.config.namespaceStyle <;> simp [hentries]

end CodeScribe
