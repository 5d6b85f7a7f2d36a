import CodeScribe.Proofs.Depth.Run
import CodeScribe.Proofs.Plan.Raw

/-! Indentation is compositional: a tree laid out some levels deeper is the same text with so many units
in front of its lines. -/
namespace CodeScribe
open Text (shift)
open Plan (raws)

namespace Plan

/-- Every line of a plan is indented if it writes no text as it stands. -/
theorem reflows_iff_raws {p : Plan} : reflows p = true ↔ raws p = [] := by
  rw [reflows, raws, List.all_eq_true, List.filterMap_eq_nil_iff]
  refine forall₂_congr fun s _ => ?_
  cases s <;> simp [Stroke.isRaw, Stroke.raw?]

@[simp] theorem reflows_cons (s : Stroke) (p : Plan) : reflows (s :: p) = (!s.isRaw && reflows p) := rfl

@[simp] theorem reflows_line (cs : List Char) : reflows (line cs) = true :=
  reflows_iff_raws.mpr (raws_line cs)

end Plan
open Plan (reflows)

mutual

def Node.hasVerbatim : Node → Bool
  | .raw _ verbatim => verbatim
  | .block _ children => Node.anyVerbatim children
  | .typeDecl _ _ _ members => Node.anyVerbatim members
  | .methodDecl _ _ _ body => Node.anyVerbatim body
  | .namespaceDecl _ entries => Node.anyVerbatim entries
  | .doc _ => false
  | .attributes _ => false
  | .constraints _ => false
  | .separator _ => false

def Node.anyVerbatim : List Node → Bool
  | [] => false
  | node :: rest => node.hasVerbatim || Node.anyVerbatim rest

end

mutual

private theorem Node.verbatims_eq_nil :
    ∀ (n : Node) (tail : Bool), n.hasVerbatim = false → n.verbatims tail = []
  | .raw _ false, _, _ => rfl
  | .block frame children, tail, h => Node.allVerbatims_eq_nil (frame.inTail tail) children h
  | .typeDecl _ _ terminated members, _, h => by
    rw [Node.verbatims, Node.allVerbatims_eq_nil false members h, ite_self]
  | .methodDecl _ style frame body, _, h =>
    match style with
    | .block => Node.allVerbatims_eq_nil (frame.inTail false) body h
    | .arrow => Node.allVerbatims_eq_nil (frame.inTail true) body h
    | .abstract => rfl
  | .namespaceDecl _ entries, _, h => Node.allVerbatims_eq_nil false entries h
  | .doc _, _, _ => rfl
  | .attributes _, _, _ => rfl
  | .constraints _, _, _ => rfl
  | .separator _, _, _ => rfl

private theorem Node.allVerbatims_eq_nil (tail : Bool) : ∀ nodes : List Node,
    Node.anyVerbatim nodes = false → Node.allVerbatims tail nodes = []
  | [], _ => rfl
  | node :: rest, h => by
    obtain ⟨hnode, hrest⟩ : node.hasVerbatim = false ∧ Node.anyVerbatim rest = false := by
      simpa [Node.anyVerbatim] using h
    rw [Node.allVerbatims, Node.verbatims_eq_nil node _ hnode, Node.allVerbatims_eq_nil tail rest hrest]
    rfl

end

private theorem Node.reflows_plan (lineStart : List Char) (n : Node) (tail : Bool)
    (h : n.hasVerbatim = false) : reflows (n.plan lineStart tail) = true := by
  rw [Plan.reflows_iff_raws, n.raws_plan, n.verbatims_eq_nil tail h]

theorem Document.reflows_plan {d : Document} (h : Node.anyVerbatim d.nodes = false) :
    reflows d.plan = true := by
  rw [Plan.reflows_iff_raws, d.raws_plan, Node.allVerbatims_eq_nil false d.nodes h]

private theorem deeper_new (config : Config) (d k : Nat) :
    Deeper k ((Writer.new config).deepen d) ((Writer.new config).deepen (d + k)) where
  config := rfl
  line := rfl
  depth := by simp only [Writer.deepen]; omega
  classify := ⟨rfl, rfl⟩
  start := ⟨rfl, rfl⟩
  unbroken := by simp [Writer.deepen, Writer.new]
  output := rfl

/-- A tree without verbatim text, laid out some levels deeper, is the same text with so many units of
indentation in front of every line that is not empty. No tree changes the depth. -/
theorem Node.text_render_deeper (config : Config) {n : Node} (hn : n.hasVerbatim = false)
    (tail : Bool) (d k : Nat) :
    (n.render tail ((Writer.new config).deepen (d + k))).text =
        shift (List.replicate k config.indent.unit).flatten
          (n.render tail ((Writer.new config).deepen d)).text ∧
      ∀ w : Writer, (n.render tail w).depth = w.depth := by
  constructor
  · have hplan (levels : Nat) : n.render tail ((Writer.new config).deepen levels) =
        ((Writer.new config).deepen levels).follow (n.plan config.docPrefix.toList tail) :=
      n.writes_plan tail _ rfl
    have hrun := (deeper_new config d k).follow (n.balanced_plan config.docPrefix.toList tail)
      (n.reflows_plan config.docPrefix.toList tail hn)
    rw [hplan, hplan, hrun.text, Writer.config_follow]
    rfl
  · intro w
    rw [n.writes_plan tail w rfl, (n.balanced_plan _ tail).depth_follow]

/-- A method with constraints, whose body in braces has an empty line, a line of blanks and a line that
stays open. -/
def spacedMethod : Node :=
  .methodDecl { signature := "T Get()", constraints := ["T : I"] } .block { expression := true }
    [.block { header := some "if (x)", brackets := some Brackets.braces } [.raw "a;\n \nb;" false],
      .separator false, .raw "c" false]

theorem text_render_spacedMethod :
    spacedMethod.hasVerbatim = false ∧
      (spacedMethod.render true ((Writer.new { newline := .crlf, indent := .tab }).deepen (1 + 2))).text =
        shift ['\t', '\t']
          (spacedMethod.render true ((Writer.new { newline := .crlf, indent := .tab }).deepen 1)).text ∧
      ∀ w : Writer, (spacedMethod.render true w).depth = w.depth :=
  have h : spacedMethod.hasVerbatim = false := rfl
  ⟨h, Node.text_render_deeper { newline := .crlf, indent := .tab } h true 1 2⟩

end CodeScribe
