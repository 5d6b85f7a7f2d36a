import CodeScribe.Proofs.Ink.Flat
import CodeScribe.Proofs.InputEnds.Texts

/-! Documents without carriage returns. The plan of one brings in none. -/
namespace CodeScribe

namespace Plan

private theorem return_not_mem_append {p q : Plan} (hp : '\r' ∉ p.ink) (hq : '\r' ∉ q.ink) :
    '\r' ∉ ink (p ++ q) := by
  simp [hp, hq]

private theorem return_not_mem_ite (b : Bool) {p q : Plan} (hp : '\r' ∉ p.ink) (hq : '\r' ∉ q.ink) :
    '\r' ∉ ink (if b then p else q) := by
  cases b
  · exact hq
  · exact hp

private theorem return_not_mem_lines {texts : List (List Char)} (h : ∀ cs ∈ texts, '\r' ∉ cs) (tail : Bool) :
    '\r' ∉ ink (lines tail texts) := by
  rw [ink_lines, List.mem_flatten]
  rintro ⟨cs, hcs, hm⟩
  exact h cs hcs hm

/-- Texts that a tree makes of its strings, one for each. -/
private theorem return_not_mem_entries {line : String → List Char}
    (hline : ∀ {s : String}, '\r' ∉ s.toList → '\r' ∉ line s) {texts : List String}
    (h : ∀ s ∈ texts, '\r' ∉ s.toList) (tail : Bool) : '\r' ∉ ink (lines tail (texts.map line)) := by
  apply return_not_mem_lines
  intro cs hcs
  obtain ⟨s, hs, rfl⟩ := List.mem_map.mp hcs
  exact hline (h s hs)

end Plan

private theorem DocComment.return_not_mem_plan {d : DocComment} (h : ∀ s ∈ d.strings, '\r' ∉ s.toList)
    {lineStart : List Char} (hstart : '\r' ∉ lineStart) : '\r' ∉ (d.plan lineStart).ink := by
  apply Plan.return_not_mem_lines
  intro line hline
  simp only [lines, List.mem_flatMap, List.mem_map] at hline
  obtain ⟨text, htext, piece, hpiece, rfl⟩ := hline
  have hclean : '\r' ∉ Text.chop '\r' piece := fun hm =>
    return_not_mem_texts h htext (Text.pieces_subset hpiece ((Text.chop_isPrefix '\r' piece).subset hm))
  split
  · exact hstart
  · simp [hstart, hclean]

private theorem return_not_mem_planRaw {s : String} (h : '\r' ∉ s.toList) (verbatim tail : Bool) :
    '\r' ∉ (planRaw s verbatim tail).ink := by
  have hchop : '\r' ∉ Text.chopLineEnd s.toList := return_not_mem_chopLineEnd h
  cases verbatim <;> cases tail <;> simp [planRaw, Stroke.ink, h, hchop]

namespace Head
variable {h : Head}

private theorem return_not_mem_planPreamble (hs : ∀ s ∈ h.strings, '\r' ∉ s.toList) {lineStart : List Char}
    (hstart : '\r' ∉ lineStart) : '\r' ∉ (h.planPreamble lineStart).ink := by
  simp only [strings, List.mem_cons, List.mem_append] at hs
  have hattributes : ∀ s ∈ h.attributes, '\r' ∉ s.toList := fun s hm => hs s (by simp [hm])
  refine Plan.return_not_mem_append ?_
    (Plan.return_not_mem_entries return_not_mem_attributeLine hattributes false)
  unfold planComment
  cases hd : h.doc with
  | none => simp
  | some d =>
    have hdoc := DocComment.return_not_mem_plan (d := d) (fun s hm => hs s (by simp [hd, hm])) hstart
    exact Plan.return_not_mem_ite d.isEmpty (by simp) hdoc

private theorem return_not_mem_plan (hs : ∀ s ∈ h.strings, '\r' ∉ s.toList) {signature : List Char}
    (hsignature : '\r' ∉ signature) {rest : Bool → Plan} (hr : ∀ nested, '\r' ∉ (rest nested).ink) :
    '\r' ∉ (h.plan signature rest).ink := by
  simp only [strings, List.mem_cons, List.mem_append] at hs
  have hclean : ∀ s ∈ h.constraints, '\r' ∉ s.toList := fun s hm => hs s (by simp [hm])
  have hconstraints := Plan.return_not_mem_entries return_not_mem_constraintLine hclean true
  apply Plan.return_not_mem_ite
  · simp [hsignature, hr]
  · rw [Plan.ink_append, Plan.ink_line, Plan.ink_scope, List.mem_append, not_or]
    exact ⟨hsignature, Plan.return_not_mem_append hconstraints (hr true)⟩

private theorem return_not_mem_planOpen (hs : ∀ s ∈ h.strings, '\r' ∉ s.toList) {signature : List Char}
    (hsignature : '\r' ∉ signature) : '\r' ∉ (h.planOpen signature).ink :=
  return_not_mem_plan hs hsignature fun _ => by simp [Stroke.ink]

private theorem return_not_mem_planClosed (hs : ∀ s ∈ h.strings, '\r' ∉ s.toList) {signature : List Char}
    (hsignature : '\r' ∉ signature) (tail : Bool) {text : Bool → Plan}
    (ht : ∀ nested, '\r' ∉ (text nested).ink) : '\r' ∉ (h.planClosed signature tail text).ink := by
  refine return_not_mem_plan hs hsignature fun nested => Plan.return_not_mem_append (ht nested) ?_
  split <;> simp [Stroke.ink]

end Head

private theorem Frame.return_not_mem_plan {f : Frame} (hs : ∀ s ∈ f.strings, '\r' ∉ s.toList)
    {children : Bool → Plan} (hc : ∀ glue, '\r' ∉ (children glue).ink) (tail : Bool) :
    '\r' ∉ (f.plan children tail).ink := by
  simp only [strings, List.mem_append] at hs
  have hheader : '\r' ∉ f.planHeader.ink := by
    unfold planHeader
    cases hh : f.header with
    | none => simp
    | some header =>
      have hclean : '\r' ∉ header.toList := hs header (by simp [hh])
      exact Plan.return_not_mem_ite f.joined (by simpa) (by simpa)
  have hchildren : '\r' ∉ (f.planChildren children tail).ink := by
    unfold planChildren
    cases hb : f.brackets with
    | none => exact hc _
    | some brackets =>
      have hopening : '\r' ∉ brackets.opening.toList := hs _ (by simp [hb])
      have hclosing : '\r' ∉ brackets.closing.toList := hs _ (by simp [hb])
      simp [hopening, hclosing, hc]
  have hfooter : '\r' ∉ (f.planFooter tail).ink := by
    unfold planFooter
    cases hf : f.footer with
    | none => simp
    | some footer =>
      have hclean : '\r' ∉ footer.toList := hs footer (by simp [hf])
      have hend := Plan.return_not_mem_ite tail (p := []) (q := [.endLine]) (by simp) (by simp [Stroke.ink])
      exact Plan.return_not_mem_append (by simpa) hend
  exact Plan.return_not_mem_append (Plan.return_not_mem_append hheader hchildren) hfooter

section
variable {lineStart : List Char}

mutual

private theorem Node.return_not_mem_plan (hstart : '\r' ∉ lineStart) : ∀ (n : Node) (tail : Bool),
    (∀ s ∈ n.strings, '\r' ∉ s.toList) → '\r' ∉ (n.plan lineStart tail).ink
  | .raw text verbatim, tail, h => return_not_mem_planRaw (h text (by simp [strings])) verbatim tail
  | .block frame children, tail, h => by
    simp only [strings, List.forall_mem_append] at h
    exact Frame.return_not_mem_plan h.1
      (fun glue => Node.return_not_mem_planAll hstart .statements glue children {} h.2) tail
  | .typeDecl head bases terminated members, tail, h => by
    simp only [strings, List.forall_mem_append] at h
    obtain ⟨⟨hhead, hbases⟩, hmembers⟩ := h
    have hsignature : '\r' ∉ typeSignature head bases :=
      return_not_mem_typeSignature (hhead _ (by simp [Head.strings])) hbases
    have hbody := Node.return_not_mem_planAll hstart .members false members {} hmembers
    rw [plan]
    refine Plan.return_not_mem_append (Head.return_not_mem_planPreamble hhead hstart) ?_
    apply Plan.return_not_mem_ite
    · exact Head.return_not_mem_planClosed hhead hsignature tail fun _ => by simp
    · have hopen := Head.return_not_mem_planOpen hhead hsignature
      simp [hopen, hbody]
  | .methodDecl head style frame body, tail, h => by
    simp only [strings, List.forall_mem_append] at h
    obtain ⟨⟨hhead, hframe⟩, hstatements⟩ := h
    have hsignature : '\r' ∉ head.signature.toList := hhead _ (by simp [Head.strings])
    have hbody := Frame.return_not_mem_plan hframe fun glue =>
      Node.return_not_mem_planAll hstart .statements glue body {} hstatements
    unfold plan
    refine Plan.return_not_mem_append (Head.return_not_mem_planPreamble hhead hstart) ?_
    cases style with
    | block =>
      have hopen := Head.return_not_mem_planOpen hhead hsignature
      simp [hopen, hbody]
    | arrow =>
      exact Head.return_not_mem_planClosed hhead hsignature tail fun nested =>
        Plan.return_not_mem_append (by cases nested <;> decide) (hbody true)
    | abstract => exact Head.return_not_mem_planClosed hhead hsignature tail fun _ => by simp
  | .namespaceDecl name entries, tail, h => by
    simp only [strings, List.forall_mem_cons] at h
    have hentries := Node.return_not_mem_planAll hstart .entries false entries {} h.2
    simp [plan, h.1, hentries]
  | .doc comment, _, h => DocComment.return_not_mem_plan h hstart
  | .attributes entries, tail, h => Plan.return_not_mem_entries return_not_mem_attributeLine h tail
  | .constraints entries, tail, h => Plan.return_not_mem_entries return_not_mem_constraintLine h tail
  | .separator _, _, _ => by simp [plan]

private theorem Node.return_not_mem_planAll (hstart : '\r' ∉ lineStart) (spacing : Spacing) (tail : Bool) :
    ∀ (nodes : List Node) (gap : Gap), (∀ s ∈ allStrings nodes, '\r' ∉ s.toList) →
      '\r' ∉ (Node.planAll lineStart spacing tail nodes gap).ink
  | [], gap, _ => by
    rw [planAll]
    exact Plan.return_not_mem_ite _ (by simp) (by simp)
  | node :: rest, gap, h => by
    simp only [allStrings, List.forall_mem_append] at h
    have hrest (gap : Gap) := Node.return_not_mem_planAll hstart spacing tail rest gap h.2
    unfold planAll
    cases node.separation? with
    | some forced => exact hrest _
    | none =>
      have hnode := Node.return_not_mem_plan hstart node (tail && allSeparators rest) h.1
      have hgap := Plan.return_not_mem_ite (gap.blank spacing node.isDeclaration)
        (p := Plan.blankLine) (q := []) (by simp) (by simp)
      have hend := Plan.return_not_mem_ite (tail && allSeparators rest)
        (p := []) (q := [.endLine]) (by simp) (by simp [Stroke.ink])
      exact Plan.return_not_mem_append (Plan.return_not_mem_append
        (Plan.return_not_mem_append hgap hnode) hend) (hrest _)

end

end

namespace Document

/-- Every text that a document is made of: those of its settings, its import directives, the name of the
namespace around it, and the strings of its entries. -/
def strings (d : Document) : List String :=
  d.config.pragma.toList ++ [d.config.docPrefix] ++ d.imports.lines ++ d.enclosing.toList
    ++ Node.allStrings d.nodes

theorem return_not_mem_plan {d : Document} (h : ∀ s ∈ d.strings, '\r' ∉ s.toList) : '\r' ∉ d.plan.ink := by
  simp only [strings, List.forall_mem_append, List.forall_mem_singleton] at h
  obtain ⟨⟨⟨⟨hpragma, hprefix⟩, himports⟩, henclosing⟩, hnodes⟩ := h
  have hentries := Node.return_not_mem_planAll hprefix .entries false d.nodes {} hnodes
  have hgap (b : Bool) := Plan.return_not_mem_ite b (p := Plan.blankLine) (q := []) (by simp) (by simp)
  have hfirst : '\r' ∉ d.planPragma.ink := by
    unfold planPragma
    cases hp : d.config.pragma with
    | none => simp
    | some pragma =>
      have hclean : '\r' ∉ pragma.toList := hpragma pragma (by simp [hp])
      simpa
  have hlines : '\r' ∉ (Plan.lines false (d.imports.lines.map String.toList)).ink :=
    Plan.return_not_mem_entries (fun hs => hs) himports false
  refine Plan.return_not_mem_append (Plan.return_not_mem_append (Plan.return_not_mem_append
    (Plan.return_not_mem_append hfirst (hgap _)) hlines) (hgap _)) ?_
  unfold planEntries
  cases he : d.enclosing with
  | none => exact hentries
  | some name =>
    have hname : '\r' ∉ name.toList := henclosing name (by simp [he])
    cases d.config.namespaceStyle with
    | fileScoped => simp [hname, hentries]
    | block => simp [hname, hentries]

end Document
end CodeScribe
