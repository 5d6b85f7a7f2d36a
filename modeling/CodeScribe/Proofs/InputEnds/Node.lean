import CodeScribe.Proofs.InputEnds.Recast

/-! The plan of a tree of texts without carriage returns, and the plan of the same tree with one in front
of every line feed. -/
namespace CodeScribe

namespace Recasts

/-- Texts that a tree makes of its strings, one for each. -/
private theorem entries {line : String → List Char}
    (hline : ∀ s, line (crlfEnds s) = terminateWith .crlf (line s))
    (hclean : ∀ {s : String}, '\r' ∉ s.toList → '\r' ∉ line s) {texts : List String}
    (h : ∀ s ∈ texts, '\r' ∉ s.toList) (tail : Bool) :
    Recasts (Plan.lines tail (texts.map line)) (Plan.lines tail ((texts.map crlfEnds).map line)) := by
  have hall : ∀ cs ∈ texts.map line, '\r' ∉ cs := by
    intro cs hcs
    obtain ⟨s, hs, rfl⟩ := List.mem_map.mp hcs
    exact hclean (h s hs)
  have hmap : (texts.map crlfEnds).map line = (texts.map line).map (terminateWith .crlf) := by
    simp only [List.map_map, Function.comp_def, hline]
  rw [hmap]
  exact lines hall tail

private theorem planRaw {s : String} (h : '\r' ∉ s.toList) (verbatim tail : Bool) :
    Recasts (planRaw s verbatim tail) (planRaw (crlfEnds s) verbatim tail) := by
  have hchop : '\r' ∉ Text.chopLineEnd s.toList := return_not_mem_chopLineEnd h
  unfold CodeScribe.planRaw
  rw [toList_crlfEnds, chopLineEnd_terminateWith h]
  match verbatim, tail with
  | false, false => exact line h
  | false, true => exact text hchop
  | true, false => exact rawLine h
  | true, true => exact raw hchop

private theorem doc {d : DocComment} (h : ∀ s ∈ d.strings, '\r' ∉ s.toList) (lineStart : List Char) :
    Recasts (d.plan lineStart) ((d.mapStrings crlfEnds).plan lineStart) := by
  rw [DocComment.plan, DocComment.plan, DocComment.lines_mapStrings h]
  exact fixedLines _

end Recasts

namespace Head
variable {h : Head}

private theorem recasts_planPreamble (hs : ∀ s ∈ h.strings, '\r' ∉ s.toList) (lineStart : List Char) :
    Recasts (h.planPreamble lineStart) ((h.mapStrings crlfEnds).planPreamble lineStart) := by
  simp only [strings, List.mem_cons, List.mem_append] at hs
  have hclean : ∀ s ∈ h.attributes, '\r' ∉ s.toList := fun s hm => hs s (by simp [hm])
  refine Recasts.append ?_ (.entries attributeLine_crlfEnds return_not_mem_attributeLine hclean false)
  have hempty (d : DocComment) : (d.mapStrings crlfEnds).isEmpty = d.isEmpty := by
    simp [DocComment.isEmpty, DocComment.mapStrings]
  unfold planComment mapStrings
  cases hd : h.doc with
  | none => exact .nil
  | some d =>
    have hdoc := Recasts.doc (d := d) (fun s hm => hs s (by simp [hd, hm])) lineStart
    simp only [Option.map_some, hempty]
    exact .ite d.isEmpty .nil hdoc

private theorem recasts_plan (hs : ∀ s ∈ h.strings, '\r' ∉ s.toList) {signature : List Char}
    (hsignature : '\r' ∉ signature) {rest rest' : Bool → Plan}
    (hr : ∀ nested, Recasts (rest nested) (rest' nested)) :
    Recasts (h.plan signature rest)
      ((h.mapStrings crlfEnds).plan (terminateWith .crlf signature) rest') := by
  simp only [strings, List.mem_cons, List.mem_append] at hs
  have hclean : ∀ s ∈ h.constraints, '\r' ∉ s.toList := fun s hm => hs s (by simp [hm])
  have hconstraints := Recasts.entries constraintLine_crlfEnds return_not_mem_constraintLine hclean true
  have hempty : (h.mapStrings crlfEnds).constraints.isEmpty = h.constraints.isEmpty :=
    List.isEmpty_map
  unfold plan
  rw [hempty]
  exact .ite h.constraints.isEmpty ((Recasts.text hsignature).append (hr false))
    ((Recasts.line hsignature).append (hconstraints.append (hr true)).scope)

private theorem recasts_planOpen (hs : ∀ s ∈ h.strings, '\r' ∉ s.toList) {signature : List Char}
    (hsignature : '\r' ∉ signature) : Recasts (h.planOpen signature)
      ((h.mapStrings crlfEnds).planOpen (terminateWith .crlf signature)) :=
  recasts_plan hs hsignature fun _ => .same (by simp [Stroke.ink])

private theorem recasts_planClosed (hs : ∀ s ∈ h.strings, '\r' ∉ s.toList) {signature : List Char}
    (hsignature : '\r' ∉ signature) (tail : Bool) {text text' : Bool → Plan}
    (ht : ∀ nested, Recasts (text nested) (text' nested)) :
    Recasts (h.planClosed signature tail text)
      ((h.mapStrings crlfEnds).planClosed (terminateWith .crlf signature) tail text') := by
  refine recasts_plan hs hsignature fun nested => (ht nested).append (.same ?_)
  split <;> simp [Stroke.ink]

end Head

namespace Frame
variable {f : Frame}

private theorem recasts_planHeader (hs : ∀ s ∈ f.strings, '\r' ∉ s.toList) :
    Recasts f.planHeader (f.mapStrings crlfEnds).planHeader := by
  simp only [strings, List.mem_append] at hs
  unfold planHeader mapStrings
  cases hh : f.header with
  | none => exact .nil
  | some header =>
    have hheader : '\r' ∉ header.toList := hs header (by simp [hh])
    simp only [Option.map_some, toList_crlfEnds]
    exact .ite f.joined (.text hheader) (.line hheader)

private theorem recasts_planChildren (hs : ∀ s ∈ f.strings, '\r' ∉ s.toList)
    {children children' : Bool → Plan} (hc : ∀ glue, Recasts (children glue) (children' glue))
    (tail : Bool) :
    Recasts (f.planChildren children tail) ((f.mapStrings crlfEnds).planChildren children' tail) := by
  simp only [strings, List.mem_append] at hs
  unfold planChildren
  rw [glues_mapStrings]
  unfold mapStrings
  cases hb : f.brackets with
  | none => exact hc _
  | some brackets =>
    have hopening : '\r' ∉ brackets.opening.toList := hs _ (by simp [hb])
    have hclosing : '\r' ∉ brackets.closing.toList := hs _ (by simp [hb])
    simp only [Option.map_some, toList_crlfEnds]
    exact ((Recasts.line hopening).append (hc false).scope).append (.close hclosing _)

private theorem recasts_planFooter (hs : ∀ s ∈ f.strings, '\r' ∉ s.toList) (tail : Bool) :
    Recasts (f.planFooter tail) ((f.mapStrings crlfEnds).planFooter tail) := by
  simp only [strings, List.mem_append] at hs
  unfold planFooter mapStrings
  cases hf : f.footer with
  | none => exact .nil
  | some footer =>
    have hfooter : '\r' ∉ footer.toList := hs footer (by simp [hf])
    have hend : Recasts [.endLine] [.endLine] := .same (by simp [Stroke.ink])
    simp only [Option.map_some, toList_crlfEnds]
    exact (Recasts.text hfooter).append (.ite tail .nil hend)

private theorem recasts_plan (hs : ∀ s ∈ f.strings, '\r' ∉ s.toList)
    {children children' : Bool → Plan} (hc : ∀ glue, Recasts (children glue) (children' glue))
    (tail : Bool) : Recasts (f.plan children tail) ((f.mapStrings crlfEnds).plan children' tail) :=
  ((recasts_planHeader hs).append (recasts_planChildren hs hc tail)).append (recasts_planFooter hs tail)

end Frame

section
variable {lineStart : List Char}

mutual

private theorem Node.recasts_plan : ∀ (n : Node) (tail : Bool), (∀ s ∈ n.strings, '\r' ∉ s.toList) →
    Recasts (n.plan lineStart tail) ((n.mapStrings crlfEnds).plan lineStart tail)
  | .raw text verbatim, tail, h => .planRaw (h text (by simp [strings])) verbatim tail
  | .block frame children, tail, h => by
    simp only [strings, List.forall_mem_append] at h
    exact Frame.recasts_plan h.1
      (fun glue => Node.recasts_planAll .statements glue children {} h.2) tail
  | .typeDecl head bases terminated members, tail, h => by
    simp only [strings, List.forall_mem_append] at h
    obtain ⟨⟨hhead, hbases⟩, hmembers⟩ := h
    have hsignature : '\r' ∉ typeSignature head bases :=
      return_not_mem_typeSignature (hhead _ (by simp [Head.strings])) hbases
    have hbody := Node.recasts_planAll .members false members {} hmembers
    unfold mapStrings plan
    rw [typeSignature_crlfEnds]
    exact (Head.recasts_planPreamble hhead lineStart).append
      (.ite terminated (Head.recasts_planClosed hhead hsignature tail fun _ => .nil)
        ((Head.recasts_planOpen hhead hsignature).append (.braced tail hbody)))
  | .methodDecl head style frame body, tail, h => by
    simp only [strings, List.forall_mem_append] at h
    obtain ⟨⟨hhead, hframe⟩, hstatements⟩ := h
    have hsignature : '\r' ∉ head.signature.toList := hhead _ (by simp [Head.strings])
    have hbody := Frame.recasts_plan hframe fun glue =>
      Node.recasts_planAll .statements glue body {} hstatements
    have harrow (nested : Bool) : Recasts
        (if nested then .endLine :: Plan.text "=> ".toList else Plan.text " => ".toList)
        (if nested then .endLine :: Plan.text "=> ".toList else Plan.text " => ".toList) :=
      .same (by cases nested <;> decide)
    have hwritten : (head.mapStrings crlfEnds).signature.toList =
        terminateWith .crlf head.signature.toList := toList_crlfEnds _
    unfold mapStrings plan
    rw [hwritten]
    refine (Head.recasts_planPreamble hhead lineStart).append ?_
    cases style with
    | block => exact (Head.recasts_planOpen hhead hsignature).append (.braced tail (hbody false))
    | arrow =>
      exact Head.recasts_planClosed hhead hsignature tail fun nested =>
        (harrow nested).append (hbody true)
    | abstract => exact Head.recasts_planClosed hhead hsignature tail fun _ => .nil
  | .namespaceDecl name entries, tail, h => by
    simp only [strings, List.forall_mem_cons] at h
    have hname : '\r' ∉ "namespace ".toList ++ name.toList := by
      rw [List.mem_append]
      exact fun hm => hm.elim (by decide) h.1
    have hwritten : "namespace ".toList ++ (crlfEnds name).toList =
        terminateWith .crlf ("namespace ".toList ++ name.toList) := by
      rw [toList_crlfEnds, terminateWith_append,
        terminateWith_of_not_mem .crlf (show '\n' ∉ "namespace ".toList by decide)]
    unfold mapStrings plan
    rw [hwritten]
    exact (Recasts.line hname).append
      (.braced tail (Node.recasts_planAll .entries false entries {} h.2))
  | .doc comment, _, h => .doc h lineStart
  | .attributes entries, tail, h =>
    .entries attributeLine_crlfEnds return_not_mem_attributeLine h tail
  | .constraints entries, tail, h =>
    .entries constraintLine_crlfEnds return_not_mem_constraintLine h tail
  | .separator _, _, _ => .nil

theorem Node.recasts_planAll (spacing : Spacing) (tail : Bool) : ∀ (nodes : List Node) (gap : Gap),
    (∀ s ∈ allStrings nodes, '\r' ∉ s.toList) →
      Recasts (Node.planAll lineStart spacing tail nodes gap)
        (Node.planAll lineStart spacing tail (mapAllStrings crlfEnds nodes) gap)
  | [], gap, _ => .same (by simp only [planAll]; split <;> decide)
  | node :: rest, gap, h => by
    simp only [allStrings, List.forall_mem_append] at h
    have hrest (gap : Gap) := Node.recasts_planAll spacing tail rest gap h.2
    unfold mapAllStrings planAll
    rw [separation?_mapStrings]
    cases node.separation? with
    | some forced => exact hrest _
    | none =>
      have hgap (b : Bool) : Recasts (if b then Plan.blankLine else []) (if b then Plan.blankLine else []) :=
        .same (by cases b <;> decide)
      have hend (b : Bool) : Recasts (if b then [] else [.endLine]) (if b then [] else [.endLine]) :=
        .same (by cases b <;> decide)
      simp only [isDeclaration_mapStrings, allSeparators_mapAllStrings]
      exact (((hgap _).append (node.recasts_plan _ h.1)).append (hend _)).append (hrest _)

end

end

end CodeScribe
