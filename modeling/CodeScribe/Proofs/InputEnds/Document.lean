import CodeScribe.Proofs.InputEnds.Node

/-! Line ends of the input. A document of texts without carriage returns is the same document when every
line feed in its entries gets one in front of it. -/
namespace CodeScribe

namespace Document

def mapStrings (f : String → String) (d : Document) : Document :=
  { d with nodes := Node.mapAllStrings f d.nodes }

private theorem nestedNamespace?_mapStrings (f : String → String) (d : Document) :
    (d.mapStrings f).nestedNamespace? = d.nestedNamespace?.map f := by
  unfold nestedNamespace? mapStrings
  induction d.nodes with
  | nil => rfl
  | cons node rest ih =>
    rw [Node.mapAllStrings, List.findSome?_cons, List.findSome?_cons, ih]
    cases node <;> rfl

private theorem doubled_mapStrings (f : String → String) (d : Document) :
    (d.mapStrings f).Doubled ↔ d.Doubled := by
  rw [Doubled, Doubled, nestedNamespace?_mapStrings, Option.isSome_map]
  rfl

variable {d : Document}

private theorem recasts_plan (h : ∀ s ∈ Node.allStrings d.nodes, '\r' ∉ s.toList) :
    Recasts d.plan (d.mapStrings crlfEnds).plan := by
  have hentries : Recasts (Node.planAll d.config.docPrefix.toList .entries false d.nodes {})
      (Node.planAll d.config.docPrefix.toList .entries false (Node.mapAllStrings crlfEnds d.nodes) {}) :=
    Node.recasts_planAll .entries false d.nodes {} h
  have hblank : Recasts Plan.blankLine Plan.blankLine := .same (by decide)
  have hpragma : Recasts d.planPragma d.planPragma := by
    unfold planPragma
    cases d.config.pragma with
    | none => exact .nil
    | some pragma => exact .fixedLine _
  have hpreamble : Recasts d.planPreamble d.planPreamble :=
    ((hpragma.append (.ite _ hblank .nil)).append (.fixedLines _)).append (.ite _ hblank .nil)
  refine hpreamble.append ?_
  unfold planEntries mapStrings
  cases d.enclosing with
  | none => exact hentries
  | some name =>
    cases d.config.namespaceStyle with
    | fileScoped => exact ((Recasts.fixedLine _).append hblank).append hentries
    | block => exact (Recasts.fixedLine _).append (.braced false hentries)

/-- Entries without carriage returns read the same with one in front of every line feed. -/
theorem render_crlf_entries (h : ∀ s ∈ Node.allStrings d.nodes, '\r' ∉ s.toList) {text : String}
    (hr : d.render = .ok text) : (d.mapStrings crlfEnds).render = .ok text := by
  have hd := not_doubled_of_render hr
  have hstart : Recast d.writer (d.mapStrings crlfEnds).writer := .refl rfl
  obtain ⟨hrecast, -⟩ := recasts_plan h _ _ hstart (by simp [writer])
  have hunified : unifyLineEnds (d.mapStrings crlfEnds).written = unifyLineEnds d.written := hrecast.text
  have hfinished : normalize d.config (d.mapStrings crlfEnds).written = normalize d.config d.written := by
    rw [normalize_eq, hunified, normalize_eq]
  rw [← hr, render_of_not_doubled hd, render_of_not_doubled (by rwa [doubled_mapStrings])]
  exact congrArg (fun cs => Except.ok (String.ofList cs)) hfinished

end Document

/-- A document with line feeds in every kind of text, and settings with carriage returns of their own. -/
def feedDocument : Document where
  config := { pragma := some "#a\rb" }
  enclosing := some "C\r"
  nodes := [
    .typeDecl { signature := "class D\n<T>", doc := some { summary := some "e\nf\n" },
                attributes := ["G(\n1)"], constraints := ["T :\nH"] } ["I\n"] false [
      .raw "#if j\n\n k\n" true,
      .block { brackets := some ⟨"l\n(", ")"⟩, expression := true, footer := some ";\n" } [
        .raw "m,\n" false, .separator false, .raw "n\n" true]]]

def feedText : String :=
  "#a\nb\n\nnamespace C\n\x7b\n    /// <summary>\n    /// e\n    /// f\n    ///\n    /// </summary>\n"
    ++ "    [G(\n    1)]\n    class D\n    <T> : I\n        where T :\n        H\n    \x7b\n#if j\n\n k\n"
    ++ "        l\n        (\n            m,\n\nn\n        );\n    \x7d\n\x7d\n"

theorem render_crlf_feedDocument :
    (∀ s ∈ Node.allStrings feedDocument.nodes, '\r' ∉ s.toList) ∧ feedDocument.render = .ok feedText ∧
      (feedDocument.mapStrings crlfEnds).render = .ok feedText := by
  have hclean : ∀ s ∈ Node.allStrings feedDocument.nodes, '\r' ∉ s.toList := by decide +kernel
  have hrender : feedDocument.render = .ok feedText := by decide +kernel
  exact ⟨hclean, hrender, Document.render_crlf_entries hclean hrender⟩

end CodeScribe
