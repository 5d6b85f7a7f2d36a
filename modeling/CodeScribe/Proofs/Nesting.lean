import CodeScribe.Proofs.Written

/-! A document has no text exactly when it stands in a namespace and declares another one at its top.
No line of a document is ever refused, since the ranges of the supplied classifiers fit every line. -/
namespace CodeScribe

def Node.isNamespace : Node → Bool
  | .namespaceDecl .. => true
  | _ => false

/-- The first namespace declared at the top of a document, by its name. -/
def Document.FirstNamespace (d : Document) (name : String) : Prop :=
  ∃ before entries after, d.nodes = before ++ .namespaceDecl name entries :: after ∧
    ∀ n ∈ before, n.isNamespace = false

namespace Document

private theorem nestedNamespace?_eq_some_iff {d : Document} {name : String} :
    d.nestedNamespace? = some name ↔ d.FirstNamespace name := by
  rw [nestedNamespace?, List.findSome?_eq_some_iff]
  constructor
  · rintro ⟨before, n, after, hnodes, hn, hbefore⟩
    cases n with
    | namespaceDecl declared entries =>
      cases hn
      refine ⟨before, entries, after, hnodes, fun m hm => ?_⟩
      have hnone := hbefore m hm
      cases m with
      | namespaceDecl => cases hnone
      | _ => rfl
    | _ => cases hn
  · rintro ⟨before, entries, after, hnodes, hbefore⟩
    refine ⟨before, _, after, hnodes, rfl, fun m hm => ?_⟩
    have hplain := hbefore m hm
    cases m with
    | namespaceDecl => cases hplain
    | _ => rfl

private theorem nestedNamespace?_eq_none_iff {d : Document} :
    d.nestedNamespace? = none ↔ ∀ n ∈ d.nodes, n.isNamespace = false := by
  rw [nestedNamespace?, List.findSome?_eq_none_iff]
  refine forall₂_congr fun n _ => ?_
  cases n <;> simp [Node.isNamespace]

/-- A document renders, or it is refused for the first namespace at its top. -/
theorem render_cases (d : Document) :
    (¬ d.Doubled ∧ ∃ text, d.render = .ok text) ∨
      ∃ current name, d.enclosing = some current ∧ d.FirstNamespace name ∧
        d.render = .error (.nestedNamespace name current) := by
  by_cases h : d.Doubled
  · obtain ⟨current, henclosing⟩ := Option.isSome_iff_exists.mp h.1
    obtain ⟨name, hname⟩ := Option.isSome_iff_exists.mp h.2
    exact .inr ⟨current, name, henclosing, nestedNamespace?_eq_some_iff.mp hname,
      render_of_nested henclosing hname⟩
  · exact .inl ⟨h, _, render_of_not_doubled h⟩

private theorem render_eq_error_iff (d : Document) (e : RenderError) :
    d.render = .error e ↔ ∃ current name, d.enclosing = some current ∧ d.FirstNamespace name ∧
      e = .nestedNamespace name current := by
  constructor
  · intro h
    rcases d.render_cases with ⟨-, text, hok⟩ | ⟨current, name, henclosing, hfirst, herror⟩
    · rw [hok] at h
      cases h
    · rw [herror] at h
      cases h
      exact ⟨current, name, henclosing, hfirst, rfl⟩
  · rintro ⟨current, name, henclosing, hfirst, rfl⟩
    exact render_of_nested henclosing (nestedNamespace?_eq_some_iff.mpr hfirst)

/-- A document fails exactly when a namespace is around it and one of its entries declares a namespace. The
error names the first such entry, and no error ever tells of a line: on every line each of the supplied
classifiers selects a range that fits. -/
theorem render_fails_iff :
    (∀ d : Document, (∃ e, d.render = .error e) ↔
      d.enclosing ≠ none ∧ ∃ n ∈ d.nodes, n.isNamespace = true) ∧
    (∀ (d : Document) (e : RenderError), d.render = .error e ↔
      ∃ current name, d.enclosing = some current ∧ d.FirstNamespace name ∧
        e = .nestedNamespace name current) ∧
    (∀ (d : Document) (fault : LineFault), d.render ≠ .error (.lineFault fault)) ∧
    ∀ line, (Classifier.indentAll line).Fits line ∧ (Classifier.preprocessorLines line).Fits line := by
  refine ⟨fun d => ?_, render_eq_error_iff, fun d fault h => ?_, fun line => ?_⟩
  · have hnested : d.nestedNamespace?.isSome = true ↔ ∃ n ∈ d.nodes, n.isNamespace = true := by
      rw [Option.isSome_iff_ne_none, Ne, nestedNamespace?_eq_none_iff]
      simp
    rw [← hnested, ← Option.isSome_iff_ne_none]
    constructor
    · rintro ⟨e, he⟩
      obtain ⟨current, name, henclosing, hfirst, -⟩ := (d.render_eq_error_iff e).mp he
      exact ⟨by rw [henclosing]; rfl, by rw [nestedNamespace?_eq_some_iff.mpr hfirst]; rfl⟩
    · intro h
      rcases d.render_cases with ⟨hsingle, -⟩ | ⟨current, name, -, -, herror⟩
      · exact absurd h hsingle
      · exact ⟨_, herror⟩
  · obtain ⟨current, name, -, -, he⟩ := (d.render_eq_error_iff _).mp h
    cases he
  · exact ⟨Classifier.faithful_indentAll.fits line, Classifier.faithful_preprocessorLines.fits line⟩

end Document
end CodeScribe
