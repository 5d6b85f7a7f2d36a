import CodeScribe.Proofs.Imports.Insertion
import CodeScribe.Proofs.Template.Values

/-! The names that a template tells to its caller. They are those of its markers with the repetitions left
out, so a caller who looks at them knows what a rendering will do. -/
namespace CodeScribe.Template
variable {t : Template} {values others : Dictionary String}

theorem placeholders_eq (t : Template) : t.placeholders = t.markerNames.eraseDups :=
  Imports.foldl_insertNew_eq t.markerNames []

private theorem nodup_placeholders (t : Template) : t.placeholders.Nodup :=
  Imports.nodup_foldl_insertNew List.nodup_nil

private theorem mem_placeholders {name : String} : name ∈ t.placeholders ↔ name ∈ t.markerNames := by
  rw [placeholders_eq, List.mem_eraseDups]

private theorem find?_placeholders (t : Template) (p : String → Bool) :
    t.placeholders.find? p = t.markerNames.find? p :=
  Imports.find?_foldl_insertNew p

/-- The first marker without a value has the name that is the first one of the names without a value. -/
theorem failure?_render_eq (t : Template) (values : Dictionary String) : failure? (t.render values) =
    (t.placeholders.find? fun name => !values.contains name).map .missingValue := by
  rw [failure?_render, find?_placeholders]

/-- Only the values of the names in the stretches are looked at. -/
private theorem fill_congr {ps : List Piece}
    (h : ∀ name ∈ ps.filterMap Piece.name?, values.find? name = others.find? name) :
    fill values ps = fill others ps := by
  induction ps with
  | nil => rfl
  | cons p rest ih =>
    cases p with
    | literal c => rw [fill, fill, ih h]
    | placeholder name =>
      rw [List.filterMap_cons_some (f := Piece.name?) rfl, List.forall_mem_cons] at h
      rw [fill, fill, h.1, ih h.2]

private theorem render_congr (h : ∀ name ∈ t.placeholders, values.find? name = others.find? name) :
    t.render values = t.render others := by
  rw [render, render, fill_congr]
  intro name hname
  exact h name (mem_placeholders.mpr hname)

/-- What a template tells of itself is what its rendering needs: every name once, a text exactly when each of
them has a value, else the error for the first of them that has none, and the same result for values that
agree on them. -/
theorem render_placeholders (t : Template) :
    t.placeholders.Nodup ∧
    (∀ values : Dictionary String,
      (∃ text, t.render values = .ok text) ↔ ∀ name ∈ t.placeholders, values.contains name = true) ∧
    (∀ (values : Dictionary String) (e : TemplateError), t.render values = .error e ↔
      ∃ before name after, t.placeholders = before ++ name :: after ∧
        (∀ n ∈ before, values.contains n = true) ∧ values.contains name = false ∧
        e = .missingValue name) ∧
    ∀ values others : Dictionary String,
      (∀ name ∈ t.placeholders, values.find? name = others.find? name) →
        t.render values = t.render others := by
  refine ⟨nodup_placeholders t, fun values => ?_, fun values e => ?_, fun _ _ => render_congr⟩
  · rw [← failure?_eq_none_iff, failure?_render_eq, Option.map_eq_none_iff, List.find?_eq_none]
    simp
  · rw [← failure?_eq_some_iff, failure?_render_eq, firstMissing_eq_some_iff]

/-- A template that asks for one of its three names twice. -/
def askingTemplate : Template :=
  { source := "\x7b\x7b b \x7d\x7d\x7b\x7ba\x7d\x7d\x7b\x7b b \x7d\x7d\x7b\x7b app.name \x7d\x7d" }

/-- The first name without a value is the second one, and a value for another name changes nothing. -/
theorem render_placeholders_asking :
    askingTemplate.placeholders = ["b", "a", "app.name"] ∧
    askingTemplate.render [("app.name", "Shop"), ("b", "B")] = .error (.missingValue "a") ∧
    askingTemplate.render [("c", "C"), ("b", "B"), ("app.name", "Shop"), ("a", "A")] =
      askingTemplate.render [("a", "A"), ("app.name", "Shop"), ("b", "B")] := by
  have hnames : askingTemplate.placeholders = ["b", "a", "app.name"] := by decide +kernel
  obtain ⟨-, -, hfails, hsame⟩ := render_placeholders askingTemplate
  refine ⟨hnames, (hfails _ _).mpr ⟨["b"], "a", ["app.name"], hnames, by decide, rfl, rfl⟩, hsame _ _ ?_⟩
  rw [hnames]
  decide

end CodeScribe.Template
