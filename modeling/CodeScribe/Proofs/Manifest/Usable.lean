import CodeScribe.Proofs.Manifest.Lowered
import CodeScribe.Proofs.Nesting
import CodeScribe.Proofs.Template.Values

/-! The templates that a manifest asks for. Lowering fails exactly when one of them cannot be used, for the
first snippet in the order of the document, and a document that is lowered always has a text. -/
namespace CodeScribe

namespace Snippet

/-- Whether a name has a value: one of the snippet's own, or a shared one. -/
def Knows (s : Snippet) (shared : Dictionary String) (name : String) : Prop :=
  name ∈ Dictionary.keys s.values ∨ name ∈ shared.keys

/-- The template that a snippet asks for, if any, is there, and every name in its markers has a value. -/
def Usable (s : Snippet) (shared : Dictionary String) (templates : Registry) : Prop :=
  ∀ id, s.template = some id →
    ∃ t, templates.find? id = some t ∧ ∀ name ∈ t.markerNames, s.Knows shared name

/-- What a snippet lacks: its template, or a value for the first name in it that has none. -/
inductive Lacks (s : Snippet) (shared : Dictionary String) (templates : Registry) : TemplateError → Prop where
  | template {id : String} (hid : s.template = some id) (hmissing : templates.find? id = none) :
      Lacks s shared templates (.unknownTemplate id)
  | value {id : String} {t : Template} {before after : List String} {name : String}
      (hid : s.template = some id) (ht : templates.find? id = some t)
      (hnames : t.markerNames = before ++ name :: after) (hbefore : ∀ n ∈ before, s.Knows shared n)
      (hname : ¬ s.Knows shared name) : Lacks s shared templates (.missingValue name)

variable {s : Snippet} {shared : Dictionary String} {templates : Registry}

private theorem contains_insertAll_iff {name : String} :
    Dictionary.contains (Dictionary.insertAll s.values shared) name = true ↔ s.Knows shared name := by
  rw [Dictionary.contains, Option.isSome_iff_ne_none, Ne, Dictionary.find?_eq_none_iff, not_not,
    Dictionary.mem_keys_insertAll]
  rfl

private theorem failure?_text_of_raw (hraw : s.raw ≠ none) : failure? (s.text shared templates) = none := by
  obtain ⟨raw, hraw⟩ := Option.ne_none_iff_exists'.mp hraw
  rw [text, hraw]
  rfl

private theorem failure?_text_of_template {id : String} (hraw : s.raw = none) (hid : s.template = some id) :
    failure? (s.text shared templates) =
      match templates.find? id with
      | none => some (.unknownTemplate id)
      | some t => failure? (t.render (Dictionary.insertAll s.values shared)) := by
  rw [text, hraw, hid]
  dsimp only
  rw [Registry.render, Registry.get]
  cases templates.find? id <;> rfl

private theorem failure?_text_eq_none_iff (hs : s.HasOneSource) :
    failure? (s.text shared templates) = none ↔ s.Usable shared templates := by
  rcases hs with ⟨hraw, hnone⟩ | ⟨hraw, hsome⟩
  · simp [failure?_text_of_raw hraw, Usable, hnone]
  · obtain ⟨id, hid⟩ := Option.ne_none_iff_exists'.mp hsome
    rw [failure?_text_of_template hraw hid, Usable]
    cases ht : templates.find? id with
    | none => simp [hid, ht]
    | some t => simp [hid, ht, Template.failure?_render_eq_none_iff, contains_insertAll_iff]

private theorem failure?_text_eq_some_iff (hs : s.HasOneSource) {e : TemplateError} :
    failure? (s.text shared templates) = some e ↔ s.Lacks shared templates e := by
  rcases hs with ⟨hraw, hnone⟩ | ⟨hraw, hsome⟩
  · rw [failure?_text_of_raw hraw]
    refine ⟨nofun, fun h => ?_⟩
    cases h with
    | template hid => simp [hnone] at hid
    | value hid => simp [hnone] at hid
  · obtain ⟨id, hid⟩ := Option.ne_none_iff_exists'.mp hsome
    rw [failure?_text_of_template hraw hid]
    cases ht : templates.find? id with
    | none =>
      refine ⟨fun h => Option.some.inj h ▸ .template hid ht, fun h => ?_⟩
      cases h with
      | template hid' _ => rw [Option.some.inj (hid.symm.trans hid')]
      | value hid' ht' =>
        rw [← Option.some.inj (hid.symm.trans hid'), ht] at ht'
        cases ht'
    | some t =>
      simp only [Template.failure?_render_eq_some_iff, ← Bool.not_eq_true, contains_insertAll_iff]
      constructor
      · rintro ⟨before, name, after, hnames, hbefore, hname, rfl⟩
        exact .value hid ht hnames hbefore hname
      · intro h
        cases h with
        | template hid' ht' =>
          rw [← Option.some.inj (hid.symm.trans hid'), ht] at ht'
          cases ht'
        | value hid' ht' hnames hbefore hname =>
          rw [← Option.some.inj (hid.symm.trans hid'), ht] at ht'
          cases ht'
          exact ⟨_, _, _, hnames, hbefore, hname, rfl⟩

end Snippet

namespace Manifest
variable (m : Manifest) (templates : Registry)

/-- The snippets in the order of the document: those before the types, then the others. -/
def placed : List Snippet :=
  m.snippets.filter (·.placement = .before) ++ m.snippets.filter (·.placement = .after)

private theorem mem_placed {s : Snippet} : s ∈ m.placed ↔ s ∈ m.snippets := by
  rw [placed, List.mem_append, List.mem_filter, List.mem_filter]
  cases s.placement <;> simp

private theorem failure?_lowerSnippets (placement : Placement) (d : Document) :
    failure? (m.lowerSnippets templates placement d) =
      (m.snippets.filter (·.placement = placement)).findSome?
        fun s => failure? (s.text m.values templates) :=
  failure?_foldlM _ (fun (d : Document) text => d.raw (Text.strippedEnd text)) d _

/-- The types between the snippets cannot fail, so that the snippets fail like one list. -/
theorem failure?_lower :
    failure? (m.lower templates) = m.placed.findSome? fun s => failure? (s.text m.values templates) := by
  rw [placed, List.findSome?_append, ← m.failure?_lowerSnippets templates .before m.outline, lower]
  exact failure?_bind fun _ _ => m.failure?_lowerSnippets templates .after _

/-- What a manifest puts at the top of its document are texts and types. -/
theorem isNamespace_of_lower {d : Document} (hs : ∀ s ∈ m.snippets, s.HasOneSource)
    (h : m.lower templates = .ok d) : ∀ n ∈ d.nodes, n.isNamespace = false := by
  obtain ⟨opened, hbefore, hafter⟩ := bind_eq_ok_iff.mp h
  obtain ⟨before, rfl, hbeforeNodes⟩ := m.lowerSnippets_ok templates hs hbefore
  obtain ⟨after, rfl, hafterNodes⟩ := m.lowerSnippets_ok templates hs hafter
  have hempty : m.outline.nodes = [] := m.outline_keeps Document.nodes fun _ _ => rfl
  have hraw {texts : List Node} (htexts : ∀ n ∈ texts, ∃ text, n = .raw text false) :
      ∀ n ∈ texts, n.isNamespace = false := by
    intro n hn
    obtain ⟨text, rfl⟩ := htexts n hn
    rfl
  have htypes : ∀ n ∈ m.types.map TypeSpec.node, n.isNamespace = false := by
    rw [List.forall_mem_map]
    exact fun t _ => rfl
  rw [Document.foldl_typeDecl]
  simp only [hempty, List.nil_append, List.forall_mem_append]
  exact ⟨⟨hraw (Snippet.Lowered.exists_raw hbeforeNodes), htypes⟩,
    hraw (Snippet.Lowered.exists_raw hafterNodes)⟩

/-- A manifest that is accepted is lowered exactly when every snippet's template can be used. Otherwise the
error is what the first snippet in the order of the document lacks. What is lowered has a text. -/
theorem lower_exact {m : Manifest} {source : SourceText} (hvalid : m.validate source = .ok ())
    (templates : Registry) :
    ((∃ d, m.lower templates = .ok d) ↔ ∀ s ∈ m.snippets, s.Usable m.values templates) ∧
    (∀ e, m.lower templates = .error e ↔
      ∃ before s after, m.placed = before ++ s :: after ∧
        (∀ r ∈ before, r.Usable m.values templates) ∧ s.Lacks m.values templates e) ∧
    ∀ d, m.lower templates = .ok d → ∃ text, d.render = .ok text := by
  have hs : ∀ s ∈ m.snippets, s.HasOneSource := ((m.validate_eq_ok_iff source).mp hvalid).snippets
  refine ⟨?_, fun e => ?_, fun d hd => ?_⟩
  · rw [← failure?_eq_none_iff, m.failure?_lower, List.findSome?_eq_none_iff]
    simp only [mem_placed]
    exact forall₂_congr fun s hmem => Snippet.failure?_text_eq_none_iff (hs s hmem)
  · have hplaced : ∀ s ∈ m.placed, s.HasOneSource := fun s hmem => hs s ((m.mem_placed).mp hmem)
    rw [← failure?_eq_some_iff, m.failure?_lower, List.findSome?_eq_some_iff]
    constructor
    · rintro ⟨before, s, after, horder, hfail, hbefore⟩
      rw [horder] at hplaced
      refine ⟨before, s, after, horder, fun r hr => ?_, ?_⟩
      · exact (Snippet.failure?_text_eq_none_iff (hplaced r (by simp [hr]))).mp (hbefore r hr)
      · exact (Snippet.failure?_text_eq_some_iff (hplaced s (by simp))).mp hfail
    · rintro ⟨before, s, after, horder, hbefore, hlacks⟩
      rw [horder] at hplaced
      refine ⟨before, s, after, horder, ?_, fun r hr => ?_⟩
      · exact (Snippet.failure?_text_eq_some_iff (hplaced s (by simp))).mpr hlacks
      · exact (Snippet.failure?_text_eq_none_iff (hplaced r (by simp [hr]))).mpr (hbefore r hr)
  · rcases d.render_cases with ⟨-, htext⟩ | ⟨_, name, -, ⟨before, entries, after, hnodes, -⟩, -⟩
    · exact htext
    · have hplain := m.isNamespace_of_lower templates hs hd (.namespaceDecl name entries) (by simp [hnodes])
      cases hplain

/-- A manifest with a template that is not there, listed in front of one that lacks a value. -/
def circular : Manifest := {
  values := [("year", "2026")]
  snippets := [
    { template := some "seal" },
    { template := some "note", values := [("year", "2027")], placement := .before }] }

/-- The snippet placed before the types fails first, and for the second name in its template. -/
theorem lower_exact_circular :
    circular.validate ⟨"", "circular.toml"⟩ = .ok () ∧
      circular.lower notes = .error (.missingValue "owner") := by
  have hvalid : circular.validate ⟨"", "circular.toml"⟩ = .ok () := by decide +kernel
  have hnames : Template.markerNames ⟨"// \x7b\x7b year \x7d\x7d \x7b\x7b owner \x7d\x7d"⟩ =
      ["year"] ++ "owner" :: [] := by
    decide +kernel
  have hlacks : Snippet.Lacks { template := some "note", values := [("year", "2027")], placement := .before }
      circular.values notes (.missingValue "owner") :=
    .value rfl rfl hnames (by simp [Snippet.Knows, Dictionary.keys])
      (by simp [Snippet.Knows, Dictionary.keys, circular])
  exact ⟨hvalid, ((lower_exact hvalid notes).2.1 _).mpr ⟨[], _, _, rfl, by simp, hlacks⟩⟩

end Manifest
end CodeScribe
