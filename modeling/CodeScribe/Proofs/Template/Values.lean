import CodeScribe.Template.Registry
import Mathlib.Data.List.Basic

/-! Which values a template needs: one for each name in its markers. The first name without a value, from
left to right, is what its rendering fails for. -/
namespace CodeScribe

/-- What a computation fails with. -/
def failure? {ε α : Type} : Except ε α → Option ε
  | .error e => some e
  | .ok _ => none

section
variable {ε α β σ : Type}

theorem failure?_eq_some_iff {x : Except ε α} {e : ε} : failure? x = some e ↔ x = .error e := by
  cases x <;> simp [failure?]

theorem failure?_eq_none_iff {x : Except ε α} : failure? x = none ↔ ∃ a, x = .ok a := by
  cases x <;> simp [failure?]

private theorem failure?_map (f : α → β) (x : Except ε α) : failure? (x.map f) = failure? x := by
  cases x <;> rfl

/-- A failure of the first part hides the second one, which starts where the first one ends. -/
theorem failure?_bind {x : Except ε α} {f : α → Except ε β} {later : Option ε}
    (h : ∀ a, x = .ok a → failure? (f a) = later) : failure? (x >>= f) = (failure? x).or later := by
  cases x with
  | error e => rfl
  | ok a => exact h a rfl

/-- A loop that needs something of each item fails for the first item that does not give it. -/
theorem failure?_foldlM (g : α → Except ε β) (step : σ → β → σ) (s : σ) (l : List α) :
    failure? (l.foldlM (fun s a => do return step s (← g a)) s) = l.findSome? fun a => failure? (g a) := by
  induction l generalizing s with
  | nil => rfl
  | cons a rest ih =>
    rw [List.foldlM_cons, List.findSome?_cons]
    cases g a with
    | error e => rfl
    | ok b => exact ih (step s b)

end

namespace Dictionary
variable {α : Type}

theorem find?_eq_none_iff {d : Dictionary α} {key : String} : d.find? key = none ↔ key ∉ d.keys := by
  rw [find?, keys, List.lookup_eq_none_iff, List.mem_map]
  constructor
  · rintro h ⟨entry, hentry, rfl⟩
    simpa using h entry hentry
  · intro h entry hentry
    simpa using fun he => h ⟨entry, hentry, he.symm⟩

private theorem mem_keys_insert {d : Dictionary α} {key other : String} {value : α} :
    other ∈ (insert key value d).keys ↔ other = key ∨ other ∈ d.keys := by
  rw [← not_iff_not, ← find?_eq_none_iff]
  by_cases h : other = key
  · simp [h]
  · rw [find?_insert_of_ne h, find?_eq_none_iff]
    simp [h]

/-- A key is known after some entries are set exactly when it was, or when one of them is for it. -/
theorem mem_keys_insertAll {entries : List (String × α)} {d : Dictionary α} {key : String} :
    key ∈ keys (insertAll entries d) ↔ key ∈ entries.map (·.1) ∨ key ∈ d.keys := by
  induction entries generalizing d with
  | nil => simp [insertAll]
  | cons entry rest ih =>
    have hrest := ih (d := insert entry.1 entry.2 d)
    rw [insertAll, List.foldl_cons, ← insertAll, hrest, mem_keys_insert, List.map_cons, List.mem_cons]
    tauto

end Dictionary

namespace Template

def Piece.name? : Piece → Option String
  | .placeholder name => some name
  | .literal _ => none

theorem markerNames_eq (t : Template) : t.markerNames = (pieces t.source.toList).filterMap Piece.name? :=
  rfl

private theorem failure?_fill (values : Dictionary String) (ps : List Piece) :
    failure? (fill values ps) =
      ((ps.filterMap Piece.name?).find? fun name => !values.contains name).map .missingValue := by
  induction ps with
  | nil => rfl
  | cons p rest ih =>
    cases p with
    | literal c =>
      rw [fill, failure?_map, ih]
      rfl
    | placeholder name =>
      rw [List.filterMap_cons_some (f := Piece.name?) rfl, List.find?_cons, fill, Dictionary.contains]
      cases values.find? name with
      | none => rfl
      | some value =>
        rw [failure?_map, ih]
        rfl

variable {t : Template} {values : Dictionary String}

theorem failure?_render : failure? (t.render values) =
    (t.markerNames.find? fun name => !values.contains name).map .missingValue := by
  rw [render, failure?_map, failure?_fill, markerNames_eq]

theorem failure?_render_eq_none_iff :
    failure? (t.render values) = none ↔ ∀ name ∈ t.markerNames, values.contains name = true := by
  simp [failure?_render]

/-- The first of some names without a value, found in its place. -/
theorem firstMissing_eq_some_iff {names : List String} {e : TemplateError} :
    (names.find? fun name => !values.contains name).map .missingValue = some e ↔
      ∃ before name after, names = before ++ name :: after ∧
        (∀ n ∈ before, values.contains n = true) ∧ values.contains name = false ∧
        e = .missingValue name := by
  rw [Option.map_eq_some_iff]
  constructor
  · rintro ⟨name, hfind, rfl⟩
    obtain ⟨hname, before, after, hnames, hbefore⟩ := List.find?_eq_some_iff_append.mp hfind
    exact ⟨before, name, after, hnames, by simpa using hbefore, by simpa using hname, rfl⟩
  · rintro ⟨before, name, after, hnames, hbefore, hname, rfl⟩
    refine ⟨name, List.find?_eq_some_iff_append.mpr ⟨by simpa using hname, before, after, hnames, ?_⟩, rfl⟩
    simpa using hbefore

/-- Rendering fails for the first marker without a value. -/
theorem failure?_render_eq_some_iff {e : TemplateError} :
    failure? (t.render values) = some e ↔
      ∃ before name after, t.markerNames = before ++ name :: after ∧
        (∀ n ∈ before, values.contains n = true) ∧ values.contains name = false ∧
        e = .missingValue name := by
  rw [failure?_render, firstMissing_eq_some_iff]

end Template
end CodeScribe
