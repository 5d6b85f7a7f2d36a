import CodeScribe.Manifest.Source
import CodeScribe.Proofs.Text
import Mathlib.Data.List.Infix

/-! Places of names in the source of a manifest. A place is told exactly when the name stands in quotes, and
what stands there is the name. Where it is assigned to the key of names, no other place is told. -/
namespace CodeScribe

namespace Text
variable {needle cs : List Char} {n : Nat}

private theorem findByte?_eq_none_iff : findByte? needle cs = none ↔ ¬ needle <:+: cs := by
  induction cs with
  | nil => simp [findByte?]
  | cons c cs ih =>
    rw [findByte?, List.infix_cons_iff, ← List.isPrefixOf_iff_prefix]
    cases needle.isPrefixOf (c :: cs) <;> simp [ih]

/-- The position found is that of an occurrence. -/
theorem exists_of_findByte? (h : findByte? needle cs = some n) :
    ∃ front back, cs = front ++ (needle ++ back) ∧ n = byteLength front := by
  induction cs generalizing n with
  | nil =>
    rw [findByte?, Option.ite_none_right_eq_some] at h
    obtain ⟨hempty, hn⟩ := h
    cases hn
    exact ⟨[], [], by simpa using hempty.symm, rfl⟩
  | cons c cs ih =>
    rw [findByte?] at h
    split at h
    · next hstart =>
      cases h
      obtain ⟨back, hback⟩ := List.isPrefixOf_iff_prefix.mp hstart
      exact ⟨[], back, hback.symm, rfl⟩
    · obtain ⟨later, hlater, rfl⟩ := Option.map_eq_some_iff.mp h
      obtain ⟨front, back, rfl, rfl⟩ := ih hlater
      exact ⟨c :: front, back, rfl, rfl⟩

end Text

/-- A name in one of its spellings, given by what comes before the name and by the quote that ends it. -/
def spelling (name : String) (form : List Char × List Char) : List Char := form.1 ++ name.toList ++ form.2

/-- What assigns a name puts it in quotes. -/
private theorem exists_quotes_of_assignment : ∀ form ∈ nameAssignments,
    ∃ quotes ∈ plainQuotes, quotes.1 <:+ form.1 ∧ quotes.2 = form.2 := by decide +kernel

private theorem byteLength_closing : ∀ form ∈ nameAssignments ++ plainQuotes, Text.byteLength form.2 = 1 := by
  decide +kernel

namespace SourceText
variable {s : SourceText} {name : String} {form : List Char × List Char} {span : Span}

/-- The place of a name in a spelling that stands in the source. It starts behind what introduces the name, and
it ends before the closing quote, which is the last byte of the spelling. -/
def Spells (s : SourceText) (name : String) (form : List Char × List Char) (span : Span) : Prop :=
  ∃ front back, s.text.toList = front ++ (spelling name form ++ back) ∧
    span.offset = Text.byteLength front + Text.byteLength form.1 ∧
    span.length = Text.byteLength name.toList ∧
    span.offset + span.length + 1 = Text.byteLength front + Text.byteLength (spelling name form)

private theorem spells_of_findBetween? (hclosing : Text.byteLength form.2 = 1)
    (h : s.findBetween? name.toList form.1 form.2 = some span) : s.Spells name form span := by
  obtain ⟨position, hposition, rfl⟩ := Option.map_eq_some_iff.mp h
  obtain ⟨front, back, htext, rfl⟩ := Text.exists_of_findByte? hposition
  refine ⟨front, back, htext, rfl, rfl, ?_⟩
  simp only [spelling, Text.byteLength_append, hclosing]
  omega

private theorem findBetween?_eq_none_iff :
    s.findBetween? name.toList form.1 form.2 = none ↔ ¬ spelling name form <:+: s.text.toList := by
  rw [findBetween?, Option.map_eq_none_iff, Text.findByte?_eq_none_iff, spelling]

/-- What is under the place of a name is the name. -/
theorem Spells.slice? (h : s.Spells name form span) :
    Text.slice? span.offset (span.offset + span.length) s.text.toList = some name.toList := by
  obtain ⟨front, back, htext, hoffset, hlength, -⟩ := h
  refine Text.slice?_eq_some_iff.mpr ⟨front ++ form.1, form.2 ++ back, ?_, ?_, ?_⟩
  · simp [htext, spelling]
  · rw [hoffset, Text.byteLength_append]
  · rw [hoffset, hlength, Text.byteLength_append, Text.byteLength_append]

private theorem exists_spells_of_findName? (h : s.findName? name = some span) :
    ∃ form ∈ nameAssignments ++ plainQuotes, s.Spells name form span := by
  obtain ⟨form, hform, hfound⟩ := List.exists_of_findSome?_eq_some h
  exact ⟨form, hform, spells_of_findBetween? (byteLength_closing form hform) hfound⟩

private theorem findName?_eq_none_iff :
    s.findName? name = none ↔ ∀ quotes ∈ plainQuotes, ¬ spelling name quotes <:+: s.text.toList := by
  have hall : s.findName? name = none ↔
      ∀ form ∈ nameAssignments ++ plainQuotes, ¬ spelling name form <:+: s.text.toList := by
    rw [findName?, List.findSome?_eq_none_iff]
    exact forall₂_congr fun form _ => findBetween?_eq_none_iff
  rw [hall, List.forall_mem_append]
  refine ⟨And.right, fun h => ⟨fun form hform hinfix => ?_, h⟩⟩
  -- An assignment holds the quoted name, so it is never found where no quoted name is.
  obtain ⟨quotes, hquotes, ⟨front, hfront⟩, hclosing⟩ := exists_quotes_of_assignment form hform
  refine h quotes hquotes (List.IsInfix.trans ⟨front, [], ?_⟩ hinfix)
  rw [spelling, spelling, ← hfront, hclosing]
  simp

/-- The assignments are tried before the quotes alone. -/
theorem findName?_of_assignment
    (h : nameAssignments.findSome? (fun form => s.findBetween? name.toList form.1 form.2) = some span) :
    s.findName? name = some span := by
  rw [findName?, List.findSome?_append, Option.or_eq_some_iff]
  exact .inl h

/-- A name that is assigned is placed in an assignment. -/
theorem exists_spells_of_assignment
    (h : ∃ form ∈ nameAssignments, spelling name form <:+: s.text.toList) :
    ∃ form ∈ nameAssignments, ∃ span, s.findName? name = some span ∧ s.Spells name form span := by
  obtain ⟨form, hform, hinfix⟩ := h
  cases hfirst : nameAssignments.findSome? fun form => s.findBetween? name.toList form.1 form.2 with
  | none =>
    rw [List.findSome?_eq_none_iff] at hfirst
    exact absurd hinfix (findBetween?_eq_none_iff.mp (hfirst form hform))
  | some span =>
    obtain ⟨found, hfound, hspan⟩ := List.exists_of_findSome?_eq_some hfirst
    exact ⟨found, hfound, span, findName?_of_assignment hfirst,
      spells_of_findBetween? (byteLength_closing found (List.mem_append_left _ hfound)) hspan⟩

/-- The place that is told for a name lies inside the source, between characters, and the name is what stands
there. One is told exactly when the name stands in a pair of quotes, and it is in an assignment to the key of
names when there is one. -/
theorem findName?_placed (s : SourceText) (name : String) :
    (∀ span, s.findName? name = some span →
      (∃ form ∈ nameAssignments ++ plainQuotes, s.Spells name form span) ∧
      span.offset + span.length ≤ Text.byteLength s.text.toList ∧
      Text.IsBorder span.offset s.text.toList ∧
      Text.IsBorder (span.offset + span.length) s.text.toList ∧
      Text.slice? span.offset (span.offset + span.length) s.text.toList = some name.toList) ∧
    ((∃ span, s.findName? name = some span) ↔
      ∃ quotes ∈ plainQuotes, spelling name quotes <:+: s.text.toList) ∧
    ((∃ form ∈ nameAssignments, spelling name form <:+: s.text.toList) →
      ∃ form ∈ nameAssignments, ∃ span, s.findName? name = some span ∧ s.Spells name form span) := by
  refine ⟨fun span hspan => ?_, ?_, exists_spells_of_assignment⟩
  · obtain ⟨form, hform, hspells⟩ := exists_spells_of_findName? hspan
    have hslice := hspells.slice?
    obtain ⟨before, after, htext, hstart, hstop⟩ := Text.slice?_eq_some_iff.mp hslice
    have hinside : Text.byteLength (before ++ name.toList) ≤ Text.byteLength s.text.toList := by
      rw [htext, Text.byteLength_append (before ++ name.toList)]
      omega
    refine ⟨⟨form, hform, hspells⟩, hstop ▸ hinside, ?_, ?_, hslice⟩
    · exact ⟨before, name.toList ++ after, by rw [htext, List.append_assoc], hstart⟩
    · exact ⟨before ++ name.toList, after, htext, hstop⟩
  · rw [← Option.isSome_iff_exists, Option.isSome_iff_ne_none, ne_eq, findName?_eq_none_iff]
    simp

/-- Three quoted occurrences of a name, of which only the last one is an assignment in one of the spellings. -/
def quotedSource : SourceText where
  text := "doc = \"Größe\"\nname='Größe'\nname=\"Größe\"\n"
  file := "quill.toml"

theorem findName?_placed_quoted :
    quotedSource.findName? "Größe" = some ⟨37, 7⟩ ∧
    Text.slice? 37 44 quotedSource.text.toList = some "Größe".toList ∧
    ∃ form ∈ nameAssignments, quotedSource.Spells "Größe" form ⟨37, 7⟩ := by
  have hspan : quotedSource.findName? "Größe" = some ⟨37, 7⟩ := by decide +kernel
  obtain ⟨-, -, -, -, hslice⟩ := (findName?_placed quotedSource "Größe").1 ⟨37, 7⟩ hspan
  obtain ⟨form, hform, span, hfound, hspells⟩ := (findName?_placed quotedSource "Größe").2.2
    ⟨("name=\"".toList, ['"']), by decide +kernel, by decide +kernel⟩
  rw [hspan, Option.some.injEq] at hfound
  subst hfound
  exact ⟨hspan, hslice, form, hform, hspells⟩

end SourceText

end CodeScribe
