import CodeScribe.Proofs.Manifest.Checks

/-! Validation is exact: it accepts the valid manifests, and of any other it reports the first violation in
reading order. -/
namespace CodeScribe

/-- The parts of a namespace between its dots, after one global marker. -/
def namespaceSegments (name : String) : List String :=
  (Text.pieces '.' (Text.withoutStart globalMarker name).toList).map String.ofList

/-- A type stands among others, or in one of them, at any level. -/
inductive Declares : List TypeSpec → TypeSpec → Prop where
  | here {types : List TypeSpec} {t : TypeSpec} (h : t ∈ types) : Declares types t
  | inside {types : List TypeSpec} {outer t : TypeSpec} (ho : outer ∈ types)
      (h : Declares outer.types t) : Declares types t

structure MethodSpec.Valid (m : MethodSpec) : Prop where
  name : IsDeclarable m.name
  generics : ∀ generic ∈ m.generics, IsDeclarable generic
  parameters : ∀ p ∈ m.parameters, IsIdentifier p.name
  body : m.HasOneBody

structure TypeSpec.Valid (t : TypeSpec) : Prop where
  name : IsDeclarable t.name
  generics : ∀ generic ∈ t.generics, IsDeclarable generic
  parameters : t.MayConstruct
  methods : ∀ m ∈ t.methods, m.Valid

structure Manifest.Valid (m : Manifest) : Prop where
  namespaceName : ∀ name ∈ m.namespaceName, ∀ segment ∈ namespaceSegments name, IsDeclarable segment
  types : ∀ t, Declares m.types t → t.Valid
  snippets : ∀ s ∈ m.snippets, s.HasOneSource

def MethodSpec.checks (path : List String) (m : MethodSpec) : List Check :=
  [.declaredName path "method" m.name]
    ++ m.generics.map (.declaredName (path ++ [m.name]) "type parameter")
    ++ m.parameters.map (.parameterName (path ++ [m.name]) ·.name)
    ++ [.methodBody path m]

/-- The checks of a type in reading order, apart from those of the types in it. -/
def TypeSpec.ownChecks (path : List String) (t : TypeSpec) : List Check :=
  [.declaredName path "type" t.name]
    ++ t.generics.map (.declaredName (path ++ [t.name]) "type parameter")
    ++ [.primaryConstructor t]
    ++ t.methods.flatMap (·.checks (path ++ [t.name]))

mutual

/-- The checks of a type: its own come before those of the types in it. -/
def TypeSpec.checks (path : List String) : TypeSpec → List Check
  | ⟨name, kind, modifiers, generics, parameters, bases, attributes, constraints, summary, members,
      methods, types⟩ =>
    TypeSpec.ownChecks path ⟨name, kind, modifiers, generics, parameters, bases, attributes, constraints,
      summary, members, methods, types⟩ ++ TypeSpec.checksAll (path ++ [name]) types

def TypeSpec.checksAll (path : List String) : List TypeSpec → List Check
  | [] => []
  | t :: rest => t.checks path ++ TypeSpec.checksAll path rest

end

/-- The checks of a manifest in reading order. Snippets are numbered from one. -/
def Manifest.checks (m : Manifest) : List Check :=
  (m.namespaceName.toList.flatMap namespaceSegments).map (.declaredName [] "namespace")
    ++ TypeSpec.checksAll [] m.types
    ++ (m.snippets.zipIdx 1).map fun entry => .snippetSource entry.2 entry.1

section
variable {α β γ : Type}

private theorem findSome?_cons_eq_or (f : α → Option β) (a : α) (l : List α) :
    (a :: l).findSome? f = (f a).or (l.findSome? f) := by
  rw [List.findSome?_cons]
  cases f a <;> rfl

private theorem findSome?_flatMap (f : β → Option γ) (g : α → List β) (l : List α) :
    (l.flatMap g).findSome? f = l.findSome? fun a => (g a).findSome? f := by
  induction l with
  | nil => rfl
  | cons a rest ih => rw [List.flatMap_cons, List.findSome?_append, ih, findSome?_cons_eq_or]

end

namespace CheckContext
variable (source : SourceText)

private theorem methodError?_eq (path : List String) (m : MethodSpec) :
    methodError? ⟨source, path⟩ m = (m.checks path).findSome? (Check.verdict source) := by
  have hgenerics := funext (nameError?_eq source (path ++ [m.name]) "type parameter")
  simp only [methodError?, push, nameError?_eq, hgenerics, parameterError?_eq, bodyError?_eq,
    MethodSpec.checks, List.findSome?_append, List.findSome?_map, List.findSome?_singleton,
    Option.orElse_eq_orElse, Option.orElse_eq_or, Option.or_assoc, Function.comp_def]

private theorem typeError?_eq_or (path : List String) (t : TypeSpec) :
    typeError? ⟨source, path⟩ t =
      ((t.ownChecks path).findSome? (Check.verdict source)).or
        (typesError? ⟨source, path ++ [t.name]⟩ t.types) := by
  obtain ⟨name, kind, modifiers, generics, parameters, bases, attributes, constraints, summary, members,
    methods, types⟩ := t
  have hgenerics := funext (nameError?_eq source (path ++ [name]) "type parameter")
  have hconstructor := constructorError?_eq source
    ⟨name, kind, modifiers, generics, parameters, bases, attributes, constraints, summary, members,
      methods, types⟩
  have hmethods := funext (methodError?_eq source (path ++ [name]))
  dsimp only at hconstructor
  -- Every part of a type has its checks by now. What is left is where the parts are bracketed.
  simp only [typeError?, push, nameError?_eq, hgenerics, hconstructor, hmethods, TypeSpec.ownChecks,
    List.findSome?_append, List.findSome?_map, List.findSome?_singleton, findSome?_flatMap,
    Option.orElse_eq_orElse, Option.orElse_eq_or, Option.or_assoc, Function.comp_def]

mutual

private theorem typeError?_eq : ∀ (path : List String) (t : TypeSpec),
    typeError? ⟨source, path⟩ t = (t.checks path).findSome? (Check.verdict source)
  | path, ⟨name, kind, modifiers, generics, parameters, bases, attributes, constraints, summary, members,
      methods, types⟩ => by
    rw [typeError?_eq_or, typesError?_eq (path ++ [name]) types, TypeSpec.checks, List.findSome?_append]

private theorem typesError?_eq : ∀ (path : List String) (types : List TypeSpec),
    typesError? ⟨source, path⟩ types = (TypeSpec.checksAll path types).findSome? (Check.verdict source)
  | _, [] => rfl
  | path, t :: rest => by
    rw [typesError?, typeError?_eq path t, typesError?_eq path rest, Option.orElse_eq_orElse,
      Option.orElse_eq_or, TypeSpec.checksAll, List.findSome?_append]

end

private theorem snippetsError?_eq (number : Nat) (snippets : List Snippet) :
    snippetsError? ⟨source, []⟩ number snippets =
      ((snippets.zipIdx number).map fun entry => Check.snippetSource entry.2 entry.1).findSome?
        (Check.verdict source) := by
  induction snippets generalizing number with
  | nil => rfl
  | cons s rest ih =>
    rw [snippetsError?, snippetError?_eq, ih, Option.orElse_eq_orElse, Option.orElse_eq_or,
      List.zipIdx_cons, List.map_cons, findSome?_cons_eq_or]

private theorem namespaceError?_eq (name : String) :
    namespaceError? ⟨source, []⟩ name =
      ((namespaceSegments name).map (Check.declaredName [] "namespace")).findSome?
        (Check.verdict source) := by
  simp only [namespaceError?, nameError?_eq, namespaceSegments, List.findSome?_map, Function.comp_def]

private theorem manifestError?_eq (m : Manifest) :
    manifestError? ⟨source, []⟩ m = m.checks.findSome? (Check.verdict source) := by
  have hnamespace : m.namespaceName.bind (namespaceError? ⟨source, []⟩) =
      ((m.namespaceName.toList.flatMap namespaceSegments).map
        (Check.declaredName [] "namespace")).findSome? (Check.verdict source) := by
    cases m.namespaceName with
    | none => rfl
    | some name => simp [namespaceError?_eq]
  rw [manifestError?, hnamespace, typesError?_eq, snippetsError?_eq, Manifest.checks,
    List.findSome?_append, List.findSome?_append, Option.orElse_eq_orElse,
    Option.orElse_eq_or, Option.orElse_eq_or, Option.or_assoc]

end CheckContext

theorem Declares.cons_iff {t u : TypeSpec} {rest : List TypeSpec} :
    Declares (t :: rest) u ↔ u = t ∨ Declares t.types u ∨ Declares rest u := by
  constructor
  · rintro (h | ⟨ho, h⟩)
    · rcases List.mem_cons.mp h with rfl | h
      · exact .inl rfl
      · exact .inr (.inr (.here h))
    · rcases List.mem_cons.mp ho with rfl | ho
      · exact .inr (.inl h)
      · exact .inr (.inr (.inside ho h))
  · rintro (rfl | h | h)
    · exact .here List.mem_cons_self
    · exact .inside List.mem_cons_self h
    · cases h with
      | here h => exact .here (List.mem_cons_of_mem _ h)
      | inside ho h => exact .inside (List.mem_cons_of_mem _ ho) h

private theorem MethodSpec.forall_checks_iff (path : List String) (m : MethodSpec) :
    (∀ c ∈ m.checks path, c.Holds) ↔ m.Valid := by
  simp only [MethodSpec.checks, List.forall_mem_append, List.forall_mem_map, List.forall_mem_singleton,
    Check.holds_declaredName, Check.holds_parameterName, Check.holds_methodBody]
  constructor
  · rintro ⟨⟨⟨hname, hgenerics⟩, hparameters⟩, hbody⟩
    exact ⟨hname, hgenerics, hparameters, hbody⟩
  · intro h
    exact ⟨⟨⟨h.name, h.generics⟩, h.parameters⟩, h.body⟩

private theorem TypeSpec.forall_ownChecks_iff (path : List String) (t : TypeSpec) :
    (∀ c ∈ t.ownChecks path, c.Holds) ↔ t.Valid := by
  simp only [TypeSpec.ownChecks, List.forall_mem_append, List.forall_mem_map, List.forall_mem_singleton,
    List.forall_mem_flatMap, MethodSpec.forall_checks_iff, Check.holds_declaredName,
    Check.holds_primaryConstructor]
  constructor
  · rintro ⟨⟨⟨hname, hgenerics⟩, hparameters⟩, hmethods⟩
    exact ⟨hname, hgenerics, hparameters, hmethods⟩
  · intro h
    exact ⟨⟨⟨h.name, h.generics⟩, h.parameters⟩, h.methods⟩

mutual

private theorem TypeSpec.forall_checks_iff : ∀ (path : List String) (t : TypeSpec),
    (∀ c ∈ t.checks path, c.Holds) ↔ t.Valid ∧ ∀ u, Declares t.types u → u.Valid
  | path, ⟨name, kind, modifiers, generics, parameters, bases, attributes, constraints, summary, members,
      methods, types⟩ => by
    rw [TypeSpec.checks, List.forall_mem_append, TypeSpec.forall_ownChecks_iff,
      TypeSpec.forall_checksAll_iff (path ++ [name]) types]

private theorem TypeSpec.forall_checksAll_iff : ∀ (path : List String) (types : List TypeSpec),
    (∀ c ∈ TypeSpec.checksAll path types, c.Holds) ↔ ∀ t, Declares types t → t.Valid
  | _, [] => by
    refine ⟨fun _ t h => ?_, fun _ c h => ?_⟩
    · cases h <;> contradiction
    · simp [TypeSpec.checksAll] at h
  | path, t :: rest => by
    rw [TypeSpec.checksAll, List.forall_mem_append, TypeSpec.forall_checks_iff path t,
      TypeSpec.forall_checksAll_iff path rest]
    simp only [Declares.cons_iff, or_imp, forall_and, forall_eq, and_assoc]

end

private theorem Manifest.forall_checks_iff (m : Manifest) : (∀ c ∈ m.checks, c.Holds) ↔ m.Valid := by
  have hsnippets : (∀ entry ∈ m.snippets.zipIdx 1, entry.1.HasOneSource) ↔
      ∀ s ∈ m.snippets, s.HasOneSource := by
    rw [← List.forall_mem_map (P := Snippet.HasOneSource), List.zipIdx_map_fst]
  have hnamespace : (∀ segment ∈ m.namespaceName.toList.flatMap namespaceSegments, IsDeclarable segment) ↔
      ∀ name ∈ m.namespaceName, ∀ segment ∈ namespaceSegments name, IsDeclarable segment := by
    simp only [List.forall_mem_flatMap, Option.mem_toList, Option.mem_def]
  simp only [Manifest.checks, List.forall_mem_append, List.forall_mem_map, Check.holds_declaredName,
    Check.holds_snippetSource, hsnippets, hnamespace, TypeSpec.forall_checksAll_iff]
  constructor
  · rintro ⟨⟨hsegments, htypes⟩, hsources⟩
    exact ⟨hsegments, htypes, hsources⟩
  · intro h
    exact ⟨⟨h.namespaceName, h.types⟩, h.snippets⟩

namespace Manifest
variable (m : Manifest) (source : SourceText)

theorem validate_eq_ok_iff : m.validate source = .ok () ↔ m.Valid := by
  have hvalid : m.checks.findSome? (Check.verdict source) = none ↔ m.Valid := by
    simp only [List.findSome?_eq_none_iff, Check.verdict_eq_none_iff, forall_checks_iff]
  rw [← hvalid, validate, CheckContext.manifestError?_eq]
  cases m.checks.findSome? (Check.verdict source) <;> simp

private theorem validate_eq_error_iff (e : ManifestError) :
    m.validate source = .error e ↔
      ∃ before c after, m.checks = before ++ c :: after ∧ (∀ b ∈ before, b.Holds) ∧ ¬ c.Holds ∧
        e = c.error source := by
  have hfirst : m.validate source = .error e ↔ m.checks.findSome? (Check.verdict source) = some e := by
    rw [validate, CheckContext.manifestError?_eq]
    cases m.checks.findSome? (Check.verdict source) <;> simp
  simp only [hfirst, List.findSome?_eq_some_iff, Check.verdict_eq_none_iff, Check.verdict_eq_some_iff]
  constructor
  · rintro ⟨before, c, after, hchecks, hviolated, hbefore⟩
    exact ⟨before, c, after, hchecks, hbefore, hviolated⟩
  · rintro ⟨before, c, after, hchecks, hbefore, hviolated⟩
    exact ⟨before, c, after, hchecks, hviolated, hbefore⟩

/-- A manifest is accepted exactly when it is valid, and refused with the error of the first check that it
violates in reading order. -/
theorem validate_exact :
    (m.validate source = .ok () ↔ m.Valid) ∧
      ∀ e, m.validate source = .error e ↔
        ∃ before c after, m.checks = before ++ c :: after ∧ (∀ b ∈ before, b.Holds) ∧ ¬ c.Holds ∧
          e = c.error source :=
  ⟨m.validate_eq_ok_iff source, m.validate_eq_error_iff source⟩

/-- A method inside a type comes before the types behind it. -/
example :
    validate { types := [
        { name := "Outer", types := [{ name := "Inner", methods := [{ name := "load-all" }] }] },
        { name := "class" }] } ⟨"", "acme.toml"⟩ =
      .error (.invalidIdentifier "acme.toml" "load-all" "method in 'Outer.Inner'" .badCharacter none) := by
  rfl

end Manifest
end CodeScribe
