import CodeScribe.Manifest.Validate

/-! The single checks of a manifest: what each of them demands, and the error that tells of a violation. -/
namespace CodeScribe

/-- A letter or an underscore, then letters, numbers and underscores. -/
def IsBareIdentifier : List Char → Prop
  | [] => False
  | c :: rest => Identifier.isNameStart c = true ∧ ∀ d ∈ rest, Identifier.isNameChar d = true

/-- A bare identifier, or one behind the verbatim mark. -/
def IsIdentifier (name : String) : Prop :=
  IsBareIdentifier name.toList ∨ ∃ bare, name.toList = '@' :: bare ∧ IsBareIdentifier bare

namespace Identifier

theorem isKeyword_iff {name : String} : isKeyword name = true ↔ name ∈ keywords := List.contains_iff_mem

private theorem isNameStart_verbatimMark : isNameStart '@' = false := by decide +kernel

private theorem problem?_eq_none_iff (name : String) : problem? name = none ↔ IsIdentifier name := by
  have hbare (bare : List Char) : (match bare with
      | [] => some Problem.empty
      | c :: rest =>
        if isNameStart c then if rest.all isNameChar then none else some .badCharacter
        else if Character.isNumeric c then some .startsWithDigit
        else some .badStart) = none ↔ IsBareIdentifier bare := by
    cases bare with
    | nil => simp [IsBareIdentifier]
    | cons c rest =>
      by_cases hc : isNameStart c = true
      · simp [IsBareIdentifier, hc]
      · by_cases hn : Character.isNumeric c = true <;> simp [IsBareIdentifier, hc, hn]
  refine (hbare _).trans ?_
  rw [IsIdentifier]
  split
  · rename_i rest hname
    -- The mark itself starts no bare identifier, so the two readings of a name exclude each other.
    have hmarked : ¬ IsBareIdentifier ('@' :: rest) := by
      simp [IsBareIdentifier, isNameStart_verbatimMark]
    simp [hname, hmarked]
  · rename_i hplain
    refine ⟨.inl, fun h => h.elim id ?_⟩
    rintro ⟨bare, hname, -⟩
    exact absurd hname (hplain bare)

end Identifier

instance : DecidablePred IsIdentifier := fun name =>
  decidable_of_iff _ (Identifier.problem?_eq_none_iff name)

/-- What may be declared: an identifier that is not reserved. Behind the mark no word is. -/
def IsDeclarable (name : String) : Prop := IsIdentifier name ∧ name ∉ Identifier.keywords

/-- A method says in one way at most how its body looks. -/
def MethodSpec.HasOneBody (m : MethodSpec) : Prop :=
  (m.body = [] ∨ m.arrow = none) ∧ (m.body = [] ∨ m.abstract = false) ∧
    (m.arrow = none ∨ m.abstract = false)

/-- Interfaces and enumerations have no primary constructor. -/
def TypeSpec.MayConstruct (t : TypeSpec) : Prop :=
  t.kind = .interfaceType ∨ t.kind = .enumType → t.parameters = none

/-- A snippet is given in one way: as it is, or by a template. -/
def Snippet.HasOneSource (s : Snippet) : Prop :=
  (s.raw ≠ none ∧ s.template = none) ∨ (s.raw = none ∧ s.template ≠ none)

/-- One check of a manifest. `path` names the declarations around, outermost first. -/
inductive Check where
  | declaredName (path : List String) (kind name : String)
  | parameterName (path : List String) (name : String)
  | primaryConstructor (t : TypeSpec)
  | methodBody (path : List String) (m : MethodSpec)
  | snippetSource (number : Nat) (s : Snippet)

namespace Check

/-- What a check demands. -/
def Holds : Check → Prop
  | .declaredName _ _ name => IsDeclarable name
  | .parameterName _ name => IsIdentifier name
  | .primaryConstructor t => t.MayConstruct
  | .methodBody _ m => m.HasOneBody
  | .snippetSource _ s => s.HasOneSource

section
variable (path : List String)

@[simp] theorem holds_declaredName (kind name : String) :
    (declaredName path kind name).Holds ↔ IsDeclarable name := Iff.rfl

@[simp] theorem holds_parameterName (name : String) :
    (parameterName path name).Holds ↔ IsIdentifier name := Iff.rfl

@[simp] theorem holds_primaryConstructor (t : TypeSpec) :
    (primaryConstructor t).Holds ↔ t.MayConstruct := Iff.rfl

@[simp] theorem holds_methodBody (m : MethodSpec) : (methodBody path m).Holds ↔ m.HasOneBody := Iff.rfl

@[simp] theorem holds_snippetSource (number : Nat) (s : Snippet) :
    (snippetSource number s).Holds ↔ s.HasOneSource := Iff.rfl

end

instance : DecidablePred Holds
  | .declaredName _ _ name => inferInstanceAs (Decidable (IsIdentifier name ∧ _))
  | .parameterName _ name => inferInstanceAs (Decidable (IsIdentifier name))
  | .primaryConstructor t => inferInstanceAs (Decidable (_ ∨ _ → t.parameters = none))
  | .methodBody _ m => inferInstanceAs (Decidable ((m.body = [] ∨ _) ∧ _ ∧ _))
  | .snippetSource _ s => inferInstanceAs (Decidable ((s.raw ≠ none ∧ _) ∨ _ ∧ _))

/-- A kind of name, with the declarations that it is in. -/
def place (path : List String) (kind : String) : String :=
  if path = [] then kind else kind ++ " in '" ++ ".".intercalate path ++ "'"

/-- What is reported of a name that is no identifier. -/
def badIdentifier (source : SourceText) (path : List String) (kind name : String) : ManifestError :=
  .invalidIdentifier source.file name (place path kind) ((Identifier.problem? name).getD .empty)
    (source.findName? name)

/-- The error that tells of a violation. -/
def error (source : SourceText) : Check → ManifestError
  | .declaredName path kind name =>
    if name ∈ Identifier.keywords then
      .reservedKeyword source.file name (place path kind) (source.findName? name)
    else badIdentifier source path kind name
  | .parameterName path name => badIdentifier source path "parameter" name
  | .primaryConstructor t =>
    .invalid source.file (t.kind.keyword ++ " '" ++ t.name ++ "' cannot have a primary constructor")
      (source.findName? t.name)
  | .methodBody path m =>
    .invalid source.file
      ("method '" ++ ".".intercalate (path ++ [m.name])
        ++ "' must use only one of 'body', 'arrow' and 'abstract'")
      (source.findName? m.name)
  | .snippetSource number s =>
    .invalid source.file
      ("snippet " ++ toString number
        ++ if s.raw = none then " needs either 'raw' or 'template'" else " sets both 'raw' and 'template'")
      none

def verdict (source : SourceText) (c : Check) : Option ManifestError :=
  if c.Holds then none else some (c.error source)

theorem verdict_eq_none_iff (source : SourceText) (c : Check) : c.verdict source = none ↔ c.Holds := by
  simp [verdict]

theorem verdict_eq_some_iff (source : SourceText) (c : Check) (e : ManifestError) :
    c.verdict source = some e ↔ ¬ c.Holds ∧ e = c.error source := by
  by_cases h : c.Holds <;> simp [verdict, h, eq_comm]

end Check

namespace CheckContext
variable (source : SourceText) (path : List String)

private theorem describe_eq (kind : String) : describe ⟨source, path⟩ kind = Check.place path kind := by
  cases path <;> rfl

private theorem identifierError?_eq (kind name : String) :
    identifierError? ⟨source, path⟩ kind name =
      if IsIdentifier name then none else some (Check.badIdentifier source path kind name) := by
  rw [identifierError?, describe_eq, Check.badIdentifier]
  cases hp : Identifier.problem? name with
  | none => simp [(Identifier.problem?_eq_none_iff name).mp hp]
  | some problem =>
    have hbad : ¬ IsIdentifier name := by simp [← Identifier.problem?_eq_none_iff, hp]
    simp [hbad]

theorem parameterError?_eq (name : String) :
    identifierError? ⟨source, path⟩ "parameter" name = (Check.parameterName path name).verdict source :=
  identifierError?_eq source path "parameter" name

theorem nameError?_eq (kind name : String) :
    nameError? ⟨source, path⟩ kind name = (Check.declaredName path kind name).verdict source := by
  rw [nameError?, describe_eq, identifierError?_eq]
  by_cases hk : name ∈ Identifier.keywords
  · simp [Check.verdict, Check.Holds, Check.error, IsDeclarable, Identifier.isKeyword_iff, hk]
  · simp [Check.verdict, Check.Holds, Check.error, IsDeclarable, Identifier.isKeyword_iff, hk]

private theorem bodyForms_le_one_iff (m : MethodSpec) : bodyForms m ≤ 1 ↔ m.HasOneBody := by
  obtain ⟨name, returns, modifiers, generics, parameters, attributes, constraints, summary, returnsDoc,
    body, arrow, abstract⟩ := m
  cases body <;> cases arrow <;> cases abstract <;> simp [bodyForms, MethodSpec.HasOneBody]

theorem bodyError?_eq (m : MethodSpec) :
    (if 1 < bodyForms m then
      some (source.invalidAt ("method '" ++ pathText ⟨source, path ++ [m.name]⟩
        ++ "' must use only one of 'body', 'arrow' and 'abstract'") m.name)
    else none) = (Check.methodBody path m).verdict source := by
  have hforms : 1 < bodyForms m ↔ ¬ m.HasOneBody := by rw [← bodyForms_le_one_iff, Nat.not_le]
  by_cases h : m.HasOneBody
  · simp [hforms, h, Check.verdict, Check.Holds]
  · simp [hforms, h, Check.verdict, Check.Holds, Check.error, SourceText.invalidAt, pathText]

theorem constructorError?_eq (t : TypeSpec) :
    (if t.parameters.isSome && !t.kind.hasPrimaryConstructor then
      some (source.invalidAt (t.kind.keyword ++ " '" ++ t.name ++ "' cannot have a primary constructor")
        t.name)
    else none) = (Check.primaryConstructor t).verdict source := by
  have hkind : (t.parameters.isSome && !t.kind.hasPrimaryConstructor) = true ↔ ¬ t.MayConstruct := by
    rw [TypeSpec.MayConstruct]
    cases t.kind <;> cases t.parameters <;> simp [TypeKind.hasPrimaryConstructor]
  by_cases h : t.MayConstruct
  · simp only [hkind, h, not_true_eq_false, if_false, Check.verdict, Check.Holds, if_true]
  · simp only [hkind, h, not_false_eq_true, if_true, Check.verdict, Check.Holds, if_false]
    rfl

theorem snippetError?_eq (number : Nat) (s : Snippet) :
    snippetError? ⟨source, path⟩ number s = (Check.snippetSource number s).verdict source := by
  obtain ⟨raw, template, values, placement⟩ := s
  cases raw <;> cases template <;>
    simp [snippetError?, Check.verdict, Check.Holds, Check.error, Snippet.HasOneSource,
      SourceText.invalid, String.append_assoc]

end CheckContext
end CodeScribe
