import CodeScribe.Proofs.Imports.Insertion
import CodeScribe.TypeRef

/-! References without their scopes: what is left of the text, and which scopes it leaves out, in which
order. -/
namespace CodeScribe.TypeRef

mutual

/-- The references among the arguments, at any depth. -/
def inner : TypeRef → List TypeRef
  | ⟨_, _, arguments, _⟩ => innerAll arguments

def innerAll : List TypeRef → List TypeRef
  | [] => []
  | r :: rest => r :: (inner r ++ innerAll rest)

end

theorem mem_innerAll {b : TypeRef} {refs : List TypeRef} :
    b ∈ innerAll refs ↔ ∃ a ∈ refs, b = a ∨ b ∈ a.inner := by
  induction refs with
  | nil => simp [innerAll]
  | cons r rest ih =>
    rw [innerAll, List.mem_cons, List.mem_append, ih]
    simp [or_assoc]

/-- All scopes that are written with a reference: its own, and then those of its arguments in order. -/
def scopes (r : TypeRef) : List String := (r :: r.inner).filterMap scope

mutual

/-- The reference with no scope in it. -/
def unscoped : TypeRef → TypeRef
  | ⟨_, name, arguments, suffix⟩ => ⟨none, name, unscopedAll arguments, suffix⟩

def unscopedAll : List TypeRef → List TypeRef
  | [] => []
  | r :: rest => unscoped r :: unscopedAll rest

end

private theorem addNew_eraseDups (known names : List String) :
    addNew known.eraseDups names.eraseDups = (known ++ names).eraseDups :=
  (Imports.foldl_insertNew_eq names.eraseDups known).trans (Imports.eraseDups_append_eraseDups known names)

mutual

theorem shorten_text (r : TypeRef) : r.shorten.1 = r.unscoped.fullChars := by
  obtain ⟨scope, name, arguments, suffix⟩ := r
  simp only [shorten, unscoped, fullChars, List.nil_append, shortenAll_text arguments]

private theorem shortenAll_text (refs : List TypeRef) (known : List String) :
    (shortenAll refs known).1 = fullCharsAll (unscopedAll refs) := by
  cases refs with
  | nil => rfl
  | cons r rest => simp only [shortenAll, unscopedAll, fullCharsAll, shorten_text r, shortenAll_text rest]

end

mutual

/-- What the shortened text leaves out are all the scopes, each once, where it comes first. -/
theorem shorten_imports (r : TypeRef) : r.shorten.2 = r.scopes.eraseDups := by
  obtain ⟨scope, name, arguments, suffix⟩ := r
  have hown : scope.toList = scope.toList.eraseDups := by cases scope <;> rfl
  rw [shorten]
  dsimp only
  rw [hown, shortenAll_imports arguments, scopes, inner]
  cases scope <;> rfl

/-- The scopes known before are those of what comes before in the tree. -/
theorem shortenAll_imports (refs : List TypeRef) (known : List String) :
    (shortenAll refs known.eraseDups).2 = (known ++ (innerAll refs).filterMap scope).eraseDups := by
  cases refs with
  | nil => rw [shortenAll, innerAll, List.filterMap_nil, List.append_nil]
  | cons r rest =>
    have hinner : innerAll (r :: rest) = (r :: r.inner) ++ innerAll rest := rfl
    rw [shortenAll]
    dsimp only
    rw [shorten_imports r, addNew_eraseDups, shortenAll_imports rest, hinner, List.filterMap_append,
      ← scopes, List.append_assoc]

end

theorem mem_shorten_imports {x : String} (r : TypeRef) : x ∈ r.shorten.2 ↔ x ∈ r.scopes := by
  rw [shorten_imports, List.mem_eraseDups]

/-- A shortened reference is the text of the same tree without scopes, and it relies on exactly the scopes
left out, each once, in the order in which the tree names them first. With its scopes it relies on none. -/
theorem named_eq (r : TypeRef) :
    r.named true = { text := r.unscoped.fullName, imports := r.scopes.eraseDups } ∧
      r.named false = { text := r.fullName, imports := [] } := by
  refine ⟨?_, rfl⟩
  rw [named, if_pos rfl]
  dsimp only
  rw [shorten_imports, shorten_text, fullName]

example :
    named true ⟨some "B", "Map", [⟨some "A", "K", [], ""⟩, ⟨some "B", "V", [⟨some "A", "T", [], "[]"⟩], "?"⟩], ""⟩ =
      { text := "Map<K, V<T[]>?>", imports := ["B", "A"] } := by decide +kernel

end CodeScribe.TypeRef
