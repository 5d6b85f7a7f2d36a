import CodeScribe.Text.Basic

/-! References to types: a dotted name, type arguments, and a suffix for arrays and nullability. -/
namespace CodeScribe

structure TypeRef where
  scope : Option String := none
  name : String
  arguments : List TypeRef := []
  suffix : String := ""
  deriving Repr

namespace TypeRef

/-- A reference without arguments. An empty scope is none. -/
def new (scope name : String) : TypeRef :=
  { scope := if scope.isEmpty then none else some scope, name }

def splitLast? (c : Char) : List Char → Option (List Char × List Char)
  | [] => none
  | d :: rest =>
    match splitLast? c rest with
    | some (before, after) => some (d :: before, after)
    | none => if d = c then some ([], rest) else none

/-- Arguments up to the bracket that closes `depth` open ones, and what follows it.
`current` is the reversed text of the argument so far; commas inside deeper brackets belong to it. -/
def closeArguments? (depth : Nat) (current : List Char) :
    List Char → Option (List (List Char) × List Char)
  | [] => none
  | c :: rest =>
    if c = '<' then closeArguments? (depth + 1) (c :: current) rest
    else if c = '>' then
      if depth ≤ 1 then some ([Text.trim current.reverse], rest)
      else closeArguments? (depth - 1) (c :: current) rest
    else if c = ',' ∧ depth = 1 then
      (closeArguments? depth [] rest).map fun (arguments, suffix) =>
        (Text.trim current.reverse :: arguments, suffix)
    else closeArguments? depth (c :: current) rest

/-- Head, arguments and suffix of a text with angle brackets that are closed. -/
def splitGeneric? (text : List Char) : Option (List Char × List (List Char) × List Char) :=
  match text.dropWhile (· ≠ '<') with
  | [] => none
  | _ :: rest =>
    (closeArguments? 1 [] rest).map fun (arguments, suffix) =>
      (text.takeWhile (· ≠ '<'), arguments, suffix)

theorem length_trim_le (cs : List Char) : (Text.trim cs).length ≤ cs.length := by
  simp only [Text.trim, Text.trimEnd, Text.trimStart, List.length_reverse]
  refine Nat.le_trans (Text.length_dropWhile_le _ _) ?_
  rw [List.length_reverse]
  exact Text.length_dropWhile_le _ _

private theorem length_closeArguments {rest : List Char} : ∀ {depth : Nat} {current : List Char}
    {arguments : List (List Char)} {suffix : List Char},
    closeArguments? depth current rest = some (arguments, suffix) →
    ∀ a ∈ arguments, a.length ≤ current.length + rest.length := by
  induction rest with
  | nil => intro depth current arguments suffix h; simp [closeArguments?] at h
  | cons c rest ih =>
    intro depth current arguments suffix h a ha
    rw [closeArguments?] at h
    split at h
    · have := ih h a ha; simp at this ⊢; omega
    split at h
    · split at h
      · simp only [Option.some.injEq, Prod.mk.injEq] at h
        obtain ⟨rfl, rfl⟩ := h
        rw [List.mem_singleton] at ha
        subst ha
        have := length_trim_le current.reverse
        simp at this ⊢; omega
      · have := ih h a ha; simp at this ⊢; omega
    split at h
    · rw [Option.map_eq_some_iff] at h
      obtain ⟨⟨arguments', suffix'⟩, h', he⟩ := h
      simp only [Prod.mk.injEq] at he
      obtain ⟨rfl, rfl⟩ := he
      rcases List.mem_cons.mp ha with rfl | ha
      · have := length_trim_le current.reverse
        simp at this ⊢; omega
      · have := ih h' a ha; simp at this ⊢; omega
    · have := ih h a ha; simp at this ⊢; omega

theorem length_lt_of_splitGeneric {text head suffix : List Char} {arguments : List (List Char)}
    (h : splitGeneric? text = some (head, arguments, suffix)) :
    ∀ a ∈ arguments, a.length < text.length := by
  intro a ha
  unfold splitGeneric? at h
  split at h
  · cases h
  · rename_i c rest hd
    rw [Option.map_eq_some_iff] at h
    obtain ⟨⟨arguments', suffix'⟩, h', he⟩ := h
    simp only [Prod.mk.injEq] at he
    obtain ⟨_, rfl, rfl⟩ := he
    have h1 := length_closeArguments h' a ha
    have h2 := Text.length_dropWhile_le (· ≠ '<') text
    rw [hd] at h2
    simp at h1 h2
    omega

/-- A reference from its head, arguments and suffix. The last dot ends the scope. -/
def ofParts (head : List Char) (arguments : List TypeRef) (suffix : List Char) : TypeRef :=
  match splitLast? '.' head with
  | some (scope, name) => ⟨some (String.ofList scope), String.ofList name, arguments, String.ofList suffix⟩
  | none => ⟨none, String.ofList head, arguments, String.ofList suffix⟩

/-- Reads a reference from any text. Brackets that are never closed belong to the name. -/
def ofChars (text : List Char) : TypeRef :=
  let trimmed := Text.trim text
  match h : splitGeneric? trimmed with
  | some (head, arguments, suffix) =>
    ofParts head
      (arguments.attach.map fun ⟨a, ha⟩ => have := length_lt_of_splitGeneric h a ha; ofChars a) suffix
  | none =>
    let plain (c : Char) : Bool := c ≠ '[' && c ≠ '?'
    ofParts (trimmed.takeWhile plain) [] (trimmed.dropWhile plain)
termination_by text.length
decreasing_by
  exact Nat.lt_of_lt_of_le this (length_trim_le text)

def parse (text : String) : TypeRef := ofChars text.toList

def bracketed (arguments : List (List Char)) : List Char :=
  if arguments.isEmpty then [] else '<' :: Text.join ", ".toList arguments ++ ['>']

mutual

def fullChars : TypeRef → List Char
  | ⟨scope, name, arguments, suffix⟩ =>
    (match scope with
      | some scope => scope.toList ++ ['.']
      | none => [])
      ++ name.toList ++ bracketed (fullCharsAll arguments) ++ suffix.toList

def fullCharsAll : List TypeRef → List (List Char)
  | [] => []
  | r :: rest => fullChars r :: fullCharsAll rest

end

def fullName (r : TypeRef) : String := String.ofList r.fullChars

def addNew (known : List String) (names : List String) : List String :=
  names.foldl (fun acc name => if acc.contains name then acc else acc ++ [name]) known

mutual

/-- The text without any scope, and the scopes left out, each once. -/
def shorten : TypeRef → List Char × List String
  | ⟨scope, name, arguments, suffix⟩ =>
    let (texts, imports) := shortenAll arguments scope.toList
    (name.toList ++ bracketed texts ++ suffix.toList, imports)

def shortenAll : List TypeRef → List String → List (List Char) × List String
  | [], known => ([], known)
  | r :: rest, known =>
    let (text, imports) := shorten r
    let (texts, all) := shortenAll rest (addNew known imports)
    (text :: texts, all)

end

structure Named where
  text : String
  imports : List String := []
  deriving DecidableEq, Repr

/-- Writes a reference, with all scopes or with none. Only the latter relies on imports. -/
def named (simplify : Bool) (r : TypeRef) : Named :=
  if simplify then
    let (text, imports) := r.shorten
    { text := String.ofList text, imports }
  else { text := r.fullName }

end TypeRef
end CodeScribe
