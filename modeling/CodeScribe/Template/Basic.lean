import CodeScribe.Dictionary
import CodeScribe.FileSystem.Basic

/-! Templates: texts with markers in double braces, each replaced by a value. -/
namespace CodeScribe

inductive TemplateError where
  | missingValue (name : String)
  | unknownTemplate (id : String)
  | inaccessible (cause : AccessError)
  deriving DecidableEq, Repr

def TemplateError.message : TemplateError → String
  | .missingValue name => "no value for placeholder '" ++ name ++ "'"
  | .unknownTemplate id => "unknown template '" ++ id ++ "'"
  | .inaccessible cause => cause.message

structure Template where
  source : String
  deriving DecidableEq, Repr

namespace Template

def isPlaceholderStart (c : Char) : Bool := c.isAlpha || c = '_'

def isPlaceholderChar (c : Char) : Bool := c.isAlphanum || c = '_' || c = '.' || c = '-'

def marker? : List Char → Option (String × List Char)
  | '{' :: '{' :: inside =>
    match inside.dropWhile Character.isBlank with
    | [] => none
    | c :: rest =>
      if isPlaceholderStart c then
        match (rest.dropWhile isPlaceholderChar).dropWhile Character.isBlank with
        | '}' :: '}' :: after => some (String.ofList (c :: rest.takeWhile isPlaceholderChar), after)
        | _ => none
      else none
  | _ => none

private theorem length_lt_of_marker {text after : List Char} {name : String}
    (h : marker? text = some (name, after)) : after.length < text.length := by
  unfold marker? at h
  split at h
  · rename_i inside
    split at h
    · cases h
    · rename_i c rest hd
      split at h
      · split at h
        · rename_i tail hr
          cases h
          have h1 := Text.length_dropWhile_le Character.isBlank inside
          have h2 := Text.length_dropWhile_le Character.isBlank (rest.dropWhile isPlaceholderChar)
          have h3 := Text.length_dropWhile_le isPlaceholderChar rest
          rw [hd] at h1
          rw [hr] at h2
          simp at h1 h2 h3 ⊢
          omega
        · cases h
      · cases h
  · cases h

inductive Piece where
  | literal (c : Char)
  | placeholder (name : String)
  deriving DecidableEq, Repr

/-- The template from left to right. A marker is taken wherever one starts. -/
def pieces (text : List Char) : List Piece :=
  match text with
  | [] => []
  | c :: rest =>
    match h : marker? (c :: rest) with
    | some (name, after) =>
      have := length_lt_of_marker h
      .placeholder name :: pieces after
    | none => .literal c :: pieces rest
termination_by text.length
decreasing_by
  · exact this
  · exact Nat.lt_succ_self _

def markerNames (t : Template) : List String :=
  (pieces t.source.toList).filterMap fun
    | .placeholder name => some name
    | .literal _ => none

/-- The names of the markers, each once, in order of first appearance. -/
def placeholders (t : Template) : List String :=
  t.markerNames.foldl (fun acc name => if acc.contains name then acc else acc ++ [name]) []

/-- The text of pieces. It fails at the first placeholder without a value. -/
def fill (values : Dictionary String) : List Piece → Except TemplateError (List Char)
  | [] => .ok []
  | .literal c :: rest => (fill values rest).map (c :: ·)
  | .placeholder name :: rest =>
    match values.find? name with
    | none => .error (.missingValue name)
    | some value => (fill values rest).map (value.toList ++ ·)

/-- The text with every marker replaced. Values are inserted as they are. -/
def render (t : Template) (values : Dictionary String) : Except TemplateError String :=
  (fill values (pieces t.source.toList)).map String.ofList

end Template
end CodeScribe
