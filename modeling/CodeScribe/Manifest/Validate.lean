import CodeScribe.Manifest.Basic
import CodeScribe.Manifest.Source

/-! Validation of manifests: the first violation in reading order, with its context. -/
namespace CodeScribe

/-- What a check knows: the source, and the names of the declarations around it. -/
structure CheckContext where
  source : SourceText
  path : List String := []
  deriving DecidableEq, Repr

namespace CheckContext

def push (c : CheckContext) (name : String) : CheckContext := { c with path := c.path ++ [name] }

/-- The names around, outermost first, joined by dots. -/
def pathText (c : CheckContext) : String := ".".intercalate c.path

def describe (c : CheckContext) (kind : String) : String :=
  if c.path.isEmpty then kind else kind ++ " in '" ++ c.pathText ++ "'"

/-- The violation of a name that may be a keyword, because it is escaped later. -/
def identifierError? (c : CheckContext) (kind name : String) : Option ManifestError :=
  (Identifier.problem? name).map fun problem =>
    .invalidIdentifier c.source.file name (c.describe kind) problem (c.source.findName? name)

def nameError? (c : CheckContext) (kind name : String) : Option ManifestError :=
  if Identifier.isKeyword name then
    some (.reservedKeyword c.source.file name (c.describe kind) (c.source.findName? name))
  else c.identifierError? kind name

/-- The violation of a namespace: that of its first bad segment, after one global marker. -/
def namespaceError? (c : CheckContext) (name : String) : Option ManifestError :=
  (Text.pieces '.' (Text.withoutStart globalMarker name).toList).findSome? fun segment =>
    c.nameError? "namespace" (String.ofList segment)

def bodyForms (m : MethodSpec) : Nat :=
  (!m.body.isEmpty).toNat + m.arrow.isSome.toNat + m.abstract.toNat

def methodError? (c : CheckContext) (m : MethodSpec) : Option ManifestError :=
  let inside := c.push m.name
  c.nameError? "method" m.name
    <|> m.generics.findSome? (inside.nameError? "type parameter")
    <|> m.parameters.findSome? (inside.identifierError? "parameter" ·.name)
    <|> if 1 < bodyForms m then
        some (c.source.invalidAt
          ("method '" ++ inside.pathText ++ "' must use only one of 'body', 'arrow' and 'abstract'")
          m.name)
      else none

mutual

def typeError? (c : CheckContext) : TypeSpec → Option ManifestError
  | { name, kind, generics, parameters, methods, types, .. } =>
    c.nameError? "type" name
      <|> generics.findSome? ((c.push name).nameError? "type parameter")
      <|> (if parameters.isSome && !kind.hasPrimaryConstructor then
          some (c.source.invalidAt
            (kind.keyword ++ " '" ++ name ++ "' cannot have a primary constructor") name)
        else none)
      <|> methods.findSome? (c.push name).methodError?
      <|> typesError? (c.push name) types

def typesError? (c : CheckContext) : List TypeSpec → Option ManifestError
  | [] => none
  | t :: rest => typeError? c t <|> typesError? c rest

end

def snippetError? (c : CheckContext) (number : Nat) (s : Snippet) : Option ManifestError :=
  match s.raw, s.template with
  | some _, some _ =>
    some (c.source.invalid ("snippet " ++ toString number ++ " sets both 'raw' and 'template'"))
  | none, none =>
    some (c.source.invalid ("snippet " ++ toString number ++ " needs either 'raw' or 'template'"))
  | _, _ => none

def snippetsError? (c : CheckContext) (number : Nat) : List Snippet → Option ManifestError
  | [] => none
  | s :: rest => c.snippetError? number s <|> snippetsError? c (number + 1) rest

def manifestError? (c : CheckContext) (m : Manifest) : Option ManifestError :=
  m.namespaceName.bind c.namespaceError?
    <|> c.typesError? m.types
    <|> c.snippetsError? 1 m.snippets

end CheckContext

def Manifest.validate (m : Manifest) (source : SourceText) : Except ManifestError Unit :=
  match CheckContext.manifestError? { source } m with
  | some e => .error e
  | none => .ok ()

end CodeScribe
