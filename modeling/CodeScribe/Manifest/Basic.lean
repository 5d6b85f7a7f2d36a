import CodeScribe.Config
import CodeScribe.Dictionary

/-! Manifests: declarative descriptions of one generated document. -/
namespace CodeScribe

inductive TypeKind where
  | classType
  | interfaceType
  | structType
  | recordType
  | recordStruct
  | enumType
  deriving DecidableEq, Repr

def TypeKind.keyword : TypeKind → String
  | .classType => "class"
  | .interfaceType => "interface"
  | .structType => "struct"
  | .recordType => "record"
  | .recordStruct => "record struct"
  | .enumType => "enum"

def TypeKind.hasPrimaryConstructor : TypeKind → Bool
  | .interfaceType | .enumType => false
  | _ => true

def TypeKind.isRecord : TypeKind → Bool
  | .recordType | .recordStruct => true
  | _ => false

structure ParameterSpec where
  name : String := ""
  type : String := ""
  default : Option String := none
  doc : Option String := none
  deriving DecidableEq, Repr

/-- A method. One that is named like its type is a constructor. -/
structure MethodSpec where
  name : String := ""
  returns : String := "void"
  modifiers : List String := ["public"]
  generics : List String := []
  parameters : List ParameterSpec := []
  attributes : List String := []
  constraints : List String := []
  summary : Option String := none
  returnsDoc : Option String := none
  /-- Statements of a body in braces. -/
  body : List String := []
  /-- Expression of a body after an arrow. -/
  arrow : Option String := none
  abstract : Bool := false
  deriving DecidableEq, Repr

structure TypeSpec where
  name : String := ""
  kind : TypeKind := .classType
  modifiers : List String := ["public"]
  generics : List String := []
  /-- Parameter list of the primary constructor, without parentheses. -/
  parameters : Option String := none
  bases : List String := []
  attributes : List String := []
  constraints : List String := []
  summary : Option String := none
  members : List String := []
  methods : List MethodSpec := []
  types : List TypeSpec := []
  deriving Repr

/-- A record with a primary constructor and nothing else ends after its signature. -/
def TypeSpec.isTerminated (t : TypeSpec) : Bool :=
  t.parameters.isSome && t.kind.isRecord && t.members.isEmpty && t.methods.isEmpty
    && t.types.isEmpty

mutual

def TypeSpec.typeCount : TypeSpec → Nat
  | { types, .. } => 1 + TypeSpec.typeCountAll types

def TypeSpec.typeCountAll : List TypeSpec → Nat
  | [] => 0
  | t :: rest => t.typeCount + TypeSpec.typeCountAll rest

end

mutual

def TypeSpec.methodCount : TypeSpec → Nat
  | { methods, types, .. } => methods.length + TypeSpec.methodCountAll types

def TypeSpec.methodCountAll : List TypeSpec → Nat
  | [] => 0
  | t :: rest => t.methodCount + TypeSpec.methodCountAll rest

end

/-- Where a snippet stands relative to the types. -/
inductive Placement where
  | before
  | after
  deriving DecidableEq, Repr

/-- Free text at the top of a document, given as it is or by a template. -/
structure Snippet where
  raw : Option String := none
  template : Option String := none
  /-- Values for this snippet only. They override those of the manifest. -/
  values : Dictionary String := []
  placement : Placement := .after
  deriving Repr

structure Manifest where
  namespaceName : Option String := none
  /-- Where the document is written, relative to the manifest. -/
  output : Option String := none
  /-- Directory of templates, relative to the manifest. -/
  templates : Option String := none
  usings : List String := []
  staticUsings : List String := []
  aliases : Dictionary String := []
  values : Dictionary String := []
  document : Config := {}
  types : List TypeSpec := []
  snippets : List Snippet := []

namespace Manifest

def typeCount (m : Manifest) : Nat := TypeSpec.typeCountAll m.types

def methodCount (m : Manifest) : Nat := TypeSpec.methodCountAll m.types

/-- Number of import directives, before repetitions are dropped. -/
def importCount (m : Manifest) : Nat :=
  m.usings.length + m.staticUsings.length + m.aliases.length

end Manifest
end CodeScribe
