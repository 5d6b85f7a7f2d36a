import CodeScribe.Draft
import CodeScribe.Identifier.Case
import CodeScribe.Manifest.Basic
import CodeScribe.Template.Registry

/-! The document that a manifest describes. -/
namespace CodeScribe

def genericsText (generics : List String) : String :=
  if generics.isEmpty then "" else "<" ++ ", ".intercalate generics ++ ">"

namespace ParameterSpec

def declaredName (p : ParameterSpec) : String := Identifier.escapeKeyword p.name

def declaration (p : ParameterSpec) : String :=
  let start := p.type ++ " " ++ p.declaredName
  match p.default with
  | some value => start ++ " = " ++ value
  | none => start

end ParameterSpec

namespace MethodSpec

def signature (m : MethodSpec) (owner : String) : String :=
  let returns := if m.name = owner then [] else [m.returns]
  " ".intercalate (m.modifiers ++ returns ++ [m.name]) ++ genericsText m.generics
    ++ "(" ++ ", ".intercalate (m.parameters.map (·.declaration)) ++ ")"

def isDocumented (m : MethodSpec) : Bool :=
  m.summary.isSome || m.returnsDoc.isSome || m.parameters.any (·.doc.isSome)

def describe (m : MethodSpec) (d : DocComment) : DocComment :=
  let summarized := m.summary.elim d d.addSummary
  let listed := m.parameters.foldl (fun d p => p.doc.elim d (d.addParam p.declaredName)) summarized
  m.returnsDoc.elim listed listed.addReturns

def annotate (m : MethodSpec) (h : Head) : Head :=
  let documented := if m.isDocumented then h.document m.describe else h
  m.constraints.foldl Head.addConstraint (m.attributes.foldl Head.addAttribute documented)

def lower (m : MethodSpec) (draft : MethodDraft) : MethodDraft :=
  let headed := draft.annotate m.annotate
  if m.abstract then headed.restyle .abstract
  else match m.arrow with
    | some expression => (headed.restyle .arrow).write (·.statement expression)
    | none => m.body.foldl (fun d text => d.write (·.statement text)) headed

end MethodSpec

namespace TypeSpec

def signature (t : TypeSpec) : String :=
  let parameters :=
    match t.parameters with
    | some text => "(" ++ text ++ ")"
    | none => ""
  " ".intercalate (t.modifiers ++ [t.kind.keyword]) ++ " " ++ t.name ++ genericsText t.generics
    ++ parameters

def annotate (t : TypeSpec) (h : Head) : Head :=
  let documented := t.summary.elim h fun text => h.document (·.addSummary text)
  t.constraints.foldl Head.addConstraint (t.attributes.foldl Head.addAttribute documented)

mutual

/-- Fills the draft of a type: member lines, then methods, then the types in it.
One that ends after its signature gets none of them. -/
def lower : TypeSpec → TypeDraft → TypeDraft
  | ⟨name, kind, modifiers, generics, parameters, bases, attributes, constraints, summary, members,
      methods, types⟩, draft =>
    let t : TypeSpec := ⟨name, kind, modifiers, generics, parameters, bases, attributes, constraints,
      summary, members, methods, types⟩
    let headed := bases.foldl TypeDraft.addBase (draft.annotate t.annotate)
    if t.isTerminated then headed.terminate
    else
      let listed := members.foldl TypeDraft.member headed
      lowerAll types (methods.foldl (fun d m => d.method (m.signature name) m.lower) listed)

def lowerAll : List TypeSpec → TypeDraft → TypeDraft
  | [], draft => draft
  | t :: rest, draft => lowerAll rest (draft.nestedType t.signature t.lower)

end

end TypeSpec

/-- The text of a snippet. Its own values come before those of the manifest. -/
def Snippet.text (s : Snippet) (shared : Dictionary String) (templates : Registry) :
    Except TemplateError String :=
  match s.raw, s.template with
  | some raw, _ => .ok raw
  | none, some id => templates.render id (Dictionary.insertAll s.values shared)
  | none, none => .ok ""

namespace Manifest

/-- Adds the snippets of one placement, without blanks at their ends. -/
def lowerSnippets (m : Manifest) (templates : Registry) (placement : Placement) (d : Document) :
    Except TemplateError Document :=
  (m.snippets.filter (·.placement = placement)).foldlM
    (fun d s => do return d.raw (Text.strippedEnd (← s.text m.values templates))) d

/-- The document with its settings, imports and namespace, before its entries. -/
def outline (m : Manifest) : Document :=
  let opened : Document := { config := m.document, enclosing := m.namespaceName }
  let imported := m.usings.foldl Document.importNamespace opened
  let extended := m.staticUsings.foldl Document.importStatic imported
  m.aliases.foldl (fun d entry => d.importAlias entry.1 entry.2) extended

/-- The document: snippets placed before the types, the types, the other snippets. -/
def lower (m : Manifest) (templates : Registry) : Except TemplateError Document := do
  let opened ← m.lowerSnippets templates .before m.outline
  m.lowerSnippets templates .after
    (m.types.foldl (fun d t => d.typeDecl t.signature t.lower) opened)

end Manifest
end CodeScribe
