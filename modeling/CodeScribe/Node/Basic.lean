import CodeScribe.Text.Basic

/-! The tree of a source text: what a document is made of, before any layout. -/
namespace CodeScribe

structure DocComment where
  summary : Option String := none
  typeParams : List (String × String) := []
  params : List (String × String) := []
  returns : Option String := none
  remarks : Option String := none
  /-- Free lines after the sections. -/
  trailer : List String := []
  deriving DecidableEq, Repr

namespace DocComment

/-- Whether there is no section and no free line. An empty section counts as a section. -/
def isEmpty (d : DocComment) : Bool :=
  d.summary.isNone && d.typeParams.isEmpty && d.params.isEmpty && d.returns.isNone
    && d.remarks.isNone && d.trailer.isEmpty

/-- The texts of the comment in their fixed order, tags included, before they are cut into lines. -/
def texts (d : DocComment) : List (List Char) :=
  let spread (tag : String) : Option String → List (List Char)
    | none => []
    | some text => [("<" ++ tag ++ ">").toList, text.toList, ("</" ++ tag ++ ">").toList]
  let named (tag : String) (entry : String × String) : List Char :=
    ("<" ++ tag ++ " name=\"" ++ entry.1 ++ "\">" ++ entry.2 ++ "</" ++ tag ++ ">").toList
  spread "summary" d.summary
    ++ d.typeParams.map (named "typeparam")
    ++ d.params.map (named "param")
    ++ (d.returns.map fun text => ("<returns>" ++ text ++ "</returns>").toList).toList
    ++ spread "remarks" d.remarks
    ++ d.trailer.map String.toList

/-- The lines of the comment. An empty line is the bare start of a comment line. -/
def lines (d : DocComment) (lineStart : List Char) : List (List Char) :=
  d.texts.flatMap fun text => (Text.pieces '\n' text).map fun piece =>
    let line := Text.chop '\r' piece
    if line.isEmpty then lineStart else lineStart ++ ' ' :: line

end DocComment

structure Head where
  signature : String
  doc : Option DocComment := none
  attributes : List String := []
  constraints : List String := []
  deriving DecidableEq, Repr

/-- One attribute line. Square brackets around an attribute are optional in the entry. -/
def attributeLine (entry : String) : List Char :=
  if entry.toList.head? = some '[' then entry.toList else '[' :: entry.toList ++ [']']

/-- One constraint clause. The leading keyword is optional in the entry. -/
def constraintLine (entry : String) : List Char :=
  if "where ".toList.isPrefixOf entry.toList then entry.toList else "where ".toList ++ entry.toList

structure Brackets where
  opening : String
  closing : String
  deriving DecidableEq, Repr

namespace Brackets

def braces : Brackets := ⟨"\x7b", "\x7d"⟩
def parens : Brackets := ⟨"(", ")"⟩
def square : Brackets := ⟨"[", "]"⟩

end Brackets

/-- What surrounds the children of a block, and how it is joined to its surroundings. -/
structure Frame where
  header : Option String := none
  footer : Option String := none
  brackets : Option Brackets := none
  /-- The children are one expression, so that the last line stays open for what follows. -/
  expression : Bool := false
  /-- Header, children and footer form one unit, so that the header does not end its line. -/
  joined : Bool := false
  deriving DecidableEq, Repr

/-- Whether the text before the footer, or before what follows the block, stays open.
A footer is glued to an expression or a joined unit; without a footer the place decides too. -/
def Frame.glues (f : Frame) (tail : Bool) : Bool :=
  if f.footer.isSome then f.joined || f.expression else tail || f.expression

inductive MethodStyle where
  | block
  | arrow
  | abstract
  deriving DecidableEq, Repr

inductive Node where
  /-- Literal text. Verbatim text bypasses indentation and classification. -/
  | raw (text : String) (verbatim : Bool)
  | block (frame : Frame) (children : List Node)
  /-- A type with its members, or one that ends after its signature. -/
  | typeDecl (head : Head) (bases : List String) (terminated : Bool) (members : List Node)
  | methodDecl (head : Head) (style : MethodStyle) (frame : Frame) (body : List Node)
  | namespaceDecl (name : String) (entries : List Node)
  | doc (comment : DocComment)
  | attributes (entries : List String)
  | constraints (entries : List String)
  /-- A request for a blank line between its neighbours.
  At either end of a sequence only a forced one has an effect. -/
  | separator (forced : Bool)
  deriving Repr

namespace Node

/-- Types and methods have blank lines around them among members. -/
def isDeclaration : Node → Bool
  | .typeDecl .. | .methodDecl .. => true
  | _ => false

def separation? : Node → Option Bool
  | .separator forced => some forced
  | _ => none

def isSeparator (n : Node) : Bool := n.separation?.isSome

def allSeparators (nodes : List Node) : Bool := nodes.all isSeparator

end Node

def typeSignature (head : Head) (bases : List String) : List Char :=
  if bases.isEmpty then head.signature.toList
  else head.signature.toList ++ " : ".toList ++ Text.join ", ".toList (bases.map String.toList)

end CodeScribe
