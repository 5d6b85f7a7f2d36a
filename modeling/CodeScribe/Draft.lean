import CodeScribe.Document

/-! Drafts: declarations and blocks under construction, one piece at a time. -/
namespace CodeScribe

namespace DocComment

def addSummary (d : DocComment) (text : String) : DocComment := { d with summary := some text }

def addReturns (d : DocComment) (text : String) : DocComment := { d with returns := some text }

def addRemarks (d : DocComment) (text : String) : DocComment := { d with remarks := some text }

def addParam (d : DocComment) (name text : String) : DocComment :=
  { d with params := d.params ++ [(name, text)] }

def addTypeParam (d : DocComment) (name text : String) : DocComment :=
  { d with typeParams := d.typeParams ++ [(name, text)] }

def addLine (d : DocComment) (text : String) : DocComment :=
  { d with trailer := d.trailer ++ [text] }

end DocComment

namespace Head

/-- Continues the comment of a declaration, or starts one. -/
def document (h : Head) (write : DocComment → DocComment) : Head :=
  { h with doc := some (write (h.doc.getD {})) }

def addAttribute (h : Head) (text : String) : Head :=
  { h with attributes := h.attributes ++ [text] }

def addConstraint (h : Head) (text : String) : Head :=
  { h with constraints := h.constraints ++ [text] }

end Head

structure BlockDraft where
  frame : Frame := {}
  children : List Node := []

namespace BlockDraft

def node (b : BlockDraft) : Node := .block b.frame b.children

def push (b : BlockDraft) (n : Node) : BlockDraft := { b with children := b.children ++ [n] }

def reframe (b : BlockDraft) (change : Frame → Frame) : BlockDraft :=
  { b with frame := change b.frame }

def statement (b : BlockDraft) (text : String) : BlockDraft := b.push (.raw text false)

def rawStatement (b : BlockDraft) (text : String) : BlockDraft := b.push (.raw text true)

def block (b : BlockDraft) (build : BlockDraft → BlockDraft) : BlockDraft :=
  b.push (build {}).node

def scopeWith (b : BlockDraft) (header : String) (brackets : Brackets)
    (build : BlockDraft → BlockDraft) : BlockDraft :=
  b.push (build { frame := { header := some header, brackets := some brackets } }).node

def scope (b : BlockDraft) (header : String) (build : BlockDraft → BlockDraft) : BlockDraft :=
  b.scopeWith header .braces build

/-- Asks for a blank line; at either end of the block only a forced one has an effect. -/
def separator (b : BlockDraft) (forced : Bool) : BlockDraft := b.push (.separator forced)

end BlockDraft

structure MethodDraft where
  head : Head
  style : MethodStyle := .block
  body : BlockDraft := {}

namespace MethodDraft

def new (signature : String) : MethodDraft := { head := { signature } }

def node (m : MethodDraft) : Node := .methodDecl m.head m.style m.body.frame m.body.children

/-- Changes the form of the body. The last change counts. -/
def restyle (m : MethodDraft) (style : MethodStyle) : MethodDraft := { m with style }

def annotate (m : MethodDraft) (change : Head → Head) : MethodDraft :=
  { m with head := change m.head }

def write (m : MethodDraft) (change : BlockDraft → BlockDraft) : MethodDraft :=
  { m with body := change m.body }

end MethodDraft

structure TypeDraft where
  head : Head
  bases : List String := []
  terminated : Bool := false
  members : List Node := []

namespace TypeDraft

def new (signature : String) : TypeDraft := { head := { signature } }

def node (t : TypeDraft) : Node := .typeDecl t.head t.bases t.terminated t.members

def push (t : TypeDraft) (n : Node) : TypeDraft := { t with members := t.members ++ [n] }

def addBase (t : TypeDraft) (text : String) : TypeDraft := { t with bases := t.bases ++ [text] }

/-- Ends the declaration after its signature. Members are then not written. -/
def terminate (t : TypeDraft) : TypeDraft := { t with terminated := true }

def annotate (t : TypeDraft) (change : Head → Head) : TypeDraft := { t with head := change t.head }

def member (t : TypeDraft) (text : String) : TypeDraft := t.push (.raw text false)

def rawMember (t : TypeDraft) (text : String) : TypeDraft := t.push (.raw text true)

def method (t : TypeDraft) (signature : String) (build : MethodDraft → MethodDraft) : TypeDraft :=
  t.push (build (.new signature)).node

def nestedType (t : TypeDraft) (signature : String) (build : TypeDraft → TypeDraft) : TypeDraft :=
  t.push (build (.new signature)).node

end TypeDraft

structure NamespaceDraft where
  name : String
  entries : List Node := []

namespace NamespaceDraft

def node (n : NamespaceDraft) : Node := .namespaceDecl n.name n.entries

def push (n : NamespaceDraft) (entry : Node) : NamespaceDraft :=
  { n with entries := n.entries ++ [entry] }

def typeDecl (n : NamespaceDraft) (signature : String) (build : TypeDraft → TypeDraft) :
    NamespaceDraft :=
  n.push (build (.new signature)).node

def raw (n : NamespaceDraft) (text : String) : NamespaceDraft := n.push (.raw text false)

end NamespaceDraft

namespace Document

def typeDecl (d : Document) (signature : String) (build : TypeDraft → TypeDraft) : Document :=
  d.add (build (.new signature)).node

/-- Adds a namespace. Only a document without a namespace around it can be rendered then. -/
def namespaceDecl (d : Document) (name : String) (build : NamespaceDraft → NamespaceDraft) :
    Document :=
  d.add (build { name }).node

def raw (d : Document) (text : String) : Document := d.add (.raw text false)

def separator (d : Document) (forced : Bool) : Document := d.add (.separator forced)

end Document
end CodeScribe
