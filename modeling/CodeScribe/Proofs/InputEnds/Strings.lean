import CodeScribe.Document

/-! The strings that a tree is made of, and a tree with all of them replaced. -/
namespace CodeScribe

namespace DocComment

def strings (d : DocComment) : List String :=
  d.summary.toList ++ d.typeParams.flatMap (fun entry => [entry.1, entry.2])
    ++ d.params.flatMap (fun entry => [entry.1, entry.2]) ++ d.returns.toList ++ d.remarks.toList
    ++ d.trailer

def mapStrings (f : String → String) (d : DocComment) : DocComment where
  summary := d.summary.map f
  typeParams := d.typeParams.map fun entry => (f entry.1, f entry.2)
  params := d.params.map fun entry => (f entry.1, f entry.2)
  returns := d.returns.map f
  remarks := d.remarks.map f
  trailer := d.trailer.map f

end DocComment

namespace Head

def strings (h : Head) : List String :=
  h.signature :: h.doc.elim [] DocComment.strings ++ h.attributes ++ h.constraints

def mapStrings (f : String → String) (h : Head) : Head where
  signature := f h.signature
  doc := h.doc.map (·.mapStrings f)
  attributes := h.attributes.map f
  constraints := h.constraints.map f

end Head

namespace Frame

def strings (f : Frame) : List String :=
  f.header.toList ++ f.footer.toList
    ++ f.brackets.elim [] fun brackets => [brackets.opening, brackets.closing]

def mapStrings (g : String → String) (f : Frame) : Frame :=
  { f with
    header := f.header.map g
    footer := f.footer.map g
    brackets := f.brackets.map fun brackets => ⟨g brackets.opening, g brackets.closing⟩ }

@[simp] theorem glues_mapStrings (g : String → String) (f : Frame) (tail : Bool) :
    (f.mapStrings g).glues tail = f.glues tail := by
  simp [glues, mapStrings]

end Frame

namespace Node

mutual

/-- Every string of the tree, without those that a setting gives it. -/
def strings : Node → List String
  | .raw text _ => [text]
  | .block frame children => frame.strings ++ allStrings children
  | .typeDecl head bases _ members => head.strings ++ bases ++ allStrings members
  | .methodDecl head _ frame body => head.strings ++ frame.strings ++ allStrings body
  | .namespaceDecl name entries => name :: allStrings entries
  | .doc comment => comment.strings
  | .attributes entries => entries
  | .constraints entries => entries
  | .separator _ => []

def allStrings : List Node → List String
  | [] => []
  | node :: rest => node.strings ++ allStrings rest

end

mutual

def mapStrings (f : String → String) : Node → Node
  | .raw text verbatim => .raw (f text) verbatim
  | .block frame children => .block (frame.mapStrings f) (mapAllStrings f children)
  | .typeDecl head bases terminated members =>
    .typeDecl (head.mapStrings f) (bases.map f) terminated (mapAllStrings f members)
  | .methodDecl head style frame body =>
    .methodDecl (head.mapStrings f) style (frame.mapStrings f) (mapAllStrings f body)
  | .namespaceDecl name entries => .namespaceDecl (f name) (mapAllStrings f entries)
  | .doc comment => .doc (comment.mapStrings f)
  | .attributes entries => .attributes (entries.map f)
  | .constraints entries => .constraints (entries.map f)
  | .separator forced => .separator forced

def mapAllStrings (f : String → String) : List Node → List Node
  | [] => []
  | node :: rest => node.mapStrings f :: mapAllStrings f rest

end

variable (f : String → String)

@[simp] theorem separation?_mapStrings (n : Node) : (n.mapStrings f).separation? = n.separation? := by
  cases n <;> rfl

@[simp] theorem isDeclaration_mapStrings (n : Node) :
    (n.mapStrings f).isDeclaration = n.isDeclaration := by
  cases n <;> rfl

@[simp] theorem allSeparators_mapAllStrings (nodes : List Node) :
    allSeparators (mapAllStrings f nodes) = allSeparators nodes := by
  induction nodes with
  | nil => rfl
  | cons node rest ih =>
    simp only [allSeparators] at ih
    simp [allSeparators, isSeparator, mapAllStrings, ih]

end Node

end CodeScribe
