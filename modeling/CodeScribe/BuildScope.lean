import CodeScribe.Document
import CodeScribe.TypeRef

/-! Build scopes: while a document is being built, helpers that never see it
can record imports for it. Scopes nest, the innermost is the active one. -/
namespace CodeScribe

structure BuildScope where
  config : Config
  imports : List String := []
  deriving DecidableEq, Repr

/-- The open scopes, innermost first. -/
abbrev ScopeStack := List BuildScope

/-- What ends a scope: the number of open scopes right after it was entered. -/
structure ScopeGuard where
  depth : Nat
  deriving DecidableEq, Repr

namespace ScopeStack

def enter (s : ScopeStack) (config : Config) : ScopeGuard × ScopeStack :=
  (⟨s.length + 1⟩, { config } :: s)

/-- Closes scopes until fewer than `depth` are open.
Gives the imports of the last one closed, if any was. -/
def closeTo (depth : Nat) : ScopeStack → Option (List String) × ScopeStack
  | [] => (none, [])
  | scope :: outer =>
    if depth ≤ outer.length + 1 then
      match closeTo depth outer with
      | (none, rest) => (some scope.imports, rest)
      | (some imports, rest) => (some imports, rest)
    else (none, scope :: outer)

def finish (s : ScopeStack) (guard : ScopeGuard) : List String × ScopeStack :=
  let (imports, rest) := closeTo guard.depth s
  (imports.getD [], rest)

def discard (s : ScopeStack) (guard : ScopeGuard) : ScopeStack := (closeTo guard.depth s).2

def isBuilding (s : ScopeStack) : Bool := !s.isEmpty

def activeConfig? (s : ScopeStack) : Option Config := s.head?.map (·.config)

/-- Records an import for the innermost scope. The answer tells whether there is one. -/
def register (s : ScopeStack) (name : String) : Bool × ScopeStack :=
  match s with
  | [] => (false, [])
  | scope :: outer => (true, { scope with imports := Imports.insertNew name scope.imports } :: outer)

/-- Writes a reference to a type, and records the imports that its text relies on.
Without a scope nothing can be recorded, so the fully qualified text is given. -/
def name (s : ScopeStack) (simplify : Bool) (r : TypeRef) : String × ScopeStack :=
  if s.isBuilding then
    let named := r.named simplify
    (named.text, named.imports.foldl (fun acc i => (acc.register i).2) s)
  else (r.fullName, s)

end ScopeStack

/-- Builds a document inside a scope of its own.
The imports recorded in the scope are added at the end, under the document's own policy. -/
def Document.build (config : Config) (body : Document → ScopeStack → Document × ScopeStack)
    (s : ScopeStack) : Document × ScopeStack :=
  let (guard, inner) := s.enter config
  let (built, after) := body (Document.new config) inner
  let (imports, rest) := after.finish guard
  (imports.foldl Document.importNamespace built, rest)

end CodeScribe
