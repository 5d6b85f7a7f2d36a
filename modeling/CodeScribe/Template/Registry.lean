import CodeScribe.Template.Basic

/-! Collections of templates, looked up by id. -/
namespace CodeScribe

structure Registry where
  entries : Dictionary Template := []
  deriving Repr

namespace Registry

def insert (r : Registry) (id source : String) : Registry :=
  { entries := Dictionary.insert id ⟨source⟩ r.entries }

def find? (r : Registry) (id : String) : Option Template := Dictionary.find? r.entries id

def contains (r : Registry) (id : String) : Bool := (r.find? id).isSome

def ids (r : Registry) : List String := Dictionary.keys r.entries

def size (r : Registry) : Nat := r.entries.length

def isEmpty (r : Registry) : Bool := r.entries.isEmpty

def get (r : Registry) (id : String) : Except TemplateError Template :=
  match r.find? id with
  | some template => .ok template
  | none => .error (.unknownTemplate id)

def render (r : Registry) (id : String) (values : Dictionary String) :
    Except TemplateError String :=
  match r.get id with
  | .ok template => template.render values
  | .error e => .error e

end Registry
end CodeScribe
