import CodeScribe.Dictionary
import CodeScribe.Value.Basic

/-! Tables of a TOML text while it is read: what may still be added to, and what is closed. -/
namespace CodeScribe.Toml

inductive Item where
  /-- A scalar, an array or an inline table. Nothing can be added to it. -/
  | closed (value : Value)
  /-- A table. An implicit one has no header yet; a dotted one was made by a dotted key. -/
  | table (implicit dotted : Bool) (entries : List (String × Item))
  /-- An array of tables. Its last table is the one that is open. -/
  | tables (items : List (List (String × Item)))

abbrev Entries := Dictionary Item

/-- Changes the table at a path, whose missing tables are made.
`edit` also learns whether the table was made by a dotted key, as `made` tells of the first one.
Dotted keys cannot enter a table that has a header. -/
def editAt (dotted : Bool) (edit : Bool → Entries → Option Entries) (made : Bool)
    (entries : Entries) : List String → Option Entries
  | [] => edit made entries
  | key :: path =>
    match entries.find? key with
    | none =>
      (editAt dotted edit dotted [] path).map fun inner =>
        entries.insert key (.table true dotted inner)
    | some (.table implicit wasDotted inner) =>
      if dotted && !implicit then none
      else (editAt dotted edit wasDotted inner path).map fun next =>
        entries.insert key (.table implicit wasDotted next)
    | some (.tables items) =>
      match items.getLast? with
      | none => none
      | some inner =>
        (editAt dotted edit false inner path).map fun next =>
          entries.insert key (.tables (items.dropLast ++ [next]))
    | some (.closed _) => none

def setKey (path : List String) (value : Value) (made : Bool) (entries : Entries) :
    Option Entries :=
  match path.getLast? with
  | none => none
  | some key =>
    editAt true (fun wasDotted inner =>
      if wasDotted == path.dropLast.isEmpty then none
      else if inner.contains key then none
      else some (inner.insert key (.closed value))) made entries path.dropLast

def openTable (path : List String) (root : Entries) : Option Entries :=
  match path.getLast? with
  | none => none
  | some key =>
    editAt false (fun _ inner =>
      match inner.find? key with
      | none => some (inner.insert key (.table false false []))
      | some (.table true false entries) => some (inner.insert key (.table false false entries))
      | some _ => none) false root path.dropLast

def openElement (path : List String) (root : Entries) : Option Entries :=
  match path.getLast? with
  | none => none
  | some key =>
    editAt false (fun _ inner =>
      match inner.find? key with
      | none => some (inner.insert key (.tables [[]]))
      | some (.tables items) => some (inner.insert key (.tables (items ++ [[]])))
      | some _ => none) false root path.dropLast

def setUnder (header path : List String) (value : Value) (root : Entries) : Option Entries :=
  editAt false (fun _ inner => setKey path value false inner) false root header

mutual

def Item.value : Item → Value
  | .closed value => value
  | .table _ _ entries => .table (Item.values entries)
  | .tables items => .list (Item.elements items)

def Item.values : List (String × Item) → List (String × Value)
  | [] => []
  | (key, item) :: rest => (key, item.value) :: Item.values rest

def Item.elements : List (List (String × Item)) → List Value
  | [] => []
  | entries :: rest => .table (Item.values entries) :: Item.elements rest

end

end CodeScribe.Toml
