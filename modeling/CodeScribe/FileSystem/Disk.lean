import CodeScribe.FileSystem.Workspace

/-! A file system as a whole: files and folders below a root, seen from a working folder.
Every single change may be refused, and then changes nothing. -/
namespace CodeScribe

/-- A name that a file or folder can have. Other names say something else in a path. -/
structure IsName (name : String) : Prop where
  nonempty : name ≠ ""
  notHere : name ≠ "."
  notAbove : name ≠ ".."
  oneName : '/' ∉ name.toList

instance : DecidablePred IsName := fun name =>
  decidable_of_iff (name ≠ "" ∧ name ≠ "." ∧ name ≠ ".." ∧ '/' ∉ name.toList)
    ⟨fun ⟨h₁, h₂, h₃, h₄⟩ => ⟨h₁, h₂, h₃, h₄⟩, fun ⟨h₁, h₂, h₃, h₄⟩ => ⟨h₁, h₂, h₃, h₄⟩⟩

/-- The location that a name leads to. Above the root is the root. -/
def Location.step (here : Location) (name : String) : Location :=
  if name = "" || name = "." then here else if name = ".." then here.dropLast else here ++ [name]

namespace Workspace

/-- Everything has a name, in a folder that is there. -/
def Sound (w : Workspace) : Prop :=
  ∀ entry ∈ w.entries, (∀ name ∈ entry.1, IsName name) ∧ w.find? entry.1.dropLast = some .folder

instance : DecidablePred Sound := fun w => List.decidableBAll _ w.entries

/-- Where something can be put: in a folder that is there, but not in place of a folder. -/
structure Allows (w : Workspace) (here : Location) : Prop where
  names : ∀ name ∈ here, IsName name
  folder : w.find? here.dropLast = some .folder
  free : w.find? here ≠ some .folder

instance (w : Workspace) : DecidablePred w.Allows := fun here =>
  decidable_of_iff
    ((∀ name ∈ here, IsName name) ∧ w.find? here.dropLast = some .folder ∧ w.find? here ≠ some .folder)
    ⟨fun ⟨h₁, h₂, h₃⟩ => ⟨h₁, h₂, h₃⟩, fun ⟨h₁, h₂, h₃⟩ => ⟨h₁, h₂, h₃⟩⟩

theorem Allows.ne_nil {w : Workspace} {here : Location} (h : w.Allows here) : here ≠ [] := by
  rintro rfl
  exact h.free rfl

theorem Allows.find?_put_folder {w : Workspace} {here other : Location} (h : w.Allows here)
    (hother : w.find? other = some .folder) (entry : Entry) :
    (w.put here entry).find? other = some .folder := by
  have hne : other ≠ here := by
    rintro rfl
    exact h.free hother
  rw [find?_put_of_ne hne, hother]

theorem Sound.put {w : Workspace} {here : Location} (hw : w.Sound) (h : w.Allows here) (entry : Entry) :
    (w.put here entry).Sound := by
  intro e he
  rcases List.mem_cons.mp he with rfl | he
  · exact ⟨h.names, h.find?_put_folder h.folder entry⟩
  · obtain ⟨hnames, hfolder⟩ := hw e (List.mem_filter.mp he).1
    exact ⟨hnames, h.find?_put_folder hfolder entry⟩

end Workspace

structure Disk where
  tree : Workspace
  start : Location := []
  /-- Whether changes are refused, one by one as they come. Later ones are not. -/
  refusals : List Bool := []
  sound : tree.Sound := by decide
  home : tree.find? start = some .folder := by decide

namespace Disk

def find? (d : Disk) (here : Location) : Option Entry := d.tree.find? here

def change (d : Disk) (here : Location) (entry : Entry) : Bool × Disk :=
  if h : d.refusals.head? ≠ some true ∧ d.tree.Allows here then
    (true, { d with
      tree := d.tree.put here entry
      refusals := d.refusals.tail
      sound := d.sound.put h.2 entry
      home := h.2.find?_put_folder d.home entry })
  else (false, { d with refusals := d.refusals.tail })

def base (d : Disk) (path : String) : Location := if Path.isAbsolute path then [] else d.start

def place (d : Disk) (path : String) : Location :=
  (Workspace.namesOf path).foldl Location.step (d.base path)

/-- The location that names lead to from another one. Each is looked up in a folder that is there,
but what the last one names may be missing. -/
def follow (d : Disk) (here : Location) : List String → Option Location
  | [] => some here
  | name :: rest => if d.find? here = some .folder then d.follow (here.step name) rest else none

/-- The location of a path. The empty path has none. -/
def locate (d : Disk) (path : String) : Option Location :=
  if path.isEmpty then none else d.follow (d.base path) (Workspace.namesOf path)

def reach? (d : Disk) (path : String) : Option Entry := (d.locate path).bind d.find?

def readText? (d : Disk) (path : String) : Option String :=
  match d.reach? path with
  | some (.file text) => text
  | _ => none

def fileNames? (d : Disk) (path : String) : Option (List String) :=
  match d.locate path with
  | none => none
  | some here => if d.find? here = some .folder then some (d.tree.filesIn here) else none

def isPresent (d : Disk) (path : String) : Bool := (d.reach? path).isSome

/-- Follows names and makes the folders that are missing, one by one.
False when a file is in the way or a folder is refused. -/
def makeFoldersAt (d : Disk) (here : Location) : List String → Bool × Disk
  | [] => (true, d)
  | name :: rest =>
    match d.find? (here.step name) with
    | some .folder => d.makeFoldersAt (here.step name) rest
    | some (.file _) => (false, d)
    | none =>
      match d.change (here.step name) .folder with
      | (true, made) => made.makeFoldersAt (here.step name) rest
      | (false, refused) => (false, refused)

def makeFolders (d : Disk) (path : String) : Bool × Disk :=
  if path.isEmpty then (true, d) else d.makeFoldersAt (d.base path) (Workspace.namesOf path)

def writeText (d : Disk) (path text : String) : Bool × Disk :=
  match d.locate path with
  | none => (false, d)
  | some here => d.change here (.file (some text))

instance : FileSystem (StateM Disk) where
  readText? path := return (← get).readText? path
  fileNames? path := return (← get).fileNames? path
  isPresent path := return (← get).isPresent path
  makeFolders path := modifyGet (·.makeFolders path)
  writeText path text := modifyGet (·.writeText path text)

end Disk
end CodeScribe
