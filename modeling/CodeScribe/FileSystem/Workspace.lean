import CodeScribe.FileSystem.Basic

/-! A file system as a value: regular files and folders below one working folder.
What lies outside the working folder cannot be reached. -/
namespace CodeScribe

/-- What a path leads to. A file whose bytes are no text has none. -/
inductive Entry where
  | file (text : Option String)
  | folder
  deriving DecidableEq, Repr

/-- Names from the working folder down. -/
abbrev Location := List String

/-- The files and folders below the working folder. Every location occurs once. -/
structure Workspace where
  entries : List (Location × Entry) := []
  deriving DecidableEq, Repr

namespace Workspace

/-- What is at a location. The working folder itself is always there. -/
def find? (w : Workspace) (here : Location) : Option Entry :=
  if here = [] then some .folder else w.entries.lookup here

def put (w : Workspace) (here : Location) (entry : Entry) : Workspace :=
  { entries := (here, entry) :: w.entries.filter (·.1 ≠ here) }

theorem find?_put_self {here : Location} (h : here ≠ []) (w : Workspace) (entry : Entry) :
    (w.put here entry).find? here = some entry := by
  simp [find?, put, h]

theorem find?_put_of_ne {here other : Location} (h : other ≠ here) (w : Workspace) (entry : Entry) :
    (w.put here entry).find? other = w.find? other := by
  have hkept : (w.entries.filter (·.1 ≠ here)).lookup other = w.entries.lookup other := by
    induction w.entries with
    | nil => rfl
    | cons e rest ih =>
      obtain ⟨there, _⟩ := e
      by_cases hthere : there = here
      · subst hthere
        simpa [List.lookup_cons, beq_false_of_ne h] using ih
      · simp only [List.filter_cons, hthere, List.lookup_cons, ne_eq, not_false_eq_true, decide_true,
          if_true, ih]
  rw [find?, find?, put, List.lookup_cons, beq_false_of_ne h]
  dsimp only
  rw [hkept]

/-- The location that names lead to from another one. Names are followed one by one:
each is looked up in a folder that is there, but what the last one names may be missing. -/
def follow (w : Workspace) (here : Location) : List String → Option Location
  | [] => some here
  | name :: rest =>
    if w.find? here ≠ some .folder then none
    else if name = "" || name = "." then w.follow here rest
    else if name = ".." then if here = [] then none else w.follow here.dropLast rest
    else w.follow (here ++ [name]) rest

def namesOf (path : String) : List String := (Text.pieces '/' path.toList).map String.ofList

def locate (w : Workspace) (path : String) : Option Location :=
  if path.isEmpty || Path.isAbsolute path then none else w.follow [] (namesOf path)

def reach? (w : Workspace) (path : String) : Option Entry := (w.locate path).bind w.find?

/-- Follows names and makes the folders that are missing. False when a file is in the way. -/
def makeFoldersAt (w : Workspace) (here : Location) : List String → Bool × Workspace
  | [] => (true, w)
  | name :: rest =>
    if name = "" || name = "." then w.makeFoldersAt here rest
    else if name = ".." then
      if here = [] then (false, w) else w.makeFoldersAt here.dropLast rest
    else
      match w.find? (here ++ [name]) with
      | some .folder => w.makeFoldersAt (here ++ [name]) rest
      | some (.file _) => (false, w)
      | none => (w.put (here ++ [name]) .folder).makeFoldersAt (here ++ [name]) rest

def makeFolders (w : Workspace) (path : String) : Bool × Workspace :=
  if path.isEmpty then (true, w)
  else if Path.isAbsolute path then (false, w)
  else w.makeFoldersAt [] (namesOf path)

def writeEntry (w : Workspace) (path : String) (text : Option String) : Bool × Workspace :=
  match w.locate path with
  | none => (false, w)
  | some here =>
    match w.find? here with
    | some .folder => (false, w)
    | _ => (true, w.put here (.file text))

def readText? (w : Workspace) (path : String) : Option String :=
  match w.reach? path with
  | some (.file text) => text
  | _ => none

def fileName? (here : Location) : Location × Entry → Option String
  | (other, .file _) => if other.dropLast = here then other.getLast? else none
  | (_, .folder) => none

def filesIn (w : Workspace) (here : Location) : List String := w.entries.filterMap (fileName? here)

def fileNames? (w : Workspace) (path : String) : Option (List String) :=
  match w.locate path with
  | none => none
  | some here => if w.find? here = some .folder then some (w.filesIn here) else none

instance : FileSystem (StateM Workspace) where
  readText? path := return (← get).readText? path
  fileNames? path := return (← get).fileNames? path
  isPresent path := return ((← get).reach? path).isSome
  makeFolders path := modifyGet (·.makeFolders path)
  writeText path text := modifyGet (·.writeEntry path (some text))

end Workspace
end CodeScribe
