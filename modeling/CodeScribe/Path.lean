import CodeScribe.Text.Basic

/-! Paths as texts: their parts, and one path joined to another. Slashes separate components. -/
namespace CodeScribe.Path

/-- Drops components at the end that say nothing: empty ones, and dots that do not come first. -/
def dropIdle (components : List (List Char)) : List (List Char) :=
  let idle (reversed : List (List Char)) : Bool :=
    match reversed with
    | [] => false
    | last :: before => last.isEmpty || (last = ['.'] && !before.isEmpty)
  go idle components.reverse
where
  go (idle : List (List Char) → Bool) : List (List Char) → List (List Char)
    | [] => []
    | last :: before => if idle (last :: before) then go idle before else (last :: before).reverse

def isAbsolute (path : String) : Bool := path.toList.head? = some '/'

/-- The components below the root, up to the last one that names something. -/
def components (path : String) : List (List Char) :=
  if isAbsolute path then
    -- below the root a dot never comes first
    (dropIdle ([] :: Text.pieces '/' (path.toList.drop 1))).drop 1
  else dropIdle (Text.pieces '/' path.toList)

/-- The path without its last component. The root and the empty path have no parent. -/
def parent? (path : String) : Option String :=
  let kept := components path
  if kept.isEmpty then none
  else
    let before := dropIdle (if isAbsolute path then [] :: kept.dropLast else kept.dropLast)
    let text := Text.join ['/'] before
    some (String.ofList (if isAbsolute path && text.isEmpty then ['/'] else text))

/-- The last component, unless it stands for a folder by its position. -/
def fileName? (path : String) : Option (List Char) :=
  match (components path).getLast? with
  | none => none
  | some name => if name = ['.'] || name = ['.', '.'] then none else some name

/-- A file name cut at its last dot: what comes before, and the extension after it.
A dot in front starts no extension. -/
def splitName (name : List Char) : List Char × Option (List Char) :=
  let after := (name.reverse.takeWhile (· ≠ '.')).reverse
  let before := name.take (name.length - after.length - 1)
  if name.contains '.' && !before.isEmpty then (before, some after) else (name, none)

def extension? (path : String) : Option (List Char) :=
  (fileName? path).bind fun name => (splitName name).2

/-- A path relative to a base. An absolute one replaces the base. -/
def join (base path : String) : String :=
  if isAbsolute path then path
  else if base.isEmpty || Text.endsIn '/' base.toList then base ++ path
  else base ++ "/" ++ path

end CodeScribe.Path
