import CodeScribe.Path

/-! What the program asks of a file system, and the files that it writes. -/
namespace CodeScribe

structure AccessError where
  path : String
  deriving DecidableEq, Repr

def AccessError.message (e : AccessError) : String := "failed to access " ++ e.path

/-- A file system, as far as the program uses it. -/
class FileSystem (m : Type → Type) where
  /-- The text of a file; none when there is no such file, or when it holds no text. -/
  readText? : String → m (Option String)
  /-- The names of the files in a folder; none when it cannot be listed. -/
  fileNames? : String → m (Option (List String))
  isPresent : String → m Bool
  /-- Makes a folder and the folders above it; false when that is impossible. -/
  makeFolders : String → m Bool
  writeText : String → String → m Bool

inductive WriteOutcome where
  | written
  /-- It held exactly this text before. -/
  | unchanged
  /-- It was there before, and must not be replaced. -/
  | skipped
  deriving DecidableEq, Repr

structure OutputFile where
  path : String
  content : String
  /-- Whether a file that is there already is left alone. -/
  onlyIfMissing : Bool := false
  deriving DecidableEq, Repr

namespace OutputFile
variable {m : Type → Type} [Monad m] [FileSystem m]

/-- Writes the file without looking at what is there. Folders above it are made first. -/
def replace (f : OutputFile) : m (Except AccessError WriteOutcome) := do
  let parent := Path.parent? f.path
  let made ← match parent with
    | some folder => FileSystem.makeFolders folder
    | none => pure true
  if !made then return .error ⟨parent.getD ""⟩
  if ← FileSystem.writeText f.path f.content then return .ok .written
  return .error ⟨f.path⟩

/-- Writes the file, unless it has this text already or must be left alone. -/
def write (f : OutputFile) : m (Except AccessError WriteOutcome) := do
  if ← FileSystem.isPresent f.path then
    if f.onlyIfMissing then return .ok .skipped
    if (← FileSystem.readText? f.path) = some f.content then return .ok .unchanged
    f.replace
  else f.replace

end OutputFile
end CodeScribe
