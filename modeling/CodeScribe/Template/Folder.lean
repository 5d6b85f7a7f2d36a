import CodeScribe.FileSystem.Basic
import CodeScribe.Template.Registry

/-! Templates kept as files in one folder. -/
namespace CodeScribe.Registry

/-- The id of the template in a file with this name; none when the file holds no template. -/
def idOf? (fileName : String) : Option String :=
  match Path.splitName fileName.toList with
  | (stem, some extension) =>
    if extension = "tmpl".toList then some (String.ofList stem) else none
  | _ => none

variable {m : Type → Type} [Monad m] [FileSystem m]

/-- Adds the templates of files, given by name. Other files are passed over. -/
def addFiles (folder : String) (r : Registry) : List String → m (Except TemplateError Registry)
  | [] => pure (.ok r)
  | name :: rest =>
    match idOf? name with
    | none => r.addFiles folder rest
    | some id => do
      let path := Path.join folder name
      match ← FileSystem.readText? path with
      | some source => (r.insert id source).addFiles folder rest
      | none => pure (.error (.inaccessible ⟨path⟩))

/-- The templates of a folder, in the order of their file names. Folders in it are not searched. -/
def load (folder : String) : m (Except TemplateError Registry) := do
  match ← FileSystem.fileNames? folder with
  | none => return .error (.inaccessible ⟨folder⟩)
  | some names =>
    ({} : Registry).addFiles folder (names.mergeSort fun a b => Text.atMost a.toList b.toList)

end CodeScribe.Registry
