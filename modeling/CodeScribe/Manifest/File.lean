import CodeScribe.Manifest.Lower
import CodeScribe.Manifest.Parse
import CodeScribe.Template.Folder

/-! Manifests in files. Relative paths in a manifest start at the folder that holds it. -/
namespace CodeScribe

structure ManifestFile where
  path : String
  content : String
  manifest : Manifest

namespace ManifestFile
variable {m : Type → Type} [Monad m] [FileSystem m]

def load (path : String) : m (Except ManifestError ManifestFile) := do
  match ← FileSystem.readText? path with
  | none => return .error (.unreadable path)
  | some content =>
    return (Manifest.parse ⟨content, path⟩ (.ofPath path)).map fun manifest =>
      { path, content, manifest }

def folder (f : ManifestFile) : String := (Path.parent? f.path).getD "."

def outputPath? (f : ManifestFile) : Option String :=
  f.manifest.output.map (Path.join f.folder)

def templates (f : ManifestFile) : m (Except ManifestError Registry) := do
  match f.manifest.templates with
  | none => return .ok {}
  | some path => return (← Registry.load (Path.join f.folder path)).mapError .template

def renderWith (f : ManifestFile) (templates : Registry) : Except ManifestError String :=
  match f.manifest.lower templates with
  | .error e => .error (.template e)
  | .ok document => document.render.mapError .render

def render (f : ManifestFile) : m (Except ManifestError String) := do
  match ← f.templates with
  | .error e => return .error e
  | .ok templates => return f.renderWith templates

end ManifestFile
end CodeScribe
