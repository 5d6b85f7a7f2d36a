import CodeScribe.Json.Dialect
import CodeScribe.Manifest.Decode
import CodeScribe.Manifest.Validate
import CodeScribe.Path
import CodeScribe.Toml.Reader

/-! Manifests read from text. -/
namespace CodeScribe

/-- The format that the extension of a path tells. All but one mean TOML. -/
def Format.ofPath (path : String) : Format :=
  match Path.extension? path with
  | some extension =>
    if extension.map Char.toLower = "json".toList then .json else .toml
  | none => .toml

def Manifest.read (source : SourceText) (format : Format) : Except ManifestError Manifest :=
  let fitted (decoded : Except DecodeError Manifest) : Except ManifestError Manifest :=
    decoded.mapError fun _ => .unparsable format source.file none
  match format with
  | .toml =>
    match Toml.parse source.text with
    | some v => fitted (Manifest.decoder Toml.dialect v)
    | none => .error (.unparsable .toml source.file none)
  | .json =>
    match Json.parse source.text with
    | .ok v => fitted (Manifest.decoder Json.dialect v)
    | .error refusal =>
      .error (source.jsonError (refusal.line source.text) (refusal.column source.text))

def Manifest.parse (source : SourceText) (format : Format) : Except ManifestError Manifest :=
  match Manifest.read source format with
  | .error e => .error e
  | .ok m =>
    match m.validate source with
    | .error e => .error e
    | .ok () => .ok m

end CodeScribe
