import CodeScribe.Document
import CodeScribe.Identifier.Basic
import CodeScribe.Template.Basic

/-! What is reported about a manifest: the error, its wording, and the place in the source. -/
namespace CodeScribe

/-- A stretch of a source text, in bytes. -/
structure Span where
  offset : Nat
  length : Nat
  deriving DecidableEq, Repr

inductive Format where
  | toml
  | json
  deriving DecidableEq, Repr

/-- Why a manifest gives no document. `file` is the name of the file, as it was given. -/
inductive ManifestError where
  | unreadable (path : String)
  | unparsable (format : Format) (file : String) (span : Option Span)
  | invalid (file message : String) (span : Option Span)
  | reservedKeyword (file name context : String) (span : Option Span)
  | invalidIdentifier (file name context : String) (problem : Identifier.Problem)
      (span : Option Span)
  | template (cause : TemplateError)
  | render (cause : RenderError)
  deriving DecidableEq, Repr

structure Label where
  span : Span
  text : String
  deriving DecidableEq, Repr

namespace ManifestError

def message : ManifestError → String
  | .unreadable path => "failed to read '" ++ path ++ "'"
  | .unparsable .toml _ _ => "failed to parse manifest"
  | .unparsable .json _ _ => "failed to parse JSON manifest"
  | .invalid _ message _ => message
  | .reservedKeyword _ name _ _ => "'" ++ name ++ "' is a reserved C# keyword"
  | .invalidIdentifier _ name context _ _ => "invalid " ++ context ++ " name '" ++ name ++ "'"
  | .template cause => cause.message
  | .render _ => "failed to render document"

/-- Identification of the kind of error, where it has one. -/
def code? : ManifestError → Option String
  | .unreadable _ => none
  | .unparsable .. => some "quill::parse_error"
  | .invalid .. => some "quill::validation_error"
  | .reservedKeyword .. => some "quill::reserved_keyword"
  | .invalidIdentifier .. => some "quill::invalid_identifier"
  | .template _ => some "quill::template"
  | .render _ => some "quill::render"

def help? : ManifestError → Option String
  | .unreadable _ =>
    some "pass the manifest with -c/--config, e.g. 'quill render -c quill.toml'"
  | .reservedKeyword _ name context _ =>
    some ("write '@" ++ name ++ "' to use it as a " ++ context ++ " name, or pick another name")
  | .invalidIdentifier _ _ _ problem _ =>
    some (problem.reason
      ++ ". Use only letters, numbers, and underscores, starting with a letter or underscore.")
  | .template _ => some "templates are '*.tmpl' files in the directory named by 'templates'"
  | _ => none

/-- The file that the error is about, where it is about the text of a file. -/
def file? : ManifestError → Option String
  | .unparsable _ file _ | .invalid file _ _ | .reservedKeyword file _ _ _
  | .invalidIdentifier file _ _ _ _ => some file
  | _ => none

/-- The note at the place of the error, where the place is known. -/
def label? : ManifestError → Option Label
  | .unparsable _ _ span => span.map (⟨·, "parse error here"⟩)
  | .invalid _ message span => span.map (⟨·, message⟩)
  | .reservedKeyword _ _ _ span => span.map (⟨·, "reserved keyword used here"⟩)
  | .invalidIdentifier _ _ _ _ span => span.map (⟨·, "invalid identifier"⟩)
  | _ => none

end ManifestError
end CodeScribe
