import CodeScribe.Command.Arguments
import CodeScribe.Json.Printer
import CodeScribe.Manifest.File

/-! The commands: what they do to the file system, what they print, and how they end. -/
namespace CodeScribe

structure Outcome where
  exitCode : Nat
  /-- Text for standard output. -/
  printed : String := ""
  /-- Text for standard error. -/
  complaint : String := ""
  deriving DecidableEq, Repr

def Outcome.failed (message : String) : Outcome := { exitCode := 1, complaint := message ++ "\n" }

def Outcome.done (printed : String) : Outcome := { exitCode := 0, printed }

inductive Delivery where
  | printed (content : String)
  | preview (path content : String)
  | stored (path : String) (result : WriteOutcome)
  deriving DecidableEq, Repr

def WriteOutcome.word : WriteOutcome → String
  | .written => "wrote"
  | .unchanged => "unchanged"
  | .skipped => "skipped"

/-- The report on a delivery. A document itself is printed without any addition. -/
def Delivery.report : Delivery → String
  | .printed content => content
  | .preview path content => "── " ++ path ++ " ──\n" ++ content
  | .stored path result => "✓ " ++ result.word ++ " " ++ path ++ "\n"

structure Summary where
  manifest : String
  namespaceName : Option String
  imports : Nat
  types : Nat
  methods : Nat
  snippets : Nat
  output : Option String
  deriving DecidableEq, Repr

namespace Summary

def ofFile (f : ManifestFile) : Summary where
  manifest := f.path
  namespaceName := f.manifest.namespaceName
  imports := f.manifest.importCount
  types := f.manifest.typeCount
  methods := f.manifest.methodCount
  snippets := f.manifest.snippets.length
  output := f.outputPath?

def report (s : Summary) : String :=
  let entry (key value : String) : String := "  " ++ key ++ ": " ++ value ++ "\n"
  "✓ " ++ s.manifest ++ " is valid\n\n"
    ++ entry "namespace" (s.namespaceName.getD "(none)")
    ++ entry "imports" (toString s.imports)
    ++ entry "types" (toString s.types)
    ++ entry "methods" (toString s.methods)
    ++ entry "snippets" (toString s.snippets)
    ++ entry "output" (s.output.getD "stdout")

def json (s : Summary) : String :=
  let count (n : Nat) : List Char := (toString n).toList
  String.ofList (Json.object [
    ("config_path", Json.quoted s.manifest), ("namespace", Json.quotedOrNull s.namespaceName),
    ("imports", count s.imports), ("types", count s.types), ("methods", count s.methods),
    ("snippets", count s.snippets), ("output", Json.quotedOrNull s.output)]) ++ "\n"

end Summary

namespace Command
variable {m : Type → Type} [Monad m] [FileSystem m]

/-- Delivers a document: to the output that was asked for, else to that of the manifest,
else to standard output. A dry run leaves the file system alone. -/
def deliver (f : ManifestFile) (text : String) (output : Option String) (dryRun : Bool) :
    m (Except AccessError Delivery) := do
  match output <|> f.outputPath? with
  | none => return .ok (.printed text)
  | some path =>
    if dryRun then return .ok (.preview path text)
    let result ← (OutputFile.mk path text false).write
    return result.map (.stored path)

def runRender (manifest : String) (output : Option String) (dryRun : Bool) : m Outcome := do
  match ← ManifestFile.load manifest with
  | .error e => return .failed e.message
  | .ok file =>
    match ← file.render with
    | .error e => return .failed e.message
    | .ok text =>
      match ← deliver file text output dryRun with
      | .error e => return .failed e.message
      | .ok delivery => return .done delivery.report

/-- Summarizes a manifest whose document can be rendered. -/
def runCheck (manifest : String) (json : Bool) : m Outcome := do
  match ← ManifestFile.load manifest with
  | .error e => return .failed e.message
  | .ok file =>
    match ← file.render with
    | .error e => return .failed e.message
    | .ok _ =>
      let summary := Summary.ofFile file
      return .done (if json then summary.json else summary.report)

def versionLine : String := "quill 0.3.0\n"

def run : Command → m Outcome
  | .render manifest output dryRun => runRender manifest output dryRun
  | .check manifest json => runCheck manifest json
  | .version => pure (.done versionLine)

def runLine (arguments : List String) : m Outcome :=
  match parse? arguments with
  | some command => command.run
  | none =>
    pure { exitCode := 2, complaint := "usage: quill [-v] (render | check) [options]\n" }

end Command
end CodeScribe
