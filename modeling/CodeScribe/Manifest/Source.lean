import CodeScribe.Manifest.Diagnostic
import CodeScribe.Json.Reader

/-! Places in the source text of a manifest. -/
namespace CodeScribe

structure SourceText where
  text : String
  file : String
  deriving DecidableEq, Repr

/-- The spellings of a name that is assigned to the key of names, the likeliest first.
Each is given by what comes before the name, and by the quote that ends it. -/
def nameAssignments : List (List Char × List Char) :=
  let tick : List Char := [Char.ofNat 0x27]
  [ ("name = \"".toList, ['"']),
    ("name = ".toList ++ tick, tick),
    ("name=\"".toList, ['"']),
    ("\"name\": \"".toList, ['"']),
    ("\"name\":\"".toList, ['"']) ]

def plainQuotes : List (List Char × List Char) :=
  let tick : List Char := [Char.ofNat 0x27]
  [(['"'], ['"']), (tick, tick)]

namespace SourceText

def findBetween? (s : SourceText) (name before after : List Char) : Option Span :=
  (Text.findByte? (before ++ name ++ after) s.text.toList).map fun offset =>
    ⟨offset + Text.byteLength before, Text.byteLength name⟩

/-- The place of a declared name: an assignment to the key of names, else any quoted occurrence. -/
def findName? (s : SourceText) (name : String) : Option Span :=
  (nameAssignments ++ plainQuotes).findSome? fun (before, after) =>
    s.findBetween? name.toList before after

/-- The lines of a text, each with the line feed that ends it. -/
def linesOf : List Char → List (List Char)
  | [] => []
  | c :: rest =>
    if c = '\n' then ['\n'] :: linesOf rest
    else match linesOf rest with
      | [] => [[c]]
      | line :: more => (c :: line) :: more

/-- The byte offset of a line and column, both counted from one; column zero is column one.
There is none for line zero, nor behind the text. -/
def offsetOf? (s : SourceText) (line column : Nat) : Option Nat :=
  if line = 0 then none
  else
    let start := ((linesOf s.text.toList).take (line - 1)).foldl (· + Text.byteLength ·) 0
    let offset := start + (column - 1)
    if offset < Text.byteLength s.text.toList then some offset else none

def jsonError (s : SourceText) (line column : Nat) : ManifestError :=
  .unparsable .json s.file ((s.offsetOf? line column).map (⟨·, 1⟩))

def invalid (s : SourceText) (message : String) : ManifestError := .invalid s.file message none

def invalidAt (s : SourceText) (message name : String) : ManifestError :=
  .invalid s.file message (s.findName? name)

end SourceText
end CodeScribe
