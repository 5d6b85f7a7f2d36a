import CodeScribe.Character.Alphabetic
import CodeScribe.Character.Numeric
import CodeScribe.Text.Quoted

/-! C# identifiers: which names are valid, which are reserved, and how any text becomes one. -/
namespace CodeScribe.Identifier

/-- Reserved keywords. Contextual keywords are valid names and are not listed. -/
def keywords : List String := [
  "abstract", "as", "base", "bool", "break", "byte", "case", "catch", "char", "checked",
  "class", "const", "continue", "decimal", "default", "delegate", "do", "double", "else",
  "enum", "event", "explicit", "extern", "false", "finally", "fixed", "float", "for",
  "foreach", "goto", "if", "implicit", "in", "int", "interface", "internal", "is", "lock",
  "long", "namespace", "new", "null", "object", "operator", "out", "override", "params",
  "private", "protected", "public", "readonly", "ref", "return", "sbyte", "sealed", "short",
  "sizeof", "stackalloc", "static", "string", "struct", "switch", "this", "throw", "true",
  "try", "typeof", "uint", "ulong", "unchecked", "unsafe", "ushort", "using", "virtual",
  "void", "volatile", "while"]

def isKeyword (name : String) : Bool := keywords.contains name

def isAlphanumeric (c : Char) : Bool := Character.isAlphabetic c || Character.isNumeric c

def isNameChar (c : Char) : Bool := c = '_' || isAlphanumeric c

/-- Characters that may start a name. A letter number may, although it is also a number. -/
def isNameStart (c : Char) : Bool := c = '_' || Character.isAlphabetic c

inductive Problem where
  | empty
  | startsWithDigit
  | badStart
  | badCharacter
  deriving DecidableEq, Repr

def Problem.reason : Problem → String
  | .empty => "name cannot be empty"
  | .startsWithDigit => "name cannot start with a digit"
  | .badStart => "name must start with a letter or underscore"
  | .badCharacter => "name must contain only letters, numbers, and underscores"

/-- The first problem of a name, after one verbatim mark that it may start with. -/
def problem? (name : String) : Option Problem :=
  let bare :=
    match name.toList with
    | '@' :: rest => rest
    | cs => cs
  match bare with
  | [] => some .empty
  | c :: rest =>
    if isNameStart c then if rest.all isNameChar then none else some .badCharacter
    else if Character.isNumeric c then some .startsWithDigit
    else some .badStart

def escapeKeyword (name : String) : String := if isKeyword name then "@" ++ name else name

inductive SanitizeError where
  | emptyIdentifier
  | invalidReplacement (c : Char)
  deriving DecidableEq, Repr

def SanitizeError.message : SanitizeError → String
  | .emptyIdentifier => "cannot build an identifier from an empty string"
  | .invalidReplacement c =>
    "replacement character " ++ String.ofList (Text.quotedChar c) ++ " is not valid in an identifier"

/-- Makes an identifier of any text that is not empty: other characters are replaced,
a number in front is preceded by an underscore, and a keyword is escaped. -/
def sanitize (text : String) (replacement : Char) : Except SanitizeError String :=
  if text.isEmpty then .error .emptyIdentifier
  else if !isNameChar replacement then .error (.invalidReplacement replacement)
  else
    let kept := text.toList.map fun c => if isNameChar c then c else replacement
    let started := if (kept.head?.map Character.isNumeric).getD false then '_' :: kept else kept
    .ok (escapeKeyword (String.ofList started))

end CodeScribe.Identifier
