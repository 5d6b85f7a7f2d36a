/-! The command line: options, commands, and what a list of arguments asks for. -/
namespace CodeScribe

inductive Command where
  | render (manifest : String) (output : Option String) (dryRun : Bool)
  | check (manifest : String) (json : Bool)
  | version
  deriving DecidableEq, Repr

namespace Command

inductive Flag where
  | verbose
  | version
  | manifest
  | output
  | dryRun
  | json
  deriving DecidableEq, Repr

def Flag.takesValue : Flag → Bool
  | .manifest | .output => true
  | _ => false

structure Spelling where
  flag : Flag
  word : String
  letter : Option Char := none

def topSpellings : List Spelling :=
  [⟨.verbose, "verbose", some 'v'⟩, ⟨.version, "version", some 'V'⟩]

def renderSpellings : List Spelling :=
  [⟨.verbose, "verbose", some 'v'⟩, ⟨.manifest, "config", some 'c'⟩,
    ⟨.output, "output", some 'o'⟩, ⟨.dryRun, "dry-run", none⟩]

def checkSpellings : List Spelling :=
  [⟨.verbose, "verbose", some 'v'⟩, ⟨.manifest, "config", some 'c'⟩, ⟨.json, "json", none⟩]

structure Found where
  flag : Flag
  value : Option String := none
  deriving DecidableEq, Repr

/-- Reads a word with the value that may follow an equals sign. Only options that take a value
may have one. -/
def readWord? (spellings : List Spelling) (text : List Char) : Option Found :=
  let word := String.ofList (text.takeWhile (· ≠ '='))
  (spellings.find? (·.word == word)).bind fun spelling =>
    match text.dropWhile (· ≠ '=') with
    | [] => some ⟨spelling.flag, none⟩
    | _ :: value => if spelling.flag.takesValue then some ⟨spelling.flag, some (String.ofList value)⟩
      else none

/-- Reads letters behind one dash. What follows the letter of an option that takes a value
is that value, without an equals sign in front. Nothing after the letter for the version counts. -/
def readLetters? (spellings : List Spelling) : List Char → Option (List Found)
  | [] => some []
  | c :: rest =>
    match spellings.find? (·.letter = some c) with
    | none => none
    | some spelling =>
      if spelling.flag.takesValue then
        match rest with
        | [] => some [⟨spelling.flag, none⟩]
        | '=' :: value => some [⟨spelling.flag, some (String.ofList value)⟩]
        | value => some [⟨spelling.flag, some (String.ofList value)⟩]
      else if spelling.flag = .version then some [⟨.version, none⟩]
      else (readLetters? spellings rest).map (⟨spelling.flag, none⟩ :: ·)

/-- The kinds of arguments, told by their dashes. A dash by itself is an ordinary argument. -/
inductive Shape where
  | plain
  | escape
  | word (text : List Char)
  | letters (text : List Char)

def shapeOf (argument : String) : Shape :=
  match argument.toList with
  | ['-', '-'] => .escape
  | '-' :: '-' :: text => .word text
  | '-' :: c :: text => .letters (c :: text)
  | _ => .plain

/-- Adds options to those found before. None may occur twice, and no value may be empty. -/
def collect? (found : List Found) : List Found → Option (List Found)
  | [] => some found
  | f :: rest =>
    if found.any (·.flag = f.flag) || f.value = some "" then none
    else collect? (found ++ [f]) rest

/-- Reads the options of a command. Commands take no other arguments.
An option that takes a value and has none attached takes the next argument. -/
def readOptions? (spellings : List Spelling) (found : List Found) :
    List String → Option (List Found)
  | [] => some found
  | argument :: rest =>
    let options? : Option (List Found) :=
      match shapeOf argument with
      | .plain | .escape => none
      | .word text => (readWord? spellings text).map ([·])
      | .letters text => readLetters? spellings text
    match shapeOf argument, options? with
    | .escape, _ => if rest.isEmpty then some found else none
    | _, none => none
    | _, some options =>
      match options.getLast? with
      | some ⟨flag, none⟩ =>
        if flag.takesValue then
          match rest with
          | [] => none
          | value :: more =>
            match shapeOf value with
            | .plain =>
              (collect? found (options.dropLast ++ [⟨flag, some value⟩])).bind
                (readOptions? spellings · more)
            | _ => none
        else (collect? found options).bind (readOptions? spellings · rest)
      | _ => (collect? found options).bind (readOptions? spellings · rest)

def valueOf (found : List Found) (flag : Flag) : Option String :=
  (found.find? (·.flag = flag)).bind (·.value)

def has (found : List Found) (flag : Flag) : Bool := found.any (·.flag = flag)

def defaultManifest : String := "quill.toml"

/-- What arguments ask for; none when they ask for nothing that there is.
Options in front of the command are taken in order, and the version ends the reading. -/
def ofArguments? (found : List Found) : List String → Option Command
  | [] => none
  | argument :: rest =>
    match shapeOf argument with
    | .escape => none
    | .plain =>
      if argument = "render" then
        (readOptions? renderSpellings [] rest).map fun options =>
          .render ((valueOf options .manifest).getD defaultManifest) (valueOf options .output)
            (has options .dryRun)
      else if argument = "check" then
        (readOptions? checkSpellings [] rest).map fun options =>
          .check ((valueOf options .manifest).getD defaultManifest) (has options .json)
      else none
    | .word text => next rest ((readWord? topSpellings text).map ([·]))
    | .letters text => next rest (readLetters? topSpellings text)
where
  next (rest : List String) (options? : Option (List Found)) : Option Command :=
    match options? with
    | none => none
    | some options =>
      match collect? found options with
      | none => none
      | some all => if has all .version then some .version else ofArguments? all rest

def parse? (arguments : List String) : Option Command := ofArguments? [] arguments

end Command
end CodeScribe
