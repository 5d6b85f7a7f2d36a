import CodeScribe.Json.Reader

/-! Strings and keys in TOML texts. A reader gives a result and the rest of the input. -/
namespace CodeScribe.Toml

def isSpace (c : Char) : Bool := c = ' ' || c = '\t'

def skipSpace (cs : List Char) : List Char := cs.dropWhile isSpace

/-- Control characters, which stand nowhere. A tab is not one of them. -/
def isControl (c : Char) : Bool := (c.val < 0x20 && c ≠ '\t') || c.val = 0x7f

def letterEscape? : Char → Option Char
  | 'b' => some (Char.ofNat 0x08)
  | 'e' => some (Char.ofNat 0x1b)
  | 't' => some '\t'
  | 'n' => some '\n'
  | 'f' => some (Char.ofNat 0x0c)
  | 'r' => some '\r'
  | '"' => some '"'
  | '\\' => some '\\'
  | _ => none

/-- The character with a code in hexadecimal digits. Halves of pairs have none. -/
def codePoint? (digits : List Char) : Option Char :=
  (Json.hexNumber? digits).bind fun n => if n.isValidChar then some (Char.ofNat n) else none

/-- How many hexadecimal digits follow the letter of an escape that gives a code. -/
def codeLength? : Char → Option Nat
  | 'x' => some 2
  | 'u' => some 4
  | 'U' => some 8
  | _ => none

def escape? : List Char → Option (Char × List Char)
  | [] => none
  | c :: rest =>
    match codeLength? c with
    | some count =>
      let digits := rest.take count
      if digits.length = count then (codePoint? digits).map (·, rest.drop count) else none
    | none => (letterEscape? c).map (·, rest)

def skipLineEnd : List Char → List Char
  | '\n' :: rest => rest
  | '\r' :: '\n' :: rest => rest
  | cs => cs

def atLineEnd : List Char → Bool
  | '\n' :: _ => true
  | '\r' :: '\n' :: _ => true
  | _ => false

def skipBreaks : List Char → List Char
  | [] => []
  | c :: rest =>
    if isSpace c || atLineEnd (c :: rest) then skipBreaks rest else c :: rest

/-- Reads a string of one line after its opening quote. Only double quotes allow escapes.
`before` is the reversed beginning of the string. -/
def lineString? (fuel : Nat) (quote : Char) (before : List Char) (cs : List Char) :
    Option (String × List Char) :=
  match fuel, cs with
  | 0, _ => none
  | _ + 1, [] => none
  | fuel + 1, c :: rest =>
    if c = quote then some (String.ofList before.reverse, rest)
    else if c = '\\' && quote = '"' then
      (escape? rest).bind fun (d, after) => lineString? fuel quote (d :: before) after
    else if isControl c then none
    else lineString? fuel quote (c :: before) rest

/-- Reads a string of several lines after its opening quotes. Three quotes end it;
up to two more in front of them belong to it. A backslash at the end of a line joins lines. -/
def blockString? (fuel : Nat) (quote : Char) (before : List Char) (cs : List Char) :
    Option (String × List Char) :=
  match fuel, cs with
  | 0, _ => none
  | _ + 1, [] => none
  | fuel + 1, c :: rest =>
    if c = quote then
      let quotes := min 5 ((c :: rest).takeWhile (· = quote)).length
      if quotes < 3 then blockString? fuel quote (c :: before) rest
      else some (String.ofList (List.replicate (quotes - 3) quote ++ before).reverse,
        (c :: rest).drop quotes)
    else if c = '\\' && quote = '"' then
      if atLineEnd (skipSpace rest) then blockString? fuel quote before (skipBreaks rest)
      else (escape? rest).bind fun (d, after) => blockString? fuel quote (d :: before) after
    else if atLineEnd (c :: rest) then
      if c = '\r' then blockString? fuel quote ('\n' :: c :: before) rest.tail
      else blockString? fuel quote (c :: before) rest
    else if isControl c then none
    else blockString? fuel quote (c :: before) rest

def string? (cs : List Char) : Option (String × List Char) :=
  match cs with
  | q :: rest =>
    if q = '"' || q.val = 0x27 then
      match rest with
      | a :: b :: inside =>
        if a = q && b = q then blockString? (cs.length + 1) q [] (skipLineEnd inside)
        else lineString? (cs.length + 1) q [] rest
      | _ => lineString? (cs.length + 1) q [] rest
    else none
  | [] => none

def isBareKeyChar (c : Char) : Bool := c.isAlphanum || c = '_' || c = '-'

/-- Reads one key. A quoted key stays on one line. -/
def key? (cs : List Char) : Option (String × List Char) :=
  match cs with
  | [] => none
  | c :: rest =>
    if c = '"' || c.val = 0x27 then lineString? (cs.length + 1) c [] rest
    else
      let name := cs.takeWhile isBareKeyChar
      if name.isEmpty then none else some (String.ofList name, cs.dropWhile isBareKeyChar)

def keyLimit : Nat := 80

def keyPath? (limit : Nat) (cs : List Char) : Option (List String × List Char) :=
  match limit with
  | 0 => none
  | limit + 1 =>
    match key? cs with
    | none => none
    | some (key, after) =>
      match skipSpace after with
      | '.' :: rest =>
        (keyPath? limit (skipSpace rest)).map fun (more, last) => (key :: more, last)
      | rest => some ([key], rest)

end CodeScribe.Toml
