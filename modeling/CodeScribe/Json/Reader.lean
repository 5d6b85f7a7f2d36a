import CodeScribe.Json.Number

/-! A strict reader of JSON texts that tells where it failed. -/
namespace CodeScribe.Json

def skipBlank (cs : List Char) : List Char :=
  cs.dropWhile fun c => c = ' ' || c = '\n' || c = '\r' || c = '\t'

/-- Reads the rest of a literal such as `true`. A wrong character counts as read. -/
def literal (value : Value) : List Char → List Char → Outcome Value
  | [], cs => .ok (value, cs)
  | _ :: _, [] => .error 0
  | expected :: more, c :: rest => if c = expected then literal value more rest else stopAt (c :: rest)

def hexValue? (c : Char) : Option Nat :=
  if c.isDigit then some (c.toNat - '0'.toNat)
  else if 'a' ≤ c && c ≤ 'f' then some (c.toNat - 'a'.toNat + 10)
  else if 'A' ≤ c && c ≤ 'F' then some (c.toNat - 'A'.toNat + 10)
  else none

def hexNumber? (cs : List Char) : Option Nat :=
  cs.foldl (fun acc c => do return (← acc) * 16 + (← hexValue? c)) (some 0)

/-- Reads four hexadecimal digits. Four bytes count as read whatever they are. -/
def hexUnit (cs : List Char) : Outcome Nat :=
  if Text.byteLength cs < 4 then .error 0
  else match hexNumber? (cs.take 4) with
    | some n => .ok (n, cs.drop 4)
    | none => .error (Text.byteLength cs - 4)

/-- Reads the character of a hexadecimal escape. A character outside the first plane
takes two escapes, a leading and a trailing half. -/
def escapedCodePoint (cs : List Char) : Outcome Char :=
  match hexUnit cs with
  | .error left => .error left
  | .ok (n, after) =>
    if 0xdc00 ≤ n && n ≤ 0xdfff then .error (Text.byteLength after)
    else if n < 0xd800 || 0xdbff < n then .ok (Char.ofNat n, after)
    else match after with
      | '\\' :: 'u' :: digits =>
        match hexUnit digits with
        | .error left => .error left
        | .ok (m, rest) =>
          if m < 0xdc00 || 0xdfff < m then .error (Text.byteLength rest)
          else .ok (Char.ofNat (0x10000 + (n - 0xd800) * 0x400 + (m - 0xdc00)), rest)
      | '\\' :: other => stopAt other
      | other => stopAt other

def letterEscape? : Char → Option Char
  | '"' => some '"'
  | '\\' => some '\\'
  | '/' => some '/'
  | 'b' => some (Char.ofNat 0x08)
  | 'f' => some (Char.ofNat 0x0c)
  | 'n' => some '\n'
  | 'r' => some '\r'
  | 't' => some '\t'
  | _ => none

/-- Reads a string after its opening quote. `before` is its reversed beginning. -/
def string (fuel : Nat) (before : List Char) (cs : List Char) : Outcome String :=
  match fuel, cs with
  | 0, _ => .error (Text.byteLength cs)
  | _ + 1, [] => .error 0
  | _ + 1, '"' :: rest => .ok (String.ofList before.reverse, rest)
  | fuel + 1, '\\' :: 'u' :: rest =>
    match escapedCodePoint rest with
    | .error left => .error left
    | .ok (c, after) => string fuel (c :: before) after
  | _ + 1, ['\\'] => .error 0
  | fuel + 1, '\\' :: c :: rest =>
    match letterEscape? c with
    | some d => string fuel (d :: before) rest
    | none => stopAt (c :: rest)
  | fuel + 1, c :: rest => if c.val < 0x20 then stopAt (c :: rest) else string fuel (c :: before) rest

mutual

/-- Reads a value. `depth` bounds the nesting, `fuel` the number of steps. -/
def value (fuel depth : Nat) (input : List Char) : Outcome Value :=
  match fuel with
  | 0 => .error (Text.byteLength input)
  | fuel + 1 =>
    match skipBlank input with
    | 'n' :: rest => literal .null "ull".toList rest
    | 't' :: rest => literal (.bool true) "rue".toList rest
    | 'f' :: rest => literal (.bool false) "alse".toList rest
    | '-' :: rest => number true rest
    | '"' :: rest =>
      match string (rest.length + 1) [] rest with
      | .error left => .error left
      | .ok (s, after) => .ok (.text s, after)
    | '[' :: rest =>
      if depth ≤ 1 then stopAt ('[' :: rest)
      else match items fuel (depth - 1) true rest with
        | .error left => .error left
        | .ok (values, after) => .ok (.list values, after)
    | '{' :: rest =>
      if depth ≤ 1 then stopAt ('{' :: rest)
      else match members fuel (depth - 1) true rest with
        | .error left => .error left
        | .ok (entries, after) => .ok (.table entries, after)
    | [] => .error 0
    | c :: rest => if c.isDigit then number false (c :: rest) else stopAt (c :: rest)

def items (fuel depth : Nat) (first : Bool) (input : List Char) : Outcome (List Value) :=
  match fuel with
  | 0 => .error (Text.byteLength input)
  | fuel + 1 =>
    let item (cs : List Char) : Outcome (List Value) :=
      match value fuel depth cs with
      | .error left => .error left
      | .ok (v, after) =>
        match items fuel depth false after with
        | .error left => .error left
        | .ok (more, rest) => .ok (v :: more, rest)
    match skipBlank input with
    | [] => .error 0
    | ']' :: rest => .ok ([], rest)
    | ',' :: rest =>
      if first then item (',' :: rest)
      else match skipBlank rest with
        | ']' :: after => stopAt (']' :: after)
        | next => item next
    | c :: rest => if first then item (c :: rest) else stopAt (c :: rest)

def members (fuel depth : Nat) (first : Bool) (input : List Char) :
    Outcome (List (String × Value)) :=
  match fuel with
  | 0 => .error (Text.byteLength input)
  | fuel + 1 =>
    let member : List Char → Outcome (List (String × Value))
      | '"' :: rest =>
        match string (rest.length + 1) [] rest with
        | .error left => .error left
        | .ok (key, after) =>
          match skipBlank after with
          | ':' :: tail =>
            match value fuel depth tail with
            | .error left => .error left
            | .ok (v, next) =>
              match members fuel depth false next with
              | .error left => .error left
              | .ok (more, last) => .ok ((key, v) :: more, last)
          | other => stopAt other
      | other => stopAt other
    match skipBlank input with
    | [] => .error 0
    | '}' :: rest => .ok ([], rest)
    | ',' :: rest => if first then stopAt (',' :: rest) else member (skipBlank rest)
    | c :: rest => if first then member (c :: rest) else stopAt (c :: rest)

end

/-- A text was refused after so many of its bytes. -/
structure Refusal where
  bytes : Nat
  deriving DecidableEq, Repr

def depthLimit : Nat := 128

def parse (text : String) : Except Refusal Value :=
  let cs := text.toList
  let outcome : Except Nat Value :=
    match value (3 * cs.length + 3) depthLimit cs with
    | .error left => .error left
    | .ok (v, after) =>
      match skipBlank after with
      | [] => .ok v
      | rest => .error (Text.byteLength rest - 1)
  match outcome with
  | .ok v => .ok v
  | .error left => .error ⟨Text.byteLength cs - left⟩

/-- Line of the refusal: one more than the line feeds among the bytes. -/
def Refusal.line (r : Refusal) (text : String) : Nat :=
  1 + (text.toUTF8.toList.take r.bytes).count 0x0a

/-- Column of the refusal: the bytes after the last line feed among them. -/
def Refusal.column (r : Refusal) (text : String) : Nat :=
  ((text.toUTF8.toList.take r.bytes).reverse.takeWhile (· ≠ 0x0a)).length

end CodeScribe.Json
