import CodeScribe.Toml.Item
import CodeScribe.Toml.Moment
import CodeScribe.Toml.Number
import CodeScribe.Toml.Text
import CodeScribe.Value.Record

/-! A reader of TOML texts, with its bounds on nesting. -/
namespace CodeScribe.Toml

/-- Drops blanks, line ends and comments. A control character in a comment stops it. -/
def skipFiller (inComment : Bool) : List Char → List Char
  | [] => []
  | c :: rest =>
    if c = '\n' || (c = '\r' && rest.head? = some '\n') then skipFiller false rest
    else if inComment then if isControl c then c :: rest else skipFiller true rest
    else if isSpace c then skipFiller false rest
    else if c = '#' then skipFiller true rest
    else c :: rest

/-- Reads to the end of a line on which nothing but a comment may follow. -/
def endLine? (cs : List Char) : Option (List Char) :=
  let rest :=
    match skipSpace cs with
    | '#' :: comment => comment.dropWhile (!isControl ·)
    | other => other
  match rest with
  | [] => some []
  | _ => if atLineEnd rest then some (skipLineEnd rest) else none

def isTokenChar (c : Char) : Bool := !" \t\r\n,=[]#\x7b\x7d".toList.contains c

def tokenValue? (token : List Char) : Option Value :=
  if token = "true".toList then some (.bool true)
  else if token = "false".toList then some (.bool false)
  else number? token

mutual

/-- Reads a value. `depth` bounds the nesting, `fuel` the number of steps. -/
def value? (fuel depth : Nat) (cs : List Char) : Option (Value × List Char) :=
  match fuel with
  | 0 => none
  | fuel + 1 =>
    match cs with
    | [] => none
    | c :: rest =>
      if c = '"' || c.val = 0x27 then (string? cs).map fun (s, after) => (.text s, after)
      else if c = '[' then
        if depth = 0 then none
        else (items? fuel (depth - 1) rest).map fun (items, after) => (.list items, after)
      else if c = '{' then
        if depth = 0 then none
        else
          (members? fuel (depth - 1) [] rest).map fun (entries, after) =>
            (.table (Item.values entries), after)
      else if isMomentAhead cs then (moment? cs).map fun (m, after) => (m.value, after)
      else
        (tokenValue? (cs.takeWhile isTokenChar)).map (·, cs.dropWhile isTokenChar)

/-- Reads the items of an array up to its closing bracket. A comma may follow the last one. -/
def items? (fuel depth : Nat) (cs : List Char) : Option (List Value × List Char) :=
  match fuel with
  | 0 => none
  | fuel + 1 =>
    match skipFiller false cs with
    | ']' :: rest => some ([], rest)
    | inside =>
      match value? fuel depth inside with
      | none => none
      | some (v, after) =>
        match skipFiller false after with
        | ']' :: rest => some ([v], rest)
        | ',' :: rest =>
          match items? fuel depth rest with
          | none => none
          | some (more, last) => some (v :: more, last)
        | _ => none

/-- Reads the entries of an inline table up to its closing brace. A comma may follow the last one.
Lines may end anywhere but inside the path of a key. -/
def members? (fuel depth : Nat) (entries : Entries) (cs : List Char) :
    Option (Entries × List Char) :=
  match fuel with
  | 0 => none
  | fuel + 1 =>
    match skipFiller false cs with
    | '}' :: rest => some (entries, rest)
    | inside =>
      match keyPath? keyLimit inside with
      | none => none
      | some (path, assigned) =>
        match skipFiller false assigned with
        | '=' :: rest =>
          match value? fuel depth (skipFiller false rest) with
          | none => none
          | some (v, after) =>
            match setKey path v false entries with
            | none => none
            | some next =>
              match skipFiller false after with
              | '}' :: last => some (next, last)
              | ',' :: more => members? fuel depth next more
              | _ => none
        | _ => none

end

def depthLimit : Nat := 80

def headerPath? (cs : List Char) : Option (List String × List Char) :=
  match keyPath? keyLimit (skipSpace cs) with
  | some (path, ']' :: rest) => some (path, rest)
  | _ => none

def lines? (fuel : Nat) (header : List String) (root : Entries) (cs : List Char) :
    Option Entries :=
  match fuel with
  | 0 => none
  | fuel + 1 =>
    let next (header : List String) (root : Option Entries) (after : List Char) :
        Option Entries :=
      match root, endLine? after with
      | some root, some rest => if rest.isEmpty then some root else lines? fuel header root rest
      | _, _ => none
    match skipSpace cs with
    | [] => some root
    | '[' :: '[' :: inside =>
      match headerPath? inside with
      | some (path, ']' :: after) => next path (openElement path root) after
      | _ => none
    | '[' :: inside =>
      match headerPath? inside with
      | some (path, after) => next path (openTable path root) after
      | none => none
    | line =>
      if atLineEnd line || line.head? = some '#' then next header (some root) line
      else
        match keyPath? keyLimit line with
        | some (path, '=' :: rest) =>
          match value? (3 * rest.length + 3) depthLimit (skipSpace rest) with
          | some (v, after) => next header (setUnder header path v root) after
          | none => none
        | _ => none

/-- Reads a whole text. A byte order mark may come first. -/
def parse (text : String) : Option Value :=
  let cs :=
    match text.toList with
    | c :: rest => if c.val = 0xfeff then rest else c :: rest
    | [] => []
  (lines? (cs.length + 1) [] [] cs).map fun root => .table (Item.values root)

/-- TOML as a format of records: surplus items of a record written as a list are ignored,
and a choice written as a table holds an empty array or an empty table. -/
def dialect : Dialect where
  surplusItems := true
  isUnit
    | .list [] | .table [] => true
    | _ => false

end CodeScribe.Toml
