import CodeScribe.Json.Reader

/-! Numbers in TOML texts: integers of any size, and numbers that are read but are no integers.
Those have a fraction, an exponent, no digits, or digits that do not fit their base.
Underscores may stand between digits. -/
namespace CodeScribe.Toml

def digits? (base : Nat) (cs : List Char) : Option Nat :=
  let groups := Text.pieces '_' cs
  if groups.any List.isEmpty then none
  else
    groups.flatten.foldl (fun acc c => acc.bind fun n => (Json.hexValue? c).bind fun k =>
      if k < base then some (n * base + k) else none) (some 0)

/-- The value of decimal digits, of which only a single one may start with zero. -/
def whole? : List Char → Option Nat
  | '0' :: _ :: _ => none
  | cs => digits? 10 cs

def isRowChar (c : Char) : Bool := c.isDigit || c = '_'

def isExponent : List Char → Bool
  | [] => false
  | c :: rest =>
    let digits :=
      match rest with
      | '+' :: digits | '-' :: digits => digits
      | digits => digits
    (c = 'e' || c = 'E') && (digits? 10 digits).isSome

/-- Whether an unsigned number has a fraction or an exponent, or is no finite number. -/
def isFraction (cs : List Char) : Bool :=
  if cs = "inf".toList || cs = "nan".toList then true
  else
    (whole? (cs.takeWhile isRowChar)).isSome &&
      match cs.dropWhile isRowChar with
      | '.' :: rest =>
        let exponent := rest.dropWhile isRowChar
        (digits? 10 (rest.takeWhile isRowChar)).isSome && (exponent.isEmpty || isExponent exponent)
      | rest => isExponent rest

def isHex (c : Char) : Bool := (Json.hexValue? c).isSome

/-- Whether an unsigned number is made of groups with an underscore between them. The first group
holds decimal digits and does not start with zero. Of the later ones only the ends beside an
underscore are looked at, and any hexadecimal digit will do there. -/
def isGrouped (cs : List Char) : Bool :=
  match Text.pieces '_' cs with
  | [] => false
  | first :: groups =>
    first.head?.any (· ≠ '0') && first.all Char.isDigit && !groups.isEmpty
      && groups.all (·.head?.any isHex) && groups.dropLast.all (·.getLast?.any isHex)
      && cs.all fun c => c ≠ '.' && c ≠ 'e' && c ≠ 'E'

/-- A decimal number without its sign, which `signed` puts on an integer. -/
def decimal? (signed : Nat → Int) (cs : List Char) : Option Value :=
  match whole? cs with
  | some n => some (.integer (signed n))
  | none => if isFraction cs || isGrouped cs then some .fraction else none

/-- An integer after the mark of its base. The mark alone is a number that is no integer. -/
def based? (base : Nat) (cs : List Char) : Option Value :=
  if cs.isEmpty then some .fraction else (digits? base cs).map (.integer ·)

def number? : List Char → Option Value
  | '0' :: 'x' :: rest => based? 16 rest
  | '0' :: 'o' :: rest => based? 8 rest
  | '0' :: 'b' :: rest => based? 2 rest
  | '+' :: rest => decimal? (·) rest
  | '-' :: rest => decimal? (-·) rest
  | cs => decimal? (·) cs

end CodeScribe.Toml
