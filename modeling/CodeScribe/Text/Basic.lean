import CodeScribe.Character.Blank

/-! Texts as lists of characters: trimming, splitting, and positions counted in UTF-8 bytes. -/
namespace CodeScribe.Text
open Character (isBlank)

def trimStart (cs : List Char) : List Char := cs.dropWhile isBlank

def trimEnd (cs : List Char) : List Char := (cs.reverse.dropWhile isBlank).reverse

def trim (cs : List Char) : List Char := trimEnd (trimStart cs)

def allBlank (cs : List Char) : Bool := cs.all isBlank

def endsIn (c : Char) (cs : List Char) : Bool := cs.getLast? == some c

def chop (c : Char) (cs : List Char) : List Char := if endsIn c cs then cs.dropLast else cs

/-- Drops one final line feed together with a carriage return before it. -/
def chopLineEnd (cs : List Char) : List Char :=
  if endsIn '\n' cs then chop '\r' cs.dropLast else cs

def pieces (c : Char) : List Char → List (List Char)
  | [] => [[]]
  | d :: rest =>
    if d = c then [] :: pieces c rest
    else match pieces c rest with
      | [] => [[d]]
      | piece :: more => (d :: piece) :: more

def byteLength : List Char → Nat
  | [] => 0
  | c :: rest => c.utf8Size + byteLength rest

/-- The characters before and after a byte position.
There are none when the position is past the end or inside a character. -/
def splitAtByte? : Nat → List Char → Option (List Char × List Char)
  | 0, cs => some ([], cs)
  | _ + 1, [] => none
  | n + 1, c :: rest =>
    if c.utf8Size ≤ n + 1 then
      (splitAtByte? (n + 1 - c.utf8Size) rest).map fun (before, after) => (c :: before, after)
    else none

/-- The characters between two byte positions, when both are on character boundaries. -/
def slice? (start stop : Nat) (cs : List Char) : Option (List Char) :=
  if start ≤ stop then
    (splitAtByte? stop cs).bind fun (head, _) => (splitAtByte? start head).map (·.2)
  else none

def findByte? (needle : List Char) : List Char → Option Nat
  | [] => if needle.isEmpty then some 0 else none
  | c :: rest =>
    if needle.isPrefixOf (c :: rest) then some 0
    else (findByte? needle rest).map (c.utf8Size + ·)

def join (separator : List Char) (texts : List (List Char)) : List Char :=
  separator.intercalate texts

def stripped (s : String) : String := String.ofList (trim s.toList)

def strippedEnd (s : String) : String := String.ofList (trimEnd s.toList)

/-- Drops `start` from the front, once, if it is there. -/
def withoutStart (start s : String) : String :=
  if start.toList.isPrefixOf s.toList then String.ofList (s.toList.drop start.toList.length) else s

/-- Order of texts by their characters. What starts another text comes before it. -/
def atMost : List Char → List Char → Bool
  | [], _ => true
  | _ :: _, [] => false
  | c :: cs, d :: ds => if c = d then atMost cs ds else decide (c.toNat < d.toNat)

def sameIgnoringAsciiCase (s t : String) : Bool :=
  s.toList.map Char.toLower == t.toList.map Char.toLower

theorem length_dropWhile_le {α : Type} (p : α → Bool) (xs : List α) :
    (xs.dropWhile p).length ≤ xs.length :=
  (List.dropWhile_sublist p).length_le

theorem byteLength_append (a b : List Char) : byteLength (a ++ b) = byteLength a + byteLength b := by
  induction a with
  | nil => simp [byteLength]
  | cons c rest ih => simp [byteLength, ih, Nat.add_assoc]

end CodeScribe.Text
