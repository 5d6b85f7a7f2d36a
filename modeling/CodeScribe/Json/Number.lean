import CodeScribe.Text.Basic
import CodeScribe.Value.Basic

/-! Numbers in JSON texts. A number too large for a double is an error. -/
namespace CodeScribe.Json

/-- What a reader gives: a result and the rest of the input.
An error carries the number of input bytes behind the point of failure. -/
abbrev Outcome (α : Type) := Except Nat (α × List Char)

/-- Failure at the next byte, which was only looked at, or at the end of input. -/
def stopAt {α : Type} (rest : List Char) : Outcome α := .error (Text.byteLength rest - 1)

def digitValue (c : Char) : Nat := c.toNat - '0'.toNat

structure Magnitude where
  significand : Nat
  exponent : Int

def significandLimit : Nat := 1 <<< 64 - 1

/-- `n` with 53 significant bits, a half going to the even neighbour. -/
def roundedToDouble (n : Nat) : Nat :=
  let shift := n.log2 + 1 - 53
  let kept := n >>> shift
  let dropped := n - (kept <<< shift)
  let half := if shift = 0 then 1 else 1 <<< (shift - 1)
  let up := half < dropped || (half = dropped && kept % 2 = 1)
  (if up then kept + 1 else kept) <<< shift

def Magnitude.overflows (m : Magnitude) : Bool :=
  if m.significand = 0 || m.exponent < 0 then false
  else if 308 < m.exponent then true
  else (1 <<< 54 - 1) <<< 970
    ≤ roundedToDouble m.significand * roundedToDouble (Nat.pow 10 m.exponent.toNat)

/-- Takes digits before the point. Those that no longer fit count as powers of ten. -/
def Magnitude.addInteger (m : Magnitude) : List Char → Magnitude
  | [] => m
  | c :: rest =>
    let next := m.significand * 10 + digitValue c
    if m.exponent = 0 && next ≤ significandLimit then addInteger { m with significand := next } rest
    else { m with exponent := m.exponent + 1 + rest.length }

/-- Takes digits after the point. From the first that no longer fits on they are dropped. -/
def Magnitude.addFraction (m : Magnitude) : List Char → Magnitude
  | [] => m
  | c :: rest =>
    let next := m.significand * 10 + digitValue c
    if next ≤ significandLimit then addFraction ⟨next, m.exponent - 1⟩ rest else m

def closeFraction (m : Magnitude) (rest : List Char) : Outcome Value :=
  if m.overflows then .error (Text.byteLength rest) else .ok (.fraction, rest)

def Magnitude.scaled (m : Magnitude) (negative : Bool) (exponent : Nat) : Magnitude :=
  { m with exponent := if negative then m.exponent - exponent else m.exponent + exponent }

def exponentDigits (m : Magnitude) (negative : Bool) (exponent : Nat) :
    List Char → Outcome Value
  | [] => closeFraction (m.scaled negative exponent) []
  | c :: rest =>
    if c.isDigit then
      let next := exponent * 10 + digitValue c
      if next ≤ 1 <<< 31 - 1 then exponentDigits m negative next rest
      else if m.significand ≠ 0 && !negative then .error (Text.byteLength rest)
      else .ok (.fraction, rest.dropWhile Char.isDigit)
    else closeFraction (m.scaled negative exponent) (c :: rest)

def exponentPart (m : Magnitude) (cs : List Char) : Outcome Value :=
  let (negative, unsigned) :=
    match cs with
    | '+' :: rest => (false, rest)
    | '-' :: rest => (true, rest)
    | _ => (false, cs)
  match unsigned with
  | [] => .error 0
  | c :: rest => if c.isDigit then exponentDigits m negative (digitValue c) rest else stopAt unsigned

def numberTail (negative : Bool) (m : Magnitude) (cs : List Char) : Outcome Value :=
  let exponent? (m : Magnitude) : List Char → Outcome Value
    | 'e' :: rest => exponentPart m rest
    | 'E' :: rest => exponentPart m rest
    | rest => closeFraction m rest
  match cs with
  | '.' :: rest =>
    let digits := rest.takeWhile Char.isDigit
    if digits.isEmpty then stopAt rest
    else exponent? (m.addFraction digits) (rest.dropWhile Char.isDigit)
  | 'e' :: rest => exponentPart m rest
  | 'E' :: rest => exponentPart m rest
  | rest =>
    if m.exponent ≠ 0 then closeFraction m rest
    else if !negative then .ok (.integer m.significand, rest)
    else if 0 < m.significand && m.significand ≤ 1 <<< 63 then .ok (.integer (-m.significand), rest)
    else .ok (.fraction, rest)

/-- Reads a number after its sign. Only a zero by itself may start with one. -/
def number (negative : Bool) (cs : List Char) : Outcome Value :=
  match cs with
  | [] => .error 0
  | c :: rest =>
    if c = '0' then
      match rest with
      | [] => numberTail negative ⟨0, 0⟩ rest
      | d :: _ => if d.isDigit then stopAt rest else numberTail negative ⟨0, 0⟩ rest
    else if c.isDigit then
      numberTail negative (Magnitude.addInteger ⟨0, 0⟩ (cs.takeWhile Char.isDigit))
        (cs.dropWhile Char.isDigit)
    else stopAt cs

end CodeScribe.Json
