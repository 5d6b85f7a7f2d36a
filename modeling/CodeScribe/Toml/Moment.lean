import CodeScribe.Json.Number

/-! Dates and times in TOML texts. A reader gives a result and the rest of the input. -/
namespace CodeScribe.Toml

structure Date where
  year : Nat
  month : Nat
  day : Nat
  deriving DecidableEq, Repr

/-- A time of day. The last minute of a day may have a leap second. -/
structure Time where
  hour : Nat
  minute : Nat
  second : Nat := 0
  /-- Decimal digits of the fraction of a second: nine at most, and no zero at the end. -/
  fraction : List Char := []
  deriving DecidableEq, Repr

inductive Offset where
  | universal
  | ahead (hours minutes : Nat)
  | behind (hours minutes : Nat)
  deriving DecidableEq, Repr

/-- A date, a time, or both; with both there may be an offset. -/
structure Moment where
  date : Option Date := none
  time : Option Time := none
  offset : Option Offset := none
  deriving DecidableEq, Repr

def daysIn (year month : Nat) : Nat :=
  if month = 2 then
    if year % 4 = 0 && (year % 100 ≠ 0 || year % 400 = 0) then 29 else 28
  else if month = 4 || month = 6 || month = 9 || month = 11 then 30
  else 31

/-- Reads exactly `count` digits whose value is in a range. -/
def field? (count low high : Nat) (cs : List Char) : Option (Nat × List Char) :=
  let digits := cs.take count
  let n := digits.foldl (fun n c => 10 * n + Json.digitValue c) 0
  if digits.length = count && digits.all Char.isDigit && low ≤ n && n ≤ high then
    some (n, cs.drop count)
  else none

def after? (c : Char) : List Char → Option (List Char)
  | d :: rest => if d = c then some rest else none
  | [] => none

def date? (cs : List Char) : Option (Date × List Char) := do
  let (year, cs) ← field? 4 0 9999 cs
  let (month, cs) ← field? 2 1 12 (← after? '-' cs)
  let (day, cs) ← field? 2 1 (daysIn year month) (← after? '-' cs)
  return (⟨year, month, day⟩, cs)

def hourMinute? (cs : List Char) : Option (Nat × Nat × List Char) := do
  let (hour, cs) ← field? 2 0 23 cs
  let (minute, cs) ← field? 2 0 59 (← after? ':' cs)
  return (hour, minute, cs)

/-- Reads the fraction of a second, if there is one. What is finer than nine digits is dropped. -/
def secondFraction? : List Char → Option (List Char × List Char)
  | '.' :: rest =>
    let digits := rest.takeWhile Char.isDigit
    if digits.isEmpty then none
    else some (((digits.take 9).reverse.dropWhile (· = '0')).reverse, rest.dropWhile Char.isDigit)
  | cs => some ([], cs)

/-- Reads a time of day. Seconds may be missing. -/
def time? (cs : List Char) : Option (Time × List Char) := do
  let (hour, minute, cs) ← hourMinute? cs
  match cs with
  | ':' :: rest =>
    let (second, rest) ← field? 2 0 60 rest
    let (fraction, rest) ← secondFraction? rest
    return (⟨hour, minute, second, fraction⟩, rest)
  | _ => return ({ hour, minute }, cs)

def offset? : List Char → Option (Option Offset × List Char)
  | 'Z' :: rest | 'z' :: rest => some (some .universal, rest)
  | '+' :: rest => (hourMinute? rest).map fun (hours, minutes, last) =>
    (some (.ahead hours minutes), last)
  | '-' :: rest => (hourMinute? rest).map fun (hours, minutes, last) =>
    (some (if hours = 0 && minutes = 0 then .ahead 0 0 else .behind hours minutes), last)
  | cs => some (none, cs)

/-- Whether a time follows a date: after its letter, or after a blank with a digit behind it. -/
def isTimeAhead : List Char → Bool
  | 'T' :: _ | 't' :: _ => true
  | ' ' :: c :: _ => c.isDigit
  | _ => false

/-- Whether a text starts like a date or a time, and not like a number. -/
def isMomentAhead (cs : List Char) : Bool :=
  let mark := (cs.dropWhile Char.isDigit).head?
  cs.head?.any Char.isDigit && (mark = some '-' || mark = some ':')

def moment? (cs : List Char) : Option (Moment × List Char) := do
  if (cs.dropWhile Char.isDigit).head? = some ':' then
    let (time, rest) ← time? cs
    return ({ time := some time }, rest)
  let (date, rest) ← date? cs
  if isTimeAhead rest then
    let (time, rest) ← time? (rest.drop 1)
    let (offset, rest) ← offset? rest
    return (⟨some date, some time, offset⟩, rest)
  return ({ date := some date }, rest)

def padded (length n : Nat) : List Char :=
  let digits := Nat.toDigits 10 n
  List.replicate (length - digits.length) '0' ++ digits

def Date.text (d : Date) : List Char :=
  padded 4 d.year ++ '-' :: padded 2 d.month ++ '-' :: padded 2 d.day

/-- The text of a time. Seconds are always written, a fraction only when there is one. -/
def Time.text (t : Time) : List Char :=
  padded 2 t.hour ++ ':' :: padded 2 t.minute ++ ':' :: padded 2 t.second
    ++ (if t.fraction.isEmpty then [] else '.' :: t.fraction)

def Offset.text : Offset → List Char
  | .universal => ['Z']
  | .ahead hours minutes => '+' :: padded 2 hours ++ ':' :: padded 2 minutes
  | .behind hours minutes => '-' :: padded 2 hours ++ ':' :: padded 2 minutes

namespace Moment

def text (m : Moment) : List Char :=
  let date := (m.date.map Date.text).getD []
  let time := (m.time.map Time.text).getD []
  let mark := if date.isEmpty || time.isEmpty then [] else ['T']
  date ++ mark ++ time ++ (m.offset.map Offset.text).getD []

/-- A moment as data: a table with one entry, under a key that no record has. -/
def value (m : Moment) : Value :=
  .table [("$__toml_private_datetime", .text (String.ofList m.text))]

end Moment
end CodeScribe.Toml
