import CodeScribe.Text.Basic

/-! JSON texts as they are written: strings, and objects with one entry a line. -/
namespace CodeScribe.Json

/-- The spelling of one character of a string. Controls without a letter of their own
are written by their code in four hexadecimal digits. -/
def escape (c : Char) : List Char :=
  if c = '"' then ['\\', '"']
  else if c = '\\' then ['\\', '\\']
  else if c.val = 0x08 then ['\\', 'b']
  else if c.val = 0x0c then ['\\', 'f']
  else if c = '\n' then ['\\', 'n']
  else if c = '\r' then ['\\', 'r']
  else if c = '\t' then ['\\', 't']
  else if c.val < 0x20 then
    let digits := Nat.toDigits 16 c.toNat
    ['\\', 'u'] ++ List.replicate (4 - digits.length) '0' ++ digits
  else [c]

def quoted (s : String) : List Char := '"' :: s.toList.flatMap escape ++ ['"']

def quotedOrNull : Option String → List Char
  | some s => quoted s
  | none => "null".toList

def object (entries : List (String × List Char)) : List Char :=
  let lines := entries.map fun (key, text) => "\n  ".toList ++ quoted key ++ ": ".toList ++ text
  ['{'] ++ Text.join [','] lines ++ ['\n', '}']

end CodeScribe.Json
