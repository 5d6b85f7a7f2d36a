import CodeScribe.Character.Printable

/-! Quoted texts, as messages show them: one line of visible characters for any text. -/
namespace CodeScribe.Text

/-- The spelling of one character between the given quotes.
What has no visible shape is written by its code point in hexadecimal. -/
def escape (quote c : Char) : List Char :=
  if c = '\n' then ['\\', 'n']
  else if c = '\r' then ['\\', 'r']
  else if c = '\t' then ['\\', 't']
  else if c.val = 0 then ['\\', '0']
  else if c = '\\' || c = quote then ['\\', c]
  else if Character.isPrintable c then [c]
  else "\\u\x7b".toList ++ Nat.toDigits 16 c.toNat ++ "\x7d".toList

def quoted (cs : List Char) : List Char := '"' :: cs.flatMap (escape '"') ++ ['"']

def quotedChar (c : Char) : List Char :=
  let quote := Char.ofNat 0x27
  quote :: escape quote c ++ [quote]

end CodeScribe.Text
