import CodeScribe.Character.CaseMap
import CodeScribe.Character.LetterCase

/-! Lowercase and uppercase of whole texts. -/
namespace CodeScribe.Text
open Character (isCased isCaseIgnorable)

/-- Whether a cased character comes first, after characters that do not interrupt a word. -/
def casedAhead (cs : List Char) : Bool :=
  match cs.dropWhile isCaseIgnorable with
  | [] => false
  | c :: _ => isCased c

/-- Lowercase of a text, given the reversed text before it.
A capital sigma that ends a word gets the final form. -/
def lowercaseAfter : List Char → List Char → List Char
  | _, [] => []
  | before, c :: rest =>
    let image :=
      if c = 'Σ' then if casedAhead before && !casedAhead rest then ['ς'] else ['σ']
      else Character.lower c
    image ++ lowercaseAfter (c :: before) rest

def lowercase (cs : List Char) : List Char := lowercaseAfter [] cs

def capitalize : List Char → List Char
  | [] => []
  | c :: rest => Character.upper c ++ rest

end CodeScribe.Text
