import CodeScribe.Identifier.Basic
import CodeScribe.Text.Basic
import CodeScribe.Text.Case

/-! Case styles of names. A name is cut into words, and the words are joined in one style. -/
namespace CodeScribe.Identifier

def isSeparator (c : Char) : Bool := c = '_' || c = '-' || c = '.' || Character.isBlank c

/-- Whether `c` starts a word of its own, given the reversed word before it and what follows.
A capital does after a small letter or a digit; the last capital of an acronym does
when a small letter follows, so that the acronym stays together. -/
def startsWord (before : List Char) (c : Char) (after : List Char) : Bool :=
  match before with
  | [] => false
  | previous :: _ =>
    Character.isUppercase c
      && (Character.isLowercase previous || previous.isDigit
        || (Character.isUppercase previous && (after.head?.map Character.isLowercase).getD false))

/-- The words of a text, given the reversed word that is open. -/
def wordsFrom (current : List Char) : List Char → List (List Char)
  | [] => if current.isEmpty then [] else [current.reverse]
  | c :: rest =>
    if isSeparator c then
      if current.isEmpty then wordsFrom [] rest else current.reverse :: wordsFrom [] rest
    else if startsWord current c rest then current.reverse :: wordsFrom [c] rest
    else wordsFrom (c :: current) rest

def words (text : String) : List (List Char) := wordsFrom [] text.toList

def pascalCase (text : String) : String :=
  String.ofList ((words text).map Text.capitalize).flatten

def camelCase (text : String) : String :=
  match words text with
  | [] => ""
  | first :: rest => String.ofList (Text.lowercase first ++ (rest.map Text.capitalize).flatten)

def lowerJoined (separator : Char) (text : String) : String :=
  String.ofList (Text.join [separator] ((words text).map Text.lowercase))

def snakeCase (text : String) : String := lowerJoined '_' text

def kebabCase (text : String) : String := lowerJoined '-' text

def typeName (text : String) : String := escapeKeyword (pascalCase text)

def localName (text : String) : String := escapeKeyword (camelCase text)

end CodeScribe.Identifier
