import CodeScribe.Config
import CodeScribe.Text.Case

/-! Import directives: four groups without repetition, written in one fixed order. -/
namespace CodeScribe

/-- Order of directives: lowercased text first, the text itself between equals. -/
def directiveLE (a b : String) : Bool :=
  let x := Text.lowercase a.toList
  let y := Text.lowercase b.toList
  if x = y then Text.atMost a.toList b.toList else Text.atMost x y

def aliasLE (a b : String × String) : Bool :=
  if a.1 = b.1 then directiveLE a.2 b.2 else directiveLE a.1 b.1

/-- The recorded directives, each group in the order of recording. -/
structure Imports where
  system : List String := []
  other : List String := []
  statics : List String := []
  aliases : List (String × String) := []
  deriving DecidableEq, Repr

namespace Imports

def isSystem (name : String) : Bool :=
  let bare := Text.withoutStart globalMarker name
  bare == "System" || "System.".toList.isPrefixOf bare.toList

def insertNew {α : Type} [BEq α] (x : α) (xs : List α) : List α :=
  if xs.contains x then xs else xs ++ [x]

def recorded (name : String) (q : Qualify) : String := q.apply (Text.stripped name)

def addNamespace (i : Imports) (name : String) (q : Qualify) : Bool × Imports :=
  let entry := recorded name q
  if isSystem entry then
    (!i.system.contains entry, { i with system := insertNew entry i.system })
  else (!i.other.contains entry, { i with other := insertNew entry i.other })

def addStatic (i : Imports) (name : String) (q : Qualify) : Bool × Imports :=
  let entry := recorded name q
  (!i.statics.contains entry, { i with statics := insertNew entry i.statics })

/-- Records an alias, of which only the target is qualified. The answer tells whether it is new. -/
def addAlias (i : Imports) (name target : String) (q : Qualify) : Bool × Imports :=
  let entry := (Text.stripped name, recorded target q)
  (!i.aliases.contains entry, { i with aliases := insertNew entry i.aliases })

def size (i : Imports) : Nat :=
  i.system.length + i.other.length + i.statics.length + i.aliases.length

def isEmpty (i : Imports) : Bool := i.size == 0

def merge (i j : Imports) : Imports where
  system := j.system.foldl (fun acc x => insertNew x acc) i.system
  other := j.other.foldl (fun acc x => insertNew x acc) i.other
  statics := j.statics.foldl (fun acc x => insertNew x acc) i.statics
  aliases := j.aliases.foldl (fun acc x => insertNew x acc) i.aliases

def hasNamespace (i : Imports) (name : String) : Bool :=
  i.system.contains name || i.other.contains name

def lines (i : Imports) : List String :=
  (i.system.mergeSort directiveLE).map (fun name => "using " ++ name ++ ";")
    ++ (i.other.mergeSort directiveLE).map (fun name => "using " ++ name ++ ";")
    ++ (i.statics.mergeSort directiveLE).map (fun name => "using static " ++ name ++ ";")
    ++ (i.aliases.mergeSort aliasLE).map
      (fun entry => "using " ++ entry.1 ++ " = " ++ entry.2 ++ ";")

end Imports
end CodeScribe
