import CodeScribe.Dictionary
import CodeScribe.Value.Basic

/-! Records read from data: which keys they have, which of them may be missing,
and what each of them holds. Unknown and repeated keys are refused. -/
namespace CodeScribe

inductive DecodeError where
  | mismatch
  | unknownIndent (name : String)
  deriving DecidableEq, Repr

def DecodeError.message? : DecodeError → Option String
  | .mismatch => none
  | .unknownIndent name =>
    some ("invalid indent '" ++ name ++ "', expected a space count or \"tab\"")

/-- What a file format allows beyond the plain spelling of records and choices. -/
structure Dialect where
  /-- Whether a record written as a list may have more items than the record has fields. -/
  surplusItems : Bool
  /-- Whether a choice written as a table with one key may have this value. -/
  isUnit : Value → Bool

abbrev Decoder (α : Type) := Value → Except DecodeError α

namespace Decoder
variable {α : Type}

def text : Decoder String
  | .text s => .ok s
  | _ => .error .mismatch

def bool : Decoder Bool
  | .bool b => .ok b
  | _ => .error .mismatch

/-- Null stands for absence. -/
def optional (item : Decoder α) : Decoder (Option α)
  | .null => .ok none
  | v => (item v).map some

def list (item : Decoder α) : Decoder (List α)
  | .list items => items.mapM item
  | _ => .error .mismatch

/-- Texts by key. A repeated key takes its last value; the keys are put in order. -/
def dictionary : Decoder (Dictionary String)
  | .table entries => do
    let texts ← entries.mapM fun (key, v) => (text v).map (key, ·)
    return Dictionary.sorted (Dictionary.insertAll texts [])
  | _ => .error .mismatch

/-- One of some names, by itself or as the only key of a table without content. -/
def choice (dialect : Dialect) (names : List (String × α)) : Decoder α := fun v =>
  let named (name : String) : Except DecodeError α :=
    match names.lookup name with
    | some a => .ok a
    | none => .error .mismatch
  match v with
  | .text name => named name
  | .table [(name, content)] => if dialect.isUnit content then named name else .error .mismatch
  | _ => .error .mismatch

end Decoder

structure Field (α : Type) where
  key : String
  required : Bool := false
  /-- Whether a record written as a list must reach this field. -/
  anchored : Bool := false
  store : Value → α → Except DecodeError α

namespace Field
variable {α β : Type}

def defaulted (key : String) (item : Decoder β) (set : β → α → α) : Field α :=
  { key, store := fun v a => (item v).map (set · a) }

/-- A field that may be missing or null. -/
def nullable (key : String) (item : Decoder β) (set : Option β → α → α) : Field α :=
  { key, anchored := true, store := fun v a => (item.optional v).map (set · a) }

def mandatory (key : String) (item : Decoder β) (set : β → α → α) : Field α :=
  { key, required := true, anchored := true, store := fun v a => (item v).map (set · a) }

def storeNamed (fields : List (Field α)) (seen : List String) (a : α) :
    List (String × Value) → Except DecodeError α
  | [] =>
    if fields.all fun f => !f.required || seen.contains f.key then .ok a else .error .mismatch
  | (key, v) :: rest =>
    match fields.find? (·.key == key) with
    | none => .error .mismatch
    | some field =>
      if seen.contains key then .error .mismatch
      else match field.store v a with
        | .error e => .error e
        | .ok next => storeNamed fields (key :: seen) next rest

/-- Stores the items of a list into the fields in their order. -/
def storeListed (dialect : Dialect) (a : α) : List (Field α) → List Value → Except DecodeError α
  | [], items => if items.isEmpty || dialect.surplusItems then .ok a else .error .mismatch
  | fields, [] => if fields.any (·.anchored) then .error .mismatch else .ok a
  | field :: fields, v :: items =>
    match field.store v a with
    | .error e => .error e
    | .ok next => storeListed dialect next fields items

end Field

def Decoder.record {α : Type} (dialect : Dialect) (fields : List (Field α)) (defaults : α) :
    Decoder α
  | .table entries => Field.storeNamed fields [] defaults entries
  | .list items => Field.storeListed dialect defaults fields items
  | _ => .error .mismatch

end CodeScribe
