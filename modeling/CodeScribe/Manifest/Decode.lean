import CodeScribe.Config.Decode
import CodeScribe.Manifest.Basic

/-! Manifests read from data. -/
namespace CodeScribe

def TypeKind.names : List (String × TypeKind) := [
  ("class", .classType), ("interface", .interfaceType), ("struct", .structType),
  ("record", .recordType), ("record-struct", .recordStruct), ("enum", .enumType)]

def Placement.names : List (String × Placement) := [("before", .before), ("after", .after)]

def ParameterSpec.fields : List (Field ParameterSpec) := [
  .mandatory "name" .text fun x p => { p with name := x },
  .mandatory "type" .text fun x p => { p with type := x },
  .nullable "default" .text fun x p => { p with default := x },
  .nullable "doc" .text fun x p => { p with doc := x }]

def MethodSpec.fields (dialect : Dialect) : List (Field MethodSpec) := [
  .mandatory "name" .text fun x m => { m with name := x },
  .defaulted "returns" .text fun x m => { m with returns := x },
  .defaulted "modifiers" (.list .text) fun x m => { m with modifiers := x },
  .defaulted "generics" (.list .text) fun x m => { m with generics := x },
  .defaulted "parameters" (.list (.record dialect ParameterSpec.fields {}))
    fun x m => { m with parameters := x },
  .defaulted "attributes" (.list .text) fun x m => { m with attributes := x },
  .defaulted "constraints" (.list .text) fun x m => { m with constraints := x },
  .nullable "summary" .text fun x m => { m with summary := x },
  .nullable "returns-doc" .text fun x m => { m with returnsDoc := x },
  .defaulted "body" (.list .text) fun x m => { m with body := x },
  .nullable "arrow" .text fun x m => { m with arrow := x },
  .defaulted "abstract" .bool fun x m => { m with abstract := x }]

def TypeSpec.fields (dialect : Dialect) (nested : Decoder TypeSpec) : List (Field TypeSpec) := [
  .mandatory "name" .text fun x t => { t with name := x },
  .defaulted "kind" (.choice dialect TypeKind.names) fun x t => { t with kind := x },
  .defaulted "modifiers" (.list .text) fun x t => { t with modifiers := x },
  .defaulted "generics" (.list .text) fun x t => { t with generics := x },
  .nullable "parameters" .text fun x t => { t with parameters := x },
  .defaulted "bases" (.list .text) fun x t => { t with bases := x },
  .defaulted "attributes" (.list .text) fun x t => { t with attributes := x },
  .defaulted "constraints" (.list .text) fun x t => { t with constraints := x },
  .nullable "summary" .text fun x t => { t with summary := x },
  .defaulted "members" (.list .text) fun x t => { t with members := x },
  .defaulted "methods" (.list (.record dialect (MethodSpec.fields dialect) {}))
    fun x t => { t with methods := x },
  .defaulted "types" (.list nested) fun x t => { t with types := x }]

def TypeSpec.decoder (dialect : Dialect) : Nat → Decoder TypeSpec
  | 0 => fun _ => .error .mismatch
  | depth + 1 => .record dialect (TypeSpec.fields dialect (TypeSpec.decoder dialect depth)) {}

def Snippet.fields (dialect : Dialect) : List (Field Snippet) := [
  .nullable "raw" .text fun x s => { s with raw := x },
  .nullable "template" .text fun x s => { s with template := x },
  .defaulted "values" .dictionary fun x s => { s with values := x },
  .defaulted "placement" (.choice dialect Placement.names) fun x s => { s with placement := x }]

def Manifest.fields (dialect : Dialect) (depth : Nat) : List (Field Manifest) := [
  .nullable "namespace" .text fun x m => { m with namespaceName := x },
  .nullable "output" .text fun x m => { m with output := x },
  .nullable "templates" .text fun x m => { m with templates := x },
  .defaulted "usings" (.list .text) fun x m => { m with usings := x },
  .defaulted "static-usings" (.list .text) fun x m => { m with staticUsings := x },
  .defaulted "aliases" .dictionary fun x m => { m with aliases := x },
  .defaulted "values" .dictionary fun x m => { m with values := x },
  .defaulted "document" (Config.decoder dialect) fun x m => { m with document := x },
  .defaulted "types" (.list (TypeSpec.decoder dialect depth)) fun x m => { m with types := x },
  .defaulted "snippets" (.list (.record dialect (Snippet.fields dialect) {}))
    fun x m => { m with snippets := x }]

mutual

def Value.depth : Value → Nat
  | .list items => 1 + Value.depthItems items
  | .table entries => 1 + Value.depthEntries entries
  | _ => 0

def Value.depthItems : List Value → Nat
  | [] => 0
  | v :: rest => max v.depth (Value.depthItems rest)

def Value.depthEntries : List (String × Value) → Nat
  | [] => 0
  | (_, v) :: rest => max v.depth (Value.depthEntries rest)

end

/-- Reads a manifest. Types in it cannot nest deeper than the data. -/
def Manifest.decoder (dialect : Dialect) : Decoder Manifest := fun v =>
  Decoder.record dialect (Manifest.fields dialect (v.depth + 1)) {} v

end CodeScribe
