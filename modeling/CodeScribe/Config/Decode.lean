import CodeScribe.Config
import CodeScribe.Value.Record

/-! Settings read from data. Every key is optional. -/
namespace CodeScribe

def Newline.names : List (String × Newline) := [("lf", .lf), ("crlf", .crlf)]

def Qualify.names : List (String × Qualify) :=
  [("unchanged", .unchanged), ("always", .always), ("never", .never)]

def NamespaceStyle.names : List (String × NamespaceStyle) :=
  [("block", .block), ("file-scoped", .fileScoped)]

/-- A count of spaces that fits one byte, or the word for a tab in any case of its letters. -/
def Indent.decoder : Decoder Indent
  | .integer n => if 0 ≤ n ∧ n ≤ 255 then .ok (.spaces n.toNat) else .error .mismatch
  | .text name =>
    if Text.sameIgnoringAsciiCase name "tab" then .ok .tab else .error (.unknownIndent name)
  | _ => .error .mismatch

def Config.fields (dialect : Dialect) : List (Field Config) := [
  .defaulted "indent" Indent.decoder fun x c => { c with indent := x },
  .defaulted "newline" (.choice dialect Newline.names) fun x c => { c with newline := x },
  .defaulted "trailing-newline" .bool fun x c => { c with trailingNewline := x },
  .defaulted "qualify" (.choice dialect Qualify.names) fun x c => { c with qualify := x },
  .defaulted "namespace-style" (.choice dialect NamespaceStyle.names)
    fun x c => { c with namespaceStyle := x },
  .defaulted "pragma" (.optional .text) fun x c => { c with pragma := x },
  .defaulted "doc-prefix" .text fun x c => { c with docPrefix := x },
  .defaulted "flush-directives" .bool fun x c => { c with flushDirectives := x }]

def Config.decoder (dialect : Dialect) : Decoder Config :=
  .record dialect (Config.fields dialect) {}

end CodeScribe
