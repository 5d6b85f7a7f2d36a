import CodeScribe.Value.Record

/-! JSON as a format of records. -/
namespace CodeScribe.Json

/-- A record written as a list has no surplus items; a choice written as a table holds null. -/
def dialect : Dialect where
  surplusItems := false
  isUnit
    | .null => true
    | _ => false

end CodeScribe.Json
