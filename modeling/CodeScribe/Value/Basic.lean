/-! Data as configuration files hold it. -/
namespace CodeScribe

inductive Value where
  | null
  | bool (b : Bool)
  | integer (n : Int)
  /-- A number that is read as no integer. Its size never matters. -/
  | fraction
  | text (s : String)
  | list (items : List Value)
  /-- Entries in the order of the file. A key may occur twice. -/
  | table (entries : List (String × Value))
  deriving Repr

end CodeScribe
