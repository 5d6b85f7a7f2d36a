/-! Tables of characters, written as runs of code points. -/
namespace CodeScribe.Character

/-- The code points `first`, `first + stride`, … up to `last`. -/
structure Run where
  first : Nat
  last : Nat
  stride : Nat

def Run.contains (r : Run) (n : Nat) : Bool :=
  r.first ≤ n && n ≤ r.last && (n - r.first) % r.stride == 0

def Run.member (table : List Run) (c : Char) : Bool :=
  table.any (·.contains c.toNat)

end CodeScribe.Character
