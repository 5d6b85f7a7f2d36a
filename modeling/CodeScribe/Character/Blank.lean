import CodeScribe.Character.Run

/-! Whitespace: characters with the Unicode property White_Space. -/
namespace CodeScribe.Character

/-- Blank characters from U+0080 on. The zero width space and the byte order mark are not blank. -/
def blankRuns : List Run := [
  ⟨0x85, 0x85, 1⟩, ⟨0xa0, 0xa0, 1⟩, ⟨0x1680, 0x1680, 1⟩, ⟨0x2000, 0x200a, 1⟩, ⟨0x2028, 0x2029, 1⟩,
  ⟨0x202f, 0x202f, 1⟩, ⟨0x205f, 0x205f, 1⟩, ⟨0x3000, 0x3000, 1⟩]

def isBlank (c : Char) : Bool :=
  if c.val < 0x80 then c = ' ' || (0x09 ≤ c.val && c.val ≤ 0x0d) else Run.member blankRuns c

end CodeScribe.Character
