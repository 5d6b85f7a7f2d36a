import CodeScribe.Proofs.LineEnds.Lines

/-! Texts moved to the right: the same text is put in front of every line, and empty lines stay empty. -/
namespace CodeScribe.Text

/-- A line in front of another one. A carriage return at its end belongs to the line end. -/
def shiftLine (start line : List Char) : List Char :=
  if (chop '\r' line).isEmpty then line else start ++ line

/-- What stands behind the last line feed. -/
def shiftLast (start line : List Char) : List Char := if line.isEmpty then [] else start ++ line

def shiftLines (start : List Char) : List (List Char) → List (List Char)
  | [] => []
  | [line] => [shiftLast start line]
  | line :: next :: rest => shiftLine start line :: shiftLines start (next :: rest)

/-- A text with `start` in front of every line that is not empty. -/
def shift (start cs : List Char) : List Char := join ['\n'] (shiftLines start (pieces '\n' cs))

section
variable (start : List Char)

theorem shift_of_not_mem {cs : List Char} (h : '\n' ∉ cs) : shift start cs = shiftLast start cs := by
  rw [shift, pieces_of_not_mem h, shiftLines, join_singleton]

private theorem shift_line {line : List Char} (h : '\n' ∉ line) (rest : List Char) :
    shift start (line ++ '\n' :: rest) = shiftLine start line ++ '\n' :: shift start rest := by
  obtain ⟨piece, more, hp⟩ := List.exists_cons_of_ne_nil (List.splitOn_ne_nil '\n' rest)
  rw [← pieces_eq_splitOn] at hp
  have hne : shiftLines start (piece :: more) ≠ [] := by
    cases more <;> simp [shiftLines]
  rw [shift, pieces_append_cons, pieces_of_not_mem h, shift, hp, List.singleton_append, shiftLines,
    join_cons hne, List.append_assoc]
  rfl

/-- Behind a complete line, a text is moved on its own. -/
theorem shift_append {xs : List Char} (hx : xs = [] ∨ endsIn '\n' xs = true) (ys : List Char) :
    shift start (xs ++ ys) = shift start xs ++ shift start ys := by
  induction hn : xs.length using Nat.strongRecOn generalizing xs with
  | ind n ih =>
    rcases hx with rfl | hend
    · rfl
    · obtain ⟨front, hfront⟩ := endsIn_iff.mp hend
      -- induction on the lines of `xs`, of which there is one
      have hmem : '\n' ∈ xs := by simp [hfront]
      obtain ⟨line, rest, rfl, hline⟩ := List.eq_append_cons_of_mem hmem
      have hrest : rest = [] ∨ endsIn '\n' rest = true := by
        by_cases hr : rest = []
        · exact .inl hr
        · right
          rwa [List.append_cons, endsIn_append hr] at hend
      have hlen : rest.length < n := by
        rw [← hn, List.length_append, List.length_cons]
        omega
      rw [List.append_assoc, List.cons_append, shift_line start hline, ih _ hlen hrest rfl,
        shift_line start hline, List.append_assoc, List.cons_append]

/-- A complete line that shows something is moved, under either terminator. -/
theorem shift_terminated {line : List Char} (h : '\n' ∉ line) (newline : Newline)
    (hseen : line = [] ∨ visible line ≠ []) :
    shift start (line ++ newline.text) = shiftLast start line ++ newline.text := by
  have hrest : shift start [] = [] := shift_of_not_mem start (by simp)
  rcases hseen with rfl | hseen
  · cases newline with
    | lf => rfl
    | crlf =>
      have hreturn : '\n' ∉ ['\r'] := by simp
      exact (shift_line start hreturn []).trans (by rw [hrest]; rfl)
  · have hline : line ≠ [] := by
      rintro rfl
      exact hseen rfl
    have hchop (front : List Char) (hf : visible front ≠ []) :
        shiftLine start front = start ++ front := by
      have hne : chop '\r' front ≠ [] := by
        intro hnil
        rw [← visible_chop (c := '\r') rfl, hnil] at hf
        exact hf rfl
      rw [shiftLine, if_neg (by simpa using hne)]
    rw [shiftLast, if_neg (by simpa using hline)]
    cases newline with
    | lf => rw [Newline.text, shift_line start h, hrest, hchop line hseen]
    | crlf =>
      have hfeed : '\n' ∉ line ++ ['\r'] := by simp [h]
      have hmore : visible (line ++ ['\r']) ≠ [] := by simp [hseen]
      have hsplit : line ++ Newline.crlf.text = (line ++ ['\r']) ++ '\n' :: [] := by
        simp [Newline.text]
      rw [hsplit, shift_line start hfeed, hrest, hchop _ hmore]
      simp [Newline.text]

end

end CodeScribe.Text
