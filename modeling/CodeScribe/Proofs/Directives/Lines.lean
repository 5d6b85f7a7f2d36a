import CodeScribe.Proofs.LineEnds.Finished
import CodeScribe.Proofs.LineEnds.Lines

/-! Preprocessor directives among the lines of a text. Trimming the end of a text leaves the same lines,
whether its directives are moved to column zero before or afterwards. -/
namespace CodeScribe
namespace Text
open Character (isBlank)

/-- Whether a hash sign is the first character that is seen. -/
def isDirective (line : List Char) : Bool := (trimStart line).head? == some '#'

/-- The line, at column zero if it is a directive. -/
def flushLeft (line : List Char) : List Char := if isDirective line then trimStart line else line

theorem isDirective_append {xs : List Char} (h : allBlank xs = true) (ys : List Char) :
    isDirective (xs ++ ys) = isDirective ys := by
  rw [isDirective, trimStart_append h, isDirective]

theorem isDirective_trimEnd (cs : List Char) : isDirective (trimEnd cs) = isDirective cs := by
  rw [isDirective, trimStart_trimEnd, isDirective]
  cases hstart : trimStart cs with
  | nil => rfl
  | cons c rest =>
    have hseen := List.head?_dropWhile_not isBlank cs
    rw [show cs.dropWhile isBlank = c :: rest from hstart] at hseen
    have hc : isBlank c = false := hseen
    rw [trimEnd_cons_of_seen hc]
    rfl

theorem flushLeft_trimEnd (cs : List Char) : flushLeft (trimEnd cs) = trimEnd (flushLeft cs) := by
  rw [flushLeft, flushLeft, isDirective_trimEnd, trimStart_trimEnd, apply_ite trimEnd]

theorem visible_flushLeft (line : List Char) : visible (flushLeft line) = visible line := by
  rw [flushLeft]
  split
  · exact visible_trimStart line
  · rfl

theorem flushLeft_subset (line : List Char) : flushLeft line ⊆ line := by
  rw [flushLeft]
  split
  · exact (List.dropWhile_sublist isBlank).subset
  · exact List.Subset.refl line

/-- A line before and after directives are moved to column zero. -/
structure MovedLeft (before after : List Char) : Prop where
  kept : isDirective before = false → after = before
  moved : isDirective before = true → after.head? = some '#' ∧ after = trimStart before

theorem movedLeft_flushLeft (line : List Char) : MovedLeft line (flushLeft line) where
  kept h := by rw [flushLeft, if_neg (by simp [h])]
  moved h := by
    rw [flushLeft, if_pos h]
    exact ⟨beq_iff_eq.mp h, rfl⟩

theorem head?_flushLeft {line : List Char} (h : isDirective (flushLeft line) = true) :
    (flushLeft line).head? = some '#' := by
  cases hline : isDirective line with
  | true => exact ((movedLeft_flushLeft line).moved hline).1
  | false =>
    rw [(movedLeft_flushLeft line).kept hline, hline] at h
    cases h

/-- The lines that are left when the end of a text is trimmed. -/
def trimLines : List (List Char) → List (List Char)
  | [] => []
  | line :: rest =>
    if rest.all allBlank then (if allBlank line then [] else [trimEnd line]) else line :: trimLines rest

private theorem trimLines_eq_nil_iff (lines : List (List Char)) :
    trimLines lines = [] ↔ lines.all allBlank = true := by
  cases lines with
  | nil => simp [trimLines]
  | cons line rest =>
    rw [trimLines, List.all_cons]
    cases hrest : rest.all allBlank <;> cases hline : allBlank line <;> simp

private theorem mem_trimLines {lines : List (List Char)} {line : List Char} (h : line ∈ trimLines lines) :
    ∃ full ∈ lines, line <+: full := by
  fun_induction trimLines lines with
  | case1 => simp at h
  | case2 => simp at h
  | case3 full rest =>
    rw [List.mem_singleton] at h
    exact ⟨full, List.mem_cons_self, h ▸ trimEnd_isPrefix full⟩
  | case4 full rest _ ih =>
    rcases List.mem_cons.mp h with rfl | h
    · exact ⟨line, List.mem_cons_self, List.prefix_refl line⟩
    · obtain ⟨found, hmem, hpre⟩ := ih h
      exact ⟨found, List.mem_cons_of_mem full hmem, hpre⟩

theorem trimLines_map_flushLeft (lines : List (List Char)) :
    trimLines (lines.map flushLeft) = (trimLines lines).map flushLeft := by
  have hblank (line : List Char) : allBlank (flushLeft line) = allBlank line :=
    allBlank_congr (visible_flushLeft line)
  have hall (rest : List (List Char)) : (rest.map flushLeft).all allBlank = rest.all allBlank := by
    rw [List.all_map]
    exact congrArg rest.all (funext hblank)
  fun_induction trimLines lines with
  | case1 => rfl
  | case2 line rest hrest hline => rw [List.map_cons, trimLines, hall, if_pos hrest, hblank, if_pos hline]; rfl
  | case3 line rest hrest hline =>
    rw [List.map_cons, trimLines, hall, if_pos hrest, hblank, if_neg hline, ← flushLeft_trimEnd]
    rfl
  | case4 line rest hrest ih =>
    rw [List.map_cons, trimLines, hall, if_neg hrest, ih]
    rfl

private theorem allBlank_join (lines : List (List Char)) :
    allBlank (join ['\n'] lines) = lines.all allBlank := by
  induction lines with
  | nil => rfl
  | cons line rest ih =>
    cases rest with
    | nil => simp [join_singleton]
    | cons next rest =>
      have hfeed : isBlank '\n' = true := rfl
      rw [List.all_cons, ← ih, join_cons (List.cons_ne_nil next rest)]
      simp [allBlank, hfeed]

private theorem trimEnd_join (lines : List (List Char)) :
    trimEnd (join ['\n'] lines) = join ['\n'] (trimLines lines) := by
  induction lines with
  | nil => rfl
  | cons line rest ih =>
    have hlast : trimEnd line = join ['\n'] (if allBlank line then [] else [trimEnd line]) := by
      split
      · next hblank => exact trimEnd_of_allBlank hblank
      · rw [join_singleton]
    cases rest with
    | nil => rw [join_singleton, hlast]; rfl
    | cons next more =>
      have hblank : allBlank (['\n'] ++ join ['\n'] (next :: more)) = (next :: more).all allBlank := by
        rw [← allBlank_join]
        rfl
      rw [trimLines]
      generalize hrest : next :: more = rest at ih hblank
      have hjoin : join ['\n'] (line :: rest) = line ++ (['\n'] ++ join ['\n'] rest) := by
        rw [← hrest, join_cons (List.cons_ne_nil next more), List.append_assoc]
      rw [hjoin, trimEnd_append, hblank]
      split
      · exact hlast
      · next hseen =>
        have hkept : trimLines rest ≠ [] := mt (trimLines_eq_nil_iff rest).mp hseen
        rw [trimEnd_append, if_neg (by rwa [allBlank_join]), ih, join_cons hkept, List.append_assoc]

end Text
open Text (join trimLines)

/-- Rows without carriage returns, once their ends are unified. -/
theorem unifyLineEnds_rows (newline : Newline) {rows : List (List Char)} {last : List Char}
    (hrows : ∀ row ∈ rows, '\r' ∉ row) (hlast : '\r' ∉ last) :
    unifyLineEnds (rows.flatMap (· ++ newline.text) ++ last) = join ['\n'] (rows ++ [last]) := by
  induction rows with
  | nil => simp [join, unifyLineEnds_of_not_mem hlast]
  | cons row rest ih =>
    rw [List.forall_mem_cons] at hrows
    have hsettled : settled newline row = row := by
      cases newline with
      | lf => exact Text.chop_of_not_mem hrows.1
      | crlf => rfl
    have hne : rest ++ [last] ≠ [] := by simp
    rw [List.flatMap_cons, List.append_assoc, unifyLineEnds_line, hsettled,
      unifyLineEnds_of_not_mem hrows.1, ih hrows.2, List.cons_append, Text.join_cons hne,
      List.append_assoc]
    rfl

/-- The lines of a finished text: its rows, trimmed at the end. -/
theorem lines_normalize_rows (config : Config) {written : List Char} {rows : List (List Char)}
    (hunified : unifyLineEnds written = join ['\n'] rows) (hfeed : ∀ row ∈ rows, '\n' ∉ row) :
    Text.lines (normalize config written) = trimLines rows := by
  have hbody : Text.trimEnd (unifyLineEnds written) = join ['\n'] (trimLines rows) := by
    rw [hunified, Text.trimEnd_join]
  by_cases hnil : trimLines rows = []
  · rw [hnil] at hbody
    have hempty : normalize config written = [] := by
      rw [normalize_eq, hbody]
      rfl
    rw [hempty, hnil]
    rfl
  · have hfeed' : ∀ line ∈ trimLines rows, '\n' ∉ line := by
      intro line hm
      obtain ⟨row, hrow, hpre⟩ := Text.mem_trimLines hm
      exact fun hc => hfeed row hrow (hpre.subset hc)
    have hne : Text.trimEnd (unifyLineEnds written) ≠ [] := by
      intro hblank
      have hvisible := Text.visible_trimEnd (unifyLineEnds written)
      rw [hblank, hunified] at hvisible
      have hall := Text.allBlank_iff.mpr hvisible.symm
      rw [Text.allBlank_join] at hall
      exact hnil ((Text.trimLines_eq_nil_iff rows).mpr hall)
    rw [lines_normalize_of_seen config hne, hbody, Text.pieces_join_of_not_mem hnil hfeed']

end CodeScribe
