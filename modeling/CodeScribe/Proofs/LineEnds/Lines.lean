import CodeScribe.Proofs.LineEnds.Unify

/-! The lines of a text, and what becomes of written lines when their ends are unified and the end of
the text is trimmed. -/
namespace CodeScribe
namespace Text
open Character (isBlank)

/-- A text that does not end in a separator has something behind its last one. -/
private theorem getLast?_pieces_ne {c : Char} {cs : List Char} (hne : cs ≠ []) (h : endsIn c cs = false) :
    (pieces c cs).getLast? ≠ some [] := by
  induction cs with
  | nil => exact absurd rfl hne
  | cons d cs ih =>
    obtain ⟨piece, more, hp, -⟩ := prefix_head_pieces (c := c) (by simp) cs.nil_prefix
    cases cs with
    | nil =>
      have hd : d ≠ c := by simpa [endsIn] using h
      simp [pieces, hd]
    | cons e cs =>
      have hrest := ih (by simp) (by rwa [← List.singleton_append, endsIn_append (by simp)] at h)
      by_cases hd : d = c
      · rw [pieces, if_pos hd, hp, List.getLast?_cons_cons, ← hp]
        exact hrest
      · rw [pieces, if_neg hd, hp]
        rw [hp] at hrest
        cases more with
        | nil => simp
        | cons next more => simpa [List.getLast?_cons_cons] using hrest

/-- The lines of a text at any kind of line end. What is empty behind the last one is no line. -/
def lines (cs : List Char) : List (List Char) :=
  let stretches := pieces '\n' (unifyLineEnds cs)
  if stretches.getLast? = some [] then stretches.dropLast else stretches

/-- A finished text has the lines of its body, whatever terminator separates them. -/
theorem lines_terminateWith (newline : Newline) {cs : List Char} (h : '\r' ∉ cs) :
    lines (terminateWith newline cs) = lines cs := by
  rw [lines, lines, unifyLineEnds_terminateWith newline h, unifyLineEnds_of_not_mem h]

theorem lines_append_newline {cs : List Char} (h : '\r' ∉ cs) :
    lines (cs ++ ['\n']) = pieces '\n' cs := by
  have hu : unifyLineEnds (cs ++ ['\n']) = cs ++ ['\n'] :=
    unifyLineEnds_of_not_mem (by simp [h])
  have hp : pieces '\n' (cs ++ ['\n']) = pieces '\n' cs ++ [[]] := pieces_append_cons '\n' cs []
  simp [lines, hu, hp]

theorem lines_of_unended {cs : List Char} (hne : cs ≠ []) (h : '\r' ∉ cs)
    (hend : endsIn '\n' cs = false) : lines cs = pieces '\n' cs := by
  simp [lines, unifyLineEnds_of_not_mem h, getLast?_pieces_ne hne hend]

end Text
open Character (isBlank)

section
variable {cs : List Char}

private theorem unifyLineEnds_eq_map (h : '\n' ∉ cs) :
    unifyLineEnds cs = cs.map fun c => if c = '\r' then '\n' else c := by
  induction cs with
  | nil => rfl
  | cons c cs ih =>
    have hhead : cs.head? ≠ some '\n' := fun hc =>
      h (List.mem_cons_of_mem c (List.mem_of_mem_head? hc))
    rw [unifyLineEnds_cons, if_neg hhead, ih fun hm => h (List.mem_cons_of_mem c hm)]
    split <;> simp_all

/-- Without line feeds, what unifying separates is what the carriage returns separated. -/
private theorem pieces_unifyLineEnds (h : '\n' ∉ cs) :
    Text.pieces '\n' (unifyLineEnds cs) = Text.pieces '\r' cs := by
  rw [unifyLineEnds_eq_map h]
  induction cs with
  | nil => rfl
  | cons c cs ih =>
    have hc : c ≠ '\n' := by rintro rfl; simp at h
    rw [List.map_cons, Text.pieces, Text.pieces, ih fun hm => h (List.mem_cons_of_mem c hm)]
    by_cases hr : c = '\r' <;> simp [hr, hc]

private theorem trimEnd_unifyLineEnds (h : '\n' ∉ cs) :
    Text.trimEnd (unifyLineEnds cs) = unifyLineEnds (Text.trimEnd cs) := by
  have hblank (c : Char) : isBlank (if c = '\r' then '\n' else c) = isBlank c := by
    split
    · next hc => rw [hc]; rfl
    · rfl
  have htrim : '\n' ∉ Text.trimEnd cs := fun hm => h ((Text.trimEnd_isPrefix cs).subset hm)
  rw [unifyLineEnds_eq_map h, unifyLineEnds_eq_map htrim]
  simp only [Text.trimEnd, ← List.map_reverse, List.dropWhile_map, Function.comp_def, hblank]

end

/-- A written line as its end is unified: a carriage return merges with the shorter terminator. -/
def settled : Newline → List Char → List Char
  | .lf, line => Text.chop '\r' line
  | .crlf, line => line

private theorem settled_isPrefix (newline : Newline) (line : List Char) : settled newline line <+: line := by
  cases newline with
  | lf => exact Text.chop_isPrefix '\r' line
  | crlf => exact List.prefix_refl line

private theorem trimEnd_settled (newline : Newline) (line : List Char) :
    Text.trimEnd (settled newline line) = Text.trimEnd line := by
  cases newline with
  | crlf => rfl
  | lf =>
    rw [settled]
    rcases Text.chop_cases '\r' line with ⟨_, h⟩ | h
    · rw [h]
    · conv_rhs => rw [h, Text.trimEnd_append, if_pos (by rfl)]

theorem unifyLineEnds_line (newline : Newline) (line rest : List Char) :
    unifyLineEnds (line ++ newline.text ++ rest) =
      unifyLineEnds (settled newline line) ++ '\n' :: unifyLineEnds rest := by
  cases newline with
  | crlf =>
    rw [List.append_assoc, unifyLineEnds_append (by simp [Newline.text])]
    rfl
  | lf =>
    rw [settled, List.append_assoc]
    rcases Text.chop_cases '\r' line with ⟨hend, h⟩ | h
    · rw [h, unifyLineEnds_append fun he => absurd he (by simp [hend])]
      simp [Newline.text, unifyLineEnds_cons]
    · conv_lhs => rw [h, List.append_assoc]
      rw [unifyLineEnds_append (by simp)]
      simp [Newline.text, unifyLineEnds]

/-- Lines as they are left in a finished text: their ends are settled, and the last is trimmed. -/
def kept (newline : Newline) : List (List Char) → List (List Char)
  | [] => []
  | [line] => [Text.trimEnd line]
  | line :: next :: rest => settled newline line :: kept newline (next :: rest)

/-- Written lines, unified and trimmed, are the kept lines with line feeds between them. -/
private theorem trimEnd_unifyLineEnds_lines (newline : Newline) {texts : List (List Char)}
    (hseen : ∀ line ∈ texts, '\n' ∉ line ∧ Text.visible line ≠ []) :
    Text.trimEnd (unifyLineEnds (texts.flatMap (· ++ newline.text))) =
      Text.join ['\n'] ((kept newline texts).map unifyLineEnds) := by
  fun_induction kept newline texts with
  | case1 => rfl
  | case2 line =>
    have hfeed : '\n' ∉ settled newline line := fun hm =>
      (hseen line List.mem_cons_self).1 ((settled_isPrefix newline line).subset hm)
    have hend := unifyLineEnds_line newline line []
    rw [List.append_nil] at hend
    rw [List.flatMap_singleton, hend, Text.trimEnd_append, if_pos (by rfl),
      trimEnd_unifyLineEnds hfeed, trimEnd_settled, List.map_singleton, Text.join_singleton]
  | case3 line next rest ih =>
    have hrest := ih fun l hl => hseen l (List.mem_cons_of_mem line hl)
    have hvisible : ¬ Text.allBlank
        (unifyLineEnds ((next :: rest).flatMap (· ++ newline.text))) = true := by
      have hnext := (hseen next (by simp)).2
      rw [Text.allBlank_iff, visible_unifyLineEnds]
      simp [hnext]
    have hne : (kept newline (next :: rest)).map unifyLineEnds ≠ [] := by
      cases rest <;> simp [kept]
    rw [List.flatMap_cons, unifyLineEnds_line, List.append_cons, Text.trimEnd_append,
      if_neg hvisible, hrest, List.map_cons, Text.join_cons hne]

theorem mem_kept {newline : Newline} {texts : List (List Char)} {line : List Char}
    (h : line ∈ kept newline texts) : ∃ full ∈ texts, line <+: full := by
  fun_induction kept newline texts with
  | case1 => simp at h
  | case2 full =>
    rw [List.mem_singleton] at h
    exact ⟨full, List.mem_cons_self, h ▸ Text.trimEnd_isPrefix full⟩
  | case3 full next rest ih =>
    rcases List.mem_cons.mp h with rfl | h
    · exact ⟨full, List.mem_cons_self, settled_isPrefix newline full⟩
    · obtain ⟨found, hmem, hpre⟩ := ih h
      exact ⟨found, List.mem_cons_of_mem full hmem, hpre⟩

private theorem kept_ne_nil (newline : Newline) {texts : List (List Char)} (h : texts ≠ []) :
    kept newline texts ≠ [] := by
  fun_cases kept newline texts with
  | case1 => exact absurd rfl h
  | case2 => simp
  | case3 => simp

/-- A finished text that is not empty has the lines of its unified and trimmed body. -/
theorem lines_normalize_of_seen (config : Config) {written : List Char}
    (hne : Text.trimEnd (unifyLineEnds written) ≠ []) :
    Text.lines (normalize config written) =
      Text.pieces '\n' (Text.trimEnd (unifyLineEnds written)) := by
  have hret : '\r' ∉ Text.trimEnd (unifyLineEnds written) := fun hm =>
    return_not_mem_unifyLineEnds written ((Text.trimEnd_isPrefix _).subset hm)
  have hend : Text.endsIn '\n' (Text.trimEnd (unifyLineEnds written)) = false := by
    rw [Bool.eq_false_iff]
    intro h
    exact absurd (Text.isBlank_of_endsIn_trimEnd h) (by decide)
  rw [normalize_eq, Text.lines_terminateWith _ (return_not_mem_finished config hret), finished,
    if_neg (by simpa using hne)]
  split
  · exact Text.lines_append_newline hret
  · exact Text.lines_of_unended hne hret hend

/-- Written lines in a finished text: the kept ones, cut once more at the carriage returns in them. -/
theorem lines_normalize (config : Config) {texts : List (List Char)}
    (hseen : ∀ line ∈ texts, '\n' ∉ line ∧ Text.visible line ≠ []) :
    Text.lines (normalize config (texts.flatMap (· ++ config.newline.text))) =
      (kept config.newline texts).flatMap (Text.pieces '\r') := by
  cases htexts : texts with
  | nil => rfl
  | cons line rest =>
    rw [← htexts]
    have hbody := trimEnd_unifyLineEnds_lines config.newline hseen
    generalize hwritten : texts.flatMap (· ++ config.newline.text) = written at hbody ⊢
    have hne : Text.trimEnd (unifyLineEnds written) ≠ [] := by
      intro hnil
      have hvisible := Text.visible_trimEnd (unifyLineEnds written)
      have hfirst := (hseen line (by simp [htexts])).2
      rw [hnil, visible_unifyLineEnds, ← hwritten, htexts] at hvisible
      simp [hfirst] at hvisible
    have hkept : (kept config.newline texts).map unifyLineEnds ≠ [] := by
      simpa using kept_ne_nil config.newline (by simp [htexts])
    rw [lines_normalize_of_seen config hne, hbody, Text.pieces_join '\n' hkept, List.flatMap_map]
    apply List.flatMap_congr
    intro text hm
    obtain ⟨full, hfull, hpre⟩ := mem_kept hm
    exact pieces_unifyLineEnds fun hfeed => (hseen full hfull).1 (hpre.subset hfeed)

end CodeScribe
