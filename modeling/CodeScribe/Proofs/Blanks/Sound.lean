import CodeScribe.Proofs.LineEnds.Lines

/-! Texts by their rows: the complete ones, and the stub behind the last line feed. A sound text shows
something on every row. -/
namespace CodeScribe.Text

/-- The complete rows of a text. -/
def ended (cs : List Char) : List (List Char) := (pieces '\n' cs).dropLast

/-- What stands behind the last line feed. -/
def stub (cs : List Char) : List Char := (pieces '\n' cs).getLastD []

section
variable {xs ys : List Char}

theorem pieces_eq_ended (cs : List Char) : pieces '\n' cs = ended cs ++ [stub cs] := by
  have hne : pieces '\n' cs ≠ [] := by
    rw [pieces_eq_splitOn]
    exact List.splitOn_ne_nil '\n' cs
  rw [ended, stub, List.getLastD_eq_getLast?, List.getLast?_eq_some_getLast hne, Option.getD_some,
    List.dropLast_append_getLast hne]

private theorem ended_of_pieces {cs stretch : List Char} {rows : List (List Char)}
    (h : pieces '\n' cs = rows ++ [stretch]) : ended cs = rows ∧ stub cs = stretch := by
  rw [pieces_eq_ended] at h
  obtain ⟨hrows, hstub⟩ := List.append_inj' h rfl
  exact ⟨hrows, List.singleton_inj.mp hstub⟩

theorem ended_feed (xs ys : List Char) :
    ended (xs ++ '\n' :: ys) = ended xs ++ stub xs :: ended ys ∧ stub (xs ++ '\n' :: ys) = stub ys := by
  apply ended_of_pieces
  rw [pieces_append_cons, pieces_eq_ended, pieces_eq_ended ys]
  simp

/-- A line feed at the end completes the stub. -/
theorem ended_concat (cs : List Char) :
    ended (cs ++ ['\n']) = ended cs ++ [stub cs] ∧ stub (cs ++ ['\n']) = [] := ended_feed cs []

theorem pieces_cons_of_ne {c d : Char} {cs piece : List Char} {more : List (List Char)} (hd : d ≠ c)
    (h : pieces c cs = piece :: more) : pieces c (d :: cs) = (d :: piece) :: more := by
  rw [pieces, if_neg hd, h]

/-- Text without a line feed goes to the stub. -/
theorem ended_append (xs : List Char) (h : '\n' ∉ ys) :
    ended (xs ++ ys) = ended xs ∧ stub (xs ++ ys) = stub xs ++ ys := by
  apply ended_of_pieces
  induction xs with
  | nil => exact pieces_of_not_mem h
  | cons d xs ih =>
    -- a line feed starts a row; any other character goes to the first one, which may be the stub
    by_cases hd : d = '\n'
    · obtain ⟨hrows, hstub⟩ := ended_feed [] xs
      rw [List.nil_append] at hrows hstub
      rw [hd, hrows, hstub, List.cons_append, pieces, if_pos rfl, ih]
      rfl
    · rw [List.cons_append]
      cases he : ended xs with
      | nil =>
        have hxs : pieces '\n' xs = stub xs :: [] := by rw [pieces_eq_ended, he, List.nil_append]
        have hcons : pieces '\n' (d :: xs) = [] ++ [d :: stub xs] := pieces_cons_of_ne hd hxs
        obtain ⟨hrows, hstub⟩ := ended_of_pieces hcons
        rw [he] at ih
        rw [hrows, hstub, pieces_cons_of_ne hd ih]
        rfl
      | cons row rows =>
        have hxs : pieces '\n' xs = row :: (rows ++ [stub xs]) := by
          rw [pieces_eq_ended, he, List.cons_append]
        have hcons : pieces '\n' (d :: xs) = ((d :: row) :: rows) ++ [stub xs] := pieces_cons_of_ne hd hxs
        obtain ⟨hrows, hstub⟩ := ended_of_pieces hcons
        rw [he] at ih
        rw [hrows, hstub, pieces_cons_of_ne hd ih]
        rfl

end

/-- A text that shows something on every line. Its last line may be ended or not. -/
def sound (cs : List Char) : Bool :=
  !cs.isEmpty && !cs.contains '\r' && (lines cs).all (!allBlank ·)

section
variable {cs row rest : List Char}

theorem sound_iff : sound cs = true ↔
    cs ≠ [] ∧ '\r' ∉ cs ∧ ∀ line ∈ lines cs, visible line ≠ [] := by
  simp [sound, ← allBlank_iff, and_assoc]

private theorem lines_of_not_mem (hne : row ≠ []) (hfeed : '\n' ∉ row) (hreturn : '\r' ∉ row) :
    lines row = [row] := by
  simp [lines, unifyLineEnds_of_not_mem hreturn, pieces_of_not_mem hfeed, hne]

private theorem lines_feed (hfeed : '\n' ∉ row) (hreturn : '\r' ∉ row ++ '\n' :: rest) :
    lines (row ++ '\n' :: rest) = row :: lines rest := by
  have hrest : '\r' ∉ rest := fun hm => hreturn (by simp [hm])
  obtain ⟨piece, more, hp, -⟩ := prefix_head_pieces (c := '\n') (by simp) rest.nil_prefix
  rw [lines, lines, unifyLineEnds_of_not_mem hreturn, unifyLineEnds_of_not_mem hrest,
    pieces_append_cons, pieces_of_not_mem hfeed, hp]
  simp only [List.singleton_append, List.getLast?_cons_cons, List.dropLast_cons_cons]
  split <;> rfl

/-- A sound text is one visible row, or a visible row in front of nothing or of a sound text. -/
theorem sound_cases (h : sound cs = true) :
    ∃ row, '\n' ∉ row ∧ '\r' ∉ row ∧ visible row ≠ [] ∧
      (cs = row ∨ ∃ rest, cs = row ++ '\n' :: rest ∧ (rest = [] ∨ sound rest = true)) := by
  obtain ⟨hne, hreturn, hseen⟩ := sound_iff.mp h
  by_cases hmem : '\n' ∈ cs
  · obtain ⟨row, rest, rfl, hfeed⟩ := List.eq_append_cons_of_mem hmem
    rw [lines_feed hfeed hreturn] at hseen
    refine ⟨row, hfeed, fun hm => hreturn (by simp [hm]), hseen row List.mem_cons_self,
      .inr ⟨rest, rfl, ?_⟩⟩
    by_cases hr : rest = []
    · exact .inl hr
    · exact .inr (sound_iff.mpr ⟨hr, fun hm => hreturn (by simp [hm]),
        fun line hl => hseen line (List.mem_cons_of_mem row hl)⟩)
  · rw [lines_of_not_mem hne hmem hreturn] at hseen
    exact ⟨cs, hmem, hreturn, hseen cs List.mem_cons_self, .inl rfl⟩

private theorem sound_row (hfeed : '\n' ∉ row) (hreturn : '\r' ∉ row) (hseen : visible row ≠ []) :
    sound row = true := by
  have hne : row ≠ [] := by
    rintro rfl
    exact hseen rfl
  refine sound_iff.mpr ⟨hne, hreturn, ?_⟩
  simpa [lines_of_not_mem hne hfeed hreturn] using hseen

private theorem sound_feed (hfeed : '\n' ∉ row) (hreturn : '\r' ∉ row) (hseen : visible row ≠ [])
    (hrest : rest = [] ∨ sound rest = true) : sound (row ++ '\n' :: rest) = true := by
  have hclean : '\r' ∉ rest ∧ ∀ line ∈ lines rest, visible line ≠ [] := by
    rcases hrest with rfl | hrest
    · simp [lines, pieces, unifyLineEnds]
    · exact (sound_iff.mp hrest).2
  have hall : '\r' ∉ row ++ '\n' :: rest := by simp [hreturn, hclean.1]
  refine sound_iff.mpr ⟨by simp, hall, ?_⟩
  rw [lines_feed hfeed hall]
  intro line hl
  rcases List.mem_cons.mp hl with rfl | hl
  · exact hseen
  · exact hclean.2 line hl

theorem sound_space (h : sound cs = true) : sound (' ' :: cs) = true := by
  obtain ⟨row, hfeed, hreturn, hseen, rfl | ⟨rest, rfl, hrest⟩⟩ := sound_cases h
  · exact sound_row (by simp [hfeed]) (by simp [hreturn]) hseen
  · rw [← List.cons_append]
    exact sound_feed (by simp [hfeed]) (by simp [hreturn]) hseen hrest

/-- Sound texts, row by row. -/
@[elab_as_elim]
theorem sound_induction {motive : List Char → Prop} {cs : List Char} (h : sound cs = true)
    (single : ∀ row, '\n' ∉ row → '\r' ∉ row → visible row ≠ [] → motive row)
    (more : ∀ row rest, '\n' ∉ row → '\r' ∉ row → visible row ≠ [] →
      (rest = [] ∨ (sound rest = true ∧ motive rest)) → motive (row ++ '\n' :: rest)) : motive cs := by
  induction hn : cs.length using Nat.strongRecOn generalizing cs with
  | ind n ih =>
    obtain ⟨row, hfeed, hreturn, hseen, rfl | ⟨rest, rfl, hrest⟩⟩ := sound_cases h
    · exact single _ hfeed hreturn hseen
    · refine more row rest hfeed hreturn hseen (hrest.imp_right fun hsound => ⟨hsound, ?_⟩)
      have hlen : rest.length < n := by
        rw [← hn, List.length_append, List.length_cons]
        omega
      exact ih _ hlen hsound rfl

theorem sound_append {xs ys : List Char} (hx : sound xs = true) (hy : sound ys = true) :
    sound (xs ++ ys) = true := by
  refine sound_induction hx (fun row hfeed hreturn hseen => ?_) fun row rest hfeed hreturn hseen hrest => ?_
  · obtain ⟨next, hfeed', hreturn', hseen', rfl | ⟨rest, rfl, hrest⟩⟩ := sound_cases hy
    · exact sound_row (by simp [hfeed, hfeed']) (by simp [hreturn, hreturn']) (by simp [hseen])
    · rw [← List.append_assoc]
      exact sound_feed (by simp [hfeed, hfeed']) (by simp [hreturn, hreturn']) (by simp [hseen]) hrest
  · rw [List.append_assoc, List.cons_append]
    apply sound_feed hfeed hreturn hseen
    rcases hrest with rfl | ⟨-, hrest⟩
    · exact .inr hy
    · exact .inr hrest

/-- The stretches of a sound text are sound, apart from an empty one behind its last line feed. -/
theorem sound_of_mem_pieces {piece : List Char} (h : sound cs = true) (hp : piece ∈ pieces '\n' cs) :
    piece = [] ∨ sound piece = true := by
  revert hp
  refine sound_induction h (fun row hfeed hreturn hseen hp => ?_)
    fun row rest hfeed hreturn hseen hrest hp => ?_
  · rw [pieces_of_not_mem hfeed, List.mem_singleton] at hp
    exact .inr (hp ▸ sound_row hfeed hreturn hseen)
  · rw [pieces_append_cons, pieces_of_not_mem hfeed, List.singleton_append, List.mem_cons] at hp
    rcases hp with rfl | hp
    · exact .inr (sound_row hfeed hreturn hseen)
    · rcases hrest with rfl | ⟨-, hrest⟩
      · exact .inl (by simpa [pieces] using hp)
      · exact hrest hp

/-- Without the line feed at its end, a sound text is sound. -/
theorem sound_of_feed {body : List Char} (h : sound (body ++ ['\n']) = true) :
    sound body = true ∧ endsIn '\n' body = false := by
  obtain ⟨-, hreturn, hseen⟩ := sound_iff.mp h
  have hclean : '\r' ∉ body := fun hm => hreturn (by simp [hm])
  rw [lines_append_newline hclean] at hseen
  have hne : body ≠ [] := by
    rintro rfl
    exact hseen [] (by simp [pieces]) rfl
  have hend : endsIn '\n' body = false := by
    rw [Bool.eq_false_iff]
    intro hend
    obtain ⟨front, rfl⟩ := endsIn_iff.mp hend
    exact hseen [] (by simp [pieces_append_cons, pieces]) rfl
  exact ⟨sound_iff.mpr ⟨hne, hclean, by rwa [lines_of_unended hne hclean hend]⟩, hend⟩

end

end CodeScribe.Text
