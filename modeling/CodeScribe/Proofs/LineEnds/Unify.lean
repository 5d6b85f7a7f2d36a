import CodeScribe.Document
import CodeScribe.Proofs.Text

/-! Unifying line ends, one character at a time, its inverse, and the finished form of a text. -/
namespace CodeScribe
open Text (visible)

/-- A carriage return becomes a line feed, unless the line feed already follows. -/
theorem unifyLineEnds_cons (c : Char) (cs : List Char) :
    unifyLineEnds (c :: cs) =
      (if c = '\r' then (if cs.head? = some '\n' then [] else ['\n']) else [c])
        ++ unifyLineEnds cs := by
  by_cases hc : c = '\r'
  · subst hc
    cases cs with
    | nil => simp [unifyLineEnds]
    | cons d cs =>
      by_cases hd : d = '\n'
      · subst hd
        simp [unifyLineEnds]
      · simp [unifyLineEnds, hd]
  · simp [unifyLineEnds, hc]

/-- Texts are unified one by one unless a line end straddles them. -/
theorem unifyLineEnds_append {xs ys : List Char}
    (h : Text.endsIn '\r' xs = true → ys.head? ≠ some '\n') :
    unifyLineEnds (xs ++ ys) = unifyLineEnds xs ++ unifyLineEnds ys := by
  induction xs with
  | nil => rfl
  | cons c xs ih =>
    cases xs with
    | nil =>
      by_cases hc : c = '\r'
      · subst hc
        have hys : ys.head? ≠ some '\n' := h rfl
        simp [unifyLineEnds_cons, hys, unifyLineEnds]
      · simp [unifyLineEnds_cons, hc, unifyLineEnds]
    | cons d xs =>
      have hrest : Text.endsIn '\r' (d :: xs) = true → ys.head? ≠ some '\n' := by
        intro hd
        apply h
        rwa [← List.singleton_append, Text.endsIn_append (by simp)]
      rw [List.cons_append, unifyLineEnds_cons, ih hrest, unifyLineEnds_cons c (d :: xs),
        List.append_assoc]
      rfl

theorem return_not_mem_unifyLineEnds (cs : List Char) : '\r' ∉ unifyLineEnds cs := by
  fun_induction unifyLineEnds cs with
  | case1 => simp
  | case2 rest ih => simpa using ih
  | case3 rest _ ih => simpa using ih
  | case4 c rest _ hc ih =>
    rw [List.mem_cons]
    rintro (h | h)
    · exact hc h.symm
    · exact ih h

/-- Replacing line feeds by a terminator is undone by unifying. -/
theorem unifyLineEnds_terminateWith (newline : Newline) {cs : List Char} (h : '\r' ∉ cs) :
    unifyLineEnds (terminateWith newline cs) = cs := by
  induction cs with
  | nil => rfl
  | cons c cs ih =>
    have hc : c ≠ '\r' := by rintro rfl; simp at h
    have hcs : unifyLineEnds (terminateWith newline cs) = cs :=
      ih fun hm => h (List.mem_cons_of_mem c hm)
    have hone : unifyLineEnds (if c = '\n' then newline.text else [c]) = [c] := by
      by_cases hn : c = '\n'
      · subst hn
        cases newline <;> rfl
      · simp [hn, unifyLineEnds_cons, hc, unifyLineEnds]
    have hend : Text.endsIn '\r' (if c = '\n' then newline.text else [c]) ≠ true := by
      by_cases hn : c = '\n'
      · subst hn
        cases newline <;> simp [Newline.text, Text.endsIn]
      · simpa [hn, Text.endsIn] using hc
    calc unifyLineEnds (terminateWith newline (c :: cs))
        = unifyLineEnds ((if c = '\n' then newline.text else [c]) ++ terminateWith newline cs) := rfl
      _ = [c] ++ cs := by
        rw [unifyLineEnds_append fun he => absurd he hend, hone, hcs]

theorem terminateWith_append (newline : Newline) (xs ys : List Char) :
    terminateWith newline (xs ++ ys) = terminateWith newline xs ++ terminateWith newline ys :=
  List.flatMap_append

theorem terminateWith_feed (newline : Newline) (cs : List Char) :
    terminateWith newline ('\n' :: cs) = newline.text ++ terminateWith newline cs := rfl

theorem terminateWith_cons_of_ne (newline : Newline) {c : Char} (h : c ≠ '\n') (cs : List Char) :
    terminateWith newline (c :: cs) = c :: terminateWith newline cs := by
  simp [terminateWith, h]

theorem terminateWith_of_not_mem (newline : Newline) {cs : List Char} (h : '\n' ∉ cs) :
    terminateWith newline cs = cs := by
  induction cs with
  | nil => rfl
  | cons c cs ih =>
    rw [List.mem_cons, not_or] at h
    rw [terminateWith_cons_of_ne newline (Ne.symm h.1), ih h.2]

theorem terminateWith_eq_nil_iff (newline : Newline) (cs : List Char) :
    terminateWith newline cs = [] ↔ cs = [] := by
  cases cs with
  | nil => simp [terminateWith]
  | cons c cs =>
    by_cases hc : c = '\n'
    · rw [hc, terminateWith_feed]
      cases newline <;> simp [Newline.text]
    · simp [terminateWith_cons_of_ne newline hc]

theorem terminateWith_lf (cs : List Char) : terminateWith .lf cs = cs := by
  have hone (c : Char) : (if c = '\n' then Newline.lf.text else [c]) = [c] := by
    split
    · next h => rw [h]; rfl
    · rfl
  simp only [terminateWith, hone, List.flatMap_singleton']

theorem unifyLineEnds_of_not_mem {cs : List Char} (h : '\r' ∉ cs) : unifyLineEnds cs = cs := by
  have hlf := unifyLineEnds_terminateWith .lf h
  rwa [terminateWith_lf] at hlf

theorem visible_unifyLineEnds (cs : List Char) : visible (unifyLineEnds cs) = visible cs := by
  fun_induction unifyLineEnds cs with
  | case1 => rfl
  | case2 rest ih => exact ih
  | case3 rest _ ih => exact ih
  | case4 c rest _ _ ih => rw [Text.visible_cons, ih, ← Text.visible_cons]

theorem visible_terminateWith (newline : Newline) (cs : List Char) :
    visible (terminateWith newline cs) = visible cs := by
  induction cs with
  | nil => rfl
  | cons c cs ih =>
    have hone : visible (if c = '\n' then newline.text else [c]) = visible [c] := by
      split
      · next h => subst h; cases newline <;> rfl
      · rfl
    rw [Text.visible_cons c cs, ← hone, ← ih, ← Text.visible_append]
    rfl

/-- A body with the line end asked for. Blank text stays empty. -/
def finished (config : Config) (body : List Char) : List Char :=
  if body.isEmpty then [] else if config.trailingNewline then body ++ ['\n'] else body

theorem normalize_eq (config : Config) (cs : List Char) :
    normalize config cs =
      terminateWith config.newline (finished config (Text.trimEnd (unifyLineEnds cs))) := by
  unfold normalize finished
  dsimp only
  by_cases h : (Text.trimEnd (unifyLineEnds cs)).isEmpty
  · simp [h, terminateWith]
  · simp [h]

theorem finished_injective (config : Config) : Function.Injective (finished config) := by
  intro xs ys h
  cases ht : config.trailingNewline <;> cases xs <;> cases ys <;> simp_all [finished]

theorem return_not_mem_finished (config : Config) {body : List Char} (h : '\r' ∉ body) :
    '\r' ∉ finished config body := by
  unfold finished
  split
  · simp
  · split
    · simpa using h
    · exact h

end CodeScribe
