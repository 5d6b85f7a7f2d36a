import CodeScribe.Writer.Classifier
import CodeScribe.Proofs.Text

/-! What the supplied classifiers select: a line as it stands, or without the blanks in front. So they
accept every line with a range that fits it, keep one that starts without blanks, and hide none. -/
namespace CodeScribe
open Text (visible)

namespace Classifier

/-- A classifier that accepts every line and drops nothing but blanks from it. -/
def Faithful (classify : Classifier) : Prop :=
  ∀ line, ∃ text, (classify line).content? line = some text ∧ visible text = visible line

theorem content?_indentAll (line : List Char) : (indentAll line).content? line = some line :=
  Text.slice?_suffix [] line

theorem content?_preprocessorLines (line : List Char) :
    (preprocessorLines line).content? line =
      some (if (Text.trimStart line).head? = some '#' then Text.trimStart line else line) := by
  by_cases h : (Text.trimStart line).head? = some '#'
  · have hline := List.takeWhile_append_dropWhile (p := Character.isBlank) (l := line)
    have hlen := Text.byteLength_append (line.takeWhile Character.isBlank)
      (line.dropWhile Character.isBlank)
    have hslice := Text.slice?_suffix (line.takeWhile Character.isBlank)
      (line.dropWhile Character.isBlank)
    rw [hline] at hlen hslice
    have hstart : Text.byteLength line - Text.byteLength (Text.trimStart line)
        = Text.byteLength (line.takeWhile Character.isBlank) := by
      simp only [Text.trimStart]
      omega
    simp only [preprocessorLines, if_pos h, LineClass.content?, hstart]
    exact hslice
  · simpa only [preprocessorLines, if_neg h] using content?_indentAll line

theorem faithful_indentAll : Faithful indentAll :=
  fun line => ⟨line, content?_indentAll line, rfl⟩

theorem faithful_preprocessorLines : Faithful preprocessorLines := by
  intro line
  refine ⟨_, content?_preprocessorLines line, ?_⟩
  split
  · exact Text.visible_trimStart line
  · rfl

/-- A classifier that leaves lines without blanks in front as they are, apart from indenting them. -/
def Keeps (classify : Classifier) : Prop :=
  ∀ line, Text.trimStart line = line → (classify line).content? line = some line

theorem keeps_indentAll : Keeps indentAll := fun line _ => content?_indentAll line

theorem keeps_preprocessorLines : Keeps preprocessorLines := by
  intro line hline
  rw [content?_preprocessorLines, hline, ite_self]

/-- A classifier that never hides a whole line. -/
def Shows (classify : Classifier) : Prop :=
  ∀ line, line ≠ [] → (classify line).content? line ≠ some []

theorem shows_indentAll : Shows indentAll := by
  intro line hline
  rw [content?_indentAll]
  simpa using hline

theorem shows_preprocessorLines : Shows preprocessorLines := by
  intro line hline
  rw [content?_preprocessorLines]
  split
  · next h =>
    intro hnone
    rw [Option.some.inj hnone] at h
    simp at h
  · simpa using hline

/-- What holds of the supplied classifiers. -/
theorem of_supplied {P : Classifier → Prop} {classify : Classifier}
    (h : classify = indentAll ∨ classify = preprocessorLines) (hindent : P indentAll)
    (hflush : P preprocessorLines) : P classify := by
  rcases h with rfl | rfl
  · exact hindent
  · exact hflush

theorem shows_of_supplied {classify : Classifier} (h : classify = indentAll ∨ classify = preprocessorLines) :
    classify.Shows :=
  of_supplied h shows_indentAll shows_preprocessorLines

end Classifier

/-- A range of a line: its ends in order, inside the line, and between characters. -/
structure LineClass.Fits (verdict : LineClass) (line : List Char) : Prop where
  ordered : verdict.start ≤ verdict.stop
  inside : verdict.stop ≤ Text.byteLength line
  start : Text.IsBorder verdict.start line
  stop : Text.IsBorder verdict.stop line

theorem LineClass.isSome_content?_iff {verdict : LineClass} {line : List Char} :
    (verdict.content? line).isSome = true ↔ verdict.Fits line := by
  rw [Option.isSome_iff_exists]
  constructor
  · rintro ⟨content, h⟩
    obtain ⟨before, after, rfl, hstart, hstop⟩ := Text.slice?_eq_some_iff.mp h
    rw [Text.byteLength_append] at hstop
    exact {
      ordered := by omega
      inside := by rw [Text.byteLength_append, Text.byteLength_append]; omega
      start := ⟨before, content ++ after, by rw [List.append_assoc], hstart⟩
      stop := ⟨before ++ content, after, rfl, by rw [Text.byteLength_append, hstop]⟩ }
  · intro h
    obtain ⟨before, behind, hbefore, hstart⟩ := h.start
    obtain ⟨head, after, hhead, hstop⟩ := h.stop
    have hle : Text.byteLength before ≤ Text.byteLength head := by
      rw [← hstart, ← hstop]
      exact h.ordered
    obtain ⟨content, rfl⟩ :=
      Text.isPrefix_of_byteLength_le ⟨behind, hbefore.symm⟩ ⟨after, hhead.symm⟩ hle
    exact ⟨content, Text.slice?_eq_some_iff.mpr ⟨before, after, hhead, hstart, hstop⟩⟩

theorem Classifier.Faithful.fits {classify : Classifier} (h : classify.Faithful) (line : List Char) :
    (classify line).Fits line := by
  obtain ⟨text, hcontent, -⟩ := h line
  exact LineClass.isSome_content?_iff.mp (by rw [hcontent]; rfl)

end CodeScribe
