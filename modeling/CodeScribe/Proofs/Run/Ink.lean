import CodeScribe.Proofs.Ink.Flat
import CodeScribe.Proofs.Run.Writer

/-! The visible characters of a run. Under the supplied classifiers a writer shows at every point those
of the texts it has taken by then, and no fault. -/
namespace CodeScribe
open Text (visible)

/-- Whether the step sets a classifier only to one of the supplied. -/
def Step.Supplied : Step → Prop
  | .setClassifier classify | .classified classify _ =>
    classify = Classifier.indentAll ∨ classify = Classifier.preprocessorLines
  | _ => True

/-- The text that a step brings in. -/
def Step.text (lineStart : List Char) : Step → List Char
  | .append text | .appendLine text | .appendRaw text | .appendRawLine text => text.toList
  | .render node _ => node.flat lineStart
  | _ => []

/-- A machine that collects the texts of the steps taken. -/
def Machine.texts (lineStart : List Char) : Machine (List Char) where
  step s texts := texts ++ s.text lineStart
  deepen _ texts := texts
  undeepen _ _ texts := texts
  override _ texts := texts
  restore _ _ texts := texts

/-- What is seen has no fault and the visible characters of the texts taken by then. -/
inductive Observation.Shows : Observation → Glimpse (List Char) → Prop
  | state {w : Writer} {texts : List Char} (aborted : Bool) : visible w.text = visible texts →
    w.fault = none → Shows (.state w aborted) (.state texts aborted)
  | result {text texts : List Char} : visible text = visible texts → Shows (.result (.ok text)) (.result texts)

private theorem Step.visible_ink_plan (lineStart : List Char) (s : Step) :
    visible (s.plan lineStart).ink = visible (s.text lineStart) := by
  cases s with
  | append text => simp [plan, Step.text]
  | appendLine text => simp [plan, Step.text]
  | appendRaw text => simp [plan, Step.text, Stroke.ink]
  | appendRawLine text => simp [plan, Step.text]
  | render node tail => exact node.visible_ink_plan lineStart tail
  | _ => rfl

/-- Blanks go from the end, across both parts of what is written. -/
theorem Writer.ink_trimEnd (w : Writer) : w.trimEnd.ink = w.ink := by
  rw [ink, ink, Text.visible_append, Text.visible_append, line_trimEnd, Text.visible_trimEnd, output_trimEnd]
  split
  · rw [Text.visible_trimEnd]
  · rfl

/-- A writer that has lost nothing of the texts it has taken. -/
structure Writer.Bears (config : Config) (w : Writer) (texts : List Char) : Prop where
  config : w.config = config
  ink : w.ink = visible texts
  fault : w.fault = none
  classify : w.classify = Classifier.indentAll ∨ w.classify = Classifier.preprocessorLines

namespace Writer.Bears
variable {config : Config} {w : Writer} {texts : List Char}

private theorem faithful (h : w.Bears config texts) : w.classify.Faithful :=
  Classifier.of_supplied h.classify Classifier.faithful_indentAll Classifier.faithful_preprocessorLines

private theorem text (h : w.Bears config texts) : visible w.text = visible texts := by
  rw [visible_text h.faithful, h.ink]

private theorem congr (h : w.Bears config texts) {texts' : List Char} (he : visible texts = visible texts') :
    w.Bears config texts' :=
  ⟨h.config, h.ink.trans he, h.fault, h.classify⟩

private theorem follow (h : w.Bears config texts) (p : Plan) :
    (w.follow p).Bears config (texts ++ p.ink) where
  config := by rw [config_follow, h.config]
  ink := by rw [ink_follow p h.faithful, h.ink, Text.visible_append]
  fault := by rw [fault_follow p h.faithful, h.fault]
  classify := by rw [classify_follow]; exact h.classify

private theorem trimEnd (h : w.Bears config texts) : w.trimEnd.Bears config texts where
  config := by rw [config_trimEnd, h.config]
  ink := by rw [ink_trimEnd, h.ink]
  fault := by rw [fault_trimEnd, h.fault]
  classify := by rw [classify_trimEnd]; exact h.classify

end Writer.Bears

/-- No step of a run loses a visible character or fails. -/
theorem Writer.ties_bears (config : Config) :
    Writer.machine.Ties (Machine.texts config.docPrefix.toList) Step.Supplied (Writer.Bears config) where
  step {s w texts} hs hsupplied h := by
    change (s.run w).writer.Bears config (texts ++ s.text config.docPrefix.toList)
    rcases s.writer_run_cases hs w with ⟨rfl, he⟩ | ⟨classify, rfl, he⟩ | he
    · rw [he]
      exact h.trimEnd.congr (by simp [Step.text])
    · rw [he]
      exact ⟨h.config, h.ink.trans (by simp [Step.text]), h.fault, hsupplied⟩
    · rw [he, h.config]
      exact (h.follow _).congr (by simp [s.visible_ink_plan])
  deepen _ h := ⟨h.config, h.ink, h.fault, h.classify⟩
  undeepen _ _ h := ⟨h.config, h.ink, h.fault, h.classify⟩
  override hsupplied h := ⟨h.config, h.ink, h.fault, hsupplied⟩
  restore _ hentered h := ⟨h.config, h.ink, h.fault, hentered.classify⟩

/-- What is seen of a writer that bears the texts taken. -/
theorem Glimpse.Tied.shows {config : Config} {seen : Glimpse Writer} {texts : Glimpse (List Char)}
    (h : Tied (Writer.Bears config) seen texts) : seen.observation.Shows texts := by
  cases h with
  | state aborted hbears => exact .state aborted hbears.text hbears.fault
  | @result w texts hbears =>
    have hfinish : w.finish = .ok w.text := by rw [Writer.finish, hbears.fault]
    rw [observation, hfinish]
    exact .result hbears.text

/-- Under the supplied classifiers, at every point of a run a writer shows the visible characters of the
texts taken by then, in order, and no fault. -/
theorem Step.session_shows (config : Config) {steps : List Step}
    (h : ∀ s ∈ allParts steps, s.Supplied) :
    let run := session steps (Writer.new config)
    let taken := (Machine.texts config.docPrefix.toList).session steps []
    List.Forall₂ Observation.Shows run.2 taken.2 ∧ visible run.1.text = visible taken.1 ∧
      run.1.fault = none := by
  have hnew : (Writer.new config).Bears config [] := ⟨rfl, rfl, rfl, .inl rfl⟩
  obtain ⟨hlast, hseen⟩ := (Writer.ties_bears config).session h hnew
  rw [session_eq]
  refine ⟨?_, hlast.text, hlast.fault⟩
  rw [List.forall₂_map_left_iff]
  exact hseen.imp fun _ _ => Glimpse.Tied.shows

/-- A run that leaves two scopes at once, and trims blanks on both sides of a line that is open. -/
def trimmedRun : List Step := [
  .append "a \n  ",
  .indented 2 [
    .classified Classifier.preprocessorLines [
      .appendLine "#if b", .append "c \t", .trimEnd, .setClassifier Classifier.indentAll, .abort,
      .append "d"],
    .append "e"],
  .appendRaw " \nf\n \t", .append " \r", .trimEnd, .finish]

theorem session_shows_trimmedRun :
    (∀ s ∈ Step.allParts trimmedRun, s.Supplied) ∧
      visible (Step.session trimmedRun (Writer.new {})).1.text = "a#ifbcf".toList ∧
      (Step.session trimmedRun (Writer.new {})).1.fault = none := by
  have hsupplied : ∀ s ∈ Step.allParts trimmedRun, s.Supplied := by
    simp [trimmedRun, Step.allParts, Step.parts, Step.Supplied]
  obtain ⟨-, hlast, hfault⟩ := Step.session_shows {} hsupplied
  have htaken : visible ((Machine.texts "///".toList).session trimmedRun []).1 = "a#ifbcf".toList := by
    decide +kernel
  exact ⟨hsupplied, hlast.trans htaken, hfault⟩

end CodeScribe
