import CodeScribe.Proofs.Plan.Follow
import CodeScribe.Proofs.Run.Machine

/-! What the steps of a run do to a writer. They follow a plan, drop blanks at the end or set the
classifier, and scopes change the depth or the classifier. -/
namespace CodeScribe

namespace Step

/-- The moves that a step makes, under the settings in force. -/
def plan (lineStart : List Char) : Step → Plan
  | .append text => Plan.text text.toList
  | .appendLine text => Plan.line text.toList
  | .appendRaw text => [.raw text.toList]
  | .appendRawLine text => Plan.rawLine text.toList
  | .endLine => [.endLine]
  | .blankLine => Plan.blankLine
  | .render node tail => node.plan lineStart tail
  | _ => []

theorem writer_run_cases {s : Step} (h : s.isScope = false) (w : Writer) :
    (s = .trimEnd ∧ (s.run w).writer = w.trimEnd) ∨
    (∃ classify, s = .setClassifier classify ∧ (s.run w).writer = { w with classify }) ∨
    (s.run w).writer = w.follow (s.plan w.config.docPrefix.toList) := by
  cases s with
  | append text => exact .inr (.inr (Writes.text text.toList w rfl))
  | appendLine text => exact .inr (.inr (Writes.line text.toList w rfl))
  | appendRaw text => exact .inr (.inr rfl)
  | appendRawLine text => exact .inr (.inr (Writes.rawLine text.toList w rfl))
  | endLine => exact .inr (.inr rfl)
  | blankLine => exact .inr (.inr rfl)
  | trimEnd => exact .inl ⟨rfl, rfl⟩
  | setClassifier classify => exact .inr (.inl ⟨classify, rfl, rfl⟩)
  | render node tail => exact .inr (.inr (node.writes_plan tail w rfl))
  | finish => exact .inr (.inr rfl)
  | abort => exact .inr (.inr rfl)
  | indented levels steps => cases h
  | classified classify steps => cases h

end Step

def Machine.still : Machine Unit where
  step _ _ := ()
  deepen _ _ := ()
  undeepen _ _ _ := ()
  override _ _ := ()
  restore _ _ _ := ()

/-- What steps preserve holds of every state of a run. -/
theorem Step.session_invariant {allowed : Step → Prop} {I : Writer → Prop}
    (h : Writer.machine.Ties Machine.still allowed fun w _ => I w) {steps : List Step}
    (hs : ∀ s ∈ allParts steps, allowed s) {w : Writer} (hw : I w) :
    I (session steps w).1 ∧
      ∀ v aborted, Observation.state v aborted ∈ (session steps w).2 → I v := by
  obtain ⟨hlast, hseen⟩ := h.session hs (b := ()) hw
  have hstates : List.Forall₂ (fun glimpse _ =>
      (∀ v aborted, glimpse.observation = .state v aborted → I v) ∧ True)
      (Writer.machine.session steps w).2 (Machine.still.session steps ()).2 := by
    refine hseen.imp fun glimpse _ htied => ⟨?_, trivial⟩
    rintro v aborted hshown
    cases htied with
    | state _ hr =>
      cases hshown
      exact hr
    | result hr => cases hshown
  have hall := ((List.forall₂_and_left _ _).mp hstates).1
  rw [session_eq]
  refine ⟨hlast, fun v aborted hv => ?_⟩
  obtain ⟨glimpse, hmem, hshown⟩ := List.mem_map.mp hv
  exact hall glimpse hmem v aborted hshown

end CodeScribe
