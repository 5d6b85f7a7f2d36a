import CodeScribe.Proofs.Run.Recorder
import CodeScribe.Proofs.Run.Writer
import CodeScribe.Proofs.Scope.Balanced
import Mathlib.Algebra.GroupWithZero.Nat

/-! The open scopes of a run. At every point they determine the depth and the classifier of the writer, and
leaving a scope, by an abort or not, changes nothing else. -/
namespace CodeScribe

/-- The open scopes, the innermost first. A classifier is set in the innermost scope that has one of
its own, or else for the whole run. -/
inductive Scopes where
  | none (classify : Classifier)
  | indented (levels : Nat) (outer : Scopes)
  | classified (classify : Classifier) (outer : Scopes)

namespace Scopes

def levels : Scopes → List Nat
  | .none _ => []
  | .indented levels outer => levels :: outer.levels
  | .classified _ outer => outer.levels

def classify : Scopes → Classifier
  | .none classify => classify
  | .indented _ outer => outer.classify
  | .classified classify _ => classify

def setClassifier (classify : Classifier) : Scopes → Scopes
  | .none _ => .none classify
  | .indented levels outer => .indented levels (outer.setClassifier classify)
  | .classified _ outer => .classified classify outer

/-- The scopes after a step that opens and closes none. -/
def after (step : Step) (s : Scopes) : Scopes :=
  match step with
  | .setClassifier classify => s.setClassifier classify
  | _ => s

/-- The scopes that stay open when the innermost one is left. -/
def outer : Scopes → Scopes
  | .none classify => .none classify
  | .indented _ outer => outer
  | .classified _ outer => outer

@[simp] theorem levels_setClassifier (classify : Classifier) (s : Scopes) :
    (s.setClassifier classify).levels = s.levels := by
  induction s with
  | none => rfl
  | indented levels outer ih => exact congrArg (levels :: ·) ih
  | classified => rfl

@[simp] theorem classify_setClassifier (classify : Classifier) (s : Scopes) :
    (s.setClassifier classify).classify = classify := by
  induction s with
  | none => rfl
  | indented levels outer ih => exact ih
  | classified => rfl

@[simp] theorem setClassifier_setClassifier (first second : Classifier) (s : Scopes) :
    (s.setClassifier first).setClassifier second = s.setClassifier second := by
  induction s with
  | none => rfl
  | indented levels outer ih => exact congrArg (Scopes.indented levels) ih
  | classified => rfl

@[simp] theorem levels_after (step : Step) (s : Scopes) : (s.after step).levels = s.levels := by
  cases step with
  | setClassifier classify => exact s.levels_setClassifier classify
  | _ => rfl

/-- The same scopes, but for a classifier that may have been set in them. -/
def Same (s t : Scopes) : Prop := t = s ∨ ∃ classify, t = s.setClassifier classify

private theorem same_after (step : Step) (s : Scopes) : s.Same (s.after step) := by
  cases step with
  | setClassifier classify => exact .inr ⟨classify, rfl⟩
  | _ => exact .inl rfl

private theorem Same.trans {s t u : Scopes} (h : s.Same t) (h' : t.Same u) : s.Same u := by
  rcases h with rfl | ⟨first, rfl⟩
  · exact h'
  · rcases h' with rfl | ⟨second, rfl⟩
    · exact .inr ⟨first, rfl⟩
    · exact .inr ⟨second, setClassifier_setClassifier first second s⟩

private theorem Same.of_indented {levels : Nat} {s t : Scopes} (h : (Scopes.indented levels s).Same t) :
    ∃ u, t = .indented levels u ∧ s.Same u := by
  rcases h with rfl | ⟨classify, rfl⟩
  · exact ⟨s, rfl, .inl rfl⟩
  · exact ⟨s.setClassifier classify, rfl, .inr ⟨classify, rfl⟩⟩

/-- A classifier that is set inside a classifier scope goes with it. -/
private theorem Same.of_classified {classify : Classifier} {s t : Scopes}
    (h : (Scopes.classified classify s).Same t) : ∃ last, t = .classified last s := by
  rcases h with rfl | ⟨last, rfl⟩
  · exact ⟨classify, rfl⟩
  · exact ⟨last, rfl⟩

end Scopes

/-- What a writer has written, in scopes that are open. -/
structure Scoped where
  config : Config
  output : List Char
  line : List Char
  fault : Option LineFault
  scopes : Scopes

/-- What the writer has written, in the given scopes. -/
def Writer.within (w : Writer) (scopes : Scopes) : Scoped := ⟨w.config, w.output, w.line, w.fault, scopes⟩

/-- The writer in these scopes: its depth is the sum of their levels, its classifier that of the innermost
scope that has one. -/
def Scoped.writer (a : Scoped) : Writer where
  config := a.config
  output := a.output
  line := a.line
  fault := a.fault
  depth := a.scopes.levels.sum
  classify := a.scopes.classify

private theorem Writer.writer_within {w : Writer} {scopes : Scopes} (hdepth : w.depth = scopes.levels.sum)
    (hclassify : w.classify = scopes.classify) : (w.within scopes).writer = w := by
  cases w
  simp only at hdepth hclassify
  subst hdepth hclassify
  rfl

/-- The machine that keeps a list of the open scopes. It leaves one by taking it off the list. -/
def Machine.inScopes : Machine Scoped where
  step s a := (s.run a.writer).writer.within (a.scopes.after s)
  deepen levels a := { a with scopes := .indented levels a.scopes }
  undeepen _ _ a := { a with scopes := a.scopes.outer }
  override classify a := { a with scopes := .classified classify a.scopes }
  restore _ _ a := { a with scopes := a.scopes.outer }

namespace Step
variable {s : Step} (w : Writer)

private theorem balanced_plan (lineStart : List Char) (s : Step) : Balanced (s.plan lineStart) := by
  cases s with
  | append text => exact .text _
  | appendLine text => exact .line _
  | appendRaw text => exact .of_flat (by simp [plan])
  | appendRawLine text => exact .planRaw text true false
  | endLine => exact .of_flat (by simp [plan])
  | blankLine => exact .blankLine
  | render node tail => exact node.balanced_plan lineStart tail
  | _ => exact .nil

private theorem depth_run (hs : s.isScope = false) : (s.run w).writer.depth = w.depth := by
  rcases s.writer_run_cases hs w with ⟨-, he⟩ | ⟨classify, -, he⟩ | he
  · rw [he, w.depth_trimEnd]
  · rw [he]
  · rw [he, (s.balanced_plan _).depth_follow]

private theorem classify_run {scopes : Scopes} (hs : s.isScope = false) (hw : w.classify = scopes.classify) :
    (s.run w).writer.classify = (scopes.after s).classify := by
  by_cases hset : ∃ classify, s = .setClassifier classify
  · obtain ⟨classify, rfl⟩ := hset
    exact (scopes.classify_setClassifier classify).symm
  have hafter : scopes.after s = scopes := by
    cases s with
    | setClassifier classify => exact absurd ⟨classify, rfl⟩ hset
    | _ => rfl
  rw [hafter, ← hw]
  rcases s.writer_run_cases hs w with ⟨-, he⟩ | ⟨classify, he, -⟩ | he
  · rw [he, w.classify_trimEnd]
  · exact absurd ⟨classify, he⟩ hset
  · rw [he, Writer.classify_follow]

end Step

private theorem Machine.spans_inScopes : Machine.inScopes.Spans fun a b => a.scopes.Same b.scopes where
  refl _ := .inl rfl
  trans h h' := h.trans h'
  step {s} a _ := a.scopes.same_after s
  indented {a b} levels h := by
    obtain ⟨u, hu, hsame⟩ := Scopes.Same.of_indented h
    change a.scopes.Same b.scopes.outer
    rw [hu]
    exact hsame
  classified {a b} classify h := by
    obtain ⟨last, hlast⟩ := Scopes.Same.of_classified h
    change a.scopes.Same b.scopes.outer
    rw [hlast]
    exact .inl rfl

/-- The writer of the open scopes is the one that runs on its own. -/
theorem Writer.ties_inScopes : Writer.machine.TiesWithin Machine.inScopes (fun _ => True)
    (fun a b => a.scopes.Same b.scopes) fun w a => a.writer = w ∧ True where
  spans := Machine.spans_inScopes
  step {s w a} hs _ h := by
    obtain ⟨rfl, -⟩ := h
    refine ⟨Writer.writer_within ?_ (s.classify_run a.writer hs rfl), trivial⟩
    rw [s.depth_run a.writer hs, Scopes.levels_after]
    rfl
  deepen {w a} levels h := by
    obtain ⟨rfl, -⟩ := h
    simp [Machine.inScopes, Scoped.writer, Writer.machine, Writer.deepen, Scopes.levels, Scopes.classify,
      Nat.add_comm]
  undeepen {w w' a a'} levels hspan _ h := by
    obtain ⟨rfl, -⟩ := h
    obtain ⟨u, hu, -⟩ := Scopes.Same.of_indented hspan
    simp [Machine.inScopes, Scoped.writer, Writer.machine, Writer.undeepen, hu, Scopes.levels,
      Scopes.classify, Scopes.outer]
  override {classify steps w a} _ h := by
    obtain ⟨rfl, -⟩ := h
    exact ⟨rfl, trivial⟩
  restore {w w' a a'} classify hspan hentered h := by
    obtain ⟨rfl, -⟩ := hentered
    obtain ⟨rfl, -⟩ := h
    obtain ⟨last, hlast⟩ := Scopes.Same.of_classified hspan
    simp [Machine.inScopes, Scoped.writer, Writer.machine, hlast, Scopes.levels, Scopes.classify,
      Scopes.outer]

/-- What stands behind a step is where it was entered, as far as the depth goes. -/
private theorem Writer.spans_depth : Writer.machine.Spans fun w v => v.depth = w.depth where
  refl _ := rfl
  trans h h' := h'.trans h
  step w hs := Step.depth_run w (Step.isScope_of_isPlain hs)
  indented {w v} levels h := by
    change v.depth - levels = w.depth
    rw [h]
    exact Nat.add_sub_cancel w.depth levels
  classified _ h := h

/-- No scope that a node opens is closed below the depth at which it is rendered. -/
theorem Node.leave_depth (node : Node) (tail : Bool) (w : Writer) {before after : Plan}
    (h : node.plan w.config.docPrefix.toList tail = before ++ .leave :: after) :
    1 ≤ (w.follow before).depth := by
  obtain ⟨outside, inside, rfl, hinside⟩ := (node.balanced_plan _ tail).entered h
  rw [Writer.follow_append, Writer.follow_cons, hinside.depth_follow]
  exact Nat.le_add_left 1 _

namespace Step

private theorem depth_runAll (steps : List Step) (w : Writer) : (runAll steps w).writer.depth = w.depth := by
  rw [runAll_eq]
  exact Writer.spans_depth.run_runAll.2 steps w

private theorem runAll_append (front back : List Step) (w : Writer) :
    runAll (front ++ back) w = (runAll front w).andThen (runAll back) := by
  induction front generalizing w with
  | nil => rfl
  | cons step front ih =>
    have hfront : runAll (front ++ back) = fun v => (runAll front v).andThen (runAll back) := funext ih
    rw [List.cons_append, runAll, hfront, runAll]
    cases h : (step.run w).aborted
    · cases h' : (runAll front (step.run w).writer).aborted <;> simp [Stretch.andThen, h, h']
    · simp [Stretch.andThen, h]

mutual

/-- Whether the step is left early. -/
def aborts : Step → Bool
  | .abort => true
  | .indented _ steps => abortsIn steps
  | .classified _ steps => abortsIn steps
  | _ => false

def abortsIn : List Step → Bool
  | [] => false
  | step :: rest => step.aborts || abortsIn rest

end

mutual

/-- What is done of a step, up to the point at which it is left early. -/
def done : Step → List Step
  | .abort => []
  | .indented levels steps => [.indented levels (allDone steps)]
  | .classified classify steps => [.classified classify (allDone steps)]
  | step => [step]

def allDone : List Step → List Step
  | [] => []
  | step :: rest => if step.aborts then step.done else step.done ++ allDone rest

end

/-- Steps that come to the writer of a stretch, and are not left early. -/
def EndAs (steps : List Step) (w : Writer) (t : Stretch) : Prop :=
  (runAll steps w).writer = t.writer ∧ (runAll steps w).aborted = false

private theorem ends_done_allDone :
    (∀ (s : Step) (w : Writer), EndAs s.done w (s.run w) ∧ (s.run w).aborted = s.aborts) ∧
    ∀ (steps : List Step) (w : Writer),
      EndAs (allDone steps) w (runAll steps w) ∧ (runAll steps w).aborted = abortsIn steps := by
  apply induction_scopes
  case plain =>
    intro s hs w
    cases s with
    | finish => cases hs
    | abort => cases hs
    | indented levels steps => cases hs
    | classified classify steps => cases hs
    | _ => exact ⟨⟨rfl, rfl⟩, rfl⟩
  case finish => exact fun w => ⟨⟨rfl, rfl⟩, rfl⟩
  case abort => exact fun w => ⟨⟨rfl, rfl⟩, rfl⟩
  case indented =>
    intro levels steps ih w
    obtain ⟨⟨hwriter, hdone⟩, haborted⟩ := ih (w.deepen levels)
    refine ⟨⟨?_, ?_⟩, haborted⟩
    · simp [done, runAll, run, Stretch.andThen, Stretch.scope, hwriter, hdone]
    · simp [done, runAll, run, Stretch.andThen, Stretch.scope, hdone]
  case classified =>
    intro classify steps ih w
    obtain ⟨⟨hwriter, hdone⟩, haborted⟩ := ih { w with classify }
    refine ⟨⟨?_, ?_⟩, haborted⟩
    · simp [done, runAll, run, Stretch.andThen, Stretch.scope, hwriter, hdone]
    · simp [done, runAll, run, Stretch.andThen, Stretch.scope, hdone]
  case nil => exact fun w => ⟨⟨rfl, rfl⟩, rfl⟩
  case cons =>
    intro step rest hstep hrest w
    obtain ⟨⟨hwriter, hdone⟩, haborted⟩ := hstep w
    rw [allDone, abortsIn, runAll, Stretch.andThen, haborted]
    cases hab : step.aborts with
    | true => exact ⟨⟨hwriter, hdone⟩, by rw [if_pos rfl, haborted, hab, Bool.true_or]⟩
    | false =>
      obtain ⟨⟨hwriter', hdone'⟩, haborted'⟩ := hrest (step.run w).writer
      simp only [Bool.false_eq_true, if_false, EndAs, runAll_append, Stretch.andThen, hdone, hwriter]
      exact ⟨⟨hwriter', hdone'⟩, haborted'⟩

private theorem indented_run (levels : Nat) (steps : List Step) (w : Writer) :
    let inner := (runAll steps (w.deepen levels)).writer
    levels ≤ inner.depth ∧ ((indented levels steps).run w).writer = { inner with depth := w.depth } := by
  have hdepth : (runAll steps (w.deepen levels)).writer.depth = w.depth + levels := depth_runAll steps _
  refine ⟨by rw [hdepth]; exact Nat.le_add_left levels w.depth, ?_⟩
  change (runAll steps (w.deepen levels)).writer.undeepen levels = _
  rw [Writer.undeepen, hdepth, Nat.add_sub_cancel]

/-- Scopes always restore the writer. At every point of a run its depth is the sum of the levels of the open
scopes, and its classifier that of the innermost one with a classifier. Leaving a scope puts the depth or the
classifier back to what it was on entry and keeps all else, also where the steps inside are left early, which
is as if they ended there. Nodes leave depth and classifier as they were. -/
theorem session_scoped (config : Config) (steps : List Step) :
    let tracked := Machine.inScopes.session steps ((Writer.new config).within (.none Classifier.indentAll))
    (session steps (Writer.new config) =
        (tracked.1.writer, tracked.2.map fun g => (g.map Scoped.writer).observation) ∧
      ∃ classify, tracked.1.scopes = .none classify) ∧
    (∀ levels body w,
      let inner := (runAll body (w.deepen levels)).writer
      levels ≤ inner.depth ∧ ((indented levels body).run w).writer = { inner with depth := w.depth }) ∧
    (∀ classify body w,
      let inner := (runAll body { w with classify }).writer
      inner.depth = w.depth ∧
        ((classified classify body).run w).writer = { inner with classify := w.classify }) ∧
    (∀ body w, EndAs (allDone body) w (runAll body w) ∧ (runAll body w).aborted = abortsIn body) ∧
    ∀ (node : Node) tail w,
      (node.render tail w).depth = w.depth ∧ (node.render tail w).classify = w.classify ∧
      node.render tail w = w.follow (node.plan w.config.docPrefix.toList tail) ∧
      ∀ before after, node.plan w.config.docPrefix.toList tail = before ++ .leave :: after →
        1 ≤ (w.follow before).depth := by
  refine ⟨⟨?_, ?_⟩, indented_run, fun classify body w => ⟨depth_runAll body _, rfl⟩, ends_done_allDone.2,
    fun node tail w => ?_⟩
  · have hrun := session_of_ties Writer.ties_inScopes steps trivial
      (a := (Writer.new config).within (.none Classifier.indentAll))
    exact hrun.1
  · have hsame := Machine.spans_inScopes.session steps
      ((Writer.new config).within (.none Classifier.indentAll))
    rcases hsame with hscopes | ⟨classify, hscopes⟩
    · exact ⟨_, hscopes⟩
    · exact ⟨classify, hscopes⟩
  · have hrender := node.writes_plan tail w rfl
    refine ⟨?_, ?_, hrender, fun _ _ => node.leave_depth tail w⟩
    · rw [hrender, (node.balanced_plan _ tail).depth_follow]
    · rw [hrender, Writer.classify_follow]

end Step

end CodeScribe
