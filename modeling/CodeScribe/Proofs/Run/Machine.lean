import CodeScribe.Writer.Step
import Mathlib.Data.List.Forall2

/-! Runs over states of any kind. The runs of a writer are those of one machine. Machines whose steps
preserve a relation show related states, so that a fact about steps becomes one about runs. -/
namespace CodeScribe

namespace Step

mutual

/-- The step and those inside it. -/
def parts : Step → List Step
  | .indented levels steps => .indented levels steps :: allParts steps
  | .classified classify steps => .classified classify steps :: allParts steps
  | step => [step]

def allParts : List Step → List Step
  | [] => []
  | step :: rest => step.parts ++ allParts rest

end

private theorem mem_parts (s : Step) : s ∈ s.parts := by
  cases s <;> exact List.mem_cons_self

def isScope : Step → Bool
  | .indented .. | .classified .. => true
  | _ => false

/-- Whether the step does nothing but act on the writer. -/
def isPlain : Step → Bool
  | .finish | .abort | .indented .. | .classified .. => false
  | _ => true

theorem isScope_of_isPlain {s : Step} (h : s.isPlain = true) : s.isScope = false := by
  cases s with
  | indented levels steps => cases h
  | classified classify steps => cases h
  | _ => rfl

/-- Induction on the scopes of a run. -/
theorem induction_scopes {P : Step → Prop} {Q : List Step → Prop}
    (plain : ∀ s : Step, s.isPlain = true → P s) (finish : P .finish) (abort : P .abort)
    (indented : ∀ levels steps, Q steps → P (.indented levels steps))
    (classified : ∀ classify steps, Q steps → P (.classified classify steps))
    (nil : Q []) (cons : ∀ step rest, P step → Q rest → Q (step :: rest)) :
    (∀ s, P s) ∧ ∀ steps, Q steps := by
  have hstep : ∀ s, P s := @Step.rec P Q (fun _ => plain _ rfl) (fun _ => plain _ rfl)
    (fun _ => plain _ rfl) (fun _ => plain _ rfl) (plain _ rfl) (plain _ rfl) (plain _ rfl)
    (fun _ => plain _ rfl) (fun _ _ => plain _ rfl) finish abort indented classified nil cons
  refine ⟨hstep, fun steps => ?_⟩
  induction steps with
  | nil => exact nil
  | cons step rest ih => exact cons step rest (hstep step) ih

end Step

/-- What is seen of a state of a run. -/
inductive Glimpse (σ : Type) where
  | state (a : σ) (aborted : Bool)
  | result (a : σ)

/-- A stretch of a run: the state after it, what was seen, and whether it was left early. -/
structure Trail (σ : Type) where
  state : σ
  seen : List (Glimpse σ) := []
  aborted : Bool := false

namespace Trail
variable {σ : Type}

def plain (a : σ) : Trail σ := { state := a, seen := [.state a false] }

def andThen (t : Trail σ) (next : σ → Trail σ) : Trail σ :=
  if t.aborted then t
  else
    let after := next t.state
    { after with seen := t.seen ++ after.seen }

def scope (entered : σ) (steps : σ → Trail σ) (leave : σ → σ) : Trail σ :=
  let inner := steps entered
  let after := leave inner.state
  { state := after
    seen := .state entered false :: inner.seen
      ++ (if inner.aborted then [] else [.state after false])
    aborted := inner.aborted }

end Trail

/-- What the steps of a run do to a state. Scopes know the state they were entered from. -/
structure Machine (σ : Type) where
  step : Step → σ → σ
  deepen : Nat → σ → σ
  undeepen : Nat → σ → σ → σ
  override : Classifier → σ → σ
  restore : Classifier → σ → σ → σ

namespace Machine
variable {σ : Type}

mutual

def run (m : Machine σ) : Step → σ → Trail σ
  | .finish, a => { state := a, seen := [.result a] }
  | .abort, a => { state := a, aborted := true }
  | .indented levels steps, a => .scope (m.deepen levels a) (m.runAll steps) (m.undeepen levels a)
  | .classified classify steps, a =>
    .scope (m.override classify a) (m.runAll steps) (m.restore classify a)
  | step, a => .plain (m.step step a)

def runAll (m : Machine σ) : List Step → σ → Trail σ
  | [], a => { state := a }
  | step :: rest, a => (m.run step a).andThen (m.runAll rest)

end

def session (m : Machine σ) : List Step → σ → σ × List (Glimpse σ)
  | [], a => (a, [])
  | step :: rest, a =>
    let t := m.run step a
    let seen := if t.aborted then t.seen ++ [.state t.state true] else t.seen
    let (last, more) := m.session rest t.state
    (last, seen ++ more)

theorem run_of_isPlain (m : Machine σ) {s : Step} (h : s.isPlain = true) (a : σ) :
    m.run s a = .plain (m.step s a) := by
  cases s with
  | finish => cases h
  | abort => cases h
  | indented levels steps => cases h
  | classified classify steps => cases h
  | _ => rfl

end Machine

def Writer.machine : Machine Writer where
  step s w := (s.run w).writer
  deepen levels w := w.deepen levels
  undeepen levels _ w := w.undeepen levels
  override classify w := { w with classify }
  restore _ entered w := { w with classify := entered.classify }

def Glimpse.observation : Glimpse Writer → Observation
  | .state w aborted => .state w aborted
  | .result w => .result w.finish

def Trail.stretch (t : Trail Writer) : Stretch := ⟨t.state, t.seen.map Glimpse.observation, t.aborted⟩

namespace Trail

private theorem stretch_andThen (t : Trail Writer) (next : Writer → Trail Writer) :
    (t.andThen next).stretch = t.stretch.andThen fun w => (next w).stretch := by
  cases h : t.aborted <;> simp [andThen, Stretch.andThen, stretch, h]

private theorem stretch_scope (entered : Writer) (steps : Writer → Trail Writer) (leave : Writer → Writer) :
    (scope entered steps leave).stretch = .scope entered (fun w => (steps w).stretch) leave := by
  cases h : (steps entered).aborted <;> simp [scope, Stretch.scope, stretch, Glimpse.observation, h]

end Trail

mutual

/-- The steps of a writer make it run as its machine does. -/
theorem Step.run_eq : ∀ (s : Step) (w : Writer), s.run w = (Writer.machine.run s w).stretch
  | .append _, _ => rfl
  | .appendLine _, _ => rfl
  | .appendRaw _, _ => rfl
  | .appendRawLine _, _ => rfl
  | .endLine, _ => rfl
  | .blankLine, _ => rfl
  | .trimEnd, _ => rfl
  | .setClassifier _, _ => rfl
  | .render _ _, _ => rfl
  | .finish, _ => rfl
  | .abort, _ => rfl
  | .indented levels steps, w => by
    have hsteps : Step.runAll steps = fun v => (Writer.machine.runAll steps v).stretch :=
      funext (Step.runAll_eq steps)
    rw [Step.run, Machine.run, Trail.stretch_scope, hsteps]
    rfl
  | .classified classify steps, w => by
    have hsteps : Step.runAll steps = fun v => (Writer.machine.runAll steps v).stretch :=
      funext (Step.runAll_eq steps)
    rw [Step.run, Machine.run, Trail.stretch_scope, hsteps]
    rfl

theorem Step.runAll_eq : ∀ (steps : List Step) (w : Writer),
    Step.runAll steps w = (Writer.machine.runAll steps w).stretch
  | [], _ => rfl
  | step :: rest, w => by
    have hrest : Step.runAll rest = fun v => (Writer.machine.runAll rest v).stretch :=
      funext (Step.runAll_eq rest)
    rw [Step.runAll, Machine.runAll, Trail.stretch_andThen, step.run_eq w, hrest]

end

theorem Step.session_eq (steps : List Step) (w : Writer) :
    Step.session steps w = ((Writer.machine.session steps w).1,
      (Writer.machine.session steps w).2.map Glimpse.observation) := by
  induction steps generalizing w with
  | nil => rfl
  | cons step rest ih =>
    rw [Step.session, Machine.session, step.run_eq w]
    simp only [Trail.stretch, ih, List.map_append, apply_ite (List.map Glimpse.observation)]
    rfl

/-- Related states, seen at the same points of a run. -/
inductive Glimpse.Tied {σ τ : Type} (R : σ → τ → Prop) : Glimpse σ → Glimpse τ → Prop
  | state {a : σ} {b : τ} (aborted : Bool) : R a b → Tied R (.state a aborted) (.state b aborted)
  | result {a : σ} {b : τ} : R a b → Tied R (.result a) (.result b)

structure Trail.Tied {σ τ : Type} (R : σ → τ → Prop) (t : Trail σ) (u : Trail τ) : Prop where
  state : R t.state u.state
  seen : List.Forall₂ (Glimpse.Tied R) t.seen u.seen
  aborted : t.aborted = u.aborted

/-- A relation between the state before a stretch of a run and the one behind it. -/
structure Machine.Spans {σ : Type} (m : Machine σ) (K : σ → σ → Prop) : Prop where
  refl (a : σ) : K a a
  trans {a b c : σ} : K a b → K b c → K a c
  step {s : Step} (a : σ) : s.isPlain = true → K a (m.step s a)
  indented {a b : σ} (levels : Nat) : K (m.deepen levels a) b → K a (m.undeepen levels a b)
  classified {a b : σ} (classify : Classifier) :
    K (m.override classify a) b → K a (m.restore classify a b)

namespace Machine.Spans
variable {σ : Type} {m : Machine σ} {K : σ → σ → Prop}

theorem run_runAll (h : m.Spans K) : (∀ (s : Step) (a : σ), K a (m.run s a).state) ∧
    ∀ (steps : List Step) (a : σ), K a (m.runAll steps a).state := by
  apply Step.induction_scopes
  case plain =>
    intro s hs a
    rw [m.run_of_isPlain hs]
    exact h.step a hs
  case finish => exact h.refl
  case abort => exact h.refl
  case indented => exact fun levels _ ih a => h.indented levels (ih _)
  case classified => exact fun classify _ ih a => h.classified classify (ih _)
  case nil => exact h.refl
  case cons =>
    intro step rest hstep hrest a
    rw [runAll, Trail.andThen]
    split
    · exact hstep a
    · exact h.trans (hstep a) (hrest _)

theorem session (h : m.Spans K) (steps : List Step) (a : σ) : K a (m.session steps a).1 := by
  induction steps generalizing a with
  | nil => exact h.refl a
  | cons step rest ih => exact h.trans (h.run_runAll.1 step a) (ih _)

end Machine.Spans

/-- A relation between the states of two machines that steps of a kind preserve. Where a scope is left, the
state there is known to span the steps inside. -/
structure Machine.TiesWithin {σ τ : Type} (m : Machine σ) (n : Machine τ) (allowed : Step → Prop)
    (K : τ → τ → Prop) (R : σ → τ → Prop) : Prop where
  spans : n.Spans K
  step {s : Step} {a : σ} {b : τ} : s.isScope = false → allowed s → R a b → R (m.step s a) (n.step s b)
  deepen {a : σ} {b : τ} (levels : Nat) : R a b → R (m.deepen levels a) (n.deepen levels b)
  undeepen {a a' : σ} {b b' : τ} (levels : Nat) : K (n.deepen levels b) b' → R a b → R a' b' →
    R (m.undeepen levels a a') (n.undeepen levels b b')
  override {classify : Classifier} {steps : List Step} {a : σ} {b : τ} :
    allowed (.classified classify steps) → R a b → R (m.override classify a) (n.override classify b)
  restore {a a' : σ} {b b' : τ} (classify : Classifier) : K (n.override classify b) b' → R a b → R a' b' →
    R (m.restore classify a a') (n.restore classify b b')

/-- A relation between the states of two machines that steps of a kind preserve. -/
structure Machine.Ties {σ τ : Type} (m : Machine σ) (n : Machine τ) (allowed : Step → Prop)
    (R : σ → τ → Prop) : Prop where
  step {s : Step} {a : σ} {b : τ} : s.isScope = false → allowed s → R a b → R (m.step s a) (n.step s b)
  deepen {a : σ} {b : τ} (levels : Nat) : R a b → R (m.deepen levels a) (n.deepen levels b)
  undeepen {a a' : σ} {b b' : τ} (levels : Nat) : R a b → R a' b' →
    R (m.undeepen levels a a') (n.undeepen levels b b')
  override {classify : Classifier} {steps : List Step} {a : σ} {b : τ} :
    allowed (.classified classify steps) → R a b → R (m.override classify a) (n.override classify b)
  restore {a a' : σ} {b b' : τ} (classify : Classifier) : R a b → R a' b' →
    R (m.restore classify a a') (n.restore classify b b')

namespace Trail.Tied
variable {σ τ : Type} {R : σ → τ → Prop}

private theorem plain {a : σ} {b : τ} (h : R a b) : Tied R (.plain a) (.plain b) :=
  ⟨h, .cons (.state false h) .nil, rfl⟩

private theorem andThen {t : Trail σ} {u : Trail τ} {next : σ → Trail σ} {next' : τ → Trail τ}
    (h : Tied R t u) (hn : ∀ {a b}, R a b → Tied R (next a) (next' b)) :
    Tied R (t.andThen next) (u.andThen next') := by
  have hnext := hn h.state
  unfold Trail.andThen
  rw [← h.aborted]
  split
  · exact h
  · exact ⟨hnext.state, List.rel_append h.seen hnext.seen, hnext.aborted⟩

private theorem scope {a : σ} {b : τ} {steps : σ → Trail σ} {steps' : τ → Trail τ} {leave : σ → σ}
    {leave' : τ → τ} (h : R a b) (hs : Tied R (steps a) (steps' b))
    (hl : R (leave (steps a).state) (leave' (steps' b).state)) :
    Tied R (.scope a steps leave) (.scope b steps' leave') := by
  refine ⟨hl, .cons (.state false h) (List.rel_append hs.seen ?_), hs.aborted⟩
  rw [← hs.aborted]
  split
  · exact .nil
  · exact .cons (.state false hl) .nil

end Trail.Tied

namespace Machine.TiesWithin
variable {σ τ : Type} {m : Machine σ} {n : Machine τ} {allowed : Step → Prop} {K : τ → τ → Prop}
  {R : σ → τ → Prop}

private theorem run_runAll (h : m.TiesWithin n allowed K R) :
    (∀ (s : Step) {a : σ} {b : τ}, (∀ t ∈ s.parts, allowed t) → R a b →
      Trail.Tied R (m.run s a) (n.run s b)) ∧
    ∀ (steps : List Step) {a : σ} {b : τ}, (∀ t ∈ Step.allParts steps, allowed t) → R a b →
      Trail.Tied R (m.runAll steps a) (n.runAll steps b) := by
  apply Step.induction_scopes
  case plain =>
    intro s hplain a b hs hr
    rw [m.run_of_isPlain hplain, n.run_of_isPlain hplain]
    exact .plain (h.step (Step.isScope_of_isPlain hplain) (hs s s.mem_parts) hr)
  case finish => exact fun _ hr => ⟨hr, .cons (.result hr) .nil, rfl⟩
  case abort => exact fun _ hr => ⟨hr, .nil, rfl⟩
  case indented =>
    intro levels steps ih a b hs hr
    have hsteps : ∀ t ∈ Step.allParts steps, allowed t := fun t ht => hs t (by simp [Step.parts, ht])
    have hin := h.deepen levels hr
    have hinner := ih hsteps hin
    -- `hr` goes to the exit as well, which may restore what the entry found
    exact .scope hin hinner (h.undeepen levels (h.spans.run_runAll.2 steps _) hr hinner.state)
  case classified =>
    intro classify steps ih a b hs hr
    have hsteps : ∀ t ∈ Step.allParts steps, allowed t := fun t ht => hs t (by simp [Step.parts, ht])
    have hin := h.override (hs _ (Step.mem_parts _)) hr
    have hinner := ih hsteps hin
    exact .scope hin hinner (h.restore classify (h.spans.run_runAll.2 steps _) hr hinner.state)
  case nil => exact fun _ hr => ⟨hr, .nil, rfl⟩
  case cons =>
    intro step rest hstep hrest a b hs hr
    simp only [Step.allParts, List.forall_mem_append] at hs
    exact (hstep hs.1 hr).andThen fun hr' => hrest hs.2 hr'

/-- Machines that are tied show tied states throughout a run. -/
theorem session (h : m.TiesWithin n allowed K R) {steps : List Step}
    (hs : ∀ t ∈ Step.allParts steps, allowed t) {a : σ} {b : τ} (hr : R a b) :
    R (m.session steps a).1 (n.session steps b).1 ∧
      List.Forall₂ (Glimpse.Tied R) (m.session steps a).2 (n.session steps b).2 := by
  induction steps generalizing a b with
  | nil => exact ⟨hr, .nil⟩
  | cons step rest ih =>
    simp only [Step.allParts, List.forall_mem_append] at hs
    have hrun := h.run_runAll.1 step hs.1 hr
    obtain ⟨hlast, hmore⟩ := ih hs.2 hrun.state
    refine ⟨hlast, List.rel_append ?_ hmore⟩
    rw [← hrun.aborted]
    split
    · exact List.rel_append hrun.seen (.cons (.state true hrun.state) .nil)
    · exact hrun.seen

end Machine.TiesWithin

namespace Machine.Ties
variable {σ τ : Type} {m : Machine σ} {n : Machine τ} {allowed : Step → Prop} {R : σ → τ → Prop}

theorem within (h : m.Ties n allowed R) : m.TiesWithin n allowed (fun _ _ => True) R where
  spans := ⟨fun _ => trivial, fun _ _ => trivial, fun _ _ => trivial, fun _ _ => trivial, fun _ _ => trivial⟩
  step := h.step
  deepen := h.deepen
  undeepen levels _ := h.undeepen levels
  override := h.override
  restore classify _ := h.restore classify

theorem session (h : m.Ties n allowed R) {steps : List Step} (hs : ∀ t ∈ Step.allParts steps, allowed t)
    {a : σ} {b : τ} (hr : R a b) : R (m.session steps a).1 (n.session steps b).1 ∧
      List.Forall₂ (Glimpse.Tied R) (m.session steps a).2 (n.session steps b).2 :=
  h.within.session hs hr

end Machine.Ties

end CodeScribe
