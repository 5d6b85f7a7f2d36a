import CodeScribe.Proofs.Run.Journal
import CodeScribe.Proofs.Run.Recorder

/-! The history of an output: the lines written to it, each under the classifier in force then, and what
else is added or dropped. A line that its classifier refuses is written as it is. The fault of a writer is
that of the first such line, and no later step changes it. -/
namespace CodeScribe

/-- Something that happens to the output of a writer. -/
inductive Deed where
  /-- A line is judged and written in the form that is shown. It is completed, or raw text continues it. -/
  | line (judged : Judged) (shown : List Char) (completed : Bool)
  | text (cs : List Char)
  | terminator
  /-- The blanks at the end are dropped. -/
  | trim

namespace Deed

/-- The line that is judged, if it is one that is written. -/
def judged? : Deed → Option Judged
  | .line judged _ _ => some judged
  | _ => none

/-- The output behind it. A completed line of blanks is an empty line. -/
def write (newline : Newline) (output : List Char) : Deed → List Char
  | .line _ shown false => output ++ shown
  | .line _ shown true => output ++ (if Text.allBlank shown then [] else shown) ++ newline.text
  | .text cs => output ++ cs
  | .terminator => output ++ newline.text
  | .trim => Text.trimEnd output

/-- A refused line is written whole and without indentation. -/
def KeepsRefused : Deed → Prop
  | .line judged shown _ => ¬ judged.Accepted → shown = judged.line
  | _ => True

end Deed

/-- What a move does to the output. -/
def Stroke.deeds (s : Stroke) (w : Writer) : List Deed :=
  match s with
  | .put c =>
    if c = '\n' then
      let line := Text.chop '\r' w.line
      [.line ⟨w.classify, line⟩ (w.format line) true]
    else []
  | .flush => [.line ⟨w.classify, w.line⟩ (w.format w.line) true]
  | .raw text =>
    if w.line = [] then [.text text] else [.line ⟨w.classify, w.line⟩ (w.format w.line) false, .text text]
  | .endLine =>
    if w.line ≠ [] then [.line ⟨w.classify, w.line⟩ (w.format w.line) true]
    else if w.atLineStart then [] else [.terminator]
  | .breakLine => [.terminator]
  | .enter => []
  | .leave => []

namespace Stroke
variable (s : Stroke) (w : Writer)

private theorem output_apply_deeds :
    (s.apply w).output = (s.deeds w).foldl (Deed.write w.config.newline) w.output := by
  cases s with
  | put c =>
    by_cases hc : c = '\n'
    · simp [apply, deeds, hc, Writer.put_newline, Writer.shown, Writer.format, Writer.format?, Deed.write,
        Writer.atLineStart, Writer.indentation]
    · simp [apply, deeds, hc, Writer.put_of_ne]
  | flush => simp [apply, deeds, Writer.shown, Deed.write]
  | raw text =>
    by_cases hl : w.line = []
    · simp [apply, deeds, hl, Writer.text_eq, Writer.pending, Deed.write]
    · simp [apply, deeds, hl, Writer.text_eq, Writer.pending, Deed.write]
  | breakLine => rfl
  | endLine =>
    rcases w.endLine_cases with ⟨hl, he⟩ | ⟨hl, ha, he⟩ | ⟨hl, ha, he⟩
    · simp [apply, deeds, hl, he, Writer.shown, Deed.write]
    · simp [apply, deeds, hl, ha, he]
    · simp [apply, deeds, hl, ha, he, Writer.breakLine, Deed.write]
  | enter => rfl
  | leave => rfl

private theorem judged_deeds : (s.deeds w).filterMap Deed.judged? = (s.judges w).map (⟨w.classify, ·⟩) := by
  cases s with
  | put c => by_cases hc : c = '\n' <;> simp [deeds, judges, hc, Deed.judged?]
  | flush => rfl
  | raw text => by_cases hl : w.line = [] <;> simp [deeds, judges, hl, Deed.judged?]
  | breakLine => rfl
  | endLine =>
    by_cases hl : w.line = []
    · by_cases ha : w.atLineStart <;> simp [deeds, judges, hl, ha, Deed.judged?]
    · simp [deeds, judges, hl, Deed.judged?]
  | enter => rfl
  | leave => rfl

private theorem keepsRefused_deeds : ∀ deed ∈ s.deeds w, deed.KeepsRefused := by
  have hline (line : List Char) : ¬ (⟨w.classify, line⟩ : Judged).Accepted → w.format line = line := by
    intro hrefused
    rw [Judged.accepted_iff, not_exists] at hrefused
    have hnone : (w.classify line).content? line = none := Option.eq_none_iff_forall_ne_some.mpr hrefused
    simp [Writer.format, Writer.format?, hnone]
  cases s with
  | put c =>
    by_cases hc : c = '\n'
    · simpa [deeds, hc, Deed.KeepsRefused] using hline _
    · simp [deeds, hc]
  | flush => simpa [deeds, Deed.KeepsRefused] using hline w.line
  | raw text =>
    by_cases hl : w.line = []
    · simp [deeds, hl, Deed.KeepsRefused]
    · simpa [deeds, hl, Deed.KeepsRefused] using hline w.line
  | breakLine => simp [deeds, Deed.KeepsRefused]
  | endLine =>
    by_cases hl : w.line = []
    · by_cases ha : w.atLineStart <;> simp [deeds, hl, ha, Deed.KeepsRefused]
    · simpa [deeds, hl, Deed.KeepsRefused] using hline w.line
  | enter => simp [deeds]
  | leave => simp [deeds]

end Stroke

namespace Writer

def deeds (w : Writer) : Plan → List Deed
  | [] => []
  | s :: p => s.deeds w ++ (s.apply w).deeds p

private theorem output_follow_deeds (p : Plan) (w : Writer) :
    (w.follow p).output = (w.deeds p).foldl (Deed.write w.config.newline) w.output := by
  induction p generalizing w with
  | nil => rfl
  | cons s p ih => rw [follow_cons, ih, s.output_apply_deeds, s.config_apply, deeds, List.foldl_append]

private theorem judged_deeds (p : Plan) (w : Writer) : (w.deeds p).filterMap Deed.judged? = w.judged p := by
  induction p generalizing w with
  | nil => rfl
  | cons s p ih => rw [deeds, List.filterMap_append, s.judged_deeds, ih, judged]

private theorem keepsRefused_deeds (p : Plan) (w : Writer) : ∀ deed ∈ w.deeds p, deed.KeepsRefused := by
  induction p generalizing w with
  | nil => exact fun _ => nofun
  | cons s p ih =>
    rw [deeds, List.forall_mem_append]
    exact ⟨s.keepsRefused_deeds w, ih _⟩

end Writer

namespace Step

def deeds (s : Step) (w : Writer) : List Deed :=
  match s with
  | .trimEnd => if Text.trimEnd w.line = [] then [.trim] else []
  | s => w.deeds (s.plan w.config.docPrefix.toList)

variable {s : Step} (w : Writer)

private theorem deeds_of_ne (h : s ≠ .trimEnd) : s.deeds w = w.deeds (s.plan w.config.docPrefix.toList) := by
  cases s with
  | trimEnd => exact absurd rfl h
  | _ => rfl

private theorem output_run (hs : s.isScope = false) :
    (s.run w).writer.output = (s.deeds w).foldl (Deed.write w.config.newline) w.output := by
  by_cases htrim : s = .trimEnd
  · subst htrim
    change w.trimEnd.output = _
    rw [w.output_trimEnd, deeds]
    split <;> rfl
  · rw [deeds_of_ne w htrim]
    rcases s.writer_run_cases hs w with ⟨rfl, -⟩ | ⟨classify, rfl, he⟩ | he
    · exact absurd rfl htrim
    · rw [he]
      rfl
    · rw [he, w.output_follow_deeds]

private theorem config_run (hs : s.isScope = false) : (s.run w).writer.config = w.config := by
  rcases s.writer_run_cases hs w with ⟨rfl, he⟩ | ⟨classify, rfl, he⟩ | he
  · rw [he, w.config_trimEnd]
  · rw [he]
  · rw [he, Writer.config_follow]

private theorem judged_deeds :
    (s.deeds w).filterMap Deed.judged? = w.judged (s.plan w.config.docPrefix.toList) := by
  by_cases htrim : s = .trimEnd
  · subst htrim
    rw [deeds]
    split <;> rfl
  · rw [deeds_of_ne w htrim, w.judged_deeds]

private theorem keepsRefused_deeds : ∀ deed ∈ s.deeds w, deed.KeepsRefused := by
  by_cases htrim : s = .trimEnd
  · subst htrim
    rw [deeds]
    split <;> simp [Deed.KeepsRefused]
  · rw [deeds_of_ne w htrim]
    exact w.keepsRefused_deeds _

end Step

/-- A writer with the history of its output. -/
structure Chronicle where
  writer : Writer
  deeds : List Deed := []

def Chronicle.judged (a : Chronicle) : List Judged := a.deeds.filterMap Deed.judged?

/-- The machine of a writer that keeps the history of its output. Scopes add nothing to it. -/
def Machine.chronicle : Machine Chronicle where
  step s a := { writer := (s.run a.writer).writer, deeds := a.deeds ++ s.deeds a.writer }
  deepen levels a := { a with writer := a.writer.deepen levels }
  undeepen levels _ a := { a with writer := a.writer.undeepen levels }
  override classify a := { a with writer := { a.writer with classify } }
  restore _ entered a := { a with writer := { a.writer with classify := entered.writer.classify } }

/-- A history that accounts for the output of its writer and for the fault. -/
structure Chronicle.Accounts (settings : Config) (a : Chronicle) : Prop where
  config : a.writer.config = settings
  output : a.writer.output = a.deeds.foldl (Deed.write settings.newline) []
  fault : a.writer.fault = a.judged.findSome? Judged.fault?
  refused : ∀ deed ∈ a.deeds, deed.KeepsRefused

private theorem Chronicle.Accounts.step {config : Config} {a : Chronicle} (h : a.Accounts config) {s : Step}
    (hs : s.isScope = false) : (Machine.chronicle.step s a).Accounts config where
  config := (s.config_run a.writer hs).trans h.config
  output := by
    change (s.run a.writer).writer.output = (a.deeds ++ s.deeds a.writer).foldl _ []
    rw [s.output_run a.writer hs, List.foldl_append, ← h.output, h.config]
  fault := by
    have hjournal : a.writer.Accounts ⟨a.writer, a.judged⟩ := ⟨rfl, h.fault⟩
    have hstep := (Writer.ties_accounts.step hs trivial hjournal).fault
    change (s.run a.writer).writer.fault =
      ((a.deeds ++ s.deeds a.writer).filterMap Deed.judged?).findSome? Judged.fault?
    rw [List.filterMap_append, s.judged_deeds]
    exact hstep
  refused := List.forall_mem_append.mpr ⟨h.refused, s.keepsRefused_deeds a.writer⟩

/-- The writer of a history is the one that runs on its own, and its history accounts for it. -/
theorem Writer.ties_chronicle (config : Config) :
    Writer.machine.Ties Machine.chronicle (fun _ => True) fun w a => a.writer = w ∧ a.Accounts config where
  step {s w a} hs _ h := by
    obtain ⟨rfl, haccounts⟩ := h
    exact ⟨rfl, haccounts.step hs⟩
  deepen levels h :=
    ⟨congrArg (Writer.deepen · levels) h.1, h.2.config, h.2.output, h.2.fault, h.2.refused⟩
  undeepen levels _ h :=
    ⟨congrArg (Writer.undeepen · levels) h.1, h.2.config, h.2.output, h.2.fault, h.2.refused⟩
  override {classify steps w a} _ h := by
    obtain ⟨rfl, haccounts⟩ := h
    exact ⟨rfl, haccounts.config, haccounts.output, haccounts.fault, haccounts.refused⟩
  restore {w w' a a'} _ hentered h := by
    obtain ⟨rfl, -⟩ := hentered
    obtain ⟨rfl, haccounts⟩ := h
    exact ⟨rfl, haccounts.config, haccounts.output, haccounts.fault, haccounts.refused⟩

/-- What a history tells of its writer. -/
structure Chronicle.Tells (a : Chronicle) : Prop where
  /-- The history makes the output of nothing. -/
  output : a.writer.output = a.deeds.foldl (Deed.write a.writer.config.newline) []
  refused : ∀ judged shown completed, .line judged shown completed ∈ a.deeds → ¬ judged.Accepted →
    shown = judged.line
  present : a.writer.fault ≠ none ↔ ∃ j ∈ a.judged, ¬ j.Accepted
  first : ∀ f, a.writer.fault = some f ↔ ∃ before j after, a.judged = before ++ j :: after ∧
    (∀ i ∈ before, i.Accepted) ∧ ¬ j.Accepted ∧ f = j.fault
  finish : ∀ f, a.writer.finish = .error f ↔ a.writer.fault = some f

private theorem Chronicle.Accounts.tells {config : Config} {a : Chronicle} (h : a.Accounts config) :
    a.Tells where
  output := by rw [h.config, h.output]
  refused judged shown completed hmem := h.refused _ hmem
  present := by
    rw [h.fault, ne_eq, List.findSome?_eq_none_iff]
    simp only [Judged.fault?_eq_none_iff, not_forall, exists_prop]
  first f := by
    rw [h.fault, List.findSome?_eq_some_iff]
    simp only [Judged.fault?_eq_none_iff, Judged.fault?_eq_some_iff]
    constructor
    · rintro ⟨before, j, after, hjudged, ⟨hj, hf⟩, hbefore⟩
      exact ⟨before, j, after, hjudged, hbefore, hj, hf⟩
    · rintro ⟨before, j, after, hjudged, hbefore, hj, hf⟩
      exact ⟨before, j, after, hjudged, ⟨hj, hf⟩, hbefore⟩
  finish f := by
    rw [Writer.finish]
    cases a.writer.fault <;> simp

def Observation.fault? : Observation → Option LineFault
  | .state w _ => w.fault
  | .result (.error f) => some f
  | .result (.ok _) => none

private theorem Glimpse.fault?_observation (g : Glimpse Writer) : g.observation.fault? = g.value.fault := by
  cases g with
  | state w aborted => rfl
  | result w =>
    rw [observation, Writer.finish, value]
    cases w.fault <;> rfl

/-- No step takes a fault back or puts another one in its place. -/
theorem Writer.climbs_fault :
    Writer.machine.Climbs fun w v => ∀ f, w.fault = some f → v.fault = some f where
  refl _ _ h := h
  trans hab hbc f h := hbc f (hab f h)
  step {s} w hs f h := by
    change (s.run w).writer.fault = some f
    rcases s.writer_run_cases (Step.isScope_of_isPlain hs) w with ⟨-, he⟩ | ⟨classify, -, he⟩ | he
    · rw [he, fault_trimEnd, h]
    · rw [he]
      exact h
    · rw [he, fault_follow_eq, h, Option.some_or]
  deepen _ _ _ h := h
  undeepen _ _ _ _ h := h
  override _ _ _ h := h
  restore _ _ _ _ h := h

/-- The first fault wins and is never forgotten. At every point of a run the writer has a fault exactly when
one of the lines written by then was refused, and it is that of the first one, which a result there gives;
no later step changes it. Refused lines stand in the output as they are. -/
theorem Step.session_latches (config : Config) (steps : List Step) :
    let run := session steps (Writer.new config)
    let told := Machine.chronicle.session steps { writer := Writer.new config }
    run = (told.1.writer, told.2.map fun g => (g.map Chronicle.writer).observation) ∧
      told.1.Tells ∧ (∀ g ∈ told.2, g.value.Tells) ∧
      (run.2.map Observation.fault? ++ [run.1.fault]).Pairwise
        (fun earlier later => ∀ f, earlier = some f → later = some f) ∧
      ∀ j : Judged, j.fault.message =
        "line classifier returned content range " ++ toString (j.classify j.line).start ++ ".."
          ++ toString (j.classify j.line).stop ++ " for a " ++ toString (Text.byteLength j.line)
          ++ "-byte line " ++ String.ofList (Text.quoted j.line) := by
  have hnew : ({ writer := Writer.new config } : Chronicle).Accounts config := ⟨rfl, rfl, rfl, fun _ => nofun⟩
  obtain ⟨hrun, hlast, hseen⟩ := session_of_ties (Writer.ties_chronicle config).within steps hnew
  refine ⟨hrun, hlast.tells, fun g hg => (hseen g hg).tells, ?_, fun j => rfl⟩
  have hclimb := Writer.climbs_fault.session steps (Writer.new config)
  rw [Ascent, List.pairwise_cons] at hclimb
  have hfaults : (Writer.machine.session steps (Writer.new config)).2.map
      (Observation.fault? ∘ Glimpse.observation) =
      ((Writer.machine.session steps (Writer.new config)).2.map Glimpse.value).map Writer.fault := by
    rw [List.map_map]
    exact List.map_congr_left fun g _ => g.fault?_observation
  rw [session_eq, List.map_map, hfaults, ← List.map_singleton, ← List.map_append, List.pairwise_map]
  exact hclimb.2

end CodeScribe
