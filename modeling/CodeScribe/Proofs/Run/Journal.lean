import CodeScribe.Proofs.Run.Lines

/-! The lines that a run judges, each under the classifier in force when it is written: those that it
completes, and those that raw text cuts off. The fault of a writer is that of the first one refused, and a
result is a text exactly when none was. A line still pending in the result is judged by nobody. -/
namespace CodeScribe

/-- A line that is written, and the classifier in force then. -/
structure Judged where
  classify : Classifier
  line : List Char

namespace Judged

def Accepted (j : Judged) : Prop := (j.classify j.line).Fits j.line

def fault (j : Judged) : LineFault := ⟨j.line, (j.classify j.line).start, (j.classify j.line).stop⟩

def fault? (j : Judged) : Option LineFault :=
  match (j.classify j.line).content? j.line with
  | none => some j.fault
  | some _ => none

variable {j : Judged}

theorem accepted_iff : j.Accepted ↔ ∃ text, (j.classify j.line).content? j.line = some text := by
  rw [Accepted, ← LineClass.isSome_content?_iff, Option.isSome_iff_exists]

theorem fault?_eq_none_iff : j.fault? = none ↔ j.Accepted := by
  rw [accepted_iff, fault?]
  cases (j.classify j.line).content? j.line <;> simp

theorem fault?_eq_some_iff {f : LineFault} : j.fault? = some f ↔ ¬ j.Accepted ∧ f = j.fault := by
  rw [accepted_iff, fault?]
  cases (j.classify j.line).content? j.line <;> simp [eq_comm]

end Judged

/-- The lines that a move writes, as far as its classifier is asked about them. -/
def Stroke.judges (s : Stroke) (w : Writer) : List (List Char) :=
  match s with
  | .put c => if c = '\n' then [Text.chop '\r' w.line] else []
  | .flush => [w.line]
  | .raw _ => if w.line = [] then [] else [w.line]
  | .endLine => if w.line = [] then [] else [w.line]
  | .breakLine => []
  | .enter => []
  | .leave => []

/-- The lines that the moves of a plan write, in order. -/
def Writer.judged (w : Writer) : Plan → List Judged
  | [] => []
  | s :: p => (s.judges w).map (⟨w.classify, ·⟩) ++ (s.apply w).judged p

private theorem Writer.fault_flushLine_eq (w : Writer) :
    w.flushLine.fault = w.fault.or (w.fault? w.line) := by
  rw [flushLine, note_fault]
  exact Option.orElse_eq_or ..

/-- A move adds the fault of the line it writes, if there is none yet. -/
theorem Stroke.fault_apply_eq (s : Stroke) (w : Writer) :
    (s.apply w).fault = w.fault.or ((s.judges w).findSome? w.fault?) := by
  have hkeep : w.fault = w.fault.or none := Option.or_none.symm
  cases s with
  | put c =>
    by_cases hc : c = '\n'
    · subst hc
      rw [apply, w.put_newline_eq, judges, if_pos rfl, List.findSome?_singleton]
      exact Option.orElse_eq_or ..
    · rw [apply, w.put_of_ne hc, judges, if_neg hc]
      exact hkeep
  | flush =>
    rw [apply, w.fault_flushLine_eq, judges, List.findSome?_singleton]
  | raw text =>
    rw [apply, Writer.appendRaw, Writer.settle, judges]
    by_cases hl : w.line = []
    · simp [hl]
    · simp [hl, Writer.note_fault]
  | endLine =>
    rw [apply, judges]
    rcases w.endLine_cases with ⟨hl, he⟩ | ⟨hl, -, he⟩ | ⟨hl, -, he⟩
    · rw [he, if_neg hl, w.fault_flushLine_eq, List.findSome?_singleton]
    · rw [he, if_pos hl]
      exact hkeep
    · rw [he, if_pos hl]
      exact hkeep
  | breakLine => exact hkeep
  | enter => exact hkeep
  | leave => exact hkeep

/-- A plan adds the fault of the first line that is refused, if there is none yet. -/
theorem Writer.fault_follow_eq (p : Plan) (w : Writer) :
    (w.follow p).fault = w.fault.or ((w.judged p).findSome? Judged.fault?) := by
  induction p generalizing w with
  | nil => exact Option.or_none.symm
  | cons s p ih =>
    rw [follow_cons, ih, s.fault_apply_eq, judged, List.findSome?_append, Option.or_assoc,
      List.findSome?_map]
    rfl

/-- A writer with the lines that it has written so far. -/
structure Journaled where
  writer : Writer
  judged : List Judged := []

/-- The line still pending, which a result shows as it would be written now. -/
def Journaled.pending (a : Journaled) : List Judged :=
  if a.writer.line = [] then [] else [⟨a.writer.classify, a.writer.line⟩]

/-- The machine of a writer that keeps a journal. Scopes do not touch it. -/
def Machine.journal : Machine Journaled where
  step s a :=
    { writer := (s.run a.writer).writer
      judged := a.judged ++ a.writer.judged (s.plan a.writer.config.docPrefix.toList) }
  deepen levels a := { a with writer := a.writer.deepen levels }
  undeepen levels _ a := { a with writer := a.writer.undeepen levels }
  override classify a := { a with writer := { a.writer with classify } }
  restore _ entered a := { a with writer := { a.writer with classify := entered.writer.classify } }

/-- The journal belongs to the writer and knows its fault. -/
structure Writer.Accounts (w : Writer) (a : Journaled) : Prop where
  writer : a.writer = w
  fault : w.fault = a.judged.findSome? Judged.fault?

theorem Writer.ties_accounts : Writer.machine.Ties Machine.journal (fun _ => True) Accounts where
  step {s w a} hs _ h := by
    obtain ⟨rfl, hfault⟩ := h
    refine ⟨rfl, ?_⟩
    change (s.run a.writer).writer.fault =
      (a.judged ++ a.writer.judged (s.plan a.writer.config.docPrefix.toList)).findSome? Judged.fault?
    rw [List.findSome?_append, ← hfault]
    rcases s.writer_run_cases hs a.writer with ⟨rfl, he⟩ | ⟨classify, rfl, he⟩ | he
    · rw [he, fault_trimEnd]
      exact Option.or_none.symm
    · rw [he]
      exact Option.or_none.symm
    · rw [he, fault_follow_eq]
  deepen levels h := ⟨congrArg (Writer.deepen · levels) h.writer, h.fault⟩
  undeepen levels _ h := ⟨congrArg (Writer.undeepen · levels) h.writer, h.fault⟩
  override {classify steps w a} _ h := ⟨congrArg (fun v : Writer => { v with classify }) h.writer, h.fault⟩
  restore {w w' a a'} _ hentered h := by
    obtain ⟨rfl, -⟩ := hentered
    obtain ⟨rfl, hfault⟩ := h
    exact ⟨rfl, hfault⟩

/-- What a result tells of the lines written so far: a text if none was refused, and the fault of the first
one that was otherwise. -/
inductive Journaled.Tells (a : Journaled) : Except LineFault (List Char) → Prop
  | text (h : ∀ j ∈ a.judged, j.Accepted) : Tells a (.ok a.writer.text)
  | fault {before after : List Judged} {j : Judged} (hjudged : a.judged = before ++ j :: after)
      (hbefore : ∀ i ∈ before, i.Accepted) (hj : ¬ j.Accepted) : Tells a (.error j.fault)

/-- A result is a text only if every line in it was accepted, the pending one as well as those written. -/
def Journaled.Vouches (a : Journaled) (r : Except LineFault (List Char)) : Prop :=
  ∀ text, r = .ok text → ∀ j ∈ a.judged ++ a.pending, j.Accepted

/-- What is seen of a writer beside its journal, with a fact about each result. -/
inductive Observation.At (P : Journaled → Except LineFault (List Char) → Prop) :
    Observation → Glimpse Journaled → Prop
  | state (a : Journaled) (aborted : Bool) : At P (.state a.writer aborted) (.state a aborted)
  | result {a : Journaled} {r : Except LineFault (List Char)} : P a r → At P (.result r) (.result a)

section
variable {gs : List (Glimpse Writer)} {js : List (Glimpse Journaled)}

private theorem accounts_of_mem (h : List.Forall₂ (Glimpse.Tied Writer.Accounts) gs js) {a : Journaled}
    (ha : .result a ∈ js) : a.writer.Accounts a := by
  induction h with
  | nil => cases ha
  | cons htied _ ih =>
    rcases List.mem_cons.mp ha with rfl | ha
    · cases htied with
      | result haccounts => exact ⟨rfl, haccounts.writer ▸ haccounts.fault⟩
    · exact ih ha

/-- A fact holds of all results that are seen when it holds of the writers that they come from. -/
private theorem forall_at_iff (h : List.Forall₂ (Glimpse.Tied Writer.Accounts) gs js)
    {P : Journaled → Except LineFault (List Char) → Prop} :
    List.Forall₂ (Observation.At P) (gs.map Glimpse.observation) js ↔
      ∀ a, .result a ∈ js → P a a.writer.finish := by
  induction h with
  | nil => simp
  | @cons g j gs js htied _ ih =>
    have hhead : g.observation.At P j ↔ ∀ a, j = .result a → P a a.writer.finish := by
      cases htied with
      | state aborted haccounts =>
        obtain ⟨rfl, -⟩ := haccounts
        exact ⟨fun _ _ => nofun, fun _ => .state _ aborted⟩
      | result haccounts =>
        obtain ⟨rfl, -⟩ := haccounts
        refine ⟨fun hat a ha => ?_, fun hP => .result (hP _ rfl)⟩
        cases ha
        cases hat with
        | result hP => exact hP
    rw [List.map_cons, List.forall₂_cons, hhead, ih]
    simp only [List.mem_cons, or_imp, forall_and, eq_comm]

end

namespace Writer.Accounts
variable {w : Writer} {a : Journaled}

private theorem tells (h : w.Accounts a) : a.Tells w.finish := by
  obtain ⟨rfl, hfault⟩ := h
  rw [finish]
  cases hfirst : a.judged.findSome? Judged.fault? with
  | none =>
    rw [hfault, hfirst]
    refine .text fun j hj => ?_
    exact Judged.fault?_eq_none_iff.mp (List.findSome?_eq_none_iff.mp hfirst j hj)
  | some f =>
    rw [hfault, hfirst]
    obtain ⟨before, j, after, hjudged, hj, hbefore⟩ := List.findSome?_eq_some_iff.mp hfirst
    obtain ⟨hrefused, rfl⟩ := Judged.fault?_eq_some_iff.mp hj
    exact .fault hjudged (fun i hi => Judged.fault?_eq_none_iff.mp (hbefore i hi)) hrefused

private theorem vouches_iff (h : w.Accounts a) : a.Vouches w.finish ↔
    ((∀ j ∈ a.judged, j.Accepted) → ∀ j ∈ a.pending, j.Accepted) := by
  have htells := h.tells
  rw [Journaled.Vouches]
  generalize w.finish = r at htells
  cases htells with
  | text hjudged =>
    refine ⟨fun hall _ j hj => hall _ rfl j (List.mem_append_right _ hj), fun hpending _ _ j hj => ?_⟩
    rcases List.mem_append.mp hj with hj | hj
    · exact hjudged j hj
    · exact hpending hjudged j hj
  | @fault before after j hjudged _ hj =>
    exact ⟨fun _ hall => absurd (hall j (by simp [hjudged])) hj, fun _ => nofun⟩

end Writer.Accounts

/-- At every point of a run the result is a text exactly when no line written by then was refused, and else
the fault of the first one that was. So every text is vouched for, line by line, exactly when no line is
refused that is the first such line and still pending where a result is asked for. -/
theorem Step.session_vouches_iff (config : Config) (steps : List Step) :
    let seen := (session steps (Writer.new config)).2
    let journals := (Machine.journal.session steps { writer := Writer.new config }).2
    List.Forall₂ (Observation.At Journaled.Tells) seen journals ∧
      (List.Forall₂ (Observation.At Journaled.Vouches) seen journals ↔
        ∀ a, .result a ∈ journals → (∀ j ∈ a.judged, j.Accepted) → ∀ j ∈ a.pending, j.Accepted) := by
  have hnew : (Writer.new config).Accounts { writer := Writer.new config } := ⟨rfl, rfl⟩
  have hsteps : ∀ s ∈ Step.allParts steps, True := fun _ _ => trivial
  obtain ⟨-, hseen⟩ := Writer.ties_accounts.session hsteps hnew
  rw [session_eq]
  refine ⟨(forall_at_iff hseen).mpr fun a ha => (accounts_of_mem hseen ha).tells, ?_⟩
  rw [forall_at_iff hseen]
  exact forall₂_congr fun a ha => (accounts_of_mem hseen ha).vouches_iff

/-- A line that its classifier refuses, and that nothing completes before the result. -/
def openFault : List Step := [
  .setClassifier fun line => ⟨.flush, 0, Text.byteLength line + 4⟩,
  .append "oops", .finish]

/-- The line is part of the text that is returned. -/
theorem session_openFault :
    let seen := (Step.session openFault (Writer.new {})).2
    seen.getLast? = some (.result (.ok "oops".toList)) ∧
      ¬ List.Forall₂ (Observation.At Journaled.Vouches) seen
        (Machine.journal.session openFault { writer := Writer.new {} }).2 := by
  refine ⟨rfl, fun h => ?_⟩
  change List.Forall₂ _ [_, _, Observation.result (.ok "oops".toList)] [_, _, Glimpse.result _] at h
  simp only [List.forall₂_cons] at h
  obtain ⟨-, -, hlast, -⟩ := h
  cases hlast with
  | result hvouches =>
    have haccepted := hvouches _ rfl ⟨fun line => ⟨.flush, 0, Text.byteLength line + 4⟩, "oops".toList⟩
      (List.mem_append_right _ List.mem_cons_self)
    exact absurd haccepted.inside (by decide)

end CodeScribe
