import CodeScribe.Proofs.Run.Machine

/-! Runs whose states hold more than a writer. Where every step leaves the writer in them as it would on
its own, the whole run is the run of that writer. And where every step takes the states up in an order,
they are seen in that order. -/
namespace CodeScribe

namespace Glimpse
variable {σ τ : Type}

def value : Glimpse σ → σ
  | .state a _ => a
  | .result a => a

def map (f : σ → τ) : Glimpse σ → Glimpse τ
  | .state a aborted => .state (f a) aborted
  | .result a => .result (f a)

end Glimpse

/-- A machine whose states hold a writer runs as the writer does, and keeps what each step keeps. -/
theorem Step.session_of_ties {σ : Type} {m : Machine σ} {K : σ → σ → Prop} {f : σ → Writer}
    {I : σ → Prop} (h : Writer.machine.TiesWithin m (fun _ => True) K fun w a => f a = w ∧ I a)
    (steps : List Step) {a : σ} (ha : I a) :
    session steps (f a) =
        (f (m.session steps a).1, (m.session steps a).2.map fun g => (g.map f).observation) ∧
      I (m.session steps a).1 ∧ ∀ g ∈ (m.session steps a).2, I g.value := by
  have hallowed : ∀ s ∈ allParts steps, True := fun _ _ => trivial
  obtain ⟨⟨hlast, hI⟩, hseen⟩ := h.session hallowed ⟨rfl, ha⟩
  have hall : (Writer.machine.session steps (f a)).2 = (m.session steps a).2.map (Glimpse.map f) ∧
      ∀ g ∈ (m.session steps a).2, I g.value := by
    generalize (Writer.machine.session steps (f a)).2 = ws at hseen
    generalize (m.session steps a).2 = gs at hseen
    induction hseen with
    | nil => exact ⟨rfl, fun _ => nofun⟩
    | cons htied _ ih =>
      obtain ⟨hmap, hkeep⟩ := ih
      rw [List.map_cons, List.forall_mem_cons, hmap]
      cases htied with
      | state aborted hr => exact ⟨by rw [← hr.1]; rfl, hr.2, hkeep⟩
      | result hr => exact ⟨by rw [← hr.1]; rfl, hr.2, hkeep⟩
  refine ⟨?_, hI, hall.2⟩
  rw [session_eq, hall.1, ← hlast, List.map_map]
  rfl

/-- An order in which every step takes a state up. -/
structure Machine.Climbs {σ : Type} (m : Machine σ) (R : σ → σ → Prop) : Prop where
  refl (a : σ) : R a a
  trans {a b c : σ} : R a b → R b c → R a c
  step {s : Step} (a : σ) : s.isPlain = true → R a (m.step s a)
  deepen (levels : Nat) (a : σ) : R a (m.deepen levels a)
  undeepen (levels : Nat) (a b : σ) : R b (m.undeepen levels a b)
  override (classify : Classifier) (a : σ) : R a (m.override classify a)
  restore (classify : Classifier) (a b : σ) : R b (m.restore classify a b)

/-- From `a` on, by way of the states in between, to `b` every state is below all that come later. -/
def Ascent {σ : Type} (R : σ → σ → Prop) (a : σ) (between : List σ) (b : σ) : Prop :=
  (a :: (between ++ [b])).Pairwise R

namespace Machine.Climbs
variable {σ : Type} {m : Machine σ} {R : σ → σ → Prop}

private theorem append (h : m.Climbs R) {a b c : σ} {xs ys : List σ} (hx : Ascent R a xs b)
    (hy : Ascent R b ys c) : Ascent R a (xs ++ ys) c := by
  rw [Ascent, ← List.cons_append, List.pairwise_append] at hx
  obtain ⟨hfront, -, hbelow⟩ := hx
  rw [Ascent, List.pairwise_cons] at hy
  rw [Ascent, List.append_assoc, ← List.cons_append, List.pairwise_append]
  exact ⟨hfront, hy.2, fun x hx y hy' => h.trans (hbelow x hx b List.mem_cons_self) (hy.1 y hy')⟩

private theorem none {a b : σ} (h : R a b) : Ascent R a [] b := by
  simpa [Ascent] using h

private theorem one (h : m.Climbs R) {a b : σ} (hab : R a b) : Ascent R a [b] b := by
  simp [Ascent, hab, h.refl b]

private theorem scope (h : m.Climbs R) {a entered : σ} {steps : σ → Trail σ} {leave : σ → σ}
    (henter : R a entered)
    (hsteps : Ascent R entered ((steps entered).seen.map Glimpse.value) (steps entered).state)
    (hleave : R (steps entered).state (leave (steps entered).state)) :
    Ascent R a ((Trail.scope entered steps leave).seen.map Glimpse.value)
      (Trail.scope entered steps leave).state := by
  have hinside := h.append (h.one henter) hsteps
  simp only [Trail.scope, List.map_cons, List.cons_append, List.map_append, Glimpse.value]
  refine h.append hinside ?_
  split
  · exact none hleave
  · exact h.one hleave

private theorem run_runAll (h : m.Climbs R) :
    (∀ (s : Step) (a : σ), Ascent R a ((m.run s a).seen.map Glimpse.value) (m.run s a).state) ∧
    ∀ (steps : List Step) (a : σ),
      Ascent R a ((m.runAll steps a).seen.map Glimpse.value) (m.runAll steps a).state := by
  apply Step.induction_scopes
  case plain =>
    intro s hs a
    rw [m.run_of_isPlain hs]
    exact h.one (h.step a hs)
  case finish => exact fun a => h.one (h.refl a)
  case abort => exact fun a => none (h.refl a)
  case indented =>
    exact fun levels _ ih a => h.scope (h.deepen levels a) (ih _) (h.undeepen levels a _)
  case classified =>
    exact fun classify _ ih a => h.scope (h.override classify a) (ih _) (h.restore classify a _)
  case nil => exact fun a => none (h.refl a)
  case cons =>
    intro step rest hstep hrest a
    rw [runAll, Trail.andThen]
    split
    · exact hstep a
    · rw [List.map_append]
      exact h.append (hstep a) (hrest _)

/-- What is seen of a run goes up. -/
theorem session (h : m.Climbs R) (steps : List Step) (a : σ) :
    Ascent R a ((m.session steps a).2.map Glimpse.value) (m.session steps a).1 := by
  induction steps generalizing a with
  | nil => exact none (h.refl a)
  | cons step rest ih =>
    have hrun := h.run_runAll.1 step a
    rw [Machine.session, List.map_append]
    refine h.append ?_ (ih (m.run step a).state)
    split
    · rw [List.map_append]
      exact h.append hrun (h.one (h.refl _))
    · exact hrun

end Machine.Climbs

end CodeScribe
