import CodeScribe.Proofs.Build.Nested

/-! Runs of build scopes whose guards end in any order, beside runs in which every scope knows its guard.
A guard knows only how many scopes were open behind its entry. That is enough as long as no guard ends
behind the end of its own scope with as many scopes open again. -/
namespace CodeScribe

namespace ScopeEvent

def entered? : ScopeEvent → Option Nat
  | .enter guard _ => some guard
  | _ => none

def ended? : ScopeEvent → Option Nat
  | .finish guard | .discard guard => some guard
  | _ => none

/-- The guards that a run makes, in order. -/
def entered (events : List ScopeEvent) : List Nat := events.filterMap entered?

end ScopeEvent

namespace ScopeStack

/-- A scope that stands on `outer` is taken by its own depth, with all scopes inside it. -/
private theorem closeTo_append (inner : ScopeStack) (scope : BuildScope) (outer : ScopeStack) :
    closeTo (outer.length + 1) (inner ++ scope :: outer) = (some scope.imports, outer) := by
  induction inner with
  | nil => exact closeTo_innermost scope outer
  | cons first inner ih =>
    have hdepth : outer.length + 1 ≤ (inner ++ scope :: outer).length + 1 := by
      simp only [List.length_append, List.length_cons]
      omega
    rw [List.cons_append, closeTo, if_pos hdepth, ih]

/-- Where a guard finds as many scopes as behind its entry, at least one is taken. -/
private theorem length_closeTo_lt {depth : Nat} {s : ScopeStack} (hpos : 0 < depth) (h : depth ≤ s.length) :
    (closeTo depth s).2.length < depth := by
  induction s with
  | nil =>
    rw [List.length_nil] at h
    omega
  | cons scope outer ih =>
    rw [List.length_cons] at h
    rw [closeTo, if_pos h]
    rcases Nat.lt_or_ge outer.length depth with hlt | hge
    · rw [closeTo_of_lt hlt]
      exact hlt
    · cases hclose : closeTo depth outer with
      | mk imports rest =>
        rw [hclose] at ih
        cases imports <;> exact ih hge

end ScopeStack

/-- The open scopes, innermost first, each with its guard, and the guards that have not ended. -/
structure OwnedRun where
  scopes : List (Nat × BuildScope) := []
  guards : List Nat := []

namespace OwnedRun

def stack (o : OwnedRun) : ScopeStack := o.scopes.map (·.2)

/-- The guards of the open scopes, innermost first. -/
def owners (o : OwnedRun) : List Nat := o.scopes.map (·.1)

/-- The scope of a guard, and the scopes around it. -/
def around? (guard : Nat) : List (Nat × BuildScope) → Option (BuildScope × List (Nat × BuildScope))
  | [] => none
  | (owner, scope) :: outer => if owner = guard then some (scope, outer) else around? guard outer

/-- Ends a guard. It takes its own scope with the scopes inside it, and nothing when its own is gone. -/
def endGuard (o : OwnedRun) (guard : Nat) : Option (List String) × OwnedRun :=
  if guard ∈ o.guards then
    match around? guard o.scopes with
    | some (own, outer) => (some own.imports, { scopes := outer, guards := o.guards.erase guard })
    | none => (some [], { o with guards := o.guards.erase guard })
  else (none, o)

def record (name : String) : List (Nat × BuildScope) → List (Nat × BuildScope)
  | [] => []
  | (owner, scope) :: outer => (owner, { scope with imports := Imports.insertNew name scope.imports }) :: outer

def step (o : OwnedRun) : ScopeEvent → Option (List String) × OwnedRun
  | .enter guard config =>
    (none, { scopes := (guard, { config }) :: o.scopes, guards := guard :: o.guards })
  | .register name => (none, { o with scopes := record name o.scopes })
  | .finish guard => o.endGuard guard
  | .discard guard => (none, (o.endGuard guard).2)

def follow (o : OwnedRun) (events : List ScopeEvent) : OwnedRun :=
  events.foldl (fun o e => (o.step e).2) o

def after (events : List ScopeEvent) : OwnedRun := follow {} events

/-- What a run shows: the imports that each event hands over, and the scopes that are open behind it. -/
def shows (o : OwnedRun) : List ScopeEvent → List (Option (List String) × ScopeStack)
  | [] => []
  | e :: events => ((o.step e).1, (o.step e).2.stack) :: (o.step e).2.shows events

private theorem exists_of_around? {guard : Nat} {scopes outer : List (Nat × BuildScope)} {own : BuildScope}
    (h : around? guard scopes = some (own, outer)) : ∃ inner, scopes = inner ++ (guard, own) :: outer := by
  induction scopes with
  | nil => cases h
  | cons first scopes ih =>
    obtain ⟨owner, scope⟩ := first
    rw [around?] at h
    split at h
    · cases h
      subst owner
      exact ⟨[], rfl⟩
    · obtain ⟨inner, rfl⟩ := ih h
      exact ⟨(owner, scope) :: inner, rfl⟩

private theorem around?_eq_none {guard : Nat} {scopes : List (Nat × BuildScope)} :
    around? guard scopes = none ↔ guard ∉ scopes.map (·.1) := by
  induction scopes with
  | nil => simp [around?]
  | cons first scopes ih =>
    obtain ⟨owner, scope⟩ := first
    rw [around?]
    split
    · simp [*]
    · simp [ih, Ne.symm ‹_›]

private theorem owners_record (name : String) (scopes : List (Nat × BuildScope)) :
    (record name scopes).map (·.1) = scopes.map (·.1) := by
  cases scopes <;> rfl

private theorem stack_record (name : String) (scopes : List (Nat × BuildScope)) :
    (record name scopes).map (·.2) = (ScopeStack.register (scopes.map (·.2)) name).2 := by
  cases scopes <;> rfl

/-- A guard whose scope is gone takes nothing. -/
theorem endGuard_of_gone {o : OwnedRun} {guard : Nat} (hheld : guard ∈ o.guards) (hgone : guard ∉ o.owners) :
    o.endGuard guard = (some [], { o with guards := o.guards.erase guard }) := by
  rw [endGuard, if_pos hheld, around?_eq_none.mpr hgone]

/-- Only an entry adds a guard. -/
private theorem mem_guards_step {o : OwnedRun} {e : ScopeEvent} {guard : Nat}
    (h : guard ∈ (o.step e).2.guards) :
    e.entered? = some guard ∨ guard ∈ o.guards := by
  cases e with
  | enter name config =>
    rcases List.mem_cons.mp h with rfl | hold
    · exact Or.inl rfl
    · exact Or.inr hold
  | register name => exact Or.inr h
  | finish name | discard name =>
    simp only [step, endGuard] at h
    split at h
    · split at h <;> exact Or.inr (List.mem_of_mem_erase h)
    · exact Or.inr h

end OwnedRun

namespace ScopeRun
open ScopeEvent

def shows (r : ScopeRun) : List ScopeEvent → List (Option (List String) × ScopeStack)
  | [] => []
  | e :: events => ((r.step e).1, (r.step e).2.scopes) :: (r.step e).2.shows events

/-- A guard that ends behind the end of its scope finds fewer scopes open than behind its entry. -/
def Clear (r : ScopeRun) (o : OwnedRun) (e : ScopeEvent) : Prop :=
  ∀ guard g, e.ended? = some guard → r.guards.lookup guard = some g → guard ∉ o.owners →
    r.scopes.length < g.depth

/-- The state of a run in which a guard knows a depth, and of one in which a scope knows its guard. -/
structure Tracks (r : ScopeRun) (o : OwnedRun) : Prop where
  stack : r.scopes = o.stack
  guards : r.guards.map (·.1) = o.guards
  depths : ∀ entry ∈ r.guards, 0 < entry.2.depth
  owned : ∀ owner outer, owner :: outer <:+ o.owners → r.guards.lookup owner = some ⟨outer.length + 1⟩

variable {r : ScopeRun} {o : OwnedRun} {e : ScopeEvent} {guard : Nat} {g : ScopeGuard}

private theorem endGuard_none {α : Type} (close : ScopeStack → ScopeGuard → α × ScopeStack)
    (h : r.guards.lookup guard = none) : r.endGuard guard close = (none, r) := by
  rw [endGuard, h]

private theorem endGuard_some {α : Type} (close : ScopeStack → ScopeGuard → α × ScopeStack)
    (h : r.guards.lookup guard = some g) : r.endGuard guard close = (some (close r.scopes g).1,
      { scopes := (close r.scopes g).2, guards := r.guards.eraseP (·.1 == guard) }) := by
  rw [endGuard, h]

private theorem lookup_eraseP_of_ne {guards : List (Nat × ScopeGuard)} {owner : Nat} (h : owner ≠ guard) :
    (guards.eraseP (·.1 == guard)).lookup owner = guards.lookup owner := by
  induction guards with
  | nil => rfl
  | cons first guards ih =>
    obtain ⟨name, g⟩ := first
    by_cases hname : name = guard
    · subst name
      have hother : (owner == guard) = false := beq_eq_false_iff_ne.mpr h
      simp [List.lookup_cons, hother]
    · simp [List.lookup_cons, hname, ih]

private theorem forall_events_cons {P : List ScopeEvent → ScopeEvent → Prop} {events : List ScopeEvent} :
    (∀ front f back, e :: events = front ++ f :: back → P front f) ↔
      P [] e ∧ ∀ front f back, events = front ++ f :: back → P (e :: front) f := by
  constructor
  · intro h
    exact ⟨h [] e events rfl, fun front f back hevents => h (e :: front) f back (by rw [hevents]; rfl)⟩
  · rintro ⟨hfirst, hrest⟩ front f back hevents
    cases front with
    | nil =>
      cases hevents
      exact hfirst
    | cons first front =>
      cases hevents
      exact hrest front f back rfl

namespace Tracks

private theorem start : Tracks {} {} where
  stack := rfl
  guards := rfl
  depths := by simp
  owned := by simp [OwnedRun.owners]

private theorem lookup_eq_none_iff (h : Tracks r o) : r.guards.lookup guard = none ↔ guard ∉ o.guards := by
  rw [← h.guards, List.lookup_eq_none_iff, List.mem_map]
  constructor
  · rintro hother ⟨entry, hentry, rfl⟩
    simpa using hother entry hentry
  · intro hnone entry hentry
    have hother : guard ≠ entry.1 := fun heq => hnone ⟨entry, hentry, heq.symm⟩
    simpa using hother

private theorem held (h : Tracks r o) (hlookup : r.guards.lookup guard = some g) : guard ∈ o.guards :=
  Decidable.byContradiction fun hended => by simp [h.lookup_eq_none_iff.mpr hended] at hlookup

private theorem depth_pos (h : Tracks r o) (hg : r.guards.lookup guard = some g) : 0 < g.depth := by
  obtain ⟨before, after, hguards, -⟩ := List.lookup_eq_some_iff.mp hg
  exact h.depths (guard, g) (by simp [hguards])

/-- The guard of an open scope has not ended. -/
private theorem mem_guards (h : Tracks r o) (howner : guard ∈ o.owners) : guard ∈ o.guards := by
  obtain ⟨inner, outer, howners, -⟩ := List.eq_append_cons_of_mem howner
  refine Decidable.byContradiction fun hended => ?_
  have hnone := h.lookup_eq_none_iff.mpr hended
  rw [h.owned guard outer ⟨inner, howners.symm⟩] at hnone
  cases hnone

/-- No guard has two open scopes. -/
private theorem not_mem_outer (h : Tracks r o) {outer : List Nat} (howner : guard :: outer <:+ o.owners) :
    guard ∉ outer := by
  intro hagain
  obtain ⟨inner, rest, rfl, -⟩ := List.eq_append_cons_of_mem hagain
  have hrest : guard :: rest <:+ o.owners :=
    (List.suffix_append (guard :: inner) (guard :: rest)).trans howner
  have hdepth := (h.owned guard _ howner).symm.trans (h.owned guard rest hrest)
  simp only [Option.some.injEq, ScopeGuard.mk.injEq, List.length_append, List.length_cons] at hdepth
  omega

private theorem enter (h : Tracks r o) (config : Config) (hfresh : guard ∉ o.guards) :
    Tracks (r.step (.enter guard config)).2 (o.step (.enter guard config)).2 where
  stack := congrArg (({ config } : BuildScope) :: ·) h.stack
  guards := congrArg (guard :: ·) h.guards
  depths := by
    intro entry hentry
    rcases List.mem_cons.mp hentry with rfl | hold
    · exact Nat.succ_pos _
    · exact h.depths entry hold
  owned := by
    intro owner outer hsuffix
    rcases List.suffix_cons_iff.mp hsuffix with hnew | hold
    · cases hnew
      have hlength : r.scopes.length = o.owners.length := by
        rw [h.stack, OwnedRun.stack, OwnedRun.owners, List.length_map, List.length_map]
      simp [ScopeRun.step, ScopeStack.enter, hlength, OwnedRun.owners]
    · have howner : owner ∈ o.owners := hold.subset List.mem_cons_self
      have hother : (owner == guard) = false :=
        beq_eq_false_iff_ne.mpr fun heq => hfresh (heq ▸ h.mem_guards howner)
      simp [ScopeRun.step, ScopeStack.enter, List.lookup_cons, hother, h.owned owner outer hold]

private theorem register (h : Tracks r o) (name : String) :
    Tracks (r.step (.register name)).2 (o.step (.register name)).2 where
  stack := by
    simp only [ScopeRun.step, h.stack, OwnedRun.stack, OwnedRun.step, OwnedRun.stack_record]
  guards := h.guards
  depths := h.depths
  owned := by
    intro owner outer hsuffix
    refine h.owned owner outer ?_
    rwa [OwnedRun.owners, OwnedRun.step, OwnedRun.owners_record] at hsuffix

/-- The end of a guard that leaves the scopes `outer`, none of which is its own. -/
private theorem remove (h : Tracks r o) {outer : List (Nat × BuildScope)} (hsuffix : outer <:+ o.scopes)
    (hother : guard ∉ outer.map (·.1)) :
    Tracks { scopes := outer.map (·.2), guards := r.guards.eraseP (·.1 == guard) }
      { scopes := outer, guards := o.guards.erase guard } where
  stack := rfl
  guards := by
    rw [← h.guards, List.erase_eq_eraseP', List.eraseP_map]
    rfl
  depths entry hentry := h.depths entry (List.mem_of_mem_eraseP hentry)
  owned := by
    intro owner rest hrest
    have hne : owner ≠ guard := fun heq => hother (heq ▸ hrest.subset List.mem_cons_self)
    rw [lookup_eraseP_of_ne hne]
    exact h.owned owner rest (hrest.trans (hsuffix.map _))

/-- A guard that keeps clear of the scopes of others takes the same scopes either way. -/
theorem closeTo_eq (h : Tracks r o) (hlookup : r.guards.lookup guard = some g)
    (hclear : guard ∉ o.owners → r.scopes.length < g.depth) :
    ∃ imports outer, ScopeStack.closeTo g.depth r.scopes = (imports, outer.map (·.2)) ∧
      o.endGuard guard = (some (imports.getD []), { scopes := outer, guards := o.guards.erase guard }) ∧
      outer <:+ o.scopes ∧ guard ∉ outer.map (·.1) := by
  rw [OwnedRun.endGuard, if_pos (h.held hlookup)]
  cases hown : OwnedRun.around? guard o.scopes with
  | none =>
    have hgone := OwnedRun.around?_eq_none.mp hown
    rw [ScopeStack.closeTo_of_lt (hclear hgone), h.stack]
    exact ⟨none, o.scopes, rfl, rfl, List.suffix_refl _, hgone⟩
  | some found =>
    obtain ⟨own, outer⟩ := found
    obtain ⟨inner, hscopes⟩ := OwnedRun.exists_of_around? hown
    have hsuffix : (guard, own) :: outer <:+ o.scopes := ⟨inner, hscopes.symm⟩
    have howner : guard :: outer.map (·.1) <:+ o.owners := hsuffix.map Prod.fst
    obtain rfl : g = ⟨(outer.map (·.2)).length + 1⟩ := by
      have hdepth := hlookup.symm.trans (h.owned guard _ howner)
      rwa [Option.some.injEq, List.length_map, ← List.length_map (f := Prod.snd)] at hdepth
    have hstack : r.scopes = inner.map (·.2) ++ own :: outer.map (·.2) := by
      rw [h.stack, OwnedRun.stack, hscopes, List.map_append, List.map_cons]
    rw [hstack, ScopeStack.closeTo_append]
    exact ⟨some own.imports, outer, rfl, rfl, (List.suffix_cons _ _).trans hsuffix, h.not_mem_outer howner⟩

/-- An event that keeps clear shows the same in both runs, and leaves states that stay alike. -/
theorem step (h : Tracks r o) (hfresh : ∀ guard, e.entered? = some guard → guard ∉ o.guards)
    (hclear : Clear r o e) : (r.step e).1 = (o.step e).1 ∧ Tracks (r.step e).2 (o.step e).2 := by
  cases e with
  | enter guard config => exact ⟨rfl, h.enter config (hfresh guard rfl)⟩
  | register name => exact ⟨rfl, h.register name⟩
  | finish guard | discard guard =>
    simp only [ScopeRun.step, OwnedRun.step]
    cases hlookup : r.guards.lookup guard with
    | none =>
      rw [endGuard_none _ hlookup, OwnedRun.endGuard, if_neg (h.lookup_eq_none_iff.mp hlookup)]
      exact ⟨by trivial, h⟩
    | some g =>
      obtain ⟨imports, outer, hclose, hend, hsuffix, hother⟩ := h.closeTo_eq hlookup (hclear guard g rfl hlookup)
      rw [endGuard_some _ hlookup, hend]
      simp only [ScopeStack.finish, ScopeStack.discard, hclose]
      exact ⟨trivial, h.remove hsuffix hother⟩

/-- A guard that ends behind the end of its scope, with as many scopes open again, takes some of them. -/
private theorem stack_step_ne (h : Tracks r o) (hstray : ¬ Clear r o e) :
    (r.step e).2.scopes ≠ (o.step e).2.stack := by
  simp only [Clear, Classical.not_forall, Nat.not_lt] at hstray
  obtain ⟨guard, g, hended, hlookup, hgone, hdepth⟩ := hstray
  have hkeeps : (o.endGuard guard).2.stack = r.scopes := by
    rw [OwnedRun.endGuard_of_gone (h.held hlookup) hgone, h.stack]
    rfl
  have hless := ScopeStack.length_closeTo_lt (h.depth_pos hlookup) hdepth
  intro hsame
  have hkept : (ScopeStack.closeTo g.depth r.scopes).2 = r.scopes := by
    refine Eq.trans ?_ hkeeps
    cases e with
    | enter | register => cases hended
    | finish | discard =>
      cases hended
      simp only [ScopeRun.step, OwnedRun.step, endGuard_some _ hlookup] at hsame
      exact hsame
  rw [hkept] at hless
  omega

/-- Two runs that are alike show the same exactly when every end of a guard keeps clear. -/
theorem shows_eq_iff (h : Tracks r o) {events : List ScopeEvent} (hdistinct : (entered events).Nodup)
    (hfresh : ∀ guard ∈ entered events, guard ∉ o.guards) :
    r.shows events = o.shows events ↔
      ∀ front e back, events = front ++ e :: back → Clear (r.follow front) (o.follow front) e := by
  induction events generalizing r o with
  | nil => simp [ScopeRun.shows, OwnedRun.shows]
  | cons e events ih =>
    rw [forall_events_cons]
    by_cases hclear : Clear r o e
    · have hnew : ∀ guard, e.entered? = some guard → guard ∉ o.guards ∧ guard ∉ entered events := by
        intro guard he
        have hentered : entered (e :: events) = guard :: entered events := List.filterMap_cons_some he
        rw [hentered] at hfresh hdistinct
        exact ⟨hfresh guard List.mem_cons_self, (List.nodup_cons.mp hdistinct).1⟩
      have hsub : (entered events).Sublist (entered (e :: events)) := (List.sublist_cons_self e events).filterMap _
      obtain ⟨hanswer, hnext⟩ := h.step (fun guard he => (hnew guard he).1) hclear
      have hrest := ih hnext (hdistinct.sublist hsub) fun guard hguard hheld => by
        rcases OwnedRun.mem_guards_step hheld with he | hold
        · exact (hnew guard he).2 hguard
        · exact hfresh guard (hsub.subset hguard) hold
      rw [ScopeRun.shows, OwnedRun.shows, List.cons.injEq, hrest, hanswer, hnext.stack]
      exact and_congr (iff_of_true rfl hclear) Iff.rfl
    · refine iff_of_false (fun hshows => ?_) fun hall => hclear hall.1
      rw [ScopeRun.shows, OwnedRun.shows, List.cons.injEq, Prod.mk.injEq] at hshows
      exact h.stack_step_ne hclear hshows.1.2

end Tracks

/-- Guards that end in any order, each made once: a run shows what it would show if every scope knew its
guard, exactly when no guard ends behind the end of its own scope with as many scopes open again. -/
theorem shows_owned_iff {events : List ScopeEvent} (h : (entered events).Nodup) :
    ({} : ScopeRun).shows events = ({} : OwnedRun).shows events ↔
      ∀ front e back, events = front ++ e :: back → Clear (after front) (OwnedRun.after front) e :=
  Tracks.start.shows_eq_iff h (by simp)

/-- The second guard outlives its scope, and ends when no scope is open. -/
def lateRun : List ScopeEvent :=
  [.enter 0 {}, .enter 1 {}, .register "Acme", .finish 0, .finish 1, .enter 2 {}, .register "System", .finish 2]

theorem shows_owned_lateRun : (entered lateRun).Nodup ∧
    (∀ front e back, lateRun = front ++ e :: back → Clear (after front) (OwnedRun.after front) e) ∧
    (({} : ScopeRun).shows lateRun).getLast? = some (some ["System"], []) :=
  ⟨by decide, (shows_owned_iff (by decide)).mp (by decide), by decide⟩

/-- The second guard outlives its scope, and ends when two later scopes are open. -/
def reusedRun : List ScopeEvent :=
  [.enter 0 {}, .enter 1 {}, .discard 0, .enter 2 {}, .enter 3 {}, .register "Acme", .discard 1, .finish 3]

/-- The scope of the last guard is taken by the second one, and what was registered in it is lost. -/
theorem shows_reusedRun : 1 ∉ (OwnedRun.after (reusedRun.take 6)).owners ∧
    ({} : ScopeRun).shows reusedRun ≠ ({} : OwnedRun).shows reusedRun ∧
    (({} : ScopeRun).shows reusedRun).getLast? = some (some [], [{ config := {} }]) ∧
    (({} : OwnedRun).shows reusedRun).getLast? = some (some ["Acme"], [{ config := {} }]) := by
  decide

end ScopeRun
end CodeScribe
