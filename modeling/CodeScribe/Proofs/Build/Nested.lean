import CodeScribe.Proofs.Build.Stack

/-! Runs of build scopes whose guards end in the reverse order of entering. A guard then takes what was
registered in its own scope, and leaves the stack as its scope had found it. -/
namespace CodeScribe

/-- What happens to build scopes. A guard is named when its scope is entered. -/
inductive ScopeEvent where
  | enter (guard : Nat) (config : Config)
  | register (name : String)
  | finish (guard : Nat)
  | discard (guard : Nat)

/-- The open scopes, and the guards that have not ended, latest first. -/
structure ScopeRun where
  scopes : ScopeStack := []
  guards : List (Nat × ScopeGuard) := []

namespace ScopeRun

/-- Ends a guard by `close`. The answer is what `close` hands over. -/
def endGuard {α : Type} (r : ScopeRun) (guard : Nat) (close : ScopeStack → ScopeGuard → α × ScopeStack) :
    Option α × ScopeRun :=
  match r.guards.lookup guard with
  | none => (none, r)
  | some g =>
    let (answer, scopes) := close r.scopes g
    (some answer, { scopes, guards := r.guards.eraseP (·.1 == guard) })

/-- The state behind an event, and the imports that the event hands over. -/
def step (r : ScopeRun) : ScopeEvent → Option (List String) × ScopeRun
  | .enter guard config =>
    let (g, scopes) := r.scopes.enter config
    (none, { scopes, guards := (guard, g) :: r.guards })
  | .register name => (none, { r with scopes := (r.scopes.register name).2 })
  | .finish guard => r.endGuard guard ScopeStack.finish
  | .discard guard => (none, (r.endGuard guard fun s g => ((), s.discard g)).2)

def follow (r : ScopeRun) (events : List ScopeEvent) : ScopeRun :=
  events.foldl (fun r e => (r.step e).2) r

/-- The state behind the events of a run, which starts without scopes. -/
def after (events : List ScopeEvent) : ScopeRun := follow {} events

private theorem follow_append (r : ScopeRun) (events more : List ScopeEvent) :
    r.follow (events ++ more) = (r.follow events).follow more := List.foldl_append

private theorem follow_cons (r : ScopeRun) (e : ScopeEvent) (events : List ScopeEvent) :
    r.follow (e :: events) = (r.step e).2.follow events := rfl

end ScopeRun

namespace ScopeEvent

/-- The guards that have not ended behind an event, latest first. There is no answer when one ends that
is not the latest of them. -/
def nest? (live : List Nat) : ScopeEvent → Option (List Nat)
  | .enter guard _ => some (guard :: live)
  | .register _ => some live
  | .finish guard | .discard guard => if live.head? = some guard then some live.tail else none

/-- The guards that have not ended behind a run in which guards end in the reverse order of entering. -/
def live? (events : List ScopeEvent) : Option (List Nat) := events.foldlM nest? []

/-- The names registered while no scope was open but those around the events, where `depth` scopes are
open in front of them. -/
def own : Nat → List ScopeEvent → List String
  | _, [] => []
  | depth, .enter _ _ :: rest => own (depth + 1) rest
  | depth, .register name :: rest => if depth = 0 then name :: own depth rest else own depth rest
  | depth, .finish _ :: rest | depth, .discard _ :: rest => own (depth - 1) rest

private theorem nest?_end {live after : List Nat} {guard : Nat}
    (h : (if live.head? = some guard then some live.tail else none) = some after) :
    live = guard :: after := by
  rw [Option.ite_none_right_eq_some] at h
  obtain ⟨hhead, htail⟩ := h
  cases live with
  | nil => cases hhead
  | cons first rest =>
    cases hhead
    cases htail
    rfl

/-- Guards below the live ones do not matter to those that end above them. -/
private theorem nest?_append {live after : List Nat} {e : ScopeEvent} (h : nest? live e = some after)
    (below : List Nat) : nest? (live ++ below) e = some (after ++ below) := by
  cases e with
  | enter guard config =>
    cases h
    rfl
  | register name =>
    cases h
    rfl
  | finish guard | discard guard =>
    obtain rfl := nest?_end h
    exact if_pos rfl

private theorem foldlM_nest?_append {live after : List Nat} {events : List ScopeEvent}
    (h : events.foldlM nest? live = some after) (below : List Nat) :
    events.foldlM nest? (live ++ below) = some (after ++ below) := by
  induction events generalizing live with
  | nil =>
    cases h
    rfl
  | cons e events ih =>
    obtain ⟨next, hnext, hrest⟩ := Option.bind_eq_some_iff.mp h
    exact Option.bind_eq_some_iff.mpr ⟨next ++ below, nest?_append hnext below, ih hrest⟩

private theorem own_cons {live after : List Nat} {e : ScopeEvent} (h : nest? live e = some after)
    (rest : List ScopeEvent) :
    own live.length (e :: rest) = own live.length [e] ++ own after.length rest := by
  cases e with
  | enter guard config =>
    cases h
    rfl
  | register name =>
    cases h
    simp only [own]
    split <;> rfl
  | finish guard | discard guard =>
    obtain rfl := nest?_end h
    rfl

private theorem own_append {live after : List Nat} {events : List ScopeEvent}
    (h : events.foldlM nest? live = some after) (more : List ScopeEvent) :
    own live.length (events ++ more) = own live.length events ++ own after.length more := by
  induction events generalizing live with
  | nil =>
    cases h
    rfl
  | cons e events ih =>
    obtain ⟨next, hnext, hrest⟩ := Option.bind_eq_some_iff.mp h
    rw [List.cons_append, own_cons hnext (events ++ more), own_cons hnext events, ih hrest,
      List.append_assoc]

private theorem foldlM_nest?_singleton (live : List Nat) (e : ScopeEvent) :
    [e].foldlM nest? live = nest? live e := bind_pure (nest? live e)

private theorem live?_append {events : List ScopeEvent} {live : List Nat} (h : live? events = some live)
    (more : List ScopeEvent) : live? (events ++ more) = more.foldlM nest? live := by
  rw [live?, List.foldlM_append, show events.foldlM nest? [] = some live from h]
  rfl

/-- A registration inside an open scope is none of the names registered outside it. -/
private theorem own_unregister {front back : List ScopeEvent} {name : String} {inner : Nat} {outer : List Nat}
    (hfront : live? front = some (inner :: outer)) :
    own 0 (front ++ .register name :: back) = own 0 (front ++ back) := by
  have hsplit (more : List ScopeEvent) :
      own 0 (front ++ more) = own 0 front ++ own (outer.length + 1) more := own_append hfront more
  rw [hsplit, hsplit]
  rfl

/-- A scope in which all scopes have ended, up to its own end. -/
private theorem live?_scope {inside : List ScopeEvent} {guard : Nat} {e : ScopeEvent}
    (h : live? inside = some []) (he : nest? [guard] e = some []) (config : Config) :
    live? (.enter guard config :: (inside ++ [e])) = some [] := by
  have hinside : inside.foldlM nest? [guard] = some [guard] := foldlM_nest?_append h [guard]
  have hend : (inside ++ [e]).foldlM nest? [guard] = some [] := by
    rw [List.foldlM_append, hinside]
    exact (foldlM_nest?_singleton [guard] e).trans he
  exact hend

/-- A run by its open scopes: behind the entry of each of them all that was entered has ended. -/
inductive Nested : List ScopeEvent → List Nat → Prop
  | closed {events : List ScopeEvent} (h : live? events = some []) : Nested events []
  | scope {before inside : List ScopeEvent} {outer : List Nat} (hbefore : Nested before outer)
      (guard : Nat) (config : Config) (hinside : live? inside = some []) :
      Nested (before ++ .enter guard config :: inside) (guard :: outer)

namespace Nested
variable {events : List ScopeEvent} {live after : List Nat}

private theorem live?_eq (h : Nested events live) : live? events = some live := by
  induction h with
  | closed h => exact h
  | @scope before inside outer _ guard config hinside ih =>
    rw [live?_append ih]
    exact foldlM_nest?_append hinside (guard :: outer)

private theorem append_closed (h : Nested events live) {more : List ScopeEvent}
    (hmore : live? more = some []) : Nested (events ++ more) live := by
  cases h with
  | closed h => exact closed ((live?_append h more).trans hmore)
  | scope hbefore guard config hinside =>
    rw [List.append_assoc, List.cons_append]
    exact scope hbefore guard config ((live?_append hinside more).trans hmore)

/-- The end of the innermost scope closes it as a part of the scope around it. -/
theorem append_end {guard : Nat} (h : Nested events (guard :: live)) {e : ScopeEvent}
    (he : nest? [guard] e = some []) : Nested (events ++ [e]) live := by
  cases h with
  | scope hbefore guard config hinside =>
    rw [List.append_assoc, List.cons_append]
    exact hbefore.append_closed (live?_scope hinside he config)

private theorem append {e : ScopeEvent} (h : Nested events live) (he : nest? live e = some after) :
    Nested (events ++ [e]) after := by
  cases e with
  | enter guard config =>
    cases he
    exact scope h guard config rfl
  | register name =>
    cases he
    exact h.append_closed rfl
  | finish guard | discard guard =>
    obtain rfl := nest?_end he
    exact h.append_end (if_pos rfl)

private theorem extend {more : List ScopeEvent} (h : Nested events live)
    (hmore : more.foldlM nest? live = some after) : Nested (events ++ more) after := by
  induction more generalizing events live with
  | nil =>
    cases hmore
    rwa [List.append_nil]
  | cons e more ih =>
    obtain ⟨next, hnext, hrest⟩ := Option.bind_eq_some_iff.mp hmore
    have hrun := ih (h.append hnext) hrest
    rwa [List.append_assoc] at hrun

private theorem of_live? (h : live? events = some live) : Nested events live :=
  (closed rfl : Nested [] []).extend h

end Nested

end ScopeEvent

namespace ScopeRun

/-- The guards of scopes that stand on `height` others, latest first. -/
def tagged (height : Nat) : List Nat → List (Nat × ScopeGuard)
  | [] => []
  | guard :: outer => (guard, ⟨height + outer.length + 1⟩) :: tagged height outer

/-- A state with scopes on top of `base`, one for each of the guards `live`, and other guards below. -/
structure Above (base : ScopeStack) (guards : List (Nat × ScopeGuard)) (live : List Nat)
    (r : ScopeRun) : Prop where
  scopes : ∃ inner, inner.length = live.length ∧ r.scopes = inner ++ base
  guards : r.guards = tagged base.length live ++ guards

namespace Above
open ScopeEvent
variable {base : ScopeStack} {guards : List (Nat × ScopeGuard)} {live after : List Nat} {r : ScopeRun}

private theorem bottom (r : ScopeRun) : Above r.scopes r.guards [] r := ⟨⟨[], rfl, rfl⟩, rfl⟩

private theorem enter (h : Above base guards live r) (guard : Nat) (config : Config) :
    Above base guards (guard :: live) (r.step (.enter guard config)).2 := by
  obtain ⟨inner, hlength, hscopes⟩ := h.scopes
  refine ⟨⟨{ config } :: inner, by rw [List.length_cons, hlength, List.length_cons], ?_⟩, ?_⟩
  · simp [ScopeRun.step, ScopeStack.enter, hscopes]
  · have hheight : r.scopes.length = base.length + live.length := by
      rw [hscopes, List.length_append, hlength, Nat.add_comm]
    simp [ScopeRun.step, ScopeStack.enter, h.guards, tagged, hheight]

/-- A name is registered below when no scope is on top, and not otherwise. -/
theorem register (h : Above base guards live r) (name : String) :
    Above (base.record (if live.length = 0 then [name] else [])) guards live
      (r.step (.register name)).2 := by
  obtain ⟨inner, hlength, hscopes⟩ := h.scopes
  cases inner with
  | nil =>
    have hnone : live.length = 0 := hlength.symm
    rw [if_pos hnone]
    refine ⟨⟨[], hlength, ?_⟩, ?_⟩
    · simp only [ScopeRun.step, hscopes]
      rfl
    · rw [ScopeStack.length_record]
      exact h.guards
  | cons scope inner =>
    have hsome : live.length ≠ 0 := by
      rw [← hlength]
      exact Nat.succ_ne_zero _
    rw [if_neg hsome, ScopeStack.record_nil]
    refine ⟨⟨{ scope with imports := Imports.insertNew name scope.imports } :: inner, hlength, ?_⟩, h.guards⟩
    simp only [ScopeRun.step, hscopes]
    rfl

/-- The latest guard takes the scope on top. -/
theorem endGuard {α : Type} (close : ScopeStack → ScopeGuard → α × ScopeStack)
    (hclose : ∀ scope outer, (close (scope :: outer) ⟨outer.length + 1⟩).2 = outer) {guard : Nat}
    (h : Above base guards (guard :: live) r) : Above base guards live (r.endGuard guard close).2 := by
  obtain ⟨inner, hlength, hscopes⟩ := h.scopes
  cases inner with
  | nil => cases hlength
  | cons scope inner =>
    have hinner : inner.length = live.length := Nat.succ.inj hlength
    have hheight : base.length + live.length + 1 = (inner ++ base).length + 1 := by
      rw [List.length_append, hinner, Nat.add_comm base.length]
    have hlookup : r.guards.lookup guard = some ⟨(inner ++ base).length + 1⟩ := by
      simp [h.guards, tagged, hheight]
    refine ⟨⟨inner, hinner, ?_⟩, ?_⟩
    · simp only [ScopeRun.endGuard, hlookup, hscopes]
      exact hclose scope (inner ++ base)
    · simp [ScopeRun.endGuard, h.guards, tagged]

private theorem step {e : ScopeEvent} (h : Above base guards live r) (he : nest? live e = some after) :
    Above (base.record (own live.length [e])) guards after (r.step e).2 := by
  cases e with
  | enter guard config =>
    cases he
    exact h.enter guard config
  | register name =>
    cases he
    exact h.register name
  | finish guard =>
    obtain rfl := nest?_end he
    exact endGuard ScopeStack.finish
      (fun scope outer => congrArg Prod.snd (ScopeStack.finish_innermost scope outer)) h
  | discard guard =>
    obtain rfl := nest?_end he
    exact endGuard (fun s g => ((), s.discard g)) ScopeStack.discard_innermost h

private theorem follow {events : List ScopeEvent} (h : Above base guards live r)
    (hevents : events.foldlM nest? live = some after) :
    Above (base.record (own live.length events)) guards after (r.follow events) := by
  induction events generalizing base live r with
  | nil =>
    cases hevents
    exact h
  | cons e events ih =>
    obtain ⟨next, hnext, hrest⟩ := Option.bind_eq_some_iff.mp hevents
    rw [own_cons hnext, ScopeStack.record_append, follow_cons]
    exact ih (h.step hnext) hrest

end Above

/-- Events whose scopes have all ended leave nothing but the names that they registered around them. -/
theorem follow_of_closed {inside : List ScopeEvent} (h : ScopeEvent.live? inside = some [])
    (r : ScopeRun) : r.follow inside = { r with scopes := r.scopes.record (ScopeEvent.own 0 inside) } := by
  obtain ⟨⟨inner, hlength, hscopes⟩, hguards⟩ := (Above.bottom r).follow h
  obtain rfl := List.length_eq_zero_iff.mp hlength
  cases hr : r.follow inside with
  | mk scopes guards =>
    rw [hr] at hscopes hguards
    obtain rfl : scopes = _ := hscopes
    obtain rfl : guards = _ := hguards
    rfl

/-- The state in an open scope: it holds the names that were registered in it, each once and in the order
in which they came first, and stands on the state from which it was entered. -/
theorem after_enter {inside : List ScopeEvent} (h : ScopeEvent.live? inside = some [])
    (before : List ScopeEvent) (guard : Nat) (config : Config) :
    after (before ++ .enter guard config :: inside) =
      { scopes := { config, imports := (ScopeEvent.own 0 inside).eraseDups } :: (after before).scopes
        guards := (guard, ⟨(after before).scopes.length + 1⟩) :: (after before).guards } := by
  rw [after, follow_append, follow_cons, follow_of_closed h]
  simp only [step, ScopeStack.enter, ScopeStack.record_fresh]
  rfl

private theorem step_finish {inside : List ScopeEvent} (h : ScopeEvent.live? inside = some [])
    (before : List ScopeEvent) (guard : Nat) (config : Config) :
    (after (before ++ .enter guard config :: inside)).step (.finish guard) =
      (some (ScopeEvent.own 0 inside).eraseDups, after before) := by
  rw [after_enter h]
  simp [step, endGuard, ScopeStack.finish_innermost]

private theorem step_discard {inside : List ScopeEvent} (h : ScopeEvent.live? inside = some [])
    (before : List ScopeEvent) (guard : Nat) (config : Config) :
    (after (before ++ .enter guard config :: inside)).step (.discard guard) = (none, after before) := by
  rw [after_enter h]
  simp [step, endGuard, ScopeStack.discard_innermost]

/-- What holds behind the events `inside` an open scope: it is the active one, its guard hands over what
was registered in it and leaves the state from which it was entered, and no registration in a scope
inside it matters to that. -/
structure Isolated (before : List ScopeEvent) (guard : Nat) (config : Config)
    (inside : List ScopeEvent) : Prop where
  activeConfig : (after (before ++ .enter guard config :: inside)).scopes.activeConfig? = some config
  finish : (after (before ++ .enter guard config :: inside)).step (.finish guard) =
    (some (ScopeEvent.own 0 inside).eraseDups, after before)
  discard : (after (before ++ .enter guard config :: inside)).step (.discard guard) =
    (none, after before)
  unregister : ∀ front name back inner outer, inside = front ++ .register name :: back →
    ScopeEvent.live? front = some (inner :: outer) →
    (after (before ++ .enter guard config :: (front ++ back))).step (.finish guard) =
      (some (ScopeEvent.own 0 inside).eraseDups, after before)

private theorem isolated {inside : List ScopeEvent} (h : ScopeEvent.live? inside = some [])
    (before : List ScopeEvent) (guard : Nat) (config : Config) :
    Isolated before guard config inside where
  activeConfig := by
    rw [after_enter h]
    rfl
  finish := step_finish h before guard config
  discard := step_discard h before guard config
  unregister := by
    rintro front name back inner outer rfl hfront
    have hless : ScopeEvent.live? (front ++ back) = some [] := by
      rw [ScopeEvent.live?_append hfront] at h ⊢
      exact h
    rw [step_finish hless, ScopeEvent.own_unregister hfront]

/-- Guards that end in the reverse order of entering keep their scopes apart: without a guard there is no
scope, and the scope of the latest guard is isolated from what was open before and inside it. -/
theorem scopes_isolated {events : List ScopeEvent} {live : List Nat}
    (h : ScopeEvent.live? events = some live) :
    (live = [] → (after events).scopes = []) ∧
    ∀ guard outer, live = guard :: outer →
      ∃ before config inside, events = before ++ .enter guard config :: inside ∧
        ScopeEvent.live? before = some outer ∧ ScopeEvent.live? inside = some [] ∧
        Isolated before guard config inside := by
  constructor
  · rintro rfl
    have hscopes : (after events).scopes = ScopeStack.record [] (ScopeEvent.own 0 events) :=
      congrArg ScopeRun.scopes (follow_of_closed h {})
    exact hscopes.trans (ScopeStack.record_of_empty _)
  · rintro guard outer rfl
    cases ScopeEvent.Nested.of_live? h with
    | scope hbefore guard config hinside =>
      exact ⟨_, config, _, rfl, hbefore.live?_eq, hinside, isolated hinside _ guard config⟩

/-- Two scopes are open, and a third was entered and dropped in the second. -/
def nestedRun : List ScopeEvent :=
  [.enter 0 {}, .register "Outer", .enter 1 { indent := .tab }, .register "Inner", .enter 2 {},
    .register "Lost", .discard 2, .register "Acme", .register "Inner"]

theorem scopes_isolated_nestedRun : ScopeEvent.live? nestedRun = some [1, 0] ∧
    (∃ before config inside, nestedRun = before ++ .enter 1 config :: inside ∧
      ScopeEvent.live? before = some [0] ∧ ScopeEvent.live? inside = some [] ∧
      Isolated before 1 config inside) ∧
    ((after nestedRun).step (.finish 1)).1 = some ["Inner", "Acme"] :=
  ⟨rfl, (scopes_isolated rfl).2 1 [0] rfl, rfl⟩

end ScopeRun
end CodeScribe
