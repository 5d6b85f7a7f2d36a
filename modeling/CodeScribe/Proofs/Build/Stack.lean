import CodeScribe.BuildScope
import CodeScribe.Proofs.Imports.Insertion

/-! The stack of build scopes: what registrations do to it, and what its guards take from it. -/
namespace CodeScribe

namespace ScopeStack

def record (s : ScopeStack) (names : List String) : ScopeStack :=
  names.foldl (fun acc name => (acc.register name).2) s

@[simp] theorem record_nil (s : ScopeStack) : s.record [] = s := rfl

theorem record_append (s : ScopeStack) (names more : List String) :
    s.record (names ++ more) = (s.record names).record more := List.foldl_append

/-- Without a scope nothing is recorded. -/
theorem record_of_empty (names : List String) : record [] names = [] := by
  induction names with
  | nil => rfl
  | cons name names ih => exact ih

/-- Only the innermost scope records. -/
theorem record_cons (scope : BuildScope) (outer : ScopeStack) (names : List String) :
    record (scope :: outer) names =
      { scope with imports := names.foldl (fun acc name => Imports.insertNew name acc) scope.imports }
        :: outer := by
  induction names generalizing scope with
  | nil => rfl
  | cons name names ih => exact ih _

/-- A fresh scope holds each name once, in the order in which they were first recorded. -/
theorem record_fresh (config : Config) (outer : ScopeStack) (names : List String) :
    record ({ config } :: outer) names = { config, imports := names.eraseDups } :: outer := by
  have hnames := Imports.foldl_insertNew_eq names []
  rw [record_cons]
  exact congrArg (fun imports => { config, imports : BuildScope } :: outer) hnames

theorem length_record (s : ScopeStack) (names : List String) : (s.record names).length = s.length := by
  cases s with
  | nil => rw [record_of_empty]
  | cons scope outer =>
    rw [record_cons]
    rfl

theorem closeTo_of_lt {depth : Nat} {s : ScopeStack} (h : s.length < depth) :
    closeTo depth s = (none, s) := by
  cases s with
  | nil => rfl
  | cons scope outer => exact if_neg (by simpa using h)

theorem closeTo_innermost (scope : BuildScope) (outer : ScopeStack) :
    closeTo (outer.length + 1) (scope :: outer) = (some scope.imports, outer) := by
  rw [closeTo, if_pos (Nat.le_refl _), closeTo_of_lt (Nat.lt_succ_self _)]

/-- The guard of the innermost scope takes exactly that scope. -/
theorem finish_innermost (scope : BuildScope) (outer : ScopeStack) :
    finish (scope :: outer) ⟨outer.length + 1⟩ = (scope.imports, outer) := by
  rw [finish, closeTo_innermost]
  rfl

theorem discard_innermost (scope : BuildScope) (outer : ScopeStack) :
    discard (scope :: outer) ⟨outer.length + 1⟩ = outer := by
  rw [discard, closeTo_innermost]

end ScopeStack
end CodeScribe
