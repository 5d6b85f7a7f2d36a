import CodeScribe.Proofs.Build.Stack
import CodeScribe.Proofs.TypeRef.Shorten

/-! Documents built by any actions. A document ends up with the namespaces that its own actions need, and
with no others; builds inside it have scopes of their own. -/
namespace CodeScribe

namespace Imports

private theorem hasNamespace_addNamespace (i : Imports) (name : String) (q : Qualify) (x : String) :
    (i.addNamespace name q).2.hasNamespace x = true ↔
      i.hasNamespace x = true ∨ q.apply (Text.stripped name) = x := by
  have hname : x = q.apply (Text.stripped name) ↔ q.apply (Text.stripped name) = x := eq_comm
  unfold addNamespace recorded
  dsimp only
  split
  · simp only [hasNamespace, Bool.or_eq_true, List.contains_iff_mem, mem_insertNew, hname,
      or_right_comm]
  · simp only [hasNamespace, Bool.or_eq_true, List.contains_iff_mem, mem_insertNew, hname, or_assoc]

end Imports

namespace ScopeStack

/-- In a scope a shortened reference is written without its scopes, which are recorded. -/
theorem name_shortened (scope : BuildScope) (outer : ScopeStack) (r : TypeRef) :
    name (scope :: outer) true r = (r.unscoped.fullName, record (scope :: outer) r.shorten.2) := by
  have htext : String.ofList r.shorten.1 = r.unscoped.fullName :=
    congrArg String.ofList (TypeRef.shorten_text r)
  rw [← htext]
  rfl

/-- Without a scope a reference is written with all its scopes, and nothing is recorded. -/
theorem name_outside (simplify : Bool) (r : TypeRef) : name [] simplify r = (r.fullName, []) := rfl

end ScopeStack

/-- Settings stay as they are, and namespaces come in under the policy of the document. -/
structure Document.Gains (d : Document) (names : List String) (after : Document) : Prop where
  config : after.config = d.config
  imports : ∀ x, after.imports.hasNamespace x = true ↔
    d.imports.hasNamespace x = true ∨ ∃ name ∈ names, d.config.qualify.apply (Text.stripped name) = x

namespace Document.Gains
variable {d middle after : Document} {names more : List String}

private theorem of_imports (hconfig : after.config = d.config)
    (himports : ∀ x, after.imports.hasNamespace x = d.imports.hasNamespace x) : d.Gains [] after :=
  ⟨hconfig, fun x => by simp [himports x]⟩

private theorem refl (d : Document) : d.Gains [] d := of_imports rfl fun _ => rfl

private theorem trans (h : d.Gains names middle) (hmore : middle.Gains more after) :
    d.Gains (names ++ more) after := by
  refine ⟨hmore.config.trans h.config, fun x => ?_⟩
  rw [hmore.imports x, h.imports x, h.config]
  simp only [List.mem_append, or_and_right, exists_or, or_assoc]

private theorem congr (h : d.Gains names after) (hmem : ∀ x, x ∈ more ↔ x ∈ names) : d.Gains more after :=
  ⟨h.config, fun x => by simp only [h.imports x, hmem]⟩

private theorem importNamespace (d : Document) (name : String) : d.Gains [name] (d.importNamespace name) := by
  refine ⟨rfl, fun x => ?_⟩
  rw [Document.importNamespace, Imports.hasNamespace_addNamespace]
  simp only [List.mem_singleton, exists_eq_left]

private theorem foldl_importNamespace (d : Document) (names : List String) :
    d.Gains names (names.foldl Document.importNamespace d) := by
  induction names generalizing d with
  | nil => exact refl d
  | cons name names ih => exact (importNamespace d name).trans (ih _)

end Document.Gains

/-- What can happen while a document is being built. -/
inductive BuildAction where
  | register (name : String)
  | write (simplify : Bool) (r : TypeRef)
  | importNamespace (name : String)
  | importStatic (name : String)
  | importAlias (name target : String)
  | enclose (name : String)
  | add (node : Node)
  | build (config : Config) (actions : List BuildAction)

namespace BuildAction

mutual

def perform : BuildAction → Document → ScopeStack → Document × ScopeStack
  | .register name, d, s => (d, (s.register name).2)
  | .write simplify r, d, s => (d, (s.name simplify r).2)
  | .importNamespace name, d, s => (d.importNamespace name, s)
  | .importStatic name, d, s => (d.importStatic name, s)
  | .importAlias name target, d, s => (d.importAlias name target, s)
  | .enclose name, d, s => (d.enclose name, s)
  | .add node, d, s => (d.add node, s)
  | .build config actions, d, s => (d, (Document.build config (performAll actions) s).2)

def performAll : List BuildAction → Document → ScopeStack → Document × ScopeStack
  | [], d, s => (d, s)
  | action :: rest, d, s =>
    let (d, s) := perform action d s
    performAll rest d s

end

/-- The namespaces that an action records in the innermost scope. -/
def registered : BuildAction → List String
  | .register name => [name]
  | .write true r => r.shorten.2
  | _ => []

/-- The namespaces that an action imports into the document. -/
def imported : BuildAction → List String
  | .importNamespace name => [name]
  | _ => []

/-- The namespaces that the document needs because of an action: those imported or registered by it, and
those left out of a shortened name. It needs none for a build inside it. -/
def needed : BuildAction → List String
  | .register name => [name]
  | .write true r => r.scopes
  | .importNamespace name => [name]
  | _ => []

private theorem mem_needed {x : String} (action : BuildAction) :
    x ∈ action.needed ↔ x ∈ action.imported ∨ x ∈ action.registered := by
  cases action with
  | write simplify r =>
    cases simplify with
    | true => simp [needed, imported, registered, TypeRef.mem_shorten_imports]
    | false => simp [needed, imported, registered]
  | _ => simp [needed, imported, registered]

/-- A build whose body only records in its scope hands the recorded names to its document. -/
theorem build_of_record {body : Document → ScopeStack → Document × ScopeStack} {names : List String}
    (h : ∀ d s, (body d s).2 = s.record names) (config : Config) (s : ScopeStack) :
    Document.build config body s =
      (names.eraseDups.foldl Document.importNamespace (body (Document.new config) ({ config } :: s)).1,
        s) := by
  have hafter := (h (Document.new config) ({ config } :: s)).trans (ScopeStack.record_fresh config s names)
  simp only [Document.build, ScopeStack.enter, hafter, ScopeStack.finish_innermost]

mutual

/-- On the scopes an action does nothing but record. -/
theorem stack_perform (action : BuildAction) (d : Document) (s : ScopeStack) :
    (perform action d s).2 = s.record action.registered := by
  cases action with
  | write simplify r =>
    cases s with
    | nil => exact (ScopeStack.record_of_empty _).symm
    | cons scope outer =>
      cases simplify with
      | true => exact congrArg Prod.snd (ScopeStack.name_shortened scope outer r)
      | false => rfl
  | build config actions =>
    have hinside (d : Document) (s : ScopeStack) := stack_performAll actions d s
    exact congrArg Prod.snd (build_of_record hinside config s)
  | _ => rfl

private theorem stack_performAll (actions : List BuildAction) (d : Document) (s : ScopeStack) :
    (performAll actions d s).2 = s.record (actions.flatMap registered) := by
  cases actions with
  | nil => rfl
  | cons action rest =>
    rw [performAll, List.flatMap_cons, ScopeStack.record_append, ← stack_perform action d s]
    exact stack_performAll rest _ _

end

private theorem gains_perform (action : BuildAction) (d : Document) (s : ScopeStack) :
    d.Gains action.imported (perform action d s).1 := by
  cases action with
  | importNamespace name => exact .importNamespace d name
  | _ => exact .of_imports rfl fun _ => rfl

private theorem gains_performAll (actions : List BuildAction) (d : Document) (s : ScopeStack) :
    d.Gains (actions.flatMap imported) (performAll actions d s).1 := by
  induction actions generalizing d s with
  | nil => exact .refl d
  | cons action rest ih => exact (gains_perform action d s).trans (ih _ _)

private theorem build_performAll (config : Config) (actions : List BuildAction) (s : ScopeStack) :
    Document.build config (performAll actions) s =
      ((actions.flatMap registered).eraseDups.foldl Document.importNamespace
        (performAll actions (Document.new config) ({ config } :: s)).1, s) :=
  build_of_record (stack_performAll actions) config s

private theorem gains_build (config : Config) (actions : List BuildAction) (s : ScopeStack) :
    (Document.new config).Gains (actions.flatMap needed)
      (Document.build config (performAll actions) s).1 := by
  rw [build_performAll]
  refine ((gains_performAll actions (Document.new config) _).trans
    (.foldl_importNamespace _ (actions.flatMap registered).eraseDups)).congr fun x => ?_
  simp only [List.mem_append, List.mem_eraseDups, List.mem_flatMap, mem_needed, and_or_left, exists_or]

private theorem hasNamespace_build (config : Config) (actions : List BuildAction) (s : ScopeStack)
    (x : String) : (Document.build config (performAll actions) s).1.imports.hasNamespace x = true ↔
      ∃ name ∈ actions.flatMap needed, config.qualify.apply (Text.stripped name) = x := by
  have hnone : (Document.new config).imports.hasNamespace x = false := rfl
  have hgains := (gains_build config actions s).imports x
  rw [hnone, Bool.false_eq_true, false_or] at hgains
  exact hgains

/-- A build inside a document changes nothing for it. -/
theorem perform_build (config : Config) (actions : List BuildAction) (d : Document) (s : ScopeStack) :
    perform (.build config actions) d s = (d, s) :=
  congrArg (d, ·) (stack_perform (.build config actions) d s)

private theorem performAll_without_build (front back inside : List BuildAction) (inner : Config) :
    performAll (front ++ .build inner inside :: back) = performAll (front ++ back) := by
  induction front with
  | nil =>
    funext d s
    rw [List.nil_append, performAll, perform_build]
    rfl
  | cons action front ih =>
    funext d s
    rw [List.cons_append, List.cons_append, performAll, performAll, ih]

/-- A document that is built by any actions, inside any other builds, has exactly the namespaces that its
own actions need, as its settings have them written, and leaves the scopes as they were. A document that
is built inside it has those of the actions inside, and could as well be left out. A shortened reference
in a scope has no scopes in its text, and a reference outside all scopes has all of them and records
none. -/
theorem build_imports (config : Config) (actions : List BuildAction) (s : ScopeStack) :
    (∀ x, (Document.build config (performAll actions) s).1.imports.hasNamespace x = true ↔
      ∃ name ∈ actions.flatMap needed, config.qualify.apply (Text.stripped name) = x) ∧
    (Document.build config (performAll actions) s).2 = s ∧
    (∀ front inner inside back,
      (∀ x, (Document.build inner (performAll inside)
          (performAll front (Document.new config) ({ config } :: s)).2).1.imports.hasNamespace x = true ↔
        ∃ name ∈ inside.flatMap needed, inner.qualify.apply (Text.stripped name) = x) ∧
      Document.build config (performAll (front ++ .build inner inside :: back)) s =
        Document.build config (performAll (front ++ back)) s) ∧
    (∀ scope outer r, (ScopeStack.name (scope :: outer) true r).1 = r.unscoped.fullName) ∧
    ∀ simplify r, ScopeStack.name [] simplify r = (r.fullName, []) := by
  refine ⟨hasNamespace_build config actions s, ?_, fun front inner inside back => ⟨?_, ?_⟩,
    fun scope outer r => ?_, ScopeStack.name_outside⟩
  · rw [build_performAll]
  · exact hasNamespace_build inner inside _
  · rw [performAll_without_build]
  · rw [ScopeStack.name_shortened]

/-- The scopes of a shortened reference and of its argument are imported, and what a document inside
registers is not. -/
example :
    let item : TypeRef := { scope := some "Acme", name := "Item" }
    let list : TypeRef := { scope := some "System.Collections.Generic", name := "List", arguments := [item] }
    let actions := [.write true list, .build {} [.register "Inner"], .importNamespace " Acme "]
    (Document.build {} (performAll actions) []).1.imports =
      { system := ["System.Collections.Generic"], other := ["Acme"] } := by decide

end BuildAction
end CodeScribe
