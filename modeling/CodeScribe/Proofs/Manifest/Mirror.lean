import CodeScribe.Manifest.Lower
import Mathlib.Data.List.Forall2

/-! Nodes that say what a manifest says: snippets, types, members, methods and statements in order and with
nothing dropped, and as many declarations as the manifest has. -/
namespace CodeScribe

/-- The comment of a method; none when nothing is documented. -/
def MethodSpec.comment? (m : MethodSpec) : Option DocComment :=
  if m.isDocumented then
    some {
      summary := m.summary
      params := m.parameters.filterMap fun p => p.doc.map fun text => (p.declaredName, text)
      returns := m.returnsDoc }
  else none

def MethodSpec.head (m : MethodSpec) (owner : String) : Head :=
  { signature := m.signature owner, doc := m.comment?
    attributes := m.attributes, constraints := m.constraints }

def TypeSpec.head (t : TypeSpec) : Head :=
  { signature := t.signature, doc := t.summary.map fun text => { summary := some text }
    attributes := t.attributes, constraints := t.constraints }

/-- A node that says what a method says. Its form is the one that the method asks for, and no other part
of a body is left out. -/
inductive MethodSpec.Lowered (owner : String) (m : MethodSpec) : Node → Prop where
  | abstract (habstract : m.abstract = true) (hbody : m.body = []) (harrow : m.arrow = none) :
      Lowered owner m (.methodDecl (m.head owner) .abstract {} [])
  | arrow {expression : String} (habstract : m.abstract = false) (hbody : m.body = [])
      (harrow : m.arrow = some expression) :
      Lowered owner m (.methodDecl (m.head owner) .arrow {} [.raw expression false])
  | block (habstract : m.abstract = false) (harrow : m.arrow = none) :
      Lowered owner m (.methodDecl (m.head owner) .block {} (m.body.map (.raw · false)))

/-- A node that says what a type says, at every level. One that ends after its signature, where no members
are written, has none. -/
inductive TypeSpec.Lowered : TypeSpec → Node → Prop where
  | intro {t : TypeSpec} {methods types : List Node}
      (hmethods : List.Forall₂ (MethodSpec.Lowered t.name) t.methods methods)
      (htypes : List.Forall₂ TypeSpec.Lowered t.types types)
      (hterminated : t.isTerminated = true → t.members = [] ∧ t.methods = [] ∧ t.types = []) :
      Lowered t (.typeDecl t.head t.bases t.isTerminated
        (t.members.map (.raw · false) ++ methods ++ types))

inductive Snippet.Lowered (shared : Dictionary String) (templates : Registry) (s : Snippet) : Node → Prop where
  | raw {text : String} (hraw : s.raw = some text) (htemplate : s.template = none) :
      Lowered shared templates s (.raw (Text.strippedEnd text) false)
  | template {id text : String} (hraw : s.raw = none) (htemplate : s.template = some id)
      (htext : templates.render id (Dictionary.insertAll s.values shared) = .ok text) :
      Lowered shared templates s (.raw (Text.strippedEnd text) false)

mutual

def Node.tree : Node → List Node
  | .block frame children => .block frame children :: Node.treeAll children
  | .typeDecl head bases terminated members =>
    .typeDecl head bases terminated members :: Node.treeAll members
  | .methodDecl head style frame body => .methodDecl head style frame body :: Node.treeAll body
  | .namespaceDecl name entries => .namespaceDecl name entries :: Node.treeAll entries
  | n => [n]

def Node.treeAll : List Node → List Node
  | [] => []
  | n :: rest => n.tree ++ Node.treeAll rest

end

def Node.isType : Node → Bool
  | .typeDecl .. => true
  | _ => false

def Node.isMethod : Node → Bool
  | .methodDecl .. => true
  | _ => false

/-- A document that says what a manifest says. -/
structure Manifest.Lowered (m : Manifest) (templates : Registry) (d : Document) : Prop where
  config : d.config = m.document
  enclosing : d.enclosing = m.namespaceName
  nodes : ∃ before types after, d.nodes = before ++ types ++ after ∧
    List.Forall₂ (Snippet.Lowered m.values templates) (m.snippets.filter (·.placement = .before)) before ∧
    List.Forall₂ TypeSpec.Lowered m.types types ∧
    List.Forall₂ (Snippet.Lowered m.values templates) (m.snippets.filter (·.placement = .after)) after
  typeCount : (Node.treeAll d.nodes).countP Node.isType = m.typeCount
  methodCount : (Node.treeAll d.nodes).countP Node.isMethod = m.methodCount

namespace Node

theorem treeAll_append (xs ys : List Node) : treeAll (xs ++ ys) = treeAll xs ++ treeAll ys := by
  induction xs with
  | nil => rfl
  | cons n rest ih => rw [List.cons_append, treeAll, treeAll, ih, List.append_assoc]

/-- Texts are neither types nor methods. -/
theorem counts_of_raw {nodes : List Node} (h : ∀ n ∈ nodes, ∃ text, n = .raw text false) :
    (treeAll nodes).countP isType = 0 ∧ (treeAll nodes).countP isMethod = 0 := by
  induction nodes with
  | nil => exact ⟨rfl, rfl⟩
  | cons n rest ih =>
    obtain ⟨text, rfl⟩ := h n List.mem_cons_self
    exact ih fun n hn => h n (List.mem_cons_of_mem _ hn)

private theorem exists_raw_of_mem_map (texts : List String) :
    ∀ n ∈ texts.map (Node.raw · false), ∃ text, n = .raw text false := by
  intro n hn
  obtain ⟨text, -, rfl⟩ := List.mem_map.mp hn
  exact ⟨text, rfl⟩

end Node

theorem Snippet.Lowered.exists_raw {shared : Dictionary String} {templates : Registry}
    {snippets : List Snippet} {nodes : List Node}
    (h : List.Forall₂ (Snippet.Lowered shared templates) snippets nodes) :
    ∀ n ∈ nodes, ∃ text, n = .raw text false := by
  induction h with
  | nil => simp
  | cons hs _ ih =>
    refine List.forall_mem_cons.mpr ⟨?_, ih⟩
    cases hs <;> exact ⟨_, rfl⟩

private theorem MethodSpec.Lowered.counts {owner : String} {m : MethodSpec} {n : Node}
    (h : m.Lowered owner n) : n.tree.countP Node.isType = 0 ∧ n.tree.countP Node.isMethod = 1 := by
  cases h with
  | abstract => exact ⟨rfl, rfl⟩
  | arrow => exact ⟨rfl, rfl⟩
  | block =>
    obtain ⟨htypes, hmethods⟩ := Node.counts_of_raw (Node.exists_raw_of_mem_map m.body)
    rw [Node.tree, List.countP_cons, List.countP_cons, htypes, hmethods]
    exact ⟨rfl, rfl⟩

private theorem MethodSpec.Lowered.countsAll {owner : String} {methods : List MethodSpec} {nodes : List Node}
    (h : List.Forall₂ (MethodSpec.Lowered owner) methods nodes) :
    (Node.treeAll nodes).countP Node.isType = 0 ∧
      (Node.treeAll nodes).countP Node.isMethod = methods.length := by
  induction h with
  | nil => exact ⟨rfl, rfl⟩
  | cons hm _ ih =>
    obtain ⟨htypes, hmethods⟩ := hm.counts
    rw [Node.treeAll, List.countP_append, List.countP_append, htypes, hmethods, ih.1, ih.2,
      List.length_cons, Nat.add_comm 1]
    exact ⟨rfl, rfl⟩

mutual

private theorem TypeSpec.Lowered.counts : ∀ {t : TypeSpec} {n : Node}, t.Lowered n →
    n.tree.countP Node.isType = t.typeCount ∧ n.tree.countP Node.isMethod = t.methodCount
  | ⟨name, kind, modifiers, generics, parameters, bases, attributes, constraints, summary, members,
      methods, types⟩, _, .intro hmethods htypes _ => by
    obtain ⟨hmemberTypes, hmemberMethods⟩ :=
      Node.counts_of_raw (Node.exists_raw_of_mem_map members)
    obtain ⟨hmethodTypes, hmethodMethods⟩ := MethodSpec.Lowered.countsAll hmethods
    obtain ⟨htypeTypes, htypeMethods⟩ := TypeSpec.Lowered.countsAll htypes
    rw [Node.tree, List.countP_cons, List.countP_cons, Node.treeAll_append, Node.treeAll_append]
    simp only [List.countP_append, hmemberTypes, hmemberMethods, hmethodTypes, hmethodMethods,
      htypeTypes, htypeMethods, TypeSpec.typeCount, TypeSpec.methodCount, Node.isType, Node.isMethod]
    simp [Nat.add_comm]

theorem TypeSpec.Lowered.countsAll : ∀ {types : List TypeSpec} {nodes : List Node},
    List.Forall₂ TypeSpec.Lowered types nodes →
    (Node.treeAll nodes).countP Node.isType = TypeSpec.typeCountAll types ∧
      (Node.treeAll nodes).countP Node.isMethod = TypeSpec.methodCountAll types
  | [], _, h => by
    cases h
    exact ⟨rfl, rfl⟩
  | t :: rest, _, h => by
    cases h with
    | cons ht hrest =>
      obtain ⟨htypes, hmethods⟩ := TypeSpec.Lowered.counts ht
      obtain ⟨hrestTypes, hrestMethods⟩ := TypeSpec.Lowered.countsAll hrest
      rw [Node.treeAll, List.countP_append, List.countP_append, TypeSpec.typeCountAll,
        TypeSpec.methodCountAll, htypes, hmethods, hrestTypes, hrestMethods]
      exact ⟨rfl, rfl⟩

end

end CodeScribe
