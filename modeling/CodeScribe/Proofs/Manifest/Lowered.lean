import CodeScribe.Proofs.Manifest.Mirror
import CodeScribe.Proofs.Manifest.Valid

/-! Lowering keeps the whole manifest: no early end of a declaration and no choice between the forms of a
body or of a snippet drops anything of a manifest that is accepted. -/
namespace CodeScribe

/-- What no step of a loop changes, the loop does not change. -/
private theorem foldl_keeps {σ α β : Type} (view : σ → β) {step : σ → α → σ}
    (hstep : ∀ s a, view (step s a) = view s) (s : σ) (l : List α) : view (l.foldl step s) = view s := by
  induction l generalizing s with
  | nil => rfl
  | cons a rest ih => rw [List.foldl_cons, ih, hstep]

/-- A loop that puts one piece behind the others each time puts all of them there in order. -/
private theorem foldl_eq_extend {σ α β : Type} {step : σ → α → σ} (extend : σ → List β → σ) (f : α → β)
    (hnil : ∀ s, extend s [] = s) (hstep : ∀ s a bs, extend (step s a) bs = extend s (f a :: bs))
    (s : σ) (l : List α) : l.foldl step s = extend s (l.map f) := by
  induction l generalizing s with
  | nil => exact (hnil s).symm
  | cons a rest ih => rw [List.foldl_cons, ih, List.map_cons, hstep]

namespace Head

private theorem foldl_addAttribute (h : Head) (texts : List String) :
    texts.foldl addAttribute h = { h with attributes := h.attributes ++ texts } := by
  simpa using foldl_eq_extend (fun h bs => { h with attributes := h.attributes ++ bs }) id
    (by simp) (by simp [addAttribute]) h texts

private theorem foldl_addConstraint (h : Head) (texts : List String) :
    texts.foldl addConstraint h = { h with constraints := h.constraints ++ texts } := by
  simpa using foldl_eq_extend (fun h bs => { h with constraints := h.constraints ++ bs }) id
    (by simp) (by simp [addConstraint]) h texts

end Head

namespace MethodSpec
variable (m : MethodSpec) (owner : String)

private theorem foldl_addParam (parameters : List ParameterSpec) (d : DocComment) :
    parameters.foldl (fun d p => p.doc.elim d (d.addParam p.declaredName)) d =
      { d with params := d.params ++
          parameters.filterMap fun p => p.doc.map fun text => (p.declaredName, text) } := by
  induction parameters generalizing d with
  | nil => simp
  | cons p rest ih =>
    rw [List.foldl_cons, ih]
    cases hdoc : p.doc <;> simp [hdoc, DocComment.addParam]

private theorem describe_empty (h : m.isDocumented = true) : some (m.describe {}) = m.comment? := by
  rw [comment?, if_pos h, describe, foldl_addParam]
  cases m.summary <;> cases m.returnsDoc <;> rfl

private theorem annotate_new : m.annotate { signature := m.signature owner } = m.head owner := by
  rw [annotate, Head.foldl_addAttribute, Head.foldl_addConstraint, head]
  by_cases h : m.isDocumented = true
  · simp [h, ← m.describe_empty h, Head.document]
  · simp [h, comment?]

def node : Node := (m.lower (.new (m.signature owner))).node

private theorem foldl_statement (texts : List String) (draft : MethodDraft) :
    texts.foldl (fun d text => d.write (·.statement text)) draft =
      draft.write fun b => { b with children := b.children ++ texts.map (.raw · false) } :=
  foldl_eq_extend (fun d bs => d.write fun b => { b with children := b.children ++ bs }) (.raw · false)
    (by simp [MethodDraft.write]) (by simp [MethodDraft.write, BlockDraft.statement, BlockDraft.push])
    draft texts

private theorem node_of_abstract (habstract : m.abstract = true) :
    m.node owner = .methodDecl (m.head owner) .abstract {} [] := by
  rw [node, lower, if_pos habstract, ← m.annotate_new owner]
  rfl

private theorem node_of_arrow {expression : String} (habstract : m.abstract = false)
    (harrow : m.arrow = some expression) :
    m.node owner = .methodDecl (m.head owner) .arrow {} [.raw expression false] := by
  rw [node, lower, if_neg (by simp [habstract]), harrow, ← m.annotate_new owner]
  rfl

private theorem node_of_block (habstract : m.abstract = false) (harrow : m.arrow = none) :
    m.node owner = .methodDecl (m.head owner) .block {} (m.body.map (.raw · false)) := by
  simp only [node, lower, habstract, harrow, foldl_statement, ← m.annotate_new owner]
  rfl

/-- Of the forms of a body, the one that is looked at first hides no other. -/
theorem lowered_node (h : m.HasOneBody) : m.Lowered owner (m.node owner) := by
  obtain ⟨hbodyArrow, hbodyAbstract, harrowAbstract⟩ := h
  cases habstract : m.abstract with
  | true =>
    have hbody : m.body = [] := hbodyAbstract.resolve_right (by simp [habstract])
    have harrow : m.arrow = none := harrowAbstract.resolve_right (by simp [habstract])
    rw [m.node_of_abstract owner habstract]
    exact .abstract habstract hbody harrow
  | false =>
    cases harrow : m.arrow with
    | some expression =>
      have hbody : m.body = [] := hbodyArrow.resolve_right (by simp [harrow])
      rw [m.node_of_arrow owner habstract harrow]
      exact .arrow habstract hbody harrow
    | none =>
      rw [m.node_of_block owner habstract harrow]
      exact .block habstract harrow

end MethodSpec

namespace TypeSpec

def node (t : TypeSpec) : Node := (t.lower (.new t.signature)).node

private theorem annotate_new (t : TypeSpec) : t.annotate { signature := t.signature } = t.head := by
  rw [annotate, Head.foldl_addAttribute, Head.foldl_addConstraint, head]
  cases t.summary <;> simp [Head.document, DocComment.addSummary]

private theorem foldl_addBase (draft : TypeDraft) (texts : List String) :
    texts.foldl TypeDraft.addBase draft = { draft with bases := draft.bases ++ texts } := by
  simpa using foldl_eq_extend (fun d bs => { d with bases := d.bases ++ bs }) id
    (by simp) (by simp [TypeDraft.addBase]) draft texts

private theorem foldl_member (draft : TypeDraft) (texts : List String) :
    texts.foldl TypeDraft.member draft =
      { draft with members := draft.members ++ texts.map (.raw · false) } :=
  foldl_eq_extend (fun d bs => { d with members := d.members ++ bs }) (.raw · false)
    (by simp) (by simp [TypeDraft.member, TypeDraft.push]) draft texts

private theorem foldl_method (owner : String) (draft : TypeDraft) (methods : List MethodSpec) :
    methods.foldl (fun d m => d.method (m.signature owner) m.lower) draft =
      { draft with members := draft.members ++ methods.map (·.node owner) } :=
  foldl_eq_extend (fun d bs => { d with members := d.members ++ bs }) (·.node owner)
    (by simp) (by simp [TypeDraft.method, TypeDraft.push, MethodSpec.node]) draft methods

private theorem lowerAll_eq (types : List TypeSpec) (draft : TypeDraft) :
    lowerAll types draft = { draft with members := draft.members ++ types.map node } := by
  induction types generalizing draft with
  | nil => simp [lowerAll]
  | cons t rest ih => rw [lowerAll, ih]; simp [TypeDraft.nestedType, TypeDraft.push, node]

private theorem empty_of_isTerminated {t : TypeSpec} (h : t.isTerminated = true) :
    t.members = [] ∧ t.methods = [] ∧ t.types = [] := by
  simp only [isTerminated, Bool.and_eq_true, List.isEmpty_iff] at h
  exact ⟨h.1.1.2, h.1.2, h.2⟩

private theorem lower_eq (t : TypeSpec) (draft : TypeDraft) :
    t.lower draft =
      let headed := t.bases.foldl TypeDraft.addBase (draft.annotate t.annotate)
      if t.isTerminated then headed.terminate
      else lowerAll t.types (t.methods.foldl (fun d m => d.method (m.signature t.name) m.lower)
        (t.members.foldl TypeDraft.member headed)) := by
  cases t
  rw [lower]

/-- The early end of a declaration drops nothing. -/
theorem node_eq (t : TypeSpec) :
    t.node = .typeDecl t.head t.bases t.isTerminated
      (t.members.map (.raw · false) ++ t.methods.map (·.node t.name) ++ t.types.map node) := by
  have hheaded : t.bases.foldl TypeDraft.addBase ((TypeDraft.new t.signature).annotate t.annotate) =
      { head := t.head, bases := t.bases } := by
    rw [foldl_addBase, ← t.annotate_new]
    rfl
  rw [node, lower_eq]
  simp only [hheaded]
  cases hterminated : t.isTerminated with
  | true =>
    -- The early end comes before the members, but there are none of them.
    obtain ⟨hm, hs, ht⟩ := empty_of_isTerminated hterminated
    simp [hm, hs, ht, TypeDraft.terminate, TypeDraft.node]
  | false => simp [foldl_member, foldl_method, lowerAll_eq, TypeDraft.node]

mutual

private theorem lowered_node :
    ∀ t : TypeSpec, t.Valid → (∀ u, Declares t.types u → u.Valid) → t.Lowered t.node
  | ⟨name, kind, modifiers, generics, parameters, bases, attributes, constraints, summary, members,
      methods, types⟩, hvalid, hnested => by
    have hmethods : List.Forall₂ (MethodSpec.Lowered name) methods (methods.map (·.node name)) := by
      rw [List.forall₂_map_right_iff, List.forall₂_same]
      exact fun m hm => m.lowered_node name (hvalid.methods m hm).body
    rw [node_eq]
    exact .intro hmethods (lowered_nodes types hnested) empty_of_isTerminated

private theorem lowered_nodes : ∀ types : List TypeSpec, (∀ u, Declares types u → u.Valid) →
    List.Forall₂ TypeSpec.Lowered types (types.map node)
  | [], _ => .nil
  | t :: rest, h =>
    .cons (lowered_node t (h t (.here List.mem_cons_self)) fun u hu => h u (.inside List.mem_cons_self hu))
      (lowered_nodes rest fun u hu => h u (Declares.cons_iff.mpr (.inr (.inr hu))))

end

end TypeSpec

namespace Document

theorem foldl_typeDecl (d : Document) (types : List TypeSpec) :
    types.foldl (fun d t => d.typeDecl t.signature t.lower) d =
      { d with nodes := d.nodes ++ types.map TypeSpec.node } :=
  foldl_eq_extend (fun d bs => { d with nodes := d.nodes ++ bs }) TypeSpec.node
    (by simp) (by simp [typeDecl, add, TypeSpec.node]) d types

end Document

theorem bind_eq_ok_iff {ε α β : Type} {x : Except ε α} {f : α → Except ε β} {b : β} :
    x >>= f = .ok b ↔ ∃ a, x = .ok a ∧ f a = .ok b := by
  cases x with
  | error e => exact ⟨nofun, nofun⟩
  | ok a => exact ⟨fun h => ⟨a, rfl, h⟩, fun ⟨_, ha, h⟩ => Except.ok.inj ha ▸ h⟩

private theorem Snippet.lowered_text {shared : Dictionary String} {templates : Registry} {s : Snippet}
    {text : String} (hs : s.HasOneSource) (h : s.text shared templates = .ok text) :
    s.Lowered shared templates (.raw (Text.strippedEnd text) false) := by
  rw [Snippet.text] at h
  rcases hs with ⟨hraw, htemplate⟩ | ⟨hraw, htemplate⟩
  · obtain ⟨raw, hraw⟩ := Option.ne_none_iff_exists'.mp hraw
    rw [hraw, htemplate] at h
    cases h
    exact .raw hraw htemplate
  · obtain ⟨id, htemplate⟩ := Option.ne_none_iff_exists'.mp htemplate
    rw [hraw, htemplate] at h
    exact .template hraw htemplate h

namespace Manifest
variable (m : Manifest) (templates : Registry)

/-- Recording the imports leaves alone whatever does not look at them. -/
theorem outline_keeps {β : Type} (view : Document → β) (hview : ∀ d imports, view { d with imports } = view d) :
    view m.outline = view { config := m.document, enclosing := m.namespaceName } := by
  have hnamespace (d : Document) (name : String) : view (d.importNamespace name) = view d := hview d _
  have hstatic (d : Document) (name : String) : view (d.importStatic name) = view d := hview d _
  have halias (d : Document) (entry : String × String) : view (d.importAlias entry.1 entry.2) = view d :=
    hview d _
  rw [outline, foldl_keeps view halias, foldl_keeps view hstatic, foldl_keeps view hnamespace]

theorem lowerSnippets_ok {placement : Placement} {d d' : Document}
    (hs : ∀ s ∈ m.snippets, s.HasOneSource) (h : m.lowerSnippets templates placement d = .ok d') :
    ∃ nodes, d' = { d with nodes := d.nodes ++ nodes } ∧
      List.Forall₂ (Snippet.Lowered m.values templates) (m.snippets.filter (·.placement = placement))
        nodes := by
  have hplaced : ∀ s ∈ m.snippets.filter (·.placement = placement), s.HasOneSource :=
    fun s hmem => hs s (List.mem_of_mem_filter hmem)
  rw [lowerSnippets] at h
  -- By induction over the snippets of this placement, whatever stands in the document before them.
  generalize m.snippets.filter (·.placement = placement) = snippets at hplaced h ⊢
  induction snippets generalizing d with
  | nil =>
    cases h
    exact ⟨[], by simp, .nil⟩
  | cons s rest ih =>
    rw [List.foldlM_cons, bind_eq_ok_iff] at h
    obtain ⟨next, hnext, hrest⟩ := h
    obtain ⟨text, htext, hpure⟩ := bind_eq_ok_iff.mp hnext
    cases hpure
    obtain ⟨nodes, rfl, hnodes⟩ := ih (fun s hmem => hplaced s (List.mem_cons_of_mem _ hmem)) hrest
    refine ⟨.raw (Text.strippedEnd text) false :: nodes, by simp [Document.raw, Document.add], ?_⟩
    exact .cons (Snippet.lowered_text (hplaced s List.mem_cons_self) htext) hnodes

/-- Of a manifest that is accepted, the document says everything. -/
theorem lowered_lower {source : SourceText} {d : Document} (hvalid : m.validate source = .ok ())
    (hlower : m.lower templates = .ok d) : m.Lowered templates d := by
  have hm := (m.validate_eq_ok_iff source).mp hvalid
  obtain ⟨opened, hbefore, hafter⟩ := bind_eq_ok_iff.mp hlower
  obtain ⟨before, rfl, hbeforeNodes⟩ := m.lowerSnippets_ok templates hm.snippets hbefore
  obtain ⟨after, rfl, hafterNodes⟩ := m.lowerSnippets_ok templates hm.snippets hafter
  have htypes := TypeSpec.lowered_nodes m.types hm.types
  obtain ⟨hbeforeTypes, hbeforeMethods⟩ := Node.counts_of_raw (Snippet.Lowered.exists_raw hbeforeNodes)
  obtain ⟨hafterTypes, hafterMethods⟩ := Node.counts_of_raw (Snippet.Lowered.exists_raw hafterNodes)
  obtain ⟨htypeTypes, htypeMethods⟩ := TypeSpec.Lowered.countsAll htypes
  have hnodes : m.outline.nodes = [] := m.outline_keeps Document.nodes fun _ _ => rfl
  rw [Document.foldl_typeDecl]
  exact {
    config := m.outline_keeps Document.config fun _ _ => rfl
    enclosing := m.outline_keeps Document.enclosing fun _ _ => rfl
    nodes :=
      ⟨before, m.types.map TypeSpec.node, after, by simp [hnodes], hbeforeNodes, htypes, hafterNodes⟩
    typeCount := by
      simp [hnodes, Node.treeAll_append, hbeforeTypes, htypeTypes, hafterTypes, typeCount]
    methodCount := by
      simp [hnodes, Node.treeAll_append, hbeforeMethods, htypeMethods, hafterMethods, methodCount] }

/-- A manifest with nested types, all forms of a body, and snippets of both kinds. -/
def ledger : Manifest := {
  namespaceName := some "Acme.Books"
  values := [("owner", "Acme")]
  types := [{
    name := "Ledger"
    members := ["int count;"]
    methods := [
      { name := "Add", body := ["count++;"] },
      { name := "Count", returns := "int", arrow := some "count" },
      { name := "Reset", modifiers := ["public", "abstract"], abstract := true }]
    types := [{ name := "Entry", kind := .recordType, parameters := some "int Amount" }] }]
  snippets := [
    { template := some "note", values := [("year", "2027")] },
    { raw := some "// Ledgers ", placement := .before }] }

/-- The template that the ledger asks for. -/
def notes : Registry := { entries := [("note", ⟨"// \x7b\x7b year \x7d\x7d \x7b\x7b owner \x7d\x7d"⟩)] }

theorem lowered_lower_ledger :
    ledger.validate ⟨"", "ledger.toml"⟩ = .ok () ∧
      ∃ d, ledger.lower notes = .ok d ∧ ledger.Lowered notes d := by
  have hvalid : ledger.validate ⟨"", "ledger.toml"⟩ = .ok () := by decide +kernel
  have hsome : (ledger.lower notes).toOption.isSome = true := by decide +kernel
  cases hlower : ledger.lower notes with
  | error e => rw [hlower] at hsome; cases hsome
  | ok d => exact ⟨hvalid, d, rfl, ledger.lowered_lower notes hvalid hlower⟩

end Manifest
end CodeScribe
