import CodeScribe.Proofs.Imports.Insertion
import CodeScribe.Proofs.Imports.Order

/-! Collectors of imports. What they hold is a set of directives, however it came in, and what they write
depends on that set alone: four groups, each strictly increasing. -/
namespace CodeScribe

namespace Text

private theorem isPrefixOf_iff (start s : String) :
    start.toList.isPrefixOf s.toList = true ↔ ∃ rest, s = start ++ rest := by
  rw [List.isPrefixOf_iff_prefix]
  constructor
  · rintro ⟨rest, hrest⟩
    exact ⟨String.ofList rest, String.toList_inj.mp (by simp [← hrest])⟩
  · rintro ⟨rest, rfl⟩
    exact ⟨rest.toList, by simp⟩

/-- A start is taken off where there is one, and the text stays as it is where there is none. -/
private theorem withoutStart_cases (start s : String) :
    (∃ rest, s = start ++ rest ∧ withoutStart start s = rest) ∨
      withoutStart start s = s ∧ ∀ rest, s ≠ start ++ rest := by
  rw [withoutStart]
  by_cases h : start.toList.isPrefixOf s.toList = true
  · obtain ⟨rest, rfl⟩ := (isPrefixOf_iff start s).mp h
    exact Or.inl ⟨rest, rfl, by simp⟩
  · exact Or.inr ⟨if_neg h, fun rest hrest => h ((isPrefixOf_iff start s).mpr ⟨rest, hrest⟩)⟩

end Text

inductive Directive where
  | namespaceName (name : String)
  | staticType (name : String)
  | aliasName (name target : String)
  deriving DecidableEq

/-- A directive as it is recorded: without blanks around its names, and with the imported one qualified. -/
def Directive.recorded (q : Qualify) : Directive → Directive
  | .namespaceName name => .namespaceName (q.apply (Text.stripped name))
  | .staticType name => .staticType (q.apply (Text.stripped name))
  | .aliasName name target => .aliasName (Text.stripped name) (q.apply (Text.stripped target))

/-- What is done to a collector: a directive is added, or all that another collector holds. -/
inductive ImportStep where
  | add (given : Directive) (q : Qualify)
  | merge (steps : List ImportStep)

/-- The root namespace or one below it, with or without the global marker. -/
def OfSystem (name : String) : Prop :=
  ∃ marker ∈ ["", globalMarker], name = marker ++ "System" ∨ ∃ rest, name = marker ++ "System." ++ rest

namespace Imports

/-- Adds a directive. The answer tells whether it is new. -/
def add (i : Imports) (given : Directive) (q : Qualify) : Bool × Imports :=
  match given with
  | .namespaceName name => i.addNamespace name q
  | .staticType name => i.addStatic name q
  | .aliasName name target => i.addAlias name target q

mutual

def perform (i : Imports) : ImportStep → Imports
  | .add given q => (i.add given q).2
  | .merge steps => i.merge (performAll {} steps)

def performAll (i : Imports) : List ImportStep → Imports
  | [] => i
  | s :: rest => performAll (perform i s) rest

end

/-- The collector that steps build from nothing. -/
def collect (steps : List ImportStep) : Imports := performAll {} steps

/-- Whether a directive is among those of its category. -/
def Holds (i : Imports) : Directive → Prop
  | .namespaceName name => name ∈ i.system ∨ name ∈ i.other
  | .staticType name => name ∈ i.statics
  | .aliasName name target => (name, target) ∈ i.aliases

end Imports

namespace ImportStep

mutual

/-- The directives that a step records. -/
def directives : ImportStep → List Directive
  | .add given q => [given.recorded q]
  | .merge steps => directivesOf steps

def directivesOf : List ImportStep → List Directive
  | [] => []
  | s :: rest => directives s ++ directivesOf rest

end

end ImportStep

namespace Imports

private theorem isSystem_iff (name : String) : isSystem name = true ↔ OfSystem name := by
  have hbelow (bare : String) : (bare == "System" || "System.".toList.isPrefixOf bare.toList) = true ↔
      bare = "System" ∨ ∃ rest, bare = "System." ++ rest := by
    rw [Bool.or_eq_true, beq_iff_eq, Text.isPrefixOf_iff]
  rw [isSystem, hbelow, OfSystem]
  simp only [List.mem_cons, List.not_mem_nil, or_false, exists_eq_or_imp, exists_eq_left, String.empty_append]
  rcases Text.withoutStart_cases globalMarker name with ⟨bare, rfl, hbare⟩ | ⟨hbare, hplain⟩
  · have hmarked (rest : String) : globalMarker ++ bare ≠ "System" ++ rest := by
      intro h
      have hfirst := congrArg (fun s => s.toList.head?) h
      simp [globalMarker] at hfirst
    have hnone : ¬ (globalMarker ++ bare = "System" ∨ ∃ rest, globalMarker ++ bare = "System." ++ rest) := by
      rintro (h | ⟨rest, h⟩)
      · exact hmarked "" h
      · exact hmarked ("." ++ rest) h
    rw [hbare, or_iff_right hnone]
    simp only [String.append_assoc, String.append_right_inj]
  · have hnone : ¬ (name = globalMarker ++ "System" ∨ ∃ rest, name = globalMarker ++ "System." ++ rest) := by
      rintro (h | ⟨rest, h⟩)
      · exact hplain _ h
      · exact hplain _ (h.trans String.append_assoc)
    rw [hbare, or_iff_left hnone]

/-- A collector without repetition, in which each namespace is in the group that it belongs to. -/
structure Sound (i : Imports) : Prop where
  system : i.system.Nodup
  other : i.other.Nodup
  statics : i.statics.Nodup
  aliases : i.aliases.Nodup
  ofSystem : ∀ name ∈ i.system, OfSystem name
  notOfSystem : ∀ name ∈ i.other, ¬ OfSystem name

variable {i j : Imports}

private theorem Sound.empty : Sound {} := by
  constructor <;> simp

private theorem Sound.add (h : i.Sound) (given : Directive) (q : Qualify) : (i.add given q).2.Sound := by
  cases given with
  | namespaceName name =>
    simp only [Imports.add, addNamespace]
    split
    · rename_i hsystem
      refine { h with system := nodup_insertNew h.system, ofSystem := fun x hx => ?_ }
      rcases mem_insertNew.mp hx with hold | rfl
      · exact h.ofSystem x hold
      · exact (isSystem_iff _).mp hsystem
    · rename_i hother
      refine { h with other := nodup_insertNew h.other, notOfSystem := fun x hx => ?_ }
      rcases mem_insertNew.mp hx with hold | rfl
      · exact h.notOfSystem x hold
      · exact mt (isSystem_iff _).mpr hother
  | staticType name => exact { h with statics := nodup_insertNew h.statics }
  | aliasName name target => exact { h with aliases := nodup_insertNew h.aliases }

private theorem Sound.merge (hi : i.Sound) (hj : j.Sound) : (i.merge j).Sound where
  system := nodup_foldl_insertNew hi.system
  other := nodup_foldl_insertNew hi.other
  statics := nodup_foldl_insertNew hi.statics
  aliases := nodup_foldl_insertNew hi.aliases
  ofSystem name h := (mem_foldl_insertNew.mp h).elim (hi.ofSystem name) (hj.ofSystem name)
  notOfSystem name h := (mem_foldl_insertNew.mp h).elim (hi.notOfSystem name) (hj.notOfSystem name)

private theorem holds_add (given : Directive) (q : Qualify) (d : Directive) :
    (i.add given q).2.Holds d ↔ i.Holds d ∨ d = given.recorded q := by
  cases given with
  | namespaceName name =>
    simp only [Imports.add, addNamespace]
    split
    · cases d <;> simp [Holds, Directive.recorded, mem_insertNew, recorded, or_right_comm]
    · cases d <;> simp [Holds, Directive.recorded, mem_insertNew, recorded, or_assoc]
  | staticType name | aliasName name target =>
    cases d <;> simp [Holds, Directive.recorded, Imports.add, addStatic, addAlias, mem_insertNew, recorded]

private theorem holds_merge (d : Directive) : (i.merge j).Holds d ↔ i.Holds d ∨ j.Holds d := by
  cases d <;> simp only [Holds, merge, mem_foldl_insertNew, or_or_or_comm]

private theorem size_add (given : Directive) (q : Qualify) :
    (i.add given q).2.size = i.size + (i.add given q).1.toNat := by
  cases given with
  | namespaceName name =>
    simp only [Imports.add, addNamespace]
    split <;> simp only [size, length_insertNew] <;> omega
  | staticType name | aliasName name target =>
    simp only [Imports.add, addStatic, addAlias, size, length_insertNew]
    omega

/-- A directive is new when it is not in its category yet. -/
theorem add_eq_true_iff (h : i.Sound) (given : Directive) (q : Qualify) :
    (i.add given q).1 = true ↔ ¬ i.Holds (given.recorded q) := by
  cases given with
  | namespaceName name =>
    simp only [Imports.add, addNamespace]
    split
    · rename_i hsystem
      have hother : recorded name q ∉ i.other := fun hmem => h.notOfSystem _ hmem ((isSystem_iff _).mp hsystem)
      simpa [Holds, Directive.recorded, recorded] using fun _ => hother
    · rename_i hother
      have hsystem : recorded name q ∉ i.system := fun hmem => hother ((isSystem_iff _).mpr (h.ofSystem _ hmem))
      simpa [Holds, Directive.recorded, recorded] using fun _ => hsystem
  | staticType name | aliasName name target =>
    simp [Imports.add, addStatic, addAlias, Holds, Directive.recorded, recorded]

open ImportStep (directives directivesOf)

mutual

private theorem Sound.perform {i : Imports} (h : i.Sound) (s : ImportStep) : (i.perform s).Sound := by
  match s with
  | .add given q => exact h.add given q
  | .merge steps => exact h.merge (Sound.empty.performAll steps)

private theorem Sound.performAll {i : Imports} (h : i.Sound) (steps : List ImportStep) :
    (i.performAll steps).Sound := by
  match steps with
  | [] => exact h
  | s :: rest => exact (h.perform s).performAll rest

end

mutual

private theorem holds_perform (i : Imports) (s : ImportStep) (d : Directive) :
    (i.perform s).Holds d ↔ i.Holds d ∨ d ∈ directives s := by
  match s with
  | .add given q => rw [perform, holds_add, directives, List.mem_singleton]
  | .merge steps =>
    rw [perform, holds_merge, holds_performAll, directives]
    cases d <;> simp [Holds]

private theorem holds_performAll (i : Imports) (steps : List ImportStep) (d : Directive) :
    (i.performAll steps).Holds d ↔ i.Holds d ∨ d ∈ directivesOf steps := by
  match steps with
  | [] => simp [performAll, directivesOf]
  | s :: rest =>
    rw [performAll, holds_performAll, holds_perform, directivesOf, List.mem_append, or_assoc]

end

private theorem sound_collect (steps : List ImportStep) :
    (collect steps).Sound := Sound.empty.performAll steps

private theorem holds_collect (steps : List ImportStep) (d : Directive) :
    (collect steps).Holds d ↔ d ∈ directivesOf steps := by
  rw [collect, holds_performAll]
  cases d <;> simp [Holds]

/-- The groups one after the other, each in the order in which it stands. -/
def texts (i : Imports) : List String :=
  i.system.map (fun name => "using " ++ name ++ ";")
    ++ i.other.map (fun name => "using " ++ name ++ ";")
    ++ i.statics.map (fun name => "using static " ++ name ++ ";")
    ++ i.aliases.map (fun entry => "using " ++ entry.1 ++ " = " ++ entry.2 ++ ";")

/-- Groups that are strictly increasing, with each namespace in the group that it belongs to. -/
structure Ordered (i : Imports) : Prop where
  system : i.system.Pairwise fun a b => directiveKey a < directiveKey b
  other : i.other.Pairwise fun a b => directiveKey a < directiveKey b
  statics : i.statics.Pairwise fun a b => directiveKey a < directiveKey b
  aliases : i.aliases.Pairwise fun a b => aliasKey a < aliasKey b
  ofSystem : ∀ name ∈ i.system, OfSystem name
  notOfSystem : ∀ name ∈ i.other, ¬ OfSystem name

/-- The same directives, each group in the order of writing. -/
def sorted (i : Imports) : Imports where
  system := i.system.mergeSort directiveLE
  other := i.other.mergeSort directiveLE
  statics := i.statics.mergeSort directiveLE
  aliases := i.aliases.mergeSort aliasLE

private theorem lines_eq_texts (i : Imports) : i.lines = i.sorted.texts := rfl

private theorem length_lines (i : Imports) : i.lines.length = i.size := by
  simp only [lines, size, List.length_append, List.length_map, List.length_mergeSort]

private theorem holds_sorted (i : Imports) (d : Directive) : i.sorted.Holds d ↔ i.Holds d := by
  cases d <;> simp [Holds, sorted]

private theorem Sound.ordered (h : i.Sound) : i.sorted.Ordered where
  system := pairwise_mergeSort_of_key directiveKey_injective directiveLE_iff h.system
  other := pairwise_mergeSort_of_key directiveKey_injective directiveLE_iff h.other
  statics := pairwise_mergeSort_of_key directiveKey_injective directiveLE_iff h.statics
  aliases := pairwise_mergeSort_of_key aliasKey_injective aliasLE_iff h.aliases
  ofSystem name hname := h.ofSystem name (List.mem_mergeSort.mp hname)
  notOfSystem name hname := h.notOfSystem name (List.mem_mergeSort.mp hname)

private theorem Ordered.mem_system (h : i.Ordered) (name : String) :
    name ∈ i.system ↔ i.Holds (.namespaceName name) ∧ OfSystem name :=
  ⟨fun hname => ⟨Or.inl hname, h.ofSystem name hname⟩,
    fun ⟨hname, hsystem⟩ => hname.resolve_right fun hother => h.notOfSystem name hother hsystem⟩

private theorem Ordered.mem_other (h : i.Ordered) (name : String) :
    name ∈ i.other ↔ i.Holds (.namespaceName name) ∧ ¬ OfSystem name :=
  ⟨fun hname => ⟨Or.inr hname, h.notOfSystem name hname⟩,
    fun ⟨hname, hother⟩ => hname.resolve_left fun hsystem => hother (h.ofSystem name hsystem)⟩

/-- A set of directives is held in order in one way only. -/
theorem Ordered.eq_of_holds (hi : i.Ordered) (hj : j.Ordered) (h : ∀ d, i.Holds d ↔ j.Holds d) : i = j := by
  have hsystem : i.system = j.system :=
    eq_of_pairwise_key hi.system hj.system fun name => by rw [hi.mem_system, hj.mem_system, h]
  have hother : i.other = j.other :=
    eq_of_pairwise_key hi.other hj.other fun name => by rw [hi.mem_other, hj.mem_other, h]
  have hstatics : i.statics = j.statics :=
    eq_of_pairwise_key hi.statics hj.statics fun name => h (.staticType name)
  have haliases : i.aliases = j.aliases :=
    eq_of_pairwise_key hi.aliases hj.aliases fun entry => h (.aliasName entry.1 entry.2)
  cases i
  cases j
  simp only at hsystem hother hstatics haliases
  rw [hsystem, hother, hstatics, haliases]

/-- Import lines are canonical. An addition is new exactly when its directive was not recorded before, and
then the size grows by one; there is one line a directive, in four strictly increasing groups that hold
what was recorded; and collectors that recorded the same directives have the same lines. -/
theorem lines_collect (steps : List ImportStep) :
    (∀ given q, ((collect steps).add given q).1 = true ↔ given.recorded q ∉ directivesOf steps) ∧
    (∀ given q, ((collect steps).add given q).1 = true ↔
      ((collect steps).add given q).2.size = (collect steps).size + 1) ∧
    (collect steps).lines.length = (collect steps).size ∧
    (∃ groups : Imports, (collect steps).lines = groups.texts ∧ groups.Ordered ∧
      ∀ d, groups.Holds d ↔ d ∈ directivesOf steps) ∧
    ∀ others, (∀ d, d ∈ directivesOf others ↔ d ∈ directivesOf steps) →
      (collect others).lines = (collect steps).lines := by
  refine ⟨fun given q => ?_, fun given q => ?_, length_lines _, ?_, fun others hsame => ?_⟩
  · rw [add_eq_true_iff (sound_collect steps), holds_collect]
  · rw [size_add]
    cases ((collect steps).add given q).1 <;> simp
  · refine ⟨(collect steps).sorted, rfl, (sound_collect steps).ordered, fun d => ?_⟩
    rw [holds_sorted, holds_collect]
  · have hgroups : (collect others).sorted = (collect steps).sorted :=
      (sound_collect others).ordered.eq_of_holds (sound_collect steps).ordered fun d => by
        rw [holds_sorted, holds_sorted, holds_collect, holds_collect, hsame]
    rw [lines_eq_texts, lines_eq_texts, hgroups]

end Imports
end CodeScribe
