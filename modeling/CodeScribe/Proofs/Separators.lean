import CodeScribe.Node.Render
import CodeScribe.Proofs.Writer

/-! Separators of a sequence. Between two entries it only counts whether there is one, at the ends only
whether one is forced, so that many sequences of nodes are laid out alike. -/
namespace CodeScribe

namespace Node

def anyForced (nodes : List Node) : Bool := nodes.any fun n => n.separation? == some true

/-- The sequence with one separator in place of every run of them. It is forced if one of the run is. -/
def collapse (nodes : List Node) : List Node :=
  match nodes with
  | [] => []
  | node :: rest =>
    if node.isSeparator then
      .separator (anyForced (node :: rest.takeWhile isSeparator)) :: collapse (rest.dropWhile isSeparator)
    else node :: collapse rest
termination_by nodes.length
decreasing_by
  · exact Nat.lt_succ_of_le (Text.length_dropWhile_le _ _)
  · exact Nat.lt_succ_self _

/-- Rewritings of the separators in a sequence, each at any place where it applies. -/
inductive Respaced (spacing : Spacing) (tail : Bool) : List Node → List Node → Prop
  /-- Every run of separators becomes one separator. -/
  | collapse (nodes : List Node) : Respaced spacing tail nodes (collapse nodes)
  /-- At the start, separators go if none of them is forced. -/
  | atStart {run : List Node} (nodes : List Node) : allSeparators run = true → anyForced run = false →
      Respaced spacing tail (run ++ nodes) nodes
  /-- At the end, separators go if none of them is forced. -/
  | atEnd {run : List Node} (nodes : List Node) : allSeparators run = true → anyForced run = false →
      Respaced spacing tail (nodes ++ run) nodes
  /-- Between two entries, a forced separator becomes a plain one. -/
  | unforce {a b : Node} {run more : List Node} (before after : List Node) : a.isSeparator = false →
      allSeparators run = true → allSeparators more = true → b.isSeparator = false →
      Respaced spacing tail (before ++ a :: (run ++ .separator true :: more ++ b :: after))
        (before ++ a :: (run ++ .separator false :: more ++ b :: after))
  /-- In tail position, all separators at the end go. -/
  | inTail {run : List Node} (nodes : List Node) : tail = true → allSeparators run = true →
      Respaced spacing tail (nodes ++ run) nodes
  /-- Where every two entries are set apart, the separators between them go. -/
  | between {a b : Node} {run : List Node} (before after : List Node) : spacing = .entries →
      a.isSeparator = false → allSeparators run = true → b.isSeparator = false →
      Respaced spacing tail (before ++ a :: (run ++ b :: after)) (before ++ a :: b :: after)

private theorem separation?_of_entry {n : Node} (h : n.isSeparator = false) : n.separation? = none := by
  simpa [isSeparator] using h

private theorem allSeparators_append (xs ys : List Node) :
    allSeparators (xs ++ ys) = (allSeparators xs && allSeparators ys) := List.all_append

private theorem allSeparators_of_entry {n : Node} (h : n.isSeparator = false) (rest : List Node) :
    allSeparators (n :: rest) = false := by
  simp [allSeparators, h]

private theorem allSeparators_of_separator {n : Node} (h : n.isSeparator = true) (rest : List Node) :
    allSeparators (n :: rest) = allSeparators rest := by
  simp [allSeparators, h]

private theorem anyForced_cons {n : Node} {forced : Bool} (h : n.separation? = some forced)
    (rest : List Node) : anyForced (n :: rest) = (forced || anyForced rest) := by
  simp [anyForced, h]

section
variable {spacing : Spacing} {tail : Bool}

private theorem renderAll_separator {n : Node} {forced : Bool} (h : n.separation? = some forced)
    (rest : List Node) (gap : Gap) (w : Writer) :
    renderAll spacing tail (n :: rest) gap w = renderAll spacing tail rest (gap.widen forced) w := by
  simp only [renderAll, h]

/-- An entry behind a gap: a blank line, if the gap asks for one, and then the entry itself. -/
def renderEntry (spacing : Spacing) (isTail : Bool) (n : Node) (gap : Gap) (w : Writer) : Writer :=
  let spaced := if gap.blank spacing n.isDeclaration then w.blankLine else w
  if isTail then n.render isTail spaced else (n.render isTail spaced).endLine

private theorem renderAll_entry {n : Node} (h : n.isSeparator = false) (rest : List Node) (gap : Gap)
    (w : Writer) : renderAll spacing tail (n :: rest) gap w =
      renderAll spacing tail rest { previous := some n.isDeclaration }
        (renderEntry spacing (tail && allSeparators rest) n gap w) := by
  simp only [renderAll, separation?_of_entry h]
  rfl

/-- Of a run of separators it counts that there is one, and whether one is forced. -/
theorem renderAll_run {run : List Node} (hne : run ≠ []) (h : allSeparators run = true)
    (rest : List Node) (gap : Gap) (w : Writer) :
    renderAll spacing tail (run ++ rest) gap w =
      renderAll spacing tail rest (gap.widen (anyForced run)) w := by
  induction run generalizing gap with
  | nil => exact absurd rfl hne
  | cons n more ih =>
    obtain ⟨hn, hmore⟩ : n.isSeparator = true ∧ allSeparators more = true := by
      simpa [allSeparators] using h
    obtain ⟨forced, hs⟩ := Option.isSome_iff_exists.mp hn
    rw [List.cons_append, renderAll_separator hs, anyForced_cons hs]
    by_cases hnil : more = []
    · subst hnil
      rw [List.nil_append, anyForced, List.any_nil, Bool.or_false]
    · rw [ih hnil hmore, Gap.widen, Gap.widen, Gap.widen, Bool.or_assoc]

/-- Sequences that are laid out alike behind every gap, and both of which say something or neither does,
are laid out alike behind other nodes. -/
theorem renderAll_append_congr {xs ys : List Node} (hsep : allSeparators xs = allSeparators ys)
    (h : ∀ gap w, renderAll spacing tail xs gap w = renderAll spacing tail ys gap w)
    (before : List Node) (gap : Gap) (w : Writer) :
    renderAll spacing tail (before ++ xs) gap w = renderAll spacing tail (before ++ ys) gap w := by
  induction before generalizing gap w with
  | nil => exact h gap w
  | cons n before ih =>
    cases hs : n.isSeparator with
    | true =>
      obtain ⟨forced, hforced⟩ := Option.isSome_iff_exists.mp hs
      rw [List.cons_append, List.cons_append, renderAll_separator hforced, renderAll_separator hforced, ih]
    | false =>
      rw [List.cons_append, List.cons_append, renderAll_entry hs, renderAll_entry hs, ih,
        allSeparators_append, allSeparators_append, hsep]

/-- Before the first entry it counts only whether a separator is forced. -/
theorem renderAll_of_first {gap other : Gap} (hgap : gap.previous = none) (hother : other.previous = none)
    (hforced : gap.forced = other.forced) (nodes : List Node) (w : Writer) :
    renderAll spacing tail nodes gap w = renderAll spacing tail nodes other w := by
  induction nodes generalizing gap other with
  | nil => rw [renderAll, renderAll, hforced]
  | cons n rest ih =>
    cases hs : n.isSeparator with
    | true =>
      obtain ⟨forced, hn⟩ := Option.isSome_iff_exists.mp hs
      rw [renderAll_separator hn, renderAll_separator hn]
      exact ih hgap hother (congrArg (· || forced) hforced)
    | false =>
      rw [renderAll_entry hs, renderAll_entry hs, renderEntry, renderEntry, Gap.blank, Gap.blank, hgap,
        hother, hforced]

/-- Behind an entry it counts for the next one only whether a blank line comes before it. -/
theorem renderAll_of_blank {b : Node} (hb : b.isSeparator = false) {gap other : Gap}
    (h : gap.blank spacing b.isDeclaration = other.blank spacing b.isDeclaration) (after : List Node)
    (w : Writer) :
    renderAll spacing tail (b :: after) gap w = renderAll spacing tail (b :: after) other w := by
  rw [renderAll_entry hb, renderAll_entry hb, renderEntry, renderEntry, h]

private theorem allSeparators_collapse (nodes : List Node) :
    allSeparators (collapse nodes) = allSeparators nodes := by
  fun_induction collapse nodes with
  | case1 => rfl
  | case2 node rest hs ih =>
    have hrest : allSeparators rest = allSeparators (rest.dropWhile isSeparator) := by
      conv_lhs => rw [← List.takeWhile_append_dropWhile (p := isSeparator) (l := rest)]
      rw [allSeparators_append, allSeparators, List.all_takeWhile, Bool.true_and]
    rw [allSeparators_of_separator rfl, allSeparators_of_separator hs, ih, hrest]
  | case3 node rest hs ih =>
    have hentry : node.isSeparator = false := by simpa using hs
    rw [allSeparators_of_entry hentry, allSeparators_of_entry hentry]

private theorem renderAll_collapse (nodes : List Node) (gap : Gap) (w : Writer) :
    renderAll spacing tail (collapse nodes) gap w = renderAll spacing tail nodes gap w := by
  fun_induction collapse nodes generalizing gap w with
  | case1 => rfl
  | case2 node rest hs ih =>
    have hrun : allSeparators (node :: rest.takeWhile isSeparator) = true := by
      simp [allSeparators, hs]
    have hnodes : node :: rest =
        (node :: rest.takeWhile isSeparator) ++ rest.dropWhile isSeparator := by
      rw [List.cons_append, List.takeWhile_append_dropWhile]
    rw [renderAll_separator rfl, ih]
    conv_rhs => rw [hnodes]
    exact (renderAll_run (List.cons_ne_nil _ _) hrun _ gap w).symm
  | case3 node rest hs ih =>
    have hentry : node.isSeparator = false := by simpa using hs
    rw [renderAll_entry hentry, renderAll_entry hentry, ih, allSeparators_collapse]

/-- Separators at the end do nothing, unless one is forced and the sequence is not in tail position. -/
theorem renderAll_append_run {run : List Node} (h : allSeparators run = true)
    (hend : tail = true ∨ anyForced run = false) (nodes : List Node) (w : Writer) :
    renderAll spacing tail (nodes ++ run) {} w = renderAll spacing tail nodes {} w := by
  have hnothing : ∀ gap w, renderAll spacing tail run gap w = renderAll spacing tail [] gap w := by
    intro gap w
    by_cases hne : run = []
    · rw [hne]
    · have hrun : renderAll spacing tail (run ++ []) gap w = _ := renderAll_run hne h [] gap w
      rw [List.append_nil] at hrun
      rw [hrun, renderAll, renderAll, Gap.widen]
      rcases hend with rfl | hforced
      · simp
      · simp [hforced]
  have hcongr := renderAll_append_congr (h.trans rfl) hnothing nodes {} w
  rwa [List.append_nil] at hcongr

/-- Behind an entry it counts for the next one only whether there are separators in between. -/
theorem renderAll_run_entry {b : Node} (hb : b.isSeparator = false) {run : List Node}
    (h : allSeparators run = true) (previous : Bool) (after : List Node) (w : Writer) :
    renderAll spacing tail (run ++ b :: after) { previous := some previous } w =
      renderAll spacing tail (b :: after) { previous := some previous, separated := !run.isEmpty } w := by
  cases run with
  | nil => rfl
  | cons n run =>
    rw [renderAll_run (List.cons_ne_nil n run) h]
    refine renderAll_of_blank hb ?_ after w
    rfl

/-- Between two entries, a run of separators may be any other that asks for a blank line where it does. -/
theorem renderAll_between {a b : Node} (ha : a.isSeparator = false) (hb : b.isSeparator = false)
    {xs ys : List Node} (hxs : allSeparators xs = true) (hys : allSeparators ys = true)
    (h : spacing = .entries ∨ xs.isEmpty = ys.isEmpty) (before after : List Node) (w : Writer) :
    renderAll spacing tail (before ++ a :: (xs ++ b :: after)) {} w =
      renderAll spacing tail (before ++ a :: (ys ++ b :: after)) {} w := by
  have hrest (run : List Node) : allSeparators (run ++ b :: after) = false := by
    rw [allSeparators_append, allSeparators_of_entry hb, Bool.and_false]
  refine renderAll_append_congr ?_ (fun gap w => ?_) before {} w
  · rw [allSeparators_of_entry ha, allSeparators_of_entry ha]
  · rw [renderAll_entry ha, renderAll_entry ha, hrest, hrest, renderAll_run_entry hb hxs,
      renderAll_run_entry hb hys]
    refine renderAll_of_blank hb ?_ after _
    rcases h with rfl | he
    · simp [Gap.blank, Spacing.separates]
    · rw [he]

/-- At the start, separators do nothing unless one is forced. -/
theorem renderAll_run_append {run : List Node} (h : allSeparators run = true)
    (hforced : anyForced run = false) (nodes : List Node) (w : Writer) :
    renderAll spacing tail (run ++ nodes) {} w = renderAll spacing tail nodes {} w := by
  by_cases hne : run = []
  · rw [hne, List.nil_append]
  · rw [renderAll_run hne h, hforced]
    refine renderAll_of_first ?_ ?_ ?_ nodes w
    all_goals rfl

end

/-- Out of tail position every entry ends its line, so that none is left open. -/
theorem isLineOpen_renderAll (spacing : Spacing) (nodes : List Node) (gap : Gap) {w : Writer}
    (h : w.isLineOpen = false) : (renderAll spacing false nodes gap w).isLineOpen = false := by
  induction nodes generalizing gap w with
  | nil =>
    rw [renderAll]
    split
    · exact w.isLineOpen_blankLine
    · exact h
  | cons n rest ih =>
    cases hs : n.isSeparator with
    | true =>
      obtain ⟨forced, hforced⟩ := Option.isSome_iff_exists.mp hs
      rw [renderAll_separator hforced]
      exact ih _ h
    | false =>
      rw [renderAll_entry hs, Bool.false_and]
      exact ih _ (Writer.isLineOpen_endLine _)

/-- Sequences that differ in separators as `Respaced` says leave the same writer, whatever it held before.
Out of tail position a sequence leaves no line open that was not open before it. -/
theorem renderAll_respaced (spacing : Spacing) (w : Writer) :
    (∀ {tail : Bool} {nodes spaced : List Node}, Respaced spacing tail nodes spaced →
      renderAll spacing tail nodes {} w = renderAll spacing tail spaced {} w) ∧
    (w.isLineOpen = false →
      ∀ nodes : List Node, (renderAll spacing false nodes {} w).isLineOpen = false) := by
  refine ⟨fun {tail nodes spaced} h => ?_, fun h nodes => isLineOpen_renderAll spacing nodes {} h⟩
  cases h with
  | collapse => exact (renderAll_collapse nodes {} w).symm
  | atStart _ hrun hforced => exact renderAll_run_append hrun hforced spaced w
  | atEnd _ hrun hforced => exact renderAll_append_run hrun (.inr hforced) spaced w
  | @unforce a b run more before after ha hrun hmore hb =>
    have hruns (forced : Bool) : allSeparators (run ++ .separator forced :: more) = true := by
      rw [allSeparators_append, hrun, allSeparators_of_separator rfl, hmore, Bool.true_and]
    have hsome (forced : Bool) : (run ++ .separator forced :: more).isEmpty = false := by simp
    exact renderAll_between ha hb (hruns true) (hruns false)
      (.inr ((hsome true).trans (hsome false).symm)) before after w
  | inTail _ htail hrun => exact renderAll_append_run hrun (.inl htail) spaced w
  | between before after hentries ha hrun hb =>
    have hnone : allSeparators [] = true := rfl
    exact renderAll_between ha hb hrun hnone (.inl hentries) before after w

/-- Two entries with a run of separators between them, and another one at the end. -/
def spacedSequence : List Node :=
  [.raw "a\n" true, .separator false, .separator true, .typeDecl { signature := "class C" } [] false [],
    .separator false]

/-- The same entries alone. -/
def plainSequence : List Node := [.raw "a\n" true, .typeDecl { signature := "class C" } [] false []]

/-- A writer midway in a line, two levels deep. -/
def sequenceWriter : Writer :=
  { config := { newline := .crlf }, output := "x ".toList, line := "y".toList, depth := 2 }

theorem renderAll_respaced_spacedSequence :
    (Respaced .entries true spacedSequence (plainSequence ++ [.separator false]) ∧
      Respaced .entries true (plainSequence ++ [.separator false]) plainSequence ∧
      renderAll .entries true spacedSequence {} sequenceWriter =
        renderAll .entries true plainSequence {} sequenceWriter) ∧
    (Writer.new {}).isLineOpen = false ∧
      (renderAll .members false spacedSequence {} (Writer.new {})).isLineOpen = false ∧
      (renderAll .members false spacedSequence {} (Writer.new {})).text =
        "a\n\nclass C\n\x7b\n\x7d\n".toList := by
  have hbetween : Respaced .entries true spacedSequence (plainSequence ++ [.separator false]) :=
    @Respaced.between .entries true (.raw "a\n" true) (.typeDecl { signature := "class C" } [] false [])
      [.separator false, .separator true] [] [.separator false] rfl rfl rfl rfl
  have hend : Respaced .entries true (plainSequence ++ [.separator false]) plainSequence :=
    .inTail plainSequence rfl rfl
  have hclosed : (Writer.new {}).isLineOpen = false := rfl
  have hspaced := (renderAll_respaced .entries sequenceWriter).1 hbetween
  have hplain := (renderAll_respaced .entries sequenceWriter).1 hend
  have hleft := (renderAll_respaced .members (Writer.new {})).2 hclosed spacedSequence
  exact ⟨⟨hbetween, hend, hspaced.trans hplain⟩, hclosed, hleft, by decide +kernel⟩

end Node
end CodeScribe
