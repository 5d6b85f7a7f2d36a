import CodeScribe.Proofs.Blanks.Node
import CodeScribe.Proofs.Blanks.Rows
import CodeScribe.Proofs.Ink.Flat
import CodeScribe.Proofs.LineEnds.Document

/-! Blank lines of a finished document. Sound texts give no two of them in a row, none at the start and
none at either end of a scope, as long as no method body in braces stays open below one. -/
namespace CodeScribe
open Text (allBlank blanks stub pieces)
open Page (edge fresh)
open Plan (Lands)
open Tape (spell)

namespace Text

/-- Whether a text has a blank line with this number. -/
def blankAt (cs : List Char) (i : Nat) : Bool := ((lines cs).map allBlank)[i]? == some true

private theorem map_allBlank_pieces (cs : List Char) :
    (pieces '\n' cs).map allBlank = blanks cs ++ [allBlank (stub cs)] := by
  rw [pieces_eq_ended, List.map_append, blanks]
  rfl

section
variable {rows done : List Bool} {i : Nat}

/-- A blank row that is kept is not the one in progress. -/
private theorem getElem?_of_kept {now : Bool} (h : ((rows ++ [now]).rdropWhile id)[i]? = some true) :
    rows[i]? = some true := by
  cases now with
  | true =>
    rw [List.rdropWhile_concat_pos _ _ _ rfl] at h
    obtain ⟨rest, hrest⟩ := List.rdropWhile_prefix id rows
    rw [← hrest, List.getElem?_append_left (List.getElem?_eq_some_iff.mp h).1, h]
  | false =>
    rw [List.rdropWhile_concat_neg _ _ _ (by simp)] at h
    by_cases hi : i < rows.length
    · rwa [List.getElem?_append_left hi] at h
    · rw [List.getElem?_append_right (by omega)] at h
      exact absurd (List.mem_of_getElem? h) (by simp)

/-- Rows above one that is seen are kept. -/
private theorem kept_of_seen (h : false ∈ rows) (hi : i < done.length) :
    ((done ++ rows).rdropWhile id)[i]? = done[i]? := by
  have hseen : (rows.reverse.dropWhile id).isEmpty = false := by
    rw [Bool.eq_false_iff, ne_eq, List.isEmpty_iff, List.dropWhile_eq_nil_iff]
    intro hall
    exact absurd (hall false (by simpa using h)) (by simp)
  have hkept : (done ++ rows).rdropWhile id = done ++ rows.rdropWhile id := by
    rw [List.rdropWhile, List.reverse_append, List.dropWhile_append, hseen, List.rdropWhile]
    simp
  rw [hkept, List.getElem?_append_left hi]

end

/-- Trimming the end of a text drops its last lines as far as they are blank. -/
private theorem map_allBlank_trimEnd (cs : List Char) :
    ((pieces '\n' cs).map allBlank).rdropWhile id =
      if allBlank cs then [] else (pieces '\n' (trimEnd cs)).map allBlank := by
  induction cs using List.reverseRecOn with
  | nil => rfl
  | append_singleton cs c ih =>
    have hall : allBlank (cs ++ [c]) = (allBlank cs && Character.isBlank c) := by simp [allBlank]
    cases hc : Character.isBlank c with
    | true =>
      have htrim : trimEnd (cs ++ [c]) = trimEnd cs := by
        rw [trimEnd_append, if_pos (by simp [allBlank, hc])]
      rw [hall, hc, Bool.and_true, htrim, ← ih, map_allBlank_pieces, map_allBlank_pieces]
      by_cases hfeed : c = '\n'
      · obtain ⟨hrows, hstub⟩ := ended_concat cs
        rw [hfeed, blanks, hrows, hstub, List.map_append, List.rdropWhile_concat_pos _ _ _ rfl]
        rfl
      · obtain ⟨hrows, hstub⟩ := ended_append cs (by simpa using Ne.symm hfeed : '\n' ∉ [c])
        have hstretch : allBlank (stub cs ++ [c]) = allBlank (stub cs) := by simp [allBlank, hc]
        rw [blanks, hrows, hstub, hstretch, blanks]
    | false =>
      have hfeed : '\n' ∉ [c] := by
        rw [List.mem_singleton]
        rintro rfl
        exact absurd hc (by decide)
      have hstretch : allBlank (stub cs ++ [c]) = false := by simp [allBlank, hc]
      rw [hall, hc, Bool.and_false, trimEnd_append_singleton cs hc, map_allBlank_pieces,
        (ended_append cs hfeed).2, hstretch, List.rdropWhile_concat_neg _ _ _ (by simp)]
      rfl

/-- The number of complete rows is that of the line feeds. -/
private theorem length_blanks (cs : List Char) : (blanks cs).length = cs.count '\n' := by
  induction cs using List.reverseRecOn with
  | nil => rfl
  | append_singleton cs c ih =>
    rw [blanks, List.length_map] at ih
    rw [blanks, List.length_map, List.count_append]
    by_cases hfeed : c = '\n'
    · rw [hfeed, (ended_concat cs).1, List.length_append, ih]
      rfl
    · rw [(ended_append cs (by simpa using Ne.symm hfeed : '\n' ∉ [c])).1, ih]
      simp [hfeed]

end Text

/-- The lines of a finished text, up to the last one that is seen. -/
theorem map_allBlank_normalize (config : Config) (cs : List Char) :
    (Text.lines (normalize config cs)).map allBlank =
      ((pieces '\n' (unifyLineEnds cs)).map allBlank).rdropWhile id := by
  rw [Text.map_allBlank_trimEnd]
  by_cases hnil : Text.trimEnd (unifyLineEnds cs) = []
  · have hblank : allBlank (unifyLineEnds cs) = true := by
      rw [Text.allBlank_iff, ← Text.visible_trimEnd, hnil, Text.visible_nil]
    have hempty : normalize config cs = [] := by simp [normalize, hnil]
    rw [hempty, hblank]
    rfl
  · have hseen : allBlank (unifyLineEnds cs) = false := by
      rw [Bool.eq_false_iff]
      intro hblank
      exact hnil (Text.trimEnd_of_allBlank hblank)
    rw [hseen, lines_normalize_of_seen config hnil]
    rfl

namespace Tape

/-- Which lines are blank in a text with one more character follows from which were blank before. -/
private theorem map_allBlank_cons (c : Char) {xs ys : List Char}
    (h : (pieces '\n' xs).map allBlank = (pieces '\n' ys).map allBlank) :
    (pieces '\n' (c :: xs)).map allBlank = (pieces '\n' (c :: ys)).map allBlank := by
  by_cases hc : c = '\n'
  · simp only [pieces, if_pos hc, List.map_cons, h]
  · obtain ⟨first, more, hx, -⟩ := Text.prefix_head_pieces (by simp) xs.nil_prefix
    obtain ⟨next, rest, hy, -⟩ := Text.prefix_head_pieces (by simp) ys.nil_prefix
    rw [hx, hy, List.map_cons, List.map_cons, List.cons.injEq] at h
    rw [Text.pieces_cons_of_ne hc hx, Text.pieces_cons_of_ne hc hy, List.map_cons, List.map_cons, h.2]
    simp only [allBlank, List.all_cons] at h ⊢
    rw [h.1]

/-- Which lines of a tape are blank does not depend on the line terminator. -/
theorem map_allBlank_spell (newline : Newline) (t : Tape) :
    (pieces '\n' (spell newline t)).map allBlank = (pieces '\n' (spell .lf t)).map allBlank := by
  induction t with
  | nil => rfl
  | cons m t ih =>
    cases m with
    | ink c => exact map_allBlank_cons c ih
    | terminator =>
      cases newline with
      | lf => rfl
      | crlf =>
        have hcrlf := Text.pieces_append_cons '\n' ['\r'] (spell .crlf t)
        have hlf := Text.pieces_append_cons '\n' [] (spell .lf t)
        change (pieces '\n' (['\r'] ++ '\n' :: spell .crlf t)).map allBlank =
          (pieces '\n' ([] ++ '\n' :: spell .lf t)).map allBlank
        rw [hcrlf, hlf, List.map_append, List.map_append, ih]
        rfl

/-- Without a carriage return in its texts, a tape is unified to the shorter terminator. -/
theorem unifyLineEnds_spell (newline : Newline) {t : Tape} (h : Mark.ink '\r' ∉ t) :
    unifyLineEnds (spell newline t) = spell .lf t := by
  have hlf : unifyLineEnds (spell .lf t) = spell .lf t := by
    apply unifyLineEnds_of_not_mem
    simp only [spell, List.mem_flatMap, not_exists, not_and]
    intro m hm
    cases m with
    | ink c =>
      have hc : '\r' ≠ c := by
        rintro rfl
        exact h hm
      simpa [Mark.spell] using hc
    | terminator => simp [Mark.spell, Newline.text]
  have hnot : ¬ [Mark.ink '\r', .terminator] <:+: t := fun htorn => h (htorn.subset List.mem_cons_self)
  cases newline with
  | lf => exact hlf
  | crlf => rw [unifyLineEnds_spell_of_untorn ((torn_eq_zero_iff t).mpr hnot), hlf]

end Tape

/-- A tidy plan has no carriage return. -/
theorem Plan.return_not_mem_ink {strict : Bool} {p : Plan} {page : Page}
    (h : Plan.tidy strict p page = true) : '\r' ∉ p.ink := by
  have htakes (cs : List Char) (page : Page) (ht : page.takes cs = true) : '\r' ∉ cs := by
    induction cs generalizing page with
    | nil => simp
    | cons c cs ih =>
      rw [Page.takes, Bool.and_eq_true, Bool.and_eq_true, bne_iff_ne] at ht
      rw [List.mem_cons, not_or]
      exact ⟨Ne.symm ht.1.1, ih _ ht.2⟩
  induction p generalizing page with
  | nil => simp [ink]
  | cons s p ih =>
    rw [tidy, Bool.and_eq_true] at h
    have hs : '\r' ∉ s.ink := by
      cases s with
      | put c => exact htakes [c] page h.1
      | raw text => exact htakes text page h.1
      | _ => simp [Stroke.ink]
    rw [ink_cons, List.mem_append, not_or]
    exact ⟨hs, ih h.2⟩

/-- A blank line behind a line that is seen. -/
theorem Page.Landed.tidy_blankLine {strict : Bool} {page : Page} (h : page.Landed) :
    Plan.tidy strict Plan.blankLine page = true := by
  rw [Plan.blankLine, Plan.tidy, h.endLine.2, h.endLine.1]
  rfl

namespace Document
variable {d : Document}

/-- Which lines of a finished document are blank, when its texts have no carriage returns. -/
theorem map_allBlank_render (hreturn : '\r' ∉ d.plan.ink) :
    (Text.lines (normalize d.config d.written)).map allBlank =
      (blanks d.written ++ [allBlank (stub d.written)]).rdropWhile id := by
  have htape : Mark.ink '\r' ∉ d.tape := Writer.return_not_mem_tape (by simp [writer]) hreturn
  rw [map_allBlank_normalize, ← Text.map_allBlank_pieces, written_eq,
    Tape.unifyLineEnds_spell d.config.newline htape, ← Tape.map_allBlank_spell d.config.newline]

/-- All texts of a document are sound, no separator is forced, and every node shows something. -/
def plain (d : Document) : Bool :=
  d.config.pragma.all soundText && soundText d.config.docPrefix && d.imports.lines.all soundText
    && d.enclosing.all soundText && Node.allPlain d.nodes

/-- No method body in braces leaves its last line open below a blank one. -/
def bodiesClear (d : Document) : Bool := Node.allBodiesClear d.config.docPrefix.toList d.nodes

private theorem tidy_planPreamble {strict : Bool} (hpragma : d.config.pragma.all soundText = true)
    (himports : d.imports.lines.all soundText = true) (page : Page) :
    Plan.tidy strict d.planPreamble page = true := by
  have hlines : Lands strict d.imports.lines.isEmpty
      (Plan.lines false (d.imports.lines.map String.toList)) true :=
    .entries strict (fun _ hs => hs) himports false
  have hempty : (d.imports.lines.map String.toList).isEmpty = d.imports.lines.isEmpty := List.isEmpty_map
  simp only [planPreamble, planPragma, hempty]
  cases hp : d.config.pragma with
  | none =>
    cases hl : d.imports.lines.isEmpty with
    | true => simpa using hlines.tidy page
    | false =>
      rw [hl] at hlines
      have hlast : Plan.tidy strict Plan.blankLine _ = true := (hlines.lands page).tidy_blankLine
      simp [Plan.tidy_append, hlines.tidy, hlast]
  | some pragma =>
    rw [hp] at hpragma
    have hfirst : Plan.tidy strict (Plan.line pragma.toList) page = true := (Lands.line hpragma).tidy page
    have hnext : Plan.tidy strict Plan.blankLine fresh = true := rfl
    cases hl : d.imports.lines.isEmpty with
    | true =>
      simp [Plan.tidy_append, List.isEmpty_iff.mp hl, Plan.lines, hfirst, Plan.Lands.follow_line hpragma,
        hnext]
    | false =>
      rw [hl] at hlines
      have hlast (page : Page) : Plan.tidy strict Plan.blankLine
          (page.follow (Plan.lines false (d.imports.lines.map String.toList))) = true :=
        (hlines.lands page).tidy_blankLine
      simp [Plan.tidy_append, hfirst, Plan.Lands.follow_line hpragma, hnext, hlines.tidy, hlast]

private theorem tidy_planEntries {strict : Bool} (hd : d.plain = true) (page : Page) :
    Plan.tidy strict d.planEntries page = (!strict || d.bodiesClear) := by
  simp only [plain, Bool.and_eq_true] at hd
  obtain ⟨⟨⟨⟨-, hstart⟩, -⟩, hname⟩, hnodes⟩ := hd
  have hentries (page : Page) : Plan.Fills strict false _ _ (!strict || d.bodiesClear) page :=
    Node.fills_planAll hstart .entries false d.nodes {} page hnodes rfl (.inl rfl)
  unfold planEntries
  cases he : d.enclosing with
  | none => exact (hentries page).tidy
  | some name =>
    rw [he] at hname
    have hopening : Text.sound ("namespace ".toList ++ name.toList) = true :=
      Text.sound_append (by decide) hname
    cases d.config.namespaceStyle with
    | fileScoped =>
      have hline : Text.sound ("namespace ".toList ++ name.toList ++ [';']) = true :=
        Text.sound_append hopening (by decide)
      have hnext : Plan.tidy strict Plan.blankLine fresh = true := rfl
      dsimp only
      rw [Plan.tidy_append, Plan.tidy_append, (Lands.line hline).tidy, Lands.follow_line hline, hnext,
        (hentries _).tidy, Bool.true_and, Bool.true_and]
    | block =>
      dsimp only
      rw [Plan.tidy_append, (Lands.line hopening).tidy, (Plan.Fills.braced hentries false).tidy,
        Bool.true_and]

private theorem tidy_plan (strict : Bool) (hd : d.plain = true) :
    Plan.tidy strict d.plan edge = (!strict || d.bodiesClear) := by
  have hparts := hd
  simp only [plain, Bool.and_eq_true] at hparts
  rw [plan, Plan.tidy_append, tidy_planPreamble hparts.1.1.1.1 hparts.1.1.2, tidy_planEntries hd,
    Bool.true_and]

/-- Where a run has got to behind the first moves of its plan, and which lines of the finished text are
blank from there on. -/
theorem blanks_render (hd : d.plain = true) {text : String} (h : d.render = .ok text)
    {before after : Plan} (hplan : d.plan = before ++ after) :
    (d.writer.follow before).Drawn (edge.follow before) ∧
      ∃ (rows : List Bool) (last : Page), (edge.follow before).Leads last rows ∧
        (Text.lines text.toList).map allBlank =
          (blanks (d.writer.follow before).output ++ (rows ++ [last.blank])).rdropWhile id := by
  have hf := d.faithful_writer
  have hs := d.shows_writer
  have htidy : Plan.tidy false d.plan edge = true := d.tidy_plan false hd
  have hreturn := Plan.return_not_mem_ink htidy
  rw [hplan, Plan.tidy_append, Bool.and_eq_true] at htidy
  obtain ⟨hdrawn, -⟩ := Writer.drawn_follow hf hs (Writer.drawn_new _ _) htidy.1
  have hf' : (d.writer.follow before).classify.Faithful := by rwa [Writer.classify_follow]
  have hs' : (d.writer.follow before).classify.Shows := by rwa [Writer.classify_follow]
  obtain ⟨hdrawn', rows, hrows, hleads⟩ := Writer.drawn_follow hf' hs' hdrawn htidy.2
  obtain ⟨hfits, hblanks⟩ :=
    hdrawn'.settle (by rwa [Writer.classify_follow]) (by rwa [Writer.classify_follow])
  rw [← Writer.follow_append, ← hplan] at hfits hblanks hrows
  refine ⟨hdrawn, rows, _, hleads, ?_⟩
  rw [hfits.blank_eq, ← List.append_assoc, ← hrows, ← hblanks]
  rw [render_of_not_doubled (not_doubled_of_render h), Except.ok.injEq] at h
  rw [← h, String.toList_ofList]
  exact map_allBlank_render hreturn

end Document

def Writer.lineCount (w : Writer) : Nat := w.output.count '\n'

namespace Document
variable {d : Document} {text : String} {before after : Plan}

private theorem blankAt_iff {i : Nat} :
    Text.blankAt text.toList i = true ↔ ((Text.lines text.toList).map allBlank)[i]? = some true :=
  beq_iff_eq

/-- No blank line at the start, and no two of them in a row. -/
theorem blankAt_spaced (hd : d.plain = true) (h : d.render = .ok text) :
    Text.blankAt text.toList 0 = false ∧
      ∀ i, Text.blankAt text.toList i = true → Text.blankAt text.toList (i + 1) = false := by
  obtain ⟨-, rows, last, hleads, hlines⟩ := @blanks_render d hd text h [] d.plan rfl
  have hspaced : Spaced none rows := hleads.spaced_rows
  have hrow {i : Nat} (hi : Text.blankAt text.toList i = true) : rows[i]? = some true := by
    rw [blankAt_iff, hlines] at hi
    exact Text.getElem?_of_kept hi
  constructor
  · rw [Bool.eq_false_iff]
    intro hfirst
    exact hspaced.head?_ne (by rw [List.head?_eq_getElem?, hrow hfirst])
  · intro i hi
    rw [Bool.eq_false_iff]
    intro hnext
    exact hspaced.not_both (hrow hi) (hrow hnext)

private theorem tidy_at (strict : Bool) (hd : d.plain = true) (hclear : (!strict || d.bodiesClear) = true)
    {s : Stroke} (hplan : d.plan = before ++ s :: after) : s.tidy strict (edge.follow before) = true := by
  have htidy := d.tidy_plan strict hd
  rw [hclear, hplan, Plan.tidy_append, Plan.tidy, Bool.and_eq_true, Bool.and_eq_true] at htidy
  exact htidy.2.1

/-- A scope is entered on a fresh line, and that line is not blank. -/
theorem blankAt_enter (hd : d.plain = true) (h : d.render = .ok text)
    (hplan : d.plan = before ++ .enter :: after) :
    (d.writer.follow before).isLineOpen = false ∧
      Text.blankAt text.toList (d.writer.follow before).lineCount = false := by
  have hpage : edge.follow before = fresh := by
    simpa [Stroke.tidy] using tidy_at false hd rfl hplan
  have hdrawn := (blanks_render hd h hplan).1
  refine ⟨hdrawn.fill_eq_none_iff.mp (by rw [hpage]; rfl), ?_⟩
  have hinside : d.plan = (before ++ [.enter]) ++ after := by simp [hplan]
  obtain ⟨-, rows, last, hleads, hlines⟩ := blanks_render hd h hinside
  have houtput : (d.writer.follow (before ++ [.enter])).output = (d.writer.follow before).output := by
    rw [Writer.follow_append]
    rfl
  rw [Page.follow_append, hpage] at hleads
  have hspaced : Spaced none rows := hleads.spaced_rows
  have hcount : (blanks (d.writer.follow before).output).length = (d.writer.follow before).lineCount :=
    Text.length_blanks _
  rw [Bool.eq_false_iff]
  intro hblank
  rw [blankAt_iff, hlines, houtput, ← List.append_assoc] at hblank
  have hrow := Text.getElem?_of_kept hblank
  rw [List.getElem?_append_right hcount.le, hcount, Nat.sub_self, ← List.head?_eq_getElem?] at hrow
  exact hspaced.head?_ne hrow

/-- The line above the end of a scope is blank only if the page says so. -/
theorem above_of_blankAt (hd : d.plain = true) (h : d.render = .ok text)
    (hplan : d.plan = before ++ after) {i : Nat} (hi : (d.writer.follow before).lineCount = i + 1)
    (hblank : Text.blankAt text.toList i = true) : (edge.follow before).above = some true := by
  obtain ⟨hdrawn, rows, last, -, hlines⟩ := blanks_render hd h hplan
  have hcount : (blanks (d.writer.follow before).output).length = i + 1 :=
    (Text.length_blanks _).trans hi
  rw [blankAt_iff, hlines, ← List.append_assoc] at hblank
  have hrow := Text.getElem?_of_kept hblank
  rw [List.getElem?_append_left (by omega)] at hrow
  apply hdrawn.fits.above.mp
  rw [hdrawn.blanks_eq, List.getLast?_eq_getElem?, hcount, Nat.add_sub_cancel, hrow]

/-- Under something that is seen, a blank line stays. -/
theorem exists_blankAt (hd : d.plain = true) (h : d.render = .ok text) (hplan : d.plan = before ++ after)
    (habove : (edge.follow before).above = some true) (hseen : (edge.follow before).fill = .seen) :
    ∃ i, (d.writer.follow before).lineCount = i + 1 ∧ Text.blankAt text.toList i = true := by
  obtain ⟨hdrawn, rows, last, hleads, hlines⟩ := blanks_render hd h hplan
  have hlast := hdrawn.fits.above.mpr habove
  rw [hdrawn.blanks_eq, List.getLast?_eq_getElem?] at hlast
  have hi := (List.getElem?_eq_some_iff.mp hlast).1
  refine ⟨(blanks (d.writer.follow before).output).length - 1, ?_, ?_⟩
  · rw [Writer.lineCount, ← Text.length_blanks]
    omega
  · have hkept : false ∈ rows ++ [last.blank] := List.mem_of_mem_head? (hleads.seen hseen)
    rw [blankAt_iff, hlines, Text.kept_of_seen hkept hi, hlast]

/-- Blank lines stand between lines that are seen: there is none at the start, none behind another one, none
right below the line that opens a scope, and none right above the end of a scope that is left on a fresh
line. Where a scope ends in the middle of a line, there is none above that line either exactly when all
method bodies in braces are clear. -/
theorem blankAt_render (hd : d.plain = true) (h : ¬ d.Doubled) :
    ∃ text, d.render = .ok text ∧ Text.blankAt text.toList 0 = false ∧
      (∀ i, Text.blankAt text.toList i = true → Text.blankAt text.toList (i + 1) = false) ∧
      (∀ before after, d.plan = before ++ .enter :: after →
        (d.writer.follow before).isLineOpen = false ∧
          Text.blankAt text.toList (d.writer.follow before).lineCount = false) ∧
      (∀ before after i, d.plan = before ++ .leave :: after →
        (d.writer.follow before).isLineOpen = false → (d.writer.follow before).lineCount = i + 1 →
          Text.blankAt text.toList i = false) ∧
      ((∀ before after i, d.plan = before ++ .leave :: after →
          (d.writer.follow before).lineCount = i + 1 → Text.blankAt text.toList i = false) ↔
        d.bodiesClear = true) := by
  obtain ⟨text, hrender⟩ : ∃ text, d.render = .ok text := ⟨_, render_of_not_doubled h⟩
  obtain ⟨hfirst, hpairs⟩ := blankAt_spaced hd hrender
  refine ⟨text, hrender, hfirst, hpairs, fun before after => blankAt_enter hd hrender, ?_, ?_, ?_⟩
  · intro before after i hplan hopen hi
    have htidy := tidy_at false hd rfl hplan
    have hfill := (blanks_render hd hrender hplan).1.fill_eq_none_iff.mpr hopen
    rw [Bool.eq_false_iff]
    intro hblank
    have habove := above_of_blankAt hd hrender hplan hi hblank
    simp [Stroke.tidy, habove, hfill] at htidy
  · intro hleaves
    by_contra hclear
    -- the lax check passes and the strict one does not, so a scope is left below a blank line
    have hlax : Plan.tidy false d.plan edge = true := d.tidy_plan false hd
    have hstrict : Plan.tidy true d.plan edge = false := by
      rw [d.tidy_plan true hd]
      simpa using hclear
    obtain ⟨before, after, hplan, habove, hseen⟩ := Plan.exists_leave_of_tidy hlax hstrict
    obtain ⟨i, hi, hblank⟩ := exists_blankAt hd hrender hplan habove hseen
    rw [hleaves before after i hplan hi] at hblank
    exact Bool.noConfusion hblank
  · intro hclear before after i hplan hi
    have htidy := tidy_at true hd hclear hplan
    rw [Bool.eq_false_iff]
    intro hblank
    have habove := above_of_blankAt hd hrender hplan hi hblank
    simp [Stroke.tidy, habove] at htidy

end Document

/-- A documented type with a method whose body is an expression with a footer, behind a separator. -/
def spacedDocument : Document where
  config := { newline := .crlf, pragma := some "#nullable enable" }
  imports := { other := ["Tools"] }
  enclosing := some "App"
  nodes := [.separator false,
    .typeDecl { signature := "class C", doc := some { summary := some "First.\nSecond." } } ["Base"] false
      [.raw "int x;\n" false, .methodDecl { signature := "int M()" } .block
        { header := some "return", footer := some ";", expression := true, joined := true }
        [.separator false, .block { brackets := some Brackets.parens } [.raw "x" false, .raw "+ 1" false]],
      .separator false, .raw "int y;" false]]

theorem blankAt_render_spacedDocument :
    spacedDocument.plain = true ∧ ¬ spacedDocument.Doubled ∧ spacedDocument.bodiesClear = true ∧
      ∃ text, spacedDocument.render = .ok text ∧ Text.blankAt text.toList 0 = false ∧
        ∀ before after i, spacedDocument.plan = before ++ .leave :: after →
          (spacedDocument.writer.follow before).lineCount = i + 1 →
            Text.blankAt text.toList i = false := by
  have hplain : spacedDocument.plain = true := by decide +kernel
  have hsingle : ¬ spacedDocument.Doubled := by
    rintro ⟨-, hnested⟩
    exact absurd hnested (by decide)
  have hclear : spacedDocument.bodiesClear = true := by decide +kernel
  obtain ⟨text, hrender, hfirst, -, -, -, hends⟩ := Document.blankAt_render hplain hsingle
  exact ⟨hplain, hsingle, hclear, text, hrender, hfirst, hends.mpr hclear⟩

/-- A method in braces whose body is left open behind a separator. -/
def openBody : Document where
  nodes := [.methodDecl { signature := "int M()" } .block { expression := true }
    [.raw "a" false, .separator false, .raw "b" false]]

/-- The closing brace is glued to the last line of the body, below the blank line in front of it. -/
theorem render_openBody :
    openBody.plain = true ∧ ¬ openBody.Doubled ∧
      openBody.render = .ok "int M()\n\x7b\n    a\n\nb\x7d\n" ∧
      Text.blankAt "int M()\n\x7b\n    a\n\nb\x7d\n".toList 3 = true ∧
      ∃ before after, openBody.plan = before ++ .leave :: .put '}' :: after ∧
        (openBody.writer.follow before).lineCount = 4 := by
  refine ⟨by decide +kernel, ?_, by decide +kernel, by decide +kernel, openBody.plan.take 17,
    openBody.plan.drop 19, by decide +kernel, by decide +kernel⟩
  rintro ⟨-, hnested⟩
  exact absurd hnested (by decide)

end CodeScribe
