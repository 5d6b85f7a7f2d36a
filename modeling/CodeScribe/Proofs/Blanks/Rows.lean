import CodeScribe.Proofs.Blanks.Page
import CodeScribe.Proofs.Ink.Basic
import CodeScribe.Proofs.Scope.Pen

/-! The pages of a run. While a writer follows a tidy plan, the page tells what its current line holds and
whether the one above is blank, and the lines completed so far have blank ones only where they belong. -/
namespace CodeScribe
open Text (visible ended stub allBlank)

namespace Text

/-- Which of the complete rows are blank. -/
def blanks (cs : List Char) : List Bool := (ended cs).map allBlank

def fill (cs : List Char) : Fill :=
  if cs.isEmpty then .none else if allBlank cs then .blank else .seen

section
variable {xs ys : List Char}

private theorem fill_concat (cs : List Char) (c : Char) : fill (cs ++ [c]) = (fill cs).add c := by
  cases cs with
  | nil => cases hc : Character.isBlank c <;> simp [fill, allBlank, Fill.add, hc]
  | cons d cs =>
    have hall : allBlank (d :: cs ++ [c]) = (allBlank (d :: cs) && Character.isBlank c) := by
      simp [allBlank, Bool.and_assoc]
    rw [fill, fill, hall]
    cases allBlank (d :: cs) <;> cases hc : Character.isBlank c <;> simp [Fill.add, hc]

private theorem fill_eq_none_iff : fill xs = .none ↔ xs = [] := by
  cases xs with
  | nil => simp [fill]
  | cons c xs => by_cases hb : allBlank (c :: xs) = true <;> simp [fill, hb]

private theorem fill_eq_seen_iff (cs : List Char) : fill cs = .seen ↔ allBlank cs = false := by
  cases cs with
  | nil => simp [fill, allBlank]
  | cons c cs => by_cases hb : allBlank (c :: cs) = true <;> simp [fill, hb]

private theorem fill_congr (h : visible xs = visible ys) (hne : xs = [] ↔ ys = []) : fill xs = fill ys := by
  have hempty : xs.isEmpty = ys.isEmpty := by rw [Bool.eq_iff_iff, List.isEmpty_iff, List.isEmpty_iff, hne]
  rw [fill, fill, hempty, allBlank_congr h]

private theorem stub_eq_nil_iff (cs : List Char) : stub cs = [] ↔ cs = [] ∨ endsIn '\n' cs = true := by
  rcases cs.eq_nil_or_concat with rfl | ⟨front, c, rfl⟩
  · simp [stub, pieces]
  · rw [List.concat_eq_append]
    by_cases hc : c = '\n'
    · rw [hc, (ended_concat front).2]
      simp [endsIn]
    · have hmem : '\n' ∉ [c] := by simpa using Ne.symm hc
      simp [(ended_append front hmem).2, endsIn, hc]

/-- A line terminator completes a row. -/
private theorem ended_newline (xs : List Char) (newline : Newline) (h : '\n' ∉ ys) :
    ∃ row, ended (xs ++ ys ++ newline.text) = ended xs ++ [row] ∧
      visible row = visible (stub xs) ++ visible ys ∧ stub (xs ++ ys ++ newline.text) = [] := by
  have hrow (mark : List Char) (hmark : '\n' ∉ mark) (hblank : visible mark = []) :
      ∃ row, ended (xs ++ ys ++ (mark ++ ['\n'])) = ended xs ++ [row] ∧
        visible row = visible (stub xs) ++ visible ys ∧ stub (xs ++ ys ++ (mark ++ ['\n'])) = [] := by
    have hys : '\n' ∉ ys ++ mark := by simp [h, hmark]
    obtain ⟨hrows, hstub⟩ := ended_append xs hys
    obtain ⟨hrows', hstub'⟩ := ended_concat (xs ++ (ys ++ mark))
    rw [hrows, hstub] at hrows'
    exact ⟨stub xs ++ (ys ++ mark), by simpa using hrows', by simp [hblank], by simpa using hstub'⟩
  cases newline with
  | lf => exact hrow [] (by simp) rfl
  | crlf => exact hrow ['\r'] (by simp) (by decide)

end
end Text

/-- A page shows where a text has got to. -/
structure Page.Fits (page : Page) (cs : List Char) : Prop where
  fill : page.fill = Text.fill (stub cs)
  above : (Text.blanks cs).getLast? = some true ↔ page.above = some true

/-- A text goes on, and a page leads to a later one over the rows completed on the way. -/
def Page.Spans (page : Page) (cs : List Char) (next : Page) (ds : List Char) : Prop :=
  ∃ rows, Text.blanks ds = Text.blanks cs ++ rows ∧ page.Leads next rows

namespace Page.Spans
variable {page next last : Page} {cs ds es : List Char}

/-- No row is completed. -/
private theorem stay (hblanks : Text.blanks ds = Text.blanks cs)
    (habove : next.above = page.above ∨ next.above = none)
    (hseen : page.fill = .seen → next.fill = .seen) : page.Spans cs next ds :=
  ⟨[], by simp [hblanks], .stay habove hseen⟩

private theorem trans (h : page.Spans cs next ds) (h' : next.Spans ds last es) : page.Spans cs last es := by
  obtain ⟨rows, hrows, hleads⟩ := h
  obtain ⟨more, hmore, hleads'⟩ := h'
  exact ⟨rows ++ more, by rw [hmore, hrows, List.append_assoc], hleads.trans hleads'⟩

end Page.Spans

namespace Page.Fits
variable {page : Page} {cs : List Char}

theorem blank_eq (h : page.Fits cs) : page.blank = allBlank (stub cs) := by
  have hseen := Text.fill_eq_seen_iff (stub cs)
  rw [← h.fill] at hseen
  rw [blank, Bool.eq_iff_iff, bne_iff_ne, ne_eq, hseen, Bool.not_eq_false]

/-- The current line is completed. -/
private theorem end_row (h : page.Fits cs) (hends : page.ends = true) {ds row : List Char}
    (hrows : ended ds = ended cs ++ [row]) (hrow : visible row = visible (stub cs))
    (hstub : stub ds = []) : page.complete.Fits ds ∧ page.Spans cs page.complete ds := by
  have hblanks : Text.blanks ds = Text.blanks cs ++ [page.blank] := by
    rw [Text.blanks, hrows, List.map_append, h.blank_eq, List.map_singleton, Text.allBlank_congr hrow]
    rfl
  refine ⟨⟨?_, ?_⟩, [page.blank], hblanks, .complete hends⟩
  · rw [hstub]
    rfl
  · simp [hblanks, complete]

private theorem put (h : page.Fits cs) {c : Char} (ht : page.takes [c] = true) :
    (page.put c).Fits (cs ++ [c]) ∧ page.Spans cs (page.put c) (cs ++ [c]) := by
  by_cases hc : c = '\n'
  · subst hc
    have hends : page.ends = true := by simpa [takes] using ht
    obtain ⟨hrows, hstub⟩ := Text.ended_concat cs
    exact h.end_row hends hrows rfl hstub
  · have hmem : '\n' ∉ [c] := by simpa using Ne.symm hc
    obtain ⟨hrows, hstub⟩ := Text.ended_append cs hmem
    have hblanks : Text.blanks (cs ++ [c]) = Text.blanks cs := by rw [Text.blanks, hrows, Text.blanks]
    have hput : page.put c = ⟨page.above, page.fill.add c, true⟩ := if_neg hc
    rw [hput]
    refine ⟨⟨?_, ?_⟩, .stay hblanks (.inl rfl) fun hf => ?_⟩
    · rw [hstub, Text.fill_concat, ← h.fill]
    · rw [hblanks]
      exact h.above
    · rw [hf]
      rfl

private theorem write (h : page.Fits cs) {xs : List Char} (ht : page.takes xs = true) :
    (page.write xs).Fits (cs ++ xs) ∧ page.Spans cs (page.write xs) (cs ++ xs) := by
  induction xs generalizing page cs with
  | nil =>
    rw [List.append_nil]
    exact ⟨h, .stay rfl (.inl rfl) id⟩
  | cons c xs ih =>
    rw [takes, Bool.and_eq_true] at ht
    obtain ⟨hfits, hspans⟩ := h.put (by simp [takes, ht.1] : page.takes [c] = true)
    obtain ⟨hfits', hspans'⟩ := ih hfits ht.2
    rw [List.append_cons]
    exact ⟨hfits', hspans.trans hspans'⟩

end Page.Fits

/-- A page shows where a writer has got to. -/
structure Writer.Drawn (w : Writer) (page : Page) : Prop where
  line : '\n' ∉ w.line
  held : page.held = !w.line.isEmpty
  fits : page.Fits (w.output ++ w.line)

namespace Writer
variable {w : Writer} {page : Page}

theorem drawn_new (config : Config) (classify : Classifier) :
    Drawn { config := config, classify := classify } .edge :=
  ⟨by simp, rfl, rfl, by simp [Text.blanks, ended, Text.pieces, Page.edge]⟩

namespace Drawn

private theorem stub_eq (h : w.Drawn page) : stub (w.output ++ w.line) = stub w.output ++ w.line :=
  (Text.ended_append w.output h.line).2

theorem blanks_eq (h : w.Drawn page) : Text.blanks (w.output ++ w.line) = Text.blanks w.output := by
  rw [Text.blanks, (Text.ended_append w.output h.line).1, Text.blanks]

theorem fill_eq_none_iff (h : w.Drawn page) : page.fill = .none ↔ w.isLineOpen = false := by
  rw [h.fits.fill, Text.fill_eq_none_iff, h.stub_eq, List.append_eq_nil_iff, Text.stub_eq_nil_iff,
    isLineOpen, atLineStart, Bool.or_eq_false_iff, and_comm]
  simp [or_iff_not_imp_left]

/-- Completing the current line of the page, when the pending text is written with a terminator. -/
theorem complete (h : w.Drawn page) (hends : page.ends = true) {v : Writer} {ys : List Char}
    (houtput : v.output = w.output ++ ys ++ w.config.newline.text) (hline : v.line = [])
    (hfeed : '\n' ∉ ys) (hys : visible ys = visible w.line) :
    v.Drawn page.complete ∧ page.Spans w.output page.complete v.output := by
  obtain ⟨row, hrows, hrow, hstub⟩ := Text.ended_newline w.output w.config.newline hfeed
  rw [← houtput] at hrows hstub
  have hrows' : ended v.output = ended (w.output ++ w.line) ++ [row] := by
    rw [hrows, (Text.ended_append w.output h.line).1]
  have hrow' : visible row = visible (stub (w.output ++ w.line)) := by
    rw [hrow, h.stub_eq, Text.visible_append, hys]
  obtain ⟨hfits, rows, hblanks, hleads⟩ := h.fits.end_row hends hrows' hrow' hstub
  rw [h.blanks_eq] at hblanks
  exact ⟨⟨by simp [hline], by simp [hline, Page.complete], by simpa [hline] using hfits⟩,
    rows, hblanks, hleads⟩

end Drawn

private theorem Drawn.flushLine (hf : w.classify.Faithful) (h : w.Drawn page) (hends : page.ends = true) :
    w.flushLine.Drawn page.complete ∧ page.Spans w.output page.complete w.flushLine.output :=
  h.complete hends w.output_flushLine rfl (not_mem_shown (by decide) (by decide) h.line) (visible_shown hf)

private theorem Drawn.breakLine (h : w.Drawn page) (hends : page.ends = true) (hline : w.line = []) :
    w.breakLine.Drawn page.complete ∧ page.Spans w.output page.complete w.breakLine.output := by
  have houtput : w.breakLine.output = w.output ++ [] ++ w.config.newline.text := by
    rw [List.append_nil, Writer.breakLine]
  exact h.complete hends houtput hline (by simp) (by simp [hline])

/-- Text that is moved to the output stays on its line. -/
theorem Drawn.settle (hf : w.classify.Faithful) (hs : w.classify.Shows) (h : w.Drawn page) :
    page.Fits w.text ∧ Text.blanks w.text = Text.blanks w.output := by
  have hfeed := not_mem_pending (by decide : '\n' ≠ ' ') (by decide) h.line
  obtain ⟨hrows, hstub⟩ := Text.ended_append w.output hfeed
  have hblanks : Text.blanks w.text = Text.blanks w.output := by
    rw [text_eq, Text.blanks, hrows, Text.blanks]
  have hempty : w.pending = [] ↔ w.line = [] := by
    by_cases hl : w.line = []
    · simp [pending, hl]
    · simp [pending, hl, format_ne_nil hs hl]
  refine ⟨⟨?_, ?_⟩, hblanks⟩
  · rw [h.fits.fill, h.stub_eq, text_eq, hstub]
    apply Text.fill_congr
    · rw [Text.visible_append, Text.visible_append, visible_pending hf]
    · rw [List.append_eq_nil_iff, List.append_eq_nil_iff, hempty]
  · rw [hblanks, ← h.blanks_eq]
    exact h.fits.above

end Writer

/-- A tidy move keeps the page and the writer together. -/
theorem Stroke.drawn_apply {strict : Bool} (s : Stroke) {w : Writer} {page : Page}
    (hf : w.classify.Faithful) (hs : w.classify.Shows) (h : w.Drawn page)
    (ht : s.tidy strict page = true) :
    (s.apply w).Drawn (s.turn page) ∧ page.Spans w.output (s.turn page) (s.apply w).output := by
  cases s with
  | put c =>
    by_cases hc : c = '\n'
    · subst hc
      have hends : page.ends = true := by simpa [tidy, Page.takes] using ht
      -- the line is cut of its carriage return, which nobody sees, before it is completed
      have hfeed : '\n' ∉ Text.chop '\r' w.line := fun hm =>
        h.line ((Text.chop_isPrefix '\r' w.line).subset hm)
      have hshown := Writer.not_mem_shown (w := { w with line := Text.chop '\r' w.line })
        (by decide) (by decide) hfeed
      refine h.complete hends (Writer.output_flushLine _) rfl hshown ?_
      rw [Writer.visible_shown (w := { w with line := Text.chop '\r' w.line }) hf]
      exact Text.visible_chop (by decide) w.line
    · obtain ⟨hfits, rows, hrows, hleads⟩ := h.fits.put ht
      rw [apply, Writer.put_of_ne w hc]
      have hline : '\n' ∉ w.line ++ [c] := by simp [h.line, Ne.symm hc]
      rw [List.append_assoc] at hfits hrows
      have hput : page.put c = ⟨page.above, page.fill.add c, true⟩ := if_neg hc
      refine ⟨⟨hline, by simp [turn, hput], hfits⟩, rows, ?_, hleads⟩
      rw [Text.blanks, (Text.ended_append w.output hline).1, h.blanks_eq] at hrows
      exact hrows
  | flush => exact h.flushLine hf ht
  | raw text =>
    obtain ⟨hfits, hblanks⟩ := h.settle hf hs
    obtain ⟨hfits', rows, hrows, hleads⟩ := hfits.write ht
    refine ⟨⟨by simp [apply], by simp [apply, turn], ⟨?_, ?_⟩⟩, rows, ?_, hleads.spaced, hleads.seen⟩
    · simpa [apply, turn] using hfits'.fill
    · simpa [apply, turn] using hfits'.above
    · rw [apply, Writer.output_appendRaw, hrows, hblanks]
  | breakLine =>
    rw [tidy, Bool.and_eq_true, Bool.not_eq_true'] at ht
    have hline : w.line = [] := by
      have hheld := h.held
      rw [ht.1] at hheld
      simpa using hheld
    exact h.breakLine ht.2 hline
  | endLine =>
    by_cases hfill : page.fill = .none
    · have hopen := h.fill_eq_none_iff.mp hfill
      rw [Writer.isLineOpen, Bool.or_eq_false_iff] at hopen
      have hsame : w.endLine = w := by
        rcases w.endLine_cases with ⟨hl, _⟩ | ⟨_, _, he⟩ | ⟨_, ha, _⟩
        · exact absurd hl (by simpa using hopen.1)
        · exact he
        · simp [ha] at hopen
      rw [apply, turn, if_pos hfill, hsame]
      exact ⟨h, .stay rfl (.inl rfl) id⟩
    · have hends : page.ends = true := by simpa [tidy, hfill] using ht
      rw [apply, turn, if_neg hfill]
      rcases w.endLine_cases with ⟨_, he⟩ | ⟨hl, ha, _⟩ | ⟨hl, _, he⟩
      · rw [he]
        exact h.flushLine hf hends
      · exact absurd (h.fill_eq_none_iff.mpr (by simp [Writer.isLineOpen, hl, ha])) hfill
      · rw [he]
        exact h.breakLine hends hl
  | enter =>
    have hpage : page = .fresh := by simpa [tidy] using ht
    -- the page forgets the line above, which it may: that line is seen
    refine ⟨⟨h.line, h.held, h.fits.fill, ?_⟩, .stay rfl (.inr rfl) id⟩
    have habove := h.fits.above
    rw [hpage] at habove
    simpa [turn, apply, Writer.deepen, Page.fresh] using habove
  | leave => exact ⟨⟨h.line, h.held, h.fits⟩, .stay rfl (.inl rfl) id⟩

/-- A tidy plan keeps the page and the writer together. -/
theorem Writer.drawn_follow {strict : Bool} {p : Plan} {w : Writer} {page : Page}
    (hf : w.classify.Faithful) (hs : w.classify.Shows) (h : w.Drawn page)
    (ht : Plan.tidy strict p page = true) :
    (w.follow p).Drawn (page.follow p) ∧ page.Spans w.output (page.follow p) (w.follow p).output := by
  induction p generalizing w page with
  | nil => exact ⟨h, .stay rfl (.inl rfl) id⟩
  | cons s p ih =>
    rw [Plan.tidy, Bool.and_eq_true] at ht
    obtain ⟨hdrawn, hspans⟩ := s.drawn_apply hf hs h ht.1
    obtain ⟨hdrawn', hspans'⟩ := ih (by rwa [s.classify_apply]) (by rwa [s.classify_apply]) hdrawn ht.2
    exact ⟨hdrawn', hspans.trans hspans'⟩

end CodeScribe
