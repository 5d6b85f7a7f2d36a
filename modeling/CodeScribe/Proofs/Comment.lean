import CodeScribe.Proofs.LineEnds.Lines
import CodeScribe.Proofs.Written

/-! Documentation comments on their own: the lines that a finished comment has, and when each of them
starts as a comment line should. -/
namespace CodeScribe
open Character (isBlank)

namespace Writer
variable {w : Writer}

private theorem format_of_keeps (hdepth : w.depth = 0) (hkeeps : w.classify.Keeps) {line : List Char}
    (hline : Text.trimStart line = line) : w.format line = line := by
  have hnone : w.indentation = [] := by simp [indentation, hdepth]
  simp only [format, format?, hkeeps line hline, Option.map_some, Option.getD_some, hnone,
    List.nil_append, ite_self]
  split
  · next he => rw [List.isEmpty_iff.mp he]
  · rfl

/-- A line of text without a line feed becomes a line of output, when it starts at column zero with
something that is seen. -/
theorem output_follow_line (hdepth : w.depth = 0) (hkeeps : w.classify.Keeps) (hopen : w.line = [])
    {line : List Char} (hfeed : '\n' ∉ line) (hline : Text.trimStart line = line)
    (hseen : Text.visible line ≠ []) :
    (w.follow (Plan.line line)).output = w.output ++ line ++ w.config.newline.text ∧
      (w.follow (Plan.line line)).line = [] ∧ (w.follow (Plan.line line)).atLineStart = true ∧
      (w.follow (Plan.line line)).depth = 0 := by
  have hend : Text.endsIn '\n' line = false := Text.endsIn_of_not_mem hfeed
  have hplan : w.follow (Plan.line line) = { w with line := line }.flushLine := by
    rw [Plan.line, hend, if_neg (by simp), follow_append, follow_text hfeed, hopen]
    rfl
  have hformat : ({ w with line := line } : Writer).format line = line :=
    format_of_keeps (w := { w with line := line }) hdepth hkeeps hline
  have hblank : Text.allBlank line = false := by
    rwa [Bool.eq_false_iff, ne_eq, Text.allBlank_iff]
  rw [hplan]
  refine ⟨?_, rfl, atLineStart_breakLine _, by rwa [depth_flushLine]⟩
  rw [output_flushLine, shown, hformat, hblank]
  rfl

private theorem output_follow_lines {texts : List (List Char)}
    (hseen : ∀ line ∈ texts,
      '\n' ∉ line ∧ Text.trimStart line = line ∧ Text.visible line ≠ [])
    (hdepth : w.depth = 0) (hkeeps : w.classify.Keeps) (hopen : w.line = [])
    (hstart : w.atLineStart = true) :
    (w.follow (Plan.lines false texts)).output =
        w.output ++ texts.flatMap (· ++ w.config.newline.text) ∧
      (w.follow (Plan.lines false texts)).line = [] ∧
      (w.follow (Plan.lines false texts)).atLineStart = true := by
  induction texts generalizing w with
  | nil => exact ⟨by simp [Plan.lines], hopen, hstart⟩
  | cons line rest ih =>
    obtain ⟨hfeed, hline, hvisible⟩ := hseen line List.mem_cons_self
    obtain ⟨hout, hopen', hstart', hdepth'⟩ :=
      output_follow_line hdepth hkeeps hopen hfeed hline hvisible
    have hplan : Plan.lines false (line :: rest) = Plan.line line ++ Plan.lines false rest := by
      cases rest <;> simp [Plan.lines]
    have hrest := ih (w := w.follow (Plan.line line))
      (fun text hm => hseen text (List.mem_cons_of_mem line hm))
      hdepth' (by rwa [classify_follow]) hopen' hstart'
    rw [hplan, follow_append]
    refine ⟨?_, hrest.2⟩
    rw [hrest.1, hout, config_follow, List.flatMap_cons, List.append_assoc, List.append_assoc,
      List.append_assoc]

end Writer

/-- A start of comment lines that stands out: on one line, and visible at both ends. -/
structure SoundPrefix (lineStart : List Char) : Prop where
  nonempty : lineStart ≠ []
  unbroken : '\n' ∉ lineStart ∧ '\r' ∉ lineStart
  head : ∀ c, lineStart.head? = some c → isBlank c = false
  last : ∀ c, lineStart.getLast? = some c → isBlank c = false

namespace SoundPrefix
variable {lineStart line : List Char}

private theorem seen (hp : SoundPrefix lineStart) (h : lineStart <+: line) :
    Text.trimStart line = line ∧ Text.visible line ≠ [] := by
  obtain ⟨rest, rfl⟩ := h
  obtain ⟨c, cs, rfl⟩ := List.exists_cons_of_ne_nil hp.nonempty
  have hc : isBlank c = false := hp.head c rfl
  constructor
  · simp [Text.trimStart, hc]
  · simp [Text.visible, hc]

private theorem prefix_trimEnd (hp : SoundPrefix lineStart) (h : lineStart <+: line) :
    lineStart <+: Text.trimEnd line := by
  obtain ⟨rest, rfl⟩ := h
  rw [Text.trimEnd_append]
  split
  · have hlast := List.dropLast_append_getLast hp.nonempty
    have hc := hp.last _ (List.getLast?_eq_some_getLast hp.nonempty)
    have htrim := Text.trimEnd_append_singleton lineStart.dropLast hc
    rw [hlast] at htrim
    simp [htrim]
  · exact List.prefix_append ..

private theorem prefix_settled (hp : SoundPrefix lineStart) (newline : Newline) (h : lineStart <+: line) :
    lineStart <+: settled newline line := by
  cases newline with
  | crlf => exact h
  | lf =>
    rcases Text.chop_cases '\r' line with ⟨_, hc⟩ | hc
    · rwa [settled, hc]
    · rw [hc, List.prefix_concat_iff] at h
      rcases h with heq | hpre
      · exact absurd (by rw [heq]; simp) hp.unbroken.2
      · exact hpre

private theorem prefix_kept (hp : SoundPrefix lineStart) (newline : Newline) {texts : List (List Char)}
    (h : ∀ line ∈ texts, lineStart <+: line) : ∀ line ∈ kept newline texts, lineStart <+: line := by
  fun_induction kept newline texts with
  | case1 => simp
  | case2 line =>
    simpa using hp.prefix_trimEnd (h line List.mem_cons_self)
  | case3 line next rest ih =>
    intro text hm
    rcases List.mem_cons.mp hm with rfl | hm
    · exact hp.prefix_settled newline (h line List.mem_cons_self)
    · exact ih (fun text ht => h text (List.mem_cons_of_mem line ht)) text hm

end SoundPrefix

namespace DocComment

/-- Every line of a comment starts with the prefix and holds no line feed. -/
theorem mem_lines {d : DocComment} {lineStart line : List Char} (hfeed : '\n' ∉ lineStart)
    (h : line ∈ d.lines lineStart) : lineStart <+: line ∧ '\n' ∉ line := by
  simp only [lines, List.mem_flatMap, List.mem_map] at h
  obtain ⟨text, -, piece, hpiece, rfl⟩ := h
  have hchop : '\n' ∉ Text.chop '\r' piece := fun hm =>
    Text.not_mem_of_mem_pieces hpiece ((Text.chop_isPrefix '\r' piece).subset hm)
  split
  · exact ⟨List.prefix_refl _, hfeed⟩
  · exact ⟨List.prefix_append .., by simp [hfeed, hchop]⟩

end DocComment
/-- A document of one comment. -/
def commentDocument (config : Config) (d : DocComment) : Document := { config, nodes := [.doc d] }

section
variable {config : Config} (d : DocComment)

private theorem plan_commentDocument (hpragma : config.pragma = none) :
    (commentDocument config d).plan =
      Plan.lines false (d.lines config.docPrefix.toList) ++ [.endLine] := by
  have himports : (commentDocument config d).imports.lines = [] := by
    simp [commentDocument, Imports.lines]
  have hentries : (commentDocument config d).planEntries =
      Plan.lines false (d.lines config.docPrefix.toList) ++ [.endLine] := by
    simp [Document.planEntries, commentDocument, Node.planAll, Node.separation?, Gap.blank,
      Node.plan, DocComment.plan]
  have hpreamble : (commentDocument config d).planPreamble = [] := by
    simp [Document.planPreamble, Document.planPragma, himports, Plan.lines]
    simp [commentDocument, hpragma]
  rw [Document.plan, hpreamble, hentries, List.nil_append]

private theorem written_commentDocument (hpragma : config.pragma = none)
    (hp : SoundPrefix config.docPrefix.toList) : (commentDocument config d).written =
      (d.lines config.docPrefix.toList).flatMap (· ++ config.newline.text) := by
  have hseen : ∀ line ∈ d.lines config.docPrefix.toList,
      '\n' ∉ line ∧ Text.trimStart line = line ∧ Text.visible line ≠ [] := by
    intro line hm
    obtain ⟨hstart, hfeed⟩ := DocComment.mem_lines hp.unbroken.1 hm
    exact ⟨hfeed, hp.seen hstart⟩
  have hkeeps : (commentDocument config d).writer.classify.Keeps :=
    Document.classify_writer Classifier.keeps_indentAll Classifier.keeps_preprocessorLines _
  obtain ⟨hout, hopen, hstart⟩ := Writer.output_follow_lines
    (w := (commentDocument config d).writer) hseen rfl hkeeps rfl rfl
  rw [Document.written, plan_commentDocument d hpragma, Writer.follow_append, Writer.follow_cons,
    Writer.follow_nil, Stroke.apply, Writer.endLine, hopen, hstart, Writer.text_eq, Writer.pending]
  simp only [List.isEmpty_nil, Bool.not_true, Bool.false_eq_true, if_false, if_true]
  rw [hopen, hout]
  simp [Document.writer, commentDocument]

/-- The lines of a finished comment: the kept ones, cut once more at the carriage returns in them. -/
private theorem lines_render_commentDocument (hpragma : config.pragma = none)
    (hp : SoundPrefix config.docPrefix.toList) :
    ∃ text, (commentDocument config d).render = .ok text ∧
      Text.lines text.toList =
        (kept config.newline (d.lines config.docPrefix.toList)).flatMap (Text.pieces '\r') := by
  have hrender := Document.render_of_not_doubled (d := commentDocument config d)
    (by simp [Document.Doubled, commentDocument])
  rw [written_commentDocument d hpragma hp] at hrender
  refine ⟨_, hrender, ?_⟩
  rw [String.toList_ofList]
  apply lines_normalize
  intro line hm
  obtain ⟨hstart, hfeed⟩ := DocComment.mem_lines hp.unbroken.1 hm
  exact ⟨hfeed, (hp.seen hstart).2⟩

end

namespace DocComment

/-- Behind every carriage return inside a line, the comment goes on like a comment line. Blanks at the
end of the comment do not count, nor does a carriage return that merges with the shorter terminator. -/
def Contained (config : Config) (d : DocComment) : Prop :=
  ∀ line ∈ kept config.newline (d.lines config.docPrefix.toList),
    ∀ stretch ∈ (Text.pieces '\r' line).tail, config.docPrefix.toList <+: stretch

/-- A comment whose texts have carriage returns at line ends only is contained. -/
theorem contained_of_paired {config : Config} {d : DocComment}
    (hp : SoundPrefix config.docPrefix.toList)
    (h : ∀ text ∈ d.texts, ∀ piece ∈ Text.pieces '\n' text, '\r' ∉ Text.chop '\r' piece) :
    d.Contained config := by
  intro line hm
  obtain ⟨full, hfull, hpre⟩ := mem_kept hm
  have hret : '\r' ∉ full := by
    simp only [lines, List.mem_flatMap, List.mem_map] at hfull
    obtain ⟨text, htext, piece, hpiece, rfl⟩ := hfull
    have hclean := h text htext piece hpiece
    split
    · exact hp.unbroken.2
    · simp [hp.unbroken.2, hclean]
  rw [Text.pieces_of_not_mem fun hr => hret (hpre.subset hr)]
  simp

/-- A document of one comment has a text. All its lines start with the prefix exactly when no carriage
return inside the comment begins a line without it. -/
theorem render_lines_prefix_iff {config : Config} (d : DocComment) (hpragma : config.pragma = none)
    (hp : SoundPrefix config.docPrefix.toList) :
    ∃ text, (commentDocument config d).render = .ok text ∧
      ((∀ line ∈ Text.lines text.toList, config.docPrefix.toList <+: line) ↔ d.Contained config) := by
  obtain ⟨text, hrender, hlines⟩ := lines_render_commentDocument d hpragma hp
  refine ⟨text, hrender, ?_⟩
  have hstart : ∀ line ∈ kept config.newline (d.lines config.docPrefix.toList),
      config.docPrefix.toList <+: line :=
    hp.prefix_kept config.newline fun line hm => (mem_lines hp.unbroken.1 hm).1
  rw [hlines]
  constructor
  · intro hall line hm stretch hs
    exact hall stretch (List.mem_flatMap.mpr ⟨line, hm, List.mem_of_mem_tail hs⟩)
  · intro hcontained stretch hm
    obtain ⟨line, hline, hs⟩ := List.mem_flatMap.mp hm
    obtain ⟨piece, more, hpieces, hpiece⟩ :=
      Text.prefix_head_pieces hp.unbroken.2 (hstart line hline)
    rw [hpieces, List.mem_cons] at hs
    rcases hs with rfl | hs
    · exact hpiece
    · exact hcontained line hline stretch (by rwa [hpieces])

/-- A comment with a carriage return inside a line, behind which the next comment line begins. -/
def carried : DocComment := { summary := some "a\r/// b", trailer := ["c\r\nd"] }

private theorem sound_slashes : SoundPrefix "///".toList where
  nonempty := by decide
  unbroken := by decide
  head c hc := by
    obtain rfl : '/' = c := by simpa using hc
    rfl
  last c hc := by
    obtain rfl : '/' = c := by simpa using hc
    rfl

theorem render_lines_carried :
    ({ newline := .crlf } : Config).pragma = none ∧
      SoundPrefix ({ newline := .crlf } : Config).docPrefix.toList ∧
      ∃ text, (commentDocument { newline := .crlf } carried).render = .ok text ∧
        ∀ line ∈ Text.lines text.toList, "///".toList <+: line := by
  have hcontained : carried.Contained { newline := .crlf } := by
    unfold Contained
    decide +kernel
  obtain ⟨text, hrender, hlines⟩ :=
    @render_lines_prefix_iff { newline := .crlf } carried rfl sound_slashes
  exact ⟨rfl, sound_slashes, text, hrender, hlines.mpr hcontained⟩

/-- A carriage return inside a summary sets the rest of the line free. -/
theorem render_escaped :
    (commentDocument {} { summary := some "a\rb" }).render =
        .ok "/// <summary>\n/// a\nb\n/// </summary>\n" ∧
      ['b'] ∈ Text.lines "/// <summary>\n/// a\nb\n/// </summary>\n".toList ∧
      ¬ "///".toList <+: ['b'] := by
  decide +kernel

end DocComment
end CodeScribe
