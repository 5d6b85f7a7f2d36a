import CodeScribe.Proofs.Plan.Follow

/-! The last line of a tree. In and out of tail position a tree is laid out alike, except that its last
line stays open in the one and is ended in the other. -/
namespace CodeScribe

namespace Writer
variable {w : Writer}

theorem endLine_of_open (h : w.line ≠ []) : w.endLine = w.flushLine := by
  rw [endLine, if_pos (by simpa using h)]

private theorem endLine_of_lineStart (hline : w.line = []) (hstart : w.atLineStart = true) :
    w.endLine = w := by
  rw [endLine, hline, hstart]
  rfl

private theorem endLine_of_midway (hline : w.line = []) (hstart : w.atLineStart = false) :
    w.endLine = w.breakLine := by
  rw [endLine, hline, hstart]
  rfl

private theorem endLine_flushLine (w : Writer) : w.flushLine.endLine = w.flushLine :=
  endLine_of_lineStart w.line_flushLine w.atLineStart_flushLine

private theorem endLine_breakLine (hline : w.line = []) : w.breakLine.endLine = w.breakLine :=
  endLine_of_lineStart hline w.atLineStart_breakLine

/-- A line is ended once. -/
theorem endLine_endLine (w : Writer) : w.endLine.endLine = w.endLine := by
  rcases w.endLine_cases with ⟨_, he⟩ | ⟨_, _, he⟩ | ⟨hl, _, he⟩
  · rw [he, endLine_flushLine]
  · rw [he, he]
  · rw [he, endLine_breakLine hl]

private theorem follow_text_concat (cs : List Char) {c : Char} (hc : c ≠ '\n') (w : Writer) :
    w.follow (Plan.text (cs ++ [c])) =
      { w.follow (Plan.text cs) with line := (w.follow (Plan.text cs)).line ++ [c] } := by
  rw [Plan.text, List.map_append, follow_append]
  exact put_of_ne _ hc

/-- A text leaves a line pending, unless it is empty or ends in a line feed. -/
theorem line_follow_text {cs : List Char} (hne : cs ≠ []) (hend : Text.endsIn '\n' cs = false)
    (w : Writer) : (w.follow (Plan.text cs)).line ≠ [] := by
  obtain ⟨front, c, rfl, hc⟩ := Text.exists_concat_of_not_endsIn hne hend
  rw [follow_text_concat front hc]
  simp

/-- The carriage return that a line feed drops from the pending line is the one in front of it, when
there is other text on its line. -/
private theorem follow_text_feed {cs : List Char} (hne : Text.chop '\r' cs ≠ [])
    (hend : Text.endsIn '\n' (Text.chop '\r' cs) = false) (w : Writer) :
    w.follow (Plan.text (cs ++ ['\n'])) = (w.follow (Plan.text (Text.chop '\r' cs))).flushLine := by
  rw [Plan.text, List.map_append, follow_append]
  refine (put_newline _).trans (congrArg flushLine ?_)
  rw [← Plan.text]
  rcases Text.chop_cases '\r' cs with ⟨hreturn, hchop⟩ | hchop
  · rw [hchop] at hne hend ⊢
    obtain ⟨front, c, rfl, hc⟩ := Text.exists_concat_of_not_endsIn hne hend
    have hcr : c ≠ '\r' := by
      rintro rfl
      simp [Text.endsIn] at hreturn
    have hline : Text.endsIn '\r' ((w.follow (Plan.text front)).line ++ [c]) = false := by
      simpa [Text.endsIn] using hcr
    rw [follow_text_concat front hc, Text.chop_of_not_endsIn hline]
  · generalize Text.chop '\r' cs = body at hchop
    rw [hchop, follow_text_concat body (by decide), Text.chop_concat]

private theorem appendRaw_append (w : Writer) (xs ys : List Char) :
    w.appendRaw (xs ++ ys) = { w.appendRaw xs with output := (w.appendRaw xs).output ++ ys } := by
  simp only [appendRaw, List.append_assoc]

/-- Raw text leaves the output midway, unless it is empty or ends in a line feed. -/
theorem atLineStart_appendRaw {cs : List Char} (hne : cs ≠ []) (hend : Text.endsIn '\n' cs = false)
    (w : Writer) : (w.appendRaw cs).atLineStart = false := by
  simp [atLineStart, Text.endsIn_append hne, hend, hne]

end Writer

/-- Plans that leave the same writer once its line is ended. -/
def SameEnd (newline : Newline) (p q : Plan) : Prop :=
  ∀ w : Writer, w.config.newline = newline → (w.follow p).endLine = (w.follow q).endLine

namespace SameEnd
variable {newline : Newline} {p q : Plan}

theorem refl (p : Plan) : SameEnd newline p p := fun _ _ => rfl

theorem trans {r : Plan} (hpq : SameEnd newline p q) (hqr : SameEnd newline q r) :
    SameEnd newline p r := fun w hw => (hpq w hw).trans (hqr w hw)

theorem ended (p : Plan) : SameEnd newline p (p ++ [.endLine]) := by
  intro w _
  rw [Writer.follow_append]
  exact (Writer.endLine_endLine _).symm

/-- What comes before is the same on both sides. -/
theorem behind (r : Plan) (h : SameEnd newline p q) : SameEnd newline (r ++ p) (r ++ q) := by
  intro w hw
  rw [Writer.follow_append, Writer.follow_append]
  exact h _ (by rw [Writer.config_follow, hw])

private theorem line {cs : List Char} (hne : cs ≠ []) : SameEnd newline (Plan.text cs) (Plan.line cs) := by
  intro w _
  rw [Plan.line]
  split
  · rfl
  · next hend =>
    have hopen := Writer.line_follow_text hne (by simpa using hend) w
    rw [Writer.follow_append, Writer.endLine_of_open hopen]
    exact (Writer.endLine_flushLine _).symm

theorem close {cs : List Char} (hne : cs ≠ []) :
    SameEnd newline (Plan.close true cs) (Plan.close false cs) := line hne

theorem lines {texts : List (List Char)} (hne : ∀ cs ∈ texts, cs ≠ []) :
    SameEnd newline (Plan.lines true texts) (Plan.lines false texts) := by
  induction texts with
  | nil => exact refl _
  | cons cs rest ih =>
    cases rest with
    | nil => exact line (hne cs List.mem_cons_self)
    | cons next rest => exact (ih fun text hm => hne text (List.mem_cons_of_mem cs hm)).behind _

theorem braced (body : Plan) : SameEnd newline (Plan.braced true body) (Plan.braced false body) :=
  (close (by simp)).behind _

end SameEnd

/-- Less one line end, the text has something on its last line. The line end of verbatim text is the
terminator that the writer uses. -/
def rawEnds (newline : Newline) (text : String) (verbatim : Bool) : Bool :=
  let body := Text.chopLineEnd text.toList
  !body.isEmpty && !Text.endsIn '\n' body &&
    (!verbatim || text.toList = body || text.toList = body ++ newline.text)

theorem sameEnd_planRaw {newline : Newline} {text : String} {verbatim : Bool}
    (h : rawEnds newline text verbatim = true) :
    SameEnd newline (planRaw text verbatim true) (planRaw text verbatim false) := by
  generalize hbody : Text.chopLineEnd text.toList = body
  obtain ⟨⟨hne, hend⟩, hterm⟩ : (body ≠ [] ∧ Text.endsIn '\n' body = false) ∧
      ((verbatim = false ∨ text.toList = body) ∨ text.toList = body ++ newline.text) := by
    simpa [rawEnds, hbody] using h
  intro w hw
  cases verbatim with
  | false =>
    have hopen := Writer.line_follow_text hne hend w
    rw [planRaw, planRaw, hbody, Writer.endLine_of_open hopen, Plan.line]
    split
    · next hfeed =>
      obtain ⟨front, hfront⟩ := Text.endsIn_iff.mp hfeed
      have hchop : Text.chop '\r' front = body := by
        rw [← hbody, Text.chopLineEnd, if_pos hfeed, hfront, List.dropLast_concat]
      rw [hfront, Writer.follow_text_feed (by rwa [hchop]) (by rwa [hchop]), hchop,
        Writer.endLine_flushLine]
    · next hfeed =>
      have hwhole : text.toList = body := by rw [← hbody, Text.chopLineEnd, if_neg hfeed]
      rw [hwhole, Writer.follow_append]
      exact (Writer.endLine_flushLine _).symm
  | true =>
    have hmidway := Writer.endLine_of_midway (w.line_appendRaw body)
      (Writer.atLineStart_appendRaw hne hend w)
    have hbreak := Writer.endLine_breakLine (w.line_appendRaw body)
    have htail : (w.follow (planRaw text true true)).endLine = (w.appendRaw body).breakLine := by
      rw [planRaw, hbody]
      exact hmidway
    rw [htail, planRaw, Plan.rawLine]
    rcases hterm with (hfalse | hwhole) | hended
    · exact Bool.noConfusion hfalse
    · rw [hwhole, hend]
      exact hbreak.symm
    · have hfeed : Text.endsIn '\n' text.toList = true := by
        rw [hended, Text.endsIn_append] <;> cases newline <;> simp [Newline.text, Text.endsIn]
      have hraw : w.appendRaw text.toList = (w.appendRaw body).breakLine := by
        rw [hended, Writer.appendRaw_append, ← hw, ← Writer.config_appendRaw w body]
        rfl
      rw [hfeed, if_pos rfl, Writer.follow_cons, Writer.follow_nil, Stroke.apply, hraw, hbreak]

end CodeScribe
