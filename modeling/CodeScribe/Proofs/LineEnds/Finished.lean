import CodeScribe.Proofs.LineEnds.Unify
import CodeScribe.Proofs.Written

/-! The finished form of a text: nothing, or a body that ends in something seen and at most one line
end behind it, with one kind of line end throughout. Finishing it again changes nothing. -/
namespace CodeScribe

/-- Whether every line break of a text is the given terminator. Of the longer one, each half stands
beside the other. -/
def Newline.Uniform : Newline → List Char → Prop
  | .lf, cs => '\r' ∉ cs
  | .crlf, cs => cs.head? ≠ some '\n' ∧ ∀ i, cs[i]? = some '\r' ↔ cs[i + 1]? = some '\n'

private theorem uniform_terminateWith (newline : Newline) {cs : List Char} (h : '\r' ∉ cs) :
    newline.Uniform (terminateWith newline cs) := by
  cases newline with
  | lf => rwa [terminateWith_lf]
  | crlf =>
    induction cs with
    | nil => exact ⟨by simp [terminateWith], by simp [terminateWith]⟩
    | cons c cs ih =>
      rw [List.mem_cons, not_or] at h
      obtain ⟨hhead, hpairs⟩ := ih h.2
      generalize hrest : terminateWith .crlf cs = rest at hhead hpairs
      rw [List.head?_eq_getElem?] at hhead
      by_cases hc : c = '\n'
      · rw [hc, terminateWith_feed, hrest]
        refine ⟨by simp [Newline.text], fun i => ?_⟩
        rcases i with _ | _ | i
        · simp [Newline.text]
        · simpa [Newline.text] using hhead
        · exact hpairs i
      · rw [terminateWith_cons_of_ne .crlf hc, hrest]
        refine ⟨by simpa using hc, fun i => ?_⟩
        rcases i with _ | i
        · simpa [Ne.symm h.1] using hhead
        · exact hpairs i

/-- A trimmed body stays trimmed when its line feeds are replaced by a terminator. -/
theorem trimEnd_terminateWith (newline : Newline) {body : List Char} (hne : body ≠ [])
    (htrim : Text.trimEnd body = body) :
    Text.trimEnd (terminateWith newline body) = terminateWith newline body := by
  obtain ⟨front, c, rfl⟩ := List.eq_nil_or_concat' body |>.resolve_left hne
  have hend : Text.endsIn c (Text.trimEnd (front ++ [c])) = true := by simp [htrim, Text.endsIn]
  have hc : Character.isBlank c = false := Text.isBlank_of_endsIn_trimEnd hend
  have hfeed : '\n' ∉ [c] := by
    rw [List.mem_singleton]
    rintro rfl
    exact absurd hc (by decide)
  rw [terminateWith_append, terminateWith_of_not_mem newline hfeed,
    Text.trimEnd_append_singleton _ hc]

private theorem trimEnd_finished (config : Config) {body : List Char} (htrim : Text.trimEnd body = body) :
    Text.trimEnd (finished config body) = body := by
  unfold finished
  split
  · next he => rw [List.isEmpty_iff.mp he]; rfl
  · split
    · rw [Text.trimEnd_append, if_pos (by rfl), htrim]
    · exact htrim

private theorem return_not_mem_trimmed (cs : List Char) : '\r' ∉ Text.trimEnd (unifyLineEnds cs) := fun hm =>
  return_not_mem_unifyLineEnds cs ((Text.trimEnd_isPrefix _).subset hm)

private theorem trimEnd_trimmed (cs : List Char) :
    Text.trimEnd (Text.trimEnd (unifyLineEnds cs)) = Text.trimEnd (unifyLineEnds cs) :=
  List.rdropWhile_idempotent _ _

/-- A finished text is finished already. -/
theorem normalize_normalize (config : Config) (cs : List Char) :
    normalize config (normalize config cs) = normalize config cs := by
  rw [normalize_eq config cs, normalize_eq,
    unifyLineEnds_terminateWith _ (return_not_mem_finished config (return_not_mem_trimmed cs)),
    trimEnd_finished config (trimEnd_trimmed cs)]

private theorem trimEnd_unifyLineEnds_eq_nil_iff (cs : List Char) :
    Text.trimEnd (unifyLineEnds cs) = [] ↔ Text.allBlank cs = true := by
  rw [Text.allBlank_iff, ← visible_unifyLineEnds, ← Text.allBlank_iff, Text.allBlank, List.all_eq_true]
  exact List.rdropWhile_eq_nil_iff

private theorem normalize_of_allBlank (config : Config) {cs : List Char} (h : Text.allBlank cs = true) :
    normalize config cs = [] := by
  rw [normalize_eq, (trimEnd_unifyLineEnds_eq_nil_iff cs).mpr h]
  rfl

/-- A text that is not blank is finished as a trimmed body, with the line end asked for behind it. -/
theorem exists_body_of_normalize (config : Config) {cs : List Char} (h : Text.allBlank cs = false) :
    ∃ body, body ≠ [] ∧ Text.trimEnd body = body ∧
      normalize config cs = body ++ if config.trailingNewline then config.newline.text else [] := by
  have hne : Text.trimEnd (unifyLineEnds cs) ≠ [] := by
    rw [ne_eq, trimEnd_unifyLineEnds_eq_nil_iff, h]
    simp
  have hbreak : terminateWith config.newline ['\n'] = config.newline.text := by
    simp [terminateWith]
  refine ⟨terminateWith config.newline (Text.trimEnd (unifyLineEnds cs)),
    by rwa [ne_eq, terminateWith_eq_nil_iff],
    trimEnd_terminateWith config.newline hne (trimEnd_trimmed cs), ?_⟩
  rw [normalize_eq, finished, if_neg (by simpa using hne)]
  split
  · rw [terminateWith_append, hbreak]
  · rw [List.append_nil]

/-- A document that renders is empty exactly when everything written is blank. Any other is a trimmed
body, with the line end asked for behind it and no other kind of line end in it. -/
theorem Document.render_finished {d : Document} {text : String} (h : d.render = .ok text) :
    (text = "" ↔ Text.allBlank (d.writeEntries (d.writePreamble d.writer)).text = true) ∧
      (text ≠ "" → ∃ body, body ≠ [] ∧ Text.trimEnd body = body ∧
        text.toList = body ++ if d.config.trailingNewline then d.config.newline.text else []) ∧
      d.config.newline.Uniform text.toList ∧ normalize d.config text.toList = text.toList := by
  have hrender := render_of_not_doubled (not_doubled_of_render h)
  obtain rfl : text = String.ofList (normalize d.config d.written) := by
    rw [h] at hrender
    exact Except.ok.inj hrender
  have huniform : d.config.newline.Uniform (normalize d.config d.written) := by
    rw [normalize_eq]
    exact uniform_terminateWith _ (return_not_mem_finished _ (return_not_mem_trimmed d.written))
  have hempty : String.ofList (normalize d.config d.written) = "" ↔ normalize d.config d.written = [] :=
    String.ofList_eq_empty_iff
  rw [d.follow_plan, ← written, String.toList_ofList, hempty]
  refine ⟨?_, ?_, huniform, normalize_normalize d.config d.written⟩
  · cases hb : Text.allBlank d.written with
    | true => simp [normalize_of_allBlank d.config hb]
    | false =>
      obtain ⟨body, hne, -, hbody⟩ := exists_body_of_normalize d.config hb
      simp [hbody, hne]
  · intro hne
    cases hb : Text.allBlank d.written with
    | true => exact absurd (hempty.mpr (normalize_of_allBlank d.config hb)) hne
    | false => exact exists_body_of_normalize d.config hb

/-- A document whose texts mix carriage returns, line feeds and wide blanks, also at its end. -/
def mixedDocument : Document where
  config := { newline := .crlf }
  nodes := [.raw "a\rb\r\r\nc \u2003\n\u00a0" true, .separator true]

theorem render_finished_mixed :
    mixedDocument.render = .ok "a\r\nb\r\n\r\nc\r\n" ∧
      (∃ body, body ≠ [] ∧ Text.trimEnd body = body ∧
        "a\r\nb\r\n\r\nc\r\n".toList = body ++ ['\r', '\n']) ∧
      Newline.crlf.Uniform "a\r\nb\r\n\r\nc\r\n".toList := by
  have h : mixedDocument.render = .ok "a\r\nb\r\n\r\nc\r\n" := by decide +kernel
  obtain ⟨-, hbody, huniform, -⟩ := Document.render_finished h
  exact ⟨h, hbody (by decide), huniform⟩

end CodeScribe
