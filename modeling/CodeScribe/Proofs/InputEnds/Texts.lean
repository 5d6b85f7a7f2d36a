import CodeScribe.Proofs.InputEnds.Strings
import CodeScribe.Proofs.LineEnds.Document
import CodeScribe.Proofs.LineEnds.Lines

/-! Texts without carriage returns, and the same texts with one in front of every line feed. Whatever a
tree makes of the ones, it makes of the others, with the same replacement. -/
namespace CodeScribe

theorem Text.mem_join {c : Char} {separator : List Char} {texts : List (List Char)}
    (h : c ∈ join separator texts) : c ∈ separator ∨ ∃ cs ∈ texts, c ∈ cs := by
  induction texts with
  | nil => exact absurd h List.not_mem_nil
  | cons cs rest ih =>
    cases rest with
    | nil => exact .inr ⟨cs, by simp, by rwa [join_singleton] at h⟩
    | cons next rest =>
      rw [join_cons (List.cons_ne_nil next rest), List.mem_append, List.mem_append] at h
      rcases h with (h | h) | h
      · exact .inr ⟨cs, List.mem_cons_self, h⟩
      · exact .inl h
      · rcases ih h with hseparator | ⟨text, hm, ht⟩
        · exact .inl hseparator
        · exact .inr ⟨text, List.mem_cons_of_mem cs hm, ht⟩

section
variable {cs : List Char}

/-- What a text ends in, with its line feeds replaced. -/
private theorem terminateWith_ends (newline : Newline) (front : List Char) (c : Char) :
    ∃ before, terminateWith newline (front ++ [c]) = before ++ [c] := by
  rw [terminateWith_append]
  by_cases hc : c = '\n'
  · subst hc
    cases newline with
    | lf => exact ⟨_, rfl⟩
    | crlf => exact ⟨terminateWith .crlf front ++ ['\r'], by rw [List.append_assoc]; rfl⟩
  · exact ⟨_, by rw [terminateWith_cons_of_ne newline hc]; rfl⟩

/-- Its last character is the one that a text keeps when its line feeds are replaced. -/
theorem endsIn_terminateWith (newline : Newline) (d : Char) (cs : List Char) :
    Text.endsIn d (terminateWith newline cs) = Text.endsIn d cs := by
  rcases cs.eq_nil_or_concat' with rfl | ⟨front, c, rfl⟩
  · rfl
  · obtain ⟨before, hends⟩ := terminateWith_ends newline front c
    rw [hends, Text.endsIn_append (by simp), Text.endsIn_append (by simp)]

theorem chopLineEnd_terminateWith (h : '\r' ∉ cs) :
    Text.chopLineEnd (terminateWith .crlf cs) = terminateWith .crlf (Text.chopLineEnd cs) := by
  rw [Text.chopLineEnd, endsIn_terminateWith, Text.chopLineEnd]
  split
  · next hend =>
    obtain ⟨front, rfl⟩ := Text.endsIn_iff.mp hend
    have hfront : '\r' ∉ front := fun hm => h (List.mem_append_left _ hm)
    have hsplit : terminateWith .crlf (front ++ ['\n']) = terminateWith .crlf front ++ ['\r'] ++ ['\n'] := by
      rw [terminateWith_append, List.append_assoc]
      rfl
    rw [hsplit, List.dropLast_concat, List.dropLast_concat, Text.chop_concat,
      Text.chop_of_not_mem hfront]
  · rfl

/-- The carriage returns put in are the ones that lines lose at their ends. -/
theorem pieces_terminateWith (newline : Newline) (h : '\r' ∉ cs) :
    (Text.pieces '\n' (terminateWith newline cs)).map (Text.chop '\r') = Text.pieces '\n' cs := by
  induction cs with
  | nil => rfl
  | cons c cs ih =>
    rw [List.mem_cons, not_or] at h
    have hrest := ih h.2
    by_cases hc : c = '\n'
    · have hfeed : ∃ gap, newline.text = gap ++ ['\n'] ∧
          (Text.pieces '\n' gap).map (Text.chop '\r') = [[]] := by
        cases newline with
        | lf => exact ⟨[], rfl, rfl⟩
        | crlf => exact ⟨['\r'], rfl, rfl⟩
      obtain ⟨gap, hgap, hchop⟩ := hfeed
      rw [hc, terminateWith_feed, hgap, List.append_assoc, List.singleton_append,
        Text.pieces_append_cons, List.map_append, hrest, hchop]
      rfl
    · have hchop (piece : List Char) : Text.chop '\r' (c :: piece) = c :: Text.chop '\r' piece := by
        cases piece with
        | nil => exact Text.chop_of_not_mem (by simpa using h.1)
        | cons d piece =>
          have hend : Text.endsIn '\r' ([c] ++ d :: piece) = Text.endsIn '\r' (d :: piece) :=
            Text.endsIn_append (by simp)
          rw [List.singleton_append] at hend
          rw [Text.chop, Text.chop, hend]
          split
          · rfl
          · rfl
      rw [terminateWith_cons_of_ne newline hc, Text.pieces, Text.pieces, if_neg hc, if_neg hc, ← hrest]
      cases Text.pieces '\n' (terminateWith newline cs) with
      | nil => exact congrArg (fun piece => [piece]) (hchop [])
      | cons piece more => simp [hchop]

private theorem isPrefixOf_terminateWith {start : List Char} (hfeed : '\n' ∉ start) (hreturn : '\r' ∉ start)
    (cs : List Char) : start.isPrefixOf (terminateWith .crlf cs) = start.isPrefixOf cs := by
  induction start generalizing cs with
  | nil => simp
  | cons s start ih =>
    rw [List.mem_cons, not_or] at hfeed hreturn
    cases cs with
    | nil => rfl
    | cons c cs =>
      by_cases hc : c = '\n'
      · have hnone : (s == '\n') = false := beq_false_of_ne (Ne.symm hfeed.1)
        have hmore : (s == '\r') = false := beq_false_of_ne (Ne.symm hreturn.1)
        rw [hc, terminateWith_feed]
        simp [Newline.text, List.isPrefixOf, hnone, hmore]
      · rw [terminateWith_cons_of_ne .crlf hc, List.isPrefixOf, List.isPrefixOf,
          ih hfeed.2 hreturn.2]

private theorem terminateWith_join (newline : Newline) {separator : List Char} (h : '\n' ∉ separator)
    (texts : List (List Char)) : terminateWith newline (Text.join separator texts) =
      Text.join separator (texts.map (terminateWith newline)) := by
  induction texts with
  | nil => rfl
  | cons text rest ih =>
    cases rest with
    | nil => simp [Text.join_singleton]
    | cons next rest =>
      have hne : (next :: rest).map (terminateWith newline) ≠ [] := by simp
      rw [List.map_cons, Text.join_cons hne, Text.join_cons (List.cons_ne_nil next rest),
        terminateWith_append, terminateWith_append, terminateWith_of_not_mem newline h, ih]

end

@[simp] theorem toList_crlfEnds (s : String) : (crlfEnds s).toList = terminateWith .crlf s.toList :=
  String.toList_ofList

theorem attributeLine_crlfEnds (entry : String) :
    attributeLine (crlfEnds entry) = terminateWith .crlf (attributeLine entry) := by
  have hhead : (terminateWith .crlf entry.toList).head? = some '[' ↔ entry.toList.head? = some '[' := by
    cases entry.toList with
    | nil => rfl
    | cons c cs => by_cases hc : c = '\n' <;> simp [terminateWith, Newline.text, hc]
  simp only [attributeLine, toList_crlfEnds, hhead]
  split
  · rfl
  · have hclose : terminateWith .crlf (entry.toList ++ [']']) =
        terminateWith .crlf entry.toList ++ [']'] := by
      rw [terminateWith_append, terminateWith_of_not_mem .crlf (show '\n' ∉ [']'] by decide)]
    rw [List.cons_append, List.cons_append, terminateWith_cons_of_ne .crlf (by decide), hclose]

theorem constraintLine_crlfEnds (entry : String) :
    constraintLine (crlfEnds entry) = terminateWith .crlf (constraintLine entry) := by
  unfold constraintLine
  rw [toList_crlfEnds, isPrefixOf_terminateWith (by decide) (by decide)]
  split
  · rfl
  · rw [terminateWith_append, terminateWith_of_not_mem .crlf (show '\n' ∉ "where ".toList by decide)]

theorem typeSignature_crlfEnds (head : Head) (bases : List String) :
    typeSignature (head.mapStrings crlfEnds) (bases.map crlfEnds) =
      terminateWith .crlf (typeSignature head bases) := by
  have hbases : (bases.map crlfEnds).map String.toList =
      (bases.map String.toList).map (terminateWith .crlf) := by simp [Function.comp_def]
  have hsignature : (head.mapStrings crlfEnds).signature = crlfEnds head.signature := rfl
  unfold typeSignature
  rw [hbases, List.isEmpty_map, hsignature, toList_crlfEnds]
  split
  · rfl
  · rw [terminateWith_append, terminateWith_append, terminateWith_join .crlf (by decide),
      terminateWith_of_not_mem .crlf (show '\n' ∉ " : ".toList by decide)]

theorem return_not_mem_attributeLine {entry : String} (h : '\r' ∉ entry.toList) :
    '\r' ∉ attributeLine entry := by
  unfold attributeLine
  split
  · exact h
  · simp [h]

theorem return_not_mem_constraintLine {entry : String} (h : '\r' ∉ entry.toList) :
    '\r' ∉ constraintLine entry := by
  unfold constraintLine
  split
  · exact h
  · simp [h]

theorem return_not_mem_typeSignature {head : Head} {bases : List String}
    (h : '\r' ∉ head.signature.toList) (hbases : ∀ s ∈ bases, '\r' ∉ s.toList) :
    '\r' ∉ typeSignature head bases := by
  have hjoin : '\r' ∉ Text.join ", ".toList (bases.map String.toList) := by
    intro hm
    rcases Text.mem_join hm with hm | ⟨cs, hcs, hm⟩
    · exact absurd hm (by decide)
    · obtain ⟨s, hs, rfl⟩ := List.mem_map.mp hcs
      exact hbases s hs hm
  unfold typeSignature
  split
  · exact h
  · rw [List.mem_append, List.mem_append]
    rintro ((hm | hm) | hm)
    · exact h hm
    · exact absurd hm (by decide)
    · exact hjoin hm

theorem return_not_mem_chopLineEnd {cs : List Char} (h : '\r' ∉ cs) : '\r' ∉ Text.chopLineEnd cs := by
  unfold Text.chopLineEnd
  split
  · exact fun hm => h ((List.dropLast_prefix cs).subset ((Text.chop_isPrefix '\r' _).subset hm))
  · exact h

namespace DocComment

private theorem texts_mapStrings (d : DocComment) :
    (d.mapStrings crlfEnds).texts = d.texts.map (terminateWith .crlf) := by
  have hplain {s : String} (h : '\n' ∉ s.toList) : terminateWith .crlf s.toList = s.toList :=
    terminateWith_of_not_mem .crlf h
  have hnamed (tag : String) (htag : '\n' ∉ tag.toList) (entry : String × String) :
      ("<" ++ tag ++ " name=\"" ++ crlfEnds entry.1 ++ "\">" ++ crlfEnds entry.2 ++ "</" ++ tag
          ++ ">").toList =
        terminateWith .crlf ("<" ++ tag ++ " name=\"" ++ entry.1 ++ "\">" ++ entry.2 ++ "</" ++ tag
          ++ ">").toList := by
    simp only [String.toList_append, terminateWith_append, toList_crlfEnds, hplain htag,
      hplain (show '\n' ∉ "<".toList by decide), hplain (show '\n' ∉ " name=\"".toList by decide),
      hplain (show '\n' ∉ "\">".toList by decide), hplain (show '\n' ∉ "</".toList by decide),
      hplain (show '\n' ∉ ">".toList by decide)]
  have hspread (tag : String) (htag : '\n' ∉ tag.toList) (text : String) :
      [("<" ++ tag ++ ">").toList, (crlfEnds text).toList, ("</" ++ tag ++ ">").toList] =
        [("<" ++ tag ++ ">").toList, text.toList, ("</" ++ tag ++ ">").toList].map
          (terminateWith .crlf) := by
    have hopening : '\n' ∉ ("<" ++ tag ++ ">").toList := by simp [htag]
    have hclosing : '\n' ∉ ("</" ++ tag ++ ">").toList := by simp [htag]
    simp only [List.map_cons, List.map_nil, toList_crlfEnds, hplain hopening, hplain hclosing]
  have hlisted (tag : String) (htag : '\n' ∉ tag.toList) (entries : List (String × String)) :
      (entries.map fun entry => (crlfEnds entry.1, crlfEnds entry.2)).map (fun entry =>
        ("<" ++ tag ++ " name=\"" ++ entry.1 ++ "\">" ++ entry.2 ++ "</" ++ tag ++ ">").toList) =
      (entries.map fun entry =>
        ("<" ++ tag ++ " name=\"" ++ entry.1 ++ "\">" ++ entry.2 ++ "</" ++ tag ++ ">").toList).map
          (terminateWith .crlf) := by
    simp only [List.map_map, Function.comp_def, hnamed tag htag]
  have hreturns : ((d.returns.map crlfEnds).map fun text =>
        ("<returns>" ++ text ++ "</returns>").toList).toList =
      (d.returns.map fun text => ("<returns>" ++ text ++ "</returns>").toList).toList.map
        (terminateWith .crlf) := by
    cases d.returns with
    | none => rfl
    | some text =>
      simp only [Option.map_some, Option.toList_some, List.map_cons, List.map_nil, String.toList_append,
        terminateWith_append, toList_crlfEnds, hplain (show '\n' ∉ "<returns>".toList by decide),
        hplain (show '\n' ∉ "</returns>".toList by decide)]
  have htrailer : (d.trailer.map crlfEnds).map String.toList =
      (d.trailer.map String.toList).map (terminateWith .crlf) := by simp [Function.comp_def]
  simp only [texts, mapStrings, List.map_append]
  rw [htrailer, hreturns]
  refine congrArg₂ _ (congrArg₂ _ (congrArg₂ _ (congrArg₂ _ (congrArg₂ _ ?_ ?_) ?_) rfl) ?_) rfl
  · cases d.summary with
    | none => rfl
    | some text => exact hspread "summary" (by decide) text
  · exact hlisted "typeparam" (by decide) d.typeParams
  · exact hlisted "param" (by decide) d.params
  · cases d.remarks with
    | none => rfl
    | some text => exact hspread "remarks" (by decide) text

theorem return_not_mem_texts {d : DocComment} (h : ∀ s ∈ d.strings, '\r' ∉ s.toList)
    {text : List Char} (ht : text ∈ d.texts) : '\r' ∉ text := by
  simp only [strings, List.forall_mem_append, List.mem_flatMap, forall_exists_index, and_imp] at h
  obtain ⟨⟨⟨⟨⟨hsummary, htypeParams⟩, hparams⟩, hreturns⟩, hremarks⟩, htrailer⟩ := h
  have hspread (tag : String) (htag : '\r' ∉ tag.toList) {s : String} (hs : '\r' ∉ s.toList)
      (ht : text ∈ [("<" ++ tag ++ ">").toList, s.toList, ("</" ++ tag ++ ">").toList]) :
      '\r' ∉ text := by
    simp only [List.mem_cons, List.not_mem_nil, or_false] at ht
    rcases ht with rfl | rfl | rfl
    · simp [htag]
    · exact hs
    · simp [htag]
  have hnamed (tag : String) (htag : '\r' ∉ tag.toList) {entry : String × String}
      (hname : '\r' ∉ entry.1.toList) (htext : '\r' ∉ entry.2.toList) :
      '\r' ∉ ("<" ++ tag ++ " name=\"" ++ entry.1 ++ "\">" ++ entry.2 ++ "</" ++ tag ++ ">").toList := by
    simp [htag, hname, htext]
  simp only [texts, List.mem_append, List.mem_map] at ht
  rcases ht with ((((ht | ⟨entry, hmem, rfl⟩) | ⟨entry, hmem, rfl⟩) | ht) | ht) | ⟨entry, hmem, rfl⟩
  · cases hpart : d.summary with
    | none => simp [hpart] at ht
    | some s =>
      rw [hpart] at ht
      exact hspread "summary" (by decide) (hsummary s (by simp [hpart])) ht
  · exact hnamed "typeparam" (by decide) (htypeParams _ entry hmem (by simp))
      (htypeParams _ entry hmem (by simp))
  · exact hnamed "param" (by decide) (hparams _ entry hmem (by simp)) (hparams _ entry hmem (by simp))
  · obtain ⟨s, hs, rfl⟩ : ∃ s, d.returns = some s ∧
        ("<returns>" ++ s ++ "</returns>").toList = text := by simpa using ht
    have htext : '\r' ∉ s.toList := hreturns s (by simp [hs])
    simp [htext]
  · cases hpart : d.remarks with
    | none => simp [hpart] at ht
    | some s =>
      rw [hpart] at ht
      exact hspread "remarks" (by decide) (hremarks s (by simp [hpart])) ht
  · exact htrailer entry hmem

/-- The lines of a comment are cut at either kind of line end. -/
theorem lines_mapStrings {d : DocComment} (h : ∀ s ∈ d.strings, '\r' ∉ s.toList)
    (lineStart : List Char) : (d.mapStrings crlfEnds).lines lineStart = d.lines lineStart := by
  rw [lines, texts_mapStrings, lines, List.flatMap_map]
  apply List.flatMap_congr
  intro text ht
  have hreturn := return_not_mem_texts h ht
  have hplain := pieces_terminateWith .lf hreturn
  rw [terminateWith_lf] at hplain
  have hlines := congrArg (List.map fun line =>
    if List.isEmpty line then lineStart else lineStart ++ ' ' :: line)
      ((pieces_terminateWith .crlf hreturn).trans hplain.symm)
  rw [List.map_map, List.map_map] at hlines
  exact hlines

end DocComment

end CodeScribe
