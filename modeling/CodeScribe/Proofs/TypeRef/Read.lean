import CodeScribe.Proofs.TypeRef.Split

/-! References read from any text: what is written for them is that text up to blanks, and reading it
again changes nothing. -/
namespace CodeScribe.TypeRef

theorem fullCharsAll_eq_map (refs : List TypeRef) : fullCharsAll refs = refs.map fullChars := by
  induction refs with
  | nil => rfl
  | cons r rest ih => rw [fullCharsAll, ih, List.map_cons]

private theorem fullChars_ofParts (head : List Char) (arguments : List TypeRef) (suffix : List Char) :
    (ofParts head arguments suffix).fullChars =
      head ++ bracketed (arguments.map fullChars) ++ suffix := by
  unfold ofParts
  split
  · next scope name h =>
    rw [fullChars, fullCharsAll_eq_map, eq_of_splitLast? h]
    simp
  · rw [fullChars, fullCharsAll_eq_map]
    simp

theorem arguments_of_ofParts {head back : List Char} {read : List TypeRef} {r : TypeRef}
    (h : ofParts head read back = r) : r.arguments = read := by
  rw [← h, ofParts]
  split <;> rfl

section
variable {text head suffix : List Char} {arguments : List (List Char)}

theorem ofChars_of_split (h : splitGeneric? (Text.trim text) = some (head, arguments, suffix)) :
    ofChars text = ofParts head (arguments.map ofChars) suffix := by
  rw [ofChars]
  split
  · next head' arguments' suffix' h' =>
    obtain ⟨rfl, rfl, rfl⟩ : head = head' ∧ arguments = arguments' ∧ suffix = suffix' := by
      simpa using h.symm.trans h'
    rw [List.attach_map_val]
  · next h' => cases h.symm.trans h'

theorem ofChars_of_plain (h : splitGeneric? (Text.trim text) = none) :
    ofChars text = ofParts ((Text.trim text).takeWhile fun c => c ≠ '[' && c ≠ '?') []
      ((Text.trim text).dropWhile fun c => c ≠ '[' && c ≠ '?') := by
  rw [ofChars]
  split
  · next h' => cases h.symm.trans h'
  · rfl

private theorem ofChars_trim (text : List Char) : ofChars (Text.trim text) = ofChars text := by
  cases h : splitGeneric? (Text.trim text) with
  | none => rw [ofChars_of_plain h, ofChars_of_plain (by rwa [Text.trim_trim]), Text.trim_trim]
  | some parts => rw [ofChars_of_split h, ofChars_of_split (by rwa [Text.trim_trim])]

private theorem fullChars_ofChars_of_plain (h : splitGeneric? (Text.trim text) = none) :
    (ofChars text).fullChars = Text.trim text := by
  rw [ofChars_of_plain h, fullChars_ofParts]
  simp [bracketed, List.takeWhile_append_dropWhile]

private theorem fullChars_ofChars_of_split
    (h : splitGeneric? (Text.trim text) = some (head, arguments, suffix)) : (ofChars text).fullChars =
      head ++ bracketed (arguments.map fun a => (ofChars a).fullChars) ++ suffix := by
  rw [ofChars_of_split h, fullChars_ofParts, List.map_map]
  rfl

end

theorem bracketed_of_ne_nil {texts : List (List Char)} (h : texts ≠ []) :
    bracketed texts = '<' :: Text.join ", ".toList texts ++ ['>'] :=
  if_neg (by simpa using h)

/-- A joined text is seen alike when each of its parts is. -/
private theorem visible_join_map {f : List Char → List Char} {texts : List (List Char)}
    (h : ∀ cs ∈ texts, Text.visible (f cs) = Text.visible cs) (separator : List Char) :
    Text.visible (Text.join separator (texts.map f)) = Text.visible (Text.join separator texts) := by
  induction texts with
  | nil => rfl
  | cons cs rest ih =>
    obtain ⟨hcs, hrest⟩ := List.forall_mem_cons.mp h
    cases rest with
    | nil => simpa [Text.join_singleton] using hcs
    | cons next rest =>
      have hne : (next :: rest).map f ≠ [] := by simp
      rw [List.map_cons, Text.join_cons hne, Text.join_cons (List.cons_ne_nil next rest),
        Text.visible_append, Text.visible_append, hcs, ih hrest, ← Text.visible_append,
        ← Text.visible_append]

/-- Reading drops nothing that can be seen. -/
theorem visible_fullChars_ofChars (text : List Char) :
    Text.visible (ofChars text).fullChars = Text.visible text := by
  induction text using ofChars.induct with
  | case1 text trimmed head arguments suffix h ih =>
    obtain ⟨-, hne, -, inner, htext, hinner⟩ := splitGeneric?_found h
    have harguments : Text.visible (bracketed (arguments.map fun a => (ofChars a).fullChars)) =
        Text.visible ('<' :: inner ++ ['>']) := by
      rw [bracketed_of_ne_nil (by simpa using hne), Text.visible_append, Text.visible_append,
        Text.visible_cons, Text.visible_cons '<' inner, visible_join_map ih, hinner]
    calc Text.visible (ofChars text).fullChars
        = Text.visible head ++ Text.visible ('<' :: inner ++ ['>']) ++ Text.visible suffix := by
          rw [fullChars_ofChars_of_split h, Text.visible_append, Text.visible_append, harguments]
      _ = Text.visible trimmed := by
          rw [htext, ← Text.visible_append, ← Text.visible_append]
          simp
      _ = Text.visible text := Text.visible_trim text
  | case2 text trimmed h => rw [fullChars_ofChars_of_plain h, Text.visible_trim]

/-- An argument stays one when it is read and written again. -/
theorem enclosed_fullChars_ofChars {a : List Char} (h : Enclosed a) : Enclosed (ofChars a).fullChars :=
  (level?_congr (visible_fullChars_ofChars a) 0).trans h

/-- What stands in the brackets does not decide whether a text is trimmed. -/
theorem trim_brackets {head inner suffix : List Char}
    (h : Text.trim (head ++ '<' :: (inner ++ '>' :: suffix)) = head ++ '<' :: (inner ++ '>' :: suffix))
    (inner' : List Char) :
    Text.trim (head ++ '<' :: (inner' ++ '>' :: suffix)) = head ++ '<' :: (inner' ++ '>' :: suffix) := by
  have hhead (cs : List Char) : (head ++ '<' :: (cs ++ '>' :: suffix)).head? = head.head?.or (some '<') := by
    rw [List.head?_append, List.head?_cons]
  have hlast (cs : List Char) :
      (head ++ '<' :: (cs ++ '>' :: suffix)).getLast? = ('>' :: suffix).getLast? := by
    rw [← List.cons_append, ← List.append_assoc, List.getLast?_append,
      List.getLast?_eq_some_getLast (List.cons_ne_nil '>' suffix), Option.some_or]
  refine Text.trim_of_ends (fun c hc => ?_) fun c hc => ?_
  · exact Text.isBlank_of_head?_trim (by rwa [h, hhead inner, ← hhead inner'])
  · exact Text.isBlank_of_getLast?_trim (by rwa [h, hlast inner, ← hlast inner'])

/-- What is written for a reference that was read has no blank at its ends. -/
private theorem trim_fullChars_ofChars (text : List Char) :
    Text.trim (ofChars text).fullChars = (ofChars text).fullChars := by
  cases h : splitGeneric? (Text.trim text) with
  | none => rw [fullChars_ofChars_of_plain h, Text.trim_trim]
  | some parts =>
    obtain ⟨head, arguments, suffix⟩ := parts
    obtain ⟨-, hne, -, inner, htext, -⟩ := splitGeneric?_found h
    have hform : (ofChars text).fullChars = head ++ '<' ::
        (Text.join ", ".toList (arguments.map fun a => (ofChars a).fullChars) ++ '>' :: suffix) := by
      rw [fullChars_ofChars_of_split h, bracketed_of_ne_nil (by simpa using hne)]
      simp
    rw [hform]
    exact trim_brackets (by rw [← htext, Text.trim_trim]) _

/-- Reading what is written for a reference that was read gives that reference. -/
theorem ofChars_fullChars_ofChars (text : List Char) :
    ofChars (ofChars text).fullChars = ofChars text := by
  induction text using ofChars.induct with
  | case1 text trimmed head arguments suffix h ih =>
    obtain ⟨hhead, hne, harguments, -⟩ := splitGeneric?_found h
    have hagain : splitGeneric? (Text.trim (ofChars text).fullChars) =
        some (head, arguments.map fun a => (ofChars a).fullChars, suffix) := by
      rw [trim_fullChars_ofChars, fullChars_ofChars_of_split h]
      refine splitGeneric?_bracketed hhead (by simpa using hne) ?_ suffix
      rw [List.forall_mem_map]
      exact fun a ha => ⟨enclosed_fullChars_ofChars (harguments a ha).1, trim_fullChars_ofChars a⟩
    rw [ofChars_of_split hagain, ofChars_of_split h, List.map_map]
    congr 1
    exact List.map_congr_left ih
  | case2 text trimmed h => rw [fullChars_ofChars_of_plain h, ofChars_trim]

end CodeScribe.TypeRef
