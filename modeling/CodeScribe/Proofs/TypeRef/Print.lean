import CodeScribe.Identifier.Basic
import CodeScribe.Proofs.InputEnds.Texts
import CodeScribe.Proofs.TypeRef.Read
import CodeScribe.Proofs.TypeRef.Shorten

/-! References as programs write them: dotted names, arguments, and suffixes of marks. Reading what is
written for one gives it back, unless an argument has an array mark with a comma in it. -/
namespace CodeScribe

namespace TypeRef
open Character (isBlank)

/-- Characters that may stand in a word: no blank, and no mark at which a text is cut. -/
def isWordChar (c : Char) : Bool := !isBlank c && !(['.', '<', '>', ',', '[', '?'].contains c)

/-- A name, or a part of a scope. -/
def IsWord (cs : List Char) : Prop := cs ≠ [] ∧ ∀ c ∈ cs, isWordChar c = true

instance : DecidablePred IsWord := fun cs =>
  decidable_of_iff (cs ≠ [] ∧ cs.all isWordChar = true) (by rw [IsWord, List.all_eq_true])

/-- Words with dots between them. -/
def IsDotted (cs : List Char) : Prop :=
  ∃ words, words ≠ [] ∧ (∀ word ∈ words, IsWord word) ∧ cs = Text.join ['.'] words

/-- One mark of a suffix: nullable, or an array with a number of commas. -/
inductive SuffixMark where
  | nullable
  | array (commas : Nat)

def SuffixMark.text : SuffixMark → List Char
  | .nullable => ['?']
  | .array commas => '[' :: List.replicate commas ',' ++ [']']

def IsSuffix (cs : List Char) : Prop := ∃ marks : List SuffixMark, cs = marks.flatMap SuffixMark.text

/-- References to types as programs write them. -/
inductive WellFormed : TypeRef → Prop
  | mk {scope : Option String} {name : String} {arguments : List TypeRef} {suffix : String} :
    (∀ s ∈ scope, IsDotted s.toList) → IsWord name.toList → (∀ a ∈ arguments, WellFormed a) →
    IsSuffix suffix.toList → WellFormed ⟨scope, name, arguments, suffix⟩

private theorem isWordChar_of_isNameChar {c : Char} (h : Identifier.isNameChar c = true) :
    isWordChar c = true := by
  have hblank : isBlank c = false := Text.isBlank_of_class (by decide +kernel) h
  have hmark : c ∉ ['.', '<', '>', ',', '[', '?'] := by
    have hnone : ['.', '<', '>', ',', '[', '?'].all (fun d => !Identifier.isNameChar d) = true := by
      decide +kernel
    intro hc
    have hc := List.all_eq_true.mp hnone c hc
    rw [h] at hc
    cases hc
  simpa [isWordChar, hblank] using hmark

/-- Identifiers are words, with or without a verbatim mark. -/
theorem isWord_of_identifier {name : String} (h : Identifier.problem? name = none) :
    IsWord name.toList := by
  have hstart {c : Char} (hc : Identifier.isNameStart c = true) : isWordChar c = true := by
    refine isWordChar_of_isNameChar ?_
    simp only [Identifier.isNameStart, Bool.or_eq_true] at hc
    rcases hc with hc | hc <;> simp [Identifier.isNameChar, Identifier.isAlphanumeric, hc]
  unfold Identifier.problem? at h
  dsimp only at h
  split at h
  · cases h
  next bare c rest hbare =>
  split at h
  · next hc =>
    split at h
    · next hrest =>
      have hword : ∀ d ∈ c :: rest, isWordChar d = true :=
        List.forall_mem_cons.mpr
          ⟨hstart hc, fun d hd => isWordChar_of_isNameChar (List.all_eq_true.mp hrest d hd)⟩
      split at hbare
      · next hname =>
        rw [hname, hbare]
        exact ⟨List.cons_ne_nil _ _, List.forall_mem_cons.mpr ⟨rfl, hword⟩⟩
      · rw [hbare]
        exact ⟨List.cons_ne_nil c rest, hword⟩
    · cases h
  · split at h <;> cases h

/-- What stands in front of the arguments: the scope, if there is one, and the name. -/
def headChars (scope : Option String) (name : String) : List Char :=
  (match scope with
    | some scope => scope.toList ++ ['.']
    | none => []) ++ name.toList

private theorem fullChars_mk (scope : Option String) (name : String) (arguments : List TypeRef)
    (suffix : String) : fullChars ⟨scope, name, arguments, suffix⟩ =
      headChars scope name ++ bracketed (arguments.map fullChars) ++ suffix.toList := by
  cases scope with
  | none =>
    rw [fullChars, fullCharsAll_eq_map]
    rfl
  | some scope =>
    rw [fullChars, fullCharsAll_eq_map]
    rfl

private theorem isPlain_of_isWordChar {c : Char} (h : isWordChar c = true) : IsPlain c := by
  refine ⟨?_, ?_, ?_⟩ <;> (rintro rfl; cases h)

private theorem isBlank_of_isWordChar {c : Char} (h : isWordChar c = true) : isBlank c = false := by
  simp only [isWordChar, Bool.and_eq_true, Bool.not_eq_true'] at h
  exact h.1

/-- A head is made of dots and of characters of words. -/
private theorem mem_headChars {scope : Option String} {name : String}
    (hscope : ∀ s ∈ scope, IsDotted s.toList)
    (hname : IsWord name.toList) {c : Char} (hc : c ∈ headChars scope name) :
    c = '.' ∨ isWordChar c = true := by
  unfold headChars at hc
  rcases List.mem_append.mp hc with hc | hc
  · cases scope with
    | none => cases hc
    | some s =>
      obtain ⟨words, -, hwords, hs⟩ := hscope s rfl
      rcases List.mem_append.mp hc with hc | hc
      · rw [hs] at hc
        rcases Text.mem_join hc with hdot | ⟨word, hword, hc⟩
        · exact .inl (List.mem_singleton.mp hdot)
        · exact .inr ((hwords word hword).2 c hc)
      · exact .inl (List.mem_singleton.mp hc)
  · exact .inr (hname.2 c hc)

private theorem not_mem_headChars {scope : Option String} {name : String}
    (hscope : ∀ s ∈ scope, IsDotted s.toList) (hname : IsWord name.toList) {c : Char} (hdot : c ≠ '.')
    (hword : isWordChar c = false) : c ∉ headChars scope name := by
  intro hc
  rcases mem_headChars hscope hname hc with rfl | hc
  · exact hdot rfl
  · rw [hword] at hc
    cases hc

private theorem ofParts_headChars {name : String} (hname : IsWord name.toList) (scope : Option String)
    (arguments : List TypeRef) (suffix : String) :
    ofParts (headChars scope name) arguments suffix.toList = ⟨scope, name, arguments, suffix⟩ := by
  have hdot : '.' ∉ name.toList := fun hc => by cases hname.2 '.' hc
  unfold headChars ofParts
  cases scope with
  | none => simp [splitLast?_of_not_mem hdot, String.ofList_toList]
  | some s =>
    rw [List.append_assoc, List.singleton_append, splitLast?_append s.toList hdot]
    simp [String.ofList_toList]

/-- The marks of a suffix. -/
private theorem mem_of_isSuffix {cs : List Char} (h : IsSuffix cs) {c : Char} (hc : c ∈ cs) :
    c ∈ ['?', '[', ',', ']'] := by
  obtain ⟨marks, rfl⟩ := h
  obtain ⟨mark, -, hc⟩ := List.mem_flatMap.mp hc
  cases mark with
  | nullable =>
    rw [List.mem_singleton.mp hc]
    decide
  | array commas =>
    simp only [SuffixMark.text, List.cons_append, List.mem_cons, List.mem_append, List.mem_replicate,
      List.not_mem_nil, or_false] at hc
    rcases hc with rfl | ⟨-, rfl⟩ | rfl <;> decide

/-- A suffix is empty or starts with a mark that ends a name. -/
private theorem head_of_isSuffix {cs : List Char} (h : IsSuffix cs) :
    cs = [] ∨ ∃ c rest, cs = c :: rest ∧ (c = '[' ∨ c = '?') := by
  obtain ⟨marks, rfl⟩ := h
  cases marks with
  | nil => exact .inl rfl
  | cons mark marks =>
    cases mark with
    | nullable => exact .inr ⟨_, _, rfl, .inr rfl⟩
    | array commas => exact .inr ⟨_, _, rfl, .inl rfl⟩

/-- Inside of brackets a suffix may have commas, and outside of them it may not. -/
theorem level?_suffix {cs : List Char} (h : IsSuffix cs) (depth : Nat) :
    level? depth cs = if depth = 0 ∧ ',' ∈ cs then none else some depth := by
  have hmarks : ∀ c ∈ cs, c ∈ ['?', '[', ',', ']'] := fun c hc => mem_of_isSuffix h hc
  clear h
  induction cs with
  | nil => simp [level?]
  | cons c cs ih =>
    obtain ⟨hc, hcs⟩ := List.forall_mem_cons.mp hmarks
    by_cases hcomma : c = ','
    · subst hcomma
      cases depth with
      | zero => simp [level?_cons, passed?]
      | succ depth =>
        have hpassed : passed? (depth + 1) ',' = some (depth + 1) := rfl
        rw [level?_cons, hpassed, Option.bind_some, ih hcs]
        simp
    · have hplain : IsPlain c :=
        ⟨by rintro rfl; exact absurd hc (by decide), by rintro rfl; exact absurd hc (by decide), hcomma⟩
      rw [level?_cons, passed?_of_isPlain hplain, Option.bind_some, ih hcs]
      simp [Ne.symm hcomma]

private theorem level?_headChars {scope : Option String} {name : String}
    (hscope : ∀ s ∈ scope, IsDotted s.toList) (hname : IsWord name.toList) (depth : Nat) :
    level? depth (headChars scope name) = some depth := by
  refine level?_of_plain (fun c hc => ?_) depth
  rcases mem_headChars hscope hname hc with rfl | hword
  · exact ⟨by decide, by decide, by decide⟩
  · exact isPlain_of_isWordChar hword

private theorem level?_join {depth : Nat} {texts : List (List Char)}
    (h : ∀ cs ∈ texts, level? (depth + 1) cs = some (depth + 1)) :
    level? (depth + 1) (Text.join ", ".toList texts) = some (depth + 1) := by
  induction texts with
  | nil => rfl
  | cons cs rest ih =>
    obtain ⟨hcs, hrest⟩ := List.forall_mem_cons.mp h
    by_cases hne : rest = []
    · rw [hne, Text.join_singleton, hcs]
    · rw [Text.join_cons hne, level?_append, level?_append, hcs]
      exact ih hrest

/-- Brackets around arguments that are whole inside of them. -/
private theorem level?_bracketed {depth : Nat} {texts : List (List Char)}
    (h : ∀ cs ∈ texts, level? (depth + 1) cs = some (depth + 1)) :
    level? depth (bracketed texts) = some depth := by
  by_cases hne : texts = []
  · rw [hne]
    rfl
  · have hopen : passed? depth '<' = some (depth + 1) := rfl
    rw [bracketed_of_ne_nil hne, List.cons_append, level?_cons, hopen, Option.bind_some, level?_append,
      level?_join h]
    rfl

namespace WellFormed
variable {r : TypeRef}

/-- Inside of brackets the text of a reference is whole. -/
theorem level?_fullChars (h : WellFormed r) (depth : Nat) :
    level? (depth + 1) r.fullChars = some (depth + 1) := by
  induction h generalizing depth with
  | @mk scope name arguments suffix hscope hname _ hsuffix ih =>
    have harguments : ∀ cs ∈ arguments.map fullChars, level? (depth + 1 + 1) cs = some (depth + 1 + 1) :=
      List.forall_mem_map.mpr fun a ha => ih a ha (depth + 1)
    rw [fullChars_mk, level?_append, level?_append, level?_headChars hscope hname, Option.bind_some,
      level?_bracketed harguments, Option.bind_some, level?_suffix hsuffix]
    rfl

/-- Outside of brackets it is whole when its suffix has no comma. -/
theorem enclosed_fullChars_iff (h : WellFormed r) : Enclosed r.fullChars ↔ ',' ∉ r.suffix.toList := by
  cases h with
  | @mk scope name arguments suffix hscope hname harguments hsuffix =>
    have hlevel : ∀ cs ∈ arguments.map fullChars, level? (0 + 1) cs = some (0 + 1) :=
      List.forall_mem_map.mpr fun a ha => (harguments a ha).level?_fullChars 0
    rw [Enclosed, fullChars_mk, level?_append, level?_append, level?_headChars hscope hname,
      Option.bind_some, level?_bracketed hlevel, Option.bind_some, level?_suffix hsuffix]
    simp

private theorem trim_fullChars (h : WellFormed r) : Text.trim r.fullChars = r.fullChars := by
  cases h with
  | @mk scope name arguments suffix hscope hname harguments hsuffix =>
    have hhead : ∀ c ∈ headChars scope name, isBlank c = false := fun c hc => by
      rcases mem_headChars hscope hname hc with rfl | hword
      · rfl
      · exact isBlank_of_isWordChar hword
    have hback : ∀ c ∈ suffix.toList, isBlank c = false := fun c hc => by
      have hnone : ['?', '[', ',', ']'].all (fun d => !isBlank d) = true := by decide
      have hc := List.all_eq_true.mp hnone c (mem_of_isSuffix hsuffix hc)
      rwa [Bool.not_eq_true'] at hc
    rw [fullChars_mk]
    by_cases hne : arguments = []
    · rw [hne]
      refine Text.trim_of_not_blank fun c hc => ?_
      rcases List.mem_append.mp hc with hc | hc
      · exact hhead c (by simpa [bracketed] using hc)
      · exact hback c hc
    · have hform (cs : List Char) : headChars scope name ++ ('<' :: cs ++ ['>']) ++ suffix.toList =
          headChars scope name ++ '<' :: (cs ++ '>' :: suffix.toList) := by simp
      have hempty : Text.trim (headChars scope name ++ '<' :: ([] ++ '>' :: suffix.toList)) =
          headChars scope name ++ '<' :: ([] ++ '>' :: suffix.toList) := by
        refine Text.trim_of_not_blank fun c hc => ?_
        simp only [List.nil_append, List.mem_append, List.mem_cons] at hc
        rcases hc with hc | rfl | rfl | hc
        · exact hhead c hc
        · rfl
        · rfl
        · exact hback c hc
      rw [bracketed_of_ne_nil (by simpa using hne), hform]
      exact trim_brackets hempty _

/-- A reference without arguments is read back. -/
theorem ofChars_fullChars_of_nil {scope : Option String} {name suffix : String}
    (h : WellFormed ⟨scope, name, [], suffix⟩) :
    ofChars (fullChars ⟨scope, name, [], suffix⟩) = ⟨scope, name, [], suffix⟩ := by
  have htrim := h.trim_fullChars
  cases h with
  | mk hscope hname _ hsuffix =>
    have hform : fullChars ⟨scope, name, [], suffix⟩ = headChars scope name ++ suffix.toList := by
      rw [fullChars_mk]
      simp [bracketed]
    have hhead : ∀ c ∈ headChars scope name, (c ≠ '[' && c ≠ '?') = true := fun c hc => by
      have hsquare : c ≠ '[' := by
        rintro rfl
        exact not_mem_headChars hscope hname (by decide) rfl hc
      have hquestion : c ≠ '?' := by
        rintro rfl
        exact not_mem_headChars hscope hname (by decide) rfl hc
      simp [hsquare, hquestion]
    have htake : (headChars scope name ++ suffix.toList).takeWhile (fun c => c ≠ '[' && c ≠ '?') =
        headChars scope name := by
      rw [List.takeWhile_append_of_pos hhead]
      rcases head_of_isSuffix hsuffix with hnil | ⟨c, rest, hcons, hc⟩
      · rw [hnil, List.takeWhile_nil, List.append_nil]
      · rw [hcons, List.takeWhile_cons_of_neg (by rcases hc with rfl | rfl <;> simp), List.append_nil]
    have hdrop : (headChars scope name ++ suffix.toList).dropWhile (fun c => c ≠ '[' && c ≠ '?') =
        suffix.toList := by
      rw [List.dropWhile_append_of_pos hhead]
      rcases head_of_isSuffix hsuffix with hnil | ⟨c, rest, hcons, hc⟩
      · rw [hnil, List.dropWhile_nil]
      · rw [hcons, List.dropWhile_cons_of_neg (by rcases hc with rfl | rfl <;> simp)]
    have hopen : '<' ∉ headChars scope name ++ suffix.toList := by
      rw [List.mem_append, not_or]
      exact ⟨not_mem_headChars hscope hname (by decide) rfl, fun hc =>
        absurd (mem_of_isSuffix hsuffix hc) (by decide)⟩
    have hsplit := splitGeneric?_of_not_mem hopen
    rw [← hform, ← htrim] at hsplit
    rw [ofChars_of_plain hsplit, htrim, hform, htake, hdrop]
    exact ofParts_headChars hname scope [] suffix

/-- A reference whose arguments are enclosed is cut into their texts. -/
theorem splitGeneric?_fullChars {scope : Option String} {name suffix : String}
    {arguments : List TypeRef} (h : WellFormed ⟨scope, name, arguments, suffix⟩) (hne : arguments ≠ [])
    (hplain : ∀ a ∈ arguments, ',' ∉ a.suffix.toList) :
    splitGeneric? (Text.trim (fullChars ⟨scope, name, arguments, suffix⟩)) =
      some (headChars scope name, arguments.map fullChars, suffix.toList) := by
  have htrim := h.trim_fullChars
  cases h with
  | mk hscope hname harguments hsuffix =>
    have hopen : '<' ∉ headChars scope name := not_mem_headChars hscope hname (by decide) rfl
    rw [htrim, fullChars_mk]
    refine splitGeneric?_bracketed hopen (by simpa using hne) (List.forall_mem_map.mpr fun a ha => ?_) _
    exact ⟨(harguments a ha).enclosed_fullChars_iff.mpr (hplain a ha), (harguments a ha).trim_fullChars⟩

/-- Reading what is written for a reference gives it back when no argument, at any depth, has an array
mark with a comma. -/
theorem ofChars_fullChars (h : WellFormed r) (hplain : ∀ a ∈ r.inner, ',' ∉ a.suffix.toList) :
    ofChars r.fullChars = r := by
  induction h with
  | @mk scope name arguments suffix hscope hname harguments hsuffix ih =>
    have hr : WellFormed ⟨scope, name, arguments, suffix⟩ := .mk hscope hname harguments hsuffix
    by_cases hne : arguments = []
    · subst hne
      exact hr.ofChars_fullChars_of_nil
    · have hown : ∀ a ∈ arguments, ',' ∉ a.suffix.toList := fun a ha =>
        hplain a (mem_innerAll.mpr ⟨a, ha, .inl rfl⟩)
      have hback : ∀ a ∈ arguments, (ofChars ∘ fullChars) a = id a := fun a ha =>
        ih a ha fun b hb => hplain b (mem_innerAll.mpr ⟨a, ha, .inr hb⟩)
      rw [ofChars_of_split (hr.splitGeneric?_fullChars hne hown), List.map_map,
        List.map_congr_left hback, List.map_id]
      exact ofParts_headChars hname scope arguments suffix

/-- An argument with a comma in its suffix is never read: what is read is enclosed. -/
theorem suffix_of_ofChars_fullChars (h : WellFormed r) (hback : ofChars r.fullChars = r) :
    ∀ a ∈ r.inner, ',' ∉ a.suffix.toList := by
  induction h with
  | @mk scope name arguments suffix hscope hname harguments hsuffix ih =>
    have hr : WellFormed ⟨scope, name, arguments, suffix⟩ := .mk hscope hname harguments hsuffix
    by_cases hne : arguments = []
    · subst hne
      exact fun a ha => nomatch ha
    have hown : ∀ a ∈ arguments, ',' ∉ a.suffix.toList := by
      cases hsplit : splitGeneric? (Text.trim (fullChars ⟨scope, name, arguments, suffix⟩)) with
      | none =>
        rw [ofChars_of_plain hsplit] at hback
        exact absurd (arguments_of_ofParts hback) hne
      | some parts =>
        obtain ⟨head, texts, back⟩ := parts
        obtain ⟨-, -, htexts, -⟩ := splitGeneric?_found hsplit
        rw [ofChars_of_split hsplit] at hback
        have hread : arguments = texts.map ofChars := arguments_of_ofParts hback
        intro a ha
        rw [hread] at ha
        obtain ⟨text, htext, rfl⟩ := List.mem_map.mp ha
        exact (harguments _ (hread ▸ ha)).enclosed_fullChars_iff.mp
          (enclosed_fullChars_ofChars (htexts text htext).1)
    rw [ofChars_of_split (hr.splitGeneric?_fullChars hne hown), List.map_map] at hback
    have hread : arguments.map id = arguments.map (ofChars ∘ fullChars) := by
      rw [List.map_id]
      exact arguments_of_ofParts hback
    have heach : ∀ a ∈ arguments, ofChars a.fullChars = a := fun a ha =>
      (List.map_inj_left.mp hread a ha).symm
    intro b hb
    obtain ⟨a, ha, rfl | hb⟩ := mem_innerAll.mp hb
    · exact hown b ha
    · exact ih a ha (heach a ha) b hb

end WellFormed

/-- A reference as programs write them is read back from its text exactly when no reference among its
arguments, at any depth, has an array mark with a comma. -/
theorem parse_fullName_iff {r : TypeRef} (h : WellFormed r) :
    parse r.fullName = r ↔ ∀ a ∈ r.inner, ',' ∉ a.suffix.toList := by
  rw [parse, fullName, String.toList_ofList]
  exact ⟨h.suffix_of_ofChars_fullChars, h.ofChars_fullChars⟩

/-- References three deep, with a comma in the suffix of the outermost one. -/
def rowsRef : TypeRef where
  scope := some "System.Collections"
  name := "List"
  arguments := [
    { scope := some "Größe"
      name := "@class"
      arguments := [{ name := "int", suffix := "[]" }, { scope := some "Acme", name := "_Item2" }]
      suffix := "?[]" }]
  suffix := "?[,]"

theorem parse_fullName_rowsRef : WellFormed rowsRef ∧
    rowsRef.fullName = "System.Collections.List<Größe.@class<int[], Acme._Item2>?[]>?[,]" ∧
    parse "System.Collections.List<Größe.@class<int[], Acme._Item2>?[]>?[,]" = rowsRef := by
  have hint : WellFormed { name := "int", suffix := "[]" } :=
    .mk (fun _ hs => nomatch hs) (by decide) (fun _ ha => nomatch ha) ⟨[.array 0], rfl⟩
  have hitem : WellFormed { scope := some "Acme", name := "_Item2" } := by
    refine .mk (fun s hs => ?_) (by decide) (fun _ ha => nomatch ha) ⟨[], rfl⟩
    cases hs
    exact ⟨["Acme".toList], by decide, by decide, by decide⟩
  have hclass : IsWord "@class".toList := isWord_of_identifier (by decide +kernel)
  have hscope : IsWord "Größe".toList := isWord_of_identifier (by decide +kernel)
  have hform : WellFormed rowsRef := by
    refine .mk (fun s hs => ?_) (by decide) (List.forall_mem_singleton.mpr
      (.mk (fun s hs => ?_) hclass ?_ ⟨[.nullable, .array 0], rfl⟩)) ⟨[.nullable, .array 1], rfl⟩
    · cases hs
      exact ⟨["System".toList, "Collections".toList], by decide, by decide, by decide⟩
    · cases hs
      exact ⟨["Größe".toList], by decide, List.forall_mem_singleton.mpr hscope, by decide⟩
    · exact List.forall_mem_cons.mpr ⟨hint, List.forall_mem_singleton.mpr hitem⟩
  have hname : rowsRef.fullName = "System.Collections.List<Größe.@class<int[], Acme._Item2>?[]>?[,]" := by
    decide +kernel
  have hback := (parse_fullName_iff hform).mpr (by decide)
  rw [hname] at hback
  exact ⟨hform, hname, hback⟩

/-- A list of arrays in two dimensions. -/
def gridsRef : TypeRef := { name := "List", arguments := [{ name := "int", suffix := "[,]" }] }

/-- The comma in its argument divides the list of arguments. -/
theorem parse_fullName_gridsRef :
    WellFormed gridsRef ∧ gridsRef.fullName = "List<int[,]>" ∧ parse "List<int[,]>" ≠ gridsRef := by
  have hform : WellFormed gridsRef := by
    refine .mk (fun _ hs => nomatch hs) (by decide) (List.forall_mem_singleton.mpr ?_) ⟨[], rfl⟩
    exact .mk (fun _ hs => nomatch hs) (by decide) (fun _ ha => nomatch ha) ⟨[.array 1], rfl⟩
  have hsplit : splitGeneric? (Text.trim "List<int[,]>".toList) =
      some ("List".toList, ["int[".toList, "]".toList], []) := by decide
  refine ⟨hform, by decide +kernel, fun heq => ?_⟩
  rw [parse, ofChars_of_split hsplit] at heq
  have hlength := congrArg List.length (arguments_of_ofParts heq)
  cases hlength

end TypeRef
end CodeScribe
