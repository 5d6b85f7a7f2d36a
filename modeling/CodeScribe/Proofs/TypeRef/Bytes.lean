import CodeScribe.Proofs.TypeRef.Read

/-! References read by positions in bytes, where a depth may fall below zero and a cut may miss the
border between two characters. Neither ever happens. -/
namespace CodeScribe

namespace Text

/-- The characters of a text with the byte positions at which they start. -/
def positions (start : Nat) : List Char → List (Nat × Char)
  | [] => []
  | c :: rest => (start, c) :: positions (start + c.utf8Size) rest

def firstByte? (p : Char → Bool) (cs : List Char) : Option Nat :=
  ((positions 0 cs).find? fun q => p q.2).map (·.1)

private theorem positions_append (start : Nat) (xs ys : List Char) :
    positions start (xs ++ ys) = positions start xs ++ positions (start + byteLength xs) ys := by
  induction xs generalizing start with
  | nil => rfl
  | cons c xs ih => simp [positions, byteLength, ih, Nat.add_assoc]

private theorem mem_of_mem_positions {start : Nat} {cs : List Char} {q : Nat × Char}
    (h : q ∈ positions start cs) : q.2 ∈ cs ∧ q.1 < start + byteLength cs := by
  induction cs generalizing start with
  | nil => cases h
  | cons c cs ih =>
    have hpos : 0 < c.utf8Size := c.utf8Size_pos
    rcases List.mem_cons.mp h with rfl | h
    · exact ⟨List.mem_cons_self, by simp only [byteLength]; omega⟩
    · obtain ⟨hmem, hlt⟩ := ih h
      exact ⟨List.mem_cons_of_mem c hmem, by simp only [byteLength]; omega⟩

/-- The first character of a kind stands right behind the longest stretch of others. -/
private theorem firstByte?_append {p : Char → Bool} {front : List Char} (hfront : ∀ c ∈ front, p c = false)
    {c : Char} (hc : p c = true) (rest : List Char) :
    firstByte? p (front ++ c :: rest) = some (byteLength front) := by
  have hnone : (positions 0 front).find? (fun q => p q.2) = none := by
    rw [List.find?_eq_none]
    intro q hq
    simp [hfront q.2 (mem_of_mem_positions hq).1]
  simp [firstByte?, positions_append, List.find?_append, hnone, positions, hc]

private theorem firstByte?_of_all {p : Char → Bool} {cs : List Char} (h : ∀ c ∈ cs, p c = false) :
    firstByte? p cs = none := by
  rw [firstByte?, Option.map_eq_none_iff, List.find?_eq_none]
  intro q hq
  simp [h q.2 (mem_of_mem_positions hq).1]

/-- Up to the first character of a kind, or to the end, stand characters that are not of it. -/
private theorem firstByte?_getD (p : Char → Bool) (cs : List Char) :
    (firstByte? p cs).getD (byteLength cs) = byteLength (cs.takeWhile (!p ·)) := by
  have hsplit := List.takeWhile_append_dropWhile (p := (!p ·)) (l := cs)
  have hfront : ∀ c ∈ cs.takeWhile (!p ·), p c = false := fun c hc => by
    simpa using List.mem_takeWhile_imp hc
  cases hback : cs.dropWhile (!p ·) with
  | nil =>
    rw [hback, List.append_nil] at hsplit
    rw [hsplit] at hfront ⊢
    rw [firstByte?_of_all hfront, Option.getD_none]
  | cons c rest =>
    have hc : p c = true := by
      have hnot := List.head?_dropWhile_not (!p ·) cs
      rw [hback, List.head?_cons] at hnot
      simpa using hnot
    conv_lhs => rw [← hsplit, hback, firstByte?_append hfront hc]
    rfl

private theorem slice?_middle (xs ys zs : List Char) :
    slice? (byteLength xs) (byteLength (xs ++ ys)) (xs ++ ys ++ zs) = some ys :=
  slice?_eq_some_iff.mpr ⟨xs, zs, rfl, rfl, rfl⟩

end Text

namespace TypeRef

/-- What stops a reader of bytes: a closing bracket where none is open, or a cut inside a character. -/
inductive ReadFault where
  | depth
  | boundary
  deriving DecidableEq, Repr

/-- The text between two byte positions. -/
def cut (text : List Char) (start stop : Nat) : Except ReadFault (List Char) :=
  match Text.slice? start stop text with
  | some part => .ok part
  | none => .error .boundary

/-- Looks for the end of the argument list in the characters that are left, and cuts the arguments out of
the text. The current argument starts at `start`. -/
def scanBytes (text : List Char) (opened depth start : Nat) (arguments : List (List Char)) :
    List (Nat × Char) → Except ReadFault (Option (List Char × List (List Char) × List Char))
  | [] => .ok none
  | (i, c) :: rest =>
    if c = '<' then scanBytes text opened (depth + 1) start arguments rest
    else if c = '>' then
      if depth = 0 then .error .depth
      else if depth = 1 then do
        let argument ← cut text start i
        let head ← cut text 0 opened
        let suffix ← cut text (i + 1) (Text.byteLength text)
        return some (head, arguments ++ [Text.trim argument], suffix)
      else scanBytes text opened (depth - 1) start arguments rest
    else if c = ',' ∧ depth = 1 then do
      let argument ← cut text start i
      scanBytes text opened depth (i + 1) (arguments ++ [Text.trim argument]) rest
    else scanBytes text opened depth start arguments rest

/-- Head, arguments and suffix of a text, found by byte positions. -/
def splitBytes (text : List Char) :
    Except ReadFault (Option (List Char × List (List Char) × List Char)) :=
  match Text.firstByte? (· = '<') text with
  | none => .ok none
  | some opened =>
    scanBytes text opened 0 (opened + 1) []
      ((Text.positions 0 text).dropWhile fun q => q.1 < opened)

private theorem cut_middle {text xs ys zs : List Char} (h : text = xs ++ ys ++ zs) :
    cut text (Text.byteLength xs) (Text.byteLength (xs ++ ys)) = .ok ys := by
  rw [cut, h, Text.slice?_middle]

private theorem cut_front {text ys zs : List Char} (h : text = ys ++ zs) :
    cut text 0 (Text.byteLength ys) = .ok ys :=
  cut_middle (show text = [] ++ ys ++ zs from h)

private theorem cut_back {text xs ys : List Char} (h : text = xs ++ ys) :
    cut text (Text.byteLength xs) (Text.byteLength text) = .ok ys := by
  have hall := cut_middle (show text = xs ++ ys ++ [] by rw [h, List.append_nil])
  rwa [← h] at hall

private theorem scanBytes_cons {depth after : Nat} {c : Char} (h : passed? depth c = some after)
    (text : List Char) (opened start i : Nat) (arguments : List (List Char)) (rest : List (Nat × Char)) :
    scanBytes text opened (depth + 1) start arguments ((i, c) :: rest) =
      scanBytes text opened (after + 1) start arguments rest := by
  unfold passed? at h
  rw [scanBytes]
  split at h
  · next hopen =>
    cases h
    rw [if_pos hopen]
  next hopen =>
  rw [if_neg hopen]
  split at h
  · next hclose =>
    rw [Option.ite_none_left_eq_some] at h
    obtain ⟨hpos, hafter⟩ := h
    cases hafter
    rw [if_pos hclose, if_neg (by omega), if_neg (by omega)]
    congr 1
    omega
  next hclose =>
  rw [if_neg hclose]
  split at h
  · cases h
  next hcomma =>
  cases h
  rw [if_neg fun hc => hcomma ⟨hc.1, by omega⟩]

/-- Where a list is open, the reader of bytes finds what the reader of characters finds: it cuts the
characters that the other one has kept. -/
theorem scanBytes_eq (depth : Nat) {text head after before current rest : List Char}
    (htext : text = before ++ current.reverse ++ rest) (hhead : text = head ++ after)
    (arguments : List (List Char)) :
    scanBytes text (Text.byteLength head) (depth + 1) (Text.byteLength before) arguments
        (Text.positions (Text.byteLength (before ++ current.reverse)) rest) =
      .ok ((closeArguments? (depth + 1) current rest).map fun (more, suffix) =>
        (head, arguments ++ more, suffix)) := by
  induction rest generalizing depth before current arguments with
  | nil => rfl
  | cons c rest ih =>
    have hnext : text = before ++ (c :: current).reverse ++ rest := by simp [htext]
    have hposition : Text.byteLength (before ++ current.reverse) + c.utf8Size =
        Text.byteLength (before ++ (c :: current).reverse) := by
      simp [Text.byteLength_append, Text.byteLength, Nat.add_assoc]
    rw [Text.positions, hposition]
    cases hc : passed? depth c with
    | some level => rw [scanBytes_cons hc, closeArguments?_cons hc, ih level hnext]
    | none =>
      have hcut : cut text (Text.byteLength before) (Text.byteLength (before ++ current.reverse)) =
          .ok current.reverse := cut_middle htext
      have hbehind : Text.byteLength (before ++ current.reverse) + 1 =
          Text.byteLength (before ++ (c :: current).reverse) := by
        rw [← hposition]
        obtain ⟨-, rfl | rfl⟩ := passed?_eq_none hc <;> rfl
      obtain ⟨rfl, rfl | rfl⟩ := passed?_eq_none hc
      · rw [scanBytes, closeArguments?]
        simp only [Char.reduceEq, if_true, if_false, Nat.zero_add, Nat.one_ne_zero, Nat.le_refl]
        rw [hcut, cut_front hhead, hbehind, cut_back hnext]
        rfl
      · have hdivided : text = (before ++ (',' :: current).reverse) ++ [].reverse ++ rest := by
          simp [hnext]
        have hrest := ih 0 hdivided (arguments ++ [Text.trim current.reverse])
        rw [List.reverse_nil, List.append_nil] at hrest
        rw [scanBytes, closeArguments?]
        simp only [Char.reduceEq, if_true, if_false, Nat.zero_add, and_self]
        rw [hcut, hbehind]
        refine hrest.trans ?_
        simp [Option.map_map, Function.comp_def]

/-- Cutting by byte positions finds the head, the arguments and the suffix, and no check fails. -/
theorem splitBytes_eq (text : List Char) : splitBytes text = .ok (splitGeneric? text) := by
  by_cases hmem : '<' ∈ text
  · obtain ⟨head, rest, rfl, hhead⟩ := List.eq_append_cons_of_mem hmem
    have hother : ∀ c ∈ head, decide (c = '<') = false := fun c hc =>
      decide_eq_false fun heq => hhead (heq ▸ hc)
    have hpast : ∀ q ∈ Text.positions 0 head, decide (q.1 < Text.byteLength head) = true := by
      intro q hq
      simpa using (Text.mem_of_mem_positions hq).2
    have hbehind : Text.byteLength head + 1 = Text.byteLength (head ++ ['<']) := by
      rw [Text.byteLength_append]
      rfl
    have hdrop : (Text.positions 0 (head ++ '<' :: rest)).dropWhile
          (fun q => decide (q.1 < Text.byteLength head)) =
        (Text.byteLength head, '<') :: Text.positions (Text.byteLength (head ++ ['<'])) rest := by
      rw [Text.positions_append, List.dropWhile_append_of_pos hpast, ← hbehind, Nat.zero_add]
      exact List.dropWhile_cons_of_neg (by simp)
    have hscan := scanBytes_eq 0 (show head ++ '<' :: rest = (head ++ ['<']) ++ [].reverse ++ rest by simp)
      rfl []
    rw [List.reverse_nil, List.append_nil] at hscan
    rw [splitBytes, Text.firstByte?_append hother rfl, splitGeneric?_append hhead]
    simp only [hdrop]
    rw [hbehind, scanBytes, if_pos rfl, hscan]
    rfl
  · have hother : ∀ c ∈ text, decide (c = '<') = false := fun c hc =>
      decide_eq_false fun heq => hmem (heq ▸ hc)
    rw [splitBytes, Text.firstByte?_of_all hother, splitGeneric?_of_not_mem hmem]

private theorem length_lt_of_splitBytes {text head suffix : List Char} {arguments : List (List Char)}
    (h : splitBytes (Text.trim text) = .ok (some (head, arguments, suffix))) :
    ∀ a ∈ arguments, a.length < text.length := by
  intro a ha
  rw [splitBytes_eq, Except.ok.injEq] at h
  exact Nat.lt_of_lt_of_le (length_lt_of_splitGeneric h a ha) (length_trim_le text)

/-- Reads a reference by byte positions. -/
def readBytes (text : List Char) : Except ReadFault TypeRef :=
  match h : splitBytes (Text.trim text) with
  | .error fault => .error fault
  | .ok (some (head, arguments, suffix)) => do
    let read ← arguments.attach.mapM fun ⟨a, ha⟩ =>
      have := length_lt_of_splitBytes h a ha
      readBytes a
    return ofParts head read suffix
  | .ok none => do
    let trimmed := Text.trim text
    let stop := (Text.firstByte? (fun c => c = '[' || c = '?') trimmed).getD (Text.byteLength trimmed)
    let head ← cut trimmed 0 stop
    let suffix ← cut trimmed stop (Text.byteLength trimmed)
    return ofParts head [] suffix
termination_by text.length

/-- Reading by byte positions gives the same reference, and no check fails. -/
theorem readBytes_eq (text : List Char) : readBytes text = .ok (ofChars text) := by
  induction text using ofChars.induct with
  | case1 text trimmed head arguments suffix h ih =>
    have hread : (fun x : { a // a ∈ arguments } => readBytes x.1) =
        fun x => pure (ofChars x.1) := funext fun x => ih x.1 x.2
    rw [readBytes]
    split
    · next fault h' => cases h'.symm.trans (splitBytes_eq trimmed)
    · next head' arguments' suffix' h' =>
      obtain ⟨rfl, rfl, rfl⟩ : head = head' ∧ arguments = arguments' ∧ suffix = suffix' := by
        rw [splitBytes_eq, h] at h'
        simpa using h'
      rw [ofChars_of_split h]
      simp only [hread]
      rw [List.mapM_pure, pure_bind, List.attach_map_val]
      rfl
    · next h' => cases h.symm.trans (Except.ok.inj ((splitBytes_eq trimmed).symm.trans h'))
  | case2 text trimmed h =>
    rw [readBytes]
    split
    · next fault h' => cases h'.symm.trans (splitBytes_eq trimmed)
    · next h' => cases h.symm.trans (Except.ok.inj ((splitBytes_eq trimmed).symm.trans h'))
    · have hplain : (fun c : Char => c ≠ '[' && c ≠ '?') = fun c => !(c = '[' || c = '?') :=
        funext fun c => by simp
      have htext := (List.takeWhile_append_dropWhile (p := fun c => c ≠ '[' && c ≠ '?') (l := trimmed)).symm
      rw [ofChars_of_plain h]
      simp only [Text.firstByte?_getD, ← hplain]
      rw [cut_front htext, cut_back htext]
      rfl

/-- Any text is read, and no check fails on the way. What is written for the reference is the text up to
blanks, and reading that gives the same reference. -/
theorem parse_fullName_parse (text : String) :
    readBytes text.toList = .ok (parse text) ∧
      Text.visible (parse text).fullName.toList = Text.visible text.toList ∧
      parse (parse text).fullName = parse text := by
  refine ⟨readBytes_eq text.toList, ?_, ?_⟩
  · rw [fullName, String.toList_ofList]
    exact visible_fullChars_ofChars text.toList
  · rw [parse, fullName, String.toList_ofList]
    exact ofChars_fullChars_ofChars text.toList

end TypeRef
end CodeScribe
