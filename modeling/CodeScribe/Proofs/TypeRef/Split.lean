import CodeScribe.Proofs.Text
import CodeScribe.TypeRef

/-! How the text of a reference is cut: where its argument list is closed, and at which commas the list
is divided. -/
namespace CodeScribe

namespace Text
open Character (isBlank)

theorem isBlank_of_head?_trim {c : Char} {cs : List Char} (h : c ∈ (trim cs).head?) :
    isBlank c = false := by
  obtain ⟨back, hback⟩ := trimEnd_isPrefix (trimStart cs)
  have hhead : (trimStart cs).head? = some c := by
    rw [← hback, List.head?_append, show (trimEnd (trimStart cs)).head? = some c from h, Option.some_or]
  have hnot := List.head?_dropWhile_not isBlank cs
  rw [show (cs.dropWhile isBlank).head? = some c from hhead] at hnot
  exact hnot

theorem isBlank_of_getLast?_trim {c : Char} {cs : List Char} (h : c ∈ (trim cs).getLast?) :
    isBlank c = false := by
  have hends : endsIn c (trimEnd (trimStart cs)) = true := beq_iff_eq.mpr h
  exact isBlank_of_endsIn_trimEnd hends

/-- A text with no blank at either end is trimmed. -/
theorem trim_of_ends {cs : List Char} (hhead : ∀ c ∈ cs.head?, isBlank c = false)
    (hlast : ∀ c ∈ cs.getLast?, isBlank c = false) : trim cs = cs := by
  have hstart : trimStart cs = cs := by
    cases cs with
    | nil => rfl
    | cons c cs => exact List.dropWhile_cons_of_neg (by simp [hhead c rfl])
  rw [trim, hstart]
  rcases cs.eq_nil_or_concat' with rfl | ⟨front, c, rfl⟩
  · rfl
  · exact trimEnd_append_singleton front (hlast c List.getLast?_concat)

theorem trim_of_not_blank {cs : List Char} (h : ∀ c ∈ cs, isBlank c = false) : trim cs = cs :=
  trim_of_ends (fun c hc => h c (List.mem_of_mem_head? hc)) fun c hc => h c (List.mem_of_mem_getLast? hc)

theorem trim_trim (cs : List Char) : trim (trim cs) = trim cs :=
  trim_of_ends (fun _ => isBlank_of_head?_trim) fun _ => isBlank_of_getLast?_trim

theorem visible_trim (cs : List Char) : visible (trim cs) = visible cs := by
  rw [trim, visible_trimEnd, visible_trimStart]

end Text

namespace TypeRef

theorem splitLast?_of_not_mem {c : Char} {cs : List Char} (h : c ∉ cs) : splitLast? c cs = none := by
  induction cs with
  | nil => rfl
  | cons d cs ih =>
    rw [List.mem_cons, not_or] at h
    rw [splitLast?, ih h.2, if_neg (Ne.symm h.1)]

theorem splitLast?_append {c : Char} (before : List Char) {after : List Char} (h : c ∉ after) :
    splitLast? c (before ++ c :: after) = some (before, after) := by
  induction before with
  | nil => simp [splitLast?, splitLast?_of_not_mem h]
  | cons d before ih => rw [List.cons_append, splitLast?, ih]

theorem eq_of_splitLast? {c : Char} {cs before after : List Char}
    (h : splitLast? c cs = some (before, after)) : cs = before ++ c :: after := by
  induction cs generalizing before after with
  | nil => cases h
  | cons d cs ih =>
    rw [splitLast?] at h
    split at h
    · next front back hrest =>
      cases h
      rw [ih hrest, List.cons_append]
    · split at h
      · next hd =>
        cases h
        rw [hd, List.nil_append]
      · cases h

/-- The number of open angle brackets behind a character, where `depth` are open in front of it. There is
none when no bracket is open that it could close, or when it is a comma outside of all brackets. -/
def passed? (depth : Nat) (c : Char) : Option Nat :=
  if c = '<' then some (depth + 1)
  else if c = '>' then if depth = 0 then none else some (depth - 1)
  else if c = ',' ∧ depth = 0 then none
  else some depth

/-- The number of open angle brackets behind a text. -/
def level? (depth : Nat) (cs : List Char) : Option Nat := cs.foldlM passed? depth

/-- Texts that are read as one argument: their brackets match, and their commas stand inside of them. -/
def Enclosed (cs : List Char) : Prop := level? 0 cs = some 0

/-- Characters that are no part of the syntax of argument lists. -/
def IsPlain (c : Char) : Prop := c ≠ '<' ∧ c ≠ '>' ∧ c ≠ ','

private theorem isPlain_of_isBlank {c : Char} (h : Character.isBlank c = true) : IsPlain c := by
  refine ⟨?_, ?_, ?_⟩ <;> (rintro rfl; cases h)

theorem passed?_of_isPlain {c : Char} (h : IsPlain c) (depth : Nat) : passed? depth c = some depth := by
  obtain ⟨hopen, hclose, hcomma⟩ := h
  simp [passed?, hopen, hclose, hcomma]

theorem level?_cons (depth : Nat) (c : Char) (cs : List Char) :
    level? depth (c :: cs) = (passed? depth c).bind (level? · cs) := rfl

theorem level?_append (depth : Nat) (xs ys : List Char) :
    level? depth (xs ++ ys) = (level? depth xs).bind (level? · ys) := List.foldlM_append

private theorem level?_singleton (depth : Nat) (c : Char) : level? depth [c] = passed? depth c := by
  simp [level?]

theorem level?_of_plain {cs : List Char} (h : ∀ c ∈ cs, IsPlain c) (depth : Nat) :
    level? depth cs = some depth := by
  induction cs with
  | nil => rfl
  | cons c cs ih =>
    rw [level?_cons, passed?_of_isPlain (h c List.mem_cons_self)]
    exact ih fun d hd => h d (List.mem_cons_of_mem c hd)

/-- Blanks do not matter to brackets and commas. -/
theorem level?_visible (depth : Nat) (cs : List Char) :
    level? depth (Text.visible cs) = level? depth cs := by
  induction cs generalizing depth with
  | nil => rfl
  | cons c cs ih =>
    rw [Text.visible_cons, level?_cons]
    cases hc : Character.isBlank c with
    | true =>
      have hnone : Text.visible [c] = [] := by simp [Text.visible, hc]
      rw [hnone, passed?_of_isPlain (isPlain_of_isBlank hc)]
      exact ih depth
    | false =>
      have hkept : Text.visible [c] = [c] := by simp [Text.visible, hc]
      rw [hkept]
      exact congrArg _ (funext ih)

theorem level?_congr {xs ys : List Char} (h : Text.visible xs = Text.visible ys) (depth : Nat) :
    level? depth xs = level? depth ys := by
  rw [← level?_visible, h, level?_visible]

/-- A character that closes an argument list or divides it. -/
theorem passed?_eq_none {depth : Nat} {c : Char} (h : passed? depth c = none) :
    depth = 0 ∧ (c = '>' ∨ c = ',') := by
  unfold passed? at h
  split at h
  · cases h
  split at h
  · next hclose =>
    split at h
    · next hzero => exact ⟨hzero, .inl hclose⟩
    · cases h
  split at h
  · next hcomma => exact ⟨hcomma.2, .inr hcomma.1⟩
  · cases h

/-- What a reader of arguments does with a character that closes no list and divides none. -/
theorem closeArguments?_cons {depth after : Nat} {c : Char} (h : passed? depth c = some after)
    (current rest : List Char) :
    closeArguments? (depth + 1) current (c :: rest) = closeArguments? (after + 1) (c :: current) rest := by
  unfold passed? at h
  rw [closeArguments?]
  split at h
  · next hopen =>
    cases h
    rw [if_pos hopen]
  next hopen =>
  rw [if_neg hopen]
  split at h
  · next hclose =>
    rw [Option.ite_none_left_eq_some] at h
    obtain ⟨hpos, hafter⟩ := h
    cases hafter
    rw [if_pos hclose, if_neg (by omega)]
    congr 1
    omega
  next hclose =>
  rw [if_neg hclose]
  split at h
  · cases h
  next hcomma =>
  cases h
  rw [if_neg fun hc => hcomma ⟨hc.1, by omega⟩]

/-- A text that closes no list and divides none is read to its end. -/
private theorem closeArguments?_append {depth after : Nat} {text : List Char}
    (h : level? depth text = some after) (current rest : List Char) :
    closeArguments? (depth + 1) current (text ++ rest) =
      closeArguments? (after + 1) (text.reverse ++ current) rest := by
  induction text generalizing depth current with
  | nil =>
    cases h
    rfl
  | cons c text ih =>
    rw [level?_cons, Option.bind_eq_some_iff] at h
    obtain ⟨next, hnext, htext⟩ := h
    rw [List.cons_append, closeArguments?_cons hnext, ih htext, List.reverse_cons, List.append_assoc,
      List.singleton_append]

/-- Enclosed texts, joined and followed by a closing bracket, are found as the arguments. -/
theorem closeArguments?_join {a : List Char} {arguments : List (List Char)}
    (henclosed : ∀ b ∈ a :: arguments, Enclosed b) (htrim : ∀ b ∈ arguments, Text.trim b = b)
    (current : List Char) (hcurrent : Text.trim (current.reverse ++ a) = a) (suffix : List Char) :
    closeArguments? 1 current (Text.join ", ".toList (a :: arguments) ++ '>' :: suffix) =
      some (a :: arguments, suffix) := by
  obtain ⟨ha, hrest⟩ := List.forall_mem_cons.mp henclosed
  induction arguments generalizing a current with
  | nil =>
    rw [Text.join_singleton, closeArguments?_append ha, closeArguments?]
    simp [hcurrent]
  | cons b arguments ih =>
    obtain ⟨hb, hmore⟩ := List.forall_mem_cons.mp htrim
    have hjoin : Text.join ", ".toList (a :: b :: arguments) =
        a ++ ',' :: ' ' :: Text.join ", ".toList (b :: arguments) := by
      rw [Text.join_cons (List.cons_ne_nil b arguments), List.append_assoc]
      rfl
    have hblank : Text.trim ([' '].reverse ++ b) = b := hb
    rw [hjoin, List.append_assoc, closeArguments?_append ha, List.cons_append, closeArguments?]
    simp only [Char.reduceEq, and_self, if_true, if_false]
    rw [List.cons_append, closeArguments?_cons (passed?_of_isPlain (isPlain_of_isBlank rfl) 0),
      ih hrest hmore [' '] hblank (hrest b List.mem_cons_self) fun c hc => hrest c (List.mem_cons_of_mem b hc)]
    simp [hcurrent]

/-- What a reader of arguments has found: texts that are trimmed and enclosed, up to the bracket that
closes their list, and all that can be seen in front of it but the commas between them. -/
theorem closeArguments?_found {depth : Nat} {current rest suffix : List Char}
    {arguments : List (List Char)} (h : closeArguments? (depth + 1) current rest = some (arguments, suffix))
    (hlevel : level? 0 current.reverse = some depth) :
    arguments ≠ [] ∧ (∀ a ∈ arguments, Enclosed a ∧ Text.trim a = a) ∧
      ∃ inner, rest = inner ++ '>' :: suffix ∧
        Text.visible (Text.join ", ".toList arguments) = Text.visible (current.reverse ++ inner) := by
  induction rest generalizing depth current arguments with
  | nil => cases h
  | cons c rest ih =>
    cases hc : passed? depth c with
    | some next =>
      rw [closeArguments?_cons hc] at h
      have hnext : level? 0 (c :: current).reverse = some next := by
        rw [List.reverse_cons, level?_append, hlevel, ← hc, ← level?_singleton]
        rfl
      obtain ⟨hne, hall, inner, rfl, hinner⟩ := ih h hnext
      refine ⟨hne, hall, c :: inner, rfl, ?_⟩
      rw [hinner, List.reverse_cons, List.append_assoc, List.singleton_append]
    | none =>
      have hcurrent : Enclosed (Text.trim current.reverse) ∧
          Text.trim (Text.trim current.reverse) = Text.trim current.reverse := by
        refine ⟨?_, Text.trim_trim _⟩
        rw [Enclosed, level?_congr (Text.visible_trim _), hlevel, (passed?_eq_none hc).1]
      obtain ⟨rfl, rfl | rfl⟩ := passed?_eq_none hc
      · rw [closeArguments?] at h
        simp only [Char.reduceEq, if_true, if_false, Nat.zero_add, Nat.le_refl] at h
        cases h
        refine ⟨by simp, by simpa using hcurrent, [], rfl, ?_⟩
        simp [Text.join, Text.visible_trim]
      · rw [closeArguments?] at h
        simp only [Char.reduceEq, if_true, if_false, Nat.zero_add, and_self] at h
        rw [Option.map_eq_some_iff] at h
        obtain ⟨⟨more, suffix'⟩, hmore, heq⟩ := h
        cases heq
        have hstart : closeArguments? (0 + 1) [] rest = some (more, suffix') := hmore
        obtain ⟨hne, hall, inner, rfl, hinner⟩ := ih hstart rfl
        refine ⟨by simp, List.forall_mem_cons.mpr ⟨hcurrent, hall⟩, ',' :: inner, rfl, ?_⟩
        calc Text.visible (Text.join ", ".toList (Text.trim current.reverse :: more))
            = Text.visible current.reverse ++ [','] ++ Text.visible inner := by
              rw [Text.join_cons hne, Text.visible_append, Text.visible_append, Text.visible_trim, hinner]
              rfl
          _ = Text.visible (current.reverse ++ ',' :: inner) := by
              rw [Text.visible_append, Text.visible_cons ',' inner, List.append_assoc]
              rfl

theorem splitGeneric?_of_not_mem {text : List Char} (h : '<' ∉ text) : splitGeneric? text = none := by
  have hdrop : text.dropWhile (· ≠ '<') = [] := by
    refine List.dropWhile_eq_nil_iff.mpr fun c hc => ?_
    have hne : c ≠ '<' := fun heq => h (heq ▸ hc)
    simpa using hne
  rw [splitGeneric?, hdrop]

/-- The first opening bracket ends the head. -/
theorem splitGeneric?_append {head : List Char} (h : '<' ∉ head) (rest : List Char) :
    splitGeneric? (head ++ '<' :: rest) =
      (closeArguments? 1 [] rest).map fun (arguments, suffix) => (head, arguments, suffix) := by
  have hhead : ∀ c ∈ head, decide (c ≠ '<') = true := fun c hc =>
    decide_eq_true fun heq => h (heq ▸ hc)
  have htake : (head ++ '<' :: rest).takeWhile (· ≠ '<') = head := by
    rw [List.takeWhile_append_of_pos hhead]
    exact List.append_nil head
  have hdrop : (head ++ '<' :: rest).dropWhile (· ≠ '<') = '<' :: rest := by
    rw [List.dropWhile_append_of_pos hhead]
    rfl
  rw [splitGeneric?, hdrop, htake]

/-- A text in the form in which references are written is cut where it was put together. -/
theorem splitGeneric?_bracketed {head : List Char} (hhead : '<' ∉ head) {arguments : List (List Char)}
    (hne : arguments ≠ []) (harguments : ∀ a ∈ arguments, Enclosed a ∧ Text.trim a = a)
    (suffix : List Char) :
    splitGeneric? (head ++ bracketed arguments ++ suffix) = some (head, arguments, suffix) := by
  obtain ⟨a, rest, rfl⟩ := List.exists_cons_of_ne_nil hne
  have hclose := closeArguments?_join (fun b hb => (harguments b hb).1)
    (fun b hb => (harguments b (List.mem_cons_of_mem a hb)).2) []
    (harguments a List.mem_cons_self).2 suffix
  have hform : head ++ bracketed (a :: rest) ++ suffix =
      head ++ '<' :: (Text.join ", ".toList (a :: rest) ++ '>' :: suffix) := by
    simp [bracketed]
  rw [hform, splitGeneric?_append hhead, hclose]
  rfl

/-- What a text is cut into: a head without an opening bracket, arguments that are trimmed and enclosed,
and all that follows the bracket that closes their list. -/
theorem splitGeneric?_found {text head suffix : List Char} {arguments : List (List Char)}
    (h : splitGeneric? text = some (head, arguments, suffix)) :
    '<' ∉ head ∧ arguments ≠ [] ∧ (∀ a ∈ arguments, Enclosed a ∧ Text.trim a = a) ∧
      ∃ inner, text = head ++ '<' :: (inner ++ '>' :: suffix) ∧
        Text.visible (Text.join ", ".toList arguments) = Text.visible inner := by
  by_cases hmem : '<' ∈ text
  · obtain ⟨front, rest, rfl, hfront⟩ := List.eq_append_cons_of_mem hmem
    rw [splitGeneric?_append hfront, Option.map_eq_some_iff] at h
    obtain ⟨⟨found, back⟩, hclose, heq⟩ := h
    cases heq
    obtain ⟨hne, hall, inner, rfl, hinner⟩ := closeArguments?_found hclose rfl
    exact ⟨hfront, hne, hall, inner, rfl, hinner⟩
  · rw [splitGeneric?_of_not_mem hmem] at h
    cases h

end TypeRef
end CodeScribe
