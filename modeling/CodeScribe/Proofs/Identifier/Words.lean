import CodeScribe.Identifier.Case
import CodeScribe.Proofs.Text

/-! The words of a name. They hold all its characters but the separators, in order. What is joined without
capitals is cut again where it was joined, and in a text without separators only a capital starts a word. -/
namespace CodeScribe.Identifier
open Character (isLowercase isUppercase)

variable {current cs : List Char} {c : Char}

/-- The word that is open, as it ends. -/
def closed (current : List Char) : List (List Char) := if current = [] then [] else [current.reverse]

private theorem closed_of_ne_nil (h : current ≠ []) : closed current = [current.reverse] := if_neg h

private theorem flatten_closed (current : List Char) : (closed current).flatten = current.reverse := by
  cases current <;> simp [closed]

private theorem ne_nil_of_mem_closed {word : List Char} (h : word ∈ closed current) : word ≠ [] := by
  cases current <;> simp_all [closed]

private theorem isUppercase_of_startsWord {after : List Char} (h : startsWord current c after = true) :
    isUppercase c = true := by
  cases current with
  | nil => cases h
  | cons previous before =>
    rw [startsWord, Bool.and_eq_true] at h
    exact h.1

private theorem wordsFrom_nil (current : List Char) : wordsFrom current [] = closed current := by
  cases current <;> rfl

/-- What a character does to the words: it ends the open one, or starts a new one, or goes on with it. -/
theorem wordsFrom_cons (current : List Char) (c : Char) (cs : List Char) : wordsFrom current (c :: cs) =
    if isSeparator c then closed current ++ wordsFrom [] cs
    else if startsWord current c cs then closed current ++ wordsFrom [c] cs
    else wordsFrom (c :: current) cs := by
  cases current <;> rfl

theorem flatten_wordsFrom (current cs : List Char) :
    (wordsFrom current cs).flatten = current.reverse ++ cs.filter (!isSeparator ·) := by
  induction cs generalizing current with
  | nil => rw [wordsFrom_nil, flatten_closed, List.filter_nil, List.append_nil]
  | cons c cs ih =>
    rw [wordsFrom_cons]
    split
    · next hc => simp [ih, flatten_closed, hc]
    · next hc =>
      split
      · simp [ih, flatten_closed, hc]
      · simp [ih, hc]

theorem ne_nil_of_mem_wordsFrom {word : List Char} (h : word ∈ wordsFrom current cs) : word ≠ [] := by
  induction cs generalizing current with
  | nil => exact ne_nil_of_mem_closed (wordsFrom_nil current ▸ h)
  | cons c cs ih =>
    rw [wordsFrom_cons] at h
    split at h
    · exact (List.mem_append.mp h).elim ne_nil_of_mem_closed ih
    · split at h
      · exact (List.mem_append.mp h).elim ne_nil_of_mem_closed ih
      · exact ih h

theorem flatten_words (text : String) : (words text).flatten = text.toList.filter (!isSeparator ·) :=
  flatten_wordsFrom [] text.toList

/-- The characters of the words are those of the text that separate nothing. -/
theorem mem_of_mem_words {text : String} {word : List Char} (hword : word ∈ words text) (hc : c ∈ word) :
    c ∈ text.toList ∧ isSeparator c = false := by
  have hflat : c ∈ (words text).flatten := List.mem_flatten.mpr ⟨word, hword, hc⟩
  simpa [flatten_words] using hflat

/-- Small characters go on with the open word. -/
theorem wordsFrom_append {word : List Char}
    (h : ∀ c ∈ word, isSeparator c = false ∧ isUppercase c = false) (current rest : List Char) :
    wordsFrom current (word ++ rest) = wordsFrom (word.reverse ++ current) rest := by
  induction word generalizing current with
  | nil => rfl
  | cons c word ih =>
    obtain ⟨⟨hc, hsmall⟩, hword⟩ := List.forall_mem_cons.mp h
    have hgoes : startsWord current c (word ++ rest) = false := by
      cases current <;> simp [startsWord, hsmall]
    rw [List.cons_append, wordsFrom_cons, hc, hgoes, if_neg Bool.false_ne_true, if_neg Bool.false_ne_true,
      ih hword, List.reverse_cons, List.append_assoc, List.singleton_append]

section
variable {word : List Char} (hne : word ≠ [])
  (h : ∀ c ∈ word, isSeparator c = false ∧ isUppercase c = false)
include hne h

private theorem wordsFrom_of_small : wordsFrom [] word = [word] := by
  have hrun := wordsFrom_append h [] []
  rwa [List.append_nil, List.append_nil, wordsFrom_nil, closed_of_ne_nil (mt List.reverse_eq_nil_iff.mp hne),
    List.reverse_reverse] at hrun

private theorem wordsFrom_append_separator {separator : Char} (hseparator : isSeparator separator = true)
    (rest : List Char) : wordsFrom [] (word ++ separator :: rest) = word :: wordsFrom [] rest := by
  rw [wordsFrom_append h, wordsFrom_cons, if_pos hseparator, List.append_nil,
    closed_of_ne_nil (mt List.reverse_eq_nil_iff.mp hne), List.reverse_reverse, List.singleton_append]

end

/-- Words without capitals are found again when they are joined by a separator. -/
theorem wordsFrom_join {separator : Char} (hseparator : isSeparator separator = true)
    {texts : List (List Char)} (hne : ∀ text ∈ texts, text ≠ [])
    (h : ∀ text ∈ texts, ∀ c ∈ text, isSeparator c = false ∧ isUppercase c = false) :
    wordsFrom [] (Text.join [separator] texts) = texts := by
  induction texts with
  | nil => rfl
  | cons text rest ih =>
    obtain ⟨htext, hrest⟩ := List.forall_mem_cons.mp h
    obtain ⟨hfirst, hothers⟩ := List.forall_mem_cons.mp hne
    cases rest with
    | nil =>
      rw [Text.join_singleton]
      exact wordsFrom_of_small hfirst htext
    | cons next rest =>
      rw [Text.join_cons (List.cons_ne_nil next rest), List.append_assoc, List.singleton_append,
        wordsFrom_append_separator hfirst htext hseparator, ih hothers hrest]

/-- Small letters, and the digits, after which a capital starts a word as well. -/
def IsSmall (c : Char) : Prop := isLowercase c = true ∨ c.isDigit = true

instance (c : Char) : Decidable (IsSmall c) :=
  inferInstanceAs (Decidable (isLowercase c = true ∨ c.isDigit = true))

private theorem startsWord_of_isSmall {previous : Char} (h : IsSmall previous) (before : List Char) (c : Char)
    (after : List Char) : startsWord (previous :: before) c after = isUppercase c := by
  rcases h with h | h <;> simp [startsWord, h]

/-- A text without separators goes on with the open word, and a capital starts each word after that. Where the
open word is small, it ends before the first capital. -/
theorem exists_wordsFrom (hne : current ≠ []) (h : ∀ c ∈ cs, isSeparator c = false) :
    ∃ front more, wordsFrom current cs = (current.reverse ++ front) :: more ∧
      (∀ word ∈ more, ∃ c rest, word = c :: rest ∧ isUppercase c = true) ∧
      ((∀ c ∈ current, IsSmall c) → (∀ c ∈ cs, isUppercase c = true ∨ IsSmall c) →
        ∀ c ∈ front, IsSmall c) := by
  induction cs generalizing current with
  | nil => exact ⟨[], [], by rw [wordsFrom_nil, closed_of_ne_nil hne, List.append_nil], by simp, by simp⟩
  | cons c cs ih =>
    obtain ⟨hc, hcs⟩ := List.forall_mem_cons.mp h
    rw [wordsFrom_cons, hc, if_neg Bool.false_ne_true]
    split
    · next hstart =>
      obtain ⟨front, more, hwords, hmore, -⟩ := ih (List.cons_ne_nil c []) hcs
      refine ⟨[], ([c].reverse ++ front) :: more, ?_, ?_, by simp⟩
      · rw [closed_of_ne_nil hne, hwords, List.append_nil, List.singleton_append]
      · exact List.forall_mem_cons.mpr ⟨⟨c, front, rfl, isUppercase_of_startsWord hstart⟩, hmore⟩
    · next hgoes =>
      obtain ⟨front, more, hwords, hmore, hfront⟩ := ih (List.cons_ne_nil c current) hcs
      refine ⟨c :: front, more, by rw [hwords]; simp, hmore, fun hcurrent hsmall => ?_⟩
      obtain ⟨hfirst, hothers⟩ := List.forall_mem_cons.mp hsmall
      -- Behind a small character every capital starts a word, so the one that goes on is small as well.
      have hcsmall : IsSmall c := by
        obtain ⟨previous, before, rfl⟩ := List.exists_cons_of_ne_nil hne
        rw [startsWord_of_isSmall (hcurrent previous List.mem_cons_self)] at hgoes
        exact hfirst.resolve_left hgoes
      exact List.forall_mem_cons.mpr
        ⟨hcsmall, hfront (List.forall_mem_cons.mpr ⟨hcsmall, hcurrent⟩) hothers⟩

end CodeScribe.Identifier
