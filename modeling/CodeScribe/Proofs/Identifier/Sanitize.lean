import CodeScribe.Proofs.Manifest.Checks
import Mathlib.Data.List.Forall2

/-! Identifiers made of any text. What is made passes the check of declared names, although the one looks at
numbers first and the other at letters. -/
namespace CodeScribe.Identifier

/-- A character of a name is a number, or may start a name, or both. -/
theorem isNameStart_of_isNameChar {c : Char} (hc : isNameChar c = true)
    (hnumber : Character.isNumeric c = false) : isNameStart c = true := by
  simpa [isNameChar, isNameStart, isAlphanumeric, hnumber] using hc

private theorem keywords_small : ∀ word ∈ keywords, ∀ c ∈ word.toList, c.isLower = true := by
  have hall : keywords.all (·.toList.all Char.isLower) = true := by decide +kernel
  simpa using hall

private theorem not_mem_keywords_of_mem {name : String} {c : Char} (hc : c ∈ name.toList)
    (hsmall : c.isLower = false) : name ∉ keywords := by
  intro hname
  rw [keywords_small name hname c hc] at hsmall
  cases hsmall

private theorem toList_escapeKeyword (name : String) :
    (escapeKeyword name).toList = if name ∈ keywords then '@' :: name.toList else name.toList := by
  rw [escapeKeyword]
  by_cases hname : name ∈ keywords
  · rw [if_pos (isKeyword_iff.mpr hname), if_pos hname, String.toList_append]
    rfl
  · rw [if_neg (mt isKeyword_iff.mp hname), if_neg hname]

/-- A bare identifier can be declared when it is escaped, whether it is a keyword or not. -/
theorem isDeclarable_escapeKeyword {name : String} (h : IsBareIdentifier name.toList) :
    IsDeclarable (escapeKeyword name) := by
  have htext := toList_escapeKeyword name
  by_cases hname : name ∈ keywords
  · rw [if_pos hname] at htext
    refine ⟨.inr ⟨name.toList, htext, h⟩, not_mem_keywords_of_mem (c := '@') ?_ (by decide)⟩
    rw [htext]
    exact List.mem_cons_self
  · rw [if_neg hname, String.toList_inj] at htext
    rw [htext]
    exact ⟨.inl h, hname⟩

/-- What stands in a name for a character of a text: the same one where it may, and else the replacement. -/
inductive Fits (replacement : Char) : Char → Char → Prop where
  | kept {c : Char} (h : isNameChar c = true) : Fits replacement c c
  | replaced {c : Char} (h : isNameChar c = false) : Fits replacement c replacement

/-- The text with the characters that a name cannot hold replaced. -/
def purge (replacement : Char) (text : List Char) : List Char :=
  text.map fun c => if isNameChar c then c else replacement

private theorem forall₂_fits_purge (replacement : Char) (text : List Char) :
    List.Forall₂ (Fits replacement) text (purge replacement text) := by
  rw [purge, List.forall₂_map_right_iff, List.forall₂_same]
  intro c _
  cases hc : isNameChar c with
  | true => exact .kept hc
  | false => exact .replaced hc

private theorem isNameChar_of_mem_purge {replacement : Char} (h : isNameChar replacement = true)
    {text : List Char} {d : Char} (hd : d ∈ purge replacement text) : isNameChar d = true := by
  obtain ⟨c, -, hc⟩ := List.mem_map.mp hd
  split at hc
  · next hname => rwa [← hc]
  · rwa [← hc]

/-- The characters of a name with an underscore in front of a number. -/
def guardNumber (body : List Char) : List Char :=
  if (body.head?.map Character.isNumeric).getD false then '_' :: body else body

private theorem guardNumber_cons (c : Char) (rest : List Char) :
    guardNumber (c :: rest) = if Character.isNumeric c then '_' :: c :: rest else c :: rest := rfl

private theorem isBareIdentifier_guardNumber {body : List Char} (hne : body ≠ [])
    (hbody : ∀ c ∈ body, isNameChar c = true) : IsBareIdentifier (guardNumber body) := by
  obtain ⟨c, rest, rfl⟩ := List.exists_cons_of_ne_nil hne
  rw [guardNumber_cons]
  split
  · exact ⟨rfl, hbody⟩
  · next hnumber =>
    rw [Bool.not_eq_true] at hnumber
    obtain ⟨hc, hrest⟩ := List.forall_mem_cons.mp hbody
    exact ⟨isNameStart_of_isNameChar hc hnumber, hrest⟩

/-- What comes in front of the characters of a name: an underscore before a number, the verbatim mark before a
keyword, and else nothing. -/
inductive Lead (body : List Char) : List Char → Prop where
  | number {c : Char} {rest : List Char} (hbody : body = c :: rest) (hc : Character.isNumeric c = true) :
      Lead body ['_']
  | keyword (h : String.ofList body ∈ keywords) : Lead body ['@']
  | nothing (hnumber : ∀ c ∈ body.head?, Character.isNumeric c = false)
      (h : String.ofList body ∉ keywords) : Lead body []

private theorem exists_lead_of_guardNumber {body : List Char} (h : guardNumber body = body)
    (hnumber : ∀ c ∈ body.head?, Character.isNumeric c = false) :
    ∃ front, (escapeKeyword (String.ofList (guardNumber body))).toList = front ++ body ∧ Lead body front := by
  rw [toList_escapeKeyword, h, String.toList_ofList]
  by_cases hkeyword : String.ofList body ∈ keywords
  · exact ⟨['@'], if_pos hkeyword, .keyword hkeyword⟩
  · exact ⟨[], if_neg hkeyword, .nothing hnumber hkeyword⟩

private theorem exists_lead (body : List Char) :
    ∃ front, (escapeKeyword (String.ofList (guardNumber body))).toList = front ++ body ∧ Lead body front := by
  cases body with
  | nil => exact exists_lead_of_guardNumber rfl (by simp)
  | cons c rest =>
    cases hc : Character.isNumeric c with
    | true =>
      -- No keyword starts with an underscore, so the mark is not put in front of one.
      have hfree : String.ofList ('_' :: c :: rest) ∉ keywords :=
        not_mem_keywords_of_mem (c := '_') (by simp) rfl
      rw [guardNumber_cons, if_pos hc, toList_escapeKeyword, if_neg hfree, String.toList_ofList]
      exact ⟨['_'], rfl, .number rfl hc⟩
    | false => exact exists_lead_of_guardNumber (by simp [guardNumber_cons, hc]) (by simp [hc])

section
variable {text : String} {replacement : Char}

private theorem sanitize_eq (htext : text ≠ "") (hreplacement : isNameChar replacement = true) :
    sanitize text replacement =
      .ok (escapeKeyword (String.ofList (guardNumber (purge replacement text.toList)))) := by
  rw [sanitize, if_neg (by simpa using htext), if_neg (by simp [hreplacement])]
  rfl

private theorem sanitize_eq_error_iff {e : SanitizeError} : sanitize text replacement = .error e ↔
    text = "" ∧ e = .emptyIdentifier ∨
      text ≠ "" ∧ isNameChar replacement = false ∧ e = .invalidReplacement replacement := by
  by_cases htext : text = ""
  · rw [sanitize, if_pos (by simpa using htext)]
    simpa [htext] using eq_comm
  · cases hreplacement : isNameChar replacement with
    | true => simp [sanitize_eq htext hreplacement, htext]
    | false =>
      rw [sanitize, if_neg (by simpa using htext), if_pos (by simp [hreplacement])]
      simpa [htext] using eq_comm

end

/-- An identifier is refused for the empty text first, and then for a replacement that no name can hold. For
all other texts one is made. It passes the check of a declared name wherever it is declared, and behind one
character at most in front it is the text with the characters replaced that no name can hold. -/
theorem sanitize_declarable (text : String) (replacement : Char) :
    (∀ e, sanitize text replacement = .error e ↔
      text = "" ∧ e = .emptyIdentifier ∨
        text ≠ "" ∧ isNameChar replacement = false ∧ e = .invalidReplacement replacement) ∧
    (text ≠ "" → isNameChar replacement = true → ∃ name, sanitize text replacement = .ok name ∧
      (∀ (c : CheckContext) (kind : String), c.nameError? kind name = none) ∧ IsDeclarable name ∧
      ∃ front body, name.toList = front ++ body ∧ Lead body front ∧
        List.Forall₂ (Fits replacement) text.toList body) := by
  refine ⟨fun e => sanitize_eq_error_iff, fun htext hreplacement => ?_⟩
  have hne : purge replacement text.toList ≠ [] := by simpa [purge] using htext
  have hdeclarable :
      IsDeclarable (escapeKeyword (String.ofList (guardNumber (purge replacement text.toList)))) := by
    apply isDeclarable_escapeKeyword
    rw [String.toList_ofList]
    exact isBareIdentifier_guardNumber hne fun c hc => isNameChar_of_mem_purge hreplacement hc
  obtain ⟨front, hfront, hlead⟩ := exists_lead (purge replacement text.toList)
  refine ⟨_, sanitize_eq htext hreplacement, ?_, hdeclarable, front, _, hfront, hlead,
    forall₂_fits_purge replacement text.toList⟩
  rintro ⟨source, path⟩ kind
  rw [CheckContext.nameError?_eq, Check.verdict_eq_none_iff]
  exact hdeclarable

/-- A keyword that only the replacement makes, and a letter that is a number too with a digit as replacement. -/
theorem sanitize_declarable_hidden :
    sanitize "i-t" 'n' = .ok "@int" ∧ sanitize "Ⅷ-b" '1' = .ok "_Ⅷ1b" ∧
      IsDeclarable "@int" ∧ IsDeclarable "_Ⅷ1b" := by
  have hkeyword : sanitize "i-t" 'n' = .ok "@int" := by decide +kernel
  have hnumber : sanitize "Ⅷ-b" '1' = .ok "_Ⅷ1b" := by decide +kernel
  obtain ⟨name, hname, -, hdeclarable, -⟩ :=
    (sanitize_declarable "i-t" 'n').2 (by decide) (by decide +kernel)
  obtain ⟨other, hother, -, hnumbered, -⟩ :=
    (sanitize_declarable "Ⅷ-b" '1').2 (by decide) (by decide +kernel)
  rw [hkeyword, Except.ok.injEq] at hname
  rw [hnumber, Except.ok.injEq] at hother
  subst hname hother
  exact ⟨hkeyword, hnumber, hdeclarable, hnumbered⟩

end CodeScribe.Identifier
