import CodeScribe.Proofs.Identifier.Words
import Mathlib.Tactic.MkIffOfInductiveProp

/-! Case styles of names of ASCII letters and digits. A name that is in a style already is left as it is, so a
second conversion changes nothing, and each of the two lowercase styles can be made from the other. -/
namespace CodeScribe.Identifier
open Character (isLowercase isUppercase)

/-- What is known of the case of an ASCII letter or digit. It is a capital or small, and each of its two case
mappings is one letter or digit, which is the character itself where there is nothing to change. -/
@[mk_iff]
structure SimpleCase (c : Char) : Prop where
  not_separator : isSeparator c = false
  /-- The one letter whose lowercase depends on what stands around it. -/
  ne_sigma : c ≠ 'Σ'
  capital_or_small : isUppercase c = true ∨ IsSmall c
  not_both : isUppercase c = true → isLowercase c = false
  lower : Character.lower c = [c.toLower]
  upper : Character.upper c = [c.toUpper]
  toLower : c.toLower.isAlphanum = true ∧ isUppercase c.toLower = false
  toUpper : c.toUpper.isAlphanum = true ∧ isLowercase c.toUpper = false
  toLower_of_small : IsSmall c → c.toLower = c
  toUpper_of_not_lower : isLowercase c = false → c.toUpper = c

instance (c : Char) : Decidable (SimpleCase c) := decidable_of_iff _ (simpleCase_iff c).symm

/-- The last of the letters and digits is the small z. -/
private theorem toNat_lt_of_isAlphanum {c : Char} (hc : c.isAlphanum = true) : c.toNat < 128 := by
  have hlast : c.val ≤ 'z'.val := by
    rcases Bool.or_eq_true_iff.mp hc with hletter | hdigit
    · rcases Bool.or_eq_true_iff.mp hletter with hcapital | hsmall
      · exact UInt32.le_trans (of_decide_eq_true hcapital).2 (by decide)
      · exact of_decide_eq_true (Bool.and_eq_true_iff.mp hsmall).2
    · exact UInt32.le_trans (of_decide_eq_true (Bool.and_eq_true_iff.mp hdigit).2) (by decide)
  exact Nat.lt_of_le_of_lt (UInt32.le_iff_toNat_le.mp hlast) (by decide)

/-- The ASCII letters and digits are looked up one by one. -/
private theorem simpleCase {c : Char} (hc : c.isAlphanum = true) : SimpleCase c := by
  have hall : ∀ n < 128, (Char.ofNat n).isAlphanum = true → SimpleCase (Char.ofNat n) := by decide +kernel
  have hlt := toNat_lt_of_isAlphanum hc
  rw [← Char.ofNat_toNat c] at hc ⊢
  exact hall c.toNat hlt hc

private theorem isSmall_toLower {c : Char} (hc : c.isAlphanum = true) : IsSmall c.toLower := by
  obtain ⟨hplain, hlower⟩ := (simpleCase hc).toLower
  exact (simpleCase hplain).capital_or_small.resolve_left (by simp [hlower])

def Plain (cs : List Char) : Prop := ∀ c ∈ cs, c.isAlphanum = true

section
variable {word cs : List Char} {c : Char}

private theorem Plain.append {front back : List Char} (hfront : Plain front) (hback : Plain back) :
    Plain (front ++ back) :=
  fun c hc => (List.mem_append.mp hc).elim (hfront c) (hback c)

private theorem Plain.not_separator (h : Plain cs) : ∀ c ∈ cs, isSeparator c = false :=
  fun c hc => (simpleCase (h c hc)).not_separator

private theorem lowercaseAfter_of_plain (h : Plain word) (before : List Char) :
    Text.lowercaseAfter before word = word.map Char.toLower := by
  induction word generalizing before with
  | nil => rfl
  | cons c word ih =>
    obtain ⟨hc, hword⟩ := List.forall_mem_cons.mp h
    simp only [Text.lowercaseAfter, if_neg (simpleCase hc).ne_sigma, (simpleCase hc).lower, ih hword,
      List.map_cons, List.singleton_append]

private theorem lowercase_of_plain (h : Plain word) : Text.lowercase word = word.map Char.toLower :=
  lowercaseAfter_of_plain h []

private theorem forall_mem_lowercase (h : Plain word) :
    ∀ c ∈ Text.lowercase word, c.isAlphanum = true ∧ isUppercase c = false ∧ IsSmall c := by
  rw [lowercase_of_plain h, List.forall_mem_map]
  intro c hc
  obtain ⟨hplain, hlower⟩ := (simpleCase (h c hc)).toLower
  exact ⟨hplain, hlower, isSmall_toLower (h c hc)⟩

private theorem lowercase_of_small (h : Plain word) (hsmall : ∀ c ∈ word, IsSmall c) :
    Text.lowercase word = word := by
  rw [lowercase_of_plain h, List.map_congr_left fun c hc => (simpleCase (h c hc)).toLower_of_small (hsmall c hc),
    List.map_id']

private theorem capitalize_of_not_isLowercase (hc : c.isAlphanum = true) (hlower : isLowercase c = false)
    (rest : List Char) : Text.capitalize (c :: rest) = c :: rest := by
  rw [Text.capitalize, (simpleCase hc).upper, (simpleCase hc).toUpper_of_not_lower hlower, List.singleton_append]

private theorem words_ofList (cs : List Char) : words (String.ofList cs) = wordsFrom [] cs := by
  rw [words, String.toList_ofList]

private theorem capitalize_of_mem (h : Plain word)
    (hword : ∃ c rest, word = c :: rest ∧ isUppercase c = true) : Text.capitalize word = word := by
  obtain ⟨c, rest, rfl, hcapital⟩ := hword
  have hc := h c List.mem_cons_self
  exact capitalize_of_not_isLowercase hc ((simpleCase hc).not_both hcapital) rest

/-- Where the words after the first one start with capitals, capitalizing them changes nothing. -/
private theorem map_capitalize_of_capitals {texts : List (List Char)} (hplain : ∀ text ∈ texts, Plain text)
    (h : ∀ text ∈ texts, ∃ c rest, text = c :: rest ∧ isUppercase c = true) :
    texts.map Text.capitalize = texts := by
  conv_rhs => rw [← List.map_id texts]
  exact List.map_congr_left fun text htext => capitalize_of_mem (hplain text htext) (h text htext)

private theorem plain_flatten_capitalize {texts : List (List Char)} (h : ∀ text ∈ texts, Plain text) :
    Plain (texts.map Text.capitalize).flatten := by
  intro d hd
  obtain ⟨image, himage, hd⟩ := List.mem_flatten.mp hd
  obtain ⟨text, htext, rfl⟩ := List.mem_map.mp himage
  cases text with
  | nil => cases hd
  | cons c rest =>
    obtain ⟨hc, hrest⟩ := List.forall_mem_cons.mp (h _ htext)
    rw [Text.capitalize, (simpleCase hc).upper, List.singleton_append] at hd
    rcases List.mem_cons.mp hd with rfl | hd
    · exact (simpleCase hc).toUpper.1
    · exact hrest d hd

/-- The words of a plain text without separators, all put together, are the text. -/
theorem flatten_wordsFrom_of_plain {first : List Char} {more : List (List Char)} (h : Plain cs)
    (hwords : wordsFrom [] cs = first :: more) :
    first ++ more.flatten = cs ∧ Plain first ∧ ∀ text ∈ more, Plain text := by
  have hflat := flatten_wordsFrom [] cs
  rw [hwords, List.filter_eq_self.mpr (by simpa using h.not_separator), List.flatten_cons, List.reverse_nil,
    List.nil_append] at hflat
  refine ⟨hflat, fun c hc => h c ?_, fun text htext c hc => h c ?_⟩
  · rw [← hflat]
    exact List.mem_append_left _ hc
  · rw [← hflat]
    exact List.mem_append_right _ (List.mem_flatten.mpr ⟨text, htext, hc⟩)

/-- A text without separators that starts with no small letter has every word capitalized. -/
theorem pascalCase_of_capital (h : Plain (c :: cs)) (hc : isLowercase c = false) :
    pascalCase (String.ofList (c :: cs)) = String.ofList (c :: cs) := by
  obtain ⟨hplain, hcs⟩ := List.forall_mem_cons.mp h
  obtain ⟨front, more, hwords, hmore, -⟩ :=
    exists_wordsFrom (List.cons_ne_nil c []) (Plain.not_separator hcs)
  have hall : wordsFrom [] (c :: cs) = (c :: front) :: more := by
    rw [wordsFrom_cons, (simpleCase hplain).not_separator]
    exact hwords
  obtain ⟨hflat, -, hothers⟩ := flatten_wordsFrom_of_plain h hall
  rw [pascalCase, words_ofList, hall, List.map_cons, capitalize_of_not_isLowercase hplain hc,
    map_capitalize_of_capitals hothers hmore, List.flatten_cons, hflat]

/-- A text without separators has a small first word when it starts small, and the others are capitalized. -/
theorem camelCase_of_small (hne : word ≠ []) (hword : Plain word) (hcs : Plain cs)
    (hsmall : ∀ c ∈ word, isUppercase c = false ∧ IsSmall c) :
    camelCase (String.ofList (word ++ cs)) = String.ofList (word ++ cs) := by
  have hcapital : ∀ c ∈ cs, isUppercase c = true ∨ IsSmall c :=
    fun c hc => (simpleCase (hcs c hc)).capital_or_small
  -- All of the small word is open when the rest of the text is read, so the first word goes on from it.
  have hopen : word.reverse ≠ [] := by simpa using hne
  obtain ⟨front, more, hwords, hmore, hfront⟩ := exists_wordsFrom hopen hcs.not_separator
  have hall : wordsFrom [] (word ++ cs) = (word ++ front) :: more := by
    rw [wordsFrom_append fun c hc => ⟨hword.not_separator c hc, (hsmall c hc).1⟩, List.append_nil, hwords,
      List.reverse_reverse]
  obtain ⟨hflat, hfirst, hothers⟩ := flatten_wordsFrom_of_plain (hword.append hcs) hall
  have hlower : ∀ c ∈ word ++ front, IsSmall c := by
    have hrest := hfront (by simpa using fun c hc => (hsmall c hc).2) hcapital
    exact fun c hc => (List.mem_append.mp hc).elim (fun hc => (hsmall c hc).2) (hrest c)
  rw [camelCase, words_ofList, hall]
  simp only [lowercase_of_small hfirst hlower, map_capitalize_of_capitals hothers hmore, hflat]

end

section
variable {text : String} (h : ∀ c ∈ text.toList, c.isAlphanum = true ∨ isSeparator c = true)
include h

private theorem plain_of_mem_words : ∀ word ∈ words text, Plain word := by
  intro word hword c hc
  obtain ⟨hmem, hseparator⟩ := mem_of_mem_words hword hc
  exact (h c hmem).resolve_right (by simp [hseparator])

private theorem pascalCase_pascalCase : pascalCase (pascalCase text) = pascalCase text := by
  have hplain := plain_of_mem_words h
  cases hwords : words text with
  | nil =>
    rw [pascalCase, pascalCase, hwords]
    rfl
  | cons first rest =>
    have hne : first ≠ [] := ne_nil_of_mem_wordsFrom (hwords ▸ List.mem_cons_self)
    obtain ⟨c, word, rfl⟩ := List.exists_cons_of_ne_nil hne
    rw [hwords] at hplain
    obtain ⟨hfirst, hrest⟩ := List.forall_mem_cons.mp hplain
    obtain ⟨hc, hword⟩ := List.forall_mem_cons.mp hfirst
    obtain ⟨htall, hlower⟩ := (simpleCase hc).toUpper
    have htext : pascalCase text =
        String.ofList (c.toUpper :: (word ++ (rest.map Text.capitalize).flatten)) := by
      rw [pascalCase, hwords, List.map_cons, Text.capitalize, (simpleCase hc).upper]
      rfl
    rw [htext]
    exact pascalCase_of_capital
      (List.forall_mem_cons.mpr ⟨htall, Plain.append hword (plain_flatten_capitalize hrest)⟩) hlower

private theorem camelCase_camelCase : camelCase (camelCase text) = camelCase text := by
  have hplain := plain_of_mem_words h
  cases hwords : words text with
  | nil =>
    rw [camelCase, camelCase, hwords]
    rfl
  | cons first rest =>
    have hne : first ≠ [] := ne_nil_of_mem_wordsFrom (hwords ▸ List.mem_cons_self)
    rw [hwords] at hplain
    obtain ⟨hfirst, hrest⟩ := List.forall_mem_cons.mp hplain
    have hlower := forall_mem_lowercase hfirst
    have htext : camelCase text =
        String.ofList (Text.lowercase first ++ (rest.map Text.capitalize).flatten) := by
      rw [camelCase, hwords]
    rw [htext]
    exact camelCase_of_small (by simpa [lowercase_of_plain hfirst] using hne) (fun c hc => (hlower c hc).1)
      (plain_flatten_capitalize hrest) fun c hc => (hlower c hc).2

/-- The words of a name in a lowercase style are its words in lowercase. -/
theorem words_lowerJoined {separator : Char} (hseparator : isSeparator separator = true) :
    words (lowerJoined separator text) = (words text).map Text.lowercase := by
  have hplain := plain_of_mem_words h
  rw [lowerJoined, words_ofList]
  refine wordsFrom_join hseparator ?_ ?_
  · rw [List.forall_mem_map]
    intro word hword
    simpa [lowercase_of_plain (hplain word hword)] using ne_nil_of_mem_wordsFrom hword
  · rw [List.forall_mem_map]
    intro word hword c hc
    obtain ⟨hc, hupper, -⟩ := forall_mem_lowercase (hplain word hword) c hc
    exact ⟨(simpleCase hc).not_separator, hupper⟩

/-- From a lowercase style to any other, the name itself need not be known. -/
theorem lowerJoined_lowerJoined {separator : Char} (hseparator : isSeparator separator = true)
    (other : Char) : lowerJoined other (lowerJoined separator text) = lowerJoined other text := by
  have hplain := plain_of_mem_words h
  have hagain : ∀ word ∈ words text, (Text.lowercase ∘ Text.lowercase) word = Text.lowercase word := by
    intro word hword
    have hlower := forall_mem_lowercase (hplain word hword)
    exact lowercase_of_small (fun c hc => (hlower c hc).1) fun c hc => (hlower c hc).2.2
  rw [lowerJoined, words_lowerJoined h hseparator, List.map_map, List.map_congr_left hagain, lowerJoined]

end

/-- The words of a text are not empty, hold no separator, and are its other characters in order. For a text of
ASCII letters, digits and separators each of the four styles is settled after one conversion, and the two
lowercase styles have the same words and give each other. -/
theorem styles_settle (text : String) :
    ((∀ word ∈ words text, word ≠ [] ∧ ∀ c ∈ word, isSeparator c = false) ∧
      (words text).flatten = text.toList.filter (!isSeparator ·)) ∧
    ((∀ c ∈ text.toList, c.isAlphanum = true ∨ isSeparator c = true) →
      pascalCase (pascalCase text) = pascalCase text ∧
      camelCase (camelCase text) = camelCase text ∧
      snakeCase (snakeCase text) = snakeCase text ∧
      kebabCase (kebabCase text) = kebabCase text ∧
      words (kebabCase text) = words (snakeCase text) ∧
      snakeCase (kebabCase text) = snakeCase text ∧
      kebabCase (snakeCase text) = kebabCase text) := by
  refine ⟨⟨fun word hword => ⟨ne_nil_of_mem_wordsFrom hword, fun c hc => (mem_of_mem_words hword hc).2⟩,
    flatten_words text⟩, fun h => ?_⟩
  have hsnake : isSeparator '_' = true := rfl
  have hkebab : isSeparator '-' = true := rfl
  exact ⟨pascalCase_pascalCase h, camelCase_camelCase h, lowerJoined_lowerJoined h hsnake '_',
    lowerJoined_lowerJoined h hkebab '-', (words_lowerJoined h hkebab).trans (words_lowerJoined h hsnake).symm,
    lowerJoined_lowerJoined h hkebab '_', lowerJoined_lowerJoined h hsnake '-'⟩

/-- An acronym before a word, digits between separators and capitals, and separators at both ends. -/
theorem styles_settle_acronym :
    words "-HTTPServer_2fa v2Api." = ["HTTP".toList, "Server".toList, "2fa".toList, "v2".toList, "Api".toList] ∧
    pascalCase (pascalCase "-HTTPServer_2fa v2Api.") = "HTTPServer2faV2Api" ∧
    camelCase (camelCase "-HTTPServer_2fa v2Api.") = "httpServer2faV2Api" ∧
    snakeCase (kebabCase "-HTTPServer_2fa v2Api.") = "http_server_2fa_v2_api" := by
  have hpascal : pascalCase "-HTTPServer_2fa v2Api." = "HTTPServer2faV2Api" := by decide +kernel
  have hcamel : camelCase "-HTTPServer_2fa v2Api." = "httpServer2faV2Api" := by decide +kernel
  have hsnake : snakeCase "-HTTPServer_2fa v2Api." = "http_server_2fa_v2_api" := by decide +kernel
  have hall : "-HTTPServer_2fa v2Api.".toList.all (fun c => c.isAlphanum || isSeparator c) = true := by
    decide +kernel
  obtain ⟨hpascals, hcamels, -, -, -, hkebab, -⟩ := (styles_settle "-HTTPServer_2fa v2Api.").2
    fun c hc => Bool.or_eq_true_iff.mp (List.all_eq_true.mp hall c hc)
  exact ⟨by decide +kernel, hpascals.trans hpascal, hcamels.trans hcamel, hkebab.trans hsnake⟩

end CodeScribe.Identifier
