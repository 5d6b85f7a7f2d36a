import CodeScribe.Text.Basic
import Mathlib.Data.List.DropRight

/-! Facts about texts that the proofs share: their runs and ends, their visible characters, and cuts at
separators and at byte positions. -/
namespace CodeScribe.Text
open Character (isBlank)

section
variable {α : Type} {p : α → Bool} {xs ys : List α} {x y : α}

theorem takeWhile_run (hxs : xs.all p = true) (hy : p y = false) : (xs ++ y :: ys).takeWhile p = xs := by
  rw [List.takeWhile_append_of_pos (List.all_eq_true.mp hxs), List.takeWhile_cons_of_neg (by simp [hy]),
    List.append_nil]

theorem dropWhile_run (hxs : xs.all p = true) (hy : p y = false) :
    (xs ++ y :: ys).dropWhile p = y :: ys := by
  rw [List.dropWhile_append_of_pos (List.all_eq_true.mp hxs), List.dropWhile_cons_of_neg (by simp [hy])]

/-- A run of a class ends at the first element outside the class, so a list has one at its front only. -/
theorem run_inj {xs' ys' : List α} (hxs : xs.all p = true) (hx : p x = false) (hxs' : xs'.all p = true)
    (hy : p y = false) (h : xs ++ x :: ys = xs' ++ y :: ys') : xs = xs' ∧ x :: ys = y :: ys' := by
  have htake := congrArg (List.takeWhile p) h
  have hdrop := congrArg (List.dropWhile p) h
  rw [takeWhile_run hxs hx, takeWhile_run hxs' hy] at htake
  rw [dropWhile_run hxs hx, dropWhile_run hxs' hy] at hdrop
  exact ⟨htake, hdrop⟩

end

theorem endsIn_append {c : Char} {xs ys : List Char} (h : ys ≠ []) :
    endsIn c (xs ++ ys) = endsIn c ys := by
  simp [endsIn, List.getLast?_append, List.getLast?_eq_some_getLast h]

theorem endsIn_iff {c : Char} {cs : List Char} : endsIn c cs = true ↔ ∃ front, cs = front ++ [c] := by
  constructor
  · intro h
    rw [endsIn, beq_iff_eq] at h
    exact ⟨cs.dropLast, (List.dropLast_append_getLast? c h).symm⟩
  · rintro ⟨front, rfl⟩
    simp [endsIn]

theorem endsIn_of_not_mem {c : Char} {cs : List Char} (h : c ∉ cs) : endsIn c cs = false := by
  rw [Bool.eq_false_iff]
  intro hend
  obtain ⟨front, rfl⟩ := endsIn_iff.mp hend
  simp at h

theorem exists_concat_of_not_endsIn {c : Char} {cs : List Char} (hne : cs ≠ [])
    (h : endsIn c cs = false) : ∃ front d, cs = front ++ [d] ∧ d ≠ c := by
  refine ⟨cs.dropLast, cs.getLast hne, (List.dropLast_append_getLast hne).symm, ?_⟩
  rintro rfl
  rw [endsIn_iff.mpr ⟨cs.dropLast, (List.dropLast_append_getLast hne).symm⟩] at h
  exact Bool.noConfusion h

@[simp] theorem chop_concat (c : Char) (cs : List Char) : chop c (cs ++ [c]) = cs := by
  simp [chop, endsIn]

theorem chop_of_not_endsIn {c : Char} {cs : List Char} (h : endsIn c cs = false) : chop c cs = cs := by
  simp [chop, h]

theorem chop_of_not_mem {c : Char} {cs : List Char} (h : c ∉ cs) : chop c cs = cs :=
  chop_of_not_endsIn (endsIn_of_not_mem h)

/-- What is left of a text, and the character that is dropped from its end, if one is. -/
theorem chop_cases (c : Char) (cs : List Char) :
    (endsIn c cs = false ∧ chop c cs = cs) ∨ cs = chop c cs ++ [c] := by
  unfold chop
  by_cases h : endsIn c cs = true
  · obtain ⟨front, rfl⟩ := endsIn_iff.mp h
    right
    simp [h]
  · left
    simp [h]

theorem chop_isPrefix (c : Char) (cs : List Char) : chop c cs <+: cs := by
  rcases chop_cases c cs with ⟨_, h⟩ | h
  · simp [h]
  · exact ⟨[c], h.symm⟩

/-- The code points of the blank characters. -/
def blankCodes : List Nat := [
  9, 10, 11, 12, 13, 32, 0x85, 0xa0, 0x1680, 0x2000, 0x2001, 0x2002, 0x2003, 0x2004, 0x2005, 0x2006,
  0x2007, 0x2008, 0x2009, 0x200a, 0x2028, 0x2029, 0x202f, 0x205f, 0x3000]

private theorem toNat_mem_blankCodes {c : Char} (h : isBlank c = true) : c.toNat ∈ blankCodes := by
  unfold isBlank at h
  split at h
  · have hcases : c = ' ' ∨ 9 ≤ c.toNat ∧ c.toNat ≤ 13 := by
      simpa [UInt32.le_iff_toNat_le] using h
    rcases hcases with rfl | hc
    · decide
    · simp only [blankCodes, List.mem_cons]
      omega
  · simp only [Character.Run.member, Character.blankRuns, Character.Run.contains, Nat.mod_one,
      List.any_cons, List.any_nil, Bool.or_eq_true, Bool.and_eq_true, decide_eq_true_eq, BEq.rfl,
      and_true, Bool.false_eq_true, or_false] at h
    simp only [blankCodes, List.mem_cons]
    omega

/-- The characters of a class are seen when no blank one is in it. -/
theorem isBlank_of_class {p : Char → Bool} (h : ∀ n ∈ blankCodes, p (Char.ofNat n) = false) {c : Char}
    (hc : p c = true) : isBlank c = false := by
  rw [Bool.eq_false_iff]
  intro hblank
  have hnone := h c.toNat (toNat_mem_blankCodes hblank)
  rw [Char.ofNat_toNat, hc] at hnone
  cases hnone

theorem trimEnd_isPrefix (cs : List Char) : trimEnd cs <+: cs := List.rdropWhile_prefix _ _

/-- The characters of a text that can be seen, in order. -/
def visible (cs : List Char) : List Char := cs.filter (!isBlank ·)

@[simp] theorem visible_nil : visible [] = [] := rfl

@[simp] theorem visible_append (xs ys : List Char) : visible (xs ++ ys) = visible xs ++ visible ys :=
  List.filter_append ..

theorem visible_cons (c : Char) (cs : List Char) : visible (c :: cs) = visible [c] ++ visible cs :=
  visible_append [c] cs

/-- Texts that show the same one by one show the same in a row. -/
theorem visible_flatMap {α : Type} {f g : α → List Char} (h : ∀ x, visible (f x) = visible (g x))
    (xs : List α) : visible (xs.flatMap f) = visible (xs.flatMap g) := by
  rw [visible, visible, List.filter_flatMap, List.filter_flatMap]
  exact congrArg (xs.flatMap ·) (funext h)

theorem allBlank_iff {cs : List Char} : allBlank cs = true ↔ visible cs = [] := by
  simp [visible, allBlank]

theorem allBlank_congr {xs ys : List Char} (h : visible xs = visible ys) : allBlank xs = allBlank ys := by
  rw [Bool.eq_iff_iff, allBlank_iff, allBlank_iff, h]

theorem visible_chop {c : Char} (hc : isBlank c = true) (cs : List Char) :
    visible (chop c cs) = visible cs := by
  rcases chop_cases c cs with ⟨_, h⟩ | h
  · rw [h]
  · conv_rhs => rw [h]
    simp [visible, hc]

theorem visible_chopLineEnd (cs : List Char) : visible (chopLineEnd cs) = visible cs := by
  unfold chopLineEnd
  split
  · next h =>
    obtain ⟨front, rfl⟩ := endsIn_iff.mp h
    rw [List.dropLast_concat, visible_chop rfl]
    simp [visible, show isBlank '\n' = true from rfl]
  · rfl

private theorem visible_dropWhile (cs : List Char) : visible (cs.dropWhile isBlank) = visible cs := by
  induction cs with
  | nil => rfl
  | cons c cs ih =>
    rw [List.dropWhile_cons]
    split
    · next h => rw [ih, visible_cons c cs]; simp [visible, h]
    · rfl

theorem visible_trimStart (cs : List Char) : visible (trimStart cs) = visible cs :=
  visible_dropWhile cs

theorem visible_trimEnd (cs : List Char) : visible (trimEnd cs) = visible cs := by
  have h := congrArg List.reverse (visible_dropWhile cs.reverse)
  simpa [visible, trimEnd, List.filter_reverse] using h

theorem isEmpty_trimEnd (cs : List Char) : (trimEnd cs).isEmpty = allBlank cs := by
  rw [Bool.eq_iff_iff]
  simp [trimEnd, allBlank]

/-- Blank text at the end goes, and other text at the end protects what is in front of it. -/
theorem trimEnd_append (xs ys : List Char) :
    trimEnd (xs ++ ys) = if allBlank ys then trimEnd xs else xs ++ trimEnd ys := by
  rw [← isEmpty_trimEnd]
  unfold trimEnd
  rw [List.reverse_append, List.dropWhile_append, List.isEmpty_reverse]
  split
  · rfl
  · rw [List.reverse_append, List.reverse_reverse]

theorem trimEnd_append_singleton (cs : List Char) {c : Char} (h : isBlank c = false) :
    trimEnd (cs ++ [c]) = cs ++ [c] :=
  List.rdropWhile_concat_neg _ _ _ (by simp [h])

theorem trimStart_append {xs : List Char} (h : allBlank xs = true) (ys : List Char) :
    trimStart (xs ++ ys) = trimStart ys :=
  List.dropWhile_append_of_pos (List.all_eq_true.mp h)

theorem trimEnd_of_allBlank {cs : List Char} (h : allBlank cs = true) : trimEnd cs = [] := by
  have htrim := trimEnd_append [] cs
  rwa [if_pos h] at htrim

theorem trimEnd_cons_of_seen {c : Char} (h : isBlank c = false) (cs : List Char) :
    trimEnd (c :: cs) = c :: trimEnd cs := by
  have hcons := trimEnd_append [c] cs
  split at hcons
  · next hblank =>
    rw [← List.singleton_append, hcons, trimEnd_of_allBlank hblank]
    exact trimEnd_append_singleton [] h
  · exact hcons

theorem trimStart_trimEnd (cs : List Char) : trimStart (trimEnd cs) = trimEnd (trimStart cs) := by
  induction cs with
  | nil => rfl
  | cons c cs ih =>
    cases hc : isBlank c with
    | false =>
      rw [trimEnd_cons_of_seen hc]
      simp [trimStart, hc, trimEnd_cons_of_seen hc]
    | true =>
      have hstart : trimStart (c :: cs) = trimStart cs := by simp [trimStart, hc]
      rw [hstart, ← ih, ← List.singleton_append, trimEnd_append]
      split
      · next hblank =>
        rw [trimEnd_of_allBlank hblank, trimEnd_of_allBlank (by simp [allBlank, hc])]
      · exact trimStart_append (by simp [allBlank, hc]) _

theorem isBlank_of_endsIn_trimEnd {c : Char} {cs : List Char} (h : endsIn c (trimEnd cs) = true) :
    isBlank c = false := by
  obtain ⟨front, hfront⟩ := endsIn_iff.mp h
  have hne : cs.rdropWhile isBlank ≠ [] := by
    change trimEnd cs ≠ []
    simp [hfront]
  have hlast := List.rdropWhile_last_not isBlank cs hne
  have hc : (cs.rdropWhile isBlank).getLast hne = c := by
    have hsome := List.getLast?_eq_some_getLast hne
    change (trimEnd cs).getLast? = _ at hsome
    rw [hfront] at hsome
    simpa using hsome.symm
  rwa [hc, Bool.not_eq_true] at hlast

theorem pieces_eq_splitOn (c : Char) (cs : List Char) : pieces c cs = cs.splitOn c := by
  induction cs with
  | nil => rfl
  | cons d cs ih =>
    obtain ⟨piece, more, h⟩ := List.exists_cons_of_ne_nil (List.splitOn_ne_nil c cs)
    rw [List.splitOn_cons_eq_if_modifyHead, pieces, ih, h]
    by_cases hd : d = c <;> simp [hd]

theorem pieces_append_cons (c : Char) (xs ys : List Char) :
    pieces c (xs ++ c :: ys) = pieces c xs ++ pieces c ys := by
  simp only [pieces_eq_splitOn, List.splitOn_append_cons_self]

theorem pieces_of_not_mem {c : Char} {cs : List Char} (h : c ∉ cs) : pieces c cs = [cs] := by
  rw [pieces_eq_splitOn, List.splitOn_eq_singleton h]

theorem not_mem_of_mem_pieces {c : Char} {cs piece : List Char} (h : piece ∈ pieces c cs) :
    c ∉ piece := by
  induction cs generalizing piece with
  | nil => simp_all [pieces]
  | cons d cs ih =>
    obtain ⟨first, more, hp⟩ := List.exists_cons_of_ne_nil (List.splitOn_ne_nil c cs)
    rw [← pieces_eq_splitOn] at hp
    rw [hp] at ih
    by_cases hd : d = c
    · rw [pieces, if_pos hd, hp, List.mem_cons] at h
      rcases h with rfl | h
      · simp
      · exact ih h
    · rw [pieces, if_neg hd, hp, List.mem_cons] at h
      rcases h with rfl | h
      · simp [Ne.symm hd, ih List.mem_cons_self]
      · exact ih (List.mem_cons_of_mem first h)

theorem join_singleton (separator cs : List Char) : join separator [cs] = cs := List.intercalate_singleton

theorem join_cons {separator cs : List Char} {texts : List (List Char)} (h : texts ≠ []) :
    join separator (cs :: texts) = cs ++ separator ++ join separator texts := by
  obtain ⟨next, rest, rfl⟩ := List.exists_cons_of_ne_nil h
  exact List.intercalate_cons_cons

theorem pieces_join (c : Char) {texts : List (List Char)} (h : texts ≠ []) :
    pieces c (join [c] texts) = texts.flatMap (pieces c) := by
  induction texts with
  | nil => exact absurd rfl h
  | cons text rest ih =>
    cases rest with
    | nil => simp [join_singleton]
    | cons next rest =>
      have hne := List.cons_ne_nil next rest
      rw [join_cons hne, List.append_assoc, List.singleton_append, pieces_append_cons, ih hne,
        ← List.flatMap_cons]

theorem pieces_join_of_not_mem {c : Char} {texts : List (List Char)} (hne : texts ≠ [])
    (h : ∀ text ∈ texts, c ∉ text) : pieces c (join [c] texts) = texts := by
  rw [pieces_join c hne]
  conv_rhs => rw [← List.flatMap_singleton' texts]
  exact List.flatMap_congr fun text htext => pieces_of_not_mem (h text htext)

/-- What a text starts with, the first of its pieces starts with. -/
theorem prefix_head_pieces {c : Char} {start cs : List Char} (hc : c ∉ start) (h : start <+: cs) :
    ∃ piece more, pieces c cs = piece :: more ∧ start <+: piece := by
  obtain ⟨rest, rfl⟩ := h
  induction start with
  | nil =>
    obtain ⟨piece, more, h⟩ := List.exists_cons_of_ne_nil (List.splitOn_ne_nil c rest)
    exact ⟨piece, more, by rw [List.nil_append, pieces_eq_splitOn, h], List.nil_prefix⟩
  | cons d start ih =>
    have hd : d ≠ c := by rintro rfl; simp at hc
    obtain ⟨piece, more, hp, hstart⟩ := ih fun hm => hc (List.mem_cons_of_mem d hm)
    refine ⟨d :: piece, more, ?_, List.cons_prefix_cons.mpr ⟨rfl, hstart⟩⟩
    rw [List.cons_append, pieces, if_neg hd, hp]

theorem pieces_subset {c : Char} {cs piece : List Char} (h : piece ∈ pieces c cs) : piece ⊆ cs := by
  induction cs generalizing piece with
  | nil =>
    rw [pieces, List.mem_singleton] at h
    exact h ▸ List.Subset.refl []
  | cons d cs ih =>
    obtain ⟨first, more, hp, -⟩ := prefix_head_pieces (c := c) (by simp) cs.nil_prefix
    have hfirst : first ⊆ cs := ih (by simp [hp])
    have hmore : ∀ text ∈ more, text ⊆ cs := fun text hm => ih (by simp [hp, hm])
    rw [pieces, hp] at h
    split at h
    · rcases List.mem_cons.mp h with rfl | h
      · exact List.nil_subset _
      · rcases List.mem_cons.mp h with rfl | h
        · exact List.subset_cons_of_subset d hfirst
        · exact List.subset_cons_of_subset d (hmore piece h)
    · rcases List.mem_cons.mp h with rfl | h
      · exact List.cons_subset_cons d hfirst
      · exact List.subset_cons_of_subset d (hmore piece h)

/-- A cut behind a text finds the text and what follows it. -/
theorem splitAtByte?_byteLength (xs ys : List Char) :
    splitAtByte? (byteLength xs) (xs ++ ys) = some (xs, ys) := by
  induction xs with
  | nil => simp [byteLength, splitAtByte?]
  | cons c xs ih =>
    have hpos : 0 < c.utf8Size := c.utf8Size_pos
    obtain ⟨n, hn⟩ : ∃ n, byteLength (c :: xs) = n + 1 :=
      ⟨byteLength (c :: xs) - 1, by simp only [byteLength]; omega⟩
    have hle : c.utf8Size ≤ n + 1 := by simp only [byteLength] at hn; omega
    have hrest : n + 1 - c.utf8Size = byteLength xs := by simp only [byteLength] at hn; omega
    rw [hn, List.cons_append, splitAtByte?, if_pos hle, hrest, ih]
    rfl

private theorem splitAtByte?_eq_some_iff {n : Nat} {cs before after : List Char} :
    splitAtByte? n cs = some (before, after) ↔ cs = before ++ after ∧ n = byteLength before := by
  constructor
  · intro h
    induction cs generalizing n before after with
    | nil => cases n <;> simp_all [splitAtByte?, byteLength]
    | cons c cs ih =>
      cases n with
      | zero => simp_all [splitAtByte?, byteLength]
      | succ n =>
        simp only [splitAtByte?, Option.ite_none_right_eq_some, Option.map_eq_some_iff] at h
        obtain ⟨hle, ⟨front, back⟩, hrest, heq⟩ := h
        cases heq
        obtain ⟨rfl, hfront⟩ := ih hrest
        exact ⟨rfl, by simp only [byteLength]; omega⟩
  · rintro ⟨rfl, rfl⟩
    exact splitAtByte?_byteLength before after

/-- A slice has its place in the text, and the range says where. -/
theorem slice?_eq_some_iff {start stop : Nat} {cs part : List Char} :
    slice? start stop cs = some part ↔
      ∃ before after, cs = before ++ part ++ after ∧ start = byteLength before ∧
        stop = byteLength (before ++ part) := by
  constructor
  · intro h
    simp only [slice?, Option.ite_none_right_eq_some, Option.bind_eq_some_iff,
      Option.map_eq_some_iff] at h
    obtain ⟨-, ⟨head, after⟩, hstop, ⟨before, back⟩, hstart, rfl⟩ := h
    obtain ⟨rfl, rfl⟩ := splitAtByte?_eq_some_iff.mp hstop
    obtain ⟨hhead, rfl⟩ := splitAtByte?_eq_some_iff.mp hstart
    dsimp only at hhead
    rw [hhead]
    exact ⟨before, after, rfl, rfl, rfl⟩
  · rintro ⟨before, after, rfl, rfl, rfl⟩
    rw [slice?, if_pos (by rw [byteLength_append]; omega), splitAtByte?_byteLength]
    simp [splitAtByte?_byteLength]

theorem slice?_subset {start stop : Nat} {cs part : List Char}
    (h : slice? start stop cs = some part) : part ⊆ cs := by
  obtain ⟨before, after, rfl, -, -⟩ := slice?_eq_some_iff.mp h
  intro c hc
  simp [hc]

theorem slice?_suffix (xs ys : List Char) :
    slice? (byteLength xs) (byteLength (xs ++ ys)) (xs ++ ys) = some ys :=
  slice?_eq_some_iff.mpr ⟨xs, [], by simp, rfl, rfl⟩

/-- A byte position between two characters, or at an end of the text. -/
def IsBorder (n : Nat) (cs : List Char) : Prop :=
  ∃ before after, cs = before ++ after ∧ n = byteLength before

/-- Of two texts at the front of a third, the one with no more bytes starts the other. -/
theorem isPrefix_of_byteLength_le {xs ys cs : List Char} (hxs : xs <+: cs) (hys : ys <+: cs)
    (h : byteLength xs ≤ byteLength ys) : xs <+: ys := by
  rcases List.prefix_or_prefix_of_prefix hxs hys with hle | ⟨rest, rfl⟩
  · exact hle
  · have hnil : rest = [] := by
      cases rest with
      | nil => rfl
      | cons c rest =>
        have hpos : 0 < c.utf8Size := c.utf8Size_pos
        simp only [byteLength_append, byteLength] at h
        omega
    simp [hnil]

end CodeScribe.Text
