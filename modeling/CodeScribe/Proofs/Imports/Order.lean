import CodeScribe.Import
import Mathlib.Data.Char
import Mathlib.Data.List.Lex
import Mathlib.Data.Prod.Lex

/-! The order of import directives is a linear order of their texts, so that a set of directives has one
sorted list. -/
namespace CodeScribe

namespace Text

private theorem atMost_iff_not_lt (a b : List Char) : atMost a b = true ↔ ¬ b < a := by
  induction a generalizing b with
  | nil => simp [atMost]
  | cons c a ih =>
    cases b with
    | nil => simp [atMost]
    | cons d b =>
      rw [List.cons_lt_cons_iff, atMost]
      by_cases h : c = d
      · simp [h, ih]
      · have hne : ¬ d = c := fun heq => h heq.symm
        simp only [h, hne, if_false, false_and, or_false, decide_eq_true_eq, not_lt]
        exact (lt_iff_le_and_ne (a := c) (b := d)).trans (and_iff_left h)

private theorem atMost_iff (a b : List Char) : atMost a b = true ↔ a ≤ b :=
  (atMost_iff_not_lt a b).trans not_lt

end Text

/-- What directives are compared by: lowercased text first, then the text itself. -/
def directiveKey (name : String) : List Char ×ₗ List Char :=
  toLex (Text.lowercase name.toList, name.toList)

/-- What aliases are compared by: the alias first, then its target. -/
def aliasKey (entry : String × String) : (List Char ×ₗ List Char) ×ₗ (List Char ×ₗ List Char) :=
  toLex (directiveKey entry.1, directiveKey entry.2)

theorem directiveKey_injective : Function.Injective directiveKey := by
  intro a b h
  have htexts := congrArg (fun key => (ofLex key).2) h
  exact String.toList_inj.mp htexts

theorem aliasKey_injective : Function.Injective aliasKey := by
  intro a b h
  have hname := congrArg (fun key => (ofLex key).1) h
  have htarget := congrArg (fun key => (ofLex key).2) h
  exact Prod.ext (directiveKey_injective hname) (directiveKey_injective htarget)

theorem directiveLE_iff (a b : String) : directiveLE a b = true ↔ directiveKey a ≤ directiveKey b := by
  rw [directiveKey, directiveKey, Prod.Lex.toLex_le_toLex, directiveLE]
  dsimp only
  split
  · rename_i h
    simp [h, Text.atMost_iff]
  · rename_i h
    simp [h, Text.atMost_iff, le_iff_lt_or_eq]

theorem aliasLE_iff (a b : String × String) : aliasLE a b = true ↔ aliasKey a ≤ aliasKey b := by
  rw [aliasKey, aliasKey, Prod.Lex.toLex_le_toLex, aliasLE]
  split
  · rename_i h
    simp [h, directiveLE_iff]
  · rename_i h
    have hkey : directiveKey a.1 ≠ directiveKey b.1 := fun heq => h (directiveKey_injective heq)
    simp [hkey, directiveLE_iff, le_iff_lt_or_eq]

section Sorting
variable {α κ : Type} [LinearOrder κ] {key : α → κ} {le : α → α → Bool}

/-- Sorting by a key that tells all elements apart is strict where nothing is repeated. -/
theorem pairwise_mergeSort_of_key (hkey : Function.Injective key)
    (hle : ∀ a b, le a b = true ↔ key a ≤ key b) {xs : List α} (hxs : xs.Nodup) :
    (xs.mergeSort le).Pairwise fun a b => key a < key b := by
  have hsorted : (xs.mergeSort le).Pairwise fun a b => key a ≤ key b := by
    have htrans : ∀ a b c, le a b = true → le b c = true → le a c = true := by
      simpa only [hle] using fun _ _ _ => le_trans
    have htotal : ∀ a b, (le a b || le b a) = true := by
      simpa only [Bool.or_eq_true, hle] using fun _ _ => le_total _ _
    simpa only [hle] using List.pairwise_mergeSort htrans htotal xs
  have hdistinct : (xs.mergeSort le).Nodup := (List.mergeSort_perm xs le).nodup_iff.mpr hxs
  exact hsorted.imp₂ (fun a b hab hne => lt_of_le_of_ne hab (hkey.ne hne)) hdistinct

/-- A set has one strictly increasing list. -/
theorem eq_of_pairwise_key {xs ys : List α} (hxs : xs.Pairwise fun a b => key a < key b)
    (hys : ys.Pairwise fun a b => key a < key b) (hmem : ∀ x, x ∈ xs ↔ x ∈ ys) : xs = ys := by
  have hdistinct {zs : List α} (hzs : zs.Pairwise fun a b => key a < key b) : zs.Nodup :=
    hzs.imp fun hab heq => hab.ne (congrArg key heq)
  have hperm := (List.perm_ext_iff_of_nodup (hdistinct hxs) (hdistinct hys)).mpr hmem
  exact hperm.eq_of_pairwise (fun a b _ _ hab hba => absurd hba hab.asymm) hxs hys

end Sorting

end CodeScribe
