import CodeScribe.Import
import Mathlib.Data.List.Induction

/-! Putting an element into a list that holds each element once. -/
namespace CodeScribe.Imports
variable {α : Type} [BEq α] {x y : α} {xs ys : List α}

theorem length_insertNew : (insertNew y xs).length = xs.length + (!xs.contains y).toNat := by
  rw [insertNew]
  cases h : xs.contains y <;> simp

variable [LawfulBEq α]

private theorem insertNew_of_mem (h : x ∈ xs) : insertNew x xs = xs := by
  simp [insertNew, h]

theorem mem_insertNew : x ∈ insertNew y xs ↔ x ∈ xs ∨ x = y := by
  rw [insertNew]
  by_cases h : y ∈ xs
  · have hold : x = y → x ∈ xs := fun heq => heq ▸ h
    simpa [h] using hold
  · simp [h]

theorem nodup_insertNew (h : xs.Nodup) : (insertNew y xs).Nodup := by
  rw [insertNew]
  by_cases hy : y ∈ xs
  · simpa [hy] using h
  · have hnew : (xs ++ [y]).Nodup := by
      rw [List.nodup_append]
      refine ⟨h, by simp, fun a ha b hb hab => hy ?_⟩
      rwa [← List.mem_singleton.mp hb, ← hab]
    simpa [hy] using hnew

theorem mem_foldl_insertNew : x ∈ ys.foldl (fun acc y => insertNew y acc) xs ↔ x ∈ xs ∨ x ∈ ys := by
  induction ys generalizing xs with
  | nil => simp
  | cons y ys ih => rw [List.foldl_cons, ih, mem_insertNew, List.mem_cons, or_assoc]

theorem nodup_foldl_insertNew (h : xs.Nodup) : (ys.foldl (fun acc y => insertNew y acc) xs).Nodup := by
  induction ys generalizing xs with
  | nil => exact h
  | cons y ys ih => exact ih (nodup_insertNew h)

/-- A repetition is never the first element of a kind. -/
theorem find?_insertNew (p : α → Bool) : (insertNew y xs).find? p = (xs ++ [y]).find? p := by
  rw [insertNew]
  by_cases hy : y ∈ xs
  · cases hxs : xs.find? p with
    | some x => simp [hy, hxs]
    | none => simpa [hy, hxs] using List.find?_eq_none.mp hxs y hy
  · simp [hy]

theorem find?_foldl_insertNew (p : α → Bool) :
    (ys.foldl (fun acc y => insertNew y acc) xs).find? p = (xs ++ ys).find? p := by
  induction ys generalizing xs with
  | nil => rw [List.foldl_nil, List.append_nil]
  | cons y ys ih =>
    rw [List.foldl_cons, ih, List.find?_append, find?_insertNew, ← List.find?_append, List.append_assoc,
      List.singleton_append]

private theorem eraseDups_concat (xs : List α) (x : α) :
    (xs ++ [x]).eraseDups = insertNew x xs.eraseDups := by
  rw [List.eraseDups_append, insertNew, List.removeAll]
  by_cases h : x ∈ xs <;> simp [h, List.eraseDups_cons]

/-- Putting elements in one after the other leaves each once, where it came first. -/
theorem foldl_insertNew_eq (xs known : List α) :
    xs.foldl (fun acc x => insertNew x acc) known.eraseDups = (known ++ xs).eraseDups := by
  induction xs generalizing known with
  | nil => rw [List.foldl_nil, List.append_nil]
  | cons x xs ih => rw [List.foldl_cons, ← eraseDups_concat, ih, List.append_assoc, List.singleton_append]

/-- What comes behind others may lose its own repetitions first. -/
theorem eraseDups_append_eraseDups (known xs : List α) :
    (known ++ xs.eraseDups).eraseDups = (known ++ xs).eraseDups := by
  induction xs using List.reverseRecOn with
  | nil => rfl
  | append_singleton xs x ih =>
    rw [← List.append_assoc, eraseDups_concat, eraseDups_concat, ← ih]
    by_cases h : x ∈ xs
    · have hold : x ∈ (known ++ xs.eraseDups).eraseDups := by simp [h]
      rw [insertNew_of_mem (List.mem_eraseDups.mpr h), insertNew_of_mem hold]
    · have hnew : insertNew x xs.eraseDups = xs.eraseDups ++ [x] := by simp [insertNew, h]
      rw [hnew, ← List.append_assoc, eraseDups_concat]

end CodeScribe.Imports
