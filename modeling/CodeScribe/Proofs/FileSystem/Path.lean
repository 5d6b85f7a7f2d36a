import CodeScribe.FileSystem.Disk
import CodeScribe.Proofs.Text
import Mathlib.Data.List.Infix

/-! The names in a path, in its parent, and in a path joined to it. -/
namespace CodeScribe
open Workspace (namesOf)

private theorem namesOf_ofList (cs : List Char) :
    namesOf (String.ofList cs) = (Text.pieces '/' cs).map String.ofList := by
  rw [namesOf, String.toList_ofList]

private theorem IsName.namesOf_eq {name : String} (h : IsName name) : namesOf name = [name] := by
  rw [namesOf, Text.pieces_of_not_mem h.oneName, List.map_singleton, String.ofList_toList]

private theorem IsName.not_isAbsolute {name : String} (h : IsName name) : Path.isAbsolute name = false := by
  rw [Path.isAbsolute, decide_eq_false_iff_not]
  exact fun hhead => h.oneName (List.mem_of_head? hhead)

theorem IsName.step_eq {name : String} (h : IsName name) (here : Location) :
    here.step name = here ++ [name] := by
  simp [Location.step, h.nonempty, h.notHere, h.notAbove]

namespace Path

private theorem go_isPrefix (idle : List (List Char) → Bool) (reversed : List (List Char)) :
    dropIdle.go idle reversed <+: reversed.reverse := by
  induction reversed with
  | nil => exact List.nil_prefix
  | cons last before ih =>
    rw [dropIdle.go]
    split
    · rw [List.reverse_cons]
      exact ih.trans (List.prefix_append _ _)
    · exact List.prefix_rfl

private theorem dropIdle_isPrefix (components : List (List Char)) : dropIdle components <+: components := by
  conv_rhs => rw [← List.reverse_reverse components]
  exact go_isPrefix _ components.reverse

private theorem isAbsolute_iff {path : String} :
    isAbsolute path = true ↔ ∃ rest, path.toList = '/' :: rest := by
  cases h : path.toList <;> simp [isAbsolute, h]

/-- An absolute path has an empty name in front of the first slash. -/
private theorem isAbsolute_iff_head? {path : String} (h : path ≠ "") :
    isAbsolute path = true ↔ (namesOf path).head? = some "" := by
  rw [isAbsolute_iff, namesOf]
  cases hpath : path.toList with
  | nil => exact absurd (String.toList_eq_nil_iff.mp hpath) h
  | cons c rest =>
    by_cases hc : c = '/'
    · simp [hc, Text.pieces]
    · obtain ⟨piece, more, hp, ⟨tail, rfl⟩⟩ : ∃ piece more, Text.pieces '/' (c :: rest) = piece :: more ∧
          [c] <+: piece := Text.prefix_head_pieces (by simpa [eq_comm] using hc) ⟨rest, rfl⟩
      simp [hp, hc]

theorem isAbsolute_eq_of_isPrefix {path folder : String} (hpath : path ≠ "") (hfolder : folder ≠ "")
    (h : namesOf folder <+: namesOf path) : isAbsolute folder = isAbsolute path := by
  have hne : namesOf folder ≠ [] := by
    rw [namesOf, Text.pieces_eq_splitOn]
    simp
  rw [Bool.eq_iff_iff, isAbsolute_iff_head? hpath, isAbsolute_iff_head? hfolder]
  obtain ⟨rest, hrest⟩ := h
  rw [← hrest, List.head?_append_of_ne_nil _ hne]

/-- The components of a path. Before those of an absolute one stands the empty one of the root. -/
private theorem components_isPrefix (path : String) :
    (if isAbsolute path then [] :: components path else components path) <+:
      Text.pieces '/' path.toList := by
  split
  · next h =>
    obtain ⟨rest, hrest⟩ := isAbsolute_iff.mp h
    have hpieces : Text.pieces '/' ('/' :: rest) = [] :: Text.pieces '/' rest := rfl
    rw [components, if_pos h, hrest, hpieces]
    exact List.cons_prefix_cons.mpr ⟨rfl, List.IsPrefix.drop (dropIdle_isPrefix _) 1⟩
  · next h =>
    rw [components, if_neg h]
    exact dropIdle_isPrefix _

/-- The names in the parent come first in the path, unless the parent is the root or says nothing. -/
theorem namesOf_parent? {path folder : String} (h : parent? path = some folder) :
    folder = "" ∨ (isAbsolute path = true ∧ folder = "/") ∨ namesOf folder <+: namesOf path := by
  rw [parent?] at h
  split at h
  · cases h
  · generalize hbefore : dropIdle
      (if isAbsolute path then [] :: (components path).dropLast else (components path).dropLast) = before at h
    have hstarts : before <+: Text.pieces '/' path.toList := by
      rw [← hbefore]
      refine (dropIdle_isPrefix _).trans (List.IsPrefix.trans ?_ (components_isPrefix path))
      split
      · exact List.cons_prefix_cons.mpr ⟨rfl, List.dropLast_prefix _⟩
      · exact List.dropLast_prefix _
    injection h with h
    by_cases hempty : before = []
    · subst hempty
      cases habsolute : isAbsolute path with
      | false =>
        rw [habsolute] at h
        exact .inl h.symm
      | true =>
        rw [habsolute] at h
        exact .inr (.inl ⟨rfl, h.symm⟩)
    · have hpieces : Text.pieces '/' (Text.join ['/'] before) = before :=
        Text.pieces_join_of_not_mem hempty fun piece hpiece =>
          Text.not_mem_of_mem_pieces (hstarts.subset hpiece)
      by_cases hroot : (isAbsolute path && (Text.join ['/'] before).isEmpty) = true
      · rw [if_pos hroot] at h
        exact .inr (.inl ⟨(Bool.and_eq_true_iff.mp hroot).1, h.symm⟩)
      · rw [if_neg hroot] at h
        rw [← h, namesOf_ofList, hpieces]
        exact .inr (.inr (hstarts.map _))

theorem isAbsolute_join {folder name : String} (hfolder : folder ≠ "") (hname : IsName name) :
    isAbsolute (join folder name) = isAbsolute folder := by
  have hne : folder.toList ≠ [] := fun h => hfolder (String.toList_eq_nil_iff.mp h)
  have hhead (cs : List Char) : (folder.toList ++ cs).head? = folder.toList.head? :=
    List.head?_append_of_ne_nil _ hne
  rw [join, if_neg (by simp [hname.not_isAbsolute])]
  split <;> simp only [isAbsolute, String.toList_append, List.append_assoc, hhead]

theorem join_ne_empty (folder : String) {name : String} (hname : IsName name) : join folder name ≠ "" := by
  have hne := hname.nonempty
  rw [join, if_neg (by simp [hname.not_isAbsolute])]
  split <;> simp [hne]

end Path

/-- A name joined to a folder comes last, in place of what is empty behind a final slash. -/
theorem namesOf_join {folder name : String} (hfolder : folder ≠ "") (hname : IsName name) :
    ∃ names, (namesOf folder = names ∨ namesOf folder = names ++ [""]) ∧
      namesOf (Path.join folder name) = names ++ [name] := by
  rw [Path.join, if_neg (by simp [hname.not_isAbsolute])]
  split
  · next hend =>
    obtain ⟨front, hfront⟩ := Text.endsIn_iff.mp (by simpa [hfolder] using hend)
    refine ⟨(Text.pieces '/' front).map String.ofList, .inr ?_, ?_⟩
    · rw [namesOf, hfront, Text.pieces_append_cons]
      simp [Text.pieces]
    · rw [namesOf, String.toList_append, hfront, List.append_assoc, List.singleton_append,
        Text.pieces_append_cons, List.map_append, ← namesOf, hname.namesOf_eq]
  · refine ⟨namesOf folder, .inl rfl, ?_⟩
    rw [namesOf, String.toList_append, String.toList_append, List.append_assoc]
    rw [show "/".toList = ['/'] from rfl, List.singleton_append, Text.pieces_append_cons, List.map_append,
      ← namesOf, ← namesOf, hname.namesOf_eq]

end CodeScribe
