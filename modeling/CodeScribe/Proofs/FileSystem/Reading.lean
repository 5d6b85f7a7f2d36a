import CodeScribe.Manifest.File
import CodeScribe.Proofs.FileSystem.Output

/-! What is read of a disk, and that it is the same after a file is written that is none of it. -/
namespace CodeScribe
open Workspace (namesOf)

namespace Disk
variable {d e : Disk} {path text folder name : String} {here : Location} {names : List String}

/-- What is joined to a folder is in that folder. -/
theorem locate_join (hlocate : d.locate folder = some here) (hhere : d.find? here = some .folder)
    (hname : IsName name) : d.locate (Path.join folder name) = some (here ++ [name]) := by
  rw [locate] at hlocate
  split at hlocate
  · cases hlocate
  · next hempty =>
    have hfolder : folder ≠ "" := by simpa using hempty
    have hnew : (Path.join folder name).isEmpty = false := by
      simpa using Path.join_ne_empty folder hname
    have hlast : d.follow here [name] = some (here ++ [name]) := by
      rw [follow, if_pos hhere, follow, hname.step_eq]
    rw [locate, hnew, if_neg Bool.false_ne_true, base, Path.isAbsolute_join hfolder hname, ← base]
    obtain ⟨front, hnames | hnames, hjoined⟩ := namesOf_join hfolder hname
    · rw [hjoined, follow_append, ← hnames, hlocate, Option.bind_some, hlast]
    · rw [hnames, follow_append] at hlocate
      obtain ⟨there, hthere, hdone⟩ := Option.bind_eq_some_iff.mp hlocate
      rw [follow] at hdone
      split at hdone
      · cases hdone
        rw [hjoined, follow_append, hthere, Option.bind_some]
        exact hlast
      · cases hdone

private theorem fileNames?_eq_some_iff : d.fileNames? folder = some names ↔
    d.locate folder = some (d.place folder) ∧ d.find? (d.place folder) = some .folder ∧
      names = d.tree.filesIn (d.place folder) := by
  rw [fileNames?]
  cases hlocate : d.locate folder with
  | none => simp
  | some here =>
    have hplace := eq_of_locate hlocate
    subst hplace
    simp [eq_comm]

namespace Stores

private theorem reach?_of_reach? (h : d.Stores e path text) {other : String} {entry : Entry}
    (hlocate : d.locate other = some here) (hne : here ≠ d.place path) (hentry : d.find? here = some entry) :
    e.reach? other = d.reach? other := by
  rw [Disk.reach?, Disk.reach?, h.locate_of_locate hlocate, hlocate, Option.bind_some, Option.bind_some, hentry,
    (h.find here hne).find?_eq_some hentry]

theorem readText?_eq (h : d.Stores e path text) {other content : String} (hne : d.place path ≠ d.place other)
    (hread : d.readText? other = some content) : e.readText? other = d.readText? other := by
  cases hlocate : d.locate other with
  | none => simp [Disk.readText?, Disk.reach?, hlocate] at hread
  | some here =>
    have hplace := eq_of_locate hlocate
    cases hentry : d.find? here with
    | none => simp [Disk.readText?, Disk.reach?, hlocate, hentry] at hread
    | some entry =>
      rw [Disk.readText?, Disk.readText?, h.reach?_of_reach? hlocate (fun he => hne (he ▸ hplace)) hentry]

theorem fileNames?_eq (h : d.Stores e path text) (hne : ∀ name, d.place path ≠ d.place folder ++ [name])
    (hnames : d.fileNames? folder = some names) : e.fileNames? folder = d.fileNames? folder := by
  obtain ⟨hlocate, hfolder, hfiles⟩ := fileNames?_eq_some_iff.mp hnames
  rw [hnames, fileNames?_eq_some_iff, place_eq h.start, h.files _ hne]
  exact ⟨h.locate_of_locate hlocate, h.folder hfolder, hfiles⟩

/-- The files of a folder are read as before, when the new one is not in it. -/
theorem readText?_join_eq (h : d.Stores e path text) (hne : ∀ name, d.place path ≠ d.place folder ++ [name])
    (hnames : d.fileNames? folder = some names) (hname : name ∈ names) :
    e.readText? (Path.join folder name) = d.readText? (Path.join folder name) := by
  obtain ⟨hlocate, hfolder, rfl⟩ := fileNames?_eq_some_iff.mp hnames
  obtain ⟨content, hmem⟩ := Workspace.mem_filesIn hname
  have hvalid : IsName name := (d.sound _ hmem).1 name (by simp)
  cases hentry : d.find? (d.place folder ++ [name]) with
  | none => exact absurd rfl (Workspace.ne_of_find?_eq_none hentry hmem)
  | some entry =>
    rw [Disk.readText?, Disk.readText?,
      h.reach?_of_reach? (locate_join hlocate hfolder hvalid) (Ne.symm (hne name)) hentry]

end Stores

variable {α β : Type}

/-- An action that changes neither of two disks, and answers the same on both. -/
def Agree (d e : Disk) (x : StateM Disk α) : Prop := ∃ a, x.run d = (a, d) ∧ x.run e = (a, e)

private theorem agree_pure (a : α) : Agree d e (pure a) := ⟨a, rfl, rfl⟩

theorem Agree.run_eq {x : StateM Disk α} {a : α} (h : Agree d e x) (hd : x.run d = (a, d)) :
    x.run e = (a, e) := by
  obtain ⟨b, hb, he⟩ := h
  have hab : b = a := congrArg Prod.fst (hb.symm.trans hd)
  rw [he, hab]

private theorem Agree.bind {x : StateM Disk α} {k : α → StateM Disk β} (hx : Agree d e x)
    (hk : ∀ a, x.run d = (a, d) → Agree d e (k a)) : Agree d e (x >>= k) := by
  obtain ⟨a, hd, he⟩ := hx
  obtain ⟨b, hkd, hke⟩ := hk a hd
  exact ⟨b, by rw [run_bind hd, hkd], by rw [run_bind he, hke]⟩

private theorem agree_readText? (h : e.readText? path = d.readText? path) :
    Agree d e (FileSystem.readText? path) :=
  ⟨d.readText? path, rfl, congrArg (·, e) h⟩

private theorem agree_fileNames? (h : e.fileNames? folder = d.fileNames? folder) :
    Agree d e (FileSystem.fileNames? folder) :=
  ⟨d.fileNames? folder, rfl, congrArg (·, e) h⟩

theorem agree_load (h : e.readText? path = d.readText? path) : Agree d e (ManifestFile.load path) := by
  refine (agree_readText? h).bind fun content _ => ?_
  cases content <;> exact agree_pure _

private theorem agree_addFiles
    (h : ∀ name ∈ names, e.readText? (Path.join folder name) = d.readText? (Path.join folder name))
    (r : Registry) : Agree d e (r.addFiles folder names) := by
  induction names generalizing r with
  | nil => exact agree_pure _
  | cons name names ih =>
    have hrest := ih fun other hother => h other (List.mem_cons_of_mem name hother)
    rw [Registry.addFiles]
    split
    · exact hrest r
    · refine (agree_readText? (h name List.mem_cons_self)).bind fun source _ => ?_
      cases source with
      | none => exact agree_pure _
      | some source => exact hrest _

/-- Two disks show the same files in a folder. -/
structure SameFolder (d e : Disk) (folder : String) : Prop where
  names : e.fileNames? folder = d.fileNames? folder
  texts : ∀ names, d.fileNames? folder = some names → ∀ name ∈ names,
    e.readText? (Path.join folder name) = d.readText? (Path.join folder name)

theorem SameFolder.refl (d : Disk) (folder : String) : SameFolder d d folder := ⟨rfl, fun _ _ _ _ => rfl⟩

private theorem SameFolder.agree_load (h : SameFolder d e folder) : Agree d e (Registry.load folder) := by
  refine (agree_fileNames? h.names).bind fun names hnames => ?_
  cases names with
  | none => exact agree_pure _
  | some names =>
    have hd : d.fileNames? folder = some names := congrArg Prod.fst hnames
    exact agree_addFiles (fun name hname => h.texts names hd name (List.mem_mergeSort.mp hname)) _

private theorem agree_templates {f : ManifestFile}
    (h : ∀ templates, f.manifest.templates = some templates → SameFolder d e (Path.join f.folder templates)) :
    Agree d e f.templates := by
  rw [ManifestFile.templates]
  cases htemplates : f.manifest.templates with
  | none => exact agree_pure _
  | some templates => exact (h templates htemplates).agree_load.bind fun _ _ => agree_pure _

theorem agree_render {f : ManifestFile}
    (h : ∀ templates, f.manifest.templates = some templates → SameFolder d e (Path.join f.folder templates)) :
    Agree d e f.render := by
  refine (agree_templates h).bind fun templates _ => ?_
  cases templates <;> exact agree_pure _

end Disk
end CodeScribe
