import CodeScribe.Proofs.Command.Render
import CodeScribe.Proofs.FileSystem.Workspace

/-! A rendering that stays below the working folder does the same to a workspace and to the disk that it is. -/
namespace CodeScribe
open Workspace (namesOf Alike alike_pure Inside StaysInside)

namespace Workspace
variable {w : Workspace} {here : Location} {names : List String} {path folder name : String}

private theorem StaysInside.concat (h : StaysInside here names) (hname : name ≠ "..") :
    StaysInside here (names ++ [name]) := by
  induction names generalizing here with
  | nil => exact ⟨fun hup => absurd hup hname, trivial⟩
  | cons first names ih => exact ⟨h.1, ih h.2⟩

/-- A name joined to a folder below the working folder stays there. -/
theorem Inside.join (h : Inside folder) (hfolder : folder ≠ "") (hname : IsName name) :
    Inside (Path.join folder name) := by
  refine ⟨(Path.isAbsolute_join hfolder hname).trans h.relative, ?_⟩
  obtain ⟨front, hnames | hnames, hjoined⟩ := namesOf_join hfolder hname
  · rw [hjoined, ← hnames]
    exact h.stays.concat hname.notAbove
  · rw [hjoined]
    exact (h.stays.of_isPrefix (hnames ▸ List.prefix_append front [""])).concat hname.notAbove

private theorem alike_load (w : Workspace) (h : Inside path) :
    w.Alike (ManifestFile.load path) (ManifestFile.load path) := by
  refine (alike_readText? w h).bind fun content after _ => ?_
  cases content <;> exact alike_pure after _

private theorem alike_addFiles (w : Workspace) (h : ∀ name ∈ names, Inside (Path.join folder name))
    (r : Registry) : w.Alike (r.addFiles folder names) (r.addFiles folder names) := by
  induction names generalizing w r with
  | nil => exact alike_pure w _
  | cons name names ih =>
    have hrest : ∀ other ∈ names, Inside (Path.join folder other) := fun other hother =>
      h other (List.mem_cons_of_mem name hother)
    rw [Registry.addFiles, Registry.addFiles]
    split
    · exact ih w hrest r
    · refine (alike_readText? w (h name List.mem_cons_self)).bind fun source after _ => ?_
      cases source with
      | none => exact alike_pure after _
      | some source => exact ih after hrest _

private theorem isName_of_fileNames? (hw : w.Sound) (h : w.fileNames? folder = some names)
    (hname : name ∈ names) : folder ≠ "" ∧ IsName name := by
  rw [fileNames?] at h
  split at h
  · cases h
  · next here hlocate =>
    split at h
    · cases h
      obtain ⟨text, hmem⟩ := mem_filesIn hname
      refine ⟨?_, (hw _ hmem).1 name (by simp)⟩
      rintro rfl
      cases hlocate
    · cases h

private theorem alike_loadFolder (w : Workspace) (h : Inside folder) :
    w.Alike (Registry.load folder) (Registry.load folder) := by
  intro hw
  refine (alike_fileNames? w h).bind (fun names after hrun => ?_) hw
  cases names with
  | none => exact alike_pure after _
  | some names =>
    have hnames : w.fileNames? folder = some names := congrArg Prod.fst hrun
    refine alike_addFiles after (fun name hname => ?_) {}
    obtain ⟨hfolder, hvalid⟩ := isName_of_fileNames? hw hnames (List.mem_mergeSort.mp hname)
    exact h.join hfolder hvalid

private theorem alike_render (w : Workspace) {file : ManifestFile}
    (h : ∀ templates, file.manifest.templates = some templates → Inside (Path.join file.folder templates)) :
    w.Alike file.render file.render := by
  have htemplates : w.Alike file.templates file.templates := by
    rw [ManifestFile.templates, ManifestFile.templates]
    cases hfolder : file.manifest.templates with
    | none => exact alike_pure w _
    | some templates =>
      exact (alike_loadFolder w (h templates hfolder)).bind fun _ after _ => alike_pure after _
  refine htemplates.bind fun templates after _ => ?_
  cases templates <;> exact alike_pure after _

private theorem alike_deliver (w : Workspace) {file : ManifestFile} (text : String) {output : Option String}
    (dryRun : Bool) (h : ∀ path, (output <|> file.outputPath?) = some path → Inside path) :
    w.Alike (Command.deliver file text output dryRun) (Command.deliver file text output dryRun) := by
  rw [Command.deliver, Command.deliver]
  cases htarget : output <|> file.outputPath? with
  | none => exact alike_pure w _
  | some path =>
    cases dryRun with
    | true => exact alike_pure w _
    | false => exact (alike_write w ⟨path, text, false⟩ (h path htarget)).bind fun _ after _ => alike_pure after _

/-- What a rendering reads and writes is below the working folder. -/
structure RendersInside (w : Workspace) (manifest : String) (output : Option String) : Prop where
  source : Inside manifest
  templates : ∀ file, ((ManifestFile.load manifest : StateM Workspace _).run w).1 = .ok file →
    ∀ templates, file.manifest.templates = some templates → Inside (Path.join file.folder templates)
  target : ∀ file, ((ManifestFile.load manifest : StateM Workspace _).run w).1 = .ok file →
    ∀ path, (output <|> file.outputPath?) = some path → Inside path

/-- Such a rendering ends alike on a workspace and on the disk that it is, and does the same to both. -/
theorem perform_render_disk (hw : w.Sound) {manifest : String} {output : Option String} (dryRun : Bool)
    (h : w.RendersInside manifest output) :
    let (outcome, after) := ((Command.render manifest output dryRun).run : StateM Workspace _).run w
    ∃ hafter, (w.disk hw).perform (.render manifest output dryRun) = (outcome, after.disk hafter) := by
  have halike : w.Alike (Command.runRender manifest output dryRun) (Command.runRender manifest output dryRun) := by
    refine (alike_load w h.source).bind fun loaded after hload => ?_
    have hanswer := congrArg Prod.fst hload
    cases loaded with
    | error error => exact alike_pure after _
    | ok file =>
      refine (alike_render after (h.templates file hanswer)).bind fun rendered last _ => ?_
      cases rendered with
      | error error => exact alike_pure last _
      | ok text =>
        refine (alike_deliver last text dryRun (h.target file hanswer)).bind fun delivered final _ => ?_
        cases delivered <;> exact alike_pure final _
  exact halike hw

end Workspace
end CodeScribe
