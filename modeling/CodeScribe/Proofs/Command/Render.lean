import CodeScribe.Command.Run
import CodeScribe.Proofs.FileSystem.Reading

/-! What a rendering does to a disk: it reads the manifest and its templates, and writes at most the target. -/
namespace CodeScribe
open Workspace (namesOf)

namespace Disk
variable {d e : Disk} {manifest path text : String} {file : ManifestFile}

def answer {α : Type} (d : Disk) (x : StateM Disk α) : α := (x.run d).1

def perform (d : Disk) (c : Command) : Outcome × Disk := (c.run : StateM Disk Outcome).run d

/-- What a disk holds of a document: its manifest, and its text with the templates that are there. -/
structure Holds (d : Disk) (manifest : String) (file : ManifestFile) (text : String) : Prop where
  load : (ManifestFile.load manifest : StateM Disk _).run d = (.ok file, d)
  render : (file.render : StateM Disk _).run d = (.ok text, d)

/-- A path is neither that of the manifest nor that of a file in the folder of its templates. -/
structure Spares (d : Disk) (file : ManifestFile) (path : String) : Prop where
  manifest : d.place path ≠ d.place file.path
  templates : ∀ templates, file.manifest.templates = some templates →
    ∀ name, d.place path ≠ d.place (Path.join file.folder templates) ++ [name]

/-- A document that cannot be made leaves nothing but a complaint. -/
theorem perform_render_of_not_holds (h : ¬ ∃ file text, d.Holds manifest file text) (output : Option String)
    (dryRun : Bool) : ∃ complaint, d.perform (.render manifest output dryRun) = (.failed complaint, d) := by
  obtain ⟨loaded, hload, -⟩ : Agree d d (ManifestFile.load manifest) := agree_load rfl
  rw [perform, Command.run, Command.runRender, run_bind hload]
  cases loaded with
  | error error => exact ⟨_, rfl⟩
  | ok file =>
    obtain ⟨rendered, hrender, -⟩ : Agree d d file.render := agree_render fun _ _ => .refl d _
    dsimp only
    rw [run_bind hrender]
    cases rendered with
    | error error => exact ⟨_, rfl⟩
    | ok text => exact absurd ⟨file, text, hload, hrender⟩ h

private theorem perform_render (h : d.Holds manifest file text) (output : Option String) (dryRun : Bool) :
    d.perform (.render manifest output dryRun) =
      match output <|> file.outputPath? with
      | none => (.done text, d)
      | some path =>
        if dryRun then (.done (Delivery.preview path text).report, d)
        else
          match ((OutputFile.mk path text false).write : StateM Disk _).run d with
          | (.error error, after) => (.failed error.message, after)
          | (.ok result, after) => (.done (Delivery.stored path result).report, after) := by
  rw [perform, Command.run, Command.runRender, run_bind h.load]
  dsimp only
  rw [run_bind h.render]
  dsimp only
  rw [Command.deliver]
  cases output <|> file.outputPath? with
  | none => rfl
  | some path =>
    cases dryRun with
    | true => rfl
    | false =>
      simp only [Bool.false_eq_true, if_false]
      obtain ⟨result, after, hwrite⟩ : ∃ result after,
          ((OutputFile.mk path text false).write : StateM Disk _).run d = (result, after) := ⟨_, _, rfl⟩
      rw [bind_assoc, run_bind hwrite, hwrite]
      cases result <;> rfl

/-- A manifest that is loaded has been read from its path. -/
private theorem read_of_load (h : (ManifestFile.load manifest : StateM Disk _).run d = (.ok file, e)) :
    file.path = manifest ∧ ∃ content, d.readText? manifest = some content := by
  have hread : (FileSystem.readText? manifest : StateM Disk _).run d = (d.readText? manifest, d) := rfl
  rw [ManifestFile.load, run_bind hread] at h
  cases hcontent : d.readText? manifest with
  | none =>
    rw [hcontent] at h
    cases congrArg Prod.fst h
  | some content =>
    rw [hcontent] at h
    have hparsed := congrArg Prod.fst h
    change Except.map _ _ = Except.ok file at hparsed
    cases hmanifest : Manifest.parse ⟨content, manifest⟩ (.ofPath manifest) with
    | error error =>
      rw [hmanifest] at hparsed
      cases hparsed
    | ok parsed =>
      rw [hmanifest] at hparsed
      cases hparsed
      exact ⟨rfl, content, rfl⟩

/-- A document that is rendered has templates in a folder that is there. -/
private theorem names_of_render (h : (file.render : StateM Disk _).run d = (.ok text, e)) {templates : String}
    (htemplates : file.manifest.templates = some templates) :
    ∃ names, d.fileNames? (Path.join file.folder templates) = some names := by
  cases hnames : d.fileNames? (Path.join file.folder templates) with
  | some names => exact ⟨names, rfl⟩
  | none =>
    have hfolder : (FileSystem.fileNames? (Path.join file.folder templates) : StateM Disk _).run d = (none, d) :=
      congrArg (·, d) hnames
    rw [ManifestFile.render, ManifestFile.templates, htemplates] at h
    dsimp only at h
    rw [Registry.load, bind_assoc, bind_assoc, run_bind hfolder] at h
    cases congrArg Prod.fst h

/-- A document that is written is held as before, when its target is none of its sources. -/
theorem Holds.of_stores (h : d.Holds manifest file text) (hspares : d.Spares file path) {content : String}
    (hstores : d.Stores e path content) : e.Holds manifest file text := by
  -- what was found is found again; of what was missing nothing is known, as it may be a new folder
  obtain ⟨rfl, source, hsource⟩ := read_of_load h.load
  have hload : Agree d e (ManifestFile.load file.path) :=
    agree_load (hstores.readText?_eq hspares.manifest hsource)
  have hrender : Agree d e file.render := agree_render fun templates htemplates => by
    obtain ⟨names, hnames⟩ := names_of_render h.render htemplates
    have hne := hspares.templates templates htemplates
    refine ⟨hstores.fileNames?_eq hne hnames, fun others hothers name hname => ?_⟩
    exact hstores.readText?_join_eq hne hothers hname
  exact ⟨hload.run_eq h.load, hrender.run_eq h.render⟩

/-- Both hold the same files with the same texts. Folders may differ. -/
def SameFiles (d e : Disk) : Prop :=
  ∀ here text, e.find? here = some (.file text) ↔ d.find? here = some (.file text)

/-- Nothing differs but what a path leads to, and folders on its way that were missing. -/
def DiffersAt (d e : Disk) (path : String) : Prop :=
  ∀ here, here ≠ d.place path → d.SameOrNew e (d.Passes path) here

private theorem Grows.sameFiles {new : Location → Prop} (h : d.Grows e new) : d.SameFiles e := by
  intro here text
  rcases h.find here with he | ⟨-, hd, he⟩
  · rw [he]
  · rw [hd, he]
    exact ⟨nofun, nofun⟩

private theorem perform_render_unchanged (h : d.Holds manifest file text) {output : Option String}
    (htarget : (output <|> file.outputPath?) = some path) (htext : d.readText? path = some text) :
    d.perform (.render manifest output false) = (.done (Delivery.stored path .unchanged).report, d) := by
  rw [d.perform_render h, htarget]
  simp only [Bool.false_eq_true, if_false]
  rw [OutputFile.write_unchanged rfl htext]

/-- A text is at its target, only that differs, and the same rendering finds nothing left to do. -/
structure Delivered (d e : Disk) (manifest : String) (output : Option String) (path text : String) : Prop where
  text : e.readText? path = some text
  rest : d.DiffersAt e path
  again : e.perform (.render manifest output false) = (.done (Delivery.stored path .unchanged).report, e)

/-- A rendering that writes fails with the files as they were, or delivers the text. -/
theorem perform_render_target (h : d.Holds manifest file text) {output : Option String}
    (htarget : (output <|> file.outputPath?) = some path) (hspares : d.Spares file path) :
    let (outcome, e) := d.perform (.render manifest output false)
    outcome.exitCode ≠ 0 ∧ d.SameFiles e ∨ outcome.exitCode = 0 ∧ d.Delivered e manifest output path text := by
  rw [d.perform_render h, htarget]
  simp only [Bool.false_eq_true, if_false]
  have hwrites := OutputFile.writes ⟨path, text, false⟩ d
  generalize (OutputFile.write ⟨path, text, false⟩ : StateM Disk _).run d = after at hwrites
  cases hwrites with
  | skipped _ hleft => cases hleft
  | unchanged _ htext =>
    exact .inr ⟨rfl, htext, fun _ _ => .inl rfl, perform_render_unchanged h htarget htext⟩
  | replaced _ hreplaces =>
    cases hreplaces with
    | stored hstores =>
      have htext := hstores.readText?
      have hagain := h.of_stores hspares hstores
      exact .inr ⟨rfl, htext, hstores.find, perform_render_unchanged hagain htarget htext⟩
    | refused error hgrows => exact .inl ⟨nofun, hgrows.sameFiles⟩

/-- What a rendering does to a disk, told by how it ends. -/
structure Renders (d : Disk) (manifest : String) (output : Option String) (dryRun : Bool)
    (after : Outcome × Disk) : Prop where
  dry : dryRun = true → after.2 = d
  failed : after.1.exitCode ≠ 0 → d.SameFiles after.2
  done : after.1.exitCode = 0 → ∃ file text, d.Holds manifest file text ∧
    match output <|> file.outputPath? with
    | none => after = (.done text, d)
    | some path =>
      d.perform (.render manifest output true) = (.done (Delivery.preview path text).report, d) ∧
      (dryRun = false → d.Delivered after.2 manifest output path text)

private theorem renders (d : Disk) (manifest : String) (output : Option String) (dryRun : Bool)
    (hspares : ∀ file, d.answer (ManifestFile.load manifest) = .ok file →
      ∀ path, (output <|> file.outputPath?) = some path → d.Spares file path) :
    d.Renders manifest output dryRun (d.perform (.render manifest output dryRun)) := by
  by_cases hholds : ∃ file text, d.Holds manifest file text
  · obtain ⟨file, text, h⟩ := hholds
    cases htarget : output <|> file.outputPath? with
    | none =>
      have hrun : d.perform (.render manifest output dryRun) = (.done text, d) := by
        rw [d.perform_render h, htarget]
      rw [hrun]
      refine ⟨fun _ => rfl, nofun, fun _ => ⟨file, text, h, ?_⟩⟩
      rw [htarget]
    | some path =>
      have hdry : d.perform (.render manifest output true) = (.done (Delivery.preview path text).report, d) := by
        rw [d.perform_render h, htarget]
        rfl
      cases dryRun with
      | true =>
        rw [hdry]
        refine ⟨fun _ => rfl, nofun, fun _ => ⟨file, text, h, ?_⟩⟩
        rw [htarget]
        exact ⟨hdry, nofun⟩
      | false =>
        have hafter := perform_render_target h htarget
          (hspares file (congrArg Prod.fst h.load) path htarget)
        rcases hafter with ⟨hexit, hfiles⟩ | ⟨hexit, hdelivered⟩
        · exact ⟨nofun, fun _ => hfiles, fun hzero => absurd hzero hexit⟩
        · refine ⟨nofun, fun hnonzero => absurd hexit hnonzero, fun _ => ⟨file, text, h, ?_⟩⟩
          rw [htarget]
          exact ⟨hdry, fun _ => hdelivered⟩
  · obtain ⟨complaint, hrun⟩ := perform_render_of_not_holds hholds output dryRun
    rw [hrun]
    exact ⟨fun _ => rfl, fun _ _ _ => Iff.rfl, nofun⟩

/-- A rendering touches only its target, and once it is done there is nothing left to do. A file that is made
only if it is missing changes what was there exactly when it is written over another text that its path did not
lead to yet, and never when its path does not go up. -/
theorem render_touches_only_target (d : Disk) (manifest : String) (output : Option String) (dryRun : Bool)
    (hspares : ∀ file, d.answer (ManifestFile.load manifest) = .ok file →
      ∀ path, (output <|> file.outputPath?) = some path → d.Spares file path) :
    d.Renders manifest output dryRun (d.perform (.render manifest output dryRun)) ∧
    ∀ f : OutputFile, f.onlyIfMissing = true →
      let (r, e) := (f.write : StateM Disk _).run d
      (d.Keeps e ↔ ¬ (d.isPresent f.path = false ∧ r = .ok .written ∧
        ∃ text, d.find? (d.place f.path) = some (.file text) ∧ text ≠ some f.content)) ∧
      (".." ∉ namesOf f.path → d.Keeps e) :=
  ⟨d.renders manifest output dryRun hspares, fun f hleft => f.write_keeps_iff hleft (f.writes d)⟩

/-- A working folder that is not the root, with a manifest, a folder of templates, and an output in a folder
that is missing. -/
def workshop : Disk where
  tree := { entries := [
    (["home"], .folder),
    (["home", "quill.json"], .file (some
      "\x7b\"output\": \"gen/P.cs\", \"templates\": \"parts\", \"snippets\": [\x7b\"template\": \"head\"\x7d]\x7d")),
    (["home", "parts"], .folder),
    (["home", "parts", "head.tmpl"], .file (some "// made"))] }
  start := ["home"]

private theorem workshop_load :
    (workshop.answer (ManifestFile.load "quill.json")).toOption.map
      (fun file => (file.path, file.folder, file.manifest.templates, file.outputPath?)) =
      some ("quill.json", "", some "parts", some "gen/P.cs") := by decide +kernel

theorem render_touches_only_target_workshop :
    (∀ file, workshop.answer (ManifestFile.load "quill.json") = .ok file →
      ∀ path, (none <|> file.outputPath?) = some path → workshop.Spares file path) ∧
    let after := workshop.perform (.render "quill.json" none false)
    after.2.readText? "gen/P.cs" = some "// made\n" ∧
      after.2.perform (.render "quill.json" none false) = (.done "✓ unchanged gen/P.cs\n", after.2) := by
  have hfile : ∀ file, workshop.answer (ManifestFile.load "quill.json") = .ok file →
      file.path = "quill.json" ∧ file.folder = "" ∧ file.manifest.templates = some "parts" ∧
        file.outputPath? = some "gen/P.cs" := by
    intro file hload
    have h := workshop_load
    rw [hload] at h
    simpa [Except.toOption] using h
  have hspares : ∀ file, workshop.answer (ManifestFile.load "quill.json") = .ok file →
      ∀ path, (none <|> file.outputPath?) = some path → workshop.Spares file path := by
    intro file hload path hpath
    obtain ⟨hmanifest, hfolder, htemplates, houtput⟩ := hfile file hload
    rw [houtput] at hpath
    cases hpath
    refine ⟨?_, fun templates h name => ?_⟩
    · rw [hmanifest]
      decide
    · rw [htemplates] at h
      cases h
      have hplace : workshop.place "gen/P.cs" = ["home", "gen", "P.cs"] := by decide
      have hparts : workshop.place (Path.join "" "parts") = ["home", "parts"] := by decide
      rw [hfolder, hplace, hparts]
      simp
  obtain ⟨⟨-, -, hdone⟩, -⟩ := render_touches_only_target workshop "quill.json" none false hspares
  obtain ⟨file, text, hholds, hmatch⟩ := hdone (by decide +kernel)
  obtain ⟨-, -, -, houtput⟩ := hfile file (congrArg Prod.fst hholds.load)
  rw [houtput] at hmatch
  exact ⟨hspares, by decide +kernel, (hmatch.2 rfl).again⟩

/-- A folder with a file that was edited by hand. -/
def stubs : Disk where
  tree := { entries := [(["b"], .folder), (["b", "x"], .file (some "stub"))] }

/-- A file that is to be made only if it is missing is written over it, by a path through a missing folder. -/
theorem write_over_stub :
    let f : OutputFile := ⟨"a/../b/x", "new", true⟩
    let (r, e) := (f.write : StateM Disk _).run stubs
    stubs.readText? "b/x" = some "stub" ∧ r = .ok .written ∧ e.readText? "b/x" = some "new" ∧
      ¬ stubs.Keeps e := by
  refine ⟨by decide, rfl, by decide +kernel, fun h => ?_⟩
  have hstub := h ["b", "x"] (.file (some "stub")) rfl
  exact absurd hstub (by decide +kernel)

end Disk
end CodeScribe
