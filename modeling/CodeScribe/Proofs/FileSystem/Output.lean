import CodeScribe.Proofs.FileSystem.Disk

/-! What becomes of a disk on which a file is written. -/
namespace CodeScribe
open Workspace (namesOf)

/-- What an action does first, it does with the answer and the state that come of that. -/
theorem run_bind {σ α β : Type} {x : StateM σ α} {a : α} {s t : σ} (hx : x.run s = (a, t))
    (k : α → StateM σ β) : (x >>= k).run s = (k a).run t := by
  rw [StateT.run_bind, hx]
  rfl

namespace OutputFile
variable {d : Disk} {f : OutputFile}

/-- What becomes of a disk and a file on it that is replaced: the text is stored, or there are at most new
folders. -/
inductive Replaces (f : OutputFile) (d : Disk) : Except AccessError WriteOutcome × Disk → Prop
  | stored {e : Disk} (h : d.Stores e f.path f.content) : Replaces f d (.ok .written, e)
  | refused {e : Disk} (error : AccessError) (h : d.Grows e (d.Passes f.path)) : Replaces f d (.error error, e)

/-- Folders come first, however they are made, and then the file. -/
theorem replaces_of_makes (makes : StateM Disk Bool) {folder : String} {made : Bool} {grown : Disk}
    (hmakes : makes.run d = (made, grown)) (hgrows : d.Grows grown (d.Passes f.path)) :
    f.Replaces d (StateT.run (do
      if !(← makes) then return .error ⟨folder⟩
      if ← FileSystem.writeText f.path f.content then return .ok .written
      return .error ⟨f.path⟩ : StateM Disk _) d) := by
  rw [run_bind hmakes]
  cases made with
  | false => exact .refused _ hgrows
  | true =>
    obtain ⟨written, after, hwrite⟩ : ∃ written after, grown.writeText f.path f.content = (written, after) :=
      ⟨_, _, rfl⟩
    have hrun : (FileSystem.writeText f.path f.content : StateM Disk Bool).run grown = (written, after) := hwrite
    simp only [Bool.not_true, Bool.false_eq_true, if_false]
    rw [run_bind hrun]
    cases written with
    | true => exact .stored (hgrows.stores hwrite)
    | false =>
      obtain ⟨hstart, ⟨-, htree⟩ | ⟨hyes, -⟩⟩ := Disk.writeText_cases hwrite
      · exact .refused _ (hgrows.trans (.of_tree_eq hstart htree))
      · cases hyes

private theorem replaces (f : OutputFile) (d : Disk) : f.Replaces d ((f.replace : StateM Disk _).run d) := by
  rw [replace]
  cases hparent : Path.parent? f.path with
  | none => exact replaces_of_makes (pure true) rfl (.refl d)
  | some folder =>
    exact replaces_of_makes (FileSystem.makeFolders folder) rfl
      (Disk.grows_makeFolders_parent hparent d)

/-- What becomes of a disk on which a file is written: nothing at all when the path leads to something that has
this text already or is to be left alone. -/
inductive Writes (f : OutputFile) (d : Disk) : Except AccessError WriteOutcome × Disk → Prop
  | skipped (hpresent : d.isPresent f.path = true) (hleft : f.onlyIfMissing = true) : Writes f d (.ok .skipped, d)
  | unchanged (hleft : f.onlyIfMissing = false) (htext : d.readText? f.path = some f.content) :
      Writes f d (.ok .unchanged, d)
  | replaced {r : Except AccessError WriteOutcome × Disk}
      (hallowed : f.onlyIfMissing = true → d.isPresent f.path = false) (h : f.Replaces d r) : Writes f d r

theorem writes (f : OutputFile) (d : Disk) : f.Writes d ((f.write : StateM Disk _).run d) := by
  have hpresent : (FileSystem.isPresent f.path : StateM Disk Bool).run d = (d.isPresent f.path, d) := rfl
  have hread : (FileSystem.readText? f.path : StateM Disk _).run d = (d.readText? f.path, d) := rfl
  rw [write, run_bind hpresent]
  cases hthere : d.isPresent f.path with
  | false => exact .replaced (fun _ => hthere) (f.replaces d)
  | true =>
    simp only [if_true]
    cases hleft : f.onlyIfMissing with
    | true => exact .skipped hthere hleft
    | false =>
      simp only [Bool.false_eq_true, if_false]
      rw [run_bind hread]
      by_cases htext : d.readText? f.path = some f.content
      · rw [if_pos htext]
        exact .unchanged hleft htext
      · rw [if_neg htext]
        exact .replaced (fun h => absurd (hleft ▸ h) Bool.false_ne_true) (f.replaces d)

private theorem isPresent_of_readText? {d : Disk} {path text : String} (h : d.readText? path = some text) :
    d.isPresent path = true := by
  rw [Disk.readText?] at h
  rw [Disk.isPresent]
  cases hreach : d.reach? path with
  | none => simp [hreach] at h
  | some entry => rfl

theorem write_unchanged (hleft : f.onlyIfMissing = false) (htext : d.readText? f.path = some f.content) :
    (f.write : StateM Disk _).run d = (.ok .unchanged, d) := by
  have hpresent : (FileSystem.isPresent f.path : StateM Disk Bool).run d = (true, d) :=
    congrArg (·, d) (isPresent_of_readText? htext)
  have hread : (FileSystem.readText? f.path : StateM Disk _).run d = (some f.content, d) := congrArg (·, d) htext
  rw [write, run_bind hpresent]
  simp only [if_true, hleft, Bool.false_eq_true, if_false]
  rw [run_bind hread, if_pos rfl]
  rfl

/-- A file that is made only if it is missing changes what was there exactly when it is written over another
text that its path did not lead to. A path that never goes up leads to what is at its place. -/
theorem write_keeps_iff (hleft : f.onlyIfMissing = true) {r : Except AccessError WriteOutcome} {e : Disk}
    (h : f.Writes d (r, e)) :
    (d.Keeps e ↔ ¬ (d.isPresent f.path = false ∧ r = .ok .written ∧
      ∃ text, d.find? (d.place f.path) = some (.file text) ∧ text ≠ some f.content)) ∧
    (".." ∉ namesOf f.path → d.Keeps e) := by
  cases h with
  | skipped hpresent =>
    have hkeeps : d.Keeps d := fun _ _ hentry => hentry
    exact ⟨iff_of_true hkeeps fun hmissing => by simp [hpresent] at hmissing, fun _ => hkeeps⟩
  | unchanged hnotleft =>
    rw [hleft] at hnotleft
    cases hnotleft
  | replaced hallowed h =>
    have hmissing := hallowed hleft
    cases h with
    | refused error hgrows => exact ⟨iff_of_true hgrows.keeps nofun, fun _ => hgrows.keeps⟩
    | stored hstores =>
      have hentries : ∀ entry, d.find? (d.place f.path) = some entry → ∃ text, entry = .file text := by
        intro entry hentry
        cases entry with
        | file text => exact ⟨text, rfl⟩
        | folder => exact absurd hentry hstores.free
      refine ⟨?_, fun hup here entry hentry => ?_⟩
      · rw [hstores.keeps_iff]
        constructor
        · rintro hsame ⟨-, -, text, hentry, hne⟩
          have := hsame _ hentry
          injection this with htext
          exact hne htext
        · intro hnot entry hentry
          obtain ⟨text, rfl⟩ := hentries entry hentry
          by_contra hne
          exact hnot ⟨hmissing, rfl, text, hentry, fun htext => hne (by rw [htext])⟩
      · refine hstores.keeps_iff.mpr (fun entry hentry => ?_) here entry hentry
        rw [hstores.isPresent_of_find? hup hentry] at hmissing
        cases hmissing

end OutputFile
end CodeScribe
