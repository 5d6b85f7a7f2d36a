import CodeScribe.Proofs.FileSystem.Output

/-! A workspace is a disk whose root is the working folder. The two answer alike on every path that does not
lead above it. -/
namespace CodeScribe
open Workspace (namesOf)

namespace Workspace
variable {w : Workspace} {here there : Location} {names : List String} {path : String}

/-- A workspace as a disk that refuses nothing. -/
def disk (w : Workspace) (hw : w.Sound) : Disk := { tree := w, sound := hw, home := rfl }

/-- Names that never lead above the root. -/
def StaysInside (here : Location) : List String → Prop
  | [] => True
  | name :: rest => (name = ".." → here ≠ []) ∧ StaysInside (here.step name) rest

theorem StaysInside.of_isPrefix {more : List String} (h : StaysInside here more) (hstarts : names <+: more) :
    StaysInside here names := by
  induction names generalizing here more with
  | nil => trivial
  | cons name names ih =>
    obtain ⟨rest, rfl⟩ := hstarts
    exact ⟨h.1, ih h.2 ⟨rest, rfl⟩⟩

/-- A path below the working folder. -/
structure Inside (path : String) : Prop where
  relative : Path.isAbsolute path = false
  stays : StaysInside [] (namesOf path)

/-- A name leads nowhere, to the folder above, or to what it names. -/
private theorem step_cases (here : Location) (name : String) :
    ((name = "" || name = ".") = true ∧ here.step name = here) ∨
      (name = ".." ∧ here.step name = here.dropLast) ∨
      ((name = "" || name = ".") = false ∧ name ≠ ".." ∧ here.step name = here ++ [name]) := by
  rw [Location.step]
  cases hidle : (name = "" || name = ".") with
  | true => simp
  | false =>
    by_cases hup : name = ".."
    · simp [hup]
    · simp [hup]

private theorem follow_cons {name : String} (hin : name = ".." → here ≠ []) (rest : List String) :
    w.follow here (name :: rest) =
      if w.find? here = some .folder then w.follow (here.step name) rest else none := by
  rw [follow]
  by_cases hfolder : w.find? here = some .folder
  · rw [if_neg (not_not.mpr hfolder), if_pos hfolder]
    rcases step_cases here name with ⟨hidle, hstep⟩ | ⟨rfl, hstep⟩ | ⟨hidle, hup, hstep⟩
    · rw [hstep, if_pos hidle]
    · rw [hstep, if_neg (by decide), if_pos rfl, if_neg (hin rfl)]
    · rw [hstep, hidle, if_neg Bool.false_ne_true, if_neg hup]
  · rw [if_pos hfolder, if_neg hfolder]

private theorem follow_disk (hw : w.Sound) (h : StaysInside here names) :
    (w.disk hw).follow here names = w.follow here names := by
  induction names generalizing here with
  | nil => rfl
  | cons name names ih =>
    rw [Disk.follow, follow_cons h.1, ih h.2]
    rfl

private theorem locate_disk (hw : w.Sound) (h : Inside path) : (w.disk hw).locate path = w.locate path := by
  rw [Disk.locate, locate, Disk.base, h.relative, Bool.or_false]
  split
  · rfl
  · exact follow_disk hw h.stays

private theorem reach?_disk (hw : w.Sound) (h : Inside path) : (w.disk hw).reach? path = w.reach? path := by
  rw [Disk.reach?, locate_disk hw h]
  rfl

private theorem readText?_disk (hw : w.Sound) (h : Inside path) :
    (w.disk hw).readText? path = w.readText? path := by
  rw [Disk.readText?, reach?_disk hw h]
  rfl

private theorem fileNames?_disk (hw : w.Sound) (h : Inside path) :
    (w.disk hw).fileNames? path = w.fileNames? path := by
  rw [Disk.fileNames?, locate_disk hw h]
  rfl

private theorem makeFoldersAt_cons (hw : w.Sound) (hhere : w.find? here = some .folder) {name : String}
    (hin : name = ".." → here ≠ []) (rest : List String) : w.makeFoldersAt here (name :: rest) =
      match w.find? (here.step name) with
      | some .folder => w.makeFoldersAt (here.step name) rest
      | some (.file _) => (false, w)
      | none => (w.put (here.step name) .folder).makeFoldersAt (here.step name) rest := by
  rw [makeFoldersAt]
  rcases step_cases here name with ⟨hidle, hstep⟩ | ⟨rfl, hstep⟩ | ⟨hidle, hup, hstep⟩
  · rw [hstep, if_pos hidle, hhere]
  · rw [hstep, if_neg (by decide), if_pos rfl, if_neg (hin rfl), hw.find?_dropLast hhere]
  · rw [hstep]
    exact (if_neg (Bool.eq_false_iff.mp hidle)).trans (if_neg hup)

private theorem names_step {name : String} (hnames : ∀ n ∈ here, IsName n) (hname : '/' ∉ name.toList) :
    ∀ n ∈ here.step name, IsName n := by
  rcases step_cases here name with ⟨-, hstep⟩ | ⟨-, hstep⟩ | ⟨hidle, hup, hstep⟩
  · rwa [hstep]
  · rw [hstep]
    exact fun n hn => hnames n (List.mem_of_mem_dropLast hn)
  · rw [hstep]
    have hvalid : IsName name := by
      rw [Bool.or_eq_false_iff, decide_eq_false_iff_not, decide_eq_false_iff_not] at hidle
      exact ⟨hidle.1, hidle.2, hup, hname⟩
    intro n hn
    rcases List.mem_append.mp hn with hn | hn
    · exact hnames n hn
    · exact List.mem_singleton.mp hn ▸ hvalid

private theorem names_foldl_step (hnames : ∀ n ∈ here, IsName n)
    (hclean : ∀ name ∈ names, '/' ∉ name.toList) : ∀ n ∈ names.foldl Location.step here, IsName n := by
  induction names generalizing here with
  | nil => exact hnames
  | cons name names ih =>
    exact ih (names_step hnames (hclean name List.mem_cons_self))
      fun other hother => hclean other (List.mem_cons_of_mem name hother)

private theorem not_mem_of_mem_namesOf {name : String} (h : name ∈ namesOf path) : '/' ∉ name.toList := by
  obtain ⟨piece, hpiece, rfl⟩ := List.mem_map.mp h
  rw [String.toList_ofList]
  exact Text.not_mem_of_mem_pieces hpiece

private theorem change_disk (hw : w.Sound) (hallows : w.Allows here) (entry : Entry) :
    (w.disk hw).change here entry = (true, (w.put here entry).disk (hw.put hallows entry)) := by
  rw [Disk.change, dif_pos ⟨by simp [disk], hallows⟩]
  rfl

private theorem makeFoldersAt_disk (hw : w.Sound) (hhere : w.find? here = some .folder)
    (hnames : ∀ n ∈ here, IsName n) (hclean : ∀ name ∈ names, '/' ∉ name.toList) (h : StaysInside here names) :
    ∃ hmade, (w.disk hw).makeFoldersAt here names =
      ((w.makeFoldersAt here names).1, (w.makeFoldersAt here names).2.disk hmade) := by
  induction names generalizing w here with
  | nil => exact ⟨hw, rfl⟩
  | cons name names ih =>
    have hthere := names_step hnames (hclean name List.mem_cons_self)
    have hrest : ∀ other ∈ names, '/' ∉ other.toList := fun other hother =>
      hclean other (List.mem_cons_of_mem name hother)
    rw [Disk.makeFoldersAt, makeFoldersAt_cons hw hhere h.1]
    cases hfound : w.find? (here.step name) with
    | some entry =>
      have hdisk : (w.disk hw).find? (here.step name) = some entry := hfound
      rw [hdisk]
      cases entry with
      | folder => exact ih hw hfound hthere hrest h.2
      | file text => exact ⟨hw, rfl⟩
    | none =>
      have hdisk : (w.disk hw).find? (here.step name) = none := hfound
      have hallows : w.Allows (here.step name) := by
        refine ⟨hthere, ?_, by simp [hfound]⟩
        rcases step_cases here name with ⟨-, hstep⟩ | ⟨-, hstep⟩ | ⟨-, -, hstep⟩
        · rw [hstep, hhere] at hfound
          cases hfound
        · rw [hstep, hw.find?_dropLast hhere] at hfound
          cases hfound
        · rw [hstep, List.dropLast_concat, hhere]
      rw [hdisk, change_disk hw hallows]
      exact ih (hw.put hallows .folder) (find?_put_self hallows.ne_nil ..) hthere hrest h.2

private theorem makeFolders_disk (hw : w.Sound) (h : Inside path) :
    ∃ hmade, (w.disk hw).makeFolders path = ((w.makeFolders path).1, (w.makeFolders path).2.disk hmade) := by
  rw [Disk.makeFolders, makeFolders, Disk.base, h.relative]
  split
  · exact ⟨hw, rfl⟩
  · exact makeFoldersAt_disk hw rfl (List.forall_mem_nil IsName) (fun _ => not_mem_of_mem_namesOf) h.stays

/-- What a path leads to is a folder, or in one. -/
private theorem folder_of_follow (hw : w.Sound) (h : StaysInside here names)
    (hhere : w.find? here = some .folder ∨ w.find? here.dropLast = some .folder)
    (hfollow : w.follow here names = some there) :
    w.find? there = some .folder ∨ w.find? there.dropLast = some .folder := by
  induction names generalizing here with
  | nil =>
    cases hfollow
    exact hhere
  | cons name names ih =>
    rw [follow_cons h.1] at hfollow
    split at hfollow
    · next hfolder =>
      refine ih h.2 ?_ hfollow
      rcases step_cases here name with ⟨-, hstep⟩ | ⟨-, hstep⟩ | ⟨-, -, hstep⟩
      · exact .inl (by rw [hstep, hfolder])
      · exact .inl (by rw [hstep, hw.find?_dropLast hfolder])
      · exact .inr (by rw [hstep, List.dropLast_concat, hfolder])
    · cases hfollow

private theorem writeEntry_eq (hlocate : w.locate path = some here) (hfree : w.find? here ≠ some .folder)
    (text : Option String) : w.writeEntry path text = (true, w.put here (.file text)) := by
  rw [writeEntry, hlocate]
  dsimp only
  split
  · next hfolder => exact absurd hfolder hfree
  · rfl

private theorem writeText_disk (hw : w.Sound) (h : Inside path) (text : String) :
    ∃ hwritten, (w.disk hw).writeText path text =
      ((w.writeEntry path (some text)).1, (w.writeEntry path (some text)).2.disk hwritten) := by
  rw [Disk.writeText, locate_disk hw h]
  cases hlocate : w.locate path with
  | none =>
    have hwrite : w.writeEntry path (some text) = (false, w) := by rw [writeEntry, hlocate]
    rw [hwrite]
    exact ⟨hw, rfl⟩
  | some here =>
    dsimp only
    by_cases hfolder : w.find? here = some .folder
    · have hwrite : w.writeEntry path (some text) = (false, w) := by
        rw [writeEntry, hlocate]
        dsimp only
        rw [hfolder]
      rw [hwrite, Disk.change, dif_neg fun hchange => hchange.2.free hfolder]
      exact ⟨hw, rfl⟩
    · have hfollow : w.follow [] (namesOf path) = some here := by
        rw [locate] at hlocate
        split at hlocate
        · cases hlocate
        · exact hlocate
      have hnames : ∀ n ∈ here, IsName n := by
        rw [Disk.eq_of_locate ((locate_disk hw h).trans hlocate), Disk.place, Disk.base, h.relative]
        exact names_foldl_step (List.forall_mem_nil IsName) fun _ => not_mem_of_mem_namesOf
      have hallows : w.Allows here :=
        ⟨hnames, (folder_of_follow hw h.stays (.inl rfl) hfollow).resolve_left hfolder, hfolder⟩
      rw [writeEntry_eq hlocate hfolder, change_disk hw hallows]
      exact ⟨hw.put hallows _, rfl⟩

/-- The parent of a path below the working folder is not above it either. -/
theorem Inside.parent? {folder : String} (h : Inside path) (hparent : Path.parent? path = some folder) :
    Inside folder := by
  have hpath : path ≠ "" := by
    rintro rfl
    cases hparent
  by_cases hempty : folder = ""
  · subst hempty
    exact ⟨rfl, fun hup => absurd hup (by decide), trivial⟩
  · rcases Path.namesOf_parent? hparent with hfolder | ⟨habsolute, -⟩ | hstarts
    · exact absurd hfolder hempty
    · rw [h.relative] at habsolute
      cases habsolute
    · exact ⟨(Path.isAbsolute_eq_of_isPrefix hpath hempty hstarts).trans h.relative,
        h.stays.of_isPrefix hstarts⟩

/-- Two actions answer alike and do the same, one to a workspace and one to the disk that it is. -/
def Alike {α : Type} (w : Workspace) (x : StateM Disk α) (y : StateM Workspace α) : Prop :=
  ∀ hw : w.Sound, ∃ hafter, x.run (w.disk hw) = ((y.run w).1, (y.run w).2.disk hafter)

section
variable {α β : Type}

theorem alike_pure (w : Workspace) (a : α) : w.Alike (pure a) (pure a) := fun hw => ⟨hw, rfl⟩

theorem Alike.bind {x : StateM Disk α} {y : StateM Workspace α} {k : α → StateM Disk β}
    {l : α → StateM Workspace β} (hx : w.Alike x y)
    (hk : ∀ a after, y.run w = (a, after) → after.Alike (k a) (l a)) : w.Alike (x >>= k) (y >>= l) := by
  intro hw
  obtain ⟨hmiddle, hrun⟩ := hx hw
  obtain ⟨hafter, hend⟩ := hk (y.run w).1 (y.run w).2 rfl hmiddle
  refine ⟨hafter, ?_⟩
  rw [run_bind hrun, hend]
  rfl

end

theorem alike_readText? (w : Workspace) (h : Inside path) :
    w.Alike (FileSystem.readText? path) (FileSystem.readText? path) := fun hw =>
  ⟨hw, congrArg (·, w.disk hw) (readText?_disk hw h)⟩

theorem alike_fileNames? (w : Workspace) (h : Inside path) :
    w.Alike (FileSystem.fileNames? path) (FileSystem.fileNames? path) := fun hw =>
  ⟨hw, congrArg (·, w.disk hw) (fileNames?_disk hw h)⟩

private theorem alike_isPresent (w : Workspace) (h : Inside path) :
    w.Alike (FileSystem.isPresent path) (FileSystem.isPresent path) := fun hw =>
  ⟨hw, congrArg (·, w.disk hw) (congrArg Option.isSome (reach?_disk hw h))⟩

private theorem alike_replace (w : Workspace) (f : OutputFile) (h : Inside f.path) :
    w.Alike f.replace f.replace := by
  have hwrite : ∀ after : Workspace, after.Alike
      (do if ← FileSystem.writeText f.path f.content then return .ok .written
          return .error ⟨f.path⟩ : StateM Disk (Except AccessError WriteOutcome))
      (do if ← FileSystem.writeText f.path f.content then return .ok .written
          return .error ⟨f.path⟩) := by
    intro after
    refine Alike.bind (fun hw => writeText_disk hw h f.content) fun written last _ => ?_
    cases written <;> exact alike_pure last _
  rw [OutputFile.replace, OutputFile.replace]
  cases hparent : Path.parent? f.path with
  | none => exact hwrite w
  | some folder =>
    refine Alike.bind (fun hw => makeFolders_disk hw (h.parent? hparent)) fun made after _ => ?_
    cases made with
    | false => exact alike_pure after _
    | true => exact hwrite after

/-- A file below the working folder is written to a workspace as to the disk that it is. -/
theorem alike_write (w : Workspace) (f : OutputFile) (h : Inside f.path) : w.Alike f.write f.write := by
  refine (alike_isPresent w h).bind fun present after _ => ?_
  cases present with
  | false => exact alike_replace after f h
  | true =>
    cases hleft : f.onlyIfMissing with
    | true => exact alike_pure after _
    | false =>
      refine (alike_readText? after h).bind fun text last _ => ?_
      by_cases htext : text = some f.content
      · rw [if_pos htext, if_pos htext]
        exact alike_pure last _
      · rw [if_neg htext, if_neg htext]
        exact alike_replace last f h

end Workspace
end CodeScribe
