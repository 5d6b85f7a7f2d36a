import CodeScribe.Proofs.FileSystem.Path

/-! What a path leads to before and after a change: new folders hide nothing, and a file that is written is seen
at its own place only. -/
namespace CodeScribe
open Workspace (namesOf)

namespace Workspace

theorem ne_of_find?_eq_none {w : Workspace} {here : Location} (h : w.find? here = none) {entry : Location × Entry}
    (hentry : entry ∈ w.entries) : entry.1 ≠ here := by
  rintro rfl
  rw [find?] at h
  split at h
  · cases h
  · simpa using List.lookup_eq_none_iff.mp h entry hentry

/-- What is put somewhere changes no list of files in which it does not occur before or after. -/
private theorem filesIn_put {w : Workspace} {here other : Location} {entry : Entry}
    (hnew : fileName? other (here, entry) = none)
    (hold : ∀ e ∈ w.entries, e.1 = here → fileName? other e = none) :
    (w.put here entry).filesIn other = w.filesIn other := by
  rw [filesIn, filesIn, put, List.filterMap_cons_none hnew, List.filterMap_filter]
  refine List.filterMap_congr fun e he => ?_
  by_cases hhere : e.1 = here
  · simp [hhere, hold e he hhere]
  · simp [hhere]

private theorem filesIn_put_folder {w : Workspace} {here : Location} (h : w.find? here = none)
    (other : Location) : (w.put here .folder).filesIn other = w.filesIn other :=
  filesIn_put rfl fun _ he hhere => absurd hhere (ne_of_find?_eq_none h he)

private theorem fileName?_eq_none {here other : Location} (h : ∀ name, here ≠ other ++ [name])
    (entry : Entry) : fileName? other (here, entry) = none := by
  cases entry with
  | folder => rfl
  | file text =>
    rw [fileName?]
    split
    · next hlast =>
      subst hlast
      rw [List.getLast?_eq_none_iff]
      by_contra hne
      exact h _ (List.dropLast_append_getLast hne).symm
    · rfl

private theorem filesIn_put_elsewhere {w : Workspace} {here other : Location}
    (h : ∀ name, here ≠ other ++ [name]) (entry : Entry) :
    (w.put here entry).filesIn other = w.filesIn other :=
  filesIn_put (fileName?_eq_none h entry) fun e _ hhere => fileName?_eq_none (hhere ▸ h) e.2

theorem mem_filesIn {w : Workspace} {here : Location} {name : String} (h : name ∈ w.filesIn here) :
    ∃ text, (here ++ [name], Entry.file text) ∈ w.entries := by
  obtain ⟨⟨other, entry⟩, hentry, hname⟩ := List.mem_filterMap.mp h
  cases entry with
  | folder => cases hname
  | file text =>
    rw [fileName?] at hname
    split at hname
    · next hlast =>
      subst hlast
      rw [List.dropLast_append_getLast? name hname]
      exact ⟨text, hentry⟩
    · cases hname

/-- Whatever is there, is in a folder that is there. -/
theorem Sound.find?_dropLast {w : Workspace} (hw : w.Sound) {here : Location} {entry : Entry}
    (h : w.find? here = some entry) : w.find? here.dropLast = some .folder := by
  rw [find?] at h
  split at h
  · next hroot =>
    subst hroot
    rfl
  · obtain ⟨before, after, hentries, -⟩ := List.lookup_eq_some_iff.mp h
    exact (hw (here, entry) (by simp [hentries])).2

private theorem Sound.find?_of_isPrefix {w : Workspace} (hw : w.Sound) {here there : Location} {entry : Entry}
    (hthere : w.find? there = some entry) (h : here <+: there) : (w.find? here).isSome := by
  induction there using List.reverseRecOn generalizing entry with
  | nil => simp [List.prefix_nil.mp h, find?]
  | append_singleton front name ih =>
    rcases List.prefix_concat_iff.mp h with rfl | h
    · rw [hthere]
      rfl
    · have hfront := hw.find?_dropLast hthere
      rw [List.dropLast_concat] at hfront
      exact ih hfront h

end Workspace

namespace Disk
variable {d e c : Disk} {here there : Location} {names : List String} {path : String}

/-! Following names. -/

theorem follow_append (d : Disk) (here : Location) (names more : List String) :
    d.follow here (names ++ more) = (d.follow here names).bind (d.follow · more) := by
  induction names generalizing here with
  | nil => rfl
  | cons name names ih =>
    rw [List.cons_append, follow, follow]
    split
    · exact ih (here.step name)
    · rfl

private theorem eq_of_follow (h : d.follow here names = some there) :
    there = names.foldl Location.step here := by
  induction names generalizing here with
  | nil =>
    cases h
    rfl
  | cons name names ih =>
    rw [follow] at h
    split at h
    · exact ih h
    · cases h

theorem eq_of_locate (h : d.locate path = some here) : here = d.place path := by
  rw [locate] at h
  split at h
  · cases h
  · exact eq_of_follow h

/-- Where the folders of a disk are kept, every path that leads somewhere still leads there. -/
theorem follow_of_folders (hkept : ∀ here, d.find? here = some .folder → e.find? here = some .folder)
    (h : d.follow here names = some there) : e.follow here names = some there := by
  induction names generalizing here with
  | nil => exact h
  | cons name names ih =>
    rw [follow] at h ⊢
    split at h
    · next hfolder =>
      rw [if_pos (hkept here hfolder)]
      exact ih h
    · cases h

/-! Folders that are made. -/

private theorem change_cases {entry : Entry} {made : Bool} (h : d.change here entry = (made, e)) :
    e.start = d.start ∧ (made = false ∧ e.tree = d.tree ∨
      made = true ∧ d.tree.Allows here ∧ e.tree = d.tree.put here entry) := by
  rw [change] at h
  split at h
  · next hchange =>
    cases h
    exact ⟨rfl, .inr ⟨rfl, hchange.2, rfl⟩⟩
  · cases h
    exact ⟨rfl, .inl ⟨rfl, rfl⟩⟩

/-- At a location is what was there before, or a new folder where there was nothing. -/
def SameOrNew (d e : Disk) (new : Location → Prop) (here : Location) : Prop :=
  e.find? here = d.find? here ∨ new here ∧ d.find? here = none ∧ e.find? here = some .folder

section
variable {new : Location → Prop}

private theorem SameOrNew.trans (hde : d.SameOrNew e new here) (hec : e.SameOrNew c new here) :
    d.SameOrNew c new here := by
  rcases hde with he | ⟨hnew, hd, he⟩
  · rwa [SameOrNew, ← he]
  · rcases hec with hc | ⟨-, hnone, -⟩
    · exact .inr ⟨hnew, hd, hc.trans he⟩
    · rw [he] at hnone
      cases hnone

theorem SameOrNew.find?_eq_some {entry : Entry} (h : d.SameOrNew e new here)
    (hd : d.find? here = some entry) : e.find? here = some entry := by
  rcases h with he | ⟨-, hnone, -⟩
  · rw [he, hd]
  · rw [hd] at hnone
    cases hnone

end

/-- One disk has what another one has, and new folders at some locations. -/
structure Grows (d e : Disk) (new : Location → Prop) : Prop where
  start : e.start = d.start
  files : ∀ here, e.tree.filesIn here = d.tree.filesIn here
  find : ∀ here, d.SameOrNew e new here

namespace Grows
variable {new : Location → Prop}

theorem of_tree_eq (hstart : e.start = d.start) (htree : e.tree = d.tree) : d.Grows e new where
  start := hstart
  files _ := by rw [htree]
  find _ := .inl (by rw [find?, find?, htree])

theorem refl (d : Disk) : d.Grows d new := of_tree_eq rfl rfl

theorem trans (hde : d.Grows e new) (hec : e.Grows c new) : d.Grows c new where
  start := hec.start.trans hde.start
  files here := (hec.files here).trans (hde.files here)
  find here := (hde.find here).trans (hec.find here)

/-- A refused folder grows nothing, and a new one only itself. -/
private theorem change_folder {made : Bool} (h : d.change here .folder = (made, e))
    (hnone : d.find? here = none)
    (hnew : new here) : d.Grows e new := by
  obtain ⟨hstart, ⟨-, htree⟩ | ⟨-, hallows, htree⟩⟩ := change_cases h
  · exact of_tree_eq hstart htree
  · refine ⟨hstart, fun other => by rw [htree, Workspace.filesIn_put_folder hnone], fun other => ?_⟩
    rw [SameOrNew, Disk.find?, htree]
    by_cases hother : other = here
    · subst hother
      exact .inr ⟨hnew, hnone, Workspace.find?_put_self hallows.ne_nil ..⟩
    · exact .inl (Workspace.find?_put_of_ne hother ..)

end Grows

private theorem grows_makeFoldersAt (d : Disk) (here : Location) (names : List String) {new : Location → Prop}
    (hnew : ∀ taken, taken <+: names → new (taken.foldl Location.step here)) :
    d.Grows (d.makeFoldersAt here names).2 new := by
  -- the disk changes under way, so the claim is made for the disk that each name is followed on
  induction names generalizing d here with
  | nil => exact .refl d
  | cons name names ih =>
    have hrest : ∀ taken, taken <+: names → new (taken.foldl Location.step (here.step name)) := fun taken h =>
      hnew (name :: taken) (List.cons_prefix_cons.mpr ⟨rfl, h⟩)
    rw [makeFoldersAt]
    split
    · exact ih d (here.step name) hrest
    · exact .refl d
    · next hnone =>
      have hgrows : d.Grows (d.change (here.step name) .folder).2 new :=
        .change_folder rfl hnone (hrest [] List.nil_prefix)
      split
      · next made hmade =>
        rw [hmade] at hgrows
        exact hgrows.trans (ih made (here.step name) hrest)
      · next refused hrefused =>
        rw [hrefused] at hgrows
        exact hgrows

/-- The locations on the way of a path. -/
def Passes (d : Disk) (path : String) (here : Location) : Prop :=
  ∃ names, names <+: namesOf path ∧ names.foldl Location.step (d.base path) = here

/-- The folders that are made above a path are on its way. -/
theorem grows_makeFolders_parent {folder : String} (h : Path.parent? path = some folder) (d : Disk) :
    d.Grows (d.makeFolders folder).2 (d.Passes path) := by
  have hpath : path ≠ "" := by
    rintro rfl
    cases h
  rcases Path.namesOf_parent? h with rfl | ⟨-, rfl⟩ | hstarts
  · exact .refl d
  · exact .refl d
  · rw [makeFolders]
    split
    · exact .refl d
    · next hfolder =>
      have habsolute := Path.isAbsolute_eq_of_isPrefix hpath (by simpa using hfolder) hstarts
      refine grows_makeFoldersAt d _ _ fun taken htaken => ⟨taken, htaken.trans hstarts, ?_⟩
      rw [base, base, habsolute]

/-! A file that is written. -/

/-- One disk is another one with a text at the place of a path, and new folders on the way there. -/
structure Stores (d e : Disk) (path text : String) : Prop where
  start : e.start = d.start
  locate : e.locate path = some (d.place path)
  text : e.find? (d.place path) = some (.file (some text))
  free : d.find? (d.place path) ≠ some .folder
  find : ∀ here, here ≠ d.place path → d.SameOrNew e (d.Passes path) here
  files : ∀ here, (∀ name, d.place path ≠ here ++ [name]) → e.tree.filesIn here = d.tree.filesIn here

theorem writeText_cases {text : String} {written : Bool} (h : d.writeText path text = (written, e)) :
    e.start = d.start ∧ (written = false ∧ e.tree = d.tree ∨
      written = true ∧ d.locate path = some (d.place path) ∧ d.tree.Allows (d.place path) ∧
        e.tree = d.tree.put (d.place path) (.file (some text))) := by
  rw [writeText] at h
  split at h
  · cases h
    exact ⟨rfl, .inl ⟨rfl, rfl⟩⟩
  · next here hlocate =>
    have hhere := eq_of_locate hlocate
    subst hhere
    obtain ⟨hstart, hrefused | ⟨hwritten, hallows, htree⟩⟩ := change_cases h
    · exact ⟨hstart, .inl hrefused⟩
    · exact ⟨hstart, .inr ⟨hwritten, hlocate, hallows, htree⟩⟩

private theorem base_eq (hstart : e.start = d.start) (path : String) : e.base path = d.base path := by
  rw [base, base, hstart]

theorem place_eq (hstart : e.start = d.start) (path : String) : e.place path = d.place path := by
  rw [place, place, base_eq hstart]

private theorem locate_of_folders (hstart : e.start = d.start)
    (hkept : ∀ here, d.find? here = some .folder → e.find? here = some .folder)
    (h : d.locate path = some here) : e.locate path = some here := by
  rw [locate] at h ⊢
  split at h
  · cases h
  · next hempty =>
    rw [if_neg hempty, base_eq hstart]
    exact follow_of_folders hkept h

/-- Folders that are made first, and then a file. -/
theorem Grows.stores {text : String} (hgrows : d.Grows e (d.Passes path))
    (h : e.writeText path text = (true, c)) : d.Stores c path text := by
  obtain ⟨hstart, ⟨hno, -⟩ | ⟨-, hlocate, hallows, htree⟩⟩ := writeText_cases h
  · cases hno
  · rw [place_eq hgrows.start] at hlocate hallows htree
    have hput : ∀ here, here ≠ d.place path → c.find? here = e.find? here := fun here hne => by
      rw [find?, htree, Workspace.find?_put_of_ne hne, find?]
    have hfolders : ∀ here, e.find? here = some .folder → c.find? here = some .folder := fun here hfolder => by
      rw [find?, htree]
      exact hallows.find?_put_folder hfolder _
    refine ⟨hstart.trans hgrows.start, locate_of_folders hstart hfolders hlocate, ?_, ?_, ?_, ?_⟩
    · rw [find?, htree, Workspace.find?_put_self hallows.ne_nil]
    · exact fun hfolder => hallows.free ((hgrows.find _).find?_eq_some hfolder)
    · intro here hne
      rw [SameOrNew, hput here hne]
      exact hgrows.find here
    · intro here hnames
      rw [htree, Workspace.filesIn_put_elsewhere hnames, hgrows.files]

namespace Stores
variable {text : String}

theorem folder (h : d.Stores e path text) (hfolder : d.find? here = some .folder) :
    e.find? here = some .folder := by
  have hne : here ≠ d.place path := by
    rintro rfl
    exact h.free hfolder
  exact (h.find here hne).find?_eq_some hfolder

theorem locate_of_locate (h : d.Stores e path text) {other : String} (hd : d.locate other = some here) :
    e.locate other = some here :=
  locate_of_folders h.start (fun _ => h.folder) hd

private theorem reach? (h : d.Stores e path text) : e.reach? path = some (.file (some text)) := by
  rw [Disk.reach?, h.locate, Option.bind_some, h.text]

theorem readText? (h : d.Stores e path text) : e.readText? path = some text := by
  rw [Disk.readText?, h.reach?]

end Stores

/-- Whatever was there is as it was. -/
def Keeps (d e : Disk) : Prop := ∀ here entry, d.find? here = some entry → e.find? here = some entry

theorem Grows.keeps {new : Location → Prop} (h : d.Grows e new) : d.Keeps e :=
  fun here _ => (h.find here).find?_eq_some

theorem Stores.keeps_iff {text : String} (h : d.Stores e path text) :
    d.Keeps e ↔ ∀ entry, d.find? (d.place path) = some entry → entry = .file (some text) := by
  constructor
  · intro hkeeps entry hentry
    have hthere := hkeeps _ entry hentry
    rw [h.text] at hthere
    injection hthere with hthere
    exact hthere.symm
  · intro hsame here entry hentry
    by_cases hplace : here = d.place path
    · subst hplace
      rw [h.text, hsame entry hentry]
    · exact (h.find here hplace).find?_eq_some hentry

/-! Paths that never go up. -/

private theorem prefix_step {name : String} (h : name ≠ "..") (here : Location) :
    here <+: here.step name := by
  rw [Location.step]
  split
  · exact List.prefix_rfl
  · exact List.prefix_append _ _

private theorem prefix_foldl_step (h : ".." ∉ names) (here : Location) :
    here <+: names.foldl Location.step here := by
  induction names generalizing here with
  | nil => exact List.prefix_rfl
  | cons name names ih =>
    rw [List.mem_cons, not_or] at h
    exact (prefix_step (Ne.symm h.1) here).trans (ih h.2 _)

/-- A path that never goes up leads to what is at its place already, when new folders lead there. -/
theorem follow_of_find? (hup : ".." ∉ names) (h : e.follow here names = some there) {entry : Entry}
    (hentry : d.find? there = some entry)
    (hkept : ∀ l, (d.find? l).isSome → e.find? l = some .folder → d.find? l = some .folder) :
    d.follow here names = some there := by
  -- every location on the way starts the last one, so it was there before and is no new folder
  induction names generalizing here with
  | nil => exact h
  | cons name names ih =>
    have hthere := eq_of_follow h
    rw [follow] at h ⊢
    split at h
    · next hfolder =>
      have hstarts : here <+: there := hthere ▸ prefix_foldl_step hup here
      rw [if_pos (hkept here (d.sound.find?_of_isPrefix hentry hstarts) hfolder)]
      exact ih (fun hmem => hup (List.mem_cons_of_mem _ hmem)) h
    · cases h

theorem Stores.isPresent_of_find? {text : String} (h : d.Stores e path text) (hup : ".." ∉ namesOf path)
    {entry : Entry} (hentry : d.find? (d.place path) = some entry) : d.isPresent path = true := by
  have hlocate := h.locate
  rw [Disk.locate] at hlocate
  split at hlocate
  · cases hlocate
  · next hempty =>
    have hkept : ∀ l, (d.find? l).isSome → e.find? l = some .folder → d.find? l = some .folder := by
      intro l hl hfolder
      have hne : l ≠ d.place path := by
        rintro rfl
        rw [h.text] at hfolder
        cases hfolder
      rcases h.find l hne with he | ⟨-, hnone, -⟩
      · rw [← he, hfolder]
      · simp [hnone] at hl
    rw [base_eq h.start] at hlocate
    have hfollow := follow_of_find? hup hlocate hentry hkept
    rw [isPresent, Disk.reach?, Disk.locate, if_neg hempty, hfollow, Option.bind_some, hentry]
    rfl

end Disk
end CodeScribe
