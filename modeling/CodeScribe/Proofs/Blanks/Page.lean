import CodeScribe.Proofs.Blanks.Sound
import CodeScribe.Proofs.Plan.Basic

/-! What a plan does to the lines of a page, as far as it concerns blank ones. On a tidy plan a line is
left blank only below one that is seen, and never first or last in a scope. -/
namespace CodeScribe
open Character (isBlank)
open Text (visible)

/-- What the current line holds so far. -/
inductive Fill where
  | none
  | blank
  | seen
  deriving DecidableEq, Repr

def Fill.add (c : Char) : Fill → Fill
  | .seen => .seen
  | _ => if isBlank c then .blank else .seen

/-- The current line and the one above it. -/
structure Page where
  /-- Whether the line above is blank. A scope starts with no line above. -/
  above : Option Bool := none
  fill : Fill := .none
  /-- Whether text is pending. -/
  held : Bool := false
  deriving DecidableEq, Repr

namespace Page

/-- The start of a document or of a scope. -/
def edge : Page := {}

/-- A fresh line below one that is seen. -/
def fresh : Page := { above := some false }

def blank (page : Page) : Bool := page.fill != .seen

def complete (page : Page) : Page := { above := some page.blank }

def put (page : Page) (c : Char) : Page :=
  if c = '\n' then page.complete else ⟨page.above, page.fill.add c, true⟩

def write (page : Page) (cs : List Char) : Page := cs.foldl put page

/-- Whether the current line may end here: a blank one needs a seen one above it. -/
def ends (page : Page) : Bool := page.fill == .seen || page.above == some false

/-- Whether every line that a text ends may end there. -/
def takes : Page → List Char → Bool
  | _, [] => true
  | page, c :: cs => c != '\r' && (c != '\n' || page.ends) && takes (page.put c) cs

end Page

def Stroke.turn : Stroke → Page → Page
  | .put c, page => page.put c
  | .flush, page => page.complete
  | .raw text, page => { page.write text with held := false }
  | .breakLine, page => page.complete
  | .endLine, page => if page.fill = .none then page else page.complete
  | .enter, page => { page with above := none }
  | .leave, page => page

/-- Whether a move leaves no blank line where none belongs. A scope is entered on a fresh line, and left
below a line that is seen; if not strict, it may also be left in the middle of such a line. -/
def Stroke.tidy (strict : Bool) : Stroke → Page → Bool
  | .put c, page => page.takes [c]
  | .flush, page => page.ends
  | .raw text, page => page.takes text
  | .breakLine, page => !page.held && page.ends
  | .endLine, page => page.fill == .none || page.ends
  | .enter, page => page == .fresh
  | .leave, page => page.above != some true || (!strict && page.fill == .seen)

def Page.follow (page : Page) (p : Plan) : Page := p.foldl (fun q s => s.turn q) page

private theorem Stroke.tidy_of_ne_leave {s : Stroke} (h : s ≠ .leave) (page : Page) :
    s.tidy true page = s.tidy false page := by
  cases s with
  | leave => exact absurd rfl h
  | _ => rfl

def Plan.tidy (strict : Bool) : Plan → Page → Bool
  | [], _ => true
  | s :: p, page => s.tidy strict page && Plan.tidy strict p (s.turn page)

namespace Page

@[simp] theorem follow_nil (page : Page) : page.follow [] = page := rfl

@[simp] theorem follow_cons (page : Page) (s : Stroke) (p : Plan) :
    page.follow (s :: p) = (s.turn page).follow p := rfl

theorem follow_append (page : Page) (p q : Plan) :
    page.follow (p ++ q) = (page.follow p).follow q := List.foldl_append ..

theorem follow_text (page : Page) (cs : List Char) : page.follow (Plan.text cs) = page.write cs := by
  rw [follow, Plan.text, List.foldl_map]
  rfl

theorem write_append (page : Page) (xs ys : List Char) :
    page.write (xs ++ ys) = (page.write xs).write ys := List.foldl_append ..

theorem takes_append (page : Page) (xs ys : List Char) :
    page.takes (xs ++ ys) = (page.takes xs && (page.write xs).takes ys) := by
  induction xs generalizing page with
  | nil => rfl
  | cons c xs ih =>
    simp only [List.cons_append, takes, ih, Bool.and_assoc]
    rfl

end Page

namespace Plan
variable {strict : Bool}

theorem tidy_append (p q : Plan) (page : Page) :
    tidy strict (p ++ q) page = (tidy strict p page && tidy strict q (page.follow p)) := by
  induction p generalizing page with
  | nil => rfl
  | cons s p ih => rw [List.cons_append, tidy, tidy, ih, Page.follow_cons, Bool.and_assoc]

theorem tidy_text (cs : List Char) (page : Page) :
    tidy strict (text cs) page = page.takes cs := by
  induction cs generalizing page with
  | nil => rfl
  | cons c cs ih =>
    rw [text, List.map_cons, tidy, ← text, ih, Stroke.tidy, Page.takes, Page.takes, Page.takes,
      Bool.and_true]
    rfl

/-- A plan that is tidy but not strictly so leaves a scope in the middle of a line below a blank one. -/
theorem exists_leave_of_tidy {p : Plan} {page : Page} (h : tidy false p page = true)
    (hstrict : tidy true p page = false) :
    ∃ before after, p = before ++ .leave :: after ∧
      (page.follow before).above = some true ∧ (page.follow before).fill = .seen := by
  induction p generalizing page with
  | nil => cases hstrict
  | cons s p ih =>
    rw [tidy, Bool.and_eq_true] at h
    rw [tidy, Bool.and_eq_false_iff] at hstrict
    rcases hstrict with hs | hp
    · by_cases hleave : s = .leave
      · subst hleave
        have habove : page.above = some true := by simpa [Stroke.tidy] using hs
        have hfill : page.fill = .seen := by simpa [Stroke.tidy, habove] using h.1
        exact ⟨[], p, rfl, habove, hfill⟩
      · rw [Stroke.tidy_of_ne_leave hleave, h.1] at hs
        cases hs
    · obtain ⟨before, after, rfl, hpage⟩ := ih h.2 hp
      exact ⟨s :: before, after, rfl, hpage⟩

end Plan

/-- The blank lines of a stretch, below a line of the given kind: none but directly below a seen line. -/
def Spaced : Option Bool → List Bool → Prop
  | _, [] => True
  | above, blank :: rest => (blank = true → above = some false) ∧ Spaced (some blank) rest

namespace Spaced

/-- What may stand at the start of a scope may stand anywhere. -/
theorem of_none {above : Option Bool} {rows : List Bool} (h : Spaced none rows) : Spaced above rows := by
  cases rows with
  | nil => trivial
  | cons blank rest => exact ⟨fun hb => absurd (h.1 hb) (by simp), h.2⟩

theorem head?_ne {rows : List Bool} (h : Spaced none rows) : rows.head? ≠ some true := by
  cases rows with
  | nil => simp
  | cons blank rest =>
    intro hb
    exact absurd (h.1 (by simpa using hb)) (by simp)

theorem not_both {above : Option Bool} {rows : List Bool} (h : Spaced above rows) {i : Nat}
    (hi : rows[i]? = some true) : rows[i + 1]? ≠ some true := by
  induction rows generalizing above i with
  | nil => simp at hi
  | cons blank rest ih =>
    cases i with
    | zero =>
      intro hnext
      cases rest with
      | nil => simp at hnext
      | cons next rest =>
        have hb : blank = true := by simpa using hi
        have hn : next = true := by simpa using hnext
        have := h.2.1 hn
        simp [hb] at this
    | succ i => exact ih h.2 (by simpa using hi)

end Spaced

/-- From one page to a later one, over the lines completed on the way. -/
structure Page.Leads (page next : Page) (rows : List Bool) : Prop where
  spaced : ∀ rest, Spaced next.above rest → Spaced page.above (rows ++ rest)
  /-- What is seen on the current line stays on it. -/
  seen : page.fill = .seen → (rows ++ [next.blank]).head? = some false

namespace Page.Leads
variable {page next last : Page} {rows more : List Bool}

theorem spaced_rows (h : page.Leads next rows) : Spaced page.above rows := by
  simpa using h.spaced [] trivial

/-- The current line goes on. -/
theorem stay (habove : next.above = page.above ∨ next.above = none)
    (hseen : page.fill = .seen → next.fill = .seen) : page.Leads next [] where
  spaced := by
    intro rest hrest
    rcases habove with ha | ha
    · rwa [ha] at hrest
    · rw [ha] at hrest
      exact hrest.of_none
  seen := by
    intro hfill
    simp [blank, hseen hfill]

theorem trans (h : page.Leads next rows) (h' : next.Leads last more) : page.Leads last (rows ++ more) where
  spaced := by
    intro rest hrest
    rw [List.append_assoc]
    exact h.spaced _ (h'.spaced rest hrest)
  seen := by
    intro hfill
    have hrows := h.seen hfill
    cases rows with
    | nil =>
      have hnext : next.fill = .seen := by simpa [blank] using hrows
      exact h'.seen hnext
    | cons blank rows => simpa using hrows

theorem complete (h : page.ends = true) : page.Leads page.complete [page.blank] where
  spaced := by
    intro rest hrest
    refine ⟨fun hb => ?_, hrest⟩
    rw [Page.blank, bne_iff_ne] at hb
    simpa [ends, hb] using h
  seen := by
    intro hfill
    simp [blank, hfill]

end Page.Leads

end CodeScribe
