import CodeScribe.Proofs.Blanks.Page

/-! Plans of sound texts: from any page they are tidy, and they end in the middle of a seen line or right
below one. -/
namespace CodeScribe
open Text (sound sound_induction visible endsIn)

namespace Page
variable {page : Page} {row cs : List Char}

/-- In the middle of a line that is seen, or on a fresh line below it. -/
def Landed (page : Page) : Prop := page.fill = .seen ∨ page = fresh

private theorem complete_of_seen (h : page.fill = .seen) : page.complete = fresh := by
  rw [complete, blank, h]
  rfl

theorem Landed.endLine (h : page.Landed) :
    Stroke.endLine.turn page = fresh ∧ ∀ strict, Stroke.endLine.tidy strict page = true := by
  rcases h with hfill | rfl
  · refine ⟨?_, fun _ => by simp [Stroke.tidy, ends, hfill]⟩
    simp [Stroke.turn, hfill, complete_of_seen hfill]
  · exact ⟨rfl, fun _ => rfl⟩

private theorem takes_row (hfeed : '\n' ∉ row) (hreturn : '\r' ∉ row) : page.takes row = true := by
  induction row generalizing page with
  | nil => rfl
  | cons c row ih =>
    rw [List.mem_cons, not_or] at hfeed hreturn
    rw [takes, ih hfeed.2 hreturn.2]
    simp [Ne.symm hfeed.1, Ne.symm hreturn.1]

private theorem write_of_seen (h : page.fill = .seen) (hfeed : '\n' ∉ row) :
    (page.write row).fill = .seen := by
  induction row generalizing page with
  | nil => exact h
  | cons c row ih =>
    rw [List.mem_cons, not_or] at hfeed
    have hput : page.put c = ⟨page.above, page.fill.add c, true⟩ := if_neg (Ne.symm hfeed.1)
    refine ih ?_ hfeed.2
    rw [hput, h]
    rfl

/-- One character of a row that is seen makes its line seen. -/
private theorem write_row (hfeed : '\n' ∉ row) (hseen : visible row ≠ []) :
    (page.write row).fill = .seen := by
  induction row generalizing page with
  | nil => exact absurd rfl hseen
  | cons c row ih =>
    rw [List.mem_cons, not_or] at hfeed
    have hput : page.put c = ⟨page.above, page.fill.add c, true⟩ := if_neg (Ne.symm hfeed.1)
    by_cases hc : Character.isBlank c = true
    · refine ih hfeed.2 ?_
      rwa [Text.visible_cons, show visible [c] = [] by simp [visible, hc], List.nil_append] at hseen
    · have hfill : (page.put c).fill = .seen := by
        rw [hput]
        cases page.fill <;> simp [Fill.add, hc]
      exact @write_of_seen _ row hfill hfeed.2

/-- A sound text may be written on any page. Its last line is complete or seen. -/
theorem write_sound (h : sound cs = true) (page : Page) :
    page.takes cs = true ∧ (endsIn '\n' cs = true → page.write cs = fresh) ∧
      (endsIn '\n' cs = false → (page.write cs).fill = .seen) := by
  revert page
  refine sound_induction h (fun row hfeed hreturn hseen page => ?_)
    fun row rest hfeed hreturn hseen hrest page => ?_
  · refine ⟨takes_row hfeed hreturn, fun hend => ?_, fun _ => write_row hfeed hseen⟩
    rw [Text.endsIn_of_not_mem hfeed] at hend
    exact Bool.noConfusion hend
  · have hrow : (page.write row).fill = .seen := write_row hfeed hseen
    have hnext : page.write (row ++ '\n' :: rest) = fresh.write rest := by
      rw [write_append, ← complete_of_seen hrow]
      rfl
    have htakes : page.takes (row ++ '\n' :: rest) = fresh.takes rest := by
      rw [takes_append, takes_row hfeed hreturn, Bool.true_and, takes, ← complete_of_seen hrow]
      simp [ends, hrow, put]
    rw [hnext, htakes]
    rcases hrest with rfl | ⟨hsound, hrest⟩
    · exact ⟨rfl, fun _ => rfl, fun hend => by simp [endsIn] at hend⟩
    · have hne : rest ≠ [] := (Text.sound_iff.mp hsound).1
      have hend : endsIn '\n' (row ++ '\n' :: rest) = endsIn '\n' rest := by
        rw [List.append_cons, Text.endsIn_append hne]
      rw [hend]
      exact hrest fresh

end Page
open Page (fresh edge)

namespace Plan

/-- From any page, the plan is tidy when it is clear, and it lands; an idle plan may also leave the page as
it is. -/
structure Lands (strict idle : Bool) (p : Plan) (clear : Bool) : Prop where
  tidy : ∀ page, Plan.tidy strict p page = clear
  landed : ∀ page : Page, (page.follow p).Landed ∨ (idle = true ∧ page.follow p = page)

namespace Lands
variable {strict idle idle' clear clear' : Bool} {p q : Plan} {cs : List Char}

theorem nil : Lands strict true [] true := ⟨fun _ => rfl, fun _ => .inr ⟨rfl, rfl⟩⟩

theorem lands (h : Lands strict false p clear) (page : Page) : (page.follow p).Landed := by
  simpa using h.landed page

theorem append (hp : Lands strict idle p clear) (hq : Lands strict idle' q clear') :
    Lands strict (idle && idle') (p ++ q) (clear && clear') where
  tidy page := by rw [tidy_append, hp.tidy, hq.tidy]
  landed page := by
    rw [Page.follow_append]
    rcases hq.landed (page.follow p) with hland | ⟨hidle', hsame⟩
    · exact .inl hland
    · rw [hsame, hidle', Bool.and_true]
      exact hp.landed page

/-- Behind a plan that is clear. -/
theorem behind (hq : Lands strict false q clear) (hp : Lands strict idle p true) :
    Lands strict false (p ++ q) clear := by
  simpa using hp.append hq

theorem ite (b : Bool) (hp : Lands strict idle p clear) (hq : Lands strict idle q clear) :
    Lands strict idle (if b then p else q) clear := by
  cases b
  · exact hq
  · exact hp

theorem text (h : sound cs = true) : Lands strict false (Plan.text cs) true where
  tidy page := by rw [tidy_text, (page.write_sound h).1]
  landed page := by
    rw [Page.follow_text]
    cases hend : endsIn '\n' cs with
    | true => exact .inl (.inr ((page.write_sound h).2.1 hend))
    | false => exact .inl (.inl ((page.write_sound h).2.2 hend))

theorem follow_line (h : sound cs = true) (page : Page) : page.follow (Plan.line cs) = fresh := by
  obtain ⟨-, hended, hopen⟩ := page.write_sound h
  unfold Plan.line
  split
  · next hend => rw [Page.follow_text, hended hend]
  · next hend =>
    rw [Page.follow_append, Page.follow_text]
    exact Page.complete_of_seen (hopen (by simpa using hend))

theorem line (h : sound cs = true) : Lands strict false (Plan.line cs) true where
  tidy page := by
    obtain ⟨htakes, -, hopen⟩ := page.write_sound h
    unfold Plan.line
    split
    · rw [tidy_text, htakes]
    · next hend =>
      rw [tidy_append, tidy_text, htakes, Page.follow_text]
      simp [Plan.tidy, Stroke.tidy, Page.ends, hopen (by simpa using hend)]
  landed page := .inl (.inr (follow_line h page))

private theorem close (tail : Bool) (h : sound cs = true) : Lands strict false (Plan.close tail cs) true :=
  ite tail (text h) (line h)

theorem lines (tail : Bool) {texts : List (List Char)} (h : ∀ cs ∈ texts, sound cs = true) :
    Lands strict texts.isEmpty (Plan.lines tail texts) true := by
  induction texts with
  | nil => exact nil
  | cons cs rest ih =>
    have hcs := h cs List.mem_cons_self
    cases rest with
    | nil => exact close tail hcs
    | cons next rest => exact (line hcs).append (ih fun l hl => h l (List.mem_cons_of_mem cs hl))

theorem raw (h : sound cs = true) : Lands strict false [.raw cs] true where
  tidy page := by simp [Plan.tidy, Stroke.tidy, (page.write_sound h).1]
  landed page := by
    obtain ⟨-, hended, hopen⟩ := page.write_sound h
    cases hend : endsIn '\n' cs with
    | true =>
      refine .inl (.inr ?_)
      rw [Page.follow_cons, Page.follow_nil, Stroke.turn, hended hend]
      rfl
    | false => exact .inl (.inl (hopen hend))

theorem rawLine (h : sound cs = true) : Lands strict false (Plan.rawLine cs) true := by
  unfold Plan.rawLine
  split
  · exact raw h
  · next hend =>
    have hseen (page : Page) : ((Stroke.raw cs).turn page).fill = .seen :=
      (page.write_sound h).2.2 (by simpa using hend)
    refine ⟨fun page => ?_, fun page => .inl (.inr ?_)⟩
    · have hraw : (Stroke.raw cs).tidy strict page = true := (page.write_sound h).1
      rw [Plan.tidy, hraw, Plan.tidy, Plan.tidy, Stroke.tidy, Page.ends, hseen]
      rfl
    · exact Page.complete_of_seen (hseen page)

/-- A landed plan ends its line below a seen one. -/
theorem follow_endLine (h : Lands strict false p clear) (page : Page) :
    page.follow (p ++ [.endLine]) = fresh := by
  rw [Page.follow_append]
  exact (h.lands page).endLine.1

theorem endLine (h : Lands strict false p clear) : Lands strict false (p ++ [.endLine]) clear where
  tidy page := by
    rw [tidy_append, h.tidy, Plan.tidy, (h.lands page).endLine.2, Plan.tidy, Bool.and_true, Bool.and_true]
  landed page := .inl (.inr (h.follow_endLine page))

/-- A scope on a fresh line, with what its opening line and its last page are like. -/
private theorem tidy_scope (h : Lands strict idle p clear) (hcs : sound cs = true)
    (hleave : Stroke.leave.tidy strict (edge.follow p) = clear') (page : Page) :
    Plan.tidy strict (Plan.line cs ++ Plan.scope p) page = (clear && clear') := by
  rw [tidy_append, (line hcs).tidy, follow_line hcs, Plan.scope, Plan.tidy]
  have hedge : Stroke.enter.turn fresh = edge := rfl
  rw [hedge, tidy_append, h.tidy, Plan.tidy, Plan.tidy, hleave]
  simp [Stroke.tidy]

private theorem follow_scope (hcs : sound cs = true) (page : Page) :
    page.follow (Plan.line cs ++ Plan.scope p) = edge.follow p := by
  rw [Page.follow_append, follow_line hcs, Plan.scope, Page.follow_cons, Page.follow_append]
  rfl

/-- A scope between two texts. -/
theorem enclosed (h : Lands strict idle p clear) {closing : List Char} (tail : Bool)
    (hcs : sound cs = true) (hclosing : sound closing = true)
    (hleave : Stroke.leave.tidy strict (edge.follow p) = clear') :
    Lands strict false (Plan.line cs ++ Plan.scope p ++ Plan.close tail closing) (clear && clear') where
  tidy page := by
    rw [tidy_append, h.tidy_scope hcs hleave, (close tail hclosing).tidy, Bool.and_true]
  landed page := by
    have hclose : Lands strict false (Plan.close tail closing) true := close tail hclosing
    rw [Page.follow_append]
    exact .inl (hclose.lands _)

theorem braced (h : Lands strict idle p clear) (tail : Bool)
    (hleave : Stroke.leave.tidy strict (edge.follow p) = clear') :
    Lands strict false (Plan.braced tail p) (clear && clear') :=
  h.enclosed tail (by decide) (by decide) hleave

/-- A scope whose last line is ended. -/
theorem indented (h : Lands strict false p clear) (hcs : sound cs = true) :
    Lands strict false (Plan.line cs ++ Plan.scope (p ++ [.endLine])) clear where
  tidy page := by
    have hleave : Stroke.leave.tidy strict (edge.follow (p ++ [.endLine])) = true := by
      rw [h.follow_endLine]
      rfl
    rw [h.endLine.tidy_scope hcs hleave, Bool.and_true]
  landed page := by
    rw [follow_scope hcs]
    exact .inl (.inr (h.follow_endLine edge))

end Lands
end Plan

end CodeScribe
