import CodeScribe.Proofs.LineEnds.Tape
import CodeScribe.Proofs.LineEnds.Unify

/-! Torn lines: terminators printed right behind a carriage return of a text. Unified, such a line
end becomes one line feed under the shorter terminator and two under the longer one. -/
namespace CodeScribe
open Tape (spell)

namespace Mark

def isBlank : Mark → Bool
  | .ink c => Character.isBlank c
  | .terminator => true

private theorem allBlank_spell (newline : Newline) {m : Mark} (h : m.isBlank = true) :
    Text.allBlank (m.spell newline) = true := by
  cases m with
  | ink c => simpa [spell, Text.allBlank, isBlank] using h
  | terminator => cases newline <;> rfl

end Mark

namespace Tape

/-- The tape up to its last visible character. -/
def body (t : Tape) : Tape := t.rdropWhile Mark.isBlank

private theorem allBlank_spell (newline : Newline) {t : Tape} (h : ∀ m ∈ t, m.isBlank = true) :
    Text.allBlank (spell newline t) = true := by
  induction t with
  | nil => rfl
  | cons m t ih =>
    have hm := m.allBlank_spell newline (h m List.mem_cons_self)
    have ht := ih fun n hn => h n (List.mem_cons_of_mem m hn)
    rw [Text.allBlank_iff] at hm ht ⊢
    rw [spell_cons, Text.visible_append, hm, ht, List.append_nil]

/-- The body is empty, or its last item is a visible character. -/
private theorem body_cases (t : Tape) :
    body t = [] ∨ ∃ front c, body t = front ++ [.ink c] ∧ Character.isBlank c = false := by
  by_cases hb : body t = []
  · left
    exact hb
  · right
    have hlast := List.rdropWhile_last_not Mark.isBlank t hb
    have hsplit := List.dropLast_append_getLast hb
    cases hm : (body t).getLast hb with
    | ink c =>
      rw [hm] at hsplit
      refine ⟨(body t).dropLast, c, hsplit.symm, ?_⟩
      have hc : (List.getLast (t.rdropWhile Mark.isBlank) hb) = .ink c := hm
      rw [hc] at hlast
      simpa [Mark.isBlank] using hlast
    | terminator =>
      have hc : (List.getLast (t.rdropWhile Mark.isBlank) hb) = .terminator := hm
      rw [hc] at hlast
      exact absurd rfl hlast

/-- Unifying line ends and trimming the end leaves the body, unified. -/
theorem trimEnd_unifyLineEnds_spell (newline : Newline) (t : Tape) :
    Text.trimEnd (unifyLineEnds (spell newline t)) = unifyLineEnds (spell newline (body t)) := by
  have hsplit : spell newline t =
      spell newline (body t) ++ spell newline (t.rtakeWhile Mark.isBlank) := by
    rw [← spell_append, body, List.rdropWhile_append_rtakeWhile]
  have hblank : Text.allBlank
      (unifyLineEnds (spell newline (t.rtakeWhile Mark.isBlank))) = true := by
    rw [Text.allBlank_iff, visible_unifyLineEnds, ← Text.allBlank_iff]
    exact allBlank_spell newline fun m hm => List.mem_rtakeWhile_imp hm
  rcases body_cases t with hb | ⟨front, c, hb, hc⟩
  · have hnil := Text.trimEnd_append [] (unifyLineEnds (spell newline (t.rtakeWhile Mark.isBlank)))
    rw [if_pos hblank, List.nil_append] at hnil
    rw [hsplit, hb, spell_nil, List.nil_append, unifyLineEnds, hnil]
    rfl
  · have hne : c ≠ '\r' := by rintro rfl; exact absurd hc (by decide)
    have hend : Text.endsIn '\r' (spell newline (body t)) ≠ true := by
      rw [hb, spell_append]
      simp [Mark.spell, Text.endsIn, hne]
    have hbody : unifyLineEnds (spell newline (body t)) =
        unifyLineEnds (spell newline front) ++ [c] := by
      have hn : c ≠ '\n' := by rintro rfl; exact absurd hc (by decide)
      rw [hb, spell_append, unifyLineEnds_append]
      · simp [Mark.spell, unifyLineEnds_cons, hne, unifyLineEnds]
      · simp [Mark.spell, hn]
    rw [hsplit, unifyLineEnds_append fun he => absurd he hend,
      Text.trimEnd_append, if_pos hblank, hbody, Text.trimEnd_append_singleton _ hc]

/-- How many terminators are printed right behind a carriage return of a text. -/
def torn : Tape → Nat
  | [] => 0
  | m :: t => (if m = .ink '\r' ∧ t.head? = some .terminator then 1 else 0) + torn t

theorem torn_eq_zero_iff (t : Tape) : torn t = 0 ↔ ¬ [.ink '\r', .terminator] <:+: t := by
  induction t with
  | nil => simp [torn]
  | cons m t ih =>
    have hhead : [Mark.ink '\r', .terminator] <+: m :: t ↔
        m = .ink '\r' ∧ t.head? = some .terminator := by
      cases t with
      | nil => simp
      | cons n t => simp [eq_comm]
    rw [List.infix_cons_iff, hhead, torn, Nat.add_eq_zero_iff, ih, not_or]
    simp

private theorem unifyLineEnds_spell_terminator (newline : Newline) (t : Tape) :
    unifyLineEnds (spell newline (.terminator :: t)) = '\n' :: unifyLineEnds (spell newline t) := by
  cases newline <;> rfl

private theorem unifyLineEnds_spell_ink (newline : Newline) (c : Char) (t : Tape) :
    unifyLineEnds (spell newline (.ink c :: t)) =
      (if c = '\r' then (if (spell newline t).head? = some '\n' then [] else ['\n']) else [c])
        ++ unifyLineEnds (spell newline t) :=
  unifyLineEnds_cons c (spell newline t)

/-- What follows a carriage return is a line feed under both terminators or under none of them,
unless it is a terminator itself. -/
private theorem head?_spell (newline : Newline) (t : Tape) :
    (spell newline t).head? = some '\n' ↔
      t.head? = some (.ink '\n') ∨ (newline = .lf ∧ t.head? = some .terminator) := by
  cases t with
  | nil => simp
  | cons m t => cases m <;> cases newline <;> simp [Mark.spell, Newline.text]

/-- Every torn line gains a line break under the longer terminator. -/
theorem length_unifyLineEnds_spell (t : Tape) :
    (unifyLineEnds (spell .crlf t)).length = (unifyLineEnds (spell .lf t)).length + torn t := by
  induction t with
  | nil => rfl
  | cons m t ih =>
    cases m with
    | terminator =>
      simp only [unifyLineEnds_spell_terminator, List.length_cons, ih, torn]
      simp
      omega
    | ink c =>
      simp only [unifyLineEnds_spell_ink, List.length_append, ih, torn, head?_spell]
      by_cases hc : c = '\r'
      · by_cases hn : t.head? = some (.ink '\n')
        · simp [hc, hn]
        · by_cases ht : t.head? = some .terminator
          · simp [hc, ht]
            omega
          · simp [hc, hn, ht]
            omega
      · simp [hc]
        omega

theorem unifyLineEnds_spell_of_untorn {t : Tape} (h : torn t = 0) :
    unifyLineEnds (spell .crlf t) = unifyLineEnds (spell .lf t) := by
  induction t with
  | nil => rfl
  | cons m t ih =>
    obtain ⟨hm, ht⟩ := Nat.add_eq_zero_iff.mp h
    cases m with
    | terminator => rw [unifyLineEnds_spell_terminator, unifyLineEnds_spell_terminator, ih ht]
    | ink c =>
      simp only [unifyLineEnds_spell_ink, ih ht, head?_spell]
      by_cases hc : c = '\r'
      · have hn : t.head? ≠ some .terminator := by simpa [hc] using hm
        simp [hn]
      · simp [hc]

/-- Somewhere in front of a visible character, a carriage return of a text stands directly before a
line terminator. -/
def Torn (t : Tape) : Prop := [.ink '\r', .terminator] <:+: body t

theorem unifyLineEnds_body_iff (t : Tape) :
    unifyLineEnds (spell .crlf (body t)) = unifyLineEnds (spell .lf (body t)) ↔ ¬ Torn t := by
  rw [Torn, ← torn_eq_zero_iff]
  constructor
  · intro h
    have hlen := length_unifyLineEnds_spell (body t)
    rw [h] at hlen
    omega
  · exact unifyLineEnds_spell_of_untorn

end Tape

end CodeScribe
