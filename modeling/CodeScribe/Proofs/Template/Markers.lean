import CodeScribe.Proofs.Template.Placeholders
import CodeScribe.Proofs.Text
import Mathlib.Data.List.Infix

/-! Templates as their authors read them: literal texts and markers in turn, each marker taken where the
leftmost one starts. A source has exactly one such cut, and rendering replaces the markers of that cut and
nothing else. -/
namespace CodeScribe

namespace Template
open Character (isBlank)

private theorem isPlaceholderChar_of_isPlaceholderStart {c : Char} (h : isPlaceholderStart c = true) :
    isPlaceholderChar c = true := by
  rw [isPlaceholderStart, Bool.or_eq_true] at h
  rcases h with h | h <;> simp [isPlaceholderChar, Char.isAlphanum, h]

private theorem isBlank_of_isPlaceholderChar {c : Char} (h : isPlaceholderChar c = true) :
    isBlank c = false :=
  Text.isBlank_of_class (by decide +kernel) h

private theorem isPlaceholderChar_of_isBlank {c : Char} (h : isBlank c = true) :
    isPlaceholderChar c = false := by
  rw [Bool.eq_false_iff]
  intro hc
  rw [isBlank_of_isPlaceholderChar hc] at h
  cases h

/-- A name in double braces, with blanks around it. -/
structure Marker where
  front : List Char
  first : Char
  others : List Char
  back : List Char
  front_blank : Text.allBlank front = true
  first_start : isPlaceholderStart first = true
  others_name : others.all isPlaceholderChar = true
  back_blank : Text.allBlank back = true
  deriving DecidableEq, Repr

namespace Marker

def name (m : Marker) : String := String.ofList (m.first :: m.others)

def text (m : Marker) : List Char :=
  '{' :: '{' :: (m.front ++ m.first :: (m.others ++ (m.back ++ ['}', '}'])))

private theorem text_ne_nil (m : Marker) : m.text ≠ [] := List.cons_ne_nil _ _

private theorem text_append (m : Marker) (rest : List Char) : m.text ++ rest =
    '{' :: '{' :: (m.front ++ m.first :: (m.others ++ (m.back ++ '}' :: '}' :: rest))) := by
  simp [text]

private theorem first_seen (m : Marker) : isBlank m.first = false :=
  isBlank_of_isPlaceholderChar (isPlaceholderChar_of_isPlaceholderStart m.first_start)

/-- Blanks or braces follow the name, and neither can be a part of it. -/
private theorem behind_name (m : Marker) (rest : List Char) :
    ∃ c tail, m.back ++ '}' :: rest = c :: tail ∧ isPlaceholderChar c = false := by
  cases hback : m.back with
  | nil => exact ⟨'}', rest, rfl, by decide⟩
  | cons c back =>
    have hblank := m.back_blank
    rw [hback, Text.allBlank, List.all_cons, Bool.and_eq_true] at hblank
    exact ⟨c, back ++ '}' :: rest, rfl, isPlaceholderChar_of_isBlank hblank.1⟩

/-- What starts with a marker starts with one only. -/
private theorem text_append_inj {m n : Marker} {after rest : List Char}
    (h : m.text ++ after = n.text ++ rest) :
    m = n ∧ after = rest := by
  obtain ⟨c, tail, hm, hc⟩ := m.behind_name ('}' :: after)
  obtain ⟨d, more, hn, hd⟩ := n.behind_name ('}' :: rest)
  rw [text_append, text_append, hm, hn, List.cons_inj_right, List.cons_inj_right] at h
  obtain ⟨hfront, hinside⟩ := Text.run_inj m.front_blank m.first_seen n.front_blank n.first_seen h
  obtain ⟨hfirst, hname⟩ := List.cons.inj hinside
  obtain ⟨hothers, hbehind⟩ := Text.run_inj m.others_name hc n.others_name hd hname
  rw [← hm, ← hn] at hbehind
  obtain ⟨hback, hend⟩ := Text.run_inj m.back_blank (by decide) n.back_blank (by decide) hbehind
  cases m
  cases n
  cases hfront
  cases hfirst
  cases hothers
  cases hback
  cases hend
  exact ⟨rfl, rfl⟩

end Marker

/-- A marker at the front of a text is read, with its name and with what follows it. -/
theorem marker?_text (m : Marker) (rest : List Char) :
    marker? (m.text ++ rest) = some (m.name, rest) := by
  obtain ⟨c, tail, hback, hc⟩ := m.behind_name ('}' :: rest)
  have hinside : (m.front ++ m.first :: (m.others ++ c :: tail)).dropWhile isBlank = _ :=
    Text.dropWhile_run m.front_blank m.first_seen
  have hname : (m.others ++ c :: tail).takeWhile isPlaceholderChar = _ := Text.takeWhile_run m.others_name hc
  have hbehind : (m.others ++ c :: tail).dropWhile isPlaceholderChar = _ :=
    Text.dropWhile_run m.others_name hc
  have hend : (c :: tail).dropWhile isBlank = '}' :: '}' :: rest := by
    rw [← hback]
    exact Text.dropWhile_run m.back_blank (by decide)
  rw [m.text_append, hback]
  simp only [marker?, hinside, hbehind, hname, hend, if_pos m.first_start]
  rfl

/-- What is read is a marker, with any blanks in it. -/
theorem exists_of_marker? {text after : List Char} {name : String} (h : marker? text = some (name, after)) :
    ∃ m : Marker, m.name = name ∧ text = m.text ++ after := by
  unfold marker? at h
  split at h
  next inside =>
    split at h
    · cases h
    next c rest hinside =>
      split at h
      next hc =>
        split at h
        next tail hend =>
          cases h
          have hfront := List.takeWhile_append_dropWhile (p := isBlank) (l := inside)
          have hothers := List.takeWhile_append_dropWhile (p := isPlaceholderChar) (l := rest)
          have hback := List.takeWhile_append_dropWhile (p := isBlank) (l := rest.dropWhile isPlaceholderChar)
          rw [hinside] at hfront
          rw [hend] at hback
          refine ⟨⟨inside.takeWhile isBlank, c, rest.takeWhile isPlaceholderChar,
            (rest.dropWhile isPlaceholderChar).takeWhile isBlank, List.all_takeWhile, hc, List.all_takeWhile,
            List.all_takeWhile⟩, rfl, ?_⟩
          rw [Marker.text_append, hback, hothers, hfront]
        · cases h
      · cases h
  · cases h

private theorem marker?_eq_none_iff {text : List Char} :
    marker? text = none ↔ ∀ m : Marker, ¬ m.text <+: text := by
  constructor
  · rintro h m ⟨rest, rfl⟩
    rw [marker?_text] at h
    cases h
  · intro h
    rw [Option.eq_none_iff_forall_not_mem]
    rintro ⟨name, after⟩ hread
    obtain ⟨m, -, rfl⟩ := exists_of_marker? hread
    exact h m (List.prefix_append m.text after)

private theorem pieces_marker (m : Marker) (rest : List Char) :
    pieces (m.text ++ rest) = .placeholder m.name :: pieces rest := by
  have hread := marker?_text m rest
  rw [m.text_append] at hread ⊢
  rw [pieces]
  split
  next name after h =>
    rw [hread] at h
    cases h
    rfl
  next h =>
    rw [hread] at h
    cases h

private theorem pieces_literal {c : Char} {rest : List Char} (h : marker? (c :: rest) = none) :
    pieces (c :: rest) = .literal c :: pieces rest := by
  rw [pieces]
  split
  next name after hread =>
    rw [hread] at h
    cases h
  · rfl

/-- What stands in a text for a stretch of its template. -/
def Piece.text (value : String → String) : Piece → List Char
  | .literal c => [c]
  | .placeholder name => (value name).toList

/-- A text is made when every name has a value. -/
private theorem fill_of_values {values : Dictionary String} {value : String → String} {ps : List Piece}
    (h : ∀ name ∈ ps.filterMap Piece.name?, values.find? name = some (value name)) :
    fill values ps = .ok (ps.flatMap (Piece.text value)) := by
  induction ps with
  | nil => rfl
  | cons p rest ih =>
    cases p with
    | literal c =>
      rw [fill, ih h]
      rfl
    | placeholder name =>
      rw [List.filterMap_cons_some (f := Piece.name?) rfl, List.forall_mem_cons] at h
      simp only [fill, h.1, ih h.2]
      rfl

/-- No marker starts inside a literal text, not even one that ends in what follows it. -/
def Unmarked (literal rest : List Char) : Prop :=
  ∀ tail, tail <:+ literal → tail ≠ [] → ∀ m : Marker, ¬ m.text <+: tail ++ rest

instance (literal rest : List Char) : Decidable (Unmarked literal rest) :=
  decidable_of_iff (∀ tail ∈ literal.tails, tail ≠ [] → marker? (tail ++ rest) = none) (by
    simp only [Unmarked, List.mem_tails, marker?_eq_none_iff])

section
variable {c : Char} {literal rest : List Char}

private theorem unmarked_nil : Unmarked [] rest := fun _ htail hne => absurd (List.suffix_nil.mp htail) hne

private theorem unmarked_cons :
    Unmarked (c :: literal) rest ↔ marker? (c :: (literal ++ rest)) = none ∧ Unmarked literal rest := by
  rw [marker?_eq_none_iff]
  constructor
  · intro h
    refine ⟨h (c :: literal) (List.suffix_refl _) (List.cons_ne_nil _ _), fun tail htail => ?_⟩
    exact h tail (htail.trans (List.suffix_cons c literal))
  · rintro ⟨hfirst, hlater⟩ tail htail
    rcases List.suffix_cons_iff.mp htail with rfl | htail
    · exact fun _ => hfirst
    · exact hlater tail htail

private theorem unmarked_iff_not_infix : Unmarked literal [] ↔ ∀ m : Marker, ¬ m.text <:+: literal := by
  constructor
  · rintro h m hm
    obtain ⟨tail, hstart, htail⟩ := List.infix_iff_prefix_suffix.mp hm
    refine h tail htail ?_ m (by rwa [List.append_nil])
    rintro rfl
    exact m.text_ne_nil (List.prefix_nil.mp hstart)
  · intro h tail htail _ m hstart
    rw [List.append_nil] at hstart
    exact h m (hstart.isInfix.trans htail.isInfix)

private theorem Unmarked.ne_append (h : Unmarked literal []) (before : List Char) (m : Marker)
    (after : List Char) : before ++ (m.text ++ after) ≠ literal := by
  rintro rfl
  exact unmarked_iff_not_infix.mp h m ⟨before, after, List.append_assoc before m.text after⟩

private theorem pieces_append (h : Unmarked literal rest) :
    pieces (literal ++ rest) = literal.map .literal ++ pieces rest := by
  induction literal with
  | nil => rfl
  | cons c literal ih =>
    obtain ⟨hfirst, hlater⟩ := unmarked_cons.mp h
    rw [List.cons_append, pieces_literal hfirst, ih hlater, List.map_cons, List.cons_append]

/-- A literal text ends before the first marker, wherever that starts. -/
theorem Unmarked.isPrefix {before after : List Char} {m : Marker} (h : Unmarked literal after)
    (heq : before ++ (m.text ++ rest) = literal ++ after) : literal <+: before := by
  rcases List.append_eq_append_iff.mp heq with ⟨tail, hliteral, hmarker⟩ | ⟨more, hbefore, -⟩
  · cases tail with
    | nil => rw [hliteral, List.append_nil]
    | cons c tail =>
      refine absurd ⟨rest, hmarker⟩ (h (c :: tail) ?_ (List.cons_ne_nil c tail) m)
      rw [hliteral]
      exact List.suffix_append before (c :: tail)
  · rw [hbefore]
    exact List.prefix_append literal more

end

/-- Literal texts with a marker between each and the next. -/
inductive Cut where
  | last (literal : List Char)
  | marker (literal : List Char) (m : Marker) (rest : Cut)
  deriving DecidableEq, Repr

namespace Cut

def text : Cut → List Char
  | last literal => literal
  | marker literal m rest => literal ++ (m.text ++ rest.text)

def filled (value : String → String) : Cut → List Char
  | last literal => literal
  | marker literal m rest => literal ++ ((value m.name).toList ++ rest.filled value)

def names : Cut → List String
  | last _ => []
  | marker _ m rest => m.name :: rest.names

/-- No marker of the text starts inside a literal text. -/
def Leftmost : Cut → Prop
  | last literal => Unmarked literal []
  | marker literal m rest => Unmarked literal (m.text ++ rest.text) ∧ rest.Leftmost

instance decidableLeftmost : (cut : Cut) → Decidable cut.Leftmost
  | last literal => inferInstanceAs (Decidable (Unmarked literal []))
  | marker literal m rest =>
    have := decidableLeftmost rest
    inferInstanceAs (Decidable (Unmarked literal (m.text ++ rest.text) ∧ rest.Leftmost))

/-- The same cut with one more character in front. -/
def push (c : Char) : Cut → Cut
  | last literal => last (c :: literal)
  | marker literal m rest => marker (c :: literal) m rest

private theorem text_push (c : Char) (cut : Cut) : (cut.push c).text = c :: cut.text := by
  cases cut <;> rfl

private theorem leftmost_push {c : Char} {cut : Cut} :
    (cut.push c).Leftmost ↔ marker? (c :: cut.text) = none ∧ cut.Leftmost := by
  cases cut with
  | last literal => rw [push, Leftmost, unmarked_cons, text, List.append_nil, Leftmost]
  | marker literal m rest => rw [push, Leftmost, unmarked_cons, text, Leftmost, and_assoc]

/-- Every text has a cut whose markers are the leftmost ones. -/
theorem exists_leftmost (source : List Char) : ∃ cut : Cut, cut.text = source ∧ cut.Leftmost := by
  induction source using Template.pieces.induct with
  | case1 => exact ⟨last [], rfl, unmarked_nil⟩
  | case2 c rest name after h _ ih =>
    obtain ⟨m, -, hsource⟩ := exists_of_marker? h
    obtain ⟨cut, rfl, hcut⟩ := ih
    exact ⟨marker [] m cut, hsource.symm, unmarked_nil, hcut⟩
  | case3 c rest h ih =>
    obtain ⟨cut, rfl, hcut⟩ := ih
    exact ⟨cut.push c, text_push c cut, leftmost_push.mpr ⟨h, hcut⟩⟩

/-- Two leftmost cuts of one text are the same: the literal text in front of the first marker is as long in
both, and so is the marker. -/
theorem eq_of_text {a b : Cut} (ha : a.Leftmost) (hb : b.Leftmost) (h : a.text = b.text) : a = b := by
  induction a generalizing b with
  | last literal =>
    cases b with
    | last other => exact congrArg last h
    | marker other n tail => exact absurd h.symm (ha.ne_append other n tail.text)
  | marker literal m rest ih =>
    cases b with
    | last other => exact absurd h (hb.ne_append literal m rest.text)
    | marker other n tail =>
      have hle := (ha.1.isPrefix h.symm).length_le
      have hliteral := (hb.1.isPrefix h).eq_of_length_le hle
      subst hliteral
      obtain ⟨rfl, hrest⟩ := Marker.text_append_inj (List.append_cancel_left h)
      rw [ih ha.2 hb.2 hrest]

/-- A text has exactly one leftmost cut. -/
theorem existsUnique_leftmost (source : List Char) : ∃! cut : Cut, cut.text = source ∧ cut.Leftmost := by
  obtain ⟨cut, htext, hcut⟩ := exists_leftmost source
  refine ⟨cut, ⟨htext, hcut⟩, fun other hother => ?_⟩
  exact eq_of_text hother.2 hcut (hother.1.trans htext.symm)

/-- What a reader from left to right finds in the text. -/
def pieces : Cut → List Piece
  | last literal => literal.map .literal
  | marker literal m rest => literal.map .literal ++ .placeholder m.name :: rest.pieces

/-- The reader of templates finds the leftmost cut. -/
theorem Leftmost.pieces_text {cut : Cut} (h : cut.Leftmost) : Template.pieces cut.text = cut.pieces := by
  induction cut with
  | last literal =>
    have hpieces := pieces_append h
    rwa [List.append_nil, Template.pieces, List.append_nil] at hpieces
  | marker literal m rest ih => rw [text, pieces_append h.1, pieces_marker, ih h.2, pieces]

private theorem names_pieces (cut : Cut) : cut.pieces.filterMap Piece.name? = cut.names := by
  have hliteral (literal : List Char) : (literal.map Piece.literal).filterMap Piece.name? = [] := by
    simp [List.filterMap_map, Piece.name?]
  induction cut with
  | last literal => exact hliteral literal
  | marker literal m rest ih =>
    rw [pieces, List.filterMap_append, hliteral, List.nil_append,
      List.filterMap_cons_some (f := Piece.name?) rfl, ih, names]

private theorem text_pieces (value : String → String) (cut : Cut) :
    cut.pieces.flatMap (Piece.text value) = cut.filled value := by
  have hliteral (literal : List Char) : (literal.map Piece.literal).flatMap (Piece.text value) = literal := by
    rw [List.flatMap_map]
    exact List.flatMap_singleton' literal
  induction cut with
  | last literal => exact hliteral literal
  | marker literal m rest ih =>
    rw [pieces, List.flatMap_append, List.flatMap_cons, hliteral, ih, filled, Piece.text]

end Cut

section
variable {t : Template} {cut : Cut}

/-- The names that a template asks for are those of its markers, each once, in order of first appearance. -/
theorem placeholders_of_cut (htext : cut.text = t.source.toList) (hcut : cut.Leftmost) :
    t.placeholders = cut.names.eraseDups := by
  rw [placeholders_eq, markerNames_eq, ← htext, hcut.pieces_text, cut.names_pieces]

private theorem render_of_cut (htext : cut.text = t.source.toList) (hcut : cut.Leftmost)
    {values : Dictionary String} {value : String → String}
    (h : ∀ name ∈ t.placeholders, values.find? name = some (value name)) :
    t.render values = .ok (String.ofList (cut.filled value)) := by
  have hnames : ∀ name ∈ cut.pieces.filterMap Piece.name?, values.find? name = some (value name) := by
    rw [cut.names_pieces]
    exact fun name hname => h name (by rwa [placeholders_of_cut htext hcut, List.mem_eraseDups])
  rw [render, ← htext, hcut.pieces_text, fill_of_values hnames, cut.text_pieces]
  rfl

end

/-- A source is cut in one way into literal texts, in which no marker starts, and the markers between them.
Rendering keeps the literal texts and puts the values in the place of the markers, whatever the values
contain. A source without markers is its own rendering. -/
theorem render_leftmost (t : Template) :
    (∃! cut : Cut, cut.text = t.source.toList ∧ cut.Leftmost) ∧
    (∀ cut : Cut, cut.text = t.source.toList → cut.Leftmost →
      ∀ (values : Dictionary String) (value : String → String),
        (∀ name ∈ t.placeholders, values.find? name = some (value name)) →
        t.render values = .ok (String.ofList (cut.filled value))) ∧
    ((∀ m : Marker, ¬ m.text <:+: t.source.toList) →
      ∀ values : Dictionary String, t.render values = .ok t.source) := by
  refine ⟨Cut.existsUnique_leftmost t.source.toList, fun cut htext hcut _ _ => render_of_cut htext hcut,
    fun h values => ?_⟩
  have hcut : (Cut.last t.source.toList).Leftmost := unmarked_iff_not_infix.mpr h
  have hnone : t.placeholders = [] := placeholders_of_cut rfl hcut
  have hvalues : ∀ name ∈ t.placeholders, values.find? name = some (id name) := by simp [hnone]
  have hrender := render_of_cut rfl hcut hvalues
  rwa [Cut.filled, String.ofList_toList] at hrender

/-- Four braces on each side of a name, then a marker, then two braces around what is no name. -/
def bracedTemplate : Template :=
  { source := "\x7b\x7b\x7b\x7b a \x7d\x7d\x7d\x7d \x7b\x7bb\x7d\x7d \x7b\x7b 1 \x7d\x7d" }

def bracedCut : Cut :=
  .marker ['{', '{'] ⟨[' '], 'a', [], [' '], rfl, by decide, rfl, rfl⟩ <|
    .marker ['}', '}', ' '] ⟨[], 'b', [], [], rfl, by decide, rfl, rfl⟩ <|
    .last [' ', '{', '{', ' ', '1', ' ', '}', '}']

/-- The inner braces make the marker, and the marker in its value stays as it is. -/
theorem render_leftmost_bracedTemplate :
    bracedTemplate.render [("b", "B"), ("a", "\x7b\x7bb\x7d\x7d")] =
      .ok "\x7b\x7b\x7b\x7bb\x7d\x7d\x7d\x7d B \x7b\x7b 1 \x7d\x7d" ∧
    Template.render { source := "\x7b\x7b a \x7d \x7d" } [] = .ok "\x7b\x7b a \x7d \x7d" := by
  have hcut : bracedCut.Leftmost := by decide +kernel
  have htext : bracedCut.text = bracedTemplate.source.toList := by decide +kernel
  have hnames : bracedTemplate.placeholders = ["a", "b"] := placeholders_of_cut htext hcut
  have hplain : ∀ m : Marker, ¬ m.text <:+: "\x7b\x7b a \x7d \x7d".toList :=
    unmarked_iff_not_infix.mp (by decide +kernel)
  refine ⟨(render_leftmost bracedTemplate).2.1 bracedCut htext hcut _
    (fun name => if name = "a" then "\x7b\x7bb\x7d\x7d" else "B") ?_, (render_leftmost _).2.2 hplain []⟩
  rw [hnames]
  decide

end Template
end CodeScribe
