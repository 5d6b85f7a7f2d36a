import CodeScribe.Proofs.Blanks.Lands
import CodeScribe.Proofs.Tail.Node

/-! Blank lines in the layout of a tree. The plan of a tree of sound texts leaves blank lines only below a
seen one and never last in a scope, except where the body of a method in braces leaves its last line open
below a blank one. -/
namespace CodeScribe
open Text (sound)
open Page (edge fresh)
open Plan (Lands)

def soundText (s : String) : Bool := sound s.toList

/-- A comment with a section or free line, all of whose texts are sound. -/
def DocComment.plain (d : DocComment) : Bool :=
  !d.isEmpty && d.summary.all soundText
    && d.typeParams.all (fun entry => soundText entry.1 && soundText entry.2)
    && d.params.all (fun entry => soundText entry.1 && soundText entry.2)
    && d.returns.all soundText && d.remarks.all soundText && d.trailer.all soundText

def Head.plain (h : Head) : Bool :=
  soundText h.signature && h.doc.all (fun doc => doc.isEmpty || doc.plain)
    && h.attributes.all soundText && h.constraints.all soundText

def Frame.plain (f : Frame) : Bool :=
  f.header.all soundText && f.footer.all soundText
    && f.brackets.all fun brackets => soundText brackets.opening && soundText brackets.closing

/-- Nothing around the children. -/
def Frame.bare (f : Frame) : Bool := f.header.isNone && f.brackets.isNone && f.footer.isNone

mutual

/-- All texts of the tree are sound, no separator is forced, and every node shows something. The body of
a method may be empty. -/
def Node.plain : Node → Bool
  | .raw text _ => soundText text
  | .block frame children =>
    frame.plain && !(frame.bare && Node.allSeparators children) && Node.allPlain children
  | .typeDecl head bases _ members => head.plain && bases.all soundText && Node.allPlain members
  | .methodDecl head _ frame body => head.plain && frame.plain && Node.allPlain body
  | .namespaceDecl name entries => soundText name && Node.allPlain entries
  | .doc comment => comment.plain
  | .attributes entries => !entries.isEmpty && entries.all soundText
  | .constraints entries => !entries.isEmpty && entries.all soundText
  | .separator forced => !forced

def Node.allPlain : List Node → Bool
  | [] => true
  | node :: rest => node.plain && Node.allPlain rest

end

private theorem soundText_append {s t : String} (hs : soundText s = true) (ht : soundText t = true) :
    soundText (s ++ t) = true := by
  rw [soundText, String.toList_append]
  exact Text.sound_append hs ht

private theorem sound_attributeLine {entry : String} (h : soundText entry = true) :
    sound (attributeLine entry) = true := by
  unfold attributeLine
  split
  · exact h
  · have hopen : sound ('[' :: entry.toList) = true :=
      Text.sound_append (by decide : sound ['['] = true) h
    exact Text.sound_append hopen (by decide)

private theorem sound_constraintLine {entry : String} (h : soundText entry = true) :
    sound (constraintLine entry) = true := by
  unfold constraintLine
  split
  · exact h
  · exact Text.sound_append (by decide) h

private theorem sound_typeSignature {head : Head} {bases : List String} (h : soundText head.signature = true)
    (hbases : bases.all soundText = true) : sound (typeSignature head bases) = true := by
  have hjoin (first : String) (rest : List String) (hall : (first :: rest).all soundText = true) :
      sound (Text.join ", ".toList ((first :: rest).map String.toList)) = true := by
    induction rest generalizing first with
    | nil => simpa [Text.join_singleton, soundText] using hall
    | cons next rest ih =>
      have hne : (next :: rest).map String.toList ≠ [] := by simp
      rw [List.all_cons, Bool.and_eq_true] at hall
      rw [List.map_cons, Text.join_cons hne, List.append_assoc]
      exact Text.sound_append hall.1 (Text.sound_append (by decide) (ih next hall.2))
  unfold typeSignature
  cases bases with
  | nil => exact h
  | cons first rest =>
    rw [List.append_assoc]
    exact Text.sound_append h (Text.sound_append (by decide) (hjoin first rest hbases))

private theorem sound_chopLineEnd {cs : List Char} (h : sound cs = true) :
    sound (Text.chopLineEnd cs) = true := by
  unfold Text.chopLineEnd
  split
  · next hend =>
    obtain ⟨front, rfl⟩ := Text.endsIn_iff.mp hend
    obtain ⟨hfront, -⟩ := Text.sound_of_feed h
    rwa [List.dropLast_concat, Text.chop_of_not_mem (Text.sound_iff.mp hfront).2.1]
  · exact h

namespace DocComment
variable {d : DocComment}

private theorem sound_named {tag name text : String} (htag : soundText tag = true)
    (hname : soundText name = true) (htext : soundText text = true) :
    soundText ("<" ++ tag ++ " name=\"" ++ name ++ "\">" ++ text ++ "</" ++ tag ++ ">") = true := by
  have hopening : soundText ("<" ++ tag ++ " name=\"" ++ name) = true :=
    soundText_append (soundText_append (soundText_append (by decide) htag) (by decide)) hname
  have hfilled : soundText ("<" ++ tag ++ " name=\"" ++ name ++ "\">" ++ text) = true :=
    soundText_append (soundText_append hopening (by decide)) htext
  exact soundText_append (soundText_append (soundText_append hfilled (by decide)) htag) (by decide)

private theorem sound_texts (h : d.plain = true) {text : List Char} (ht : text ∈ d.texts) :
    sound text = true := by
  simp only [plain, Bool.and_eq_true, List.all_eq_true] at h
  obtain ⟨⟨⟨⟨⟨⟨-, hsummary⟩, htypeParams⟩, hparams⟩, hreturns⟩, hremarks⟩, htrailer⟩ := h
  have hsection {opening closing : List Char} (hopening : sound opening = true)
      (hclosing : sound closing = true) {s : String} (hs : soundText s = true)
      (ht : text ∈ [opening, s.toList, closing]) : sound text = true := by
    simp only [List.mem_cons, List.not_mem_nil, or_false] at ht
    rcases ht with rfl | rfl | rfl
    · exact hopening
    · exact hs
    · exact hclosing
  simp only [texts, List.mem_append, List.mem_map] at ht
  rcases ht with ((((ht | ⟨entry, hmem, rfl⟩) | ⟨entry, hmem, rfl⟩) | ht) | ht) | ⟨entry, hmem, rfl⟩
  · cases hs : d.summary with
    | none => simp [hs] at ht
    | some s =>
      rw [hs] at ht hsummary
      exact hsection (by decide) (by decide) hsummary ht
  · exact sound_named (by decide) (htypeParams entry hmem).1 (htypeParams entry hmem).2
  · exact sound_named (by decide) (hparams entry hmem).1 (hparams entry hmem).2
  · obtain ⟨s, hs, rfl⟩ : ∃ s, d.returns = some s ∧
        ("<returns>" ++ s ++ "</returns>").toList = text := by simpa using ht
    rw [hs] at hreturns
    exact soundText_append (soundText_append (by decide) hreturns) (by decide)
  · cases hs : d.remarks with
    | none => simp [hs] at ht
    | some s =>
      rw [hs] at ht hremarks
      exact hsection (by decide) (by decide) hremarks ht
  · exact htrailer entry hmem

private theorem texts_ne_nil (h : d.plain = true) : d.texts ≠ [] := by
  have hne : d.isEmpty = false := by
    simp only [plain, Bool.and_eq_true, Bool.not_eq_true'] at h
    exact h.1.1.1.1.1.1
  intro hnil
  rw [Bool.eq_false_iff] at hne
  apply hne
  simp only [texts, List.append_eq_nil_iff, List.map_eq_nil_iff] at hnil
  obtain ⟨⟨⟨⟨⟨hsummary, htypeParams⟩, hparams⟩, hreturns⟩, hremarks⟩, htrailer⟩ := hnil
  cases hs : d.summary <;> cases hr : d.remarks <;> simp_all [isEmpty]

/-- The lines of a comment are sound, and there are some. -/
theorem sound_lines {lineStart : List Char} (hstart : sound lineStart = true) (h : d.plain = true) :
    (d.lines lineStart).isEmpty = false ∧ ∀ line ∈ d.lines lineStart, sound line = true := by
  constructor
  · obtain ⟨text, rest, ht⟩ := List.exists_cons_of_ne_nil (texts_ne_nil h)
    simp [lines, ht, Text.pieces_eq_ended]
  · intro line hline
    simp only [lines, List.mem_flatMap, List.mem_map] at hline
    obtain ⟨text, htext, piece, hpiece, rfl⟩ := hline
    split
    · exact hstart
    · next hne =>
      rcases Text.sound_of_mem_pieces (sound_texts h htext) hpiece with rfl | hsound
      · exact absurd rfl hne
      · rw [Text.chop_of_not_mem (Text.sound_iff.mp hsound).2.1]
        exact Text.sound_append hstart (Text.sound_space hsound)

end DocComment

section
variable {strict idle clear : Bool}

private theorem Plan.Lands.planRaw {text : String} (h : soundText text = true) (verbatim tail : Bool) :
    Lands strict false (planRaw text verbatim tail) true :=
  match verbatim, tail with
  | false, false => .line h
  | false, true => .text (sound_chopLineEnd h)
  | true, false => .rawLine h
  | true, true => .raw (sound_chopLineEnd h)

theorem Plan.Lands.entries (strict : Bool) {line : String → List Char} {texts : List String}
    (hline : ∀ s, soundText s = true → sound (line s) = true) (h : texts.all soundText = true)
    (tail : Bool) : Lands strict texts.isEmpty (Plan.lines tail (texts.map line)) true := by
  rw [← List.isEmpty_map (f := line)]
  refine .lines tail fun cs hcs => ?_
  obtain ⟨s, hmem, rfl⟩ := List.mem_map.mp hcs
  exact hline s (List.all_eq_true.mp h s hmem)

private theorem Plan.Lands.listed {line : String → List Char} {texts : List String}
    (hline : ∀ s, soundText s = true → sound (line s) = true)
    (h : (!texts.isEmpty && texts.all soundText) = true) (tail : Bool) :
    Lands strict false (Plan.lines tail (texts.map line)) true := by
  rw [Bool.and_eq_true, Bool.not_eq_true'] at h
  have hlines := entries strict hline h.2 tail
  rwa [h.1] at hlines

namespace Head
variable {h : Head} {signature lineStart : List Char}

private theorem sound_signature (hh : h.plain = true) : soundText h.signature = true := by
  rw [plain, Bool.and_eq_true, Bool.and_eq_true, Bool.and_eq_true] at hh
  exact hh.1.1.1

private theorem lands_planPreamble (strict : Bool) (hstart : sound lineStart = true) (hh : h.plain = true) :
    ∃ idle, Lands strict idle (h.planPreamble lineStart) true := by
  rw [plain, Bool.and_eq_true, Bool.and_eq_true, Bool.and_eq_true] at hh
  obtain ⟨⟨⟨-, hdoc⟩, hattributes⟩, -⟩ := hh
  have hcomment : ∃ idle, Lands strict idle (h.planComment lineStart) true := by
    unfold planComment
    cases hd : h.doc with
    | none => exact ⟨true, .nil⟩
    | some doc =>
      rw [hd, Option.all_some, Bool.or_eq_true] at hdoc
      dsimp only
      split
      · exact ⟨true, .nil⟩
      · next he => exact ⟨_, .lines false (DocComment.sound_lines hstart (hdoc.resolve_left he)).2⟩
  obtain ⟨idle, hcomment⟩ := hcomment
  exact ⟨_, hcomment.append (.entries strict (fun _ => sound_attributeLine) hattributes false)⟩

private theorem lands_constraints (hh : h.plain = true) (hne : h.constraints.isEmpty = false) :
    Lands strict false (Plan.lines true (h.constraints.map constraintLine)) true := by
  rw [plain, Bool.and_eq_true] at hh
  exact .listed (fun _ => sound_constraintLine) (by rw [hne, hh.2]; rfl) true

private theorem lands_planOpen (hh : h.plain = true) (hsignature : sound signature = true) :
    Lands strict false (h.planOpen signature) true := by
  unfold planOpen plan
  split
  · exact (Lands.text hsignature).endLine
  · next hne => exact (lands_constraints hh (by simpa using hne)).indented hsignature

/-- What stands in front of the semicolon, given what it adds to a head that has landed. -/
theorem lands_planClosed (hh : h.plain = true) (hsignature : sound signature = true) (tail : Bool)
    {text : Bool → Plan}
    (htext : ∀ (nested : Bool) (p : Plan), Lands strict false p true →
      Lands strict false (p ++ text nested) clear) :
    Lands strict false (h.planClosed signature tail text) clear := by
  have hsemicolon {p : Plan} (hp : Lands strict false p clear) :
      Lands strict false (p ++ [.put ';']) clear := by
    have hput : Lands strict false [.put ';'] true := Lands.text (by decide : sound [';'] = true)
    simpa using hp.append hput
  unfold planClosed plan
  split
  · have hclosed := hsemicolon (htext false _ (.text hsignature))
    cases tail with
    | true => simpa using hclosed
    | false => simpa using hclosed.endLine
  · next hne =>
    have hclosed := hsemicolon (htext true _ (lands_constraints hh (by simpa using hne)))
    simpa using hclosed.indented hsignature

private theorem lands_planTerminated (hh : h.plain = true) (hsignature : sound signature = true)
    (tail : Bool) : Lands strict false (h.planClosed signature tail fun _ => []) true :=
  lands_planClosed hh hsignature tail fun _ p hp => by rwa [List.append_nil]

end Head

/-- A block whose children may be written on any page, and end their lines when nothing goes behind. -/
theorem Frame.lands_plan {f : Frame} (hf : f.plain = true) {children : Bool → Plan}
    (hchildren : ∀ glue, Lands strict idle (children glue) clear)
    (hleave : Stroke.leave.tidy strict (edge.follow (children false)) = true) (tail : Bool) :
    Lands strict (f.bare && idle) (f.plan children tail) clear := by
  rw [plain, Bool.and_eq_true, Bool.and_eq_true] at hf
  obtain ⟨⟨hheader, hfooter⟩, hbrackets⟩ := hf
  have hheaded : Lands strict f.header.isNone f.planHeader true := by
    unfold planHeader
    cases hd : f.header with
    | none => exact .nil
    | some header =>
      rw [hd] at hheader
      exact .ite f.joined (.text hheader) (.line hheader)
  have hfilled : Lands strict (f.brackets.isNone && idle) (f.planChildren children tail) clear := by
    unfold planChildren
    cases hb : f.brackets with
    | none => exact hchildren _
    | some brackets =>
      rw [hb, Option.all_some, Bool.and_eq_true] at hbrackets
      simpa using (hchildren false).enclosed (f.glues tail) hbrackets.1 hbrackets.2 hleave
  have hended : Lands strict f.footer.isNone (f.planFooter tail) true := by
    unfold planFooter
    cases hd : f.footer with
    | none => exact .nil
    | some footer =>
      rw [hd] at hfooter
      cases tail with
      | true => simpa using Lands.text hfooter
      | false => exact (Lands.text hfooter).endLine
  have hplan := (hheaded.append hfilled).append hended
  have hbare : (f.header.isNone && (f.brackets.isNone && idle) && f.footer.isNone) = (f.bare && idle) := by
    rw [bare]
    cases f.header.isNone <;> cases f.brackets.isNone <;> cases f.footer.isNone <;> simp
  rwa [hbare, Bool.true_and, Bool.and_true] at hplan

end

/-- What the plan of a sequence does to a page on which the sequence may start: nothing, if it is idle, and
otherwise it lands, on a fresh line unless it is in tail position. -/
structure Plan.Fills (strict tail idle : Bool) (p : Plan) (clear : Bool) (page : Page) : Prop where
  tidy : Plan.tidy strict p page = clear
  kept : idle = true → page.follow p = page
  landed : idle = false → (page.follow p).Landed
  ended : idle = false → tail = false → page.follow p = fresh

namespace Plan.Fills
variable {strict tail idle clear : Bool} {p : Plan}

private theorem lands (h : ∀ page, Fills strict tail idle p clear page) : Lands strict idle p clear where
  tidy page := (h page).tidy
  landed page := by
    cases hidle : idle with
    | true => exact .inr ⟨rfl, (h page).kept hidle⟩
    | false => exact .inl ((h page).landed hidle)

private theorem leave (h : Fills strict false idle p clear edge) :
    Stroke.leave.tidy strict (edge.follow p) = true := by
  cases hidle : idle with
  | true => rw [h.kept hidle]; rfl
  | false => rw [h.ended hidle rfl]; rfl

theorem braced (h : ∀ page, Fills strict false idle p clear page) (inTail : Bool) :
    Lands strict false (Plan.braced inTail p) clear := by
  simpa using (lands h).braced inTail (h edge).leave

/-- The last node of a sequence in tail position, and separators. -/
private theorem last {lead q : Plan} {clear' : Bool} {page : Page} (hlead : Plan.tidy strict lead page = true)
    (hp : Lands strict false p clear)
    (hq : Fills strict true true q clear' ((page.follow lead).follow p)) :
    Fills strict true false (lead ++ p ++ [] ++ q) (clear && clear') page := by
  rw [List.append_nil]
  refine ⟨?_, fun hidle => Bool.noConfusion hidle, fun _ => ?_, fun _ htail => Bool.noConfusion htail⟩
  · rw [tidy_append, tidy_append, hlead, hp.tidy, Page.follow_append, hq.tidy, Bool.true_and]
  · rw [Page.follow_append, Page.follow_append, hq.kept rfl]
    exact hp.lands _

/-- A node whose line is ended, and the rest of a sequence. -/
private theorem followed {lead q : Plan} {clear' : Bool} {page : Page}
    (hlead : Plan.tidy strict lead page = true)
    (hp : Lands strict false p clear) (hq : Fills strict tail idle q clear' fresh) :
    Fills strict tail false (lead ++ p ++ [.endLine] ++ q) (clear && clear') page := by
  have hended : page.follow (lead ++ p ++ [.endLine]) = fresh := by
    rw [List.append_assoc, Page.follow_append]
    exact hp.follow_endLine _
  refine ⟨?_, fun hidle => Bool.noConfusion hidle, fun _ => ?_, fun _ htail => ?_⟩
  · rw [tidy_append, hended, hq.tidy, List.append_assoc, tidy_append, hlead, hp.endLine.tidy,
      Bool.true_and]
  · rw [Page.follow_append, hended]
    cases hidle : idle with
    | true => exact .inr (hq.kept hidle)
    | false => exact hq.landed hidle
  · rw [Page.follow_append, hended]
    cases hidle : idle with
    | true => exact hq.kept hidle
    | false => exact hq.ended hidle htail

end Plan.Fills

section
variable {strict : Bool} (lineStart : List Char)

mutual

/-- No method body in braces leaves its last line open below a blank one. -/
def Node.bodiesClear : Node → Bool
  | .raw _ _ => true
  | .block _ children => Node.allBodiesClear children
  | .typeDecl _ _ terminated members => terminated || Node.allBodiesClear members
  | .methodDecl _ style frame body =>
    match style with
    | .block =>
      Node.allBodiesClear body && (edge.follow
        (frame.plan (fun glue => Node.planAll lineStart .statements glue body {}) false)).above != some true
    | .arrow => Node.allBodiesClear body
    | .abstract => true
  | .namespaceDecl _ entries => Node.allBodiesClear entries
  | .doc _ => true
  | .attributes _ => true
  | .constraints _ => true
  | .separator _ => true

def Node.allBodiesClear : List Node → Bool
  | [] => true
  | node :: rest => node.bodiesClear && Node.allBodiesClear rest

end

/-- A body may leave its last line open only if it has landed on it. -/
private theorem leave_tidy_of_landed (strict : Bool) {page : Page} (h : page.Landed ∨ page = edge) :
    Stroke.leave.tidy strict page = (!strict || page.above != some true) := by
  rcases h with (hfill | rfl) | rfl
  · cases strict <;> simp [Stroke.tidy, hfill]
  · cases strict <;> rfl
  · cases strict <;> rfl

variable {lineStart}

mutual

/-- The plan of a plain node leaves no blank line where none belongs, but where bodies are not clear. -/
theorem Node.lands_plan (hstart : sound lineStart = true) : ∀ (n : Node) (tail : Bool),
    n.plain = true → n.isSeparator = false →
      Lands strict false (n.plan lineStart tail) (!strict || n.bodiesClear lineStart)
  | .raw text verbatim, tail, h, _ => by
    rw [Node.plain] at h
    rw [bodiesClear, Bool.or_true]
    exact .planRaw h verbatim tail
  | .block frame children, tail, h, _ => by
    obtain ⟨⟨hframe, hshows⟩, hchildren⟩ : (frame.plain = true ∧
        (frame.bare = false ∨ Node.allSeparators children = false)) ∧ Node.allPlain children = true := by
      simpa [Node.plain] using h
    have hfills (glue : Bool) (page : Page) :=
      Node.fills_planAll hstart .statements glue children {} page hchildren rfl (.inl rfl)
    have hblock := Frame.lands_plan hframe (fun glue => Plan.Fills.lands (hfills glue))
      (hfills false edge).leave tail
    rwa [Bool.and_eq_false_iff.mpr hshows] at hblock
  | .typeDecl head bases terminated members, tail, h, _ => by
    obtain ⟨⟨hhead, hbases⟩, hmembers⟩ : (head.plain = true ∧ bases.all soundText = true) ∧
        Node.allPlain members = true := by
      simpa [Node.plain] using h
    have hsignature := sound_typeSignature (Head.sound_signature hhead) hbases
    obtain ⟨idle, hpreamble⟩ := Head.lands_planPreamble strict hstart hhead
    rw [bodiesClear]
    cases terminated with
    | true =>
      rw [Bool.true_or, Bool.or_true]
      exact (Head.lands_planTerminated hhead hsignature tail).behind hpreamble
    | false =>
      have hfills (page : Page) :=
        Node.fills_planAll hstart .members false members {} page hmembers rfl (.inl rfl)
      exact ((Plan.Fills.braced hfills tail).behind (Head.lands_planOpen hhead hsignature)).behind hpreamble
  | .methodDecl head style frame body, tail, h, _ => by
    obtain ⟨⟨hhead, hframe⟩, hbody⟩ : (head.plain = true ∧ frame.plain = true) ∧
        Node.allPlain body = true := by
      simpa [Node.plain] using h
    obtain ⟨idle, hpreamble⟩ := Head.lands_planPreamble strict hstart hhead
    have hfills (glue : Bool) (page : Page) :=
      Node.fills_planAll hstart .statements glue body {} page hbody rfl (.inl rfl)
    have hstatements := Frame.lands_plan hframe (fun glue => Plan.Fills.lands (hfills glue))
      (hfills false edge).leave
    cases style with
    | block =>
      have hleave := leave_tidy_of_landed strict
        (((hstatements false).landed edge).imp_right And.right)
      have hbraced := (hstatements false).braced tail hleave
      rw [← Bool.or_and_distrib_left] at hbraced
      exact (hbraced.behind (Head.lands_planOpen hhead (Head.sound_signature hhead))).behind hpreamble
    | arrow =>
      refine Plan.Lands.behind (Head.lands_planClosed hhead (Head.sound_signature hhead) tail ?_) hpreamble
      intro nested p hp
      have harrow : Lands strict false
          (p ++ if nested then .endLine :: Plan.text "=> ".toList else Plan.text " => ".toList) true := by
        cases nested with
        | true => simpa using hp.endLine.append (.text (by decide : sound "=> ".toList = true))
        | false => exact hp.append (.text (by decide))
      have hclosed := harrow.append (hstatements true)
      rw [Bool.false_and, Bool.true_and, List.append_assoc] at hclosed
      exact hclosed
    | abstract =>
      have hclear : (!strict || (Node.methodDecl head .abstract frame body).bodiesClear lineStart) = true :=
        Bool.or_true _
      rw [hclear]
      exact (Head.lands_planTerminated hhead (Head.sound_signature hhead) tail).behind hpreamble
  | .namespaceDecl name entries, tail, h, _ => by
    obtain ⟨hname, hentries⟩ : soundText name = true ∧ Node.allPlain entries = true := by
      simpa [Node.plain] using h
    have hfills (page : Page) :=
      Node.fills_planAll hstart .entries false entries {} page hentries rfl (.inl rfl)
    exact (Plan.Fills.braced hfills tail).behind (.line (Text.sound_append (by decide) hname))
  | .doc comment, _, h, _ => by
    obtain ⟨hne, hlines⟩ := DocComment.sound_lines hstart h
    have hcomment : Lands strict _ (Plan.lines false (comment.lines lineStart)) true := .lines false hlines
    rw [hne] at hcomment
    rwa [bodiesClear, Bool.or_true]
  | .attributes entries, tail, h, _ => by
    rw [bodiesClear, Bool.or_true]
    exact .listed (fun _ => sound_attributeLine) h tail
  | .constraints entries, tail, h, _ => by
    rw [bodiesClear, Bool.or_true]
    exact .listed (fun _ => sound_constraintLine) h tail
  | .separator forced, _, _, hs => by simp [isSeparator, separation?] at hs

theorem Node.fills_planAll (hstart : sound lineStart = true) (spacing : Spacing) (tail : Bool) :
    ∀ (nodes : List Node) (gap : Gap) (page : Page), Node.allPlain nodes = true → gap.forced = false →
    (gap.previous = none ∨ page = fresh ∨ Node.allSeparators nodes = true) →
      Plan.Fills strict tail (Node.allSeparators nodes)
        (Node.planAll lineStart spacing tail nodes gap)
        (!strict || Node.allBodiesClear lineStart nodes) page
  | [], gap, page, _, hgap, _ => by
    have hnothing : Node.planAll lineStart spacing tail [] gap = [] := by
      simp [Node.planAll, hgap]
    rw [hnothing]
    exact ⟨by simp [Plan.tidy, allBodiesClear], fun _ => rfl, by simp [allSeparators],
      by simp [allSeparators]⟩
  | node :: rest, gap, page, hnodes, hgap, hpage => by
    obtain ⟨hnode, hrest⟩ : node.plain = true ∧ Node.allPlain rest = true := by
      simpa [Node.allPlain] using hnodes
    cases hs : node.separation? with
    | some forced =>
      have hunforced : forced = false := by
        cases node <;> simp_all [separation?, Node.plain]
      have hclear : node.bodiesClear lineStart = true := by
        cases node <;> simp_all [separation?, bodiesClear]
      have hsep : Node.allSeparators (node :: rest) = Node.allSeparators rest := by
        simp [allSeparators, isSeparator, hs]
      rw [hsep] at hpage
      rw [hsep, allBodiesClear, hclear, Bool.true_and]
      simp only [Node.planAll, hs]
      exact Node.fills_planAll hstart spacing tail rest (gap.widen forced) page hrest
        (by simp [Gap.widen, hgap, hunforced]) hpage
    | none =>
      have hsep : Node.allSeparators (node :: rest) = false := by
        simp [allSeparators, isSeparator, hs]
      have hgapped : Plan.tidy strict
          (if gap.blank spacing node.isDeclaration then Plan.blankLine else []) page = true := by
        split
        · next hblank =>
          -- no separator is forced, so only a node in front asks for a blank line, and its line is ended
          have hprevious : gap.previous ≠ none := by
            intro hnone
            simp [Gap.blank, hnone, hgap] at hblank
          rcases hpage with hnone | rfl | hall
          · exact absurd hnone hprevious
          · rfl
          · simp [hsep] at hall
        · rfl
      have hlands := Node.lands_plan hstart node (tail && Node.allSeparators rest) hnode
        (by simp [isSeparator, hs])
      rw [hsep, allBodiesClear, Bool.or_and_distrib_left]
      simp only [Node.planAll, hs]
      cases hlast : tail && Node.allSeparators rest with
      | true =>
        rw [hlast] at hlands
        obtain ⟨rfl, hseps⟩ : tail = true ∧ Node.allSeparators rest = true := by simpa using hlast
        have hmore (next : Page) := Node.fills_planAll hstart spacing true rest
          { previous := some node.isDeclaration } next hrest rfl (.inr (.inr hseps))
        rw [hseps] at hmore
        exact .last hgapped hlands (hmore _)
      | false =>
        rw [hlast] at hlands
        exact .followed hgapped hlands (Node.fills_planAll hstart spacing tail rest
          { previous := some node.isDeclaration } fresh hrest rfl (.inr (.inl rfl)))

end

end

end CodeScribe
