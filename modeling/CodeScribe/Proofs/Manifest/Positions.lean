import CodeScribe.Manifest.Source
import CodeScribe.Proofs.Text

/-! Positions in the source of a manifest. A line and a column, counted in bytes, lead back to the byte that
they were counted for, so that an error of a JSON text points to the byte that its reader stopped at. -/
namespace CodeScribe

namespace Text

/-- A text in UTF-8. -/
def bytes (cs : List Char) : List UInt8 := cs.flatMap String.utf8EncodeChar

private theorem bytes_cons (c : Char) (cs : List Char) :
    bytes (c :: cs) = String.utf8EncodeChar c ++ bytes cs :=
  List.flatMap_cons

private theorem length_bytes (cs : List Char) : (bytes cs).length = byteLength cs := by
  induction cs with
  | nil => rfl
  | cons c cs ih => rw [bytes_cons, List.length_append, ih, String.length_utf8EncodeChar, byteLength]

private theorem toList_loop (read : ByteArray) (i : Nat) (front : List UInt8) :
    ByteArray.toList.loop read i front = front.reverse ++ read.data.toList.drop i := by
  fun_induction ByteArray.toList.loop read i front with
  | case1 i front hlt ih =>
    have hi : i < read.data.toList.length := by simpa using hlt
    rw [ih, List.drop_eq_getElem_cons hi]
    simp [ByteArray.get!, hlt]
  | case2 i front hge => simpa using hge

private theorem toList_toUTF8 (s : String) : s.toUTF8.toList = bytes s.toList := by
  have hdata : s.toUTF8.data.toList = bytes s.toList := by
    rw [String.toUTF8, ← String.utf8Encode_toList]
    exact List.toList_data_toByteArray
  rw [ByteArray.toList, toList_loop, hdata]
  rfl

private theorem length_toList_toUTF8 (s : String) : s.toUTF8.toList.length = s.utf8ByteSize := by
  rw [ByteArray.toList, toList_loop, String.toUTF8]
  simp

private theorem byteLength_toList (s : String) : byteLength s.toList = s.utf8ByteSize := by
  rw [← length_bytes, ← toList_toUTF8, length_toList_toUTF8]

/-- Only a line feed has the byte of one. -/
private theorem lineFeed_mem_utf8EncodeChar {c : Char} (h : 0x0a ∈ String.utf8EncodeChar c) : c = '\n' := by
  have hbyte (n : Nat) : (0x0a : UInt8) = UInt8.ofNat n ↔ n % 256 = 10 := by
    rw [← UInt8.toNat_inj, UInt8.toNat_ofNat']
    exact eq_comm
  have hval : c.val.toNat = 10 := by
    simp only [String.utf8EncodeChar] at h
    split_ifs at h <;> simp only [List.mem_cons, List.not_mem_nil, hbyte, or_false] at h <;> omega
  exact Char.ext (UInt32.toNat_inj.mp hval)

private theorem count_lineFeed_bytes (cs : List Char) : (bytes cs).count 0x0a = cs.count '\n' := by
  induction cs with
  | nil => rfl
  | cons c cs ih =>
    rw [bytes_cons, List.count_append, ih]
    by_cases hc : c = '\n'
    · subst hc
      rw [List.count_cons_self, Nat.add_comm]
      rfl
    · rw [List.count_cons_of_ne hc, List.count_eq_zero.mpr fun h => hc (lineFeed_mem_utf8EncodeChar h),
        Nat.zero_add]

/-- The byte of a line feed stands where the text has a line feed. -/
private theorem exists_lineFeed_of_bytes {cs : List Char} {front back : List UInt8}
    (h : bytes cs = front ++ 0x0a :: back) : ∃ xs ys, cs = xs ++ '\n' :: ys ∧ bytes xs = front := by
  induction cs generalizing front with
  | nil => simp [bytes] at h
  | cons c cs ih =>
    have hlater {rest : List UInt8} (hrest : bytes cs = rest ++ 0x0a :: back) :
        ∃ xs ys, c :: cs = xs ++ '\n' :: ys ∧ bytes xs = String.utf8EncodeChar c ++ rest := by
      obtain ⟨xs, ys, rfl, rfl⟩ := ih hrest
      exact ⟨c :: xs, ys, rfl, bytes_cons c xs⟩
    rw [bytes_cons] at h
    -- the byte comes later, or it is one of the first character, which is then a line feed
    rcases List.append_eq_append_iff.mp h with ⟨rest, rfl, hrest⟩ | ⟨own, hown, hrest⟩
    · exact hlater hrest
    · cases own with
      | nil =>
        rw [List.append_nil] at hown
        rw [← hown, ← List.append_nil (String.utf8EncodeChar c)]
        exact hlater hrest.symm
      | cons b own =>
        obtain rfl : 0x0a = b := (List.cons.inj hrest).1
        obtain rfl : c = '\n' := lineFeed_mem_utf8EncodeChar (by rw [hown]; simp)
        have hfront : [0x0a] = front ++ 0x0a :: own := hown
        rw [List.singleton_eq_append_iff] at hfront
        rcases hfront with ⟨rfl, -⟩ | ⟨-, hnone⟩
        · exact ⟨[], cs, rfl, rfl⟩
        · cases hnone

/-- The last occurrence of an element. What follows it is the run without the element at the end. -/
private theorem exists_last_run {α : Type} [DecidableEq α] {xs : List α} {x : α} (h : x ∈ xs) :
    ∃ front back, xs = front ++ x :: back ∧ x ∉ back ∧ xs.reverse.takeWhile (· ≠ x) = back.reverse := by
  obtain ⟨back, front, hreverse, hback⟩ := List.eq_append_cons_of_mem (List.mem_reverse.mpr h)
  have hrun : back.all (· ≠ x) = true := by
    rw [List.all_eq_true]
    intro y hy
    rw [decide_eq_true_eq]
    rintro rfl
    exact hback hy
  refine ⟨front.reverse, back.reverse, ?_, fun hmem => hback (List.mem_reverse.mp hmem), ?_⟩
  · rw [← xs.reverse_reverse, hreverse, List.reverse_append, List.reverse_cons, List.append_assoc,
      List.singleton_append]
  · rw [hreverse, takeWhile_run hrun (by simp), List.reverse_reverse]

end Text

namespace SourceText
open Text (bytes)

/-- A line ends at each line feed, and the lines behind it are those of the text there. -/
private theorem exists_linesOf_append (xs ys : List Char) : ∃ lines : List (List Char),
    linesOf (xs ++ '\n' :: ys) = lines ++ linesOf ys ∧ lines.flatten = xs ++ ['\n'] ∧
      lines.length = xs.count '\n' + 1 := by
  induction xs with
  | nil => exact ⟨[['\n']], rfl, rfl, rfl⟩
  | cons c xs ih =>
    obtain ⟨lines, hlines, hflatten, hlength⟩ := ih
    by_cases hc : c = '\n'
    · subst hc
      refine ⟨['\n'] :: lines, ?_, ?_, ?_⟩
      · rw [List.cons_append, linesOf, if_pos rfl, hlines, List.cons_append]
      · rw [List.flatten_cons, hflatten, List.singleton_append, List.cons_append]
      · rw [List.length_cons, hlength, List.count_cons_self]
    · cases lines with
      | nil => simp at hlength
      | cons line lines =>
        refine ⟨(c :: line) :: lines, ?_, ?_, ?_⟩
        · rw [List.cons_append, linesOf, if_neg hc, hlines]
          rfl
        · rw [List.flatten_cons, List.cons_append, ← List.flatten_cons, hflatten, List.cons_append]
        · rw [List.count_cons_of_ne hc, ← hlength]
          rfl

private theorem foldl_byteLength (lines : List (List Char)) (n : Nat) :
    lines.foldl (· + Text.byteLength ·) n = n + Text.byteLength lines.flatten := by
  induction lines generalizing n with
  | nil => rfl
  | cons line lines ih => rw [List.foldl_cons, ih, List.flatten_cons, Text.byteLength_append, Nat.add_assoc]

/-- The byte at which a line starts, lines being counted from zero. -/
def lineStart (cs : List Char) (line : Nat) : Nat :=
  ((linesOf cs).take line).foldl (· + Text.byteLength ·) 0

/-- The line behind a line feed starts right there. -/
theorem lineStart_append (xs ys : List Char) :
    lineStart (xs ++ '\n' :: ys) (xs.count '\n' + 1) = Text.byteLength xs + 1 := by
  obtain ⟨lines, hlines, hflatten, hlength⟩ := exists_linesOf_append xs ys
  rw [lineStart, hlines, List.take_left' hlength, foldl_byteLength, hflatten, Text.byteLength_append,
    Nat.zero_add]
  rfl

private theorem offsetOf?_eq (s : SourceText) (line column : Nat) :
    s.offsetOf? (1 + line) column =
      let offset := lineStart s.text.toList line + (column - 1)
      if offset < s.text.utf8ByteSize then some offset else none := by
  rw [offsetOf?, if_neg (by omega), Nat.add_sub_cancel_left, Text.byteLength_toList]
  rfl

/-- The bytes before a place are those up to the start of its line, and those in front of it on the line. -/
theorem lineStart_add_column {cs : List Char} {before behind : List UInt8} (h : bytes cs = before ++ behind) :
    lineStart cs (before.count 0x0a) + (before.reverse.takeWhile (· ≠ 0x0a)).length = before.length := by
  by_cases hmem : 0x0a ∈ before
  · obtain ⟨front, back, rfl, hback, hcolumn⟩ := Text.exists_last_run hmem
    rw [List.append_assoc] at h
    obtain ⟨xs, ys, rfl, rfl⟩ := Text.exists_lineFeed_of_bytes h
    have hcount : (bytes xs ++ 0x0a :: back).count 0x0a = xs.count '\n' + 1 := by
      rw [List.count_append, List.count_cons_self, List.count_eq_zero.mpr hback, Text.count_lineFeed_bytes]
    rw [hcount, hcolumn, lineStart_append, ← Text.length_bytes]
    simp only [List.length_append, List.length_cons, List.length_reverse]
    omega
  · have hcolumn : before.reverse.takeWhile (· ≠ 0x0a) = before.reverse := by
      rw [List.takeWhile_eq_self_iff]
      intro b hb
      rw [decide_eq_true_eq]
      rintro rfl
      exact hmem (List.mem_reverse.mp hb)
    rw [hcolumn, List.count_eq_zero.mpr hmem, List.length_reverse]
    exact Nat.zero_add before.length

/-- A byte is found again by its line and its column. -/
theorem offsetOf?_of_lt {s : SourceText} {i : Nat} (h : i < s.text.utf8ByteSize) :
    s.offsetOf? (1 + (s.text.toUTF8.toList.take i).count 0x0a)
      (1 + ((s.text.toUTF8.toList.take i).reverse.takeWhile (· ≠ 0x0a)).length) = some i := by
  have hsplit : bytes s.text.toList = s.text.toUTF8.toList.take i ++ s.text.toUTF8.toList.drop i := by
    rw [List.take_append_drop, Text.toList_toUTF8]
  have hplace := lineStart_add_column hsplit
  rw [List.length_take_of_le (by rw [Text.length_toList_toUTF8]; exact h.le)] at hplace
  rw [offsetOf?_eq, Nat.add_sub_cancel_left, hplace]
  exact if_pos h

private theorem lt_of_offsetOf? {s : SourceText} {line column offset : Nat}
    (h : s.offsetOf? line column = some offset) : offset < s.text.utf8ByteSize := by
  cases line with
  | zero => cases h
  | succ line =>
    rw [Nat.add_comm, offsetOf?_eq, Option.ite_none_right_eq_some] at h
    obtain ⟨hlt, hoffset⟩ := h
    exact Option.some.inj hoffset ▸ hlt

end SourceText

/-- A reader that stops at a byte tells the line and the column of the byte, unless a line ends there. -/
theorem Json.Refusal.place_of_bytes {refusal : Json.Refusal} {text : String} {i : Nat} {b : UInt8}
    (h : refusal.bytes = i + 1) (hbyte : text.toUTF8.toList[i]? = some b) (hb : b ≠ 0x0a) :
    refusal.line text = 1 + (text.toUTF8.toList.take i).count 0x0a ∧
      refusal.column text = 1 + ((text.toUTF8.toList.take i).reverse.takeWhile (· ≠ 0x0a)).length := by
  have htake : text.toUTF8.toList.take (i + 1) = text.toUTF8.toList.take i ++ [b] := by
    rw [List.take_add_one, hbyte, Option.toList_some]
  rw [line, column, h, htake]
  refine ⟨?_, ?_⟩
  · rw [List.count_append, List.count_singleton, if_neg (by simpa using hb), Nat.add_zero]
  · rw [List.reverse_concat, List.takeWhile_cons_of_pos (by simpa using hb), List.length_cons, Nat.add_comm]

namespace SourceText

/-- The line of a byte is one more than the line feeds before it, and its column one more than the bytes between
the start of that line and it. They lead back to the byte. No line and column lead behind the source, and line
zero leads nowhere. So the error of a JSON text that is refused at one of its bytes points to this byte, unless
the line ends with it. -/
theorem offsetOf?_line_column (s : SourceText) :
    (∀ i < s.text.utf8ByteSize,
      let before := s.text.toUTF8.toList.take i
      let line := 1 + before.count 0x0a
      let column := 1 + (before.reverse.takeWhile (· ≠ 0x0a)).length
      s.offsetOf? line column = some i) ∧
    (∀ line column offset, s.offsetOf? line column = some offset → offset < s.text.utf8ByteSize) ∧
    (∀ column, s.offsetOf? 0 column = none) ∧
    ∀ (refusal : Json.Refusal) i b, refusal.bytes = i + 1 → s.text.toUTF8.toList[i]? = some b → b ≠ 0x0a →
      s.jsonError (refusal.line s.text) (refusal.column s.text) =
        .unparsable .json s.file (some ⟨i, 1⟩) := by
  refine ⟨fun i => offsetOf?_of_lt, fun line column offset => lt_of_offsetOf?, fun column => rfl, ?_⟩
  intro refusal i b hrefusal hbyte hb
  obtain ⟨hline, hcolumn⟩ := Json.Refusal.place_of_bytes hrefusal hbyte hb
  have hi : i < s.text.utf8ByteSize := by
    obtain ⟨hi, -⟩ := List.getElem?_eq_some_iff.mp hbyte
    rwa [Text.length_toList_toUTF8] at hi
  rw [jsonError, hline, hcolumn, offsetOf?_of_lt hi]
  rfl

/-- A text that a reader of JSON refuses at its last byte. It has an empty line, a line that ends in two bytes,
and a last one that does not end; the ninth byte stands inside a character. -/
def unquotedSource : SourceText where
  text := "\x7b\r\n\n  \"é\": x"
  file := "quill.json"

theorem offsetOf?_line_column_unquotedSource :
    8 < unquotedSource.text.utf8ByteSize ∧ unquotedSource.offsetOf? 3 5 = some 8 ∧
      ∃ refusal, Json.parse unquotedSource.text = .error refusal ∧ refusal.bytes = 12 + 1 ∧
        unquotedSource.text.toUTF8.toList[12]? = some 0x78 ∧ (0x78 : UInt8) ≠ 0x0a ∧
        unquotedSource.jsonError (refusal.line unquotedSource.text) (refusal.column unquotedSource.text) =
          .unparsable .json "quill.json" (some ⟨12, 1⟩) := by
  obtain ⟨hback, hinside, -, herror⟩ := offsetOf?_line_column unquotedSource
  have hlt : 8 < unquotedSource.text.utf8ByteSize := by decide +kernel
  have hplace : unquotedSource.offsetOf? 3 5 = some 8 := by
    have hplace := hback 8 hlt
    rw [Text.toList_toUTF8] at hplace
    exact hplace
  obtain ⟨refusal, hparse, hrefusal⟩ :
      ∃ refusal, Json.parse unquotedSource.text = .error refusal ∧ refusal.bytes = 12 + 1 := by
    have hread : (match Json.parse unquotedSource.text with
        | .error refusal => refusal.bytes == 12 + 1
        | .ok _ => false) = true := by decide +kernel
    split at hread
    · next refusal hparse => exact ⟨refusal, hparse, by simpa using hread⟩
    · cases hread
  have hbyte : unquotedSource.text.toUTF8.toList[12]? = some 0x78 := by
    rw [Text.toList_toUTF8]
    decide +kernel
  have hfeed : (0x78 : UInt8) ≠ 0x0a := by decide
  exact ⟨hinside 3 5 8 hplace, hplace, refusal, hparse, hrefusal, hbyte, hfeed,
    herror refusal 12 0x78 hrefusal hbyte hfeed⟩

end SourceText
end CodeScribe
