import SqlCompletion.Proofs.Offsets

/-!
# The text up to a cursor

What is left of a document up to a cursor is told in two ways. By offsets: for a cursor at a place
of the document it is what stands before this place. By lines: the lines before the cursor's line
are kept, that line is cut at the cursor's column, and all are joined again. The second way also
says what a cursor leaves that is at no place of the document.

* `truncateChars_ofPlace`: the cursor of a place cuts the text at its offset.
* `truncateChars_eq_intercalate`: the text up to a cursor, line by line.
* `truncate_ofPlace`, `truncate_past_the_end`: both for whole documents.
-/

namespace SqlCompletion

open Text

/-! ## By offsets -/

/-- The cursor at a line and column that are counted from one. -/
def Position.ofPlace (line column : UInt64) : Position := ⟨line - 1, column - 1⟩

section

variable {cs : List Char} {line column : UInt64} {o : Nat}

theorem toNat_sub_one_add_one {n : UInt64} (h : n.toNat ≠ 0) : (n - 1).toNat + 1 = n.toNat := by
  have hle : (1 : UInt64) ≤ n := UInt64.le_iff_toNat_le.mpr (Nat.pos_of_ne_zero h)
  rw [UInt64.toNat_sub_of_le _ _ hle, UInt64.toNat_one]
  omega

/-- The cursor of a place stands after the text before it. -/
theorem standsAfter_ofPlace {pre : List Char}
    (he : endLocation pre = ⟨o, line.toNat, column.toNat⟩) :
    (Position.ofPlace line column).StandsAfter pre := by
  have hline : (endLocation pre).line ≠ 0 := Nat.succ_ne_zero _
  have hcolumn : (endLocation pre).column ≠ 0 := Nat.succ_ne_zero _
  rw [he] at hline hcolumn
  rw [Position.StandsAfter, he]
  exact ⟨toNat_sub_one_add_one hline, toNat_sub_one_add_one hcolumn⟩

/-- **The cursor of a place cuts the text at its offset.** -/
theorem truncateChars_ofPlace (h : offset? cs line.toNat column.toNat = some o) :
    ∃ pre, pre <+: cs ∧ byteLength pre = o ∧ truncateChars cs (.ofPlace line column) = pre ∧
      endLocation pre = ⟨o, line.toNat, column.toNat⟩ := by
  obtain ⟨pre, hpre, he⟩ := offset?_eq_some_iff.mp h
  have hline : line ≠ 0 := by
    rintro rfl
    exact absurd (congrArg Location.line he) (Nat.succ_ne_zero _)
  refine ⟨pre, hpre, by rw [← offset_endLocation, he], ?_, he⟩
  exact truncateChars_of_line_ne_zero hpre (standsAfter_ofPlace he)
    (by simpa [Position.ofPlace, UInt64.sub_add_cancel] using hline)

end

/-- The bytes of the beginning of a text are the first bytes of the text. -/
theorem toByteArray_of_isPrefix {text : String} {pre : List Char} (h : pre <+: text.toList) :
    (String.ofList pre).toByteArray = text.toByteArray.extract 0 (byteLength pre) := by
  obtain ⟨post, hpost⟩ := h
  have htext : text = String.ofList pre ++ String.ofList post := by
    rw [← String.ofList_append, hpost, String.ofList_toList]
  rw [htext, String.toByteArray_append, ByteArray.extract_append_eq_left]
  rw [String.size_toByteArray, byteLength_ofList]

/-! ## By lines -/

theorem intercalate_concat (sep : Char) {ls : List (List Char)} (h : ls ≠ []) (l : List Char) :
    [sep].intercalate (ls ++ [l]) = [sep].intercalate ls ++ sep :: l := by
  induction ls with
  | nil => exact absurd rfl h
  | cons first ls ih =>
    rw [List.cons_append, List.intercalate_cons_of_ne_nil (List.concat_ne_nil l ls)]
    cases ls with
    | nil => simp
    | cons second ls =>
      rw [ih (List.cons_ne_nil second ls),
        List.intercalate_cons_of_ne_nil (List.cons_ne_nil second ls)]
      simp

theorem lines_ne_nil (cs : List Char) : lines cs ≠ [] := List.splitOn_ne_nil '\n' cs

/-- The lines of a text, joined again, are the text. -/
theorem intercalate_lines (cs : List Char) : ['\n'].intercalate (lines cs) = cs :=
  List.intercalate_splitOn '\n'

/-- What stands before a line is nothing or ends with a `\n`. -/
theorem eq_nil_or_concat_newline {front : List Char} (h : lastLine front = []) :
    front = [] ∨ ∃ before, front = before ++ ['\n'] := by
  rcases List.eq_nil_or_concat front with rfl | ⟨before, c, hfront⟩
  · exact .inl rfl
  · rw [List.concat_eq_append] at hfront
    subst hfront
    by_cases hc : c = '\n'
    · exact .inr ⟨before, by rw [hc]⟩
    · rw [lastLine_append_of_not_mem before (by simpa using Ne.symm hc)] at h
      exact absurd h (List.concat_ne_nil c _)

/-- **The text up to a cursor, line by line**: the lines before the cursor's, and this line up to
the cursor's column. -/
theorem truncateChars_eq_intercalate (cs : List Char) {p : Position} (hline : p.line + 1 ≠ 0) :
    truncateChars cs p =
      ['\n'].intercalate ((lines cs).take p.line.toNat ++
        ((lines cs)[p.line.toNat]?.map (·.take p.column.toNat)).toList) := by
  rw [getElem?_lines]
  cases hdrop : dropLines? p.line.toNat cs with
  | none =>
    have hlength : (lines cs).length ≤ p.line.toNat := by
      rw [length_lines]
      exact dropLines?_eq_none_iff.mp hdrop
    rw [truncateChars, if_neg hline, hdrop, List.take_of_length_le hlength]
    simp [intercalate_lines]
  | some rest =>
    obtain ⟨front, rfl, hcount, hlast⟩ := dropLines?_eq_some_iff.mp hdrop
    rw [truncateChars_append hline hcount hlast]
    -- The lines before the cursor's are none, or those of what stands before the last `\n`.
    rcases eq_nil_or_concat_newline hlast with rfl | ⟨before, rfl⟩
    · rw [List.count_nil] at hcount
      simp [← hcount]
    · have hlength : (lines before).length = p.line.toNat := by
        rw [length_lines, lineCount, ← hcount, List.count_append, List.count_singleton_self]
      have hlines : lines (before ++ ['\n'] ++ rest) = lines before ++ lines rest := by
        rw [List.append_assoc, List.singleton_append, lines_append_newline]
      rw [hlines, ← hlength, List.take_left]
      simp only [Option.map_some, Option.toList_some]
      rw [intercalate_concat _ (lines_ne_nil before), intercalate_lines, List.append_assoc,
        List.singleton_append]

/-! ## Documents -/

/-- **The text up to a place of a document is what its offset cuts off.** So an earlier place leaves
the beginning of what a later one leaves, and a text that is cut at a place is not cut again
there. -/
theorem truncate_ofPlace (text : String) :
    (∀ (line column : UInt64) (o : Nat),
      offset? text.toList line.toNat column.toNat = some o →
      (truncate text (.ofPlace line column)).toByteArray = text.toByteArray.extract 0 o) ∧
    (∀ line column line' column' : UInt64,
      (offset? text.toList line.toNat column.toNat).isSome →
      (offset? text.toList line'.toNat column'.toNat).isSome →
      line < line' ∨ (line = line' ∧ column ≤ column') →
      (truncate text (.ofPlace line column)).toList <+:
        (truncate text (.ofPlace line' column')).toList) ∧
    (∀ line column : UInt64, (offset? text.toList line.toNat column.toNat).isSome →
      truncate (truncate text (.ofPlace line column)) (.ofPlace line column) =
        truncate text (.ofPlace line column)) := by
  refine ⟨?bytes, ?monotone, ?again⟩
  case bytes =>
    intro line column o h
    obtain ⟨pre, hpre, hsize, hcut, -⟩ := truncateChars_ofPlace h
    rw [truncate, hcut, ← hsize, toByteArray_of_isPrefix hpre]
  case monotone =>
    intro line column line' column' h h' hle
    obtain ⟨o, ho⟩ := Option.isSome_iff_exists.mp h
    obtain ⟨o', ho'⟩ := Option.isSome_iff_exists.mp h'
    obtain ⟨pre, hpre, -, hcut, he⟩ := truncateChars_ofPlace ho
    obtain ⟨pre', hpre', -, hcut', he'⟩ := truncateChars_ofPlace ho'
    rw [truncate, truncate, hcut, hcut', String.toList_ofList, String.toList_ofList]
    refine isPrefix_of_cellLe hpre hpre' ?_
    rw [he, he', cellLe_iff]
    simpa [Location.cell, UInt64.lt_iff_toNat_lt, UInt64.le_iff_toNat_le, ← UInt64.toNat_inj]
      using hle
  case again =>
    intro line column h
    obtain ⟨o, ho⟩ := Option.isSome_iff_exists.mp h
    obtain ⟨pre, -, -, hcut, he⟩ := truncateChars_ofPlace ho
    -- The place is one of the text that is left as well: it is its end.
    have hend : offset? pre line.toNat column.toNat = some o :=
      offset?_eq_some_iff.mpr ⟨pre, List.prefix_rfl, he⟩
    obtain ⟨pre', hpre', hsize', hcut', he'⟩ := truncateChars_ofPlace hend
    have hsize : byteLength pre' = byteLength pre := by rw [hsize', ← offset_endLocation, he]
    rw [truncate, truncate, hcut, String.toList_ofList, hcut',
      eq_of_byteLength_eq hpre' List.prefix_rfl hsize]

/-- The first line of two, with a character of two bytes, up to its end and up to its beginning. -/
theorem truncate_ofPlace_two_lines :
    (truncate "é\nab" (.ofPlace 1 2)).toByteArray = "é\nab".toByteArray.extract 0 2 ∧
      (truncate "é\nab" (.ofPlace 1 2)).toList <+: (truncate "é\nab" (.ofPlace 2 2)).toList ∧
      truncate (truncate "é\nab" (.ofPlace 2 2)) (.ofPlace 2 2) =
        truncate "é\nab" (.ofPlace 2 2) := by
  obtain ⟨hbytes, hmonotone, hagain⟩ := truncate_ofPlace "é\nab"
  exact ⟨hbytes 1 2 2 (by decide), hmonotone 1 2 2 2 (by decide) (by decide) (by decide),
    hagain 2 2 (by decide)⟩

/-- Only after the last line number of all there is no next one. -/
theorem line_add_one_eq_zero_iff (p : Position) :
    p.line + 1 = 0 ↔ p.line.toNat + 1 = UInt64.size := by
  have hlt := p.line.toNat_lt_size
  rw [← UInt64.toNat_inj, UInt64.toNat_add, UInt64.toNat_one, UInt64.toNat_zero]
  rw [UInt64.size] at hlt ⊢
  omega

end SqlCompletion
