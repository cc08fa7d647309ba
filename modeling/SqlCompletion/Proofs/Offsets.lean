import SqlCompletion.Proofs.Place

/-!
# Lines, columns and offsets

A line and column name the same places of a text as byte offsets do: those between two characters,
before the first one and after the last one. Both are counted along the text, so one of them grows
with the other.

* `getElem?_lines`: the lines that are left out one by one are the parts between the `\n`.
* `isValid_iff`: a byte offset on the boundary of two characters is the size of a prefix.
* `byteLength_le_iff`: prefixes are ordered by their sizes as by the lines and columns of their
  ends.
* `offset?_eq_none_iff`: which lines and columns name no place.
* `offset?_bijective`: the correspondence as a whole.
-/

namespace SqlCompletion

open Text

/-! ## Lines -/

/-- The parts of a text between its `\n`. -/
def Text.lines (cs : List Char) : List (List Char) := cs.splitOn '\n'

theorem lines_append_newline (front rest : List Char) :
    lines (front ++ '\n' :: rest) = lines front ++ lines rest :=
  List.splitOn_append_cons_self front rest

theorem lines_cons_newline (cs : List Char) : lines ('\n' :: cs) = [] :: lines cs :=
  lines_append_newline [] cs

theorem lines_cons_of_ne {c : Char} (h : c ≠ '\n') (cs : List Char) :
    lines (c :: cs) = (lines cs).modifyHead (c :: ·) := by
  rw [lines, List.splitOn_eq_splitOnP, List.splitOnP_cons_eq_if_modifyHead,
    if_neg (by simpa using h)]
  rfl

/-- A line of a text is what stands first once the lines before it are left out. -/
theorem getElem?_lines (cs : List Char) (n : Nat) :
    (lines cs)[n]? = (dropLines? n cs).map firstLine := by
  induction cs generalizing n with
  | nil => cases n <;> rfl
  | cons c cs ih =>
    -- A `\n` is left out with the line that it ends; any other character belongs to the first line.
    by_cases hc : c = '\n'
    · subst hc
      rw [lines_cons_newline]
      cases n with
      | zero => rfl
      | succ n => rw [List.getElem?_cons_succ, ih, dropLines?, if_pos rfl]
    · rw [lines_cons_of_ne hc, List.getElem?_modifyHead, ih]
      cases n with
      | zero => simp [dropLines?, firstLine, hc]
      | succ n => rw [if_neg (Nat.succ_ne_zero n), dropLines?, if_neg hc]

/-- A text has one line more than it has `\n`. -/
theorem length_lines (cs : List Char) : (lines cs).length = lineCount cs := by
  induction cs with
  | nil => rfl
  | cons c cs ih =>
    by_cases hc : c = '\n'
    · subst hc
      rw [lines_cons_newline, List.length_cons, ih, lineCount, lineCount, List.count_cons_self]
    · rw [lines_cons_of_ne hc, List.length_modifyHead, ih, lineCount, lineCount,
        List.count_cons_of_ne hc]

/-- As many lines can be left out as there are, but for one. -/
theorem dropLines?_eq_none_iff {n : Nat} {cs : List Char} :
    dropLines? n cs = none ↔ lineCount cs ≤ n := by
  rw [← length_lines, ← List.getElem?_eq_none_iff, getElem?_lines, Option.map_eq_none_iff]

/-! ## Boundaries -/

/-- An offset on the boundary of two characters is the size of what stands before it. -/
theorem isValid_iff {text : String} {p : String.Pos.Raw} :
    p.IsValid text ↔ ∃ pre, pre <+: text.toList ∧ byteLength pre = p.byteIdx := by
  rw [String.Pos.Raw.isValid_iff_exists_append]
  constructor
  · rintro ⟨as, bs, rfl, rfl⟩
    refine ⟨as.toList, ?_, ?_⟩
    · rw [String.toList_append]
      exact List.prefix_append _ _
    · rw [← utf8ByteSize_eq, String.byteIdx_rawEndPos]
  · rintro ⟨pre, ⟨post, hpost⟩, hsize⟩
    refine ⟨String.ofList pre, String.ofList post, ?_, ?_⟩
    · rw [← String.ofList_append, hpost, String.ofList_toList]
    · rw [String.Pos.Raw.ext_iff, String.byteIdx_rawEndPos, byteLength_ofList, hsize]

/-! ## Order -/

/-- A text ends no further in reading order than one that it is the beginning of. -/
theorem cellLe_of_isPrefix {as bs : List Char} (h : as <+: bs) :
    cellLe (endLocation as).cell (endLocation bs).cell = true := by
  obtain ⟨more, rfl⟩ := h
  rw [cellLe_iff]
  by_cases hm : '\n' ∈ more
  · rw [endLocation_append_of_mem as hm]
    exact .inl (Nat.lt_add_of_pos_right (List.count_pos_iff.mpr hm))
  · rw [endLocation_append_of_not_mem as hm]
    exact .inr ⟨rfl, Nat.le_add_right _ _⟩

/-- **Prefixes are ordered by their sizes as by the places of their ends.** -/
theorem byteLength_le_iff {as bs cs : List Char} (ha : as <+: cs) (hb : bs <+: cs) :
    byteLength as ≤ byteLength bs ↔ cellLe (endLocation as).cell (endLocation bs).cell = true :=
  ⟨fun h => cellLe_of_isPrefix (isPrefix_of_byteLength_le ha hb h),
    fun h => byteLength_le_of_prefix (isPrefix_of_cellLe ha hb h)⟩

variable {cs : List Char} {line column line' column' o o' : Nat}

/-- Of two places the one with the lower offset is the one that comes first in reading order. -/
theorem offset?_lt_iff (h : offset? cs line column = some o)
    (h' : offset? cs line' column' = some o') :
    o < o' ↔ line < line' ∨ (line = line' ∧ column < column') := by
  obtain ⟨pre, hpre, he⟩ := offset?_eq_some_iff.mp h
  obtain ⟨pre', hpre', he'⟩ := offset?_eq_some_iff.mp h'
  have hle := byteLength_le_iff hpre' hpre
  rw [← offset_endLocation, ← offset_endLocation, he, he', cellLe_iff] at hle
  simp only [Location.cell] at hle
  omega

/-- Places with the same offset are the same. -/
theorem offset?_inj (h : offset? cs line column = some o)
    (h' : offset? cs line' column' = some o) : line = line' ∧ column = column' := by
  have hlt := offset?_lt_iff h h'
  have hgt := offset?_lt_iff h' h
  omega

/-! ## Places and no places -/

/-- **What names no place**: a line or column zero, a line past the last one, and a column more than
one past the last character of its line. -/
theorem offset?_eq_none_iff :
    offset? cs line column = none ↔
      line = 0 ∨ column = 0 ∨ lineCount cs < line ∨
        ∃ l, (lines cs)[line - 1]? = some l ∧ l.length + 1 < column := by
  rw [offset?, getElem?_lines]
  split
  · next h => exact ⟨fun _ => h.elim .inl fun hc => .inr (.inl hc), fun _ => rfl⟩
  · next h =>
    obtain ⟨hl, hc⟩ := not_or.mp h
    have hline : lineCount cs < line ↔ dropLines? (line - 1) cs = none := by
      rw [dropLines?_eq_none_iff]
      omega
    simp only [hl, hc, hline, false_or]
    cases dropLines? (line - 1) cs with
    | none => simp
    | some rest =>
      simp only [List.length_take, Option.map_some, Option.some.injEq, exists_eq_left',
        reduceCtorEq, false_or, ite_eq_right_iff, imp_false]
      omega

/-- The place after a text is where its size says. -/
theorem offset?_end (cs : List Char) :
    offset? cs (endLocation cs).line (endLocation cs).column = some (byteLength cs) := by
  simpa using offset?_endLocation cs []

/-- **Lines and columns are an order-preserving name of every place.** What they name is on the
boundary of two characters, and every boundary has one line and column; the offset grows with line
and column in reading order. The end of the text is the place at its size. -/
theorem offset?_bijective (text : String) :
    (∀ line column o, offset? text.toList line column = some o →
      String.Pos.Raw.IsValid text ⟨o⟩) ∧
    (∀ p : String.Pos.Raw, p.IsValid text →
      ∃! cell : Nat × Nat, offset? text.toList cell.1 cell.2 = some p.byteIdx) ∧
    (∀ line column o line' column' o', offset? text.toList line column = some o →
      offset? text.toList line' column' = some o' →
      (o < o' ↔ line < line' ∨ (line = line' ∧ column < column'))) ∧
    (∀ line column, offset? text.toList line column = none ↔
      line = 0 ∨ column = 0 ∨ text.toList.count '\n' + 1 < line ∨
        ∃ l, (lines text.toList)[line - 1]? = some l ∧ l.length + 1 < column) ∧
    offset? text.toList (endLocation text.toList).line (endLocation text.toList).column =
      some text.utf8ByteSize := by
  refine ⟨?valid, ?unique, ?order, ?undefined, ?last⟩
  case valid =>
    intro line column o h
    obtain ⟨pre, hpre, he⟩ := offset?_eq_some_iff.mp h
    exact isValid_iff.mpr ⟨pre, hpre, by rw [← offset_endLocation, he]⟩
  case unique =>
    intro p hp
    obtain ⟨pre, ⟨post, hpost⟩, hsize⟩ := isValid_iff.mp hp
    have hplace := offset?_endLocation pre post
    rw [hpost, offset_endLocation, hsize] at hplace
    refine ⟨(endLocation pre).cell, hplace, fun cell hcell => ?_⟩
    exact Prod.ext_iff.mpr (offset?_inj hcell hplace)
  case order =>
    intro line column o line' column' o' h h'
    exact offset?_lt_iff h h'
  case undefined =>
    intro line column
    exact offset?_eq_none_iff
  case last => rw [offset?_end, utf8ByteSize_eq]

/-- The places of a line with a character of two bytes and of the empty line after it. -/
theorem offset?_bijective_two_lines :
    String.Pos.Raw.IsValid "é\n" ⟨2⟩ ∧
      (∃! cell : Nat × Nat, offset? "é\n".toList cell.1 cell.2 = some 2) ∧
      offset? "é\n".toList 1 3 = none ∧ offset? "é\n".toList 2 1 = some 3 := by
  obtain ⟨hvalid, hunique, -, hnone, hend⟩ := offset?_bijective "é\n"
  have h : String.Pos.Raw.IsValid "é\n" ⟨2⟩ := hvalid 1 2 2 (by decide)
  exact ⟨h, hunique ⟨2⟩ h, (hnone 1 3).mpr (by decide), hend⟩

end SqlCompletion
