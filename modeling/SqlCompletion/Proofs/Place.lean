import Mathlib.Data.List.TakeWhile
import SqlCompletion.Cursor

/-!
# Places and the prefixes before them

Every place of a text is the end of one of its prefixes. So the three ways to name a place are
compared through the prefix `pre` before it: its offset, line and column are `endLocation pre`, and
the part of the document up to a cursor that stands there is `pre` itself.

* `offset?_eq_some_iff`: `offset?` has an answer at exactly the ends of prefixes.
* `endLocation_append_of_not_mem`, `endLocation_append_of_mem`: where a text ends that stands after
  another one. Columns count on only while no line ends in between.
* `truncateChars_of_standsAfter`: a cursor that stands after a prefix cuts the text there.
-/

namespace SqlCompletion

open Text

/-! ## Bytes -/

theorem byteLength_ofList (cs : List Char) : (String.ofList cs).utf8ByteSize = byteLength cs := by
  induction cs with
  | nil => rfl
  | cons c cs ih =>
    rw [← List.singleton_append, String.ofList_append, String.utf8ByteSize_append, ih,
      ← String.singleton_eq_ofList, String.utf8ByteSize_singleton, List.singleton_append,
      byteLength_cons]

/-- The size of a document is that of its characters. -/
theorem utf8ByteSize_eq (s : String) : s.utf8ByteSize = byteLength s.toList := by
  rw [← byteLength_ofList, String.ofList_toList]

/-- A character takes a byte at least. -/
theorem length_le_byteLength (cs : List Char) : cs.length ≤ byteLength cs := by
  induction cs with
  | nil => exact Nat.le_refl _
  | cons c cs ih =>
    have := c.utf8Size_pos
    rw [byteLength_cons, List.length_cons]
    omega

theorem byteLength_le_of_prefix {as bs : List Char} (h : as <+: bs) :
    byteLength as ≤ byteLength bs := by
  obtain ⟨more, rfl⟩ := h
  rw [byteLength_append]
  exact Nat.le_add_right _ _

theorem dropBytes_append (pre rest : List Char) : dropBytes (byteLength pre) (pre ++ rest) = rest := by
  induction pre with
  | nil => cases rest <;> simp [dropBytes]
  | cons c pre ih =>
    have := c.utf8Size_pos
    rw [List.cons_append, dropBytes, byteLength_cons, if_neg (by omega), Nat.add_sub_cancel_left, ih]

theorem charsWithin_append (pre rest : List Char) (n : Nat) :
    charsWithin n (byteLength pre) (pre ++ rest) = n + pre.length := by
  induction pre generalizing n with
  | nil =>
    cases rest with
    | nil => simp [charsWithin]
    | cons c rest =>
      have := c.utf8Size_pos
      rw [List.nil_append, charsWithin, byteLength_nil, if_neg (by omega), List.length_nil,
        Nat.add_zero]
  | cons c pre ih =>
    rw [List.cons_append, charsWithin, byteLength_cons, if_pos (Nat.le_add_right _ _),
      Nat.add_sub_cancel_left, ih, List.length_cons]
    omega

/-- Between the ends of two prefixes stands what the second one has more. -/
theorem slice_append (pre mid rest : List Char) :
    slice (pre ++ mid ++ rest) (byteLength pre) (byteLength (pre ++ mid)) = mid := by
  rw [slice, List.append_assoc, dropBytes_append, byteLength_append, Nat.add_sub_cancel_left,
    charsWithin_append, Nat.zero_add, List.take_left]

/-- Up to the end of a prefix stands the prefix. -/
theorem slice_zero (pre rest : List Char) : slice (pre ++ rest) 0 (byteLength pre) = pre := by
  simpa using slice_append [] pre rest

/-- Between places of a text, more text after it changes nothing. -/
theorem slice_append_of_prefix {as bs text : List Char} (ha : as <+: text) (hb : bs <+: text)
    (more : List Char) :
    slice (text ++ more) (byteLength as) (byteLength bs) =
      slice text (byteLength as) (byteLength bs) := by
  rcases List.prefix_or_prefix_of_prefix ha hb with ⟨mid, rfl⟩ | ⟨mid, rfl⟩
  · obtain ⟨rest, rfl⟩ := hb
    rw [List.append_assoc (as ++ mid), slice_append, slice_append]
  · have hempty : byteLength bs - byteLength (bs ++ mid) = byteLength [] := by
      rw [byteLength_append, byteLength_nil]
      omega
    have hnone (cs : List Char) : charsWithin 0 (byteLength []) cs = 0 := charsWithin_append [] cs 0
    rw [slice, slice, hempty, hnone, hnone]
    rfl

/-! ## Lines -/

/-- The part of a text after its last `\n`. -/
def lastLine (cs : List Char) : List Char :=
  (cs.reverse.takeWhile (· ≠ '\n')).reverse

theorem length_lastLine (cs : List Char) :
    (lastLine cs).length = (cs.reverse.takeWhile (· ≠ '\n')).length := List.length_reverse

theorem newline_not_mem_lastLine (cs : List Char) : '\n' ∉ lastLine cs := by
  intro h
  simpa using List.mem_takeWhile_imp (List.mem_reverse.mp h)

theorem lastLine_of_not_mem {cs : List Char} (h : '\n' ∉ cs) : lastLine cs = cs := by
  rw [lastLine, List.takeWhile_eq_self_iff.mpr, List.reverse_reverse]
  intro c hc
  simpa using fun he : c = '\n' => h (he ▸ List.mem_reverse.mp hc)

/-- What stands after a `\n` ends in a line of its own. -/
theorem lastLine_append_newline (as bs : List Char) :
    lastLine (as ++ '\n' :: bs) = lastLine bs := by
  simp only [lastLine, List.reverse_append, List.reverse_cons, List.append_assoc,
    List.singleton_append, List.takeWhile_append]
  split
  next h =>
    rw [(List.takeWhile_prefix _).eq_of_length h]
    simp
  next => rfl

theorem lastLine_append_of_not_mem (as : List Char) {bs : List Char} (h : '\n' ∉ bs) :
    lastLine (as ++ bs) = lastLine as ++ bs := by
  have hall : ∀ c ∈ bs.reverse, decide (c ≠ '\n') = true := by
    intro c hc
    simpa using fun he : c = '\n' => h (he ▸ List.mem_reverse.mp hc)
  rw [lastLine, List.reverse_append, List.takeWhile_append_of_pos hall, List.reverse_append,
    List.reverse_reverse, lastLine]

theorem lastLine_append_of_mem (as : List Char) {bs : List Char} (h : '\n' ∈ bs) :
    lastLine (as ++ bs) = lastLine bs := by
  obtain ⟨front, back, rfl⟩ := List.append_of_mem h
  rw [← List.append_assoc, lastLine_append_newline, lastLine_append_newline]

/-! ## The end of a text -/

theorem endLocation_eq (cs : List Char) :
    endLocation cs = ⟨byteLength cs, lineCount cs, (lastLine cs).length + 1⟩ := by
  rw [endLocation, length_lastLine]

@[simp] theorem offset_endLocation (cs : List Char) : (endLocation cs).offset = byteLength cs := rfl

@[simp] theorem line_endLocation (cs : List Char) : (endLocation cs).line = lineCount cs := rfl

theorem column_endLocation (cs : List Char) :
    (endLocation cs).column = (lastLine cs).length + 1 := by
  rw [endLocation_eq]

/-- Where a text ends that stands after another one, if it stays on one line. -/
theorem endLocation_append_of_not_mem (as : List Char) {bs : List Char} (h : '\n' ∉ bs) :
    endLocation (as ++ bs) =
      ⟨byteLength as + byteLength bs, lineCount as, (endLocation as).column + bs.length⟩ := by
  rw [endLocation_eq, lastLine_append_of_not_mem as h, byteLength_append, column_endLocation,
    List.length_append, lineCount, List.count_append, List.count_eq_zero_of_not_mem h, lineCount]
  simp only [Location.mk.injEq, true_and]
  omega

/-- Where a text ends that stands after another one, if it has a line end. -/
theorem endLocation_append_of_mem (as : List Char) {bs : List Char} (h : '\n' ∈ bs) :
    endLocation (as ++ bs) =
      ⟨byteLength as + byteLength bs, lineCount as + bs.count '\n', (endLocation bs).column⟩ := by
  rw [endLocation_eq, lastLine_append_of_mem as h, byteLength_append, column_endLocation, lineCount,
    List.count_append, lineCount]
  simp only [Location.mk.injEq, true_and, and_true]
  omega

/-- The end of a text that grows by one character moves on by that character. -/
theorem endLocation_concat (cs : List Char) (c : Char) :
    endLocation (cs ++ [c]) = (endLocation cs).advance c := by
  by_cases h : c = '\n'
  · subst h
    rw [endLocation_append_of_mem cs (by simp)]
    simp [Location.advance, endLocation]
  · rw [endLocation_append_of_not_mem cs (by simpa using Ne.symm h)]
    simp [Location.advance, h]

/-! ## Lines left out -/

theorem lastLine_cons_of_mem (c : Char) {cs : List Char} (h : '\n' ∈ cs) :
    lastLine (c :: cs) = lastLine cs :=
  lastLine_append_of_mem [c] h

theorem lastLine_cons_newline (cs : List Char) : lastLine ('\n' :: cs) = lastLine cs :=
  lastLine_append_newline [] cs

/-- Every text is its last line after a text that is empty or ends in `\n`. -/
theorem exists_eq_append_lastLine (cs : List Char) :
    ∃ front, cs = front ++ lastLine cs ∧ lastLine front = [] := by
  refine ⟨(cs.reverse.dropWhile (· ≠ '\n')).reverse, ?_, ?_⟩
  · rw [lastLine, ← List.reverse_append, List.takeWhile_append_dropWhile, List.reverse_reverse]
  · rw [lastLine, List.reverse_reverse, List.reverse_eq_nil_iff]
    cases h : cs.reverse.dropWhile (· ≠ '\n') with
    | nil => rfl
    | cons c rest =>
      have hc := List.head?_dropWhile_not (fun c => decide (c ≠ '\n')) cs.reverse
      rw [h] at hc
      rw [List.takeWhile_cons, if_neg (by simpa using hc)]

theorem count_newline_append_lastLine (front cs : List Char) :
    (front ++ lastLine cs).count '\n' = front.count '\n' := by
  rw [List.count_append, List.count_eq_zero_of_not_mem (newline_not_mem_lastLine cs), Nat.add_zero]

theorem dropLines?_zero_eq_some_iff {cs rest : List Char} :
    dropLines? 0 cs = some rest ↔
      ∃ pre, cs = pre ++ rest ∧ pre.count '\n' = 0 ∧ lastLine pre = [] := by
  have hzero : dropLines? 0 cs = some cs := by cases cs <;> rfl
  rw [hzero, Option.some.injEq]
  constructor
  · rintro rfl
    exact ⟨[], rfl, rfl, rfl⟩
  · rintro ⟨pre, rfl, hn, hl⟩
    rw [lastLine_of_not_mem (List.count_eq_zero.mp hn)] at hl
    rw [hl, List.nil_append]

/-- What is left after some lines stands after a text with as many line ends that ends with one. -/
theorem dropLines?_eq_some_iff {n : Nat} {cs rest : List Char} :
    dropLines? n cs = some rest ↔
      ∃ pre, cs = pre ++ rest ∧ pre.count '\n' = n ∧ lastLine pre = [] := by
  induction cs generalizing n with
  | nil =>
    cases n with
    | zero => exact dropLines?_zero_eq_some_iff
    | succ n =>
      constructor
      · intro h
        cases h
      · rintro ⟨pre, h, hn, -⟩
        obtain ⟨rfl, -⟩ := List.append_eq_nil_iff.mp h.symm
        simp at hn
  | cons c cs ih =>
    cases n with
    | zero => exact dropLines?_zero_eq_some_iff
    | succ n =>
      by_cases hc : c = '\n'
      · rw [dropLines?, if_pos hc, ih, hc]
        constructor
        · rintro ⟨pre, rfl, rfl, hl⟩
          exact ⟨'\n' :: pre, rfl, by simp, by rw [lastLine_cons_newline, hl]⟩
        · rintro ⟨pre, h, hn, hl⟩
          obtain ⟨rfl, -⟩ | ⟨pre, rfl, rfl⟩ := List.cons_eq_append_iff.mp h
          · simp at hn
          · rw [lastLine_cons_newline] at hl
            exact ⟨pre, rfl, by simpa using hn, hl⟩
      · rw [dropLines?, if_neg hc, ih]
        constructor
        · rintro ⟨pre, rfl, hn, hl⟩
          have hm : '\n' ∈ pre := List.count_pos_iff.mp (by omega)
          exact ⟨c :: pre, rfl, by simpa [List.count_cons, hc] using hn,
            by rw [lastLine_cons_of_mem c hm, hl]⟩
        · rintro ⟨pre, h, hn, hl⟩
          obtain ⟨rfl, -⟩ | ⟨pre, rfl, rfl⟩ := List.cons_eq_append_iff.mp h
          · simp at hn
          · have hn' : pre.count '\n' = n + 1 := by simpa [List.count_cons, hc] using hn
            have hm : '\n' ∈ pre := List.count_pos_iff.mp (by omega)
            rw [lastLine_cons_of_mem c hm] at hl
            exact ⟨pre, rfl, hn', hl⟩

/-! ## Places and prefixes -/

theorem newline_not_mem_firstLine (cs : List Char) : '\n' ∉ firstLine cs := by
  intro h
  simpa using List.mem_takeWhile_imp h

theorem firstLine_append_of_not_mem {as : List Char} (h : '\n' ∉ as) (bs : List Char) :
    firstLine (as ++ bs) = as ++ firstLine bs := by
  refine List.takeWhile_append_of_pos ?_
  intro c hc
  simpa using fun he : c = '\n' => h (he ▸ hc)

theorem exists_prefix_of_offset? {cs : List Char} {line column o : Nat}
    (h : offset? cs line column = some o) :
    ∃ pre, pre <+: cs ∧ endLocation pre = ⟨o, line, column⟩ := by
  rw [offset?] at h
  split at h
  · cases h
  · next hne =>
    split at h
    · cases h
    · next rest hd =>
      obtain ⟨front, rfl, hn, hl⟩ := dropLines?_eq_some_iff.mp hd
      simp only at h
      split at h
      · next hlen =>
        -- The prefix is the lines before and the beginning of the line that is left.
        have hb : '\n' ∉ (firstLine rest).take (column - 1) := fun hm =>
          newline_not_mem_firstLine rest (List.mem_of_mem_take hm)
        have hp : (firstLine rest).take (column - 1) <+: rest :=
          (List.take_prefix _ _).trans (List.takeWhile_prefix _)
        refine ⟨front ++ (firstLine rest).take (column - 1), ?_, ?_⟩
        · obtain ⟨more, hm⟩ := hp
          exact ⟨more, by rw [List.append_assoc, hm]⟩
        · rw [endLocation_append_of_not_mem front hb, column_endLocation, hl, hlen, lineCount, hn]
          have ho := Option.some.inj h
          rw [byteLength_append, Nat.add_sub_cancel] at ho
          simp only [List.length_nil, Location.mk.injEq]
          omega
      · cases h

/-- The end of a prefix is a place of the text. -/
theorem offset?_endLocation (pre post : List Char) :
    offset? (pre ++ post) (endLocation pre).line (endLocation pre).column =
      some (endLocation pre).offset := by
  obtain ⟨front, hf, hl⟩ := exists_eq_append_lastLine pre
  have hn : front.count '\n' = lineCount pre - 1 := by
    rw [← count_newline_append_lastLine front pre, ← hf, lineCount, Nat.add_sub_cancel]
  have hd : dropLines? (lineCount pre - 1) (pre ++ post) = some (lastLine pre ++ post) := by
    refine dropLines?_eq_some_iff.mpr ⟨front, ?_, hn, hl⟩
    rw [← List.append_assoc, ← hf]
  have hbytes := congrArg byteLength hf
  rw [byteLength_append] at hbytes
  have hlines : lineCount pre ≠ 0 := Nat.succ_ne_zero _
  rw [column_endLocation, line_endLocation, offset_endLocation, offset?, if_neg (by omega), hd]
  simp only [firstLine_append_of_not_mem (newline_not_mem_lastLine pre), Nat.add_sub_cancel,
    List.take_left, if_pos, byteLength_append, Option.some.injEq]
  omega

/-- **A place of a text is the end of one of its prefixes.** -/
theorem offset?_eq_some_iff {cs : List Char} {line column o : Nat} :
    offset? cs line column = some o ↔ ∃ pre, pre <+: cs ∧ endLocation pre = ⟨o, line, column⟩ := by
  constructor
  · exact exists_prefix_of_offset?
  · rintro ⟨pre, ⟨post, rfl⟩, he⟩
    have hplace := offset?_endLocation pre post
    rwa [he] at hplace

/-! ## Order of places -/

theorem eq_nil_of_byteLength_eq_zero {cs : List Char} (h : byteLength cs = 0) : cs = [] := by
  have := length_le_byteLength cs
  exact List.eq_nil_of_length_eq_zero (by omega)

/-- Of two prefixes the one with no more bytes is a prefix of the other. -/
theorem isPrefix_of_byteLength_le {as bs cs : List Char} (ha : as <+: cs) (hb : bs <+: cs)
    (h : byteLength as ≤ byteLength bs) : as <+: bs := by
  rcases List.prefix_or_prefix_of_prefix ha hb with hp | ⟨more, rfl⟩
  · exact hp
  · rw [byteLength_append] at h
    have hm := eq_nil_of_byteLength_eq_zero (show byteLength more = 0 by omega)
    exact ⟨[], by rw [hm, List.append_nil, List.append_nil]⟩

/-- Prefixes with equally many bytes are the same. -/
theorem eq_of_byteLength_eq {as bs cs : List Char} (ha : as <+: cs) (hb : bs <+: cs)
    (h : byteLength as = byteLength bs) : as = bs := by
  obtain ⟨more, rfl⟩ := isPrefix_of_byteLength_le ha hb (Nat.le_of_eq h)
  rw [byteLength_append] at h
  rw [eq_nil_of_byteLength_eq_zero (show byteLength more = 0 by omega), List.append_nil]

/-- A text that goes on ends further in reading order. -/
theorem not_cellLe_append (as : List Char) {bs : List Char} (h : bs ≠ []) :
    ¬cellLe (endLocation (as ++ bs)).cell (endLocation as).cell = true := by
  have hlen := List.length_pos_iff.mpr h
  rw [cellLe_iff]
  by_cases hm : '\n' ∈ bs
  · have := List.count_pos_iff.mpr hm
    rw [endLocation_append_of_mem as hm]
    simp only [Location.cell, line_endLocation]
    omega
  · rw [endLocation_append_of_not_mem as hm]
    simp only [Location.cell, line_endLocation]
    omega

/-- Of two prefixes the one that ends no further in reading order is a prefix of the other. -/
theorem isPrefix_of_cellLe {as bs cs : List Char} (ha : as <+: cs) (hb : bs <+: cs)
    (h : cellLe (endLocation as).cell (endLocation bs).cell = true) : as <+: bs := by
  rcases List.prefix_or_prefix_of_prefix ha hb with hp | ⟨more, rfl⟩
  · exact hp
  · by_cases hm : more = []
    · exact ⟨[], by rw [hm, List.append_nil, List.append_nil]⟩
    · exact absurd h (not_cellLe_append bs hm)

/-! ## Cursors -/

/-- The cursor stands right after the text `pre`. -/
def Position.StandsAfter (p : Position) (pre : List Char) : Prop :=
  p.line.toNat + 1 = (endLocation pre).line ∧ p.column.toNat + 1 = (endLocation pre).column

/-- The place that a cursor stands at names the cursor. -/
theorem Position.StandsAfter.unique {p p' : Position} {bs : List Char} (h : p.StandsAfter bs)
    (h' : p'.StandsAfter bs) : p = p' := by
  obtain ⟨line, column⟩ := p
  obtain ⟨line', column'⟩ := p'
  rw [Position.mk.injEq, ← UInt64.toNat_inj, ← UInt64.toNat_inj]
  exact ⟨Nat.succ_inj.mp (h.1.trans h'.1.symm), Nat.succ_inj.mp (h.2.trans h'.2.symm)⟩

/-- A cursor that names a place of a text stands after a prefix. -/
theorem exists_standsAfter {cs : List Char} {p : Position} {o : Nat}
    (h : offset? cs (p.line.toNat + 1) (p.column.toNat + 1) = some o) :
    ∃ pre, pre <+: cs ∧ p.StandsAfter pre ∧ byteLength pre = o := by
  obtain ⟨pre, hp, he⟩ := offset?_eq_some_iff.mp h
  exact ⟨pre, hp, ⟨by rw [he], by rw [he]⟩, by rw [← offset_endLocation, he]⟩

theorem lineCount_le (cs : List Char) : lineCount cs ≤ byteLength cs + 1 :=
  Nat.succ_le_succ (Nat.le_trans List.count_le_length (length_le_byteLength cs))

theorem column_endLocation_le (cs : List Char) :
    (endLocation cs).column ≤ byteLength cs + 1 := by
  have h : (lastLine cs).length ≤ cs.length := by
    rw [length_lastLine]
    exact Nat.le_trans (List.takeWhile_prefix _).length_le (Nat.le_of_eq List.length_reverse)
  rw [column_endLocation]
  exact Nat.succ_le_succ (Nat.le_trans h (length_le_byteLength cs))

/-- The line of a cursor in a document of ordinary size can be counted on. -/
theorem toNat_line_add_one {p : Position} {pre : List Char} (h : p.StandsAfter pre)
    (hsize : byteLength pre + 1 < UInt64.size) : (p.line + 1).toNat = p.line.toNat + 1 := by
  have hl := h.1
  have hlines := lineCount_le pre
  have hword : UInt64.size = 18446744073709551616 := rfl
  rw [line_endLocation] at hl
  rw [UInt64.toNat_add, UInt64.toNat_one, Nat.mod_eq_of_lt (by omega)]

theorem toNat_column_add_one {p : Position} {pre : List Char} (h : p.StandsAfter pre)
    (hsize : byteLength pre + 1 < UInt64.size) : (p.column + 1).toNat = p.column.toNat + 1 := by
  have hc := h.2
  have hcolumn := column_endLocation_le pre
  have hword : UInt64.size = 18446744073709551616 := rfl
  rw [UInt64.toNat_add, UInt64.toNat_one, Nat.mod_eq_of_lt (by omega)]

theorem line_add_one_ne_zero {p : Position} {pre : List Char} (h : p.StandsAfter pre)
    (hsize : byteLength pre + 1 < UInt64.size) : p.line + 1 ≠ 0 := by
  intro h0
  have hline := toNat_line_add_one h hsize
  rw [h0] at hline
  cases hline

/-- A cursor in the line that starts after `front` leaves `front` and the beginning of this line. -/
theorem truncateChars_append {front : List Char} {p : Position} (hline : p.line + 1 ≠ 0)
    (hcount : front.count '\n' = p.line.toNat) (hlast : lastLine front = []) (rest : List Char) :
    truncateChars (front ++ rest) p = front ++ (firstLine rest).take p.column.toNat := by
  have hdrop : dropLines? p.line.toNat (front ++ rest) = some rest :=
    dropLines?_eq_some_iff.mpr ⟨front, rfl, hcount, hlast⟩
  rw [truncateChars, if_neg hline, hdrop]
  simp only [List.length_append, Nat.add_sub_cancel, List.take_left]

/-- A cursor that stands after a prefix cuts the text there, if its line can be counted on. -/
theorem truncateChars_of_line_ne_zero {cs pre : List Char} {p : Position} (hp : pre <+: cs)
    (h : p.StandsAfter pre) (hne : p.line + 1 ≠ 0) : truncateChars cs p = pre := by
  obtain ⟨post, rfl⟩ := hp
  obtain ⟨front, hf, hl⟩ := exists_eq_append_lastLine pre
  have hline := h.1
  have hcol := h.2
  rw [line_endLocation, lineCount] at hline
  rw [column_endLocation] at hcol
  have hcount : front.count '\n' = p.line.toNat := by
    rw [← count_newline_append_lastLine front pre, ← hf]
    omega
  have hcut := truncateChars_append hne hcount hl (lastLine pre ++ post)
  rw [← List.append_assoc, ← hf, firstLine_append_of_not_mem (newline_not_mem_lastLine pre),
    show p.column.toNat = (lastLine pre).length by omega, List.take_left, ← hf] at hcut
  exact hcut

/-- **A cursor that stands after a prefix cuts the text there.** -/
theorem truncateChars_of_standsAfter {cs pre : List Char} {p : Position} (hp : pre <+: cs)
    (h : p.StandsAfter pre) (hsize : byteLength pre + 1 < UInt64.size) : truncateChars cs p = pre :=
  truncateChars_of_line_ne_zero hp h (line_add_one_ne_zero h hsize)

end SqlCompletion
