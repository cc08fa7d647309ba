import SqlCompletion.Proofs.EntryPlaces
import SqlCompletion.Proofs.Reentry

/-!
# The subquery that is entered

The end of a range is excluded, but columns of cursors are counted from zero and those of the end
from one, so a range contains one cursor more than stand in it: the one behind the character that
follows. Behind the text of an unfinished subquery that is the parenthesis that closes it. So a
subquery that has just been closed is entered as well, with all of its text before the cursor.

* `head?_after_group`: what follows the text of a group.
* `Behind.exists_of_next?`, `Behind.exists_of_enter?`: where the cursor stands in what is entered,
  for a step and for a run.
* `entered_subquery`: which subqueries are entered, and what is completed in them.
-/

namespace SqlCompletion

open Text

/-- A cursor that stands a character further than the text does, in the same line, cuts nothing
off. -/
theorem truncateChars_of_standsAfter_concat {cs : List Char} {pos : Position} {c : Char}
    (hpos : pos.StandsAfter (cs ++ [c])) (hsize : byteLength (cs ++ [c]) + 1 < UInt64.size)
    (hc : c ≠ '\n') : truncateChars cs pos = cs := by
  obtain ⟨front, hcs, hlast⟩ := exists_eq_append_lastLine cs
  have hnew : '\n' ∉ [c] := by simpa using Ne.symm hc
  have hnext := line_add_one_ne_zero hpos hsize
  obtain ⟨hline, hcolumn⟩ := hpos
  rw [endLocation_append_of_not_mem cs hnew] at hline hcolumn
  simp only [lineCount, column_endLocation, List.length_singleton] at hline hcolumn
  have hcount : front.count '\n' = pos.line.toNat := by
    rw [← count_newline_append_lastLine front cs, ← hcs]
    omega
  have hcut := truncateChars_append hnext hcount hlast (lastLine cs)
  have hfirst : firstLine (lastLine cs) = lastLine cs := by
    have hline := firstLine_append_of_not_mem (newline_not_mem_lastLine cs) []
    rwa [show firstLine [] = [] from rfl, List.append_nil] at hline
  rwa [hfirst, List.take_of_length_le (by omega), ← hcs] at hcut

namespace Sql

variable {d : Dialect} {sql text : String} {range : Range}

/-! ## Groups -/

/-- Behind the text of a group stands its parenthesis, or nothing. -/
theorem head?_after_group {tokens : List Lexeme} (hlex : lex d sql = .ok tokens) {opening : Lexeme}
    {rest : List Lexeme} (hs : opening :: rest <:+ significant tokens) {before after : List Char}
    (hsql : sql.toList = before ++ after)
    (hstop : FromClause.groupStop sql.toList rest = endLocation before) :
    ∀ c ∈ after.head?, c = ')' := by
  have hbefore : before <+: sql.toList := hsql ▸ List.prefix_append before after
  unfold FromClause.groupStop at hstop
  split at hstop
  · next close more hgroup =>
    obtain ⟨_, -, -, hclose⟩ := FromClause.groupEnd?_eq_some_iff.mp hgroup
    obtain ⟨-, before', chars, hchars, hstands⟩ := exists_stands_of_suffix hlex
      ((FromClause.suffix_of_groupEnd? hgroup).trans ((List.suffix_cons opening rest).trans hs))
    obtain rfl := hstands.eq_rightParen hclose
    -- The parenthesis starts where the group ends, so it is what follows.
    rw [hstands.range_eq] at hstop
    obtain rfl := eq_of_byteLength_eq ((List.prefix_append before' [')']).trans hchars) hbefore
      (congrArg Location.offset hstop)
    obtain ⟨more, hmore⟩ := hchars
    rw [hsql, List.append_assoc, List.append_cancel_left_eq] at hmore
    intro c hc
    rw [← hmore] at hc
    exact (Option.some.inj hc).symm
  · have hwhole := eq_of_byteLength_eq List.prefix_rfl hbefore (congrArg Location.offset hstop)
    have hnil : after = [] := by simpa [← hwhole] using hsql
    rw [hnil]
    nofun

/-- **An unfinished subquery of a document is a part of it**, with its parenthesis behind it, or
nothing. -/
theorem exists_part_of_mem_entries (h : .incomplete text range ∈ (parser d).entries sql) :
    ∃ before after, sql.toList = before ++ text.toList ++ after ∧
      range = ⟨endLocation before, endLocation (before ++ text.toList)⟩ ∧
      ∀ c ∈ after.head?, c = ')' := by
  obtain ⟨entries, hclause, he⟩ := mem_entries_iff.mp h
  rw [parser_fromClause, fromClause] at hclause
  split at hclause
  · cases hclause
  · next tokens hlex =>
    cases hclause
    obtain ⟨t, rest, ht, -, opening, more, hopening, -, hentry⟩ :=
      FromClause.exists_group_of_mem_scan he
    have hs := hopening.trans ((List.suffix_cons t rest).trans ht)
    obtain ⟨-, before, chars, hchars, hstands⟩ := exists_stands_of_suffix hlex hs
    obtain ⟨inner, ⟨after, hafter⟩, hinner⟩ := exists_groupEntry hlex hs hchars hstands
    have hstop := congrArg (·.location.stop) hinner
    rw [hinner] at hentry
    cases hentry
    refine ⟨before ++ chars, after, ?_, ?_, head?_after_group hlex hs hafter.symm hstop⟩
    · rw [← hafter, String.toList_ofList]
    · rw [String.toList_ofList]

/-- A cursor is contained in the range of a part that stands before a parenthesis, or at the end of
the text, from behind its first character on to behind the parenthesis. -/
theorem contains_part_iff {pos : Position} {as bs cs after : List Char} (hpos : pos.StandsAfter bs)
    (hsize : byteLength bs + 1 < UInt64.size) (hafter : ∀ c ∈ after.head?, c = ')')
    (hbs : bs <+: as ++ cs ++ after ++ [')']) :
    Range.contains ⟨endLocation as, endLocation (as ++ cs)⟩ pos = true ↔
      ∃ inner, inner ≠ [] ∧ bs = as ++ inner ∧ inner <+: cs ++ [')'] := by
  have hcs : as ++ cs <+: as ++ cs ++ after ++ [')'] :=
    (List.prefix_append _ after).trans (List.prefix_append _ _)
  rw [contains_iff hpos hsize hcs hbs]
  refine exists_congr fun inner => and_congr_right fun _ => and_congr_right ?_
  rintro rfl
  rw [List.prefix_concat_iff, or_comm]
  refine or_congr_left ⟨?_, fun h => ⟨')', by decide, h⟩⟩
  rintro ⟨c, -, rfl⟩
  -- The character behind the part is the first one of what follows it.
  simp only [List.append_assoc, List.prefix_append_right_inj] at hbs
  cases after with
  | nil =>
    obtain ⟨rfl, -⟩ := List.cons_prefix_cons.mp hbs
    rfl
  | cons x after =>
    obtain ⟨rfl, -⟩ := List.cons_prefix_cons.mp hbs
    rw [hafter c rfl]

/-! ## Steps and runs -/

/-- The cursor of the site stands behind `before`, which is a part of the text, or all of it and the
parenthesis that closes it. -/
structure Behind (s : Site) (before : List Char) : Prop where
  standsAfter : s.pos.StandsAfter before
  isPrefix : before <+: s.sql.toList ++ [')']

/-- **A step goes to a part of the text**, and the cursor stands behind the same characters of it,
one of them at least. -/
theorem Behind.exists_of_next? {s t : Site} {bs : List Char} (h : Behind s bs)
    (hsize : byteLength bs + 1 < UInt64.size) (hnext : (parser d).next? s = some t) :
    ∃ as inner after, s.sql.toList = as ++ t.sql.toList ++ after ∧ bs = as ++ inner ∧
      inner ≠ [] ∧ Behind t inner := by
  obtain ⟨_, text, start, -, hincomplete, rfl⟩ := Parser.next?_eq_some_iff.mp hnext
  obtain ⟨range, hmem, rfl, hcontains⟩ := exists_mem_of_incompleteAt? hincomplete
  obtain ⟨as, after, hsql, rfl, hafter⟩ := exists_part_of_mem_entries hmem
  have hbs := h.isPrefix
  rw [hsql] at hbs
  obtain ⟨inner, hne, rfl, hinner⟩ :=
    (contains_part_iff h.standsAfter hsize hafter hbs).mp hcontains
  exact ⟨as, inner, after, hsql, rfl, hne, standsAfter_within h.standsAfter hsize, hinner⟩

/-- **A run goes to a part of the text** in the same way. -/
theorem Behind.exists_of_enter? {s t : Site} {bs : List Char} {n : Nat} (h : Behind s bs)
    (hsize : byteLength bs + 1 < UInt64.size) (hrun : (parser d).enter? (n + 1) s = some t) :
    ∃ as inner after, s.sql.toList = as ++ t.sql.toList ++ after ∧ bs = as ++ inner ∧
      inner ≠ [] ∧ Behind t inner := by
  induction n generalizing s bs with
  | zero =>
    obtain ⟨u, hu, hrest⟩ := Option.bind_eq_some_iff.mp hrun
    cases hrest
    exact h.exists_of_next? hsize hu
  | succ n ih =>
    -- A part of a part, behind the characters before both.
    obtain ⟨u, hu, hrest⟩ := Option.bind_eq_some_iff.mp hrun
    obtain ⟨as, mid, after, hsql, rfl, -, hmid⟩ := h.exists_of_next? hsize hu
    have hbytes := byteLength_append as mid
    obtain ⟨as', inner, after', hsql', rfl, hne, hinner⟩ := ih hmid (by omega) hrest
    refine ⟨as ++ as', inner, after' ++ after, ?_, (List.append_assoc ..).symm, hne, hinner⟩
    rw [hsql, hsql']
    simp only [List.append_assoc]

/-! ## What is entered -/

/-- The place right behind the parenthesis of a part. -/
theorem offset_behind_paren {document as cs : List Char}
    (h : as ++ (cs ++ [')']) <+: document) :
    byteLength (as ++ (cs ++ [')'])) = byteLength (as ++ cs) + 1 ∧
      slice document (byteLength (as ++ cs)) (byteLength (as ++ (cs ++ [')']))) = [')'] := by
  obtain ⟨more, rfl⟩ := h
  rw [← List.append_assoc, slice_append, byteLength_append _ [')']]
  exact ⟨rfl, rfl⟩

/-- The text of the site is the part of the document from `start` to `stop`, and it is entered from
the offset `o`. Either `o` is behind the first character and no further than the end, and what stands
before `o` is before the cursor, or it is right behind the parenthesis that follows, and all of the
text is before the cursor. -/
def EnteredFrom (sql : String) (o : Nat) (t : Site) : Prop :=
  ∃ start stop, stop = start + t.sql.utf8ByteSize ∧ slice sql.toList start stop = t.sql.toList ∧
    start < o ∧
    (o ≤ stop ∧ t.target.toList = slice sql.toList start o ∨
      o = stop + 1 ∧ slice sql.toList stop o = [')'] ∧ t.target = t.sql)

theorem Behind.enteredFrom {t : Site} {as inner after : List Char}
    (hsql : sql.toList = as ++ t.sql.toList ++ after) (hbs : as ++ inner <+: sql.toList)
    (hne : inner ≠ []) (h : Behind t inner) (hsize : byteLength inner + 1 < UInt64.size) :
    EnteredFrom sql (byteLength (as ++ inner)) t := by
  have hlen := List.length_pos_iff.mpr hne
  have hbytes := length_le_byteLength inner
  have hinner := h.isPrefix
  refine ⟨byteLength as, byteLength (as ++ t.sql.toList), ?_, ?_, ?_, ?_⟩
  · rw [byteLength_append, utf8ByteSize_eq]
  · rw [hsql, slice_append]
  · rw [byteLength_append]
    omega
  · rw [List.prefix_concat_iff] at hinner
    rcases hinner with rfl | hinner
    · obtain ⟨hnext, hparen⟩ := offset_behind_paren hbs
      refine .inr ⟨hnext, hparen, ?_⟩
      rw [Site.target, truncate,
        truncateChars_of_standsAfter_concat h.standsAfter hsize (by decide), String.ofList_toList]
    · have hle := byteLength_le_of_prefix ((List.prefix_append_right_inj as).mpr hinner)
      obtain ⟨more, hmore⟩ := hbs
      refine .inl ⟨hle, ?_⟩
      rw [← hmore, slice_append, Site.target, truncate, String.toList_ofList,
        truncateChars_of_standsAfter hinner h.standsAfter hsize]

/-- A cursor of the document is contained in the range of an unfinished subquery from behind its
first character on to right behind its parenthesis. -/
theorem contains_incomplete_iff {pos : Position} {bs : List Char} (hpos : pos.StandsAfter bs)
    (hsize : byteLength bs + 1 < UInt64.size) (hbs : bs <+: sql.toList)
    (hmem : .incomplete text range ∈ (parser d).entries sql) :
    range.contains pos = true ↔ range.start.offset < byteLength bs ∧
      (byteLength bs ≤ range.stop.offset ∨ byteLength bs = range.stop.offset + 1 ∧
        slice sql.toList range.stop.offset (byteLength bs) = [')']) := by
  obtain ⟨as, after, hsql, rfl, hafter⟩ := exists_part_of_mem_entries hmem
  have htext : as ++ text.toList <+: sql.toList := ⟨after, hsql.symm⟩
  have has : as <+: sql.toList := (List.prefix_append _ _).trans htext
  have hpart : bs <+: as ++ text.toList ++ after ++ [')'] :=
    hsql ▸ hbs.trans (List.prefix_append _ _)
  rw [contains_part_iff hpos hsize hafter hpart]
  simp only [offset_endLocation]
  constructor
  · rintro ⟨inner, hne, rfl, hinner⟩
    have hlen := List.length_pos_iff.mpr hne
    have hbytes := length_le_byteLength inner
    refine ⟨by rw [byteLength_append]; omega, ?_⟩
    rcases List.prefix_concat_iff.mp hinner with rfl | hinner
    · exact .inr (offset_behind_paren hbs)
    · have hle := byteLength_le_of_prefix ((List.prefix_append_right_inj as).mpr hinner)
      exact .inl hle
  · rintro ⟨hstart, hstop⟩
    obtain ⟨inner, rfl⟩ := isPrefix_of_byteLength_le has hbs (Nat.le_of_lt hstart)
    refine ⟨inner, ?_, rfl, List.prefix_concat_iff.mpr ?_⟩
    · rintro rfl
      rw [List.append_nil] at hstart
      exact Nat.lt_irrefl _ hstart
    · rcases hstop with hle | ⟨hnext, hparen⟩
      · exact .inr ((List.prefix_append_right_inj as).mp (isPrefix_of_byteLength_le hbs htext hle))
      · obtain ⟨more, hmore⟩ := isPrefix_of_byteLength_le htext hbs (by omega)
        obtain ⟨rest, hrest⟩ := hbs
        rw [← hrest, ← hmore, slice_append] at hparen
        rw [hparen, List.append_assoc, List.append_cancel_left_eq] at hmore
        exact .inl hmore.symm

end Sql

end SqlCompletion
