import SqlCompletion.Proofs.Descent
import SqlCompletion.Sql.Parser

/-!
# A subquery by itself

Completion in an unfinished subquery is completion of its text alone. The cursor is counted from
where the text starts, which leaves the typed word as it is, because the parenthesis before the text
belongs to no word.
-/

namespace SqlCompletion

open Text

/-! ## The cursor in the text -/

/-- **The cursor within a text that starts after `as` is counted from there.** -/
theorem standsAfter_within {p : Position} {as bs : List Char} (h : p.StandsAfter (as ++ bs))
    (hsize : byteLength (as ++ bs) + 1 < UInt64.size) : (p.within (endLocation as)).StandsAfter bs := by
  have hcol := toNat_column_add_one h hsize
  have hp := p.line.toNat_lt
  have hq := p.column.toNat_lt
  obtain ⟨hl, hc⟩ := h
  have hline : p.line.toNat - ((endLocation as).line - 1) = bs.count '\n' := by
    rw [line_endLocation, lineCount, List.count_append] at hl
    rw [line_endLocation, lineCount]
    omega
  simp only [Position.within, hline]
  refine ⟨?_, ?_⟩
  · rw [line_endLocation, lineCount, UInt64.toNat_ofNat', Nat.mod_eq_of_lt (by omega)]
  -- Columns are shifted only on the line on which the text starts.
  · by_cases hm : '\n' ∈ bs
    · have := List.count_pos_iff.mpr hm
      rw [endLocation_append_of_mem as hm] at hc
      rw [if_neg (by omega), UInt64.toNat_ofNat', Nat.mod_eq_of_lt (by omega)]
      exact hc
    · have hone : 1 ≤ (endLocation as).column := Nat.le_add_left 1 _
      rw [endLocation_append_of_not_mem as hm] at hc
      rw [if_pos (List.count_eq_zero.mpr hm), UInt64.toNat_ofNat', hcol, column_endLocation bs,
        lastLine_of_not_mem hm, Nat.mod_eq_of_lt (by omega), hc]
      exact congrArg (· + 1) (Nat.add_sub_cancel_left _ _)

/-! ## The typed word -/

/-- A character that belongs to no word ends the typed word. -/
theorem lastTokenChars_append {c : Char} (h : isTokenChar c = false) (as bs : List Char) :
    lastTokenChars (as ++ c :: bs) = lastTokenChars bs := by
  simp only [lastTokenChars, List.reverse_append, List.reverse_cons, List.append_assoc,
    List.singleton_append, List.takeWhile_append]
  split
  next hlen =>
    rw [(List.takeWhile_prefix _).eq_of_length hlen, List.takeWhile_cons, h]
    simp
  next => rfl

/-! ## The run -/

/-- Completion with one step into a subquery is completion of the subquery: `as` is the document
before the text, `bs` the text up to the cursor. -/
theorem complete_of_next? {p : Parser} {options : Options} {limit : Nat} {sql text : String}
    {pos inner : Position} {schema : Schema} {e : SyntaxError} {as bs rest : List Char}
    (hsize : sql.utf8ByteSize ≤ maxDocumentBytes)
    (hsql : sql.toList = as ++ text.toList ++ rest) (hparen : as.getLast? = some '(')
    (hbs : bs <+: text.toList) (hpos : pos.StandsAfter (as ++ bs)) (hinner : inner.StandsAfter bs)
    (he : p.parse (truncate sql pos) = .error (.invalid e))
    (hnext : p.next? ⟨sql, pos⟩ = some ⟨text, inner⟩) :
    String.ofList as ++ truncate text inner = truncate sql pos ∧
      lastToken (truncate text inner) = lastToken (truncate sql pos) ∧
      complete p { options with maxSubqueryDepth := limit + 1 } sql pos schema =
        ((complete p { options with maxSubqueryDepth := limit } text inner schema).mapError
          .underNextLimit).map fun r => { r with error := some e.report } := by
  have hbytes : byteLength as + byteLength text.toList + byteLength rest ≤ maxDocumentBytes := by
    rw [← byteLength_append, ← byteLength_append, ← hsql, ← utf8ByteSize_eq]
    exact hsize
  have hmax : maxDocumentBytes + 1 < UInt64.size := by decide
  have hshort := byteLength_le_of_prefix hbs
  -- Both cursors cut their text after `bs`.
  have houter : truncate sql pos = String.ofList (as ++ bs) := by
    have hp : as ++ bs <+: sql.toList := by
      rw [hsql, List.append_assoc]
      exact (List.prefix_append_right_inj as).mpr (hbs.trans (List.prefix_append _ _))
    rw [truncate, truncateChars_of_standsAfter hp hpos (by rw [byteLength_append]; omega)]
  have htext : truncate text inner = String.ofList bs := by
    rw [truncate, truncateChars_of_standsAfter hbs hinner (by omega)]
  have htoken : lastToken (truncate text inner) = lastToken (truncate sql pos) := by
    obtain ⟨front, rfl⟩ := List.getLast?_eq_some_iff.mp hparen
    rw [htext, houter, lastToken, lastToken, String.toList_ofList, String.toList_ofList,
      List.append_assoc, List.singleton_append, lastTokenChars_append (by decide)]
  -- The run is one step and then the run of the text, and the typed word is the same.
  refine ⟨by rw [houter, htext, String.ofList_append], htoken, ?_⟩
  rw [complete_of_size_le hsize, complete_of_size_le (by rw [utf8ByteSize_eq]; omega), htoken]
  have hstep : resolve p schema (limit + 1) (limit + 1) sql pos = _ :=
    Parser.resolve_succ hnext he (limit + 1) limit
  have hlimit := resolve_limit_succ p schema limit limit ⟨text, inner⟩
  simp only at hstep hlimit ⊢
  rw [hstep, hlimit]
  cases resolve p schema limit limit text inner <;> rfl

/-! ## Cursors of a range -/

section

variable {pos : Position} {as bs cs document : List Char}

theorem cell_of_standsAfter (hpos : pos.StandsAfter bs) (hsize : byteLength bs + 1 < UInt64.size) :
    pos.cell = ((endLocation bs).line, (endLocation bs).column - 1) := by
  rw [Position.cell, toNat_line_add_one hpos hsize, hpos.1, ← hpos.2, Nat.add_sub_cancel]

/-- A place is no later than a cursor if a character at least stands between them. -/
theorem cellLe_cell_iff (hpos : pos.StandsAfter bs) (hsize : byteLength bs + 1 < UInt64.size)
    (has : as <+: document) (hbs : bs <+: document) :
    cellLe (endLocation as).cell pos.cell = true ↔ ∃ inner, inner ≠ [] ∧ bs = as ++ inner := by
  have hcolumn := hpos.2
  rw [cell_of_standsAfter hpos hsize, cellLe_iff]
  simp only [Location.cell]
  constructor
  · intro h
    have hle : cellLe (endLocation as).cell (endLocation bs).cell = true := by
      rw [cellLe_iff]
      simp only [Location.cell]
      omega
    obtain ⟨inner, rfl⟩ := isPrefix_of_cellLe has hbs hle
    refine ⟨inner, ?_, rfl⟩
    rintro rfl
    rw [List.append_nil] at h hcolumn
    omega
  · rintro ⟨inner, hne, rfl⟩
    have hlen := List.length_pos_iff.mpr hne
    by_cases hm : '\n' ∈ inner
    · have := List.count_pos_iff.mpr hm
      rw [endLocation_append_of_mem as hm]
      simp only [line_endLocation]
      omega
    · rw [endLocation_append_of_not_mem as hm]
      exact .inr ⟨rfl, by simp only; omega⟩

/-- A cursor is no later than a place if one character at most stands between them, in the same
line. -/
theorem cell_cellLe_iff (hpos : pos.StandsAfter bs) (hsize : byteLength bs + 1 < UInt64.size)
    (hcs : cs <+: document) (hbs : bs <+: document) :
    cellLe pos.cell (endLocation cs).cell = true ↔
      bs <+: cs ∨ ∃ c, c ≠ '\n' ∧ bs = cs ++ [c] := by
  have hcolumn := hpos.2
  rw [cell_of_standsAfter hpos hsize, cellLe_iff]
  simp only [Location.cell]
  constructor
  · intro h
    rcases List.prefix_or_prefix_of_prefix hbs hcs with hp | ⟨more, rfl⟩
    · exact .inl hp
    · by_cases hm : '\n' ∈ more
      · have := List.count_pos_iff.mpr hm
        rw [endLocation_append_of_mem cs hm] at h
        simp only [line_endLocation] at h
        omega
      · rw [endLocation_append_of_not_mem cs hm] at h
        simp only [line_endLocation] at h
        cases more with
        | nil => exact .inl (by simp)
        | cons c more =>
          rw [List.length_cons] at h
          obtain rfl : more = [] := List.eq_nil_of_length_eq_zero (by omega)
          exact .inr ⟨c, fun hc => hm (by simp [hc]), rfl⟩
  · rintro (⟨more, rfl⟩ | ⟨c, hc, rfl⟩)
    · by_cases hm : '\n' ∈ more
      · have := List.count_pos_iff.mpr hm
        rw [endLocation_append_of_mem bs hm]
        simp only [line_endLocation]
        omega
      · rw [endLocation_append_of_not_mem bs hm]
        exact .inr ⟨rfl, by simp only; omega⟩
    · rw [endLocation_append_of_not_mem cs (by simpa using Ne.symm hc)]
      simp

/-- **The range of a text contains the cursors that stand behind its first character and no further
than behind the character after it**, if that is in the same line. -/
theorem contains_iff {text : List Char} (hpos : pos.StandsAfter bs)
    (hsize : byteLength bs + 1 < UInt64.size) (htext : as ++ text <+: document)
    (hbs : bs <+: document) :
    Range.contains ⟨endLocation as, endLocation (as ++ text)⟩ pos = true ↔
      ∃ inner, inner ≠ [] ∧ bs = as ++ inner ∧
        (inner <+: text ∨ ∃ c, c ≠ '\n' ∧ inner = text ++ [c]) := by
  have has := (List.prefix_append as text).trans htext
  rw [Range.contains, Bool.and_eq_true, cellLe_cell_iff hpos hsize has hbs,
    cell_cellLe_iff hpos hsize htext hbs]
  constructor
  · rintro ⟨⟨inner, hne, rfl⟩, hstop⟩
    refine ⟨inner, hne, rfl, ?_⟩
    simpa only [List.prefix_append_right_inj, List.append_assoc, List.append_cancel_left_eq]
      using hstop
  · rintro ⟨inner, hne, rfl, hstop⟩
    refine ⟨⟨inner, hne, rfl⟩, ?_⟩
    simpa only [List.prefix_append_right_inj, List.append_assoc, List.append_cancel_left_eq]
      using hstop

end

/-! ## The entry under the cursor -/

/-- The first unfinished subquery that contains the cursor: its text and where it stands. -/
def unfinishedAt? (entries : List FromEntry) (pos : Position) : Option (String × Range) :=
  entries.findSome? fun
    | .incomplete text l => if l.contains pos then some (text, l) else none
    | _ => none

theorem incompleteAt?_eq_map (entries : List FromEntry) (pos : Position) :
    incompleteAt? entries pos = (unfinishedAt? entries pos).map fun r => (r.1, r.2.start) := by
  induction entries with
  | nil => rfl
  | cons entry entries ih =>
    rw [incompleteAt?, unfinishedAt?, List.findSome?_cons, List.findSome?_cons]
    rw [incompleteAt?, unfinishedAt?] at ih
    cases entry with
    | incomplete text l => cases h : l.contains pos <;> simp [h, ih]
    | table ref => exact ih
    | subquery statement name l => exact ih

theorem contains_of_unfinishedAt? {entries : List FromEntry} {pos : Position} {text : String}
    {range : Range} (h : unfinishedAt? entries pos = some (text, range)) :
    range.contains pos = true := by
  obtain ⟨entry, -, he⟩ := List.exists_of_findSome?_eq_some h
  split at he
  · split at he
    · next hc =>
      cases he
      exact hc
    · cases he
  · cases he

/-- The range is where `text` stands in the document: both ends are places of the document, the same
by offset as by line and column, and `text` is between them. -/
structure Range.Covers (r : Range) (document text : List Char) : Prop where
  start_place : offset? document r.start.line r.start.column = some r.start.offset
  stop_place : offset? document r.stop.line r.stop.column = some r.stop.offset
  text_eq : text = slice document r.start.offset r.stop.offset

/-- A range that contains a cursor does not end before it starts, so its text is a part of the
document. -/
theorem Range.Covers.exists_append {r : Range} {document text : List Char}
    (h : r.Covers document text) {pos : Position} (hc : r.contains pos = true) :
    ∃ as rest, document = as ++ text ++ rest ∧ endLocation as = r.start ∧
      endLocation (as ++ text) = r.stop := by
  obtain ⟨as, has, hstart⟩ := offset?_eq_some_iff.mp h.start_place
  obtain ⟨bs, hbs, hstop⟩ := offset?_eq_some_iff.mp h.stop_place
  have hle : cellLe (endLocation as).cell (endLocation bs).cell = true := by
    rw [Range.contains, Bool.and_eq_true, cellLe_iff, cellLe_iff] at hc
    rw [hstart, hstop, cellLe_iff]
    simp only [Location.cell] at hc ⊢
    omega
  obtain ⟨mid, rfl⟩ := isPrefix_of_cellLe has hbs hle
  obtain ⟨rest, rfl⟩ := hbs
  have htext : text = mid := by
    rw [h.text_eq, ← congrArg Location.offset hstart, ← congrArg Location.offset hstop]
    exact slice_append as mid rest
  rw [htext]
  exact ⟨as, rest, rfl, hstart, hstop⟩

/-- A cursor that a range contains stands after the first character of the range. -/
theorem isPrefix_of_contains {r : Range} {pos : Position} {as bs document : List Char}
    (hc : r.contains pos = true) (has : as <+: document) (hstart : endLocation as = r.start)
    (hbs : bs <+: document) (hpos : pos.StandsAfter bs) (hsize : byteLength bs + 1 < UInt64.size) :
    as <+: bs := by
  rw [Range.contains, Bool.and_eq_true, ← hstart, cellLe_cell_iff hpos hsize has hbs] at hc
  obtain ⟨⟨inner, -, rfl⟩, -⟩ := hc
  exact List.prefix_append as inner

/-- A cursor in a part of a document that stands after its first character is in its range. -/
theorem contains_of_standsAfter {pos : Position} {as bs text : List Char}
    (hpos : pos.StandsAfter (as ++ bs)) (hne : bs ≠ []) (hbs : bs <+: text)
    (hsize : byteLength (as ++ bs) + 1 < UInt64.size) :
    Range.contains ⟨endLocation as, endLocation (as ++ text)⟩ pos = true :=
  (contains_iff hpos hsize List.prefix_rfl ((List.prefix_append_right_inj as).mpr hbs)).mpr
    ⟨bs, hne, rfl, .inl hbs⟩

/-! ## The text alone -/

/-- **Completion in an unfinished subquery is completion of its text alone.** The part of the
document before the text and the text up to the cursor make up the document up to the cursor, the
typed word is the same, and so are the candidates, if the text may be entered one level less. Only
the error that is reported is that of the document. -/
theorem complete_reentry (p : Parser) (options : Options) (limit : Nat) (sql text : String)
    (range : Range) (pos : Position) (schema : Schema) (e : SyntaxError) (o : Nat)
    (hsize : sql.utf8ByteSize ≤ maxDocumentBytes)
    (hpos : offset? sql.toList (pos.line.toNat + 1) (pos.column.toNat + 1) = some o)
    (hparse : p.parse (truncate sql pos) = .error (.invalid e))
    (hfirst : unfinishedAt? (p.entries sql) pos = some (text, range))
    (hcovers : range.Covers sql.toList text.toList)
    (hparen : (slice sql.toList 0 range.start.offset).getLast? = some '(')
    (hstop : o ≤ range.stop.offset) :
    String.ofList (slice sql.toList 0 range.start.offset) ++
          truncate text (pos.within range.start) = truncate sql pos ∧
      lastToken (truncate text (pos.within range.start)) = lastToken (truncate sql pos) ∧
      complete p { options with maxSubqueryDepth := limit + 1 } sql pos schema =
        ((complete p { options with maxSubqueryDepth := limit } text (pos.within range.start)
          schema).mapError .underNextLimit).map fun r => { r with error := some e.report } := by
  have hcontains := contains_of_unfinishedAt? hfirst
  obtain ⟨as, rest, hsql, hstart, hend⟩ := hcovers.exists_append hcontains
  obtain ⟨pre, hpre, hafter, ho⟩ := exists_standsAfter hpos
  have hmax : maxDocumentBytes + 1 < UInt64.size := by decide
  have hbytes := byteLength_le_of_prefix hpre
  rw [← utf8ByteSize_eq] at hbytes
  have has : as <+: sql.toList := ⟨text.toList ++ rest, by rw [hsql, List.append_assoc]⟩
  have hcovered : as ++ text.toList <+: sql.toList := ⟨rest, hsql.symm⟩
  -- The text starts before the cursor, and the cursor does not stand after its end.
  obtain ⟨bs, rfl⟩ := isPrefix_of_contains hcontains has hstart hpre hafter (by omega)
  have hbs : bs <+: text.toList := by
    refine (List.prefix_append_right_inj as).mp (isPrefix_of_byteLength_le hpre hcovered ?_)
    rw [ho, ← offset_endLocation (as ++ text.toList), hend]
    exact hstop
  have hslice : slice sql.toList 0 range.start.offset = as := by
    rw [← hstart, offset_endLocation, hsql, List.append_assoc, slice_zero]
  have hinner : (pos.within range.start).StandsAfter bs := by
    rw [← hstart]
    exact standsAfter_within hafter (by omega)
  have hnext : p.next? ⟨sql, pos⟩ = some ⟨text, pos.within range.start⟩ := by
    refine Parser.next?_eq_some_iff.mpr ⟨e, text, range.start, hparse, ?_, rfl⟩
    rw [incompleteAt?_eq_map, hfirst, Option.map_some]
  rw [hslice] at hparen ⊢
  exact complete_of_next? hsize hsql hparen hbs hafter hinner hparse hnext

/-- A subquery that starts in the middle of a line and goes on in the next one. -/
theorem complete_reentry_two_lines :
    ∃ e, (Sql.parser .generic).parse (truncate "SELECT s\nFROM (SELECT e.\nFROM t e) s" ⟨1, 15⟩) =
        .error (.invalid e) ∧
      complete (Sql.parser .generic) { maxSubqueryDepth := 1 }
          "SELECT s\nFROM (SELECT e.\nFROM t e) s" ⟨1, 15⟩
          { tables := [{ name := "t", columns := [{ name := "a" }] }] } =
        ((complete (Sql.parser .generic) { maxSubqueryDepth := 0 } "SELECT e.\nFROM t e" ⟨0, 9⟩
            { tables := [{ name := "t", columns := [{ name := "a" }] }] }).mapError
          .underNextLimit).map fun r => { r with error := some e.report } := by
  have hinvalid : ((Parser.syntaxError? ((Sql.parser .generic).parse
      (truncate "SELECT s\nFROM (SELECT e.\nFROM t e) s" ⟨1, 15⟩))).isSome) = true := by
    decide +kernel
  obtain ⟨e, he⟩ := Option.isSome_iff_exists.mp hinvalid
  have hparse := Parser.syntaxError?_eq_some_iff.mp he
  refine ⟨e, hparse, ?_⟩
  exact (complete_reentry (Sql.parser .generic) {} 0 "SELECT s\nFROM (SELECT e.\nFROM t e) s"
    "SELECT e.\nFROM t e" ⟨⟨15, 2, 7⟩, ⟨33, 3, 9⟩⟩ ⟨1, 15⟩ _ e 24 (by decide) (by decide) hparse
    (by decide +kernel) ⟨by decide, by decide, by decide⟩ (by decide) (by decide)).2.2

end SqlCompletion
