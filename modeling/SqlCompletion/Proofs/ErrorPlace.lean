import SqlCompletion.Proofs.EntryPlaces

/-!
# Where syntax errors are reported

A message may mention a place, and it quotes the text, so what it mentions may be anything. Only a
place of the text is taken up; without one the error is reported at the end of the text. So every
syntax error of a text is reported inside it. The text before the cursor is where the document
begins, so a place of the one is a place of the other.

* `inText_of_report`, `inText_of_parse`: errors of a text, whatever their messages say.
* `size_of_error`: the numbers of a report are bounded by the size of the document.
* `reports_in_document`: the place of a report in the text that was parsed and in the document.
-/

namespace SqlCompletion

open Text

theorem isPrefix_truncateChars (cs : List Char) (p : Position) : truncateChars cs p <+: cs := by
  unfold truncateChars
  split
  · exact List.nil_prefix
  · split
    · exact List.prefix_rfl
    · next rest hd =>
      obtain ⟨pre, rfl⟩ := eq_append_of_dropLines? hd
      rw [List.length_append, Nat.add_sub_cancel, List.take_left]
      exact (List.prefix_append_right_inj pre).mpr
        ((List.take_prefix _ _).trans (List.takeWhile_prefix _))

theorem byteLength_truncate_le (sql : String) (p : Position) :
    byteLength (truncate sql p).toList ≤ sql.utf8ByteSize := by
  have hprefix := byteLength_le_of_prefix (isPrefix_truncateChars sql.toList p)
  simpa only [truncate, String.toList_ofList, utf8ByteSize_eq] using hprefix

namespace Sql

variable {d : Dialect} {text : String}

theorem inText_endLocation (cs : List Char) : InText cs (endLocation cs) :=
  ⟨cs, List.prefix_rfl, rfl⟩

theorem inText_getD {cs : List Char} {l? : Option Location} (h : ∀ l ∈ l?, InText cs l) :
    InText cs (l?.getD (endLocation cs)) := by
  cases l? with
  | none => exact inText_endLocation cs
  | some l => exact h l rfl

/-- Whatever a message mentions, it is a place of the text that is taken from it. -/
theorem inText_errorLocation (cs message : List Char) : InText cs (errorLocation cs message) := by
  unfold errorLocation
  refine inText_getD fun l hl => ?_
  simp only [Option.bind_eq_bind, Option.mem_def, Option.bind_eq_some_iff] at hl
  obtain ⟨_, -, line, -, column, -, offset, hoffset, hl⟩ := hl
  cases hl
  obtain ⟨pre, hpre, he⟩ := offset?_eq_some_iff.mp hoffset
  exact ⟨pre, hpre, he.symm⟩

theorem inText_grammarFailure (text : String) (tokens : List Token) (message : String) :
    InText text.toList (grammarFailure text tokens message).location := by
  have hplace := inText_errorLocation text.toList message.toList
  unfold grammarFailure
  split
  · exact hplace
  · split <;> exact hplace

/-- A failure that is reported as a syntax error is reported at a place of the text. -/
theorem inText_of_report {failure : Failure} {e : SyntaxError}
    (h : failure.report d text = .invalid e) : InText text.toList e.location := by
  cases failure with
  | lexical error =>
    cases h
    exact inText_errorLocation _ _
  | grammatical reason =>
    simp only [Failure.report] at h
    split at h
    · cases h
      exact inText_grammarFailure _ _ _
    · cases h

/-- **Every syntax error of a text is reported at a place of the text.** -/
theorem inText_of_parse {e : SyntaxError} (h : parse d text = .error (.invalid e)) :
    InText text.toList e.location := by
  unfold parse at h
  split at h
  · exact inText_of_report (Except.error.inj h)
  · split at h
    · cases h
    · cases h
      exact inText_endLocation _

/-- The numbers of a place are bounded by the size of the text. -/
theorem InText.le_byteLength {cs : List Char} {l : Location} (h : InText cs l) :
    l.offset ≤ byteLength cs ∧ l.line ≤ byteLength cs + 1 := by
  have hoffset := h.offset_le
  obtain ⟨pre, -, rfl⟩ := h
  have hlines := lineCount_le pre
  rw [offset_endLocation] at hoffset ⊢
  rw [line_endLocation]
  omega

end Sql

/-! ## The report of a completion -/

/-- What is reported beside the candidates is the syntax error of the text before the cursor, in a
document that is not too large. -/
theorem error_of_complete {p : Parser} {options : Options} {sql : String} {pos : Position}
    {schema : Schema} {r : Completion} (h : complete p options sql pos schema = .ok r) :
    sql.utf8ByteSize ≤ maxDocumentBytes ∧
      r.error = (Parser.syntaxError? (p.parse (truncate sql pos))).map SyntaxError.report := by
  by_cases hsize : sql.utf8ByteSize ≤ maxDocumentBytes
  · refine ⟨hsize, ?_⟩
    rcases p.exceeds_or_stops ⟨sql, pos⟩ options.maxSubqueryDepth with
      ⟨t, ht⟩ | ⟨n, t, hle, ht, hstop⟩
    · rw [complete_of_exceeds hsize ht] at h
      cases h
    · rw [complete_of_stops hsize hle ht hstop] at h
      cases hanswer : p.answerAt schema t with
      | error failure =>
        rw [hanswer] at h
        cases h
      | ok answer =>
        rw [hanswer] at h
        cases h
        rfl
  · rw [complete, if_pos (Nat.not_le.mp hsize)] at h
    cases h

section

variable {d : Dialect} {options : Options} {sql : String} {pos : Position} {schema : Schema}
  {r : Completion} {e : ErrorReport}

/-- What is reported has its line and offset from a place of the text before the cursor. -/
theorem exists_inText_of_error (h : complete (Sql.parser d) options sql pos schema = .ok r)
    (he : r.error = some e) :
    ∃ l, Sql.InText (truncate sql pos).toList l ∧ e.line = l.line ∧ e.offset = l.offset := by
  obtain ⟨-, herror⟩ := error_of_complete h
  rw [he, eq_comm, Option.map_eq_some_iff] at herror
  obtain ⟨error, hparse, rfl⟩ := herror
  rw [Parser.syntaxError?_eq_some_iff, Sql.parser_parse] at hparse
  exact ⟨error.location, Sql.inText_of_parse hparse, rfl, rfl⟩

/-- **The numbers of a report are bounded by the size of the document.** -/
theorem size_of_error (h : complete (Sql.parser d) options sql pos schema = .ok r)
    (he : r.error = some e) : e.offset ≤ maxDocumentBytes ∧ e.line ≤ maxDocumentBytes + 1 := by
  obtain ⟨l, hplace, hline, hoffset⟩ := exists_inText_of_error h he
  have hsize := (error_of_complete h).1
  have hbounds := hplace.le_byteLength
  have htarget := byteLength_truncate_le sql pos
  omega

/-- A report stands between two parts of the document, and the first of them is no longer than the
text before the cursor. -/
theorem exists_append_of_error (h : complete (Sql.parser d) options sql pos schema = .ok r)
    (he : r.error = some e) :
    ∃ before after, sql.toList = before ++ after ∧ e.offset = byteLength before ∧
      e.offset ≤ (truncate sql pos).utf8ByteSize ∧ e.line = before.count '\n' + 1 := by
  obtain ⟨l, hplace, hline, hoffset⟩ := exists_inText_of_error h he
  have hle := hplace.offset_le
  obtain ⟨before, hbefore, rfl⟩ := hplace
  have htarget : (truncate sql pos).toList <+: sql.toList := by
    rw [truncate, String.toList_ofList]
    exact isPrefix_truncateChars sql.toList pos
  obtain ⟨after, hafter⟩ := hbefore.trans htarget
  exact ⟨before, after, hafter.symm, hoffset, by rw [hoffset, utf8ByteSize_eq]; exact hle, hline⟩

end

/-- **Errors are reported inside the document.** Whatever a message says, the place that is taken
from it is one of the text, the same by line and column as by offset. So is the place of every
failure that is reported as a syntax error, and that of a missing statement. What is reported beside
the candidates stands in the whole document: at the end of a first part of it, no further than the
text before the cursor goes, in the line in which this part ends. -/
theorem reports_in_document (d : Dialect) :
    (∀ text message, Sql.Agrees text (Sql.errorLocation text message)) ∧
    (∀ text failure e, Sql.Failure.report d text failure = .invalid e →
      Sql.Agrees text.toList e.location) ∧
    (∀ text, Sql.Agrees text.toList (Sql.missingStatement text).location) ∧
    ∀ options sql pos schema r e, complete (Sql.parser d) options sql pos schema = .ok r →
      r.error = some e →
      ∃ before after, sql.toList = before ++ after ∧ e.offset = byteLength before ∧
        e.offset ≤ (truncate sql pos).utf8ByteSize ∧ e.line = before.count '\n' + 1 := by
  refine ⟨fun text message => ?_, fun text failure e h => ?_, fun text => ?_,
    fun options sql pos schema r e h he => exists_append_of_error h he⟩
  · exact Sql.agrees_iff_inText.mpr (Sql.inText_errorLocation text message)
  · exact Sql.agrees_iff_inText.mpr (Sql.inText_of_report h)
  · exact Sql.agrees_iff_inText.mpr (Sql.inText_endLocation text.toList)

/-- An error in the second line, behind a character of two bytes, in a document that goes on behind
the cursor; and a failure of which the message mentions no place of its text. -/
theorem reports_in_document_second_line :
    let sql := "SELECT 'é'\nFROM t u w, é\n"
    let report : ErrorReport :=
      { label := "SyntaxError"
        detail := "Expected: end of statement, found: w at Line: 2, Column: 10"
        line := 2, offset := 21 }
    let failure : Sql.Failure :=
      .grammatical (.note "no" (some ⟨0, 3, 18446744073709551616⟩))
    let e : SyntaxError :=
      { message := "no at Line: 3, Column: 18446744073709551616"
        expected := [], location := ⟨2, 1, 2⟩ }
    (complete (Sql.parser .generic) {} sql ⟨1, 10⟩ {}).toOption.bind (·.error) = some report ∧
      (∃ before after, sql.toList = before ++ after ∧ 21 = byteLength before ∧
        21 ≤ (truncate sql ⟨1, 10⟩).utf8ByteSize ∧ 2 = before.count '\n' + 1) ∧
      Sql.Agrees "é".toList (Sql.missingStatement "é").location ∧
      failure.report .generic "é" = .invalid e ∧ Sql.Agrees "é".toList e.location := by
  intro sql report failure e
  obtain ⟨-, hfailure, hmissing, hcomplete⟩ := reports_in_document .generic
  have hrun : (complete (Sql.parser .generic) {} sql ⟨1, 10⟩ {}).toOption.bind (·.error) =
      some report := by decide +kernel
  have hreport : failure.report .generic "é" = .invalid e := by decide +kernel
  obtain ⟨r, hr, he⟩ := Option.bind_eq_some_iff.mp hrun
  have hok : complete (Sql.parser .generic) {} sql ⟨1, 10⟩ {} = .ok r := by
    generalize complete (Sql.parser .generic) {} sql ⟨1, 10⟩ {} = answer at hr
    cases answer with
    | error failure => cases hr
    | ok answer => exact congrArg Except.ok (Option.some.inj hr)
  exact ⟨hrun, hcomplete {} sql ⟨1, 10⟩ {} r report hok he, hmissing "é", hreport,
    hfailure "é" failure e hreport⟩

end SqlCompletion
