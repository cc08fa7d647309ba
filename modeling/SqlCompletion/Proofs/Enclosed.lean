import Mathlib.Control.Monad.Basic
import SqlCompletion.Proofs.Parts
import SqlCompletion.Proofs.Reentry
import SqlCompletion.Proofs.ScanExtent
import SqlCompletion.Proofs.ScanShift

/-!
# A query as a subquery

The same query by itself and as the only table of a FROM clause, with a cursor in it.

* `lex_opening`: after `SELECT s FROM (` the tokens of a text are the same, further on.
* `entries_of_closed`, `entries_of_lost`: what the FROM clause holds. A query that parses is a
  subquery, any other is kept as text. A comment at the end of the query takes in the parenthesis
  after it, and then the query reaches to the end of the document.
* `complete_of_entries_eq`, `complete_of_lost`: what is kept as text is completed as if it stood
  alone, and what a comment takes in makes no difference.
-/

namespace SqlCompletion.Sql

open FromClause

/-- What stands before the query. -/
def opening : List Char := "SELECT s FROM (".toList

/-- The query as the only table of a FROM clause. -/
def enclosed (q : String) : String := "SELECT s FROM (" ++ q ++ ") s"

theorem toList_enclosed (q : String) :
    (enclosed q).toList = opening ++ q.toList ++ ") s".toList := by
  have happend (a b c : String) : (a ++ b ++ c).toList = a.toList ++ b.toList ++ c.toList := by
    rw [String.toList_append, String.toList_append]
  exact happend "SELECT s FROM (" q ") s"

/-! ## Tokens -/

/-- What stands before the query, in pieces. -/
def openingPieces : List Piece :=
  [⟨wordToken "SELECT".toList, "SELECT".toList⟩, ⟨.blank " ", [' ']⟩, ⟨wordToken ['s'], ['s']⟩,
    ⟨.blank " ", [' ']⟩, ⟨wordToken "FROM".toList, "FROM".toList⟩, ⟨.blank " ", [' ']⟩,
    ⟨.symbol .leftParen, ['(']⟩]

section

variable (d : Dialect) (prev : Option Token) (cs : List Char)

theorem scan_s : scan d prev 's' (' ' :: cs) = .ok (wordToken ['s'], 1) := by
  cases d <;> rfl

theorem scan_from : scan d prev 'F' ("ROM ".toList ++ cs) = .ok (wordToken "FROM".toList, 4) := by
  cases d <;> rfl

end

variable {d : Dialect}

theorem division_opening {cs : List Char} {ps : List Piece} (h : Division d none cs ps) :
    Division d none (opening ++ cs) (openingPieces ++ ps) :=
  .cons (scan_select d _ _) <| .cons (scan_blank d _ _) <| .cons (scan_s d _ _) <|
    .cons (scan_blank d _ _) <| .cons (scan_from d _ _) <| .cons (scan_blank d _ _) <|
    .cons (scan_leftParen d _ _) (h.of_none nofun)

/-- The parenthesis before the query. -/
def openingParen : Lexeme := ⟨.symbol .leftParen, ⟨⟨14, 1, 15⟩, endLocation opening⟩⟩

/-- **After `SELECT s FROM (` a text has the tokens that it has by itself.** -/
theorem lex_opening {text : String} {tokens : List Lexeme} (h : lex d text = .ok tokens) :
    lex d ("SELECT s FROM (" ++ text) =
      .ok (place .first openingPieces ++ tokens.map (Lexeme.shift (endLocation opening))) := by
  obtain ⟨ps, hps, rfl⟩ := lex_eq_ok_iff.mp h
  refine lex_eq_ok_iff.mpr ⟨openingPieces ++ ps, ?_, ?_⟩
  · rw [String.toList_append]
    exact division_opening hps
  · rw [place_append, ← place_shift _ (by decide)]
    rfl

/-! ## The FROM clause -/

theorem afterFrom?_opening (rest : List Lexeme) :
    afterFrom? 0 (significant (place .first openingPieces) ++ rest) = some (openingParen :: rest) :=
  rfl

theorem scanFactor_openingParen (doc : Document) (tokens : List Lexeme)
    (h : startsQuery tokens = true) :
    scanFactor doc none (openingParen :: tokens) = scanSubquery doc openingParen tokens := by
  show scanGroup doc openingParen tokens = _
  rw [scanGroup, if_pos h]

/-- A subquery that is closed and named `s` is the only entry. -/
theorem scanEntries_of_closed {doc : Document} {tokens : List Lexeme} {close name : Lexeme}
    (hstart : startsQuery tokens = true) (hbalanced : balanced 0 tokens = true)
    (hclose : close.token = .symbol .rightParen) (hname : name.token = wordToken ['s']) :
    scanEntries doc none [] (openingParen :: (tokens ++ [close, name])) =
      [match doc.parse (String.ofList
          (Text.slice doc.chars (endLocation opening).offset close.range.start.offset)) with
        | .ok statement => .subquery statement "s" ⟨⟨14, 1, 15⟩, name.range.stop⟩
        | .error _ =>
          .incomplete (String.ofList
              (Text.slice doc.chars (endLocation opening).offset close.range.start.offset))
            ⟨endLocation opening, close.range.start⟩] := by
  have hend : groupEnd? 0 (tokens ++ [close, name]) = some (close, [name]) :=
    groupEnd?_closed hbalanced close hclose [name]
  -- `s` is no keyword, so it names the subquery.
  have hword : Keyword.ofWord? ['s'] = none := by decide +kernel
  have halias : scanAlias [name] = (some ("s", name), []) := by
    simp only [scanAlias, hname, wordToken, hword]
    rfl
  rw [scanEntries_eq, scanFactor_openingParen doc _ (startsQuery_append hstart _)]
  simp only [scanSubquery, hend, halias, if_true, afterFactor]
  rfl

/-- A subquery that is not closed reaches to the end of the document. -/
theorem scanEntries_of_open {doc : Document} {tokens : List Lexeme}
    (hstart : startsQuery tokens = true) (hbalanced : balanced 0 tokens = true) :
    scanEntries doc none [] (openingParen :: tokens) =
      [.incomplete (String.ofList (Text.slice doc.chars (endLocation opening).offset
          (endLocation doc.chars).offset)) ⟨endLocation opening, endLocation doc.chars⟩] := by
  have hend : groupEnd? 0 tokens = none := by
    rw [← List.append_nil tokens, groupEnd?_append hbalanced, groupEnd?]
  rw [scanEntries_eq, scanFactor_openingParen doc _ hstart]
  simp only [scanSubquery, hend]
  rfl

/-- The tokens of `) s` after the query. -/
def closing (q : String) : List Lexeme :=
  [⟨.symbol .rightParen, ⟨endLocation q.toList, endLocation (q.toList ++ ")".toList)⟩⟩,
    ⟨wordToken ['s'],
      ⟨endLocation (q.toList ++ ") ".toList), endLocation (q.toList ++ ") s".toList)⟩⟩]

theorem closing_ne_nil (q : String) : closing q ≠ [] := by
  rw [closing]
  exact List.cons_ne_nil _ _

section

variable {q : String} {tokens tokens' : List Lexeme}

theorem entries_enclosed (hlex : lex d (q ++ ") s") = .ok tokens') :
    (parser d).entries (enclosed q) =
      FromClause.scan (parse d) (enclosed q) (significant (place .first openingPieces) ++
        (significant tokens').map (Lexeme.shift (endLocation opening))) := by
  have hlex' : lex d (enclosed q) = .ok (place .first openingPieces ++
      tokens'.map (Lexeme.shift (endLocation opening))) := by
    rw [← lex_opening hlex, ← String.append_assoc]
    rfl
  have hclause : (parser d).fromClause (enclosed q) = .ok (FromClause.scan (parse d) (enclosed q)
      (significant (place .first openingPieces ++
        tokens'.map (Lexeme.shift (endLocation opening))))) := by
    rw [parser_fromClause, fromClause, hlex']
  rw [Parser.entries, hclause, ← significant_map_shift, ← significant_append]

/-- **Where the parenthesis after the query closes it**, a query that parses is a subquery, and any
other is kept as text. -/
theorem entries_of_closed (hlex : lex d (q ++ ") s") = .ok tokens')
    (hkeeps : significant tokens' = significant tokens ++ closing q)
    (hstart : startsQuery (significant tokens) = true)
    (hbalanced : balanced 0 (significant tokens) = true) :
    (parser d).entries (enclosed q) =
      [match parse d q with
        | .ok statement =>
          .subquery statement "s" ⟨⟨14, 1, 15⟩, endLocation (opening ++ (q.toList ++ ") s".toList))⟩
        | .error _ => .incomplete q ⟨endLocation opening, endLocation (opening ++ q.toList)⟩] := by
  obtain ⟨last, -, hscan⟩ := exists_scan_eq
    (afterFrom?_opening ((significant tokens').map (Lexeme.shift (endLocation opening))))
    (parse d) (enclosed q)
  have htext : String.ofList (Text.slice (enclosed q).toList (endLocation opening).offset
      (endLocation (opening ++ q.toList)).offset) = q := by
    rw [toList_enclosed, offset_endLocation, offset_endLocation, slice_append, String.ofList_toList]
  rw [entries_enclosed hlex, hscan, hkeeps, List.map_append]
  simp only [closing, List.map_cons, List.map_nil, Lexeme.shift, shift_endLocation]
  rw [scanEntries_of_closed (by rw [startsQuery_map_shift, hstart])
    (by rw [balanced_map_shift, hbalanced]) rfl rfl]
  simp only [htext]
  rfl

/-- **Where the parenthesis after the query is lost in a comment**, the rest of the document is kept
as text. -/
theorem entries_of_lost (hlex : lex d (q ++ ") s") = .ok tokens')
    (hkeeps : significant tokens' = significant tokens)
    (hstart : startsQuery (significant tokens) = true)
    (hbalanced : balanced 0 (significant tokens) = true) :
    (parser d).entries (enclosed q) =
      [.incomplete (q ++ ") s") ⟨endLocation opening, endLocation (enclosed q).toList⟩] := by
  obtain ⟨last, -, hscan⟩ := exists_scan_eq
    (afterFrom?_opening ((significant tokens').map (Lexeme.shift (endLocation opening))))
    (parse d) (enclosed q)
  have htext : Text.slice (enclosed q).toList (endLocation opening).offset
      (endLocation (enclosed q).toList).offset = (q ++ ") s").toList := by
    rw [toList_enclosed, offset_endLocation, offset_endLocation, List.append_assoc,
      String.toList_append]
    have hall := slice_append opening (q.toList ++ ") s".toList) []
    rwa [List.append_nil] at hall
  rw [entries_enclosed hlex, hscan, hkeeps, scanEntries_of_open
    (by rw [startsQuery_map_shift, hstart]) (by rw [balanced_map_shift, hbalanced]), htext,
    String.ofList_toList]
  rfl

end

/-! ## The cursor -/

/-- The cursor of the query in the statement around it: what stands before the query moves its first
line. -/
def afterOpening (pos : Position) : Position :=
  if pos.line = 0 then { pos with column := pos.column + 15 } else pos

theorem standsAfter_afterOpening {pos : Position} {bs : List Char} (h : pos.StandsAfter bs)
    (hsize : Text.byteLength bs + 16 < UInt64.size) : (afterOpening pos).StandsAfter (opening ++ bs) := by
  have hcolumn := column_endLocation_le bs
  have hword : UInt64.size = 18446744073709551616 := rfl
  have hopening : endLocation opening = ⟨15, 1, 16⟩ := by decide
  obtain ⟨hl, hc⟩ := h
  rw [line_endLocation, Text.lineCount] at hl
  unfold afterOpening
  -- Past a line end nothing is moved, since columns start again.
  by_cases hm : '\n' ∈ bs
  · have hcount := List.count_pos_iff.mpr hm
    have hline : pos.line ≠ 0 := by
      intro h0
      rw [h0, UInt64.toNat_zero] at hl
      omega
    rw [if_neg hline, Position.StandsAfter, endLocation_append_of_mem opening hm,
      ← line_endLocation opening, hopening]
    refine ⟨?_, hc⟩
    simp only
    omega
  · have hcount := List.count_eq_zero_of_not_mem hm
    have hline : pos.line = 0 := UInt64.toNat_inj.mp (by rw [UInt64.toNat_zero]; omega)
    rw [column_endLocation, lastLine_of_not_mem hm] at hc hcolumn
    rw [if_pos hline, Position.StandsAfter, endLocation_append_of_not_mem opening hm,
      ← line_endLocation opening, hopening]
    simp only [UInt64.toNat_add, UInt64.reduceToNat]
    omega

/-- The statement up to the cursor has the query up to the cursor in a parenthesis that is not
closed. -/
theorem truncate_enclosed {q : String} {pos : Position} {bs : List Char} (hbs : bs <+: q.toList)
    (hpos : pos.StandsAfter bs) (hsize : Text.byteLength bs + 16 < UInt64.size) :
    truncate (enclosed q) (afterOpening pos) = "SELECT s FROM (" ++ truncate q pos := by
  have hprefix : opening ++ bs <+: (enclosed q).toList := by
    rw [toList_enclosed, List.append_assoc]
    exact (List.prefix_append_right_inj opening).mpr (hbs.trans (List.prefix_append _ _))
  have hbytes : Text.byteLength (opening ++ bs) + 1 < UInt64.size := by
    have hopening : Text.byteLength opening = 15 := by decide
    rw [Text.byteLength_append, hopening]
    omega
  have htext : String.ofList opening = "SELECT s FROM (" := String.ofList_toList
  rw [truncate, truncate,
    truncateChars_of_standsAfter hprefix (standsAfter_afterOpening hpos hsize) hbytes,
    truncateChars_of_standsAfter hbs hpos (by omega), String.ofList_append, htext]

/-! ## Completion -/

/-- A comment at the end of a query that takes in what follows leaves the completion as it is. -/
theorem complete_of_lost {options : Options} {q : String} {tokens tokens' : List Lexeme}
    {pos : Position} {schema : Schema} {bs : List Char} (hlex : lex d q = .ok tokens)
    (hlex' : lex d (q ++ ") s") = .ok tokens')
    (hkeeps : significant tokens' = significant tokens)
    (hbalanced : balanced 0 (significant tokens) = true) (hbs : bs <+: q.toList)
    (hpos : pos.StandsAfter bs) (hsize : (q ++ ") s").utf8ByteSize ≤ maxDocumentBytes) :
    complete (parser d) options (q ++ ") s") pos schema =
      complete (parser d) options q pos schema := by
  have hmax : maxDocumentBytes + 1 < UInt64.size := by decide
  have hbytes := hsize
  rw [utf8ByteSize_eq, String.toList_append, Text.byteLength_append] at hbytes
  have hshort := byteLength_le_of_prefix hbs
  have htarget : truncate (q ++ ") s") pos = truncate q pos := by
    rw [truncate, truncate, String.toList_append,
      truncateChars_of_standsAfter (hbs.trans (List.prefix_append _ _)) hpos (by omega),
      truncateChars_of_standsAfter hbs hpos (by omega)]
  -- All subqueries of the query are closed within it, so their texts are the same.
  have hsame : SameGroups (q ++ ") s").toList q.toList (significant tokens) := by
    rw [String.toList_append]
    exact sameGroups_append hbalanced fun t ht =>
      inText_of_mem_lex hlex (List.mem_filter.mp ht).1
  have hentries : (parser d).entries (q ++ ") s") = (parser d).entries q := by
    simp only [Parser.entries, parser_fromClause, fromClause, hlex, hlex', hkeeps, scan_congr hsame]
  rw [complete_of_size_le hsize, complete_of_size_le (by rw [utf8ByteSize_eq]; omega), htarget,
    Parser.resolve_congr htarget hentries]

/-- Where the FROM clause of a statement that starts with `SELECT s FROM (` is a text, the text is
completed. -/
theorem complete_of_entries_eq (options : Options) (limit : Nat) (schema : Schema) {p : Parser}
    {sql text : String} {pos : Position} {e : SyntaxError} {bs rest : List Char}
    (hsize : sql.utf8ByteSize ≤ maxDocumentBytes)
    (hsql : sql.toList = opening ++ text.toList ++ rest) (hbs : bs <+: text.toList) (hne : bs ≠ [])
    (hpos : pos.StandsAfter bs)
    (hentries : p.entries sql =
      [.incomplete text ⟨endLocation opening, endLocation (opening ++ text.toList)⟩])
    (he : p.parse (truncate sql (afterOpening pos)) = .error (.invalid e)) :
    complete p { options with maxSubqueryDepth := limit + 1 } sql (afterOpening pos) schema =
      ((complete p { options with maxSubqueryDepth := limit } text pos schema).mapError
        .underNextLimit).map fun r => { r with error := some e.report } := by
  have hbytes : Text.byteLength opening + Text.byteLength text.toList + Text.byteLength rest ≤
      maxDocumentBytes := by
    rw [← Text.byteLength_append, ← Text.byteLength_append, ← hsql, ← utf8ByteSize_eq]
    exact hsize
  have hmax : maxDocumentBytes + 16 < UInt64.size := by decide
  have hshort := byteLength_le_of_prefix hbs
  have hsmall : Text.byteLength (opening ++ bs) + 1 < UInt64.size := by
    rw [Text.byteLength_append]
    omega
  have hafter := standsAfter_afterOpening hpos (by omega)
  have hwithin : (afterOpening pos).within (endLocation opening) = pos :=
    (standsAfter_within hafter hsmall).unique hpos
  have hnext : p.next? ⟨sql, afterOpening pos⟩ = some ⟨text, pos⟩ := by
    refine Parser.next?_eq_some_iff.mpr ⟨e, text, endLocation opening, he, ?_, by rw [hwithin]⟩
    simp only [hentries, incompleteAt?, List.findSome?_cons,
      contains_of_standsAfter hafter hne hbs hsmall, if_true]
  exact (complete_of_next? hsize hsql (by decide) hbs hafter hpos he hnext).2.2

/-- Where the FROM clause is a subquery that parses, completion goes no further. -/
theorem next?_eq_none_of_entries_eq {p : Parser} {site : Site} {statement : Statement}
    {name : String} {range : Range} (h : p.entries site.sql = [.subquery statement name range]) :
    p.next? site = none := by
  cases hnext : p.next? site with
  | none => rfl
  | some t =>
    obtain ⟨_, text, start, -, hat, -⟩ := Parser.next?_eq_some_iff.mp hnext
    rw [h] at hat
    cases hat

/-- A completion that is one of a text under a lower limit has the candidates that the text has under
the same limit. -/
theorem exists_candidates_eq {p : Parser} {options : Options} {limit : Nat} {sql text : String}
    {outer pos : Position} {schema : Schema} {report : Option ErrorReport} {r : Completion}
    (h : complete p { options with maxSubqueryDepth := limit + 1 } sql outer schema =
      ((complete p { options with maxSubqueryDepth := limit } text pos schema).mapError
        .underNextLimit).map fun r => { r with error := report })
    (hr : complete p { options with maxSubqueryDepth := limit + 1 } sql outer schema = .ok r) :
    ∃ r', complete p { options with maxSubqueryDepth := limit + 1 } text pos schema = .ok r' ∧
      r'.candidates = r.candidates := by
  rw [h] at hr
  cases hinner : complete p { options with maxSubqueryDepth := limit } text pos schema with
  | error failure =>
    rw [hinner] at hr
    cases hr
  | ok r' =>
    rw [hinner] at hr
    cases hr
    exact ⟨r', complete_limit_succ hinner, rfl⟩

/-- **A query that is a subquery is completed as if it stood alone, as long as it does not parse.**
The query is to keep its tokens: the parenthesis after it is a token of its own, or a comment at the
end of the query takes it in. The text before the cursor has a parenthesis that is not closed, which
the parser rejects. The step into the query counts against the limit, and where the limit is kept
the candidates are those of the query under the same limit. A query that parses is not entered. -/
theorem complete_enclosed (d : Dialect) (options : Options) (limit : Nat) (q : String)
    (tokens tokens' tail : List Lexeme) (pos : Position) (schema : Schema) (e : SyntaxError)
    (o : Nat) (hlex : lex d q = .ok tokens) (hstart : startsQuery (significant tokens) = true)
    (hbalanced : balanced 0 (significant tokens) = true)
    (hlex' : lex d (q ++ ") s") = .ok tokens')
    (hkeeps : significant tokens' = significant tokens ++ tail)
    (htail : tail = closing q ∨ tail = [])
    (hpos : offset? q.toList (pos.line.toNat + 1) (pos.column.toNat + 1) = some o) (ho : 0 < o)
    (hsize : (enclosed q).utf8ByteSize ≤ maxDocumentBytes)
    (hreject : parse d ("SELECT s FROM (" ++ truncate q pos) = .error (.invalid e)) :
    ((tail = [] ∨ ∃ failure, parse d q = .error failure) →
      complete (parser d) { options with maxSubqueryDepth := limit + 1 } (enclosed q)
          (afterOpening pos) schema =
        ((complete (parser d) { options with maxSubqueryDepth := limit } q pos schema).mapError
          .underNextLimit).map (fun r => { r with error := some e.report }) ∧
      ∀ r, complete (parser d) { options with maxSubqueryDepth := limit + 1 } (enclosed q)
          (afterOpening pos) schema = .ok r →
        ∃ r', complete (parser d) { options with maxSubqueryDepth := limit + 1 } q pos schema =
          .ok r' ∧ r'.candidates = r.candidates) ∧
      (tail = closing q → (∃ statement, parse d q = .ok statement) →
        (parser d).next? ⟨enclosed q, afterOpening pos⟩ = none) := by
  obtain ⟨bs, hbs, hafter, hbytes⟩ := exists_standsAfter hpos
  have hne : bs ≠ [] := by
    rintro rfl
    rw [← hbytes] at ho
    cases ho
  have hmax : maxDocumentBytes + 16 < UInt64.size := by decide
  have hsum := hsize
  rw [utf8ByteSize_eq, toList_enclosed, Text.byteLength_append, Text.byteLength_append] at hsum
  have hshort := byteLength_le_of_prefix hbs
  rw [← truncate_enclosed hbs hafter (by omega), ← parser_parse] at hreject
  refine ⟨fun hentered => ?_, ?_⟩
  -- The FROM clause holds a text: the query, or the query with what its last comment takes in.
  · rcases htail with rfl | rfl
    · rcases hentered with hnil | ⟨failure, hfailure⟩
      · exact absurd hnil (closing_ne_nil q)
      · have hentries := entries_of_closed hlex' hkeeps hstart hbalanced
        simp only [hfailure] at hentries
        have hrun := complete_of_entries_eq options limit schema hsize (toList_enclosed q) hbs hne
          hafter hentries hreject
        exact ⟨hrun, fun r hr => exists_candidates_eq hrun hr⟩
    · rw [List.append_nil] at hkeeps
      have hsql : (enclosed q).toList = opening ++ (q ++ ") s").toList := by
        rw [toList_enclosed, List.append_assoc, String.toList_append]
      have hentries := entries_of_lost hlex' hkeeps hstart hbalanced
      rw [hsql] at hentries
      have hprefix : bs <+: (q ++ ") s").toList := by
        rw [String.toList_append]
        exact hbs.trans (List.prefix_append _ _)
      have hlonger : (q ++ ") s").utf8ByteSize ≤ maxDocumentBytes := by
        rw [utf8ByteSize_eq, String.toList_append, Text.byteLength_append]
        omega
      have hrun := complete_of_entries_eq options limit schema hsize
        (by rw [hsql, List.append_nil]) hprefix hne hafter hentries hreject
      rw [complete_of_lost hlex hlex' hkeeps hbalanced hbs hafter hlonger] at hrun
      exact ⟨hrun, fun r hr => exists_candidates_eq hrun hr⟩
  · rintro rfl ⟨statement, hstatement⟩
    have hentries := entries_of_closed hlex' hkeeps hstart hbalanced
    simp only [hstatement] at hentries
    exact next?_eq_none_of_entries_eq hentries

/-- A query of two lines with a cursor on the second one. -/
theorem complete_enclosed_two_lines :
    ∃ e, parse .generic ("SELECT s FROM (" ++ truncate "SELECT 1,\n  e. FROM t e" ⟨1, 4⟩) =
        .error (.invalid e) ∧
      complete (parser .generic) { maxSubqueryDepth := 1 } (enclosed "SELECT 1,\n  e. FROM t e")
          (afterOpening ⟨1, 4⟩) { tables := [{ name := "t", columns := [{ name := "a" }] }] } =
        ((complete (parser .generic) { maxSubqueryDepth := 0 } "SELECT 1,\n  e. FROM t e" ⟨1, 4⟩
            { tables := [{ name := "t", columns := [{ name := "a" }] }] }).mapError
          .underNextLimit).map fun r => { r with error := some e.report } := by
  have hinvalid : (Parser.syntaxError? (parse .generic
      ("SELECT s FROM (" ++ truncate "SELECT 1,\n  e. FROM t e" ⟨1, 4⟩))).isSome = true := by
    decide +kernel
  have hfails : (parse .generic "SELECT 1,\n  e. FROM t e").toOption.isNone = true := by
    decide +kernel
  obtain ⟨e, he⟩ := Option.isSome_iff_exists.mp hinvalid
  have hreject := Parser.syntaxError?_eq_some_iff.mp he
  refine ⟨e, hreject, ?_⟩
  refine ((complete_enclosed .generic {} 0 "SELECT 1,\n  e. FROM t e"
    ((lex .generic "SELECT 1,\n  e. FROM t e").toOption.getD [])
    ((lex .generic "SELECT 1,\n  e. FROM t e) s").toOption.getD [])
    (closing "SELECT 1,\n  e. FROM t e") ⟨1, 4⟩ _ e 14 (by decide +kernel) (by decide +kernel)
    (by decide +kernel) (by decide +kernel) (by decide +kernel) (.inl rfl) (by decide) (by decide)
    (by decide) hreject).1 (.inr ?_)).1
  cases hparse : parse .generic "SELECT 1,\n  e. FROM t e" with
  | error failure => exact ⟨failure, rfl⟩
  | ok statement =>
    rw [hparse] at hfails
    cases hfails

/-- The two conditions are needed. A query that parses is not completed as if it stood alone, and
neither is one whose last token takes in the parenthesis: with `@` it makes a word. -/
theorem not_complete_enclosed :
    (¬∀ (q : String) (tokens : List Lexeme) (pos : Position) (schema : Schema) (o : Nat),
      lex .generic q = .ok tokens →
      (significant tokens).head?.bind (·.token.keyword?) = some "SELECT" →
      balanced 0 (significant tokens) = true →
      offset? q.toList (pos.line.toNat + 1) (pos.column.toNat + 1) = some o → 0 < o →
      (complete (parser .generic) {} (enclosed q) (afterOpening pos) schema).map
          Completion.candidates =
        (complete (parser .generic) {} q pos schema).map Completion.candidates) ∧
    ¬∀ (q : String) (tokens : List Lexeme) (pos : Position) (schema : Schema) (o : Nat),
      lex .generic q = .ok tokens →
      (significant tokens).head?.bind (·.token.keyword?) = some "SELECT" →
      balanced 0 (significant tokens) = true → (parse .generic q).toOption.isNone = true →
      offset? q.toList (pos.line.toNat + 1) (pos.column.toNat + 1) = some o → 0 < o →
      (complete (parser .generic) {} (enclosed q) (afterOpening pos) schema).map
          Completion.candidates =
        (complete (parser .generic) {} q pos schema).map Completion.candidates := by
  refine ⟨fun h => ?_, fun h => ?_⟩
  · have hsame := h "SELECT e.a FROM t e" ((lex .generic "SELECT e.a FROM t e").toOption.getD [])
      ⟨0, 9⟩ { tables := [{ name := "t", columns := [{ name := "a" }] }] } 9 (by decide +kernel)
      (by decide +kernel) (by decide +kernel) (by decide) (by decide)
    exact absurd hsame (by decide +kernel)
  · have hsame := h "SELECT  FROM t, @" ((lex .generic "SELECT  FROM t, @").toOption.getD [])
      ⟨0, 7⟩ { tables := [{ name := "t", columns := [{ name := "a" }] }] } 7 (by decide +kernel)
      (by decide +kernel) (by decide +kernel) (by decide +kernel) (by decide) (by decide)
    exact absurd hsame (by decide +kernel)

end SqlCompletion.Sql
