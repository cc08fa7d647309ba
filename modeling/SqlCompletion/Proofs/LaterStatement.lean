import SqlCompletion.Proofs.Origin
import SqlCompletion.Proofs.Parts
import SqlCompletion.Proofs.Reentry
import SqlCompletion.Proofs.ScanExtent
import SqlCompletion.Proofs.ScanShift
import SqlCompletion.Proofs.Unfinished

/-!
# Statements after the first one

A document may hold several statements. The text before the cursor is the statement that it ends
with, but the FROM clause of the document is the first one that there is. So the scope at a cursor in
a later statement is that of the first statement, if that has a FROM clause of its own, and that of
the later statement otherwise.
-/

namespace SqlCompletion

open Text

/-! ## Entries further on -/

theorem tableRefs_map_shift (base : Location) (entries : List FromEntry) :
    tableRefs (entries.map (FromEntry.shift base)) =
      (tableRefs entries).map fun r => { r with location := r.location.shift base } := by
  rw [tableRefs, tableRefs, List.filterMap_map, List.map_filterMap]
  congr 1
  funext entry
  cases entry <;> rfl

theorem tableAliases_map_shift (base : Location) (entries : List FromEntry) :
    tableAliases (entries.map (FromEntry.shift base)) = tableAliases entries := by
  rw [tableAliases, tableAliases, tableRefs_map_shift, List.filterMap_map]
  rfl

/-- Where the entries of a clause stand makes no difference to the names that they bring in. -/
theorem aliasesByPrefix_map_shift (base : Location) (entries : List FromEntry) (typed : String) :
    aliasesByPrefix (entries.map (FromEntry.shift base)) typed = aliasesByPrefix entries typed := by
  rw [aliasesByPrefix, aliasesByPrefix, tableAliases_map_shift]

theorem scopedColumns_map_shift (base : Location) (entries : List FromEntry) (tables : List Table)
    (typed : String) :
    scopedColumns (entries.map (FromEntry.shift base)) tables typed =
      scopedColumns entries tables typed := by
  simp only [scopedColumns, columnsByAlias, tableAliases_map_shift, tableRefs_map_shift,
    List.flatMap_map]

/-! ## A cursor further on -/

/-- A range does not contain a cursor that stands two characters after its end, or more. -/
theorem contains_eq_false_of_standsAfter {r : Range} {pos : Position} {as bs : List Char}
    (hstop : r.stop = endLocation as) (hpos : pos.StandsAfter (as ++ bs)) (hlen : 2 ≤ bs.length)
    (hsize : byteLength (as ++ bs) + 1 < UInt64.size) : r.contains pos = false := by
  refine Bool.eq_false_iff.mpr fun hcontains => ?_
  rw [Range.contains, Bool.and_eq_true, hstop,
    cell_cellLe_iff hpos hsize (List.prefix_append as bs) List.prefix_rfl] at hcontains
  rcases hcontains.2 with hprefix | ⟨c, -, hconcat⟩
  · have hle := hprefix.length_le
    rw [List.length_append] at hle
    omega
  · have hone : bs = [c] := List.append_cancel_left hconcat
    rw [hone, List.length_singleton] at hlen
    omega

namespace Sql

variable {d : Dialect}

/-! ## The tokens of two statements -/

/-- The semicolon after a text. -/
def semicolonAfter (first : String) : Lexeme :=
  ⟨.symbol .semicolon, ⟨endLocation first.toList, endLocation (first.toList ++ [';'])⟩⟩

/-- In the document `first;second` the first statement has the tokens that it has by itself, and the
semicolon after it is a token. -/
structure Precedes (d : Dialect) (first second : String) (tokens more : List Lexeme) : Prop where
  lex_first : lex d first = .ok tokens
  lex_both : lex d (first ++ ";" ++ second) = .ok (tokens ++ semicolonAfter first :: more)
  balanced : FromClause.balanced 0 (significant tokens) = true

section

variable {first second : String} {tokens more : List Lexeme}

theorem toList_append_semicolon (first second : String) :
    (first ++ ";" ++ second).toList = first.toList ++ [';'] ++ second.toList := by
  rw [String.toList_append, String.toList_append]
  rfl

/-- The later statement has the tokens that it has by itself, further on. -/
theorem Precedes.lex_second (h : Precedes d first second tokens more) :
    ∃ tokens', lex d second = .ok tokens' ∧
      more = tokens'.map (Lexeme.shift (endLocation (first.toList ++ [';']))) := by
  obtain ⟨ps, hps, hplace⟩ := lex_eq_ok_iff.mp h.lex_both
  obtain ⟨qs, rs, rfl, -, hrest⟩ := exists_of_place_eq_append hplace.symm
  cases rs with
  | nil => cases hrest
  | cons p rs =>
    obtain ⟨hp, hmore⟩ := List.cons.inj hrest
    obtain ⟨rest, hcs, hdivision⟩ := hps.exists_of_append_cons
    have hdoc := toList_append_semicolon first second
    have hboth : first.toList ++ [';'] <+: (first ++ ";" ++ second).toList := by
      rw [hdoc]
      exact List.prefix_append _ _
    have hfront : qs.flatMap Piece.chars ++ p.chars <+: (first ++ ";" ++ second).toList := by
      rw [hcs]
      exact List.prefix_append _ _
    have hafter (cs : List Char) : Location.first.after cs = endLocation cs :=
      (endLocation_append [] cs).symm
    rw [hafter, ← endLocation_append, semicolonAfter] at hp
    simp only [Lexeme.mk.injEq, Range.mk.injEq] at hp
    obtain ⟨htoken, -, hstop⟩ := hp
    -- Up to the end of the semicolon the pieces make up the first statement and the semicolon.
    have heq : qs.flatMap Piece.chars ++ p.chars = first.toList ++ [';'] :=
      eq_of_byteLength_eq hfront hboth (congrArg Location.offset hstop)
    have hrest : rest = second.toList := by
      rw [heq, hdoc] at hcs
      exact (List.append_cancel_left hcs).symm
    rw [hrest, htoken] at hdivision
    refine ⟨place .first rs, lex_eq_ok_iff.mpr ⟨rs, hdivision.of_symbol nofun, rfl⟩, ?_⟩
    rw [← place_shift _ (by decide), ← hmore, hafter, ← endLocation_append, heq]
    rfl

/-! ## The FROM clause of two statements -/

theorem Precedes.significant_eq (h : Precedes d first second tokens more) :
    ∃ all, lex d (first ++ ";" ++ second) = .ok all ∧
      significant all = significant tokens ++ semicolonAfter first :: significant more :=
  ⟨_, h.lex_both, by rw [significant_append]; rfl⟩

/-- **The FROM clause of the first statement is that of the document.** -/
theorem Precedes.fromClause_of_isSome (h : Precedes d first second tokens more)
    (hfrom : (FromClause.afterFrom? 0 (significant tokens)).isSome = true) :
    fromClause d (first ++ ";" ++ second) = fromClause d first := by
  obtain ⟨all, hlex, hall⟩ := h.significant_eq
  obtain ⟨clause, hclause⟩ := Option.isSome_iff_exists.mp hfrom
  have hs := FromClause.suffix_of_afterFrom? hclause
  have hsame : FromClause.SameInside (first ++ ";" ++ second).toList first.toList clause := by
    rw [toList_append_semicolon, List.append_assoc]
    exact FromClause.sameInside_append fun t ht =>
      inText_of_mem_lex h.lex_first (List.mem_filter.mp (hs.subset ht)).1
  have hends : FromClause.EndsBetween (FromClause.clauseAwaits clause) clause
      (semicolonAfter first :: significant more) :=
    ⟨(FromClause.closed_of_balanced h.balanced).of_suffix hs, FromClause.nextIs_cons.mpr rfl,
      fun _ => FromClause.nextIs_cons.mpr rfl⟩
  simp only [fromClause, hlex, h.lex_first, hall, FromClause.scan_append hclause hsame hends]

/-- **Without one it is that of the later statement**, further on in the document. -/
theorem Precedes.fromClause_of_eq_none (h : Precedes d first second tokens more)
    (hfrom : FromClause.afterFrom? 0 (significant tokens) = none) :
    fromClause d (first ++ ";" ++ second) =
      (fromClause d second).map
        (·.map (FromEntry.shift (endLocation (first.toList ++ [';'])))) := by
  obtain ⟨all, hlex, hall⟩ := h.significant_eq
  obtain ⟨tokens', hlex', rfl⟩ := h.lex_second
  have hdoc : first ++ ";" ++ second =
      String.ofList (first.toList ++ [';'] ++ second.toList) := by
    rw [← toList_append_semicolon, String.ofList_toList]
  have hscan := FromClause.scan_map_shift (parse d) (first.toList ++ [';']) second
    (significant tokens')
  simp only [fromClause, hlex, hlex', hall, Except.map]
  rw [← hscan, ← hdoc, significant_map_shift, FromClause.scan_append_left h.balanced hfrom,
    ← List.singleton_append, FromClause.scan_append_left rfl rfl]

/-! ## The cursor in the later statement -/

/-- Where parentheses match, an unfinished subquery ends before a parenthesis. -/
theorem exists_append_of_incomplete {sql text : String} {range : Range}
    (hlex : lex d sql = .ok tokens)
    (hbalanced : FromClause.balanced 0 (significant tokens) = true)
    (h : .incomplete text range ∈ FromClause.scan (parse d) sql (significant tokens)) :
    ∃ before rest, sql.toList = before ++ rest ∧ rest ≠ [] ∧ range.stop = endLocation before := by
  obtain ⟨t, rest, ht, -, opening, inner, hopening, hparen, hentry⟩ :=
    FromClause.exists_group_of_mem_scan h
  have hgroup := hopening.trans ((List.suffix_cons t rest).trans ht)
  obtain ⟨⟨close, after⟩, hclose⟩ := Option.isSome_iff_exists.mp
    (FromClause.isSome_groupEnd?_of_suffix hbalanced hgroup hparen)
  have hsuffix := (FromClause.suffix_of_groupEnd? hclose).trans
    ((List.suffix_cons opening inner).trans hgroup)
  obtain ⟨-, before, chars, ⟨more, hmore⟩, hstands⟩ := exists_stands_of_suffix hlex hsuffix
  refine ⟨before, chars ++ more, by rw [← hmore, List.append_assoc], ?_, ?_⟩
  · exact List.append_ne_nil_of_left_ne_nil hstands.ne_nil more
  · simp only [FromClause.groupEntry, FromClause.groupStop, hclose, hstands.range_eq] at hentry
    cases hentry
    rfl

/-- A cursor in the later statement is in no subquery of the first one. -/
theorem Precedes.next?_eq_none (h : Precedes d first second tokens more)
    (hfrom : (FromClause.afterFrom? 0 (significant tokens)).isSome = true) {pos : Position}
    {bs : List Char} (hbs : bs <+: second.toList)
    (hpos : pos.StandsAfter (first.toList ++ [';'] ++ bs))
    (hsize : (first ++ ";" ++ second).utf8ByteSize ≤ maxDocumentBytes) :
    (parser d).next? ⟨first ++ ";" ++ second, pos⟩ = none := by
  rw [Option.eq_none_iff_forall_ne_some]
  intro site hnext
  obtain ⟨_, text, start, -, hat, -⟩ := Parser.next?_eq_some_iff.mp hnext
  obtain ⟨range, hmem, -, hcontains⟩ := exists_mem_of_incompleteAt? hat
  obtain ⟨entries, hentries, hmem⟩ := mem_entries_iff.mp hmem
  have hclause : (parser d).fromClause (first ++ ";" ++ second) =
      .ok (FromClause.scan (parse d) first (significant tokens)) := by
    have hfirst : fromClause d first =
        .ok (FromClause.scan (parse d) first (significant tokens)) := by
      simp only [fromClause, h.lex_first]
    exact (h.fromClause_of_isSome hfrom).trans hfirst
  rw [hclause] at hentries
  cases hentries
  obtain ⟨before, rest, hrest, hne, hstop⟩ :=
    exists_append_of_incomplete h.lex_first h.balanced hmem
  -- The parenthesis and the semicolon stand between the end of the subquery and the cursor.
  have hmax : maxDocumentBytes + 1 < UInt64.size := by decide
  have hshort := byteLength_le_of_prefix hbs
  rw [utf8ByteSize_eq, toList_append_semicolon, byteLength_append] at hsize
  rw [hrest, List.append_assoc, List.append_assoc] at hpos
  have hlen := List.length_pos_iff.mpr hne
  have hbetween : 2 ≤ (rest ++ ([';'] ++ bs)).length := by
    simp only [List.length_append, List.length_singleton]
    omega
  have hbytes : byteLength (before ++ (rest ++ ([';'] ++ bs))) + 1 < UInt64.size := by
    rw [← List.append_assoc, ← List.append_assoc, ← hrest, byteLength_append]
    omega
  rw [contains_eq_false_of_standsAfter hstop hpos hbetween hbytes] at hcontains
  cases hcontains

end

/-- **The scope of a later statement** is not always its own. If the first statement has a FROM
clause, the document has no other: at a cursor in the later statement no subquery is entered, and
every candidate comes from the schema and from the clause of the first statement. An alias of the
later statement is not offered then, unless the first one has it too. If the first statement has no
`FROM` outside parentheses, the clause is that of the later statement, with the aliases and columns
that it brings in by itself. -/
theorem scope_of_later_statement (d : Dialect) (first second : String) (tokens more : List Lexeme)
    (h : Precedes d first second tokens more) :
    ((FromClause.afterFrom? 0 (significant tokens)).isSome = true →
      fromClause d (first ++ ";" ++ second) = fromClause d first ∧
      ∀ (options : Options) (pos : Position) (schema : Schema) (bs : List Char) (r : Completion),
        bs <+: second.toList → pos.StandsAfter (first.toList ++ [';'] ++ bs) →
        complete (parser d) options (first ++ ";" ++ second) pos schema = .ok r →
        (parser d).next? ⟨first ++ ";" ++ second, pos⟩ = none ∧
        ∀ c ∈ r.candidates, Origin schema ((parser d).entries first)
          ((parser d).literalsAt ⟨first ++ ";" ++ second, pos⟩) c.bare) ∧
    (FromClause.afterFrom? 0 (significant tokens) = none →
      fromClause d (first ++ ";" ++ second) =
        (fromClause d second).map
          (·.map (FromEntry.shift (endLocation (first.toList ++ [';'])))) ∧
      ∀ (tables : List Table) (typed : String),
        aliasesByPrefix ((parser d).entries (first ++ ";" ++ second)) typed =
          aliasesByPrefix ((parser d).entries second) typed ∧
        scopedColumns ((parser d).entries (first ++ ";" ++ second)) tables typed =
          scopedColumns ((parser d).entries second) tables typed) := by
  refine ⟨fun hfrom => ?_, fun hfrom => ?_⟩
  · have hclause := h.fromClause_of_isSome hfrom
    have hclause' : (parser d).entries (first ++ ";" ++ second) = (parser d).entries first := by
      simp only [Parser.entries, parser, hclause]
    refine ⟨hclause, fun options pos schema bs r hbs hpos hr => ?_⟩
    have hsize : (first ++ ";" ++ second).utf8ByteSize ≤ maxDocumentBytes := by
      by_contra hlarge
      rw [complete, if_pos (Nat.not_le.mp hlarge)] at hr
      cases hr
    have hstop := h.next?_eq_none hfrom hbs hpos hsize
    refine ⟨hstop, fun c hc => ?_⟩
    -- The run answers in the document itself.
    rw [complete_of_stops hsize (Nat.zero_le _) rfl hstop] at hr
    cases hanswer : (parser d).answerAt schema ⟨first ++ ";" ++ second, pos⟩ with
    | error failure =>
      rw [hanswer] at hr
      cases hr
    | ok answer =>
      rw [hanswer] at hr
      cases hr
      obtain ⟨c', hc', rfl⟩ := List.mem_map.mp hc
      have horigin := origin_of_answerAt hanswer (List.mem_filter.mp hc').1
      rw [Candidate.bare_afterToken, horigin.bare_eq]
      rwa [hclause'] at horigin
  · have hclause := h.fromClause_of_eq_none hfrom
    have hentries : (parser d).entries (first ++ ";" ++ second) =
        ((parser d).entries second).map
          (FromEntry.shift (endLocation (first.toList ++ [';']))) := by
      simp only [Parser.entries, parser, hclause]
      cases fromClause d second <;> rfl
    refine ⟨hclause, fun tables typed => ?_⟩
    rw [hentries]
    exact ⟨aliasesByPrefix_map_shift _ _ typed, scopedColumns_map_shift _ _ tables typed⟩

/-- The alias `a` of the first statement is offered in the second one, which by itself offers nothing
there. After a statement without `FROM` the aliases are those of the second one. -/
theorem scope_of_later_statement_leaks :
    let schema : Schema :=
      { tables := [{ name := "t", columns := [{ name := "x" }] },
          { name := "u", columns := [{ name := "y" }] }] }
    (∃ r, complete (parser .generic) {} ("SELECT 1 FROM t a" ++ ";" ++ " SELECT a FROM u b") ⟨0, 27⟩
          schema = .ok r ∧
        r.candidates = [.ofAlias "a"] ∧
        complete (parser .generic) {} " SELECT a FROM u b" ⟨0, 9⟩ schema = .ok ⟨[], none⟩ ∧
        Origin schema ((parser .generic).entries "SELECT 1 FROM t a")
          ((parser .generic).literalsAt ⟨"SELECT 1 FROM t a" ++ ";" ++ " SELECT a FROM u b", ⟨0, 27⟩⟩)
          (.ofAlias "a")) ∧
      aliasesByPrefix ((parser .generic).entries ("SELECT 1" ++ ";" ++ " SELECT a FROM u b")) "" =
        [.ofAlias "b"] := by
  intro schema
  let tokensOf (text : String) : List Lexeme := (lex .generic text).toOption.getD []
  have hfrom : Precedes .generic "SELECT 1 FROM t a" " SELECT a FROM u b"
      (tokensOf "SELECT 1 FROM t a") ((tokensOf "SELECT 1 FROM t a; SELECT a FROM u b").drop 10) :=
    ⟨by decide +kernel, by decide +kernel, by decide +kernel⟩
  have hnone : Precedes .generic "SELECT 1" " SELECT a FROM u b" (tokensOf "SELECT 1")
      ((tokensOf "SELECT 1; SELECT a FROM u b").drop 4) :=
    ⟨by decide +kernel, by decide +kernel, by decide +kernel⟩
  refine ⟨?_, ?_⟩
  · have hok : complete (parser .generic) {} ("SELECT 1 FROM t a" ++ ";" ++ " SELECT a FROM u b")
        ⟨0, 27⟩ schema = .ok ⟨[.ofAlias "a"], none⟩ := by decide +kernel
    have hstands : Position.StandsAfter ⟨0, 27⟩
        ("SELECT 1 FROM t a".toList ++ [';'] ++ " SELECT a".toList) := ⟨by decide, by decide⟩
    have hscope := ((scope_of_later_statement .generic _ _ _ _ hfrom).1 (by decide +kernel)).2 {}
      ⟨0, 27⟩ schema " SELECT a".toList _ (by decide) hstands hok
    exact ⟨_, hok, rfl, by decide +kernel, hscope.2 _ (List.mem_singleton.mpr rfl)⟩
  · have hscope := ((scope_of_later_statement .generic _ _ _ _ hnone).2 (by decide +kernel)).2
    rw [(hscope [] "").1]
    decide +kernel

end Sql

end SqlCompletion
