import SqlCompletion.Proofs.Parts
import SqlCompletion.Proofs.WrittenClause

/-!
# The select list before a FROM clause

The FROM clause of a statement is looked for by its keyword: it is the first `FROM` outside
parentheses. A select list makes no difference to it as long as it has none of its own. But there are
operators that are written with this word, such as `IS DISTINCT FROM`, and it may be a name after a
dot. Then the scan takes what follows in the list for the clause.

* `fromClause_selectFrom_of_outside`: a list without `FROM` outside parentheses.
* `exists_fromClause_selectFrom`: a list with one.
* `fromClause_selectFrom`: the clause that is found, for every select list.
-/

namespace SqlCompletion.Sql

open FromClause

variable {d : Dialect}

/-! ## Statements -/

/-- A statement with a select list and a FROM clause. -/
def selectFrom (list clause : String) : String := "SELECT " ++ list ++ (" FROM " ++ clause)

/-- `SELECT` and the blank behind it, in pieces. -/
def selectPieces : List Piece := [⟨wordToken "SELECT".toList, "SELECT".toList⟩, ⟨.blank " ", [' ']⟩]

theorem division_select {cs : List Char} {ps : List Piece}
    (h : Division d (some (.blank " ")) cs ps) :
    Division d none ("SELECT ".toList ++ cs) (selectPieces ++ ps) :=
  .cons (scan_select d _ _) <| .cons (scan_blank d _ _) h

/-- A blank stands anywhere. -/
theorem Division.of_blank {prev prev' : Option Token} {cs : List Char} {ps : List Piece}
    (h : Division d prev (' ' :: cs) ps) : Division d prev' (' ' :: cs) ps := by
  cases h with
  | cons hscan hrest =>
    cases (scan_blank d prev cs).symm.trans hscan
    exact .cons (scan_blank d prev' cs) hrest

theorem lex_select : lex d "SELECT " = .ok (place .first selectPieces) :=
  lex_eq_ok_iff.mpr ⟨selectPieces, division_select (.nil _), rfl⟩

/-- What stands before the FROM clause of `SELECT *`, in pieces. -/
def starPieces : List Piece := selectPieces ++ [⟨.symbol .star, ['*']⟩]

/-- Behind `SELECT *` a text that starts with a blank has its own tokens. -/
theorem lex_star {text : String} {tokens : List Lexeme} (h : lex d (" " ++ text) = .ok tokens) :
    lex d ("SELECT *" ++ (" " ++ text)) =
      .ok (place .first starPieces ++
        tokens.map (Lexeme.shift (endLocation "SELECT *".toList))) := by
  obtain ⟨ps, hps, rfl⟩ := lex_eq_ok_iff.mp h
  have hblank : (" " ++ text).toList = ' ' :: text.toList := String.toList_append
  have htext : ("SELECT *" ++ (" " ++ text)).toList =
      "SELECT ".toList ++ '*' :: ' ' :: text.toList := by
    rw [String.toList_append, hblank]
    rfl
  rw [hblank] at hps
  refine lex_eq_ok_iff.mpr ⟨starPieces ++ ps, ?_, ?_⟩
  · rw [htext, starPieces, List.append_assoc]
    exact division_select (.cons (scan_star d _ _) hps.of_blank)
  · rw [place_append, ← place_shift _ (by decide)]
    rfl

/-! ## The clause -/

/-- **The clause behind `SELECT *` is its own.** -/
theorem fromClause_selectFrom_star {clause : String} {tokens : List Lexeme}
    (h : lex d (" FROM " ++ clause) = .ok tokens) :
    fromClause d (selectFrom "*" clause) =
      (fromClause d (" FROM " ++ clause)).map
        (·.map (FromEntry.shift (endLocation "SELECT *".toList))) := by
  have htext : " FROM " ++ clause = " " ++ ("FROM " ++ clause) := by
    rw [← String.append_assoc]
    rfl
  have hstar : lex d (" " ++ ("FROM " ++ clause)) = .ok tokens := htext ▸ h
  have hlex := lex_star hstar
  rw [← htext] at hlex
  exact fromClause_append_left h hlex rfl rfl

section

variable {list clause : String} {tokens : List Lexeme}

/-- The tokens of a statement whose select list and clause keep theirs. -/
theorem lex_selectFrom (hlex : lex d list = .ok tokens)
    (hkeeps : KeepsTokens d ["SELECT ", list, " FROM " ++ clause]) :
    ∃ more, lex d (" FROM " ++ clause) = .ok more ∧
      lex d (selectFrom list clause) =
        .ok (place .first selectPieces ++
          tokens.map (Lexeme.shift (endLocation "SELECT ".toList)) ++
          more.map (Lexeme.shift (endLocation ("SELECT " ++ list).toList))) := by
  obtain ⟨tail, htail, hall⟩ := hkeeps.exists_tail lex_select
  obtain ⟨middle, rest, hmiddle, hrest, rfl⟩ := lexParts_cons_eq_ok_iff.mp htail
  obtain ⟨more, nothing, hmore, hnothing, rfl⟩ := lexParts_cons_eq_ok_iff.mp hrest
  cases hnothing
  obtain rfl := Except.ok.inj (hmiddle.symm.trans hlex)
  refine ⟨more, hmore, ?_⟩
  rw [String.join_cons, String.join_cons, String.join_nil, String.append_empty,
    ← String.append_assoc] at hall
  rw [selectFrom, hall, List.append_nil, List.append_assoc, String.toList_append]

theorem balanced_selectPieces (tokens : List Lexeme) :
    balanced 0 (significant (place .first selectPieces ++ tokens)) =
      balanced 0 (significant tokens) := by
  rw [significant_append]
  rfl

theorem afterFrom?_selectPieces (tokens : List Lexeme) :
    afterFrom? 0 (significant (place .first selectPieces ++ tokens)) =
      afterFrom? 0 (significant tokens) := by
  rw [significant_append]
  rfl

/-- **A select list without `FROM` makes no difference to the clause.** -/
theorem fromClause_selectFrom_of_outside (hlex : lex d list = .ok tokens)
    (hbalanced : balanced 0 (significant tokens) = true)
    (hfrom : ∀ t ∈ outside 0 (significant tokens), isKeyword t.token "FROM" = false)
    (hkeeps : KeepsTokens d ["SELECT ", list, " FROM " ++ clause]) :
    fromClause d (selectFrom list clause) =
      (fromClause d (" FROM " ++ clause)).map
        (·.map (FromEntry.shift (endLocation ("SELECT " ++ list).toList))) := by
  obtain ⟨more, hmore, hboth⟩ := lex_selectFrom hlex hkeeps
  refine fromClause_append_left hmore hboth ?_ ?_
  · rw [balanced_selectPieces, significant_map_shift, balanced_map_shift, hbalanced]
  · rw [afterFrom?_selectPieces, significant_map_shift, afterFrom?_map_shift,
      afterFrom?_eq_none_of_outside hfrom, Option.map_none]

/-- **With one of its own the list is read as a clause from there on.** -/
theorem exists_fromClause_selectFrom (hlex : lex d list = .ok tokens)
    (hbalanced : balanced 0 (significant tokens) = true)
    (hfrom : ∃ t ∈ outside 0 (significant tokens), isKeyword t.token "FROM" = true)
    (hkeeps : KeepsTokens d ["SELECT ", list, " FROM " ++ clause]) :
    ∃ front back own, list = front ++ back ∧ lex d back = .ok own ∧
      (significant own).head?.bind (·.token.keyword?) = some "FROM" ∧
      fromClause d (selectFrom list clause) =
        (fromClause d (back ++ (" FROM " ++ clause))).map
          (·.map (FromEntry.shift (endLocation ("SELECT " ++ front).toList))) := by
  obtain ⟨before, t, rest, hsplit, hkeyword, hbefore, hnone⟩ :=
    exists_first_outside (p := (isKeyword · "FROM")) hbalanced hfrom
  obtain ⟨as, bs, rfl, rfl, rfl, hblank⟩ := exists_of_significant_eq hsplit
  have hany := standsAnywhere_of_isKeyword hkeyword
  obtain ⟨front, back, own, rfl, hstart, hback, hown⟩ := exists_lex_of_append hlex hany
  obtain ⟨more, -, hboth⟩ := lex_selectFrom hlex hkeeps
  have htext : selectFrom (front ++ back) clause =
      "SELECT " ++ front ++ (back ++ (" FROM " ++ clause)) := by
    simp only [selectFrom, String.append_assoc]
  rw [htext] at hboth ⊢
  rw [List.map_append, ← List.append_assoc, List.append_assoc _ _ (more.map _), List.map_cons,
    List.cons_append] at hboth
  -- In the document the keyword stands where what stands before it in the list ends.
  obtain ⟨tokens, htokens, hrest⟩ := exists_lex_of_start hboth hany (by
    rw [Lexeme.shift, hstart, shift_endLocation, String.toList_append])
  rw [hrest] at hboth
  refine ⟨front, back, own, rfl, hback, ?_, fromClause_append_left htokens hboth ?_ ?_⟩
  · obtain ⟨u, more, hu, htoken⟩ := exists_significant_eq_cons hblank hown
    rw [hu]
    exact (congrArg Token.keyword? htoken).trans (beq_iff_eq.mp hkeyword)
  · rw [balanced_selectPieces, significant_map_shift, balanced_map_shift, hbefore]
  · rw [afterFrom?_selectPieces, significant_map_shift, afterFrom?_map_shift,
      afterFrom?_eq_none_of_outside hnone, Option.map_none]

end

/-- **Which clause is found depends on the select list only by a `FROM` of its own.** The list is to
have matching parentheses, and the statement the tokens of its parts. Where the list has no `FROM`
outside parentheses, the entries are those of the statement with `*` in its place, each as much
further on as the list is longer. Otherwise the first one in the list, of an operator or of a name,
is taken for the beginning of the clause, and the entries are those of the text from there on. -/
theorem fromClause_selectFrom (d : Dialect) (list clause : String) (tokens : List Lexeme)
    (hlex : lex d list = .ok tokens) (hbalanced : balanced 0 (significant tokens) = true)
    (hkeeps : KeepsTokens d ["SELECT ", list, " FROM " ++ clause]) :
    (∃ entries, fromClause d (" FROM " ++ clause) = .ok entries ∧
        fromClause d (selectFrom "*" clause) =
          .ok (entries.map (FromEntry.shift (endLocation "SELECT *".toList))) ∧
        ((∀ t ∈ outside 0 (significant tokens), isKeyword t.token "FROM" = false) →
          fromClause d (selectFrom list clause) =
            .ok (entries.map (FromEntry.shift (endLocation ("SELECT " ++ list).toList))))) ∧
      ((∃ t ∈ outside 0 (significant tokens), isKeyword t.token "FROM" = true) →
        ∃ front back own, list = front ++ back ∧ lex d back = .ok own ∧
          (significant own).head?.bind (·.token.keyword?) = some "FROM" ∧
          fromClause d (selectFrom list clause) =
            (fromClause d (back ++ (" FROM " ++ clause))).map
              (·.map (FromEntry.shift (endLocation ("SELECT " ++ front).toList)))) := by
  refine ⟨?_, fun hfrom => exists_fromClause_selectFrom hlex hbalanced hfrom hkeeps⟩
  obtain ⟨more, hmore, -⟩ := lex_selectFrom hlex hkeeps
  have hclause : fromClause d (" FROM " ++ clause) =
      .ok (FromClause.scan (parse d) (" FROM " ++ clause) (significant more)) := by
    rw [fromClause, hmore]
  refine ⟨_, hclause, ?_, fun hfrom => ?_⟩
  · rw [fromClause_selectFrom_star hmore, hclause]
    rfl
  · rw [fromClause_selectFrom_of_outside hlex hbalanced hfrom hkeeps, hclause]
    rfl

/-- A list with a `FROM` in a call leaves the clause alone, and one with `IS DISTINCT FROM` does not:
its operand is read as a table. -/
theorem fromClause_selectFrom_distinct :
    let tables (sql : String) : List String :=
      (tableRefs ((parser .generic).entries sql)).map (·.table)
    tables (selectFrom "*" "t") = ["t"] ∧ tables (selectFrom "EXTRACT(YEAR FROM a)" "t") = ["t"] ∧
      tables (selectFrom "a IS DISTINCT FROM b" "t") = ["b"] ∧
      fromClause .generic (selectFrom "EXTRACT(YEAR FROM a)" "t") =
        (fromClause .generic " FROM t").map
          (·.map (FromEntry.shift (endLocation "SELECT EXTRACT(YEAR FROM a)".toList))) ∧
      ∃ front back, "a IS DISTINCT FROM b" = front ++ back ∧
        fromClause .generic (selectFrom "a IS DISTINCT FROM b" "t") =
          (fromClause .generic (back ++ " FROM t")).map
            (·.map (FromEntry.shift (endLocation ("SELECT " ++ front).toList))) := by
  intro tables
  let tokens (text : String) : List Lexeme := (lex .generic text).toOption.getD []
  have hcall := (fromClause_selectFrom .generic "EXTRACT(YEAR FROM a)" "t"
    (tokens "EXTRACT(YEAR FROM a)") (by decide +kernel) (by decide +kernel) (by decide +kernel)).1
  have hoperator := (fromClause_selectFrom .generic "a IS DISTINCT FROM b" "t"
    (tokens "a IS DISTINCT FROM b") (by decide +kernel) (by decide +kernel) (by decide +kernel)).2
  refine ⟨by decide +kernel, by decide +kernel, by decide +kernel, ?_, ?_⟩
  · obtain ⟨entries, hclause, -, hsame⟩ := hcall
    rw [hsame (by decide +kernel)]
    exact congrArg (Except.map _) hclause.symm
  · obtain ⟨front, back, -, hlist, -, -, hclause⟩ := hoperator (by decide +kernel)
    exact ⟨front, back, hlist, hclause⟩

end SqlCompletion.Sql
