import Mathlib.Control.Monad.Basic
import Mathlib.Data.List.Induction
import SqlCompletion.Proofs.Descent
import SqlCompletion.Sql.Parser

/-!
# Where candidates come from

Nothing is offered that the scope at the cursor does not have. `Origin` lists what a candidate can
be: a table, a function or a column of the schema, an alias of the FROM clause, a column through a
table that no alias hides or through an alias, or a keyword. Every function that makes candidates is
shown to make only these, and with them every run of completion, for the FROM clause of the document
in which the run stops.
-/

namespace SqlCompletion

/-- The keywords that are offered without regard to an error. -/
def fixedKeywords : List String :=
  selectKeywords ++ trailingKeywords ++ ["DISTINCT", "INNER JOIN", "LEFT JOIN", "ON"]

/-- The candidate comes from the schema, from the entries of the FROM clause, from the fixed keywords
or from the tokens that a parser would have accepted. -/
inductive Origin (schema : Schema) (entries : List FromEntry) (literals : List String) :
    Candidate → Prop where
  | table {t : Table} (ht : t ∈ schema.tables) : Origin schema entries literals (.ofTable t)
  | function {f : Function} (hf : f ∈ schema.functions) :
      Origin schema entries literals (.ofFunction f)
  | tableAlias {ref : TableRef} {a : String} (href : .table ref ∈ entries)
      (ha : ref.aliasName = some a) : Origin schema entries literals (.ofAlias a)
  | column {t : Table} {c : Column} (ht : t ∈ schema.tables) (hc : c ∈ t.columns) :
      Origin schema entries literals (.ofColumn c)
  /-- A column through the name of a table that no alias hides. -/
  | columnOfTable {t : Table} {c : Column} (ht : t ∈ schema.tables ++ pseudoTables entries)
      (hc : c ∈ t.columns) (hvisible : ∀ ref, .table ref ∈ entries → ref.aliasName ≠ some t.name) :
      Origin schema entries literals (.ofScopedColumn t.name c)
  /-- A column through an alias. -/
  | columnOfAlias {ref : TableRef} {a : String} {t : Table} {c : Column}
      (href : .table ref ∈ entries) (ha : ref.aliasName = some a)
      (ht : t ∈ schema.tables ++ pseudoTables entries) (hname : t.name = ref.table)
      (hc : c ∈ t.columns) : Origin schema entries literals (.ofScopedColumn a c)
  | fixedKeyword {k : String} (hk : k ∈ fixedKeywords) :
      Origin schema entries literals (.ofKeyword k)
  | expectedKeyword {l k : String} (hl : l ∈ literals)
      (hk : k = keywordOfLiteral l ∨ k = Text.toLower (keywordOfLiteral l)) :
      Origin schema entries literals (.ofKeyword k)

variable {schema : Schema} {entries : List FromEntry} {literals : List String} {c : Candidate}
  {typed : String} {pos : Position}

/-- What is left to type is no part of where a candidate comes from. -/
theorem Origin.insertText_eq_none (h : Origin schema entries literals c) : c.insertText = none := by
  cases h <;> rfl

/-! ## Names in scope -/

theorem mem_tableRefs {ref : TableRef} : ref ∈ tableRefs entries ↔ .table ref ∈ entries := by
  rw [tableRefs, List.mem_filterMap]
  constructor
  · rintro ⟨entry, hm, he⟩
    cases entry with
    | table r =>
      cases he
      exact hm
    | subquery => cases he
    | incomplete => cases he
  · exact fun h => ⟨.table ref, h, rfl⟩

theorem mem_tableAliases {a : String} :
    a ∈ tableAliases entries ↔ ∃ ref, .table ref ∈ entries ∧ ref.aliasName = some a := by
  simp only [tableAliases, List.mem_filterMap, mem_tableRefs]

theorem origin_of_mem_aliasesByPrefix (h : c ∈ aliasesByPrefix entries typed) :
    Origin schema entries literals c := by
  obtain ⟨a, ha, rfl⟩ := List.mem_map.mp h
  obtain ⟨ref, href, hname⟩ := mem_tableAliases.mp (List.mem_filter.mp ha).1
  exact .tableAlias href hname

theorem origin_of_mem_functionsByPrefix (h : c ∈ functionsByPrefix schema.functions typed) :
    Origin schema entries literals c := by
  obtain ⟨f, hf, rfl⟩ := List.mem_map.mp h
  exact .function (List.mem_filter.mp hf).1

theorem origin_of_mem_tables (h : c ∈ schema.tables.map Candidate.ofTable) :
    Origin schema entries literals c := by
  obtain ⟨t, ht, rfl⟩ := List.mem_map.mp h
  exact .table ht

theorem origin_of_mem_tablesByPrefix (h : c ∈ tablesByPrefix schema.tables typed) :
    Origin schema entries literals c := by
  obtain ⟨t, ht, rfl⟩ := List.mem_map.mp h
  exact .table (List.mem_filter.mp ht).1

theorem origin_of_mem_allColumns (h : c ∈ allColumns schema.tables) :
    Origin schema entries literals c := by
  obtain ⟨t, ht, hc⟩ := List.mem_flatMap.mp h
  obtain ⟨column, hcolumn, rfl⟩ := List.mem_map.mp hc
  exact .column ht hcolumn

theorem origin_of_mem_columnsByAlias
    (h : c ∈ columnsByAlias entries (scopeTables schema.tables entries) typed) :
    Origin schema entries literals c := by
  obtain ⟨ref, href, hc⟩ := List.mem_flatMap.mp h
  split at hc
  · next a ha =>
    split at hc
    · obtain ⟨t, ht, hc⟩ := List.mem_flatMap.mp hc
      obtain ⟨htm, hname⟩ := List.mem_filter.mp ht
      obtain ⟨column, hcolumn, rfl⟩ := List.mem_map.mp hc
      exact .columnOfAlias (mem_tableRefs.mp href) ha htm (beq_iff_eq.mp hname) hcolumn
    · cases hc
  · cases hc

/-- **A column in scope is reached through a table that no alias hides, or through an alias.** -/
theorem origin_of_mem_scopedColumns
    (h : c ∈ scopedColumns entries (scopeTables schema.tables entries) typed) :
    Origin schema entries literals c := by
  rcases List.mem_append.mp h with h | h
  · obtain ⟨t, ht, hc⟩ := List.mem_flatMap.mp h
    obtain ⟨ht, hscope⟩ := List.mem_filter.mp ht
    obtain ⟨htm, hhidden⟩ := List.mem_filter.mp ht
    obtain ⟨column, hcolumn, rfl⟩ := List.mem_map.mp hc
    refine .columnOfTable htm hcolumn fun ref href ha => ?_
    -- An alias of the table's name is in scope as the name itself is, so it hides the table.
    have hmem : t.name ∈ (tableAliases entries).filter (inScope typed) :=
      List.mem_filter.mpr ⟨mem_tableAliases.mpr ⟨ref, href, ha⟩, hscope⟩
    rw [List.contains_iff_mem.mpr hmem] at hhidden
    cases hhidden
  · exact origin_of_mem_columnsByAlias h

/-! ## Statements -/

theorem origin_of_mem_fixed (keywords : List String) (hfixed : keywords ⊆ fixedKeywords)
    (h : c ∈ keywords.map Candidate.ofKeyword) : Origin schema entries literals c := by
  obtain ⟨k, hk, rfl⟩ := List.mem_map.mp h
  exact .fixedKeyword (hfixed hk)

theorem origin_of_mem_mutationCandidates {target : Range} {filter : Option Expression}
    (h : c ∈ mutationCandidates target filter pos schema) : Origin schema entries literals c := by
  unfold mutationCandidates at h
  split at h
  · exact origin_of_mem_tables h
  · split at h
    · split at h
      · exact origin_of_mem_allColumns h
      · cases h
    · cases h

theorem origin_of_mem_trailingCandidates {columns : List SelectItem}
    (h : c ∈ trailingCandidates columns pos) : Origin schema entries literals c := by
  unfold trailingCandidates at h
  split at h
  · split at h
    · refine origin_of_mem_fixed _ ?_ h
      intro k hk
      exact List.mem_append_left _ (List.mem_append_right _ (List.mem_filter.mp hk).1)
    · cases h
  · cases h

theorem origin_of_mem_referenceCandidates {ref : ColumnRef}
    (h : c ∈ referenceCandidates ref entries schema) : Origin schema entries literals c := by
  unfold referenceCandidates at h
  split at h
  · exact origin_of_mem_scopedColumns h
  · simp only [List.mem_append, or_assoc] at h
    rcases h with h | h | h
    · exact origin_of_mem_aliasesByPrefix h
    · exact origin_of_mem_tablesByPrefix h
    · exact origin_of_mem_functionsByPrefix h

theorem origin_of_mem_tableCandidates {ref : TableRef} (h : c ∈ tableCandidates ref schema) :
    Origin schema entries literals c := by
  simp only [tableCandidates, List.mem_append, or_assoc] at h
  rcases h with h | h | h
  · exact origin_of_mem_tables h
  · exact origin_of_mem_fixed ["INNER JOIN", "LEFT JOIN"] (by decide) h
  · split at h
    · exact origin_of_mem_fixed ["ON"] (by decide) h
    · cases h

theorem origin_of_mem_selectCandidates {distinct : Bool} {columns : List SelectItem}
    {own : List FromEntry} {filter : Option Expression}
    (h : c ∈ selectCandidates distinct columns own filter pos entries schema) :
    Origin schema entries literals c := by
  simp only [selectCandidates, List.mem_append, or_assoc] at h
  rcases h with h | h | h | h
  · exact origin_of_mem_fixed selectKeywords (by decide) h
  · split at h
    · cases h
    · exact origin_of_mem_fixed ["DISTINCT"] (by decide) h
  · exact origin_of_mem_trailingCandidates h
  · split at h
    · exact origin_of_mem_referenceCandidates h
    · split at h
      · exact origin_of_mem_tableCandidates h
      · cases h

/-- **What a statement offers comes from the scope.** -/
theorem origin_of_mem_statement {s : Statement} (h : c ∈ s.candidates pos entries schema) :
    Origin schema entries literals c := by
  unfold Statement.candidates at h
  split at h
  · exact origin_of_mem_selectCandidates h
  · exact origin_of_mem_mutationCandidates h
  · exact origin_of_mem_mutationCandidates h
  · cases h

/-! ## Syntax errors -/

theorem firstOccurrences_concat (words : List String) (w : String) :
    firstOccurrences (words ++ [w]) =
      if w ∈ firstOccurrences words then firstOccurrences words
      else firstOccurrences words ++ [w] := by
  unfold firstOccurrences
  rw [List.foldl_append, List.foldl_cons, List.foldl_nil]
  simp only [List.contains_iff_mem, List.mem_reverse]
  split
  · rfl
  · rw [List.reverse_cons]

theorem mem_firstOccurrences {words : List String} {w : String} :
    w ∈ firstOccurrences words ↔ w ∈ words := by
  induction words using List.reverseRecOn with
  | nil => rfl
  | append_singleton words x ih =>
    rw [firstOccurrences_concat]
    split
    · next hx =>
      rw [ih, List.mem_append, List.mem_singleton]
      refine (or_iff_left_of_imp ?_).symm
      rintro rfl
      exact ih.mp hx
    · rw [List.mem_append, ih, List.mem_append]

theorem mem_bothCases {word k : String} (h : k ∈ bothCases word) :
    k = word ∨ k = Text.toLower word := by
  simp only [bothCases] at h
  split at h
  · exact Or.inl (List.mem_singleton.mp h)
  · simpa using h

theorem origin_of_mem_keywordCandidates (h : c ∈ keywordCandidates literals) :
    Origin schema entries literals c := by
  obtain ⟨k, hk, rfl⟩ := List.mem_map.mp h
  obtain ⟨word, hword, hk⟩ := List.mem_flatMap.mp hk
  obtain ⟨l, hl, rfl⟩ := List.mem_map.mp (mem_firstOccurrences.mp hword)
  exact .expectedKeyword (List.mem_filter.mp hl).1 (mem_bothCases hk)

/-- **What an error offers comes from the scope and from the tokens that it expects.** -/
theorem origin_of_mem_syntaxError {e : SyntaxError} {p : Parser} {target : String}
    (h : c ∈ e.candidates p target pos entries schema) :
    Origin schema entries e.literals c := by
  unfold SyntaxError.candidates at h
  split at h
  · exact origin_of_mem_allColumns h
  · split at h
    · cases h
    · split at h
      · cases h
      · simp only [List.mem_append, or_assoc] at h
        rcases h with h | h | h | h | h
        · exact origin_of_mem_keywordCandidates h
        · split at h
          · exact origin_of_mem_tables h
          · cases h
        · exact origin_of_mem_scopedColumns h
        · exact origin_of_mem_functionsByPrefix h
        · exact origin_of_mem_aliasesByPrefix h

/-! ## A whole run -/

/-- The tokens that the parser would have accepted at the cursor, if the text before it is not a
statement. -/
def Parser.literalsAt (p : Parser) (s : Site) : List String :=
  match syntaxError? (p.parse s.target) with
  | some e => e.literals
  | none => []

theorem origin_of_answerAt {p : Parser} {s : Site} {cs : List Candidate}
    {error : Option SyntaxError} (h : p.answerAt schema s = .ok (cs, error)) (hc : c ∈ cs) :
    Origin schema (p.entries s.sql) (p.literalsAt s) c := by
  unfold Parser.answerAt at h
  split at h
  · cases h
    exact origin_of_mem_statement hc
  · cases h
  · next e he =>
    cases h
    have hliterals : p.literalsAt s = e.literals := by
      rw [Parser.literalsAt, Parser.syntaxError?_eq_some_iff.mpr he]
    rw [hliterals]
    exact origin_of_mem_syntaxError hc

/-- The candidates of a run come from the scope of the site where it stops. -/
theorem exists_origin_of_resolve {p : Parser} {s : Site} {limit depth : Nat} {cs : List Candidate}
    {error : Option SyntaxError} (h : resolve p schema limit depth s.sql s.pos = .ok (cs, error)) :
    ∃ t, p.Stops s t ∧ ∀ c ∈ cs, Origin schema (p.entries t.sql) (p.literalsAt t) c := by
  obtain ⟨n, t, -, henter, hstop, error', hanswer⟩ := Parser.exists_answerAt_of_resolve h
  exact ⟨t, ⟨⟨n, henter⟩, hstop⟩, fun c hc => origin_of_answerAt hanswer hc⟩

/-- The candidate without what is left to type. -/
def Candidate.bare (c : Candidate) : Candidate := { c with insertText := none }

@[simp] theorem Candidate.bare_afterToken (c : Candidate) (token : String) :
    (c.afterToken token).bare = c.bare := by
  unfold Candidate.afterToken
  split <;> rfl

theorem Origin.bare_eq (h : Origin schema entries literals c) : c.bare = c := by
  rw [Candidate.bare, ← h.insertText_eq_none]

/-- **Every candidate comes from the scope of the innermost document.** That is the one in which
completion stops, and its FROM clause and its error are the only ones that count. -/
theorem origin_of_mem_complete {p : Parser} {options : Options} {sql : String} {r : Completion}
    (h : complete p options sql pos schema = .ok r) :
    ∃ t, p.Stops ⟨sql, pos⟩ t ∧ (∀ u, p.Stops ⟨sql, pos⟩ u → u = t) ∧
      ∀ c ∈ r.candidates, Origin schema (p.entries t.sql) (p.literalsAt t) c.bare := by
  obtain ⟨cs, error, hr, hfilter⟩ := exists_resolve_of_complete h
  obtain ⟨t, hstop, horigin⟩ := exists_origin_of_resolve (s := ⟨sql, pos⟩) hr
  refine ⟨t, hstop, fun u hu => hu.eq hstop, fun c hc => ?_⟩
  rw [hfilter] at hc
  obtain ⟨c', hc', rfl⟩ := List.mem_map.mp hc
  have h' := horigin c' (List.mem_filter.mp hc').1
  rw [Candidate.bare_afterToken, h'.bare_eq]
  exact h'

/-- In a subquery that is not finished the columns of `t` are reached through its alias there. -/
theorem origin_of_mem_complete_subquery :
    ∃ r t, complete (Sql.parser .generic) {} "SELECT s FROM (SELECT e. FROM t e) s" ⟨0, 24⟩
          { tables := [{ name := "t", columns := [{ name := "a" }] }] } = .ok r ∧
      (Sql.parser .generic).Stops ⟨"SELECT s FROM (SELECT e. FROM t e) s", ⟨0, 24⟩⟩ t ∧
      r.candidates.map Candidate.bare = [.ofScopedColumn "e" { name := "a" }] ∧
      Origin { tables := [{ name := "t", columns := [{ name := "a" }] }] }
        ((Sql.parser .generic).entries t.sql) ((Sql.parser .generic).literalsAt t)
        (.ofScopedColumn "e" { name := "a" }) := by
  have hok : complete (Sql.parser .generic) {} "SELECT s FROM (SELECT e. FROM t e) s" ⟨0, 24⟩
      { tables := [{ name := "t", columns := [{ name := "a" }] }] } =
        .ok ⟨[(Candidate.ofScopedColumn "e" { name := "a" }).afterToken "e."],
          some ⟨"SyntaxError", "Expected: ), found: . at Line: 1, Column: 24", 1, 23⟩⟩ := by
    decide +kernel
  obtain ⟨t, hstop, -, horigin⟩ := origin_of_mem_complete hok
  exact ⟨_, t, hok, hstop, by decide, horigin _ (List.mem_singleton.mpr rfl)⟩

end SqlCompletion
