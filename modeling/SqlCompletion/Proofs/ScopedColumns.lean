import Mathlib.Data.List.Basic
import SqlCompletion.Proofs.TypedWord

/-!
# Columns behind a dot

What a typed name with a dot in it offers. The part before the dot is the scope, and the columns in
that scope are those of the tables that it names. Where an alias of a table has that name, it hides
every table of the name, the subqueries of the FROM clause among them; the alias of a subquery hides
nothing.

* `filter_isUnder_scopedColumns`: the columns under one scope, and how often each is offered.
* `scopedColumns_behind_alias`: what an alias of a FROM clause offers.
* `scopedColumns_append`: what is typed after the dot does not change the scope.
* `filterByToken_scopedColumns_append`: so typing on only takes candidates away.
-/

namespace SqlCompletion

/-! ## The scope of a typed name -/

theorem inScope_iff {typed scope : String} :
    inScope typed scope = true ↔ scope.toList ++ ['.'] <+: typed.toList := by
  unfold inScope
  constructor
  · intro h
    split at h
    · next rest hdrop =>
      rw [Text.dropPrefix?_eq_some_iff.mp hdrop]
      exact ⟨rest, by rw [List.append_assoc, List.singleton_append]⟩
    · cases h
  · rintro ⟨rest, hrest⟩
    have hdrop : Text.dropPrefix? scope.toList typed.toList = some ('.' :: rest) := by
      rw [Text.dropPrefix?_eq_some_iff, ← hrest, List.append_assoc, List.singleton_append]
    simp only [hdrop]

theorem inScope_dot (scope rest : String) : inScope (scope ++ "." ++ rest) scope = true := by
  rw [inScope_iff, String.toList_append, String.toList_append]
  exact List.prefix_append _ _

/-- The first dot ends the scope, so what is typed after a dot does not change it. -/
theorem inScope_append {typed scope : String} (more : String) (htyped : '.' ∈ typed.toList)
    (hscope : '.' ∉ scope.toList) : inScope (typed ++ more) scope = inScope typed scope := by
  rw [Bool.eq_iff_iff, inScope_iff, inScope_iff, String.toList_append]
  constructor
  · intro h
    rcases List.prefix_or_prefix_of_prefix h (List.prefix_append _ _) with hs | ht
    · exact hs
    · -- The typed text is no part of the scope, since it has a dot.
      rcases List.prefix_concat_iff.mp ht with heq | hpart
      · exact heq ▸ List.prefix_rfl
      · exact absurd (hpart.subset htyped) hscope
  · exact fun h => h.trans (List.prefix_append _ _)

/-! ## Columns under one scope -/

/-- The candidate is a column that was reached through the given scope. -/
def Candidate.isUnder (scope : String) (c : Candidate) : Bool :=
  c.scopedName == some (scope ++ "." ++ c.label)

theorem Candidate.isUnder_ofScopedColumn (scope s : String) (c : Column) :
    (Candidate.ofScopedColumn s c).isUnder scope = (s == scope) := by
  have hname : s ++ "." ++ c.name = scope ++ "." ++ c.name ↔ s = scope := by
    simp only [← String.toList_inj, String.toList_append, List.append_cancel_right_eq]
  rw [Bool.eq_iff_iff, beq_iff_eq, ← hname]
  simp [Candidate.isUnder, Candidate.ofScopedColumn, Candidate.ofColumn]

/-- The columns of some tables, reached through `scope`. -/
def columnsUnder (scope : String) (tables : List Table) : List Candidate :=
  tables.flatMap fun t => t.columns.map (Candidate.ofScopedColumn scope)

theorem columnsUnder_append (scope : String) (tables more : List Table) :
    columnsUnder scope (tables ++ more) = columnsUnder scope tables ++ columnsUnder scope more :=
  List.flatMap_append

/-- Columns reached through one scope are all under it or all under another one. -/
theorem filter_isUnder_columnsUnder (scope s : String) (tables : List Table) :
    (columnsUnder s tables).filter (·.isUnder scope) =
      if s = scope then columnsUnder s tables else [] := by
  have hall : ∀ c ∈ columnsUnder s tables, c.isUnder scope = (s == scope) := by
    intro c hc
    obtain ⟨t, -, hc⟩ := List.mem_flatMap.mp hc
    obtain ⟨column, -, rfl⟩ := List.mem_map.mp hc
    exact Candidate.isUnder_ofScopedColumn scope s column
  split
  · next hs => exact List.filter_eq_self.mpr fun c hc => by rw [hall c hc, beq_iff_eq.mpr hs]
  · next hs =>
    exact List.filter_eq_nil_iff.mpr fun c hc => by rw [hall c hc, beq_iff_eq]; exact hs

variable {entries : List FromEntry} {tables : List Table} {typed scope : String}

theorem filter_isUnder_ite (h : inScope typed scope = true) (s : String) (tables : List Table) :
    (if inScope typed s then columnsUnder s tables else []).filter (·.isUnder scope) =
      if s = scope then columnsUnder scope tables else [] := by
  by_cases hs : s = scope
  · rw [hs, if_pos h, filter_isUnder_columnsUnder]
  · rw [if_neg hs]
    split
    · rw [filter_isUnder_columnsUnder, if_neg hs]
    · rfl

/-- By their names: the tables whose name is the scope. -/
theorem filter_isUnder_columnsByTable (h : inScope typed scope = true) :
    (columnsByTable tables typed).filter (·.isUnder scope) =
      columnsUnder scope (tables.filter (·.name == scope)) := by
  induction tables with
  | nil => rfl
  | cons t tables ih =>
    have hcons : columnsByTable (t :: tables) typed =
        (if inScope typed t.name then columnsUnder t.name [t] else []) ++
          columnsByTable tables typed := by
      unfold columnsByTable columnsUnder
      by_cases hs : inScope typed t.name <;> simp [hs]
    rw [hcons, List.filter_append, ih, filter_isUnder_ite h]
    by_cases hname : t.name = scope
    · rw [if_pos hname, List.filter_cons_of_pos (by simpa using hname), ← columnsUnder_append]
      rfl
    · rw [if_neg hname, List.filter_cons_of_neg (by simpa using hname), List.nil_append]

/-- By their aliases: for every entry whose alias is the scope, the tables that it names. -/
theorem filter_isUnder_columnsByAlias (h : inScope typed scope = true) :
    (columnsByAlias entries tables typed).filter (·.isUnder scope) =
      ((tableRefs entries).filter (·.aliasName == some scope)).flatMap fun r =>
        columnsUnder scope (tables.filter (·.name == r.table)) := by
  unfold columnsByAlias
  induction tableRefs entries with
  | nil => rfl
  | cons r refs ih =>
    rw [List.flatMap_cons, List.filter_append, ih]
    cases ha : r.aliasName with
    | none => rw [List.filter_cons_of_neg (by simp [ha]), List.filter_nil, List.nil_append]
    | some a =>
      have hite := filter_isUnder_ite h a (tables.filter (·.name == r.table))
      refine (congrArg (· ++ _) hite).trans ?_
      by_cases hname : a = scope
      · rw [if_pos hname, List.filter_cons_of_pos (by simp [ha, hname]), List.flatMap_cons]
      · rw [if_neg hname, List.filter_cons_of_neg (by simp [ha, hname]), List.nil_append]

/-- **The columns under a scope**: those of every table of that name, unless an alias of a table has
the name too, and then those of the tables that it is an alias of. -/
theorem filter_isUnder_scopedColumns (h : inScope typed scope = true) :
    (scopedColumns entries tables typed).filter (·.isUnder scope) =
      (if scope ∈ tableAliases entries then []
        else columnsUnder scope (tables.filter (·.name == scope))) ++
      ((tableRefs entries).filter (·.aliasName == some scope)).flatMap fun r =>
        columnsUnder scope (tables.filter (·.name == r.table)) := by
  have hvisible : (tables.filter fun t =>
      !((tableAliases entries).filter (inScope typed)).contains t.name).filter (·.name == scope) =
        if scope ∈ tableAliases entries then [] else tables.filter (·.name == scope) := by
    rw [List.filter_filter]
    split
    · next hmem =>
      refine List.filter_eq_nil_iff.mpr fun t _ => ?_
      simp only [Bool.and_eq_true, beq_iff_eq, not_and]
      rintro rfl
      simp [hmem, h]
    · next hmem =>
      refine List.filter_congr fun t _ => ?_
      by_cases hname : t.name = scope
      · simp [hname, hmem]
      · simp [hname]
  rw [scopedColumns, List.filter_append, filter_isUnder_columnsByTable h,
    filter_isUnder_columnsByAlias h, hvisible]
  split <;> rfl

/-- **What an alias of a FROM clause offers.** If it is the alias of a table, it hides every table of
the same name, and what it offers are the columns of the tables that entries name so, each as often
as they do; a subquery with the alias is hidden as well. If it is the alias of subqueries alone, it
hides nothing: their columns come after those of the tables of the schema that have the name. -/
theorem scopedColumns_behind_alias (entries : List FromEntry) (tables : List Table)
    (a rest : String) :
    (a ∈ tableAliases entries →
      (scopedColumns entries (scopeTables tables entries) (a ++ "." ++ rest)).filter (·.isUnder a) =
        ((tableRefs entries).filter (·.aliasName == some a)).flatMap fun r =>
          columnsUnder a ((scopeTables tables entries).filter (·.name == r.table))) ∧
    (a ∉ tableAliases entries →
      (scopedColumns entries (scopeTables tables entries) (a ++ "." ++ rest)).filter (·.isUnder a) =
        columnsUnder a (tables.filter (·.name == a)) ++
          columnsUnder a ((pseudoTables entries).filter (·.name == a))) := by
  have hscope := inScope_dot a rest
  refine ⟨fun ha => ?_, fun ha => ?_⟩
  · rw [filter_isUnder_scopedColumns hscope, if_pos ha, List.nil_append]
  · have hrefs : (tableRefs entries).filter (·.aliasName == some a) = [] := by
      refine List.filter_eq_nil_iff.mpr fun r hr hname => ha ?_
      exact mem_tableAliases.mpr ⟨r, mem_tableRefs.mp hr, beq_iff_eq.mp hname⟩
    rw [filter_isUnder_scopedColumns hscope, if_neg ha, hrefs, List.flatMap_nil, List.append_nil, scopeTables,
      List.filter_append, columnsUnder_append]

/-- A table `s` of the schema is reached through the alias `s` of a subquery. With a table of the
same alias in the clause, the columns of the subquery are lost. -/
theorem scopedColumns_behind_alias_collision :
    let column : SelectItem := ⟨some (.column ⟨none, "y", ⟨.first, .first⟩⟩), none, ⟨.first, .first⟩⟩
    let query : FromEntry := .subquery (.select false [column] [] none) "s" ⟨.first, .first⟩
    let ref : FromEntry := .table ⟨none, "u", some "s", none, false, ⟨.first, .first⟩⟩
    let tables : List Table := [⟨none, "s", [{ name := "x" }]⟩, ⟨none, "u", [{ name := "z" }]⟩]
    ("s" ∉ tableAliases [query] ∧
        (scopedColumns [query] (scopeTables tables [query]) ("s" ++ "." ++ "")).filter
            (·.isUnder "s") =
          [.ofScopedColumn "s" { name := "x" }, .ofScopedColumn "s" ⟨"y", "alias"⟩]) ∧
      "s" ∈ tableAliases [ref, query] ∧
        (scopedColumns [ref, query] (scopeTables tables [ref, query]) ("s" ++ "." ++ "")).filter
            (·.isUnder "s") =
          [.ofScopedColumn "s" { name := "z" }] := by
  intro column query ref tables
  have hquery : "s" ∉ tableAliases [query] := List.not_mem_nil
  have hboth : "s" ∈ tableAliases [ref, query] := List.mem_singleton.mpr rfl
  refine ⟨⟨hquery, ?_⟩, hboth, ?_⟩
  · rw [(scopedColumns_behind_alias [query] tables "s" "").2 hquery]
    decide
  · rw [(scopedColumns_behind_alias [ref, query] tables "s" "").1 hboth]
    decide

/-! ## Typing on -/

/-- **What is typed after the dot does not change the scope.** -/
theorem scopedColumns_append (more : String) (htyped : '.' ∈ typed.toList)
    (htables : ∀ t ∈ tables, '.' ∉ t.name.toList)
    (haliases : ∀ a ∈ tableAliases entries, '.' ∉ a.toList) :
    scopedColumns entries tables (typed ++ more) = scopedColumns entries tables typed := by
  have hhidden : (tableAliases entries).filter (inScope (typed ++ more)) =
      (tableAliases entries).filter (inScope typed) :=
    List.filter_congr fun a ha => inScope_append more htyped (haliases a ha)
  have htable (visible : List Table) (hsub : visible ⊆ tables) :
      columnsByTable visible (typed ++ more) = columnsByTable visible typed := by
    unfold columnsByTable
    rw [List.filter_congr fun t ht => inScope_append more htyped (htables t (hsub ht))]
  have halias : columnsByAlias entries tables (typed ++ more) =
      columnsByAlias entries tables typed := by
    refine List.flatMap_congr fun r hr => ?_
    cases ha : r.aliasName with
    | none => rfl
    | some a =>
      have hmem : a ∈ tableAliases entries :=
        mem_tableAliases.mpr ⟨r, mem_tableRefs.mp hr, ha⟩
      simp only [inScope_append more htyped (haliases a hmem)]
  rw [scopedColumns, scopedColumns, hhidden, htable _ List.filter_sublist.subset, halias]

/-- The candidate after `more` was typed: so much less is left to type. -/
def Candidate.afterTyping (more : String) (c : Candidate) : Candidate :=
  { c with insertText := c.insertText.bind (Text.afterPrefix? · more) }

/-- What is left to type after a longer word is what is left of the rest after the shorter one. -/
theorem Candidate.afterTyping_afterToken {c : Candidate} {name more : String}
    (hname : c.scopedName = some name) (hstarts : Text.startsWith name (typed ++ more) = true) :
    ∃ rest, (c.afterToken typed).insertText = some (more ++ rest) ∧
      (c.afterToken typed).afterTyping more = c.afterToken (typed ++ more) ∧
      (c.afterToken (typed ++ more)).insertText = some rest := by
  obtain ⟨cs, hcs⟩ := Text.startsWith_iff.mp hstarts
  have hlong : Text.afterPrefix? name (typed ++ more) = some (String.ofList cs) := by
    rw [Text.afterPrefix?_eq_some_iff, ← String.toList_inj, String.toList_append,
      String.toList_ofList, hcs]
  have hshort : Text.afterPrefix? name typed = some (more ++ String.ofList cs) := by
    rw [Text.afterPrefix?_eq_some_iff, ← String.append_assoc]
    exact Text.afterPrefix?_eq_some_iff.mp hlong
  have hrest : Text.afterPrefix? (more ++ String.ofList cs) more = some (String.ofList cs) :=
    Text.afterPrefix?_eq_some_iff.mpr rfl
  refine ⟨String.ofList cs, ?_, ?_, ?_⟩ <;>
    simp only [afterToken, afterTyping, hname, Option.bind_some, hlong, hshort, hrest]

/-- A column in scope is named with its scope. -/
theorem exists_scopedName_of_mem {c : Candidate} (h : c ∈ scopedColumns entries tables typed) :
    ∃ name, c.scopedName = some name := by
  rcases List.mem_append.mp h with h | h
  · obtain ⟨t, -, hc⟩ := List.mem_flatMap.mp h
    obtain ⟨column, -, rfl⟩ := List.mem_map.mp hc
    exact ⟨_, rfl⟩
  · obtain ⟨r, -, hc⟩ := List.mem_flatMap.mp h
    split at hc
    · split at hc
      · obtain ⟨t, -, hc⟩ := List.mem_flatMap.mp hc
        obtain ⟨column, -, rfl⟩ := List.mem_map.mp hc
        exact ⟨_, rfl⟩
      · cases hc
    · cases hc

theorem startsWith_of_append {text typed more : String}
    (h : Text.startsWith text (typed ++ more) = true) : Text.startsWith text typed = true := by
  rw [Text.startsWith_iff, String.toList_append] at h
  exact Text.startsWith_iff.mpr ((List.prefix_append _ _).trans h)

theorem Candidate.scopedName_afterToken (token : String) (c : Candidate) :
    (c.afterToken token).scopedName = c.scopedName := by
  unfold afterToken
  split <;> rfl

/-- The candidates that are kept of those that were kept before. -/
theorem filter_filterByToken {cs : List Candidate} (more : String)
    (hcs : ∀ c ∈ cs, ∃ name, c.scopedName = some name) :
    (filterByToken cs typed).filter
        (fun c => c.scopedName.any (Text.startsWith · (typed ++ more))) =
      (cs.filter fun c => Text.startsWith c.matchText (typed ++ more)).map
        (·.afterToken typed) := by
  rw [filterByToken, List.filter_map, List.filter_filter]
  congr 1
  refine List.filter_congr fun c hc => ?_
  obtain ⟨name, hname⟩ := hcs c hc
  simp only [Function.comp_apply, Candidate.scopedName_afterToken, Candidate.matchText, hname,
    Option.any_some, Option.getD_some]
  cases hlong : Text.startsWith name (typed ++ more) with
  | true => rw [startsWith_of_append hlong, Bool.and_self]
  | false => rw [Bool.false_and]

/-- **Typing on only takes candidates away**: those are left whose name starts with all that was
typed, in their order and as often as before, and so much less of each is left to type. -/
theorem filterByToken_scopedColumns_append (entries : List FromEntry) (tables : List Table)
    (typed more : String) (htyped : '.' ∈ typed.toList)
    (htables : ∀ t ∈ tables, '.' ∉ t.name.toList)
    (haliases : ∀ a ∈ tableAliases entries, '.' ∉ a.toList) :
    let kept := (filterByToken (scopedColumns entries tables typed) typed).filter fun c =>
      c.scopedName.any (Text.startsWith · (typed ++ more))
    filterByToken (scopedColumns entries tables (typed ++ more)) (typed ++ more) =
        kept.map (Candidate.afterTyping more) ∧
      ∀ c ∈ kept, ∃ rest, c.insertText = some (more ++ rest) ∧
        (c.afterTyping more).insertText = some rest := by
  intro kept
  have hkept : kept = ((scopedColumns entries tables typed).filter fun c =>
      Text.startsWith c.matchText (typed ++ more)).map (·.afterToken typed) :=
    filter_filterByToken more fun c hc => exists_scopedName_of_mem hc
  -- Every column that is kept has less left to type after the longer word.
  have hafter : ∀ c ∈ (scopedColumns entries tables typed).filter fun c =>
      Text.startsWith c.matchText (typed ++ more), ∃ rest,
        (c.afterToken typed).insertText = some (more ++ rest) ∧
        (c.afterToken typed).afterTyping more = c.afterToken (typed ++ more) ∧
        (c.afterToken (typed ++ more)).insertText = some rest := by
    intro c hc
    obtain ⟨hmem, hstarts⟩ := List.mem_filter.mp hc
    obtain ⟨name, hname⟩ := exists_scopedName_of_mem hmem
    rw [Candidate.matchText, hname, Option.getD_some] at hstarts
    exact Candidate.afterTyping_afterToken hname hstarts
  rw [hkept]
  constructor
  · rw [scopedColumns_append more htyped htables haliases, filterByToken, List.map_map]
    refine List.map_congr_left fun c hc => ?_
    obtain ⟨rest, -, hsame, -⟩ := hafter c hc
    exact hsame.symm
  · intro c hc
    obtain ⟨c', hc', rfl⟩ := List.mem_map.mp hc
    obtain ⟨rest, hbefore, hsame, hrest⟩ := hafter c' hc'
    exact ⟨rest, hbefore, by rw [hsame, hrest]⟩

/-- A column whose name has dots, reached through an alias that is given twice. -/
theorem filterByToken_scopedColumns_append_dotted :
    let ref (table : String) (a : String) : FromEntry :=
      .table ⟨none, table, some a, none, false, ⟨.first, .first⟩⟩
    let tables : List Table := [⟨none, "t", [{ name := "a.b.c" }, { name := "a.x" }]⟩]
    '.' ∈ "e.a".toList ∧ (∀ t ∈ tables, '.' ∉ t.name.toList) ∧
      (∀ a ∈ tableAliases [ref "t" "e", ref "t" "e"], '.' ∉ a.toList) ∧
      filterByToken (scopedColumns [ref "t" "e", ref "t" "e"] tables ("e.a" ++ ".b"))
          ("e.a" ++ ".b") =
        [{ Candidate.ofScopedColumn "e" { name := "a.b.c" } with insertText := some ".c" },
          { Candidate.ofScopedColumn "e" { name := "a.b.c" } with insertText := some ".c" }] := by
  intro ref tables
  have htables : ∀ t ∈ tables, '.' ∉ t.name.toList := by decide
  have haliases : ∀ a ∈ tableAliases [ref "t" "e", ref "t" "e"], '.' ∉ a.toList := by decide
  refine ⟨by decide, htables, haliases, ?_⟩
  rw [(filterByToken_scopedColumns_append _ tables "e.a" ".b" (by decide) htables haliases).1]
  decide

end SqlCompletion
