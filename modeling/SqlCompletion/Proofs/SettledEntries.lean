import SqlCompletion.Proofs.ScanExtent
import SqlCompletion.Sql.Parser

/-!
# Entries that are settled

While a document is typed, the entries of its FROM clause come up one after another. What is typed at
the end can change the last of them, which may not be finished yet or may be joined on a condition that
comes now. It changes no entry before that.

* `tail_suffix_scanEntries`: the scan of what follows changes none of the entries so far but the last.
* `scanEntries_tail_suffix`: nor does it when more tokens follow.
* `scan_dropLast_prefix`: the entries of a document and those of a document that goes on.
-/

namespace SqlCompletion.Sql.FromClause

/-! ## Entries so far -/

theorem tail_markConstrained (entries : List FromEntry) :
    (markConstrained entries).tail = entries.tail := by
  unfold markConstrained
  split <;> rfl

/-- What follows a table changes at most its entry. -/
theorem tail_of_afterFactor {entries entries' : List FromEntry} {tokens : List Lexeme}
    {next : Option (Option String × List Lexeme)}
    (h : afterFactor entries tokens = (entries', next)) : entries'.tail = entries.tail := by
  fun_induction afterFactor entries tokens with
  | case1 | case2 | case5 | case6 =>
    cases h
    rfl
  | case3 _ _ _ _ _ ih | case4 _ _ _ _ _ _ ih => rw [ih h, tail_markConstrained]

/-- Of the entries so far, with that of a table, all are kept but the last one. -/
theorem tail_suffix_entry (entry : Option FromEntry) (entries : List FromEntry) :
    entries.tail <:+ (entry.toList ++ entries).tail := by
  cases entry with
  | none => exact List.suffix_rfl
  | some entry => exact List.tail_suffix entries

/-- The scan leaves the entries before that of its first table as they are. -/
theorem tail_suffix_scanEntries (doc : Document) (join : Option String)
    (entries : List FromEntry) (tokens : List Lexeme) :
    ((scanFactor doc join tokens).entry.toList ++ entries).tail <:+
      scanEntries doc join entries tokens := by
  induction join, entries, tokens using scanEntries_induction doc with
  | stop join entries tokens _ hscan =>
    rw [hscan]
    exact List.tail_suffix _
  | last join entries tokens entries' _ hafter hscan =>
    rw [hscan, ← tail_of_afterFactor hafter]
    exact List.tail_suffix entries'
  | next join entries tokens entries' join' rest _ hafter hscan ih =>
    rw [hscan, ← tail_of_afterFactor hafter]
    exact (tail_suffix_entry _ entries').trans ih

/-! ## Where more tokens follow -/

section

variable {tail : List Lexeme} {as bs : List Char} {tokens : List Lexeme}
  {parse : String → Except ParseFailure Statement}

theorem isSome_entry_scanSubquery (doc : Document) (opening : Lexeme) (tokens : List Lexeme) :
    (scanSubquery doc opening tokens).entry.isSome = true := by
  unfold scanSubquery
  split <;> rfl

/-- A table that has an entry has one where more tokens follow. -/
theorem isSome_entry_append {doc : Document} {join : Option String}
    (h : (scanFactor doc join tokens).entry.isSome = true) (doc' : Document)
    (tail : List Lexeme) :
    (scanFactor doc' join (tokens ++ tail)).entry.isSome = true := by
  have hskip : skipLateral (tokens ++ tail) = skipLateral tokens ++ tail :=
    skipLateral_append fun hnil => by simp [scanFactor, hnil] at h
  unfold scanFactor at h ⊢
  rw [hskip]
  cases hlateral : skipLateral tokens with
  | nil => simp [hlateral] at h
  | cons t rest =>
    simp only [hlateral] at h
    simp only [List.cons_append]
    split at h
    · next ht =>
      by_cases hstart : startsQuery rest = true
      · rw [scanGroup, if_pos (startsQuery_append hstart tail)]
        exact isSome_entry_scanSubquery doc' t (rest ++ tail)
      · rw [scanGroup, if_neg hstart] at h
        cases h
    · next w hw =>
      split at h
      · next hname =>
        rw [if_pos hname]
        rfl
      · cases h
    · cases h

/-- Where another table comes next, it does so where more tokens follow. -/
theorem afterFactor_append_of_eq_some {entries entries' : List FromEntry} {join : Option String}
    {rest : List Lexeme} (h : afterFactor entries tokens = (entries', some (join, rest)))
    (tail : List Lexeme) :
    afterFactor entries (tokens ++ tail) = (entries', some (join, rest ++ tail)) := by
  have hsome : (afterFactor entries tokens).2 = none → EndsBetween false tokens tail := by
    rw [h]
    nofun
  rw [afterFactor_append hsome, h]
  rfl

/-- The entries up to a table are kept where more tokens follow, but for the last one. -/
theorem tail_suffix_scanEntries_append (hsame : SameInside as bs tokens) (last last' : Lexeme)
    (join : Option String) (entries : List FromEntry) :
    ((scanFactor ⟨bs, last', parse⟩ join tokens).entry.toList ++ entries).tail <:+
      scanEntries ⟨as, last, parse⟩ join entries (tokens ++ tail) := by
  have hmore := tail_suffix_scanEntries ⟨as, last, parse⟩ join entries (tokens ++ tail)
  by_cases hnil : (scanFactor ⟨bs, last', parse⟩ join tokens).rest = []
  · -- With more tokens it may be another table, but it does not go away.
    cases hentry : (scanFactor ⟨bs, last', parse⟩ join tokens).entry with
    | none => exact (tail_suffix_entry _ entries).trans hmore
    | some entry =>
      obtain ⟨entry', hentry'⟩ := Option.isSome_iff_exists.mp
        (isSome_entry_append (by rw [hentry]; rfl) ⟨as, last, parse⟩ tail)
      rw [hentry'] at hmore
      exact hmore
  · -- It ends before the tokens do, so it is the same table.
    have hfactor : scanFactor ⟨as, last, parse⟩ join (tokens ++ tail) =
        (scanFactor ⟨bs, last', parse⟩ join tokens).append tail :=
      scanFactor_append hsame fun h => absurd h hnil
    rw [hfactor] at hmore
    exact hmore

/-- **More tokens after a clause change none of its entries but the last.** -/
theorem scanEntries_tail_suffix (hsame : SameInside as bs tokens) (last last' : Lexeme)
    (join : Option String) (entries : List FromEntry) :
    (scanEntries ⟨bs, last', parse⟩ join entries tokens).tail <:+
      scanEntries ⟨as, last, parse⟩ join entries (tokens ++ tail) := by
  induction join, entries, tokens using scanEntries_induction ⟨bs, last', parse⟩ with
  | stop join entries tokens _ hscan =>
    rw [hscan]
    exact tail_suffix_scanEntries_append hsame last last' join entries
  | last join entries tokens entries' _ hafter hscan =>
    rw [hscan, tail_of_afterFactor hafter]
    exact tail_suffix_scanEntries_append hsame last last' join entries
  | next join entries tokens entries' join' rest hcontinues hafter hscan ih =>
    have hne : (scanFactor ⟨bs, last', parse⟩ join tokens).rest ≠ [] := by
      intro hnil
      rw [hnil, afterFactor] at hafter
      cases hafter
    have hfactor : scanFactor ⟨as, last, parse⟩ join (tokens ++ tail) =
        (scanFactor ⟨bs, last', parse⟩ join tokens).append tail :=
      scanFactor_append hsame fun h => absurd h hne
    have hs := (suffix_of_afterFactor hafter).trans (suffix_scanFactor _ join tokens)
    rw [hscan, scanEntries_eq ⟨as, last, parse⟩, hfactor]
    simp only [Factor.append, hcontinues, if_true, afterFactor_append_of_eq_some hafter tail]
    exact ih (hsame.of_suffix hs)

/-! ## Whole documents -/

/-- **What is typed at the end of a document changes none of the entries but the last**, as long as
the tokens of the document are still the first ones: all others come first again, with the same names,
condition and place, however subqueries are parsed. -/
theorem scan_dropLast_prefix (d : Dialect) (parse : String → Except ParseFailure Statement)
    (sql more : String) (tokens tokens' : List Lexeme) (hlex : lex d sql = .ok tokens)
    (hfirst : significant tokens <+: tokens') :
    (scan parse sql (significant tokens)).dropLast <+: scan parse (sql ++ more) tokens' := by
  obtain ⟨tail, rfl⟩ := hfirst
  cases hfrom : afterFrom? 0 (significant tokens) with
  | none => simp [scan, hfrom]
  | some clause =>
    have hsame : SameInside (sql ++ more).toList sql.toList clause := by
      rw [String.toList_append]
      refine sameInside_append fun t ht => inText_of_mem_lex hlex ?_
      exact (List.mem_filter.mp ((suffix_of_afterFrom? hfrom).subset ht)).1
    obtain ⟨last, -, hscan⟩ := exists_scan_eq hfrom parse sql
    obtain ⟨last', -, hlonger⟩ :=
      exists_scan_eq (afterFrom?_append_of_eq_some hfrom tail) parse (sql ++ more)
    rw [hscan, hlonger, List.dropLast_reverse, List.reverse_prefix]
    exact scanEntries_tail_suffix hsame last' last none []

end

/-- The last table gets an alias, and another one is joined to it. Those before it are the same, one
of them with a condition. -/
theorem scan_dropLast_prefix_joined :
    let sql := "SELECT 1 FROM a, (SELECT 2) q JOIN b ON 3, c"
    let more := " d JOIN e"
    let tokens (text : String) : List Lexeme := (lex .generic text).toOption.getD []
    let tables (text : String) : List (Option (String × Option String × Bool)) :=
      (scan (parse .generic) text (significant (tokens text))).map fun e =>
        e.table?.map fun r => (r.table, r.aliasName, r.hasOn)
    tables sql =
        [some ("a", none, false), none, some ("b", none, true), some ("c", none, false)] ∧
      tables (sql ++ more) =
        [some ("a", none, false), none, some ("b", none, true), some ("c", some "d", false),
          some ("e", none, false)] ∧
      lex .generic sql = .ok (tokens sql) ∧
      significant (tokens sql) <+: significant (tokens (sql ++ more)) ∧
      (scan (parse .generic) sql (significant (tokens sql))).dropLast <+:
        scan (parse .generic) (sql ++ more) (significant (tokens (sql ++ more))) := by
  intro sql more tokens tables
  have hrun : tables sql =
        [some ("a", none, false), none, some ("b", none, true), some ("c", none, false)] ∧
      tables (sql ++ more) =
        [some ("a", none, false), none, some ("b", none, true), some ("c", some "d", false),
          some ("e", none, false)] ∧
      lex .generic sql = .ok (tokens sql) ∧
      significant (tokens sql) <+: significant (tokens (sql ++ more)) := by
    decide +kernel
  obtain ⟨hbefore, hafter, hlex, hfirst⟩ := hrun
  exact ⟨hbefore, hafter, hlex, hfirst,
    scan_dropLast_prefix .generic (parse .generic) sql more _ _ hlex hfirst⟩

end SqlCompletion.Sql.FromClause
