import SqlCompletion.Proofs.WrittenClause
import SqlCompletion.Scope

/-!
# Where a clause ends

What stands behind the token that ends a FROM clause has no part in its entries: the text can be cut
there, or go on in any other way that ends the clause. The names in the entries are words of the
clause, and a keyword of the next clause is one of them only where a word is awaited, directly behind
the dot of a name or the `AS` of an alias.

* `namesFrom_of_mem_scanEntries`: where the names of the entries come from, by the parts of a table.
* `last_of_clauseAwaits`: the last token of a clause that awaits a word.
* `scan_of_endsBetween`: the whole scan.
-/

namespace SqlCompletion.Sql.FromClause

/-! ## Names -/

/-- The name is a word of the tokens: one that may be a name, or any word directly behind a token
with the property. -/
inductive NamedBy (mark : Token → Prop) (tokens : List Lexeme) (name : String) : Prop
  | name (t : Lexeme) (rest : List Lexeme) (w : Word) (hs : t :: rest <:+ tokens)
      (hw : t.token = .word w) (hname : isName w = true) (hvalue : w.value = name)
  | behind (m t : Lexeme) (rest : List Lexeme) (w : Word) (hs : m :: t :: rest <:+ tokens)
      (hmark : mark m.token) (hw : t.token = .word w) (hvalue : w.value = name)

/-- The name is a part of the name of a table. -/
def PartOfName : List Lexeme → String → Prop := NamedBy (· = .symbol .period)

/-- The name is an alias. -/
def AliasOf : List Lexeme → String → Prop := NamedBy (isKeyword · "AS" = true)

/-- The names in an entry are words of the tokens. -/
inductive NamesFrom (tokens : List Lexeme) : FromEntry → Prop
  | table (r : TableRef) (htable : PartOfName tokens r.table)
      (hdatabase : ∀ database ∈ r.database,
        ∃ parts, database = ".".intercalate parts ∧ ∀ part ∈ parts, PartOfName tokens part)
      (halias : ∀ a ∈ r.aliasName, AliasOf tokens a) : NamesFrom tokens (.table r)
  | subquery (statement : Statement) (a : String) (location : Range)
      (halias : a = "" ∨ AliasOf tokens a) : NamesFrom tokens (.subquery statement a location)
  | incomplete (text : String) (location : Range) : NamesFrom tokens (.incomplete text location)

theorem NamedBy.of_suffix {mark : Token → Prop} {tokens rest : List Lexeme} {name : String}
    (h : NamedBy mark rest name) (hs : rest <:+ tokens) : NamedBy mark tokens name := by
  cases h with
  | name t more w hmore hw hname hvalue => exact .name t more w (hmore.trans hs) hw hname hvalue
  | behind m t more w hmore hmark hw hvalue =>
    exact .behind m t more w (hmore.trans hs) hmark hw hvalue

theorem NamesFrom.of_suffix {tokens rest : List Lexeme} {entry : FromEntry}
    (h : NamesFrom rest entry) (hs : rest <:+ tokens) : NamesFrom tokens entry := by
  cases h with
  | table r htable hdatabase halias =>
    refine .table r (htable.of_suffix hs) ?_ fun a ha => (halias a ha).of_suffix hs
    intro database hmem
    obtain ⟨parts, htext, hparts⟩ := hdatabase database hmem
    exact ⟨parts, htext, fun part hpart => (hparts part hpart).of_suffix hs⟩
  | subquery statement a location halias =>
    exact .subquery statement a location (halias.imp_right (·.of_suffix hs))
  | incomplete text location => exact .incomplete text location

section

variable {all tokens : List Lexeme}

theorem aliasOf_scanAlias {a : String} {t : Lexeme} (h : (scanAlias tokens).1 = some (a, t)) :
    AliasOf tokens a := by
  fun_cases scanAlias tokens with
  | case1 mark has u more w hw =>
    simp only [scanAlias, has, hw, if_true] at h
    cases h
    exact .behind mark t more w List.suffix_rfl has hw rfl
  | case4 u rest has w hw hname =>
    simp only [scanAlias, if_neg has] at h
    simp only [hw, if_pos hname] at h
    cases h
    exact .name t rest w List.suffix_rfl hw hname rfl
  | _ => simp_all [scanAlias]

/-- Behind a dot every word is a part of a name, and so is any word behind a dot that follows it. -/
theorem partOfName_scanName {parts : List String} {last : Lexeme}
    (hlast : last.token = .symbol .period) (hs : last :: tokens <:+ all)
    (hparts : ∀ part ∈ parts, PartOfName all part) :
    ∀ part ∈ (scanName parts last tokens).1, PartOfName all part := by
  fun_induction scanName parts last tokens with
  | case1 | case5 => exact hparts
  | case2 parts last t w hw dot more hdot ih =>
    refine ih (beq_iff_eq.mp hdot) ?_ ?_
    · exact ((List.suffix_cons t _).trans (List.suffix_cons last _)).trans hs
    · exact List.forall_mem_cons.mpr ⟨.behind last t _ w hs hlast hw rfl, hparts⟩
  | case3 parts last t w hw rest | case4 parts last t w hw =>
    exact List.forall_mem_cons.mpr ⟨.behind last t _ w hs hlast hw rfl, hparts⟩

/-- All parts of a name that starts with a name are parts of it. -/
theorem partOfName_scanName_first {t : Lexeme} {w : Word} (hw : t.token = .word w)
    (hname : isName w = true) (last : Lexeme) (rest : List Lexeme) :
    ∀ part ∈ (scanName [] last (t :: rest)).1, PartOfName (t :: rest) part := by
  have hfirst : ∀ part ∈ [w.value], PartOfName (t :: rest) part := by
    intro part hpart
    rw [List.mem_singleton.mp hpart]
    exact .name t rest w List.suffix_rfl hw hname rfl
  rw [scanName]
  simp only [hw]
  split
  · next dot more =>
    split
    · next hdot => exact partOfName_scanName (beq_iff_eq.mp hdot) (List.suffix_cons t _) hfirst
    · exact hfirst
  · exact hfirst

theorem suffix_scanName_fst (parts : List String) (last : Lexeme) (tokens : List Lexeme) :
    parts <:+ (scanName parts last tokens).1 := by
  fun_induction scanName parts last tokens with
  | case1 | case5 => exact List.suffix_rfl
  | case2 parts last t w hw dot more hdot ih => exact (List.suffix_cons w.value parts).trans ih
  | case3 | case4 => exact List.suffix_cons _ _

theorem scanName_fst_ne_nil {t : Lexeme} {w : Word} {rest : List Lexeme} {last : Lexeme}
    (hw : t.token = .word w) : (scanName [] last (t :: rest)).1 ≠ [] := by
  rw [scanName]
  simp only [hw]
  split
  · next dot more =>
    split
    · intro hnil
      have hs := suffix_scanName_fst [w.value] dot more
      rw [hnil] at hs
      cases List.suffix_nil.mp hs
    · exact List.cons_ne_nil _ _
  · exact List.cons_ne_nil _ _

theorem namesFrom_scanTable {doc : Document} {join : Option String} {t : Lexeme} {w : Word}
    {rest : List Lexeme} {entry : FromEntry} (hw : t.token = .word w) (hname : isName w = true)
    (h : (scanTable doc join t (t :: rest)).entry = some entry) : NamesFrom (t :: rest) entry := by
  have hparts := partOfName_scanName_first hw hname t rest
  have hafter : (scanArguments doc (scanName [] t (t :: rest)).2.1
      (scanName [] t (t :: rest)).2.2).2 <:+ t :: rest :=
    (suffix_scanArguments doc _ _).trans (suffix_scanName [] t (t :: rest))
  obtain ⟨table, outer, hcons⟩ := List.exists_cons_of_ne_nil (scanName_fst_ne_nil hw)
  rw [hcons, List.forall_mem_cons] at hparts
  simp only [scanTable, hcons] at h
  cases h
  refine .table _ hparts.1 ?_ ?_
  · intro database hdatabase
    cases outer with
    | nil => cases hdatabase
    | cons part outer =>
      cases hdatabase
      exact ⟨_, rfl, fun part hpart => hparts.2 part (List.mem_reverse.mp hpart)⟩
  · intro a ha
    obtain ⟨⟨a, u⟩, hfound, rfl⟩ := Option.map_eq_some_iff.mp ha
    exact (aliasOf_scanAlias hfound).of_suffix hafter

theorem namesFrom_scanGroup {doc : Document} {opening : Lexeme} {entry : FromEntry}
    (h : (scanGroup doc opening tokens).entry = some entry) : NamesFrom tokens entry := by
  unfold scanGroup at h
  split at h
  · unfold scanSubquery at h
    split at h
    · cases h
      exact .incomplete _ _
    · next close rest hgroup =>
      have hs := (List.suffix_cons close rest).trans (suffix_of_groupEnd? hgroup)
      dsimp only at h
      split at h
      · cases h
        refine .subquery _ _ _ ?_
        cases halias : (scanAlias rest).1 with
        | none => exact .inl rfl
        | some found => exact .inr ((aliasOf_scanAlias halias).of_suffix hs)
      · cases h
        exact .incomplete _ _
  · cases h

theorem namesFrom_scanFactor {doc : Document} {join : Option String} {entry : FromEntry}
    (h : (scanFactor doc join tokens).entry = some entry) : NamesFrom tokens entry := by
  have hs := suffix_skipLateral tokens
  unfold scanFactor at h
  split at h
  · next t rest hskip =>
    rw [hskip] at hs
    split at h
    · exact (namesFrom_scanGroup h).of_suffix ((List.suffix_cons t rest).trans hs)
    · next w hw =>
      split at h
      · next hname => exact (namesFrom_scanTable hw hname h).of_suffix hs
      · cases h
    · cases h
  · cases h

/-- **The names in the entries of a clause are words of the clause.** -/
theorem namesFrom_of_mem_scanEntries {doc : Document} {join : Option String} {entry : FromEntry}
    (h : entry ∈ scanEntries doc join [] tokens) : NamesFrom tokens entry := by
  refine forall_mem_scanEntries ?_ ?_ nofun entry h
  · rintro r ⟨_, htable, hdatabase, halias⟩
    exact .table _ htable hdatabase halias
  · intro join rest entry hs hentry
    exact (namesFrom_scanFactor hentry).of_suffix hs

/-! ## Words that are awaited -/

theorem last_of_awaitsAlias (h : awaitsAlias tokens = true) :
    ∃ t, [t] <:+ tokens ∧ isKeyword t.token "AS" = true := by
  unfold awaitsAlias at h
  split at h
  · next t => exact ⟨t, List.suffix_rfl, h⟩
  · cases h

theorem last_of_awaitsPart {t : Lexeme} {w : Word} {rest : List Lexeme} (hw : t.token = .word w)
    (h : awaitsPart t (t :: rest) = true) :
    ∃ u, [u] <:+ t :: rest ∧ (u.token = .symbol .period ∨ isKeyword u.token "AS" = true) := by
  have hname := suffix_scanName_word [] t hw rest
  simp only [awaitsPart, Bool.or_eq_true, Bool.and_eq_true, List.isEmpty_iff, beq_iff_eq] at h
  rcases h with ⟨hnil, hdot⟩ | halias
  · rw [hnil] at hname
    exact ⟨_, hname, .inl hdot⟩
  · obtain ⟨u, hu, has⟩ := last_of_awaitsAlias halias
    exact ⟨u, hu.trans ((suffix_afterUsing _).trans (suffix_scanName [] t _)), .inr has⟩

theorem last_of_awaitsWord (h : awaitsWord tokens = true) :
    ∃ t, [t] <:+ tokens ∧ (t.token = .symbol .period ∨ isKeyword t.token "AS" = true) := by
  have hs := suffix_skipLateral tokens
  unfold awaitsWord at h
  split at h
  · next t rest hskip =>
    rw [hskip] at hs
    split at h
    · obtain ⟨u, hu, has⟩ := last_of_awaitsAlias h
      have hrest := (suffix_afterGroup rest).trans (List.suffix_cons t rest)
      exact ⟨u, hu.trans (hrest.trans hs), .inr has⟩
    · next w hw =>
      obtain ⟨u, hu, hlast⟩ := last_of_awaitsPart hw (Bool.and_eq_true_iff.mp h).2
      exact ⟨u, hu.trans hs, hlast⟩
    · cases h
  · cases h

theorem suffix_of_afterTable? {rest : List Lexeme} (h : afterTable? tokens = some rest) :
    rest <:+ tokens := by
  cases tokens with
  | nil => cases h
  | cons t more =>
    rw [afterTable?_eq ⟨[], t, fun _ => .error (.other "")⟩ none] at h
    split at h
    · cases h
      exact suffix_scanFactor _ none (t :: more)
    · cases h

/-- A word is awaited only behind a dot or behind `AS`. -/
theorem last_of_clauseAwaits (h : clauseAwaits tokens = true) :
    ∃ t, [t] <:+ tokens ∧ (t.token = .symbol .period ∨ isKeyword t.token "AS" = true) := by
  -- The next table starts with fewer tokens, as in the recursion.
  induction hn : tokens.length using Nat.strongRecOn generalizing tokens with
  | ind n ih =>
    rw [clauseAwaits] at h
    rcases Bool.or_eq_true_iff.mp h with hword | hmore
    · exact last_of_awaitsWord hword
    · split at hmore
      · next rest htable =>
        split at hmore
        · next entries join next hafter =>
          have hshort := length_lt_of_afterTable? htable
          have hlt := length_lt_of_afterFactor hafter
          have hs := (suffix_of_afterFactor hafter).trans (suffix_of_afterTable? htable)
          obtain ⟨t, ht, hlast⟩ := ih next.length (by omega) hmore rfl
          exact ⟨t, ht.trans hs, hlast⟩
        · cases hmore
      · cases hmore

/-! ## The whole scan -/

/-- **The scan stops at the end of the clause.** The entries are the same, with every name, alias,
join, condition and place, whatever ends the clause and whatever comes behind it, in any text that is
the same between the parentheses. Their names are words of the clause: such as may be a name, or any
word directly behind a dot of a name or the `AS` of an alias. A token ends the clause unless it is a
word and one is awaited, which is so only where the last token before is such a dot or `AS`. -/
theorem scan_of_endsBetween (parse : String → Except ParseFailure Statement) (a b : String)
    (front clause tail tail' : List Lexeme) (hfrom : afterFrom? 0 front = some clause)
    (hsame : SameInside a.toList b.toList clause)
    (h : EndsBetween (clauseAwaits clause) clause tail)
    (h' : EndsBetween (clauseAwaits clause) clause tail') :
    scan parse a (front ++ tail) = scan parse b (front ++ tail') ∧
      (∀ entry ∈ scan parse a (front ++ tail), NamesFrom clause entry) ∧
      (clauseAwaits clause = true →
        ∃ t, [t] <:+ clause ∧ (t.token = .symbol .period ∨ isKeyword t.token "AS" = true)) := by
  have hcut : scan parse a (front ++ tail) = scan parse b front := scan_append hfrom hsame h
  have hother : scan parse b (front ++ tail') = scan parse b front :=
    scan_append hfrom (fun _ _ _ _ _ _ _ => rfl) h'
  refine ⟨hcut.trans hother.symm, fun entry hentry => ?_, last_of_clauseAwaits⟩
  obtain ⟨last, -, hscan⟩ := exists_scan_eq hfrom parse b
  rw [hcut, hscan] at hentry
  exact namesFrom_of_mem_scanEntries (List.mem_reverse.mp hentry)

end

/-- A clause that stops in the condition of a join, with a keyword as an alias: it can be cut before
`WHERE`. -/
theorem scan_of_endsBetween_half_typed :
    let text := "SELECT 1 FROM t AS limit, (SELECT 2) q JOIN u ON t."
    let tokens (text : String) : List Lexeme := ((lex .generic text).toOption.map significant).getD []
    let clause := (tokens text).drop 3
    let tail := (tokens (text ++ " WHERE x")).drop 17
    tokens (text ++ " WHERE x") = tokens text ++ tail ∧ tail ≠ [] ∧
      SameInside (text ++ " WHERE x").toList text.toList clause ∧
      EndsBetween (clauseAwaits clause) clause tail ∧ EndsBetween (clauseAwaits clause) clause [] ∧
      scan (parse .generic) (text ++ " WHERE x") (tokens text ++ tail) =
        scan (parse .generic) text (tokens text ++ []) ∧
      tableAliases (scan (parse .generic) text (tokens text)) = ["limit"] ∧
      ∀ entry ∈ scan (parse .generic) (text ++ " WHERE x") (tokens text ++ tail),
        NamesFrom clause entry := by
  intro text tokens clause tail
  have hrun : tokens (text ++ " WHERE x") = tokens text ++ tail ∧ tail ≠ [] ∧
      afterFrom? 0 (tokens text) = some clause ∧ balanced 0 clause = true ∧
      clauseAwaits clause = false ∧ NextIs (isClauseEnd · = true) tail ∧
      tableAliases (scan (parse .generic) text (tokens text)) = ["limit"] := by
    decide +kernel
  obtain ⟨htokens, hne, hfrom, hbalanced, hawaits, hends, haliases⟩ := hrun
  have hsame : SameInside (text ++ " WHERE x").toList text.toList clause := by
    rw [String.toList_append]
    refine sameInside_append fun t ht => ?_
    replace ht : t ∈ tokens text := List.mem_of_mem_drop ht
    cases hlex : lex .generic text with
    | error e =>
      simp only [tokens, hlex] at ht
      cases ht
    | ok all =>
      simp only [tokens, hlex] at ht
      exact inText_of_mem_lex hlex (List.mem_filter.mp ht).1
  have hclosed : Closed clause := closed_of_balanced hbalanced
  have htail : EndsBetween (clauseAwaits clause) clause tail :=
    ⟨hclosed, hends, by rw [hawaits]; nofun⟩
  have hscan := scan_of_endsBetween (parse .generic) (text ++ " WHERE x") text (tokens text) clause
    tail [] hfrom hsame htail (endsBetween_nil hclosed)
  exact ⟨htokens, hne, hsame, htail, endsBetween_nil hclosed, hscan.1, haliases, hscan.2.1⟩

/-- The clause stands before the first token outside its parentheses that could end it. -/
def StopsFirst (clause tail : List Lexeme) : Prop :=
  balanced 0 clause = true ∧ (∀ t ∈ outside 0 clause, isClauseEnd t.token = false) ∧
    NextIs (isClauseEnd · = true) tail

instance (clause tail : List Lexeme) : Decidable (StopsFirst clause tail) :=
  inferInstanceAs (Decidable (_ ∧ _ ∧ _))

/-- The first token that could end the clause need not end it: behind `AS` it is an alias, and behind
a dot it is a part of a name, with what follows as the alias. -/
theorem scan_reads_awaited_keyword :
    (¬ ∀ (parse : String → Except ParseFailure Statement) (text : String)
        (front clause tail : List Lexeme), afterFrom? 0 front = some clause →
        StopsFirst clause tail → (∀ t ∈ clause.getLast?, t.token ≠ .symbol .period) →
        tableAliases (scan parse text (front ++ tail)) = tableAliases (scan parse text front)) ∧
      ¬ ∀ (parse : String → Except ParseFailure Statement) (text : String)
        (front clause tail : List Lexeme), afterFrom? 0 front = some clause →
        StopsFirst clause tail → (∀ t ∈ clause.getLast?, isKeyword t.token "AS" = false) →
        tableAliases (scan parse text (front ++ tail)) = tableAliases (scan parse text front) := by
  let tokens (text : String) : List Lexeme := ((lex .generic text).toOption.map significant).getD []
  refine ⟨fun h => ?_, fun h => ?_⟩
  · let text := "SELECT 1 FROM a AS WHERE x = 1"
    let clause := ((tokens text).take 5).drop 3
    have hrun : afterFrom? 0 ((tokens text).take 5) = some clause ∧
        StopsFirst clause ((tokens text).drop 5) ∧
        (∀ t ∈ clause.getLast?, t.token ≠ .symbol .period) ∧
        tableAliases (scan (parse .generic) text ((tokens text).take 5 ++ (tokens text).drop 5)) ≠
          tableAliases (scan (parse .generic) text ((tokens text).take 5)) := by
      decide +kernel
    obtain ⟨hfrom, hstops, hlast, hne⟩ := hrun
    exact hne (h _ text _ clause _ hfrom hstops hlast)
  · let text := "SELECT 1 FROM a. WHERE x = 1"
    let clause := ((tokens text).take 5).drop 3
    have hrun : afterFrom? 0 ((tokens text).take 5) = some clause ∧
        StopsFirst clause ((tokens text).drop 5) ∧
        (∀ t ∈ clause.getLast?, isKeyword t.token "AS" = false) ∧
        tableAliases (scan (parse .generic) text ((tokens text).take 5 ++ (tokens text).drop 5)) ≠
          tableAliases (scan (parse .generic) text ((tokens text).take 5)) := by
      decide +kernel
    obtain ⟨hfrom, hstops, hlast, hne⟩ := hrun
    exact hne (h _ text _ clause _ hfrom hstops hlast)

end SqlCompletion.Sql.FromClause
