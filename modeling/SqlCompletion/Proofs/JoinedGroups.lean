import SqlCompletion.Proofs.WrittenClause

/-!
# Joins with groups

What is joined in a FROM clause need not be a table or a query: it can be a group in parentheses
that joins tables of its own, and such a group has no entry. The scan takes a condition for that of
the entry it made last. So the condition of a group is taken for that of the table before it,
whether or not this table has one, and whether or not it is joined at all.

* `scanFactor_operand`: tables, queries, table functions and groups are scanned for what they are.
* `scanEntries_operands`: from there, by induction on the clause, all entries, and which of the
  entries before them is marked.
* `Written.Chain.group`: a clause in parentheses is such a group, at any depth.
* `scan_chain`: the entries of a clause with groups, and when each has its own condition.
-/

namespace SqlCompletion.Sql.FromClause

namespace Written

/-! ## Operands -/

/-- What stands on one side of a join: a table or a query, a table function, or a group in
parentheses that is no query. -/
inductive Source where
  | relation (r : Relation)
  | call (name : Name) (opening : Range) (arguments : List Lexeme) (close : Range)
      (hbalanced : balanced 0 arguments = true)
  | group (opening : Range) (body : List Lexeme) (close : Range)
      (hstart : startsQuery body = false) (hbalanced : balanced 0 body = true)

namespace Source

/-- The tokens of a source. -/
def tokens : Source → List Lexeme
  | relation r => r.tokens
  | call name opening arguments close _ =>
    name.tokens ++ ⟨.symbol .leftParen, opening⟩ :: (arguments ++ [⟨.symbol .rightParen, close⟩])
  | group opening body close _ _ =>
    ⟨.symbol .leftParen, opening⟩ :: (body ++ [⟨.symbol .rightParen, close⟩])

/-- The source is a group. -/
def isGroup : Source → Bool
  | group .. => true
  | _ => false

/-- The source is a table or a table function. -/
def isTable : Source → Bool
  | relation (.table _) | call .. => true
  | _ => false

/-- The entry that a source with the given alias stands for; a group has none. -/
def standsFor? (parse : String → Except ParseFailure Statement) (chars : List Char)
    (join : Option String) (name? : Option PlacedWord) (hasOn : Bool) : Source → Option FromEntry
  | relation r => some (r.entry parse chars join name? hasOn)
  | call name _ _ close _ =>
    some (.table {
      database := name.database
      table := name.last.word.value
      aliasName := name?.map (·.word.value)
      join
      hasOn
      location := ⟨name.first.range.start, ((name?.map (·.range)).getD close).stop⟩ })
  | group .. => none

end Source

/-- A source with what stands around it: `LATERAL`, an alias, a condition. -/
structure Operand where
  lateral : Option PlacedWord := none
  source : Source
  aliased : Alias := .none
  condition : Condition := .none
  lateral_keyword : ∀ w ∈ lateral, w.word.keyword = some "LATERAL" := by simp

/-- The tokens of an operand. -/
def Operand.tokens (o : Operand) : List Lexeme :=
  (o.lateral.map PlacedWord.lexeme).toList ++ o.source.tokens ++ o.aliased.tokens ++
    o.condition.tokens

/-- A FROM clause after its keyword: an operand, and further ones with what stands before them. -/
structure Chain where
  first : Operand
  links : List (Separator × Operand)

namespace Chain

/-- The tokens of a clause. -/
def tokens (c : Chain) : List Lexeme :=
  c.first.tokens ++ c.links.flatMap fun (s, o) => s.tokens ++ o.tokens

/-- The operands of a clause, each with the join operator before it. -/
def operands (c : Chain) : List (Option String × Operand) :=
  (none, c.first) :: c.links.map fun (s, o) => (s.label, o)

end Chain

/-- Of the groups that come first, one has a condition. -/
def groupConstrained : List (Option String × Operand) → Bool
  | [] => false
  | (_, o) :: later => o.source.isGroup && (o.condition.isSome || groupConstrained later)

section

variable (parse : String → Except ParseFailure Statement) (chars : List Char)

/-- The entries of operands, each marked if it has a condition or a group directly behind it has
one. -/
def entriesOf : List (Option String × Operand) → List FromEntry
  | [] => []
  | (join, o) :: later =>
    (o.source.standsFor? parse chars join o.aliased.name?
      (o.condition.isSome || groupConstrained later)).toList ++ entriesOf later

/-- The entries of operands, each marked if it has a condition. -/
def ownEntriesOf (operands : List (Option String × Operand)) : List FromEntry :=
  operands.flatMap fun (join, o) =>
    (o.source.standsFor? parse chars join o.aliased.name? o.condition.isSome).toList

end

end Written

/-! ## One operand -/

theorem scanFactor_lateral (doc : Document) (join : Option String) {w : PlacedWord}
    (hw : w.word.keyword = some "LATERAL") {tokens : List Lexeme}
    (h : skipLateral tokens = tokens) :
    scanFactor doc join (w.lexeme :: tokens) = scanFactor doc join tokens := by
  have hskip : skipLateral (w.lexeme :: tokens) = tokens := by simp [skipLateral, hw]
  rw [scanFactor, hskip, scanFactor, h]

theorem skipLateral_source (s : Written.Source) (rest : List Lexeme) :
    skipLateral (s.tokens ++ rest) = s.tokens ++ rest := by
  cases s with
  | relation r =>
    cases r with
    | table name => exact skipLateral_name name rest
    | query => rfl
  | call name => rw [Written.Source.tokens, List.append_assoc, skipLateral_name]
  | group => rfl

theorem scanFactor_call (doc : Document) (join : Option String) (name : Written.Name)
    {opening close : Range} {arguments : List Lexeme} (hbalanced : balanced 0 arguments = true)
    (a : Written.Alias) {rest : List Lexeme} (h : NextIs (fun t => endsTable t = true) rest) :
    scanFactor doc join ((Written.Source.call name opening arguments close hbalanced).tokens ++
        (a.tokens ++ rest)) =
      ⟨(Written.Source.call name opening arguments close hbalanced).standsFor? doc.parse doc.chars
        join a.name? false, rest, true⟩ := by
  have htokens : (Written.Source.call name opening arguments close hbalanced).tokens ++
      (a.tokens ++ rest) = name.tokens ++ ⟨.symbol .leftParen, opening⟩ ::
        (arguments ++ ⟨.symbol .rightParen, close⟩ :: (a.tokens ++ rest)) := by
    simp [Written.Source.tokens]
  have harguments : scanArguments doc name.last.lexeme (⟨.symbol .leftParen, opening⟩ ::
      (arguments ++ ⟨.symbol .rightParen, close⟩ :: (a.tokens ++ rest))) =
        (⟨.symbol .rightParen, close⟩, a.tokens ++ rest) := by
    simp [scanArguments, groupEnd?_closed hbalanced ⟨.symbol .rightParen, close⟩ rfl]
  have hparen : NextIs (· ≠ .symbol .period) (⟨.symbol .leftParen, opening⟩ ::
      (arguments ++ ⟨.symbol .rightParen, close⟩ :: (a.tokens ++ rest))) :=
    nextIs_cons.mpr (by simp)
  rw [htokens, scanFactor_name, scanTable_name doc join name a hparen harguments h]
  rfl

/-- A group is passed over with its alias. -/
theorem scanFactor_group (doc : Document) (join : Option String) {opening close : Range}
    {body : List Lexeme} (hstart : startsQuery body = false) (hbalanced : balanced 0 body = true)
    (a : Written.Alias) {rest : List Lexeme} (h : NextIs (fun t => endsTable t = true) rest) :
    scanFactor doc join ((Written.Source.group opening body close hstart hbalanced).tokens ++
        (a.tokens ++ rest)) = ⟨none, rest, true⟩ := by
  have htokens : (Written.Source.group opening body close hstart hbalanced).tokens ++
      (a.tokens ++ rest) = ⟨.symbol .leftParen, opening⟩ ::
        (body ++ ⟨.symbol .rightParen, close⟩ :: (a.tokens ++ rest)) := by
    simp [Written.Source.tokens]
  have hend := groupEnd?_closed hbalanced ⟨.symbol .rightParen, close⟩ rfl (a.tokens ++ rest)
  have hquery :
      startsQuery (body ++ ⟨.symbol .rightParen, close⟩ :: (a.tokens ++ rest)) = false := by
    cases body with
    | nil => rfl
    | cons t body => exact hstart
  rw [htokens]
  show scanGroup doc _ _ = _
  rw [scanGroup, hquery, if_neg Bool.false_ne_true, afterGroup, hend]
  simp only [scanAlias_tokens a h, Option.isSome_some]

/-- **An operand is scanned for what it is**, up to its condition. -/
theorem scanFactor_operand (doc : Document) (join : Option String) (o : Written.Operand)
    {rest : List Lexeme} (h : NextIs Separates rest) :
    scanFactor doc join (o.tokens ++ rest) =
      ⟨o.source.standsFor? doc.parse doc.chars join o.aliased.name? false,
        o.condition.tokens ++ rest, true⟩ := by
  have hends := o.condition.endsTable h
  have hsource : scanFactor doc join
      (o.source.tokens ++ (o.aliased.tokens ++ (o.condition.tokens ++ rest))) =
        ⟨o.source.standsFor? doc.parse doc.chars join o.aliased.name? false,
          o.condition.tokens ++ rest, true⟩ := by
    cases o.source with
    | relation r => exact scanFactor_tokens doc join r o.aliased hends
    | call name opening arguments close hbalanced =>
      exact scanFactor_call doc join name hbalanced o.aliased hends
    | group opening body close hstart hbalanced =>
      exact scanFactor_group doc join hstart hbalanced o.aliased hends
  have htokens : o.tokens ++ rest = (o.lateral.map PlacedWord.lexeme).toList ++
      (o.source.tokens ++ (o.aliased.tokens ++ (o.condition.tokens ++ rest))) := by
    simp [Written.Operand.tokens]
  rw [htokens]
  cases hlateral : o.lateral with
  | none => exact hsource
  | some w =>
    have hw := o.lateral_keyword w (by rw [hlateral]; rfl)
    exact (scanFactor_lateral doc join hw (skipLateral_source o.source _)).trans hsource

/-! ## Marks -/

/-- The entries, the last one first, of which the last has a condition if there is one. -/
def markWhen (b : Bool) (entries : List FromEntry) : List FromEntry :=
  if b then markConstrained entries else entries

theorem markWhen_markWhen (b c : Bool) (entries : List FromEntry) :
    markWhen b (markWhen c entries) = markWhen (c || b) entries := by
  cases b <;> cases c <;> simp [markWhen, markConstrained_idem]

/-- A condition falls to the entry of a source, if it has one, and to the entry before it
otherwise. -/
theorem markWhen_standsFor? (parse : String → Except ParseFailure Statement) (chars : List Char)
    (join : Option String) (name? : Option PlacedWord) (b c : Bool) (s : Written.Source)
    (entries : List FromEntry) :
    markWhen b ((s.standsFor? parse chars join name? c).toList ++ entries) =
      (s.standsFor? parse chars join name? (c || b)).toList ++
        markWhen (s.isGroup && b) entries := by
  cases b with
  | false => simp [markWhen]
  | true =>
    cases s with
    | relation r =>
      cases r with
      | table name => simp [markWhen, Written.Source.isGroup, Written.Source.standsFor?,
          Written.Relation.entry, markConstrained]
      | query opening body close _ _ =>
        simp only [markWhen, Written.Source.isGroup, Written.Source.standsFor?,
          Written.Relation.entry]
        cases parse (String.ofList (Text.slice chars opening.stop.offset close.start.offset)) <;>
          rfl
    | call => simp [markWhen, Written.Source.isGroup, Written.Source.standsFor?, markConstrained]
    | group => rfl

/-! ## The whole clause -/

/-- One operand of a clause, with what follows it. -/
theorem scanEntries_operand (doc : Document) (join : Option String) (entries : List FromEntry)
    (o : Written.Operand) {rest : List Lexeme} (h : NextIs Separates rest) :
    scanEntries doc join entries (o.tokens ++ rest) =
      match afterFactor ((o.source.standsFor? doc.parse doc.chars join o.aliased.name?
          o.condition.isSome).toList ++ markWhen (o.source.isGroup && o.condition.isSome) entries)
          rest with
      | (entries, some (join, rest)) => scanEntries doc join entries rest
      | (entries, none) => entries := by
  rw [scanEntries_eq, scanFactor_operand doc join o h, if_pos rfl,
    afterFactor_condition_tokens o.condition _ h]
  have hmark := markWhen_standsFor? doc.parse doc.chars join o.aliased.name? o.condition.isSome
    false o.source entries
  rw [Bool.false_or] at hmark
  rw [← hmark]
  rfl

/-- **The entries of a clause with groups.** A condition falls to the last entry before it; that of
a group that comes first falls to the last of the entries that were there already. -/
theorem scanEntries_operands (doc : Document) (join : Option String) (entries : List FromEntry)
    (first : Written.Operand) (links : List (Written.Separator × Written.Operand))
    {rest : List Lexeme} (h : EndsClause rest) :
    scanEntries doc join entries
        (first.tokens ++ ((links.flatMap fun (s, o) => s.tokens ++ o.tokens) ++ rest)) =
      (Written.entriesOf doc.parse doc.chars
          ((join, first) :: links.map fun (s, o) => (s.label, o))).reverse ++
        markWhen (Written.groupConstrained ((join, first) :: links.map fun (s, o) => (s.label, o)))
          entries := by
  have hreverse (m : Option FromEntry) : m.toList.reverse = m.toList := by
    cases m <;> rfl
  induction links generalizing join entries first with
  | nil =>
    rw [List.flatMap_nil, List.nil_append, scanEntries_operand doc join entries first h.separates,
      afterFactor_of_isClauseEnd _ h.nextIs]
    simp [Written.entriesOf, Written.groupConstrained, hreverse]
  | cons link links ih =>
    obtain ⟨s, o⟩ := link
    have htokens : ((s, o) :: links).flatMap (fun (s, o) => s.tokens ++ o.tokens) ++ rest =
        s.tokens ++ (o.tokens ++ (links.flatMap (fun (s, o) => s.tokens ++ o.tokens) ++ rest)) := by
      simp
    rw [htokens, scanEntries_operand doc join entries first (s.separates _), afterFactor_separator]
    show scanEntries doc s.label _ (o.tokens ++ (_ ++ rest)) = _
    -- A condition of the groups behind falls to this operand, or to the entries before it.
    rw [ih, markWhen_standsFor?, markWhen_markWhen, List.map_cons]
    generalize (s.label, o) :: links.map (fun (s, o) => (s.label, o)) = later
    rw [Written.entriesOf, Written.groupConstrained, List.reverse_append, hreverse,
      List.append_assoc, Bool.and_or_distrib_left]

/-! ## Groups of joined tables -/

theorem balanced_parens {opening close : Range} {body : List Lexeme} (h : balanced 0 body = true) :
    balanced 0 (⟨.symbol .leftParen, opening⟩ :: (body ++ [⟨.symbol .rightParen, close⟩])) =
      true := by
  have hclosed : balanced (0 + 1) (body ++ [⟨.symbol .rightParen, close⟩]) = true :=
    balanced_append h rfl
  exact hclosed

theorem balanced_flatMap {α : Type} {f : α → List Lexeme} {l : List α}
    (h : ∀ a ∈ l, balanced 0 (f a) = true) : balanced 0 (l.flatMap f) = true := by
  induction l with
  | nil => rfl
  | cons a l ih =>
    obtain ⟨ha, hl⟩ := List.forall_mem_cons.mp h
    rw [List.flatMap_cons]
    exact balanced_append ha (ih hl)

theorem balanced_lexemes (words : List PlacedWord) :
    balanced 0 (words.map PlacedWord.lexeme) = true := by
  induction words with
  | nil => rfl
  | cons w words ih => exact ih

namespace Written

theorem Name.balanced_tokens (n : Name) : balanced 0 n.tokens = true := by
  have hfirst : balanced 0 [n.first.lexeme] = true := rfl
  exact balanced_append hfirst (balanced_flatMap fun _ _ => rfl)

theorem Alias.balanced_tokens (a : Alias) : balanced 0 a.tokens = true := by
  cases a <;> rfl

theorem Relation.balanced_tokens (r : Relation) : balanced 0 r.tokens = true := by
  cases r with
  | table name => exact name.balanced_tokens
  | query opening body close hstart hbalanced => exact balanced_parens hbalanced

theorem Source.balanced_tokens (s : Source) : balanced 0 s.tokens = true := by
  cases s with
  | relation r => exact r.balanced_tokens
  | call name opening arguments close hbalanced =>
    exact balanced_append name.balanced_tokens (balanced_parens hbalanced)
  | group opening body close hstart hbalanced => exact balanced_parens hbalanced

theorem Condition.balanced_tokens (c : Condition) : balanced 0 c.tokens = true := by
  cases c with
  | none => rfl
  | on mark body _ hbalanced _ => exact hbalanced
  | columns mark opening group close _ hbalanced =>
    have hgroup := @balanced_parens opening close group hbalanced
    exact hgroup

theorem Separator.balanced_tokens (s : Separator) : balanced 0 s.tokens = true := by
  cases s with
  | comma place => rfl
  | join words last _ _ =>
    have hlast : balanced 0 [last.lexeme] = true := rfl
    exact balanced_append (balanced_lexemes words) hlast

theorem Operand.balanced_tokens (o : Operand) : balanced 0 o.tokens = true := by
  have hlateral : balanced 0 (o.lateral.map PlacedWord.lexeme).toList = true := by
    cases o.lateral <;> rfl
  exact balanced_append (balanced_append (balanced_append hlateral o.source.balanced_tokens)
    o.aliased.balanced_tokens) o.condition.balanced_tokens

theorem Chain.balanced_tokens (c : Chain) : balanced 0 c.tokens = true :=
  balanced_append c.first.balanced_tokens
    (balanced_flatMap fun (s, o) _ => balanced_append s.balanced_tokens o.balanced_tokens)

theorem Name.startsQuery_tokens (n : Name) (rest : List Lexeme) :
    startsQuery (n.tokens ++ rest) = false := by
  by_contra hquery
  have hone : n.first.word.isOneOf ["SELECT", "WITH"] = true := by
    simpa [tokens, startsQuery] using hquery
  have hname := n.first.isName_eq_false hone (by decide)
  rw [n.isName_first] at hname
  cases hname

theorem Source.startsQuery_tokens (s : Source) (rest : List Lexeme) :
    startsQuery (s.tokens ++ rest) = false := by
  cases s with
  | relation r =>
    cases r with
    | table name => exact name.startsQuery_tokens rest
    | query => rfl
  | call name =>
    rw [tokens, List.append_assoc]
    exact name.startsQuery_tokens _
  | group => rfl

theorem Operand.startsQuery_tokens (o : Operand) (rest : List Lexeme) :
    startsQuery (o.tokens ++ rest) = false := by
  have htokens : o.tokens ++ rest = (o.lateral.map PlacedWord.lexeme).toList ++
      (o.source.tokens ++ (o.aliased.tokens ++ (o.condition.tokens ++ rest))) := by
    simp [tokens]
  rw [htokens]
  cases hlateral : o.lateral with
  | none => exact o.source.startsQuery_tokens _
  | some w =>
    have hw := o.lateral_keyword w (by rw [hlateral]; rfl)
    simp [startsQuery, Word.isOneOf, hw]

/-- A clause starts with a table, with `LATERAL` or with a parenthesis, and not with a query. -/
theorem Chain.startsQuery_tokens (c : Chain) : startsQuery c.tokens = false :=
  c.first.startsQuery_tokens _

/-- A clause in parentheses. -/
def Chain.group (c : Chain) (opening close : Range) : Source :=
  .group opening c.tokens close c.startsQuery_tokens c.balanced_tokens

end Written

/-! ## Whose condition it is -/

section

variable (parse : String → Except ParseFailure Statement) (chars : List Char)

theorem toList_append_eq_iff {a b : Option FromEntry} (h : a.isSome = b.isSome)
    {as bs : List FromEntry} : a.toList ++ as = b.toList ++ bs ↔ a = b ∧ as = bs := by
  cases a <;> cases b <;> simp_all

/-- Only the entry of a table tells whether there is a condition. -/
theorem standsFor?_eq_iff (s : Written.Source) (join : Option String) (name? : Option PlacedWord)
    (b c : Bool) :
    s.standsFor? parse chars join name? b = s.standsFor? parse chars join name? c ↔
      (s.isTable = true → b = c) := by
  cases s with
  | relation r =>
    cases r with
    | table name => simp [Written.Source.standsFor?, Written.Relation.entry, Written.Source.isTable]
    | query => simp [Written.Source.standsFor?, Written.Relation.entry, Written.Source.isTable]
  | call => simp [Written.Source.standsFor?, Written.Source.isTable]
  | group => simp [Written.Source.standsFor?, Written.Source.isTable]

theorem isSome_standsFor? (s : Written.Source) (join : Option String) (name? : Option PlacedWord)
    (b : Bool) : (s.standsFor? parse chars join name? b).isSome = !s.isGroup := by
  cases s <;> rfl

/-- **Every table is marked by its own condition** exactly if none without a condition stands right
before groups of which one has a condition. -/
theorem entriesOf_eq_ownEntriesOf_iff (operands : List (Option String × Written.Operand)) :
    Written.entriesOf parse chars operands = Written.ownEntriesOf parse chars operands ↔
      ∀ front join o later, operands = front ++ (join, o) :: later → o.source.isTable = true →
        Written.groupConstrained later = true → o.condition.isSome = true := by
  induction operands with
  | nil => simp [Written.entriesOf, Written.ownEntriesOf]
  | cons operand operands ih =>
    obtain ⟨join, o⟩ := operand
    have hown : Written.ownEntriesOf parse chars ((join, o) :: operands) =
        (o.source.standsFor? parse chars join o.aliased.name? o.condition.isSome).toList ++
          Written.ownEntriesOf parse chars operands := List.flatMap_cons
    rw [Written.entriesOf, hown,
      toList_append_eq_iff (by rw [isSome_standsFor?, isSome_standsFor?]), standsFor?_eq_iff, ih]
    -- A table of the clause is the first operand or one of the others.
    constructor
    · rintro ⟨hfirst, hothers⟩ front join' o' later hsplit htable hgroup
      cases front with
      | nil =>
        cases hsplit
        simpa [hgroup] using hfirst htable
      | cons first front =>
        obtain ⟨-, hsplit⟩ := List.cons.inj hsplit
        exact hothers front join' o' later hsplit htable hgroup
    · intro h
      refine ⟨fun htable => ?_, fun front join' o' later hsplit => ?_⟩
      · cases hgroup : Written.groupConstrained operands with
        | false => exact Bool.or_false _
        | true => rw [h [] join o operands rfl htable hgroup, Bool.true_or]
      · exact h ((join, o) :: front) join' o' later (by rw [hsplit, List.cons_append])

end

/-- **The entries of a clause with groups**, whatever stands in its groups. Before the clause may
stand anything in which parentheses match and no other `FROM` stands outside them, and after it
anything that ends a clause. A table is marked if it has a condition, and also if a group right
behind it has one. So every table is marked by its own condition, as long as none without a
condition stands right before groups of which one has a condition. -/
theorem scan_chain (parse : String → Except ParseFailure Statement) (text : String)
    (before : List Lexeme) (opening : Lexeme) (c : Written.Chain) (rest : List Lexeme)
    (hbalanced : balanced 0 before = true)
    (hfirst : ∀ t ∈ outside 0 before, isKeyword t.token "FROM" = false)
    (hopening : isKeyword opening.token "FROM" = true) (hrest : EndsClause rest) :
    scan parse text (before ++ opening :: (c.tokens ++ rest)) =
        Written.entriesOf parse text.toList c.operands ∧
      (scan parse text (before ++ opening :: (c.tokens ++ rest)) =
          Written.ownEntriesOf parse text.toList c.operands ↔
        ∀ front join o later, c.operands = front ++ (join, o) :: later → o.source.isTable = true →
          Written.groupConstrained later = true → o.condition.isSome = true) := by
  have hscan : scan parse text (before ++ opening :: (c.tokens ++ rest)) =
      Written.entriesOf parse text.toList c.operands := by
    have hfrom : afterFrom? 0 (before ++ opening :: (c.tokens ++ rest)) =
        some (c.tokens ++ rest) := by
      rw [afterFrom?_append_of_eq_none hbalanced (afterFrom?_eq_none_of_outside hfirst), afterFrom?]
      simp [hopening]
    obtain ⟨last, -, hentries⟩ := exists_scan_eq hfrom parse text
    have hclause := scanEntries_operands ⟨text.toList, last, parse⟩ none [] c.first c.links hrest
    have hnone (b : Bool) : markWhen b [] = [] := by cases b <;> rfl
    rw [hnone, List.append_nil, ← List.append_assoc] at hclause
    rw [hentries, Written.Chain.tokens, hclause, List.reverse_reverse, Written.Chain.operands]
  exact ⟨hscan, by rw [hscan, entriesOf_eq_ownEntriesOf_iff]⟩

/-- A table that is not joined, before a group in a group: the conditions in the parentheses mark
nothing, and the one behind them marks the table. -/
theorem scan_chain_nested :
    let text := "SELECT 1 FROM a JOIN (b JOIN (c CROSS JOIN d) ON x) g ON y, e WHERE z"
    ∃ tokens, lex .generic text = .ok tokens ∧
      scan (parse .generic) text (significant tokens) =
        [.table ⟨none, "a", none, none, true, ⟨⟨14, 1, 15⟩, ⟨15, 1, 16⟩⟩⟩,
          .table ⟨none, "e", none, none, false, ⟨⟨60, 1, 61⟩, ⟨61, 1, 62⟩⟩⟩] := by
  intro text
  let span (first last : Nat) : Range := ⟨⟨first, 1, first + 1⟩, ⟨last, 1, last + 1⟩⟩
  let word (value : String) (first last : Nat) : PlacedWord :=
    ⟨{ value, keyword := Keyword.ofWord? value.toList }, span first last, fun _ => rfl⟩
  let before : List Lexeme := [(word "SELECT" 0 6).lexeme, ⟨.number "1" false, span 7 8⟩]
  let table (w : PlacedWord) (h : isName w.word = true) : Written.Source :=
    .relation (.table ⟨w, [], h⟩)
  let inner : Written.Chain :=
    ⟨{ source := table (word "c" 30 31) (by decide +kernel) },
      [(.join [word "CROSS" 32 37] (word "JOIN" 38 42) (by decide +kernel) (by decide +kernel),
        { source := table (word "d" 43 44) (by decide +kernel) })]⟩
  let outer : Written.Chain :=
    ⟨{ source := table (word "b" 22 23) (by decide +kernel) },
      [(.join [] (word "JOIN" 24 28) (by decide) (by decide +kernel),
        { source := inner.group (span 29 30) (span 44 45)
          condition := .on (word "ON" 46 48) [(word "x" 49 50).lexeme] (by decide +kernel) rfl
            (by decide +kernel) })]⟩
  let clause : Written.Chain :=
    ⟨{ source := table (word "a" 14 15) (by decide +kernel) },
      [(.join [] (word "JOIN" 16 20) (by decide) (by decide +kernel),
        { source := outer.group (span 21 22) (span 50 51)
          aliased := .implicit (word "g" 52 53) (by decide +kernel) (by decide +kernel)
          condition := .on (word "ON" 54 56) [(word "y" 57 58).lexeme] (by decide +kernel) rfl
            (by decide +kernel) }),
      (.comma (span 58 59), { source := table (word "e" 60 61) (by decide +kernel) })]⟩
  have hlex : (lex .generic text).toOption.map significant =
      some (before ++ (word "FROM" 9 13).lexeme :: (clause.tokens ++
        [(word "WHERE" 62 67).lexeme, (word "z" 68 69).lexeme])) := by
    decide +kernel
  cases htokens : lex .generic text with
  | error e =>
    rw [htokens] at hlex
    cases hlex
  | ok tokens =>
    rw [htokens] at hlex
    refine ⟨tokens, rfl, ?_⟩
    rw [Option.some.inj hlex, (scan_chain (parse .generic) text before (word "FROM" 9 13).lexeme
      clause _ (by decide +kernel) (by decide +kernel) (by decide +kernel)
      (.keyword (word "WHERE" 62 67) (by decide +kernel) _)).1]
    rfl

end SqlCompletion.Sql.FromClause
