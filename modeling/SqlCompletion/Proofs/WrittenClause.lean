import SqlCompletion.Proofs.ScanExtent
import SqlCompletion.Sql.Parser

/-!
# Clauses that are written out

The form of a whole FROM clause (`Written.Clause`), with its tokens and the entries that it stands
for: tables and subqueries with their aliases, commas and join operators between them, conditions
after them. Every part is scanned for what it is, whatever follows it in the form:

* `scanAlias_tokens`, `scanName_tokens`, `scanFactor_tokens`: a table or subquery and its alias.
* `afterFactor_condition`, `afterFactor_separator`: what follows it.
* `scanEntries_tokens`: from there, by induction on the clause, all entries.
-/

namespace SqlCompletion.Sql.FromClause

/-! ## Parentheses -/

/-- The tokens outside parentheses, where `depth` parentheses are open. -/
def outside (depth : Nat) : List Lexeme → List Lexeme
  | [] => []
  | t :: rest =>
    if depth = 0 then t :: outside (depthAfter t.token depth) rest
    else outside (depthAfter t.token depth) rest

theorem outside_zero_cons (t : Lexeme) (rest : List Lexeme) :
    outside 0 (t :: rest) = t :: outside (depthAfter t.token 0) rest := by
  rw [outside, if_pos rfl]

theorem outside_succ_cons (depth : Nat) (t : Lexeme) (rest : List Lexeme) :
    outside (depth + 1) (t :: rest) = outside (depthAfter t.token (depth + 1)) rest := by
  rw [outside, if_neg (Nat.succ_ne_zero depth)]

/-- The first `FROM` is looked for outside parentheses. -/
theorem afterFrom?_eq_none_of_outside {depth : Nat} {tokens : List Lexeme}
    (h : ∀ t ∈ outside depth tokens, isKeyword t.token "FROM" = false) :
    afterFrom? depth tokens = none := by
  induction tokens generalizing depth with
  | nil => rfl
  | cons t tokens ih =>
    rw [afterFrom?]
    cases depth with
    | zero =>
      rw [outside_zero_cons, List.forall_mem_cons] at h
      rw [h.1, Bool.and_false, if_neg Bool.false_ne_true]
      exact ih h.2
    | succ depth =>
      rw [outside_succ_cons] at h
      exact ih h

/-- Where parentheses match, the first token outside them that has a property comes after tokens of
which none has it there. -/
theorem exists_first_outside {p : Token → Bool} {depth : Nat} {tokens : List Lexeme}
    (hbalanced : balanced depth tokens = true)
    (h : ∃ t ∈ outside depth tokens, p t.token = true) :
    ∃ before t rest, tokens = before ++ t :: rest ∧ p t.token = true ∧
      balanced depth before = true ∧ ∀ u ∈ outside depth before, p u.token = false := by
  induction tokens generalizing depth with
  | nil =>
    obtain ⟨t, ht, -⟩ := h
    cases ht
  | cons t tokens ih =>
    obtain ⟨hclose, hrest⟩ := balanced_cons hbalanced
    cases depth with
    | zero =>
      rw [outside_zero_cons] at h
      cases ht : p t.token with
      | true => exact ⟨[], t, tokens, rfl, ht, rfl, nofun⟩
      | false =>
        have hlater : ∃ u ∈ outside (depthAfter t.token 0) tokens, p u.token = true := by
          obtain ⟨u, hu, hpu⟩ := h
          rcases List.mem_cons.mp hu with rfl | hu
          · rw [ht] at hpu
            cases hpu
          · exact ⟨u, hu, hpu⟩
        obtain ⟨before, u, rest, rfl, hu, hbefore, hnone⟩ := ih hrest hlater
        refine ⟨t :: before, u, rest, rfl, hu, balanced_cons_iff.mpr ⟨hclose, hbefore⟩, ?_⟩
        rw [outside_zero_cons]
        exact List.forall_mem_cons.mpr ⟨ht, hnone⟩
    | succ depth =>
      rw [outside_succ_cons] at h
      obtain ⟨before, u, rest, rfl, hu, hbefore, hnone⟩ := ih hrest h
      refine ⟨t :: before, u, rest, rfl, hu, balanced_cons_iff.mpr ⟨hclose, hbefore⟩, ?_⟩
      rwa [outside_succ_cons]

/-- Where parentheses match, none of them closes outside. -/
theorem ne_rightParen_of_outside {depth : Nat} {tokens : List Lexeme}
    (h : balanced depth tokens = true) : ∀ t ∈ outside depth tokens, t.token ≠ .symbol .rightParen := by
  induction tokens generalizing depth with
  | nil => nofun
  | cons t tokens ih =>
    obtain ⟨hclose, hrest⟩ := balanced_cons h
    cases depth with
    | zero =>
      rw [outside_zero_cons]
      exact List.forall_mem_cons.mpr ⟨hclose rfl, ih hrest⟩
    | succ depth =>
      rw [outside_succ_cons]
      exact ih hrest

/-- Tokens of which none ends a condition outside parentheses are passed over. -/
theorem afterCondition_append_of_outside {depth : Nat} {tokens : List Lexeme}
    (hbalanced : balanced depth tokens = true)
    (h : ∀ t ∈ outside depth tokens, endsCondition t.token = false) (rest : List Lexeme) :
    afterCondition depth (tokens ++ rest) = afterCondition 0 rest := by
  induction tokens generalizing depth with
  | nil => rw [beq_iff_eq.mp hbalanced, List.nil_append]
  | cons t tokens ih =>
    obtain ⟨-, hrest⟩ := balanced_cons hbalanced
    rw [List.cons_append, afterCondition]
    cases depth with
    | zero =>
      rw [outside_zero_cons, List.forall_mem_cons] at h
      rw [h.1, Bool.and_false, if_neg Bool.false_ne_true]
      exact ih hrest h.2
    | succ depth =>
      rw [outside_succ_cons] at h
      exact ih hrest h

/-- A condition ends where the next token ends it. -/
theorem afterCondition_of_nextIs {rest : List Lexeme}
    (h : NextIs (endsCondition · = true) rest) : afterCondition 0 rest = rest := by
  cases rest with
  | nil => rfl
  | cons t rest => simp [afterCondition, nextIs_cons.mp h]

/-! ## What a clause is made of -/

/-- A word with its place. Only an unquoted word is a keyword. -/
structure PlacedWord where
  word : Word
  range : Range
  quote_eq_none : word.keyword.isSome → word.quote = none := by decide

/-- The word as a token of a text. -/
def PlacedWord.lexeme (w : PlacedWord) : Lexeme := ⟨.word w.word, w.range⟩

@[simp] theorem PlacedWord.token_lexeme (w : PlacedWord) : w.lexeme.token = .word w.word := rfl

/-- A keyword with a meaning in a FROM clause is no name. -/
theorem PlacedWord.isName_eq_false {w : PlacedWord} {keywords : List String}
    (h : w.word.isOneOf keywords = true)
    (hsub : keywords ⊆ Keyword.reservedTableAliases ++ clauseEnds ++ joinWords) :
    isName w.word = false := by
  have hquote := w.quote_eq_none
  rw [Word.isOneOf] at h
  split at h
  · next k hk =>
    have hmem := hsub (List.contains_iff_mem.mp h)
    simp only [List.mem_append] at hmem
    rw [isName, hquote (by rw [hk]; rfl)]
    simp only [Word.isOneOf, hk, Option.isSome_none, Bool.false_or, Bool.not_eq_false',
      Bool.or_eq_true, List.contains_iff_mem]
    exact hmem
  · cases h

/-- A name is no keyword with a meaning in a FROM clause. -/
theorem PlacedWord.isKeyword_eq_false {w : PlacedWord} {k : String} (h : isName w.word = true)
    (hk : k ∈ Keyword.reservedTableAliases ++ clauseEnds ++ joinWords) :
    isKeyword w.lexeme.token k = false := by
  by_contra hkey
  have hkeyword : w.word.keyword = some k := by
    simpa [isKeyword, Token.keyword?, Token.word?] using hkey
  have hone : w.word.isOneOf [k] = true := by simp [Word.isOneOf, hkeyword]
  rw [isName_eq_false hone (by simpa using hk)] at h
  cases h

namespace Written

/-- A name of a table: a word that is a name, and further words, each with the place of the dot
before it. -/
structure Name where
  first : PlacedWord
  more : List (Range × PlacedWord)
  isName_first : isName first.word = true

namespace Name

/-- The words of a name. -/
def words (n : Name) : List PlacedWord := n.first :: n.more.map (·.2)

/-- The last word of a name. -/
def last (n : Name) : PlacedWord := n.words.getLast (List.cons_ne_nil _ _)

/-- The tokens of a name. -/
def tokens (n : Name) : List Lexeme :=
  n.first.lexeme :: n.more.flatMap fun (dot, w) => [⟨.symbol .period, dot⟩, w.lexeme]

/-- The parts of a name before the last one, as they are written. -/
def database (n : Name) : Option String :=
  match n.words.dropLast with
  | [] => none
  | outer => some (".".intercalate (outer.map (·.word.value)))

end Name

/-- The alias of a table: none, any word after `AS`, or a name other than the word `AS`. -/
inductive Alias where
  | none
  | explicit (mark name : PlacedWord) (hmark : mark.word.keyword = some "AS")
  | implicit (name : PlacedWord) (hname : isName name.word = true)
      (hmark : name.word.keyword ≠ some "AS")

namespace Alias

/-- The tokens of an alias. -/
def tokens : Alias → List Lexeme
  | none => []
  | explicit mark name _ => [mark.lexeme, name.lexeme]
  | implicit name _ _ => [name.lexeme]

/-- The word that is the alias. -/
def name? : Alias → Option PlacedWord
  | none => Option.none
  | explicit _ name _ => some name
  | implicit name _ _ => some name

end Alias

/-- A table by its name, or a query in parentheses. -/
inductive Relation where
  | table (name : Name)
  | query (opening : Range) (body : List Lexeme) (close : Range)
      (hstart : startsQuery body = true) (hbalanced : balanced 0 body = true)

/-- The tokens of a table or query. -/
def Relation.tokens : Relation → List Lexeme
  | table name => name.tokens
  | query opening body close _ _ =>
    ⟨.symbol .leftParen, opening⟩ :: (body ++ [⟨.symbol .rightParen, close⟩])

/-- The token may stand in the condition of a join, outside parentheses. -/
def IsPlain (t : Token) : Prop :=
  t ≠ .symbol .comma ∧ t ≠ .symbol .semicolon ∧ isOneOf t joinWords = false ∧
    isOneOf t clauseEnds = false

instance (t : Token) : Decidable (IsPlain t) := inferInstanceAs (Decidable (_ ∧ _ ∧ _ ∧ _))

/-- What a table is joined on. -/
inductive Condition where
  | none
  | on (mark : PlacedWord) (body : List Lexeme) (hmark : mark.word.keyword = some "ON")
      (hbalanced : balanced 0 body = true) (hplain : ∀ t ∈ outside 0 body, IsPlain t.token)
  | columns (mark : PlacedWord) (opening : Range) (group : List Lexeme) (close : Range)
      (hmark : mark.word.keyword = some "USING") (hbalanced : balanced 0 group = true)

namespace Condition

/-- The tokens of a condition. -/
def tokens : Condition → List Lexeme
  | none => []
  | on mark body _ _ _ => mark.lexeme :: body
  | columns mark opening group close _ _ =>
    mark.lexeme :: ⟨.symbol .leftParen, opening⟩ :: (group ++ [⟨.symbol .rightParen, close⟩])

/-- There is a condition. -/
def isSome : Condition → Bool
  | none => false
  | on .. => true
  | columns .. => true

end Condition

/-- A table or query with its alias and its condition. -/
structure Item where
  relation : Relation
  aliased : Alias
  condition : Condition

/-- What stands between two tables: a comma, or the words of a join operator, of which `JOIN` is the
last one and no other. -/
inductive Separator where
  | comma (place : Range)
  | join (words : List PlacedWord) (last : PlacedWord)
      (hwords : ∀ w ∈ words, w.word.isOneOf joinWords = true ∧ w.word.keyword ≠ some "JOIN")
      (hlast : last.word.keyword = some "JOIN")

namespace Separator

/-- The tokens of a separator. -/
def tokens : Separator → List Lexeme
  | comma place => [⟨.symbol .comma, place⟩]
  | join words last _ _ => words.map PlacedWord.lexeme ++ [last.lexeme]

/-- The join operator in capitals. -/
def label : Separator → Option String
  | comma _ => Option.none
  | join words _ _ _ => some (" ".intercalate (words.filterMap (·.word.keyword) ++ ["JOIN"]))

end Separator

/-- The tokens of a table with its alias and its condition. -/
def Item.tokens (i : Item) : List Lexeme :=
  i.relation.tokens ++ i.aliased.tokens ++ i.condition.tokens

/-- A FROM clause after its keyword: a table, and further ones with what stands before them. -/
structure Clause where
  first : Item
  links : List (Separator × Item)

/-- The tokens of a clause. -/
def Clause.tokens (c : Clause) : List Lexeme :=
  c.first.tokens ++ c.links.flatMap fun (s, i) => s.tokens ++ i.tokens

section

variable (parse : String → Except ParseFailure Statement) (chars : List Char)

/-- The entry that a table or query with the given alias stands for, in a document of the given
characters. -/
def Relation.entry (join : Option String) (name? : Option PlacedWord) (hasOn : Bool) :
    Relation → FromEntry
  | .table name =>
    .table {
      database := name.database
      table := name.last.word.value
      aliasName := name?.map (·.word.value)
      join
      hasOn
      location := ⟨name.first.range.start, (name?.getD name.last).range.stop⟩ }
  | .query opening _ close _ _ =>
    let text := String.ofList (Text.slice chars opening.stop.offset close.start.offset)
    match parse text with
    | .ok statement =>
      .subquery statement ((name?.map (·.word.value)).getD "")
        ⟨opening.start, ((name?.map (·.range)).getD close).stop⟩
    | .error _ => .incomplete text ⟨opening.stop, close.start⟩

/-- The entry that a table with its alias and its condition stands for. -/
def Item.entry (join : Option String) (i : Item) : FromEntry :=
  i.relation.entry parse chars join i.aliased.name? i.condition.isSome

/-- The entries that a clause stands for, in the order in which they are written. -/
def Clause.entries (c : Clause) : List FromEntry :=
  c.first.entry parse chars none :: c.links.map fun (s, i) => i.entry parse chars s.label

end

end Written

/-- The clause ends here: with the text, with a keyword of the next clause, with a semicolon or with
a parenthesis that was opened before it. -/
inductive EndsClause : List Lexeme → Prop where
  | nil : EndsClause []
  | keyword (w : PlacedWord) (h : w.word.isOneOf clauseEnds = true) (rest : List Lexeme) :
      EndsClause (w.lexeme :: rest)
  | semicolon (place : Range) (rest : List Lexeme) : EndsClause (⟨.symbol .semicolon, place⟩ :: rest)
  | paren (place : Range) (rest : List Lexeme) : EndsClause (⟨.symbol .rightParen, place⟩ :: rest)

/-! ## What may follow -/

/-- The token is neither in a table nor in a condition. -/
def Separates (t : Token) : Prop := endsTable t = true ∧ endsCondition t = true

/-- A keyword that joins tables or ends a clause separates what is before it from what is after. -/
theorem separates_of_isOneOf {w : PlacedWord}
    (h : w.word.isOneOf joinWords = true ∨ w.word.isOneOf clauseEnds = true) :
    Separates w.lexeme.token := by
  have hname : isName w.word = false := by
    rcases h with h | h
    · exact w.isName_eq_false h (by simp)
    · exact w.isName_eq_false h (by simp)
  have has : w.word.keyword ≠ some "AS" := by
    intro has
    simp only [Word.isOneOf, has] at h
    revert h
    decide
  refine ⟨?_, ?_⟩
  · simp [endsTable, hname, has]
  · simpa [endsCondition] using h

theorem EndsClause.nextIs {rest : List Lexeme} (h : EndsClause rest) :
    NextIs (isClauseEnd · = true) rest := by
  cases h with
  | nil => exact .nil _
  | keyword w hw rest =>
    obtain ⟨k, hk, hkeyword⟩ := Word.isOneOf_iff.mp hw
    have hquote := w.quote_eq_none (by rw [hkeyword]; rfl)
    exact nextIs_cons.mpr (isClauseEnd_iff.mpr (.inr (.inr ⟨w.word, k, rfl, hquote, hk, hkeyword⟩)))
  | semicolon place rest => exact nextIs_cons.mpr rfl
  | paren place rest => exact nextIs_cons.mpr rfl

theorem EndsClause.separates {rest : List Lexeme} (h : EndsClause rest) : NextIs Separates rest :=
  h.nextIs.imp fun _ ht => ⟨endsTable_of_isClauseEnd ht, endsCondition_of_isClauseEnd ht⟩

theorem Written.Separator.separates (s : Written.Separator) (rest : List Lexeme) :
    NextIs Separates (s.tokens ++ rest) := by
  cases s with
  | comma place => exact nextIs_cons.mpr ⟨rfl, rfl⟩
  | join words last hwords hlast =>
    cases words with
    | nil => exact nextIs_cons.mpr (separates_of_isOneOf (.inl (by simp [Word.isOneOf, hlast, joinWords])))
    | cons w words => exact nextIs_cons.mpr (separates_of_isOneOf (.inl (hwords w (by simp)).1))

/-- What follows a table does not go on with it, be it a condition or not. -/
theorem Written.Condition.endsTable (c : Written.Condition) {rest : List Lexeme}
    (h : NextIs Separates rest) :
    NextIs (fun t => FromClause.endsTable t = true) (c.tokens ++ rest) := by
  have hkeyword {w : PlacedWord} {k : String} (hw : w.word.keyword = some k)
      (hk : k ∈ Keyword.reservedTableAliases) (hne : k ≠ "AS") :
      FromClause.endsTable w.lexeme.token = true := by
    have hone : w.word.isOneOf [k] = true := by simp [Word.isOneOf, hw]
    have hname := w.isName_eq_false hone (by simp [hk])
    simp [FromClause.endsTable, hname, hw, hne]
  cases c with
  | none => exact h.imp fun t ht => ht.1
  | on mark body hmark _ _ =>
    exact nextIs_cons.mpr (hkeyword hmark (by decide) (by decide))
  | columns mark opening group close hmark _ =>
    exact nextIs_cons.mpr (hkeyword hmark (by decide) (by decide))

/-! ## Tables -/

/-- An alias is scanned to its end. -/
theorem scanAlias_tokens (a : Written.Alias) {rest : List Lexeme}
    (h : NextIs (fun t => endsTable t = true) rest) :
    scanAlias (a.tokens ++ rest) = (a.name?.map fun w => (w.word.value, w.lexeme), rest) := by
  cases a with
  | none => exact scanAlias_of_endsTable h
  | explicit mark name hmark =>
    simp [Written.Alias.tokens, Written.Alias.name?, scanAlias, isKeyword, Token.keyword?,
      Token.word?, hmark]
  | implicit name hname hmark =>
    simp [Written.Alias.tokens, Written.Alias.name?, scanAlias, isKeyword, Token.keyword?,
      Token.word?, hmark, hname]

/-- What follows the name of a table is neither a further part of it nor arguments. -/
theorem Written.Alias.nextIs (a : Written.Alias) {rest : List Lexeme}
    (h : NextIs (fun t => FromClause.endsTable t = true) rest) :
    NextIs (fun t => t ≠ .symbol .period ∧ t ≠ .symbol .leftParen) (a.tokens ++ rest) := by
  cases a with
  | none =>
    refine h.imp fun t ht => ⟨?_, ?_⟩
    · rintro rfl
      cases ht
    · rintro rfl
      cases ht
  | explicit mark name hmark => exact nextIs_cons.mpr ⟨nofun, nofun⟩
  | implicit name hname hmark => exact nextIs_cons.mpr ⟨nofun, nofun⟩

theorem scanName_words (first : PlacedWord) (more : List (Range × PlacedWord))
    (parts : List String) (before : Lexeme) {rest : List Lexeme}
    (h : NextIs (· ≠ .symbol .period) rest) :
    scanName parts before
        (first.lexeme ::
          (more.flatMap fun (dot, w) => [⟨.symbol .period, dot⟩, w.lexeme]) ++ rest) =
      (((first :: more.map (·.2)).map (·.word.value)).reverse ++ parts,
        ((first :: more.map (·.2)).getLast (List.cons_ne_nil _ _)).lexeme, rest) := by
  induction more generalizing first parts before with
  | nil =>
    cases rest with
    | nil => simp [scanName]
    | cons t rest =>
      have ht : t.token ≠ .symbol .period := nextIs_cons.mp h
      simp [scanName, ht]
  | cons link more ih =>
    obtain ⟨dot, w⟩ := link
    have hrest := ih w (first.word.value :: parts) ⟨.symbol .period, dot⟩
    simp only [List.cons_append] at hrest
    simp [scanName, hrest]

/-- A name is scanned to its end. -/
theorem scanName_tokens (n : Written.Name) (before : Lexeme) {rest : List Lexeme}
    (h : NextIs (· ≠ .symbol .period) rest) :
    scanName [] before (n.tokens ++ rest) =
      ((n.words.map (·.word.value)).reverse, n.last.lexeme, rest) := by
  have hwords := scanName_words n.first n.more [] before h
  rwa [List.append_nil] at hwords

theorem scanArguments_of_ne (doc : Document) (last : Lexeme) {rest : List Lexeme}
    (h : NextIs (· ≠ .symbol .leftParen) rest) : scanArguments doc last rest = (last, rest) := by
  cases rest with
  | nil => rfl
  | cons t rest =>
    have ht : t.token ≠ .symbol .leftParen := nextIs_cons.mp h
    simp [scanArguments, ht]

/-- Read backwards, a name has its last part first, and then those of its database. -/
theorem Written.Name.reverse_words (n : Written.Name) :
    (n.words.map (·.word.value)).reverse =
      n.last.word.value :: (n.words.dropLast.map (·.word.value)).reverse := by
  have hwords : n.words.dropLast ++ [n.last] = n.words := List.dropLast_concat_getLast _
  conv => lhs; rw [← hwords]
  rw [List.map_append, List.reverse_append]
  rfl

/-- A table is scanned by its name, what follows the name up to its last token, and its alias. -/
theorem scanTable_name (doc : Document) (join : Option String) (name : Written.Name)
    (a : Written.Alias) {afterName rest : List Lexeme} {last : Lexeme}
    (hname : NextIs (· ≠ .symbol .period) afterName)
    (harguments : scanArguments doc name.last.lexeme afterName = (last, a.tokens ++ rest))
    (h : NextIs (fun t => endsTable t = true) rest) :
    scanTable doc join name.first.lexeme (name.tokens ++ afterName) =
      ⟨some (.table {
        database := name.database
        table := name.last.word.value
        aliasName := a.name?.map (·.word.value)
        join
        hasOn := false
        location := ⟨name.first.range.start, ((a.name?.map (·.range)).getD last.range).stop⟩ }),
      rest, true⟩ := by
  rw [scanTable, scanName_tokens name name.first.lexeme hname, name.reverse_words]
  simp only [harguments, scanAlias_tokens a h, Written.Name.database]
  cases name.words.dropLast with
  | nil => cases a.name? <;> rfl
  | cons w outer =>
    cases hparts : ((w :: outer).map (·.word.value)).reverse with
    | nil => cases List.map_eq_nil_iff.mp (List.reverse_eq_nil_iff.mp hparts)
    | cons part parts =>
      have houter := congrArg List.reverse hparts
      rw [List.reverse_reverse] at houter
      simp only [List.tail_cons, houter]
      cases a.name? <;> rfl

theorem scanTable_tokens (doc : Document) (join : Option String) (name : Written.Name)
    (a : Written.Alias) {rest : List Lexeme} (h : NextIs (fun t => endsTable t = true) rest) :
    scanTable doc join name.first.lexeme (name.tokens ++ (a.tokens ++ rest)) =
      ⟨some ((Written.Relation.table name).entry doc.parse doc.chars join a.name? false), rest,
        true⟩ := by
  have hnext := a.nextIs h
  rw [scanTable_name doc join name a (hnext.imp fun t ht => ht.1)
    (scanArguments_of_ne doc name.last.lexeme (hnext.imp fun t ht => ht.2)) h, Written.Relation.entry]
  cases a.name? <;> rfl

theorem scanSubquery_tokens (doc : Document) (join : Option String) {opening close : Range}
    {body : List Lexeme} (hstart : startsQuery body = true) (hbalanced : balanced 0 body = true)
    (a : Written.Alias) {rest : List Lexeme} (h : NextIs (fun t => endsTable t = true) rest) :
    scanSubquery doc ⟨.symbol .leftParen, opening⟩
        (body ++ ⟨.symbol .rightParen, close⟩ :: (a.tokens ++ rest)) =
      ⟨some ((Written.Relation.query opening body close hstart hbalanced).entry doc.parse doc.chars
        join a.name? false), rest, true⟩ := by
  simp only [scanSubquery, groupEnd?_closed hbalanced ⟨.symbol .rightParen, close⟩ rfl,
    scanAlias_tokens a h, Written.Relation.entry]
  cases a.name? <;> rfl

theorem skipLateral_name (name : Written.Name) (rest : List Lexeme) :
    skipLateral (name.tokens ++ rest) = name.tokens ++ rest := by
  have hlateral := PlacedWord.isKeyword_eq_false name.isName_first
    (show "LATERAL" ∈ _ by simp [Keyword.reservedTableAliases])
  rw [Written.Name.tokens, List.cons_append, skipLateral, hlateral, if_neg Bool.false_ne_true]

/-- What starts with the name of a table is scanned as a table. -/
theorem scanFactor_name (doc : Document) (join : Option String) (name : Written.Name)
    (rest : List Lexeme) :
    scanFactor doc join (name.tokens ++ rest) =
      scanTable doc join name.first.lexeme (name.tokens ++ rest) := by
  rw [scanFactor, skipLateral_name]
  simp [Written.Name.tokens, name.isName_first]

/-- **A table or a query is scanned for what it is**, whatever follows it. -/
theorem scanFactor_tokens (doc : Document) (join : Option String) (r : Written.Relation)
    (a : Written.Alias) {rest : List Lexeme} (h : NextIs (fun t => endsTable t = true) rest) :
    scanFactor doc join (r.tokens ++ (a.tokens ++ rest)) =
      ⟨some (r.entry doc.parse doc.chars join a.name? false), rest, true⟩ := by
  cases r with
  | table name =>
    rw [Written.Relation.tokens, scanFactor_name, scanTable_tokens doc join name a h]
  | query opening body close hstart hbalanced =>
    have htokens : (Written.Relation.query opening body close hstart hbalanced).tokens ++
        (a.tokens ++ rest) = ⟨.symbol .leftParen, opening⟩ ::
          (body ++ ⟨.symbol .rightParen, close⟩ :: (a.tokens ++ rest)) := by
      simp [Written.Relation.tokens]
    have hquery : startsQuery (body ++ ⟨.symbol .rightParen, close⟩ :: (a.tokens ++ rest)) = true := by
      cases body with
      | nil => cases hstart
      | cons t body => exact hstart
    rw [htokens, ← scanSubquery_tokens doc join hstart hbalanced a h]
    show scanGroup doc _ _ = _
    rw [scanGroup, if_pos hquery]

/-! ## What follows a table -/

theorem markConstrained_entry (parse : String → Except ParseFailure Statement) (chars : List Char)
    (join : Option String) (name? : Option PlacedWord) (r : Written.Relation)
    (entries : List FromEntry) :
    markConstrained (r.entry parse chars join name? false :: entries) =
      r.entry parse chars join name? true :: entries := by
  cases r with
  | table name => rfl
  | query opening body close _ _ =>
    simp only [Written.Relation.entry]
    cases parse (String.ofList (Text.slice chars opening.stop.offset close.start.offset)) <;> rfl

theorem Written.IsPlain.endsCondition_eq_false {t : Token} (h : Written.IsPlain t)
    (hclose : t ≠ .symbol .rightParen) : endsCondition t = false := by
  obtain ⟨hcomma, hsemicolon, hjoin, hend⟩ := h
  unfold endsCondition
  split
  · exact absurd rfl hclose
  · exact absurd rfl hcomma
  · exact absurd rfl hsemicolon
  · next w =>
    rw [isOneOf] at hjoin hend
    rw [hjoin, hend, Bool.false_or]
  · rfl

/-- The condition of a join is passed over to its end. -/
theorem afterCondition_body {body : List Lexeme} (hbalanced : balanced 0 body = true)
    (hplain : ∀ t ∈ outside 0 body, Written.IsPlain t.token) {rest : List Lexeme}
    (h : NextIs Separates rest) : afterCondition 0 (body ++ rest) = rest := by
  rw [afterCondition_append_of_outside hbalanced,
    afterCondition_of_nextIs (h.imp fun _ ht => ht.2)]
  exact fun t ht => (hplain t ht).endsCondition_eq_false (ne_rightParen_of_outside hbalanced t ht)

/-- A condition marks the entry before it, and is passed over. -/
theorem afterFactor_condition_tokens (c : Written.Condition) (entries : List FromEntry)
    {rest : List Lexeme} (h : NextIs Separates rest) :
    afterFactor entries (c.tokens ++ rest) =
      afterFactor (if c.isSome then markConstrained entries else entries) rest := by
  cases c with
  | none => rfl
  | on mark body hmark hbalanced hplain =>
    rw [Written.Condition.tokens, List.cons_append, afterFactor]
    simp [hmark, afterCondition_body hbalanced hplain h, Written.Condition.isSome]
  | columns mark opening group close hmark hbalanced =>
    have hgroup : afterGroup (group ++ ⟨.symbol .rightParen, close⟩ :: rest) = rest := by
      simp only [afterGroup, groupEnd?_closed hbalanced ⟨.symbol .rightParen, close⟩ rfl]
    rw [Written.Condition.tokens, List.cons_append, afterFactor]
    simp [hmark, afterUsing, hgroup, Written.Condition.isSome]

/-- The condition of a table or query marks the entry of it. -/
theorem afterFactor_condition (parse : String → Except ParseFailure Statement) (chars : List Char)
    (join : Option String) (i : Written.Item) (entries : List FromEntry) {rest : List Lexeme}
    (h : NextIs Separates rest) :
    afterFactor (i.relation.entry parse chars join i.aliased.name? false :: entries)
        (i.condition.tokens ++ rest) =
      afterFactor (i.entry parse chars join :: entries) rest := by
  rw [afterFactor_condition_tokens i.condition _ h, Written.Item.entry]
  cases i.condition.isSome with
  | false => rfl
  | true => rw [if_pos rfl, markConstrained_entry]

theorem scanJoin?_words {words : List PlacedWord} {last : PlacedWord}
    (hwords : ∀ w ∈ words, w.word.isOneOf joinWords = true ∧ w.word.keyword ≠ some "JOIN")
    (hlast : last.word.keyword = some "JOIN") (before : List String) (rest : List Lexeme) :
    scanJoin? before (words.map PlacedWord.lexeme ++ last.lexeme :: rest) =
      some (" ".intercalate (before.reverse ++ words.filterMap (·.word.keyword) ++ ["JOIN"]), rest) := by
  induction words generalizing before with
  | nil => simp [scanJoin?, Token.keyword?, Token.word?, hlast]
  | cons w words ih =>
    rw [List.forall_mem_cons] at hwords
    obtain ⟨⟨hone, hne⟩, hwords⟩ := hwords
    obtain ⟨k, hmem, hk⟩ := Word.isOneOf_iff.mp hone
    have hjoin : k ≠ "JOIN" := fun h => hne (by rw [hk, h])
    simp [scanJoin?, Token.keyword?, Token.word?, hk, hjoin, hmem, ih hwords]

theorem afterFactor_of_joinWord {entries : List FromEntry} {w : PlacedWord} {rest : List Lexeme}
    (h : w.word.isOneOf joinWords = true) :
    afterFactor entries (w.lexeme :: rest) =
      (entries, (scanJoin? [] (w.lexeme :: rest)).map fun (label, rest) => (some label, rest)) := by
  obtain ⟨k, hmem, hk⟩ := Word.isOneOf_iff.mp h
  have hon : k ≠ "ON" := fun hon => absurd (hon ▸ hmem) (by decide)
  have husing : k ≠ "USING" := fun husing => absurd (husing ▸ hmem) (by decide)
  rw [afterFactor]
  simp [hk, hon, husing, h]

/-- What stands between two tables is scanned for what it is. -/
theorem afterFactor_separator (s : Written.Separator) (entries : List FromEntry)
    (rest : List Lexeme) :
    afterFactor entries (s.tokens ++ rest) = (entries, some (s.label, rest)) := by
  cases s with
  | comma place => simp [Written.Separator.tokens, Written.Separator.label, afterFactor]
  | join words last hwords hlast =>
    have hscan := scanJoin?_words hwords hlast [] rest
    have htokens : (Written.Separator.join words last hwords hlast).tokens ++ rest =
        words.map PlacedWord.lexeme ++ last.lexeme :: rest := by
      simp [Written.Separator.tokens]
    rw [htokens, Written.Separator.label]
    cases words with
    | nil =>
      have hone : last.word.isOneOf joinWords = true :=
        Word.isOneOf_iff.mpr ⟨"JOIN", by decide, hlast⟩
      rw [List.map_nil, List.nil_append] at hscan ⊢
      rw [afterFactor_of_joinWord hone, hscan]
      rfl
    | cons w words =>
      rw [List.map_cons, List.cons_append] at hscan ⊢
      rw [afterFactor_of_joinWord (hwords w (List.mem_cons_self ..)).1, hscan]
      rfl

/-! ## The whole clause -/

/-- One table of a clause, with what follows it. -/
theorem scanEntries_item (doc : Document) (join : Option String) (entries : List FromEntry)
    (i : Written.Item) {rest : List Lexeme} (h : NextIs Separates rest) :
    scanEntries doc join entries (i.tokens ++ rest) =
      match afterFactor (i.entry doc.parse doc.chars join :: entries) rest with
      | (entries, some (join, rest)) => scanEntries doc join entries rest
      | (entries, none) => entries := by
  have htokens : i.tokens ++ rest =
      i.relation.tokens ++ (i.aliased.tokens ++ (i.condition.tokens ++ rest)) := by
    simp [Written.Item.tokens]
  rw [htokens, scanEntries_eq, scanFactor_tokens doc join i.relation i.aliased
    (i.condition.endsTable h)]
  exact congrArg
    (fun
      | (entries, some (join, rest)) => scanEntries doc join entries rest
      | (entries, none) => entries)
    (afterFactor_condition doc.parse doc.chars join i entries h)

/-- **The entries of a clause are those of its tables, in their order.** -/
theorem scanEntries_tokens (doc : Document) (join : Option String) (entries : List FromEntry)
    (first : Written.Item) (links : List (Written.Separator × Written.Item)) {rest : List Lexeme}
    (h : EndsClause rest) :
    scanEntries doc join entries
        (first.tokens ++ ((links.flatMap fun (s, i) => s.tokens ++ i.tokens) ++ rest)) =
      (links.map fun (s, i) => i.entry doc.parse doc.chars s.label).reverse ++
        first.entry doc.parse doc.chars join :: entries := by
  induction links generalizing join entries first with
  | nil =>
    rw [List.flatMap_nil, List.nil_append, scanEntries_item doc join entries first h.separates,
      afterFactor_of_isClauseEnd _ h.nextIs]
    rfl
  | cons link links ih =>
    obtain ⟨s, i⟩ := link
    have htokens : ((s, i) :: links).flatMap (fun (s, i) => s.tokens ++ i.tokens) ++ rest =
        s.tokens ++ (i.tokens ++ (links.flatMap (fun (s, i) => s.tokens ++ i.tokens) ++ rest)) := by
      simp
    rw [htokens, scanEntries_item doc join entries first (s.separates _), afterFactor_separator]
    simp only [ih, List.map_cons, List.reverse_cons, List.append_assoc, List.singleton_append]

/-- **The scan of a clause that is written out gives back its tables**, one entry for each, in the
order in which they are written. Before the clause may stand anything in which parentheses match and
no other `FROM` stands outside them, and after it anything that ends a clause. -/
theorem scan_written (parse : String → Except ParseFailure Statement) (text : String)
    (before : List Lexeme) (opening : Lexeme) (c : Written.Clause) (rest : List Lexeme)
    (hbalanced : balanced 0 before = true)
    (hfirst : ∀ t ∈ outside 0 before, isKeyword t.token "FROM" = false)
    (hopening : isKeyword opening.token "FROM" = true) (hrest : EndsClause rest) :
    scan parse text (before ++ opening :: (c.tokens ++ rest)) = c.entries parse text.toList := by
  have hfrom : afterFrom? 0 (before ++ opening :: (c.tokens ++ rest)) = some (c.tokens ++ rest) := by
    rw [afterFrom?_append_of_eq_none hbalanced (afterFrom?_eq_none_of_outside hfirst), afterFrom?]
    simp [hopening]
  cases hlast : (before ++ opening :: (c.tokens ++ rest)).getLast? with
  | none => simp at hlast
  | some last =>
    rw [scan, hfrom, hlast, Written.Clause.tokens, List.append_assoc]
    simp only [scanEntries_tokens _ none [] c.first c.links hrest, Written.Clause.entries,
      List.reverse_append, List.reverse_cons, List.reverse_nil, List.nil_append,
      List.reverse_reverse, List.singleton_append]

/-- A table with a database and an alias, joined to a query that does not parse on a condition with
parentheses, and another table after a comma. -/
theorem scan_written_joined :
    let text := "SELECT a FROM db.users AS u LEFT JOIN (SELECT e.) q ON u.a = (1), v WHERE 1"
    ∃ tokens, lex .generic text = .ok tokens ∧
      scan (parse .generic) text (significant tokens) =
        [.table ⟨some "db", "users", some "u", none, false, ⟨⟨14, 1, 15⟩, ⟨27, 1, 28⟩⟩⟩,
          .incomplete "SELECT e." ⟨⟨39, 1, 40⟩, ⟨48, 1, 49⟩⟩,
          .table ⟨none, "v", none, none, false, ⟨⟨66, 1, 67⟩, ⟨67, 1, 68⟩⟩⟩] := by
  intro text
  let span (first last : Nat) : Range := ⟨⟨first, 1, first + 1⟩, ⟨last, 1, last + 1⟩⟩
  let word (value : String) (first last : Nat) : PlacedWord :=
    ⟨{ value, keyword := Keyword.ofWord? value.toList }, span first last, fun _ => rfl⟩
  let symbol (s : Symbol) (first : Nat) : Lexeme := ⟨.symbol s, span first (first + 1)⟩
  let before : List Lexeme := [(word "SELECT" 0 6).lexeme, (word "a" 7 8).lexeme]
  let users : Written.Item :=
    ⟨.table ⟨word "db" 14 16, [(span 16 17, word "users" 17 22)], by decide +kernel⟩,
      .explicit (word "AS" 23 25) (word "u" 26 27) (by decide +kernel), .none⟩
  let body : List Lexeme := [(word "SELECT" 39 45).lexeme, (word "e" 46 47).lexeme, symbol .period 47]
  let condition : List Lexeme :=
    [(word "u" 55 56).lexeme, symbol .period 56, (word "a" 57 58).lexeme, symbol .equal 59,
      symbol .leftParen 61, ⟨.number "1" false, span 62 63⟩, symbol .rightParen 63]
  let query : Written.Item :=
    ⟨.query (span 38 39) body (span 48 49) (by decide +kernel) (by decide +kernel),
      .implicit (word "q" 50 51) (by decide +kernel) (by decide +kernel),
      .on (word "ON" 52 54) condition (by decide +kernel) (by decide +kernel) (by decide +kernel)⟩
  let v : Written.Item := ⟨.table ⟨word "v" 66 67, [], by decide +kernel⟩, .none, .none⟩
  let clause : Written.Clause :=
    ⟨users, [(.join [word "LEFT" 28 32] (word "JOIN" 33 37) (by decide +kernel) (by decide +kernel),
      query), (.comma (span 64 65), v)]⟩
  have hlex : (lex .generic text).toOption.map significant =
      some (before ++ (word "FROM" 9 13).lexeme :: (clause.tokens ++
        [(word "WHERE" 68 73).lexeme, ⟨.number "1" false, span 74 75⟩])) := by
    decide +kernel
  have hfails : (parse .generic "SELECT e.").toOption.isNone = true := by decide +kernel
  cases hparse : parse .generic "SELECT e." with
  | ok statement =>
    rw [hparse] at hfails
    cases hfails
  | error failure =>
    cases htokens : lex .generic text with
    | error e =>
      rw [htokens] at hlex
      cases hlex
    | ok tokens =>
      rw [htokens] at hlex
      refine ⟨tokens, rfl, ?_⟩
      rw [Option.some.inj hlex, scan_written (parse .generic) text before (word "FROM" 9 13).lexeme
        clause _ (by decide +kernel) (by decide +kernel) (by decide +kernel)
        (.keyword (word "WHERE" 68 73) (by decide +kernel) _)]
      have htext : String.ofList (Text.slice text.toList 39 48) = "SELECT e." := by decide +kernel
      show [_, Written.Relation.entry (parse .generic) text.toList _ _ _ query.relation, _] = _
      simp only [Written.Relation.entry, query, span, htext, hparse]
      rfl

end SqlCompletion.Sql.FromClause
