import SqlCompletion.Parser
import SqlCompletion.Sql.Lexer

/-!
# The FROM clause of an unfinished statement

A statement that is being typed rarely parses as a whole, and the error usually comes before the
FROM clause. This scan needs the tokens alone, so that tables, aliases and subqueries are known all
the same. It looks at the first `FROM` outside parentheses and reads table by table, until something
comes that does not belong to the clause.

A group in parentheses that starts with `SELECT` or `WITH` is a subquery. If its text does not
parse, or if its closing parenthesis is missing, it is kept as text. Any other group is passed over.

## Progress

Every part takes tokens from the front and hands on the rest, and no rest is longer than what the
part was given. A table after which the clause goes on takes at least one token, and so does what
stands between two tables; the tokens that are left are the measure of both loops.
-/

namespace SqlCompletion.Sql.FromClause

/-- Keywords that end a FROM clause. -/
def clauseEnds : List String :=
  ["WHERE", "GROUP", "ORDER", "HAVING", "LIMIT", "UNION", "EXCEPT", "INTERSECT", "WINDOW",
    "QUALIFY", "OFFSET", "FETCH", "SET", "RETURNING"]

/-- Keywords that a join operator is made of. -/
def joinWords : List String :=
  ["JOIN", "INNER", "LEFT", "RIGHT", "FULL", "CROSS", "NATURAL", "OUTER"]

/-- The token is one of the given keywords. -/
def isOneOf (t : Token) (keywords : List String) : Bool :=
  match t with
  | .word w => w.isOneOf keywords
  | _ => false

/-- The token is the given keyword. -/
def isKeyword (t : Token) (keyword : String) : Bool :=
  t.keyword? == some keyword

/-- A word that names a table or an alias: it is quoted, or has no meaning in a FROM clause. -/
def isName (w : Word) : Bool :=
  w.quote.isSome || !(w.isOneOf Keyword.reservedTableAliases || w.isOneOf clauseEnds ||
    w.isOneOf joinWords)

/-! ## Groups -/

/-- How many parentheses are open after a token. -/
def depthAfter (t : Token) (depth : Nat) : Nat :=
  match t with
  | .symbol .leftParen => depth + 1
  | .symbol .rightParen => depth - 1
  | _ => depth

/-- The tokens after the first `FROM` outside parentheses. -/
def afterFrom? (depth : Nat) : List Lexeme → Option (List Lexeme)
  | [] => none
  | t :: rest =>
    if depth = 0 && isKeyword t.token "FROM" then some rest
    else afterFrom? (depthAfter t.token depth) rest

/-- The parenthesis that closes a group and the tokens after it, where `depth + 1` parentheses are
open. -/
def groupEnd? (depth : Nat) : List Lexeme → Option (Lexeme × List Lexeme)
  | [] => none
  | t :: rest =>
    match t.token with
    | .symbol .leftParen => groupEnd? (depth + 1) rest
    | .symbol .rightParen =>
      match depth with
      | 0 => some (t, rest)
      | depth + 1 => groupEnd? depth rest
    | _ => groupEnd? depth rest

theorem length_lt_of_groupEnd? {depth : Nat} {tokens rest : List Lexeme} {close : Lexeme}
    (h : groupEnd? depth tokens = some (close, rest)) : rest.length < tokens.length := by
  fun_induction groupEnd? depth tokens with
  | case1 => simp at h
  | case3 t more =>
    cases h
    exact Nat.lt_succ_self _
  | case2 t more _ _ ih | case4 t more _ _ ih | case5 t more _ _ _ ih =>
    exact Nat.lt_succ_of_lt (ih h)

/-- The tokens after a group whose parenthesis is open; none when it is not closed. -/
def afterGroup (tokens : List Lexeme) : List Lexeme :=
  match groupEnd? 0 tokens with
  | some (_, rest) => rest
  | none => []

theorem length_afterGroup_le (tokens : List Lexeme) :
    (afterGroup tokens).length ≤ tokens.length := by
  rw [afterGroup]
  split
  next h => exact Nat.le_of_lt (length_lt_of_groupEnd? h)
  next => exact Nat.zero_le _

/-- The token cannot be part of the condition of a join. -/
def endsCondition (t : Token) : Bool :=
  match t with
  | .symbol .rightParen | .symbol .comma | .symbol .semicolon => true
  | .word w => w.isOneOf joinWords || w.isOneOf clauseEnds
  | _ => false

/-- The tokens after the condition of a join. -/
def afterCondition (depth : Nat) : List Lexeme → List Lexeme
  | [] => []
  | t :: rest =>
    if depth = 0 && endsCondition t.token then t :: rest
    else afterCondition (depthAfter t.token depth) rest

theorem length_afterCondition_le (depth : Nat) (tokens : List Lexeme) :
    (afterCondition depth tokens).length ≤ tokens.length := by
  induction tokens generalizing depth with
  | nil => exact Nat.le_refl _
  | cons t rest ih =>
    rw [afterCondition]
    split
    · exact Nat.le_refl _
    · exact Nat.le_succ_of_le (ih _)

/-! ## Names -/

/-- An alias, if there is one, and the tokens after it. After `AS` every word is an alias; `AS`
without one is passed over. -/
def scanAlias (tokens : List Lexeme) : Option (String × Lexeme) × List Lexeme :=
  match tokens with
  | a :: rest =>
    if isKeyword a.token "AS" then
      match rest with
      | t :: more =>
        match t.token with
        | .word w => (some (w.value, t), more)
        | _ => (none, rest)
      | [] => (none, [])
    else
      match a.token with
      | .word w => if isName w then (some (w.value, a), rest) else (none, tokens)
      | _ => (none, tokens)
  | [] => (none, [])

theorem length_scanAlias_le (tokens : List Lexeme) :
    (scanAlias tokens).2.length ≤ tokens.length := by
  unfold scanAlias
  repeat' split
  all_goals simp only [List.length_cons, List.length_nil]
  all_goals omega

/-- The parts of a dotted name, the last one first, the last token of the name and what follows it.
A dot at the end belongs to the name that is being typed. -/
def scanName (parts : List String) (last : Lexeme) :
    List Lexeme → List String × Lexeme × List Lexeme
  | [] => (parts, last, [])
  | t :: rest =>
    match t.token with
    | .word w =>
      match rest with
      | dot :: more =>
        if dot.token == .symbol .period then scanName (w.value :: parts) dot more
        else (w.value :: parts, t, rest)
      | [] => (w.value :: parts, t, [])
    | _ => (parts, last, t :: rest)

theorem length_scanName_le (parts : List String) (last : Lexeme) (tokens : List Lexeme) :
    (scanName parts last tokens).2.2.length ≤ tokens.length := by
  fun_induction scanName parts last tokens <;> simp_all only [List.length_cons, List.length_nil]
  all_goals omega

/-- A name takes the word that it starts with. -/
theorem length_scanName_lt (parts : List String) (last : Lexeme) {t : Lexeme} {w : Word}
    (h : t.token = .word w) (rest : List Lexeme) :
    (scanName parts last (t :: rest)).2.2.length < (t :: rest).length := by
  rw [scanName]
  simp only [h]
  split
  next dot more =>
    split
    · have := length_scanName_le (w.value :: parts) dot more
      simp only [List.length_cons]
      omega
    · exact Nat.lt_succ_self _
  next => exact Nat.lt_succ_self _

/-! ## Entries -/

/-- What a scan is given: the text with its last token, and how to parse a subquery. -/
structure Document where
  chars : List Char
  /-- The last token of the text. -/
  last : Lexeme
  parse : String → Except ParseFailure Statement

/-- A table of the clause as far as it was read: its entry, if it has one, what follows, and whether
the clause can go on. -/
structure Factor where
  entry : Option FromEntry
  rest : List Lexeme
  continues : Bool

/-- The last token of a table and what follows it, once the arguments of a table function are passed
over. -/
def scanArguments (doc : Document) (last : Lexeme) (tokens : List Lexeme) : Lexeme × List Lexeme :=
  match tokens with
  | t :: rest =>
    if t.token == .symbol .leftParen then (groupEnd? 0 rest).getD (doc.last, [])
    else (last, t :: rest)
  | [] => (last, [])

theorem length_scanArguments_le (doc : Document) (last : Lexeme) (tokens : List Lexeme) :
    (scanArguments doc last tokens).2.length ≤ tokens.length := by
  unfold scanArguments
  split
  next t rest =>
    split
    · cases h : groupEnd? 0 rest with
      | none => simp
      | some found =>
        have := length_lt_of_groupEnd? h
        simp only [Option.getD_some, List.length_cons]
        omega
    · exact Nat.le_refl _
  next => exact Nat.le_refl _

/-- A table with its alias, starting at the token `first`. -/
def scanTable (doc : Document) (join : Option String) (first : Lexeme) (tokens : List Lexeme) :
    Factor :=
  let (parts, nameLast, afterName) := scanName [] first tokens
  let (last, afterTable) := scanArguments doc nameLast afterName
  let (aliasName, rest) := scanAlias afterTable
  let database :=
    match parts.tail with
    | [] => none
    | outer => some (".".intercalate outer.reverse)
  { entry := some (.table {
      database
      table := parts.head?.getD ""
      aliasName := aliasName.map (·.1)
      join
      hasOn := false
      location := ⟨first.range.start, ((aliasName.map (·.2)).getD last).range.stop⟩ })
    rest
    continues := true }

/-- A subquery whose parenthesis `opening` is followed by `tokens`. -/
def scanSubquery (doc : Document) (opening : Lexeme) (tokens : List Lexeme) : Factor :=
  let start := opening.range.stop
  match groupEnd? 0 tokens with
  | none =>
    let stop := endLocation doc.chars
    let text := String.ofList (Text.slice doc.chars start.offset stop.offset)
    { entry := some (.incomplete text ⟨start, stop⟩), rest := [], continues := false }
  | some (close, rest) =>
    let stop := close.range.start
    let text := String.ofList (Text.slice doc.chars start.offset stop.offset)
    let (aliasName, rest) := scanAlias rest
    let entry :=
      match doc.parse text with
      | .ok statement =>
        .subquery statement ((aliasName.map (·.1)).getD "")
          ⟨opening.range.start, ((aliasName.map (·.2)).getD close).range.stop⟩
      | .error _ => .incomplete text ⟨start, stop⟩
    { entry := some entry, rest, continues := true }

/-- The group starts with a word that starts a query. -/
def startsQuery : List Lexeme → Bool
  | t :: _ => isOneOf t.token ["SELECT", "WITH"]
  | [] => false

/-- A group in parentheses: a subquery, or something to pass over. -/
def scanGroup (doc : Document) (opening : Lexeme) (tokens : List Lexeme) : Factor :=
  if startsQuery tokens then scanSubquery doc opening tokens
  else
    { entry := none
      rest := (scanAlias (afterGroup tokens)).2
      continues := (groupEnd? 0 tokens).isSome }

/-- The tokens without a `LATERAL` at the front. -/
def skipLateral : List Lexeme → List Lexeme
  | t :: rest => if isKeyword t.token "LATERAL" then rest else t :: rest
  | [] => []

/-- One table of the clause. -/
def scanFactor (doc : Document) (join : Option String) (tokens : List Lexeme) : Factor :=
  match skipLateral tokens with
  | t :: rest =>
    match t.token with
    | .symbol .leftParen => scanGroup doc t rest
    | .word w =>
      if isName w then scanTable doc join t (t :: rest)
      else { entry := none, rest := t :: rest, continues := false }
    | _ => { entry := none, rest := t :: rest, continues := false }
  | [] => { entry := none, rest := [], continues := false }

theorem length_skipLateral_le (tokens : List Lexeme) :
    (skipLateral tokens).length ≤ tokens.length := by
  unfold skipLateral
  split
  · split
    · exact Nat.le_succ _
    · exact Nat.le_refl _
  · exact Nat.le_refl _

theorem length_scanTable_lt (doc : Document) (join : Option String) {t : Lexeme} {w : Word}
    (h : t.token = .word w) (rest : List Lexeme) :
    (scanTable doc join t (t :: rest)).rest.length < (t :: rest).length := by
  have hn := length_scanName_lt [] t h rest
  have ha := length_scanArguments_le doc (scanName [] t (t :: rest)).2.1
    (scanName [] t (t :: rest)).2.2
  have hl := length_scanAlias_le
    (scanArguments doc (scanName [] t (t :: rest)).2.1 (scanName [] t (t :: rest)).2.2).2
  exact Nat.lt_of_le_of_lt (Nat.le_trans hl ha) hn

theorem length_scanGroup_le (doc : Document) (opening : Lexeme) (tokens : List Lexeme) :
    (scanGroup doc opening tokens).rest.length ≤ tokens.length := by
  unfold scanGroup
  split
  · unfold scanSubquery
    split
    · exact Nat.zero_le _
    next close rest h =>
      exact Nat.le_trans (length_scanAlias_le rest) (Nat.le_of_lt (length_lt_of_groupEnd? h))
  · exact Nat.le_trans (length_scanAlias_le _) (length_afterGroup_le tokens)

/-- A table after which the clause goes on takes a token. -/
theorem length_lt_of_scanFactor {doc : Document} {join : Option String} {tokens : List Lexeme}
    (h : (scanFactor doc join tokens).continues) :
    (scanFactor doc join tokens).rest.length < tokens.length := by
  refine Nat.lt_of_lt_of_le ?_ (length_skipLateral_le tokens)
  unfold scanFactor at h ⊢
  split at h
  next t rest hs =>
    simp only [hs]
    split at h
    · exact Nat.lt_succ_of_le (length_scanGroup_le doc t rest)
    next w hw =>
      split at h
      next hn =>
        simp only [hn, if_true]
        exact length_scanTable_lt doc join hw rest
      next => simp at h
    · simp at h
  next => simp at h

/-! ## The clause -/

/-- A join operator: its words, and the tokens after `JOIN`. -/
def scanJoin? (words : List String) : List Lexeme → Option (String × List Lexeme)
  | [] => none
  | t :: rest =>
    match t.token.keyword? with
    | some k =>
      if k = "JOIN" then some (" ".intercalate (k :: words).reverse, rest)
      else if joinWords.contains k then scanJoin? (k :: words) rest
      else none
    | none => none

theorem length_lt_of_scanJoin? {words : List String} {tokens rest : List Lexeme} {label : String}
    (h : scanJoin? words tokens = some (label, rest)) : rest.length < tokens.length := by
  induction tokens generalizing words with
  | nil => simp [scanJoin?] at h
  | cons t tokens ih =>
    rw [scanJoin?] at h
    split at h
    · split at h
      · cases h
        exact Nat.lt_succ_self _
      · split at h
        · exact Nat.lt_succ_of_lt (ih h)
        · simp at h
    · simp at h

/-- The entries, the last one first, of which the last has a condition. -/
def markConstrained : List FromEntry → List FromEntry
  | .table r :: rest => .table { r with hasOn := true } :: rest
  | entries => entries

/-- The tokens after `USING`, without the group that follows it. -/
def afterUsing : List Lexeme → List Lexeme
  | t :: rest => if t.token == .symbol .leftParen then afterGroup rest else t :: rest
  | [] => []

theorem length_afterUsing_le (tokens : List Lexeme) :
    (afterUsing tokens).length ≤ tokens.length := by
  unfold afterUsing
  split
  next t rest =>
    split
    · exact Nat.le_succ_of_le (length_afterGroup_le rest)
    · exact Nat.le_refl _
  next => exact Nat.le_refl _

/-- What follows a table: its conditions are passed over, then the join operator of the next table,
if it has one, and where it starts. -/
def afterFactor (entries : List FromEntry) :
    List Lexeme → List FromEntry × Option (Option String × List Lexeme)
  | [] => (entries, none)
  | t :: rest =>
    if t.token == .symbol .comma then (entries, some (none, rest))
    else if isKeyword t.token "ON" then
      afterFactor (markConstrained entries) (afterCondition 0 rest)
    else if isKeyword t.token "USING" then
      afterFactor (markConstrained entries) (afterUsing rest)
    else if isOneOf t.token joinWords then
      (entries, (scanJoin? [] (t :: rest)).map fun (label, rest) => (some label, rest))
    else (entries, none)
termination_by tokens => tokens.length
decreasing_by
  · exact Nat.lt_succ_of_le (length_afterCondition_le 0 rest)
  · exact Nat.lt_succ_of_le (length_afterUsing_le rest)

/-- What stands between two tables takes a token. -/
theorem length_lt_of_afterFactor {entries entries' : List FromEntry} {join : Option String}
    {tokens rest : List Lexeme} (h : afterFactor entries tokens = (entries', some (join, rest))) :
    rest.length < tokens.length := by
  fun_induction afterFactor entries tokens with
  | case1 => simp at h
  | case2 entries t more =>
    cases h
    exact Nat.lt_succ_self _
  | case3 entries t more _ _ ih =>
    exact Nat.lt_succ_of_lt (Nat.lt_of_lt_of_le (ih h) (length_afterCondition_le 0 more))
  | case4 entries t more _ _ _ ih =>
    exact Nat.lt_succ_of_lt (Nat.lt_of_lt_of_le (ih h) (length_afterUsing_le more))
  | case5 entries t more =>
    obtain ⟨_, hj⟩ := Prod.mk.inj h
    obtain ⟨found, hf, hr⟩ := Option.map_eq_some_iff.mp hj
    cases hr
    exact length_lt_of_scanJoin? hf
  | case6 => simp at h

/-- The entries of a clause, the last one first. -/
def scanEntries (doc : Document) (join : Option String) (entries : List FromEntry)
    (tokens : List Lexeme) : List FromEntry :=
  let factor := scanFactor doc join tokens
  if _ : factor.continues then
    match _ : afterFactor (factor.entry.toList ++ entries) factor.rest with
    | (entries, some (join, rest)) => scanEntries doc join entries rest
    | (entries, none) => entries
  else factor.entry.toList ++ entries
termination_by tokens.length
decreasing_by
  exact Nat.lt_trans (length_lt_of_afterFactor (by assumption))
    (length_lt_of_scanFactor (by assumption))

/-- The entries of the FROM clause of a text with the given tokens, blanks left out. -/
def scan (parse : String → Except ParseFailure Statement) (text : String) (tokens : List Lexeme) :
    List FromEntry :=
  match afterFrom? 0 tokens, tokens.getLast? with
  | some rest, some last =>
    (scanEntries ⟨text.toList, last, parse⟩ none [] rest).reverse
  | _, _ => []

end SqlCompletion.Sql.FromClause
