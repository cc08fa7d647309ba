import SqlCompletion.Sql.Grammar.Expression

/-!
# Relations and their aliases

What stands in a FROM clause: tables, subqueries and other relations, with their aliases and what is
joined to them. Of tables and subqueries completion keeps an entry; of other relations it does not.
-/

namespace SqlCompletion.Sql

/-! ## Relations -/

/-- An alias of a table, with names for its columns. -/
structure TableAlias where
  name : Ident
  /-- The columns, each with the text of its type if it has one. -/
  columns : List (Ident × Option String) := []

/-- How far an alias extends. -/
def TableAlias.extent (a : TableAlias) : Range :=
  a.name.extent.cover (identsExtent (a.columns.map (·.1)))

/-- An alias as it is written. -/
def TableAlias.text (a : TableAlias) : String :=
  let column : Ident × Option String → String
    | (name, some type) => name.text ++ " " ++ type
    | (name, none) => name.text
  if a.columns.isEmpty then a.name.text
  else a.name.text ++ " (" ++ ", ".intercalate (a.columns.map column) ++ ")"

/-- What a relation is, its alias aside. -/
inductive Source where
  | table (name : ObjectName)
  | derived (query : Query)
  | joined (extent : Range)
  | other (extent : Range)
  /-- A relation that has no extent, even with an alias. -/
  | placeless

/-- One of the relations of a FROM clause. -/
structure Relation where
  source : Source
  aliasName : Option TableAlias := none

/-- How far a relation extends without its alias. -/
def Source.extent : Source → Range
  | .table name => name.extent
  | .derived q => q.extent
  | .joined e => e
  | .other e => e
  | .placeless => .none

/-- How far an alias extends, if there is one. -/
def aliasExtent (a : Option TableAlias) : Range :=
  (a.map TableAlias.extent).getD .none

/-- How far a relation extends. -/
def Relation.extent (r : Relation) : Range :=
  match r.source with
  | .placeless => .none
  | source => source.extent.cover (aliasExtent r.aliasName)

/-- The place of a relation as completion sees it: of a subquery the selects alone count, and the
columns of an alias do not. -/
def Relation.location (r : Relation) : Range :=
  let aliasName := (r.aliasName.map (·.name.extent)).getD .none
  match r.source with
  | .table name => name.extent.cover aliasName
  | .derived q => q.bodyExtent.cover aliasName
  | _ => .none

/-- A table as an entry of a FROM clause. -/
def tableRef? (name : List Ident) (aliasName : Option TableAlias) (join : Option String)
    (hasOn : Bool) (location : Range) : Option TableRef :=
  match name.reverse with
  | [] => none
  | table :: scope =>
    some {
      database :=
        if scope.isEmpty then none else some (".".intercalate (scope.reverse.map (·.value)))
      table := table.value
      aliasName := aliasName.map (·.name.value)
      join
      hasOn
      location }

/-- A relation as an entry of a FROM clause, if it is a table or a subquery. -/
def Relation.entry? (r : Relation) (join : Option String) (hasOn : Bool) : Option FromEntry :=
  match r.source with
  | .table name => (tableRef? name.parts r.aliasName join hasOn r.location).map .table
  | .derived q =>
    some (.subquery q.statement ((r.aliasName.map (·.name.value)).getD "") r.location)
  | _ => none

/-- A relation that is joined to those before it. -/
structure Join where
  label : String
  relation : Relation
  hasOn : Bool
  /-- How far the condition extends. -/
  extent : Range

/-- A relation with those that are joined to it. -/
structure JoinChain where
  relation : Relation
  joins : List Join

/-- How far a relation and its joins extend. -/
def JoinChain.extent (c : JoinChain) : Range :=
  c.relation.extent.cover
    (Range.coverAll (c.joins.map fun j => j.relation.extent.cover j.extent))

/-- The entries of a relation and its joins. -/
def JoinChain.entries (c : JoinChain) : List FromEntry :=
  (c.relation.entry? none false).toList ++
    c.joins.filterMap fun j => j.relation.entry? (some j.label) j.hasOn

namespace Rule

/-! ## Aliases -/

/-- An alias, if there is one. After `AS` any word is one; otherwise it is decided by the word and
the token after it. -/
def alias? (accepts : Word → Option Token → Bool) : Rule (Option Ident) := do
  let explicit ← keyword? "AS"
  match ← peek with
  | some t =>
    match t.token, identOf? t with
    | .word w, some i =>
      if explicit || accepts w (← tokenAt 1) then
        let _ ← next
        return some i
      else return none
    | _, some i =>
      let _ ← next
      return some i
    | _, none => if explicit then rejectNext "an identifier after AS" else return none
  | none => if explicit then rejectNext "an identifier after AS" else return none

/-- A word that is an alias unless it is one of the given keywords. -/
def unlessReserved (reserved : List String) (w : Word) (_ : Option Token) : Bool :=
  !w.isOneOf reserved

/-- The token is one of the given keywords. -/
def isAhead (ahead : Option Token) (keywords : List String) : Bool :=
  match ahead.bind Token.keyword? with
  | some k => keywords.contains k
  | none => false

/-- The text or the statement ends here. -/
def endsStatement (ahead : Option Token) : Bool :=
  ahead.isNone || ahead == some (.symbol .semicolon)

/-- The token may follow `LIMIT`. -/
def startsLimit (ahead : Option Token) : Bool :=
  match ahead with
  | some (.number _ _) | some (.placeholder _) => true
  | some (.string q v) => v.isEmpty && (q = .single || q.before.startsWith "$")
  | some (.word w) => w.isKeyword "NULL"
  | _ => false

/-- The token may follow `FETCH`. -/
def startsFetch (ahead : Option Token) : Bool :=
  isAhead ahead ["FIRST", "NEXT"] || startsLimit ahead

/-- Words that never are aliases of tables. -/
def tableWords : List String :=
  ["WITH", "ORDER", "SELECT", "WHERE", "GROUP", "HAVING", "LATERAL", "UNION", "INTERSECT", "MINUS",
    "ON", "JOIN", "INNER", "CROSS", "FULL", "LEFT", "RIGHT", "NATURAL", "USING", "ASOF",
    "MATCH_CONDITION", "SET", "QUALIFY", "FOR", "START", "CONNECT", "SAMPLE", "TABLESAMPLE", "FROM"]

/-- Where few words are reserved, some of them are aliases unless what follows gives them
a meaning. -/
def isFreeTableAlias (w : Word) (ahead : Option Token) : Bool :=
  match w.keyword.getD "" with
  | "RETURNING" | "PIVOT" | "UNPIVOT" | "EXCEPT" | "MATCH_RECOGNIZE" => endsStatement ahead
  | "LIMIT" | "OFFSET" => !startsLimit ahead
  | "FETCH" => !startsFetch ahead
  | "SEMI" | "ANTI" => !isAhead ahead ["JOIN", "OUTER"]
  | "GLOBAL" => !isAhead ahead ["FULL"]
  | k => !tableWords.contains k

/-- The word is an alias of a table without `AS`. -/
def isTableAlias (d : Dialect) (w : Word) (ahead : Option Token) : Bool :=
  if d == .snowflake then isFreeTableAlias w ahead
  else
    !w.isOneOf Keyword.reservedTableAliases &&
      !(d == .mysql && w.isOneOf ["USE", "IGNORE", "FORCE", "STRAIGHT_JOIN"])

/-- The word starts no table, and so ends a list of tables after a comma. -/
def isNoTable (w : Word) (ahead : Option Token) : Bool :=
  match w.keyword.getD "" with
  | "LIMIT" => startsLimit ahead
  | "TABLE" => ahead != some (.symbol .leftParen)
  | k => Keyword.reservedTables.contains k

/-- Names for the columns of a table, each with a type if it has one. -/
def aliasColumns (g : Level) : Rule (List (Ident × Option String)) := do
  if ← isSymbol .leftParen then
    parens (list g.dialect do
      let name ← identifier
      return (name, (← attempt (dataType g)).map (·.text)))
  else return []

/-- An alias of a table, if there is one. -/
def tableAlias? (g : Level) : Rule (Option TableAlias) := do
  match ← alias? (isTableAlias g.dialect) with
  | some name => return some { name, columns := ← aliasColumns g }
  | none => return none

/-- An expression with an alias. -/
def aliasedExpr (g : Level) : Rule Expr := do
  let e ← g.anyExpr
  if ← keyword? "AS" then discard identifier
  return e

end Rule

end SqlCompletion.Sql
