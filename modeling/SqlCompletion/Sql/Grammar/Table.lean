import SqlCompletion.Sql.Grammar.RowPattern
import SqlCompletion.Sql.Grammar.TableFunction

/-!
# Tables

The tables of a FROM clause with their joins.

After an opening parenthesis a subquery is tried first. If that fails, whatever the reason, a table
with joins is read instead, and its error is the one that counts.
-/

namespace SqlCompletion.Sql

namespace Rule

/-! ## Parts of tables -/

/-- Rows of expressions in parentheses. -/
def valueRows (g : Level) : Rule Range := do
  let rows ← list g.dialect do
    let _ ← keyword? "ROW"
    parens (if g.dialect == .mysql then listUnless g.dialect .rightParen g.anyExpr else g.exprs)
  return Range.coverAll (rows.map Expr.extentAll)

/-- A query that is nothing but rows. -/
def rowsQuery (extent : Range) : Query :=
  { extent, bodyExtent := extent, statement := .other }

/-- The version of a table. -/
def tableVersion? (g : Level) : Rule Unit := do
  if g.dialect.tableVersions then
    if ← keywords? ["FOR", "SYSTEM_TIME", "AS", "OF"] then discard g.anyExpr
    else if isAhead (← token) ["AT", "BEFORE"] then
      let name ← tableName g
      discard (call g name.parts)

/-- How much of a table a sample takes. -/
def sampleQuantity (g : Level) (inParens : Bool) : Rule Unit := do
  let d := g.dialect
  if ← onlyIf inParens (keyword? "BUCKET") then
    numberLiteral d
    keywords ["OUT", "OF"]
    numberLiteral d
    if ← keyword? "ON" then discard g.anyExpr
  else
    if (← attempt g.anyExpr).isNone then
      match (← next).map Lexeme.token with
      | some (.word _) => pure ()
      | _ => complain "Expecting number or byte length e.g. 100M"
    discard (oneOf? ["ROWS", "PERCENT"])

/-- A sample of a table, after its first word. -/
def tableSample (g : Level) : Rule Unit := do
  let _ ← oneOf? ["BERNOULLI", "ROW", "SYSTEM", "BLOCK"]
  if ← symbol? .leftParen then
    sampleQuantity g true
    discard (symbol .rightParen)
  else sampleQuantity g false
  if (← oneOf? ["REPEATABLE", "SEED"]).isSome then parens (numberLiteral g.dialect)
  if ← keyword? "OFFSET" then discard g.anyExpr

/-- A sample of a table, if there is one. -/
def tableSample? (g : Level) : Rule Unit := do
  if (← oneOf? ["TABLESAMPLE", "SAMPLE"]).isSome then tableSample g

/-- A hint on the indexes to use. -/
def indexHint (d : Dialect) : Rule (Option Unit) := do
  if (← oneOf? ["USE", "IGNORE", "FORCE"]).isNone then return none
  if (← oneOf? ["INDEX", "KEY"]).isNone then expected "expected to match INDEX or KEY keyword"
  if ← keyword? "FOR" then
    if !(← keyword? "JOIN" <||> keywords? ["ORDER", "BY"] <||> keywords? ["GROUP", "BY"]) then
      expected "expected to match FOR/ORDER BY/GROUP BY table hint in for clause"
  parens (discard (listUnless d .rightParen identifier))
  return some ()

/-- Hints in parentheses. -/
def tableHints? (g : Level) : Rule Unit := do
  if (← isKeyword "WITH") && (← tokenAt 1) == some (.symbol .leftParen) then
    let _ ← next
    discard (parens g.exprs)

/-! ## Pivots -/

/-- A call with an alias. What is no name is passed over before it is rejected. -/
def aliasedCall (g : Level) : Rule Expr := do
  match (← next).bind (·.token.word?) with
  | some w =>
    let e ← call g [{ value := w.value, extent := .none }]
    if ← keyword? "AS" then discard identifier
    return e
  | none => expected "a function identifier"

/-- The values that become columns, in parentheses. -/
def pivotValues (g : Level) : Rule Range :=
  parens do
    if ← keyword? "ANY" then return (← afterAll? ["ORDER", "BY"] (orderItems g)).getD .none
    else if ← startsQuery then return (← g.query).extent
    else return Expr.extentAll (← list g.dialect (aliasedExpr g))

/-- The rest of `PIVOT`. -/
def pivot (g : Level) (r : Relation) : Rule Relation := do
  let d := g.dialect
  let column := g.expr (Binding.between.power d)
  let extent ← parens do
    let calls ← list d (aliasedCall g)
    let _ ← keyword "FOR"
    let columns ← if ← isSymbol .leftParen then parens (list d column) else pure [← column]
    let _ ← keyword "IN"
    let values ← pivotValues g
    let default ← afterAll? ["DEFAULT", "ON", "NULL"] (parens g.anyExpr)
    return (Expr.extentAll (calls ++ columns ++ default.toList)).cover values
  return { source := .other (r.extent.cover extent), aliasName := ← tableAlias? g }

/-- The rest of `UNPIVOT`. -/
def unpivot (g : Level) (r : Relation) : Rule Relation := do
  let d := g.dialect
  if (← oneOf? ["INCLUDE", "EXCLUDE"]).isSome then discard (keyword "NULLS")
  let extent ← parens do
    let value ← g.anyExpr
    let _ ← keyword "FOR"
    let name ← identifier
    let _ ← keyword "IN"
    let columns ← columnList d (aliasedExpr g)
    return (value.extent.cover name.extent).cover (Expr.extentAll columns)
  return { source := .other (r.extent.cover extent), aliasName := ← tableAlias? g }

/-- Pivots after a relation. -/
def pivots (g : Level) (r : Relation) : Rule Relation :=
  iterate (fun r => do
    if ← keyword? "PIVOT" then return some (← pivot g r)
    else if ← keyword? "UNPIVOT" then return some (← unpivot g r)
    else return none) r

/-! ## Relations -/

/-- A table by its name. -/
def namedTable (g : Level) : Rule Relation := do
  let d := g.dialect
  let name ← tableName g
  if d.bracketPaths && (← isSymbol .leftBracket) then
    discard (iterate (documentStep g) (false, []))
  if ← onlyIf d.tablePartitions (keyword? "PARTITION") then
    discard (parens (listBefore d .rightParen identifier))
  tableVersion? g
  if ← symbol? .leftParen then tableArguments g
  let _ ← keywords? ["WITH", "ORDINALITY"]
  if d.sampleBeforeAlias then tableSample? g
  let aliasName ← tableAlias? g
  if d == .mysql then discard (attempt (iterate (fun _ => indexHint d) ()))
  tableHints? g
  if !d.sampleBeforeAlias then tableSample? g
  let r ← pivots g { source := .table name, aliasName }
  if ← onlyIf d.rowPatterns (keyword? "MATCH_RECOGNIZE") then rowPattern g else return r

/-- A subquery, after the opening parenthesis. -/
def derivedTable (g : Level) : Rule Relation := do
  let q ← g.query
  let _ ← symbol .rightParen
  return { source := .derived q, aliasName := ← tableAlias? g }

/-- What may follow `LATERAL`. -/
def lateral (g : Level) : Rule Relation := do
  if ← symbol? .leftParen then derivedTable g
  else
    let name ← objectName g
    let _ ← symbol .leftParen
    let a ← plainArguments g
    return {
      source := .other (name.extent.cover a.extent)
      aliasName := ← tableAlias? g }

/-- An array as a table, after its first word. -/
def unnest (g : Level) : Rule Relation := do
  let arrays ← parens g.exprs
  let _ ← keywords? ["WITH", "ORDINALITY"]
  let aliasName ← tableAlias? g
  let offset ←
    if ← keyword? "WITH" <&&> keyword? "OFFSET" then
      alias? (unlessReserved Keyword.reservedColumnAliases)
    else pure none
  return {
    source := .other ((Expr.extentAll arrays).cover ((offset.map (·.extent)).getD .none))
    aliasName }

/-- A relation with the alias after its parentheses; it may not have two. -/
def withOuterAlias (r : Relation) (outer : Option TableAlias) : Rule Relation :=
  match outer, r.aliasName with
  | some _, some inner => throw (.note ("duplicate alias " ++ inner.text) none)
  | some a, none => return { r with aliasName := some a }
  | none, _ => return r

/-- A table with joins in parentheses, after the opening one. -/
def parenthesizedTable (g : Level) (chain : Rule JoinChain) : Rule Relation := do
  let c ← chain
  let nested :=
    match c.relation.source with
    | .joined _ => true
    | _ => false
  if nested || !c.joins.isEmpty then
    let _ ← symbol .rightParen
    return { source := .joined c.extent, aliasName := ← tableAlias? g }
  else if g.dialect.tableParentheses then
    let _ ← symbol .rightParen
    withOuterAlias c.relation (← tableAlias? g)
  else expected "joined table"

/-- A relation; `chain` reads a table with joins inside parentheses. -/
def relationWith (g : Level) (chain : Rule JoinChain) : Rule Relation := do
  let d := g.dialect
  if ← keyword? "LATERAL" then lateral g
  else if ← keyword? "TABLE" then
    let e ← parens g.anyExpr
    return { source := .other e.extent, aliasName := ← tableAlias? g }
  else if ← symbol? .leftParen then
    match ← attempt (derivedTable g) with
    | some r => pivots g r
    | none => parenthesizedTable g chain
  else if d.valuesTables && (← isKeyword "VALUES") &&
      (← tokenAt 1) == some (.symbol .leftParen) then
    let _ ← next
    let rows ← valueRows g
    return { source := .derived (rowsQuery rows), aliasName := ← tableAlias? g }
  else if ← onlyIf d.unnestTables (keyword? "UNNEST") then unnest g
  else
    match ← tableFunction? g with
    | some r => return r
    | none => namedTable g

/-! ## Joins -/

/-- What may follow the relation of a join. -/
inductive JoinKind where
  | cross
  | apply
  | asOf
  | usual (natural : Bool)

/-- The words of a join after `LEFT` or `RIGHT`. -/
def sideJoin (side : String) (natural : Bool) : Rule (Option (String × JoinKind)) := do
  let _ ← next
  match ← oneOf? ["OUTER", "SEMI", "ANTI", "JOIN"] with
  | some "JOIN" => return some (side ++ " JOIN", .usual natural)
  | some "OUTER" =>
    let _ ← keyword "JOIN"
    return some (side ++ " OUTER JOIN", .usual natural)
  | some word =>
    let _ ← keyword "JOIN"
    return some (word ++ " JOIN", .usual natural)
  | none => throw (.note ("expected OUTER, SEMI, ANTI or JOIN after " ++ side) none)

/-- The words of a join that may be natural. -/
def plainJoin? : Rule (Option (String × JoinKind)) := do
  let natural ← keyword? "NATURAL"
  match (← peekKeyword?).getD "" with
  | "JOIN" =>
    let _ ← next
    return some ("JOIN", .usual natural)
  | "INNER" =>
    keywords ["INNER", "JOIN"]
    return some ("INNER JOIN", .usual natural)
  | "LEFT" => sideJoin "LEFT" natural
  | "RIGHT" => sideJoin "RIGHT" natural
  | "SEMI" =>
    keywords ["SEMI", "JOIN"]
    return some ("SEMI JOIN", .usual natural)
  | "ANTI" =>
    keywords ["ANTI", "JOIN"]
    return some ("ANTI JOIN", .usual natural)
  | "FULL" =>
    let _ ← next
    let _ ← keyword? "OUTER"
    let _ ← keyword "JOIN"
    return some ("FULL OUTER JOIN", .usual natural)
  | "STRAIGHT_JOIN" =>
    let _ ← next
    return some ("STRAIGHT_JOIN", .usual natural)
  | "OUTER" => expected "LEFT, RIGHT, or FULL"
  | _ => if natural then expected "a join type after NATURAL" else return none

/-- The words of a join, if there is one. `GLOBAL` is passed over in any case. -/
def joinWords? : Rule (Option (String × JoinKind)) := do
  let _ ← keyword? "GLOBAL"
  if ← keyword? "CROSS" then
    if ← keyword? "JOIN" then return some ("CROSS JOIN", .cross)
    else if ← keyword? "APPLY" then return some ("CROSS APPLY", .apply)
    else expected "JOIN or APPLY after CROSS"
  else if ← keyword? "OUTER" then
    let _ ← keyword "APPLY"
    return some ("OUTER APPLY", .apply)
  else if ← keyword? "ASOF" then
    let _ ← keyword "JOIN"
    return some ("ASOF JOIN", .asOf)
  else plainJoin?

/-- The condition of a join: whether there is one, and how far it extends. -/
def joinCondition (g : Level) (natural : Bool) : Rule (Bool × Range) := do
  if natural then return (true, .none)
  else if ← keyword? "ON" then return (true, (← g.anyExpr).extent)
  else if ← keyword? "USING" then
    let columns ← columnList g.dialect (objectName g)
    return (true, Range.coverAll (columns.map (·.extent)))
  else return (false, .none)

/-- What follows the relation of a join. -/
def joinRest (g : Level) : JoinKind → Rule (Bool × Range)
  | .cross => if g.dialect.crossJoinConditions then joinCondition g false else return (false, .none)
  | .apply => return (true, .none)
  | .asOf => do
    let _ ← keyword "MATCH_CONDITION"
    let e ← parens g.anyExpr
    let (hasOn, extent) ← joinCondition g false
    return (hasOn, e.extent.cover extent)
  | .usual natural => joinCondition g natural

/-- The relation of a join, with what is joined to it where joins nest to the right. -/
def joinedRelation (d : Dialect) (relation : Rule Relation) (inner : Rule (List Join))
    (kind : JoinKind) : Rule Relation := do
  let r ← relation
  let nests :=
    match kind with
    | .usual _ => d.rightNestedJoins
    | _ => false
  if nests && isAhead (← token) ["JOIN", "INNER", "LEFT", "RIGHT", "FULL"] then
    let c : JoinChain := { relation := r, joins := ← inner }
    return { source := .joined c.extent }
  else return r

/-- The joins after a relation. Every join takes a token. -/
def joinsWithin (g : Level) (relation : Rule Relation) : (bound : List Lexeme) → Rule (List Join)
  | [] => return []
  | _ :: bound => do
    match ← joinWords? with
    | none => return []
    | some (label, kind) =>
      let r ← joinedRelation g.dialect relation (joinsWithin g relation bound) kind
      let (hasOn, extent) ← joinRest g kind
      return { label, relation := r, hasOn, extent } :: (← joinsWithin g relation bound)

/-- A relation with its joins. -/
def chainOf (g : Level) (relation : Rule Relation) : Rule JoinChain := do
  let first ← relation
  return { relation := first, joins := ← joinsWithin g relation (← get) }

/-- A relation. Every parenthesis around it takes a token. -/
def relationWithin (g : Level) : (bound : List Lexeme) → Rule Relation
  | [] => expected "identifier"
  | _ :: bound => relationWith g (chainOf g (relationWithin g bound))

/-- A relation without joins. -/
def relation (g : Level) : Rule Relation := do
  relationWithin g (← get)

/-- A relation with its joins. -/
def joinChain (g : Level) : Rule JoinChain := do
  chainOf g (relationWithin g (← get))

/-- Joins without a relation before them. -/
def joins (g : Level) : Rule (List Join) := do
  let bound ← get
  joinsWithin g (relationWithin g bound) bound

/-- The relations of a FROM clause. -/
def fromTables (g : Level) : Rule (List JoinChain) :=
  listWith (if g.dialect.trailingTableCommas then some isNoTable else none) (joinChain g)

end Rule

end SqlCompletion.Sql
