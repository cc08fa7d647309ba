import SqlCompletion.Sql.Grammar.Change

/-!
# Pipes

What may follow a query after `|>`. Each step takes the rows before it and gives others. Nothing of
the steps is kept.
-/

namespace SqlCompletion.Sql.Rule

/-- What may follow a set operator; whether it asks for distinct rows. -/
def setQuantifier : Rule Bool := do
  if ← keywords? ["DISTINCT", "BY", "NAME"] then return true
  else if ← keywords? ["BY", "NAME"] then return false
  else if ← keyword? "ALL" then
    let _ ← keywords? ["BY", "NAME"]
    return false
  else keyword? "DISTINCT"

/-- Words that start a step. -/
def pipeSteps : List String :=
  ["SELECT", "EXTEND", "SET", "DROP", "AS", "WHERE", "LIMIT", "AGGREGATE", "ORDER", "TABLESAMPLE",
    "RENAME", "UNION", "INTERSECT", "EXCEPT", "CALL", "PIVOT", "UNPIVOT"]

/-- Words that start a step that joins a table. -/
def pipeJoins : List String := ["JOIN", "INNER", "LEFT", "RIGHT", "FULL", "CROSS"]

/-- An expression with an alias and a direction. -/
def aggregateItem (g : Level) : Rule Unit := do
  let _ ← g.anyExpr
  let _ ← alias? (unlessReserved ["ASC", "DESC", "GROUP"])
  discard (oneOf? ["ASC", "DESC"])

/-- The rest of `AGGREGATE`. -/
def aggregateStep (g : Level) : Rule Unit := do
  let items := list g.dialect (aggregateItem g)
  if !(← isKeyword "GROUP") then discard items
  if ← keywords? ["GROUP", "BY"] then discard items

/-- Queries in parentheses. -/
def pipedQueries (g : Level) : Rule Unit :=
  discard (list g.dialect (parens g.query))

/-- Queries in parentheses after a set operator that has to ask for distinct rows. -/
def distinctQueries (g : Level) (operator : String) : Rule Unit := do
  if ← setQuantifier then pipedQueries g
  else throw (.note (operator ++ " pipe operator requires DISTINCT modifier") none)

/-- A name after a step, with `AS` or without. -/
def stepAlias? : Rule Unit := do
  if ← keyword? "AS" then discard identifier else discard (attempt identifier)

/-- The rest of `PIVOT`. -/
def pivotStep (g : Level) : Rule Unit := do
  let d := g.dialect
  parens do
    let _ ← list d (aliasedCall g)
    let _ ← keyword "FOR"
    let _ ← identifier
    iterate (fun _ => do
      if ← symbol? .period then
        let _ ← identifier
        return some ()
      else return none) ()
    let _ ← keyword "IN"
    discard (pivotValues g)
  stepAlias?

/-- The rest of `UNPIVOT`. -/
def unpivotStep (d : Dialect) : Rule Unit := do
  parens do
    let _ ← identifier
    let _ ← keyword "FOR"
    let _ ← identifier
    let _ ← keyword "IN"
    discard (identifiersInParens d)
  stepAlias?

/-- A join, from its first word on; there may be no second one. -/
def joinStep (g : Level) : Rule Unit := do
  if (← joins g).length != 1 then
    throw (.note "Join pipe operator must have a single join" none)

/-- What follows the first word of a step. -/
def pipeStep (g : Level) (k : String) : Rule Unit := do
  let d := g.dialect
  match k with
  | "SELECT" | "EXTEND" => discard (list d (selectItem g))
  | "SET" => discard (assignments g)
  | "DROP" => modify afterNames
  | "AS" => discard identifier
  | "WHERE" => discard g.anyExpr
  | "LIMIT" =>
    let _ ← g.anyExpr
    discard (clause? g "OFFSET")
  | "AGGREGATE" => aggregateStep g
  | "ORDER" =>
    let _ ← oneOf ["BY"]
    discard (orderItems g)
  | "TABLESAMPLE" => tableSample g
  | "RENAME" =>
    discard (list d do
      let _ ← identifier
      let _ ← keyword? "AS"
      identifier)
  | "UNION" =>
    let _ ← setQuantifier
    pipedQueries g
  | "CALL" =>
    let _ ← call g (← objectName g).parts
    stepAlias?
  | "PIVOT" => pivotStep g
  | "UNPIVOT" => unpivotStep d
  | k => distinctQueries g k

/-- The steps after a query. -/
def pipes (g : Level) : Rule Unit := do
  if g.dialect.pipeOperator then
    iterate (fun _ => do
      if ← symbol? .pipeGreater then
        if isAhead (← token) pipeJoins then joinStep g
        else pipeStep g (← oneOf (pipeSteps ++ pipeJoins))
        return some ()
      else return none) ()

end SqlCompletion.Sql.Rule
