import SqlCompletion.Sql.Grammar.Time

/-!
# Calls

A call is a name with arguments in parentheses, and what may follow them: an order within a group, a
filter and a window. Columns are looked for in the arguments alone; the other parts only count
towards the extent of the call, and a window not even that.
-/

namespace SqlCompletion.Sql.Rule

/-! ## Order -/

/-- The words `ASC`, `DESC` and where missing values go. -/
def orderOptions : Rule Unit := do
  let _ ← oneOf? ["ASC", "DESC"]
  if !(← keywords? ["NULLS", "FIRST"]) then
    let _ ← keywords? ["NULLS", "LAST"]

/-- An expression after a keyword, if it is there. -/
def clause? (g : Level) (k : String) : Rule (List Expr) := do
  if ← keyword? k then return [← g.anyExpr] else return []

/-- One of the expressions that something is ordered by. -/
structure OrderItem where
  expr : Expr
  /-- The expressions that say how gaps are filled. -/
  fill : List Expr := []

/-- How far an expression that something is ordered by extends. -/
def OrderItem.extent (i : OrderItem) : Range :=
  Expr.extentAll (i.expr :: i.fill)

/-- What may follow one of the expressions that something is ordered by. -/
def orderItemOf (g : Level) (expr : Expr) : Rule OrderItem := do
  orderOptions
  if ← onlyIf g.dialect.columnarClauses (keywords? ["WITH", "FILL"]) then
    let start ← clause? g "FROM"
    let stop ← clause? g "TO"
    let step ← clause? g "STEP"
    return { expr, fill := start ++ stop ++ step }
  else return { expr }

/-- One of the expressions that something is ordered by. -/
def orderItem (g : Level) : Rule OrderItem := do
  orderItemOf g (← g.anyExpr)

/-- How far the expressions extend that something is ordered by. -/
def orderItems (g : Level) : Rule Range := do
  return Range.coverAll ((← list g.dialect (orderItem g)).map OrderItem.extent)

/-! ## Windows -/

/-- A collation after an expression, if there is one. -/
def collated (g : Level) (e : Expr) : Rule Expr := do
  if ← onlyIf (g.context != .column) (keyword? "COLLATE") then
    let collation ← objectName g
    return .compound .collation [e] (e.extent.cover collation.extent)
  else return e

/-- One end of a window frame. -/
def frameBound (g : Level) : Rule Unit := do
  if ← keywords? ["CURRENT", "ROW"] then return ()
  if !(← keyword? "UNBOUNDED") then
    match ← token with
    | some (.string q _) =>
      let value : Rule Expr := do
        if g.dialect.intervalUnits then g.anyExpr
        else collated g (.literal (← literal g.dialect).extent)
      discard (if q = .single then interval g.dialect value else g.anyExpr)
    | _ => discard g.anyExpr
  if (← oneOf? ["PRECEDING", "FOLLOWING"]).isNone then expected "PRECEDING or FOLLOWING"

/-- The frame of a window. -/
def windowFrame (g : Level) : Rule Unit := do
  if (← oneOf? ["ROWS", "RANGE", "GROUPS"]).isNone then rejectNext "ROWS, RANGE, GROUPS"
  if ← keyword? "BETWEEN" then
    frameBound g
    let _ ← keyword "AND"
    frameBound g
  else frameBound g

/-- A window, after its opening parenthesis. -/
def windowSpec (g : Level) : Rule Unit := do
  match ← token with
  | some (.word w) => if w.keyword.isNone then discard next
  | _ => pure ()
  if ← keywords? ["PARTITION", "BY"] then discard g.exprs
  if ← keywords? ["ORDER", "BY"] then discard (orderItems g)
  if !(← symbol? .rightParen) then
    windowFrame g
    discard (symbol .rightParen)

/-! ## Arguments -/

/-- What happens to missing values, if it is said. -/
def nullTreatment? : Rule Bool := do
  if (← oneOf? ["RESPECT", "IGNORE"]).isSome then
    let _ ← keyword "NULLS"
    return true
  else return false

/-- What a function on documents does with missing values, and what type it returns. -/
def documentClauses (g : Level) : Rule Unit := do
  if !(← keywords? ["ABSENT", "ON", "NULL"]) then
    let _ ← keywords? ["NULL", "ON", "NULL"]
  if ← keyword? "RETURNING" then discard (dataType g)

/-- The token may stand for what a list that becomes too long leaves out. -/
def isFiller : Token → Bool
  | .string q _ => [.single, .escaped, .unicode, .national, .hex].contains q
  | _ => false

/-- What happens to a list that becomes too long. -/
def onOverflow? (g : Level) : Rule Unit := do
  if ← keywords? ["ON", "OVERFLOW"] then
    if !(← keyword? "ERROR") then
      let _ ← keyword "TRUNCATE"
      if ((← token).map isFiller).getD false then discard g.anyExpr
      else if !(← isOneOf ["WITH", "WITHOUT"]) then
        expected "either filler, WITH, or WITHOUT in LISTAGG"
      if (← oneOf? ["WITH", "WITHOUT"]).isNone then
        expected "either WITH or WITHOUT in LISTAGG"
      discard (keyword "COUNT")

/-- One of the words `ALL` and `DISTINCT`, but not both. -/
def duplicates : Rule Unit := do
  let place := (← peek).map (·.range.start)
  let all ← keyword? "ALL"
  let distinct ← keyword? "DISTINCT"
  if all && distinct then throw (.note "Cannot specify both ALL and DISTINCT" place)

/-- Arguments, after the opening parenthesis, with the closing one. Of their order the expressions
alone count. -/
def argumentList (g : Level) : Rule Arguments := do
  let d := g.dialect
  documentClauses g
  if ← symbol? .rightParen then return {}
  duplicates
  let items ← list d (argument g)
  let treatment ← if d.nullTreatmentArguments then nullTreatment? else pure false
  let order ← afterAll? ["ORDER", "BY"] (list d (orderItem g))
  let limit ← clause? g "LIMIT"
  let bound ←
    if ← onlyIf (d == .generic || d == .bigquery) (keyword? "HAVING") then
      let _ ← oneOf ["MIN", "MAX"]
      pure [← g.anyExpr]
    else pure []
  if ← onlyIf (d == .generic || d == .mysql) (keyword? "SEPARATOR") then discard (literal d)
  onOverflow? g
  documentClauses g
  let _ ← symbol .rightParen
  let all := items.foldl Arguments.append {}
  return { all with
    rest := all.rest.cover (Expr.extentAll ((order.getD []).map (·.expr) ++ limit ++ bound))
    nullTreatment := treatment }

/-- Arguments and nothing else, after the opening parenthesis, with the closing one. -/
def plainArguments (g : Level) : Rule Arguments := do
  let items ← listUnless g.dialect .rightParen (argument g)
  let _ ← symbol .rightParen
  return items.foldl Arguments.append {}

/-- Keys and values after `SETTINGS`; whether there are any. -/
def settings? (g : Level) : Rule Bool := do
  if ← onlyIf g.dialect.columnarClauses (keyword? "SETTINGS") then
    let _ ← list g.dialect (namedOption g)
    return true
  else return false

/-- Arguments of a table function, after the opening parenthesis, with the closing one. Settings may
end them. -/
def tableArguments (g : Level) : Rule Unit := do
  if !(← symbol? .rightParen) then
    let _ ← iterate (fun go => do
      if ← onlyIf go (settings? g) then return some false
      else if !go then return none
      else
        let _ ← argument g
        return some (← listGoesOn (usualStop? g.dialect))) true
    discard (symbol .rightParen)

/-! ## Calls -/

/-- The order of a group after a call. -/
def withinGroup? (g : Level) : Rule Range := do
  let order ← afterAll? ["WITHIN", "GROUP"] (parens do
    keywords ["ORDER", "BY"]
    orderItems g)
  return order.getD .none

/-- The filter after a call. Its first words are passed over even if no filter follows. -/
def filter? (g : Level) : Rule Range := do
  if !g.dialect.aggregateFilters then return .none
  if !(← keyword? "FILTER") then return .none
  if !(← symbol? .leftParen) then return .none
  if !(← keyword? "WHERE") then return .none
  let e ← g.anyExpr
  let _ ← symbol .rightParen
  return e.extent

/-- The window after a call. -/
def over? (g : Level) : Rule Unit := do
  if ← keyword? "OVER" then
    if ← symbol? .leftParen then windowSpec g
    else discard identifier

/-- The next token starts a query. -/
def startsQuery : Rule Bool :=
  isOneOf ["SELECT", "WITH"]

/-- The rest of a call after its arguments. -/
def callWith (g : Level) (function : List Ident) : Rule Expr := do
  let first ← argumentList g
  let (parameters, arguments) ←
    if ← onlyIf g.dialect.parameterLists (symbol? .leftParen) then
      pure (first.extent, ← argumentList g)
    else pure (.none, first)
  let group ← withinGroup? g
  let filter ← filter? g
  if !arguments.nullTreatment then discard nullTreatment?
  over? g
  return .call function arguments.searched
    (Range.coverAll [arguments.rest, parameters, filter, group])

/-- A call, after its name. -/
def call (g : Level) (function : List Ident) : Rule Expr := do
  let _ ← symbol .leftParen
  if g.dialect.queryArguments && (← startsQuery) then
    let q ← g.query
    let _ ← symbol .rightParen
    return .call function [] q.extent
  else callWith g function

end SqlCompletion.Sql.Rule
