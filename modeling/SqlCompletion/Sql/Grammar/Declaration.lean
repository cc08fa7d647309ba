import SqlCompletion.Sql.Grammar.DataType
import SqlCompletion.Sql.Grammar.Call

/-!
# Variables and cursors

The statements that declare variables and cursors, and those that move cursors over the rows of
their queries. Nothing of them is kept.
-/

namespace SqlCompletion.Sql.Rule

/-! ## Declarations -/

/-- A cursor, from its name to its query. -/
def declareCursor (g : Level) : Rule Unit := do
  let _ ← identifier
  let _ ← keyword? "BINARY"
  let _ ← oneOf? ["INSENSITIVE", "ASENSITIVE"]
  let _ ← keyword? "SCROLL" <||> keywords? ["NO", "SCROLL"]
  let _ ← keyword "CURSOR"
  if (← oneOf? ["WITH", "WITHOUT"]).isSome then discard (keyword "HOLD")
  let _ ← keyword "FOR"
  discard g.query

/-- Variables with a type, a first value, or both. -/
def declareTogether (g : Level) : Rule Unit := do
  let _ ← list g.dialect identifier
  if ← isKeyword "DEFAULT" then
    let _ ← next
    discard g.anyExpr
  else
    let _ ← dataType g
    if ← keyword? "DEFAULT" then discard g.anyExpr

/-- The first value of a variable, if it has one. -/
def firstValue? (g : Level) : Rule Bool := do
  if ← keyword? "DEFAULT" <||> symbol? .colonEqual then
    let _ ← g.anyExpr
    return true
  else return false

/-- A variable, a cursor, a set of results or an exception. -/
def declareScripted (g : Level) : Rule Unit := do
  let _ ← identifier
  if ← keyword? "CURSOR" then
    let _ ← keyword "FOR"
    if ← isKeyword "SELECT" then discard g.query else discard g.anyExpr
  else if ← keyword? "RESULTSET" then
    if !(← isSymbol .semicolon) then discard (firstValue? g)
  else if ← keyword? "EXCEPTION" then
    if ← isSymbol .leftParen then discard g.anyExpr
  else if !(← firstValue? g) then
    match ← token with
    | some (.word _) =>
      let _ ← dataType g
      discard (firstValue? g)
    | _ => return

/-- Declarations with semicolons between them, as long as a name follows that is no keyword. -/
def declareScript (g : Level) : Rule Unit := do
  declareScripted g
  iterate (fun _ => do
    match ← tokenAt 0, ← tokenAt 1 with
    | some (.symbol .semicolon), some (.word w) =>
      if (Keyword.ofWord? w.value.toList).isNone then
        let _ ← next
        declareScripted g
        return some ()
      else return none
    | _, _ => return none) ()

/-- A variable whose name starts with a sign, or a cursor. -/
def declareLocal (g : Level) : Rule Unit := do
  let name ← identifier
  if ← keyword? "CURSOR" then pure ()
  else if name.value.startsWith "@" then
    let _ ← keyword? "AS"
    discard (dataType g)
  else throw (.note "Invalid MsSql variable declaration." none)
  if ← keyword? "FOR" then discard g.query
  else if ← symbol? .equal then discard g.anyExpr

/-- The rest of `DECLARE`. -/
def declareStatement (g : Level) : Rule Unit :=
  match g.dialect with
  | .bigquery => declareTogether g
  | .snowflake => declareScript g
  | .mssql => discard (list g.dialect (declareLocal g))
  | _ => declareCursor g

/-! ## Cursors -/

/-- Which rows a cursor fetches. -/
def fetchDirection (d : Dialect) : Rule Unit := do
  match ← oneOf? ["NEXT", "PRIOR", "FIRST", "LAST", "ABSOLUTE", "RELATIVE", "FORWARD", "BACKWARD",
    "ALL"] with
  | some "ABSOLUTE" | some "RELATIVE" => numberLiteral d
  | some "FORWARD" | some "BACKWARD" => if !(← keyword? "ALL") then numberLiteral d
  | some _ => return
  | none => numberLiteral d

/-- The rest of `FETCH`. -/
def fetchStatement (g : Level) : Rule Unit := do
  fetchDirection g.dialect
  if (← oneOf? ["FROM", "IN"]).isNone then complain "Expected FROM or IN"
  let _ ← identifier
  if ← keyword? "INTO" then discard (objectName g)

/-- The rest of `CLOSE`. -/
def closeStatement : Rule Unit := do
  if !(← keyword? "ALL") then discard identifier

end SqlCompletion.Sql.Rule
