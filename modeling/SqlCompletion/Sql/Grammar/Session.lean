import SqlCompletion.Sql.Grammar.Relation
import SqlCompletion.Sql.Grammar.Transaction

/-!
# Sessions

The statements that show and change the state of a session: its variables, its current database, and
the tables that it locks. Nothing of them is kept.
-/

namespace SqlCompletion.Sql.Rule

/-! ## Values of variables -/

/-- A value that a variable gets: an expression, or a query even without parentheses. However an
expression is rejected, a value is missing where its tokens end. -/
def variableValue (g : Level) : Rule Unit := do
  if ← startsQuery then discard g.query
  else
    try discard g.anyExpr
    catch _ => expected "variable value"

/-- The values that a variable gets. -/
def variableValues (g : Level) : Rule Unit := do
  variableValue g
  iterate (fun _ => do
    if ← symbol? .comma then
      variableValue g
      return some ()
    else return none) ()

/-- An equals sign or the word `TO`, if one of them is next. -/
def assignmentSign? : Rule Bool :=
  symbol? .equal <||> keyword? "TO"

/-- How far a variable reaches. -/
def variableScopes : List String := ["SESSION", "LOCAL", "GLOBAL"]

/-- One of several assignments with commas between them. -/
def variableAssignment (g : Level) : Rule Unit := do
  let _ ← oneOf? variableScopes
  let _ ← objectName g
  if ← assignmentSign? then discard g.anyExpr else expected "assignment operator"

/-! ## SET -/

/-- The rest of `SET ROLE`, with the word `ROLE`. -/
def setRole : Rule Unit := do
  let _ ← keyword "ROLE"
  if !(← keyword? "NONE") then discard identifier

/-- The rest of `SET NAMES`. -/
def setNames (d : Dialect) : Rule Unit := do
  if !(← keyword? "DEFAULT") then
    let _ ← identifier
    if ← keyword? "COLLATE" then discard (textLiteral d)

/-- A form of `SET` that starts with words of its own; whether there was one. -/
def setSpecial? (g : Level) : Rule Bool := do
  let d := g.dialect
  if (← attempt setRole).isSome then return true
  else if ← keywords? ["TIME", "ZONE"] <||> keyword? "TIMEZONE" then
    if ← assignmentSign? then variableValues g else discard g.anyExpr
    return true
  else if ← onlyIf ([.generic, .mysql, .postgres].contains d) (keyword? "NAMES") then
    setNames d
    return true
  else if ← keyword? "CHARACTERISTICS" then
    keywords ["AS", "TRANSACTION"]
    transactionModes
    return true
  else if ← keyword? "TRANSACTION" then
    if ← keyword? "SNAPSHOT" then discard (literal d) else transactionModes
    return true
  else return false

/-- A setting that is on or off. -/
def switch : Rule Unit := do
  if (← oneOf? ["ON", "OFF"]).isNone then expected "ON or OFF"

/-- Any word. -/
def anyWord (what : String) : Rule Unit := do
  match ← token with
  | some (.word _) => discard next
  | _ => expected what

/-- Settings of a session without a sign between their names and their values. -/
def setSettings (g : Level) : Rule Unit := do
  let d := g.dialect
  if ← keyword? "STATISTICS" then
    if (← oneOf? ["IO", "PROFILE", "TIME", "XML"]).isNone then expected "IO, PROFILE, TIME or XML"
    switch
  else if ← keyword? "IDENTITY_INSERT" then
    let _ ← objectName g
    switch
  else if ← keyword? "OFFSETS" then
    let _ ← list d (anyWord "SQL keyword")
    switch
  else
    let _ ← list d (anyWord "Session param name")
    discard g.anyExpr

/-- The rest of `SET` if it gives values to variables. -/
def setVariables (g : Level) : Rule Unit := do
  let d := g.dialect
  if ← onlyIf ([.generic, .bigquery, .snowflake].contains d) (symbol? .leftParen) then
    let _ ← list d identifier
    let _ ← symbol .rightParen
    if ← assignmentSign? then parens (variableValues g) else expected "equals sign or TO"
  else
    let start ← get
    let _ ← objectName g
    if ← assignmentSign? then variableValues g
    else if d == .mssql then
      stepBack start
      setSettings g
    else expected "equals sign or TO"

/-- The rest of `SET`. Where several assignments may be made at once, they are tried first, with the
scope of the first one. -/
def setStatement (g : Level) : Rule Unit := do
  let d := g.dialect
  let special ← keyword? "HIVEVAR"
  if special then discard (symbol .colon)
  let start ← get
  if !special then discard (oneOf? variableScopes)
  if ← setSpecial? g then return
  if d == .generic || d == .mysql then
    set start
    if (← attempt (list d (variableAssignment g))).isSome then return
  setVariables g

/-! ## SHOW -/

/-- Which of the things that could be shown are shown, if that is said. -/
def showFilter? (g : Level) : Rule Bool := do
  let d := g.dialect
  if (← oneOf? ["LIKE", "ILIKE"]).isSome then
    let _ ← textLiteral d
    return true
  else if ← keyword? "WHERE" then
    let _ ← g.anyExpr
    return true
  else return (← attempt (textLiteral d)).isSome

/-- Where the things are that are shown, if that is said. -/
def showPlace? (g : Level) : Rule Unit := do
  if (← oneOf? ["FROM", "IN"]).isSome then
    match ← oneOf? ["ACCOUNT", "DATABASE", "SCHEMA", "TABLE", "VIEW"] with
    | some k =>
      let ends ← (do return startWith ["STARTS", "WITH"] (← get)) <||> isKeyword "LIMIT"
      if !((k = "DATABASE" || k = "SCHEMA") && ends) then discard (attempt (objectName g))
    | none =>
      let _ ← objectName g
      if (← oneOf? ["FROM", "IN"]).isSome then discard identifier

/-- The options of `SHOW` for several things. -/
def showOptions (g : Level) : Rule Unit := do
  let d := g.dialect
  if d == .snowflake then
    let _ ← showFilter? g
    showPlace? g
  else
    showPlace? g
    let _ ← showFilter? g
  if ← keywords? ["STARTS", "WITH"] then discard (literal d)
  if ← keyword? "LIMIT" then
    if !(← keyword? "ALL") then discard g.anyExpr
  if ← keyword? "FROM" then discard (literal d)

/-- The rest of `SHOW`. Where variables and states cannot be filtered, their words are passed over.
-/
def showStatement (g : Level) : Rule Unit := do
  let d := g.dialect
  let filtered := d == .generic || d == .mysql
  let _ ← keyword? "TERSE"
  if ← onlyIf (d == .snowflake) (keyword? "OBJECTS") then showOptions g
  else
    let extended ← keyword? "EXTENDED"
    let full ← keyword? "FULL"
    ["SESSION", "GLOBAL"].forM fun k => discard (keyword? k)
    let outside ← keyword? "EXTERNAL"
    if (← oneOf? ["COLUMNS", "FIELDS"]).isSome then showOptions g
    else if ← keyword? "TABLES" then
      let _ ← onlyIf (!outside) (keyword? "HISTORY")
      showOptions g
    else if ← keywords? ["MATERIALIZED", "VIEWS"] <||> keyword? "VIEWS" then showOptions g
    else if ← keyword? "FUNCTIONS" then discard (showFilter? g)
    else if extended || full then
      throw (.note "EXTENDED/FULL are not supported with this type of SHOW query" none)
    else if ← keyword? "CREATE" then
      let _ ← oneOf ["TABLE", "TRIGGER", "FUNCTION", "PROCEDURE", "EVENT", "VIEW"]
      discard (objectName g)
    else if ← keyword? "COLLATION" then discard (showFilter? g)
    else if (← keyword? "VARIABLES") && filtered then discard (showFilter? g)
    else if (← keyword? "STATUS") && filtered then discard (showFilter? g)
    else if (← oneOf? ["DATABASES", "SCHEMAS"]).isSome then
      let _ ← keyword? "HISTORY"
      showOptions g
    else if ← keyword? "CHARSET" <||> keywords? ["CHARACTER", "SET"] then
      discard (showFilter? g)
    else modify afterNames

/-! ## Other statements -/

/-- The rest of `USE`. -/
def useStatement (g : Level) : Rule Unit := do
  let kinds :=
    match g.dialect with
    | .databricks => ["CATALOG", "DATABASE", "SCHEMA"]
    | .snowflake => ["DATABASE", "SCHEMA", "WAREHOUSE", "ROLE", "SECONDARY"]
    | _ => []
  if ← onlyIf (g.dialect == .hive) (keyword? "DEFAULT") then return
  if (← oneOf? kinds) == some "SECONDARY" then
    let _ ← oneOf ["ROLES", "ROLE"]
    if (← oneOf? ["NONE", "ALL"]).isNone then discard (list g.dialect identifier)
  else discard (objectName g)

/-- The rest of `DISCARD`. -/
def discardStatement : Rule Unit := do
  if (← oneOf? ["ALL", "PLANS", "SEQUENCES", "TEMP", "TEMPORARY"]).isNone then
    expected "ALL, PLANS, SEQUENCES, TEMP or TEMPORARY after DISCARD"

/-- A table that is locked. -/
def lockedTable : Rule Unit := do
  let _ ← identifier
  let _ ← alias? (unlessReserved ["READ", "WRITE", "LOW_PRIORITY"])
  if ← keyword? "READ" then discard (keyword? "LOCAL")
  else if ← keyword? "WRITE" <||> keywords? ["LOW_PRIORITY", "WRITE"] then return
  else expected "an lock type in LOCK TABLES"

end SqlCompletion.Sql.Rule
