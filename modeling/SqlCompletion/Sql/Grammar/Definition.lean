import SqlCompletion.Sql.Grammar.Privilege
import SqlCompletion.Sql.Grammar.Role
import SqlCompletion.Sql.Grammar.Routine
import SqlCompletion.Sql.Grammar.TableDefinition

/-!
# Definitions

The statements that start with `CREATE`. Nothing of them is kept.
-/

namespace SqlCompletion.Sql.Rule

/-! ## Views and indexes -/

/-- The columns of a view, if they are given. -/
def viewColumns? (g : Level) : Rule Unit := do
  let d := g.dialect
  if ← symbol? .leftParen then
    if !(← symbol? .rightParen) then
      let stop? : Option Stop :=
        if d.trailingColumnCommas then some fun w _ => w.isOneOf Keyword.reservedColumnAliases
        else none
      let _ ← listWith stop? do
        let _ ← identifier
        columnOptions g
        if d == .clickhouse then discard (dataType g)
      discard (symbol .rightParen)

/-- The definition of a view. -/
def createView (g : Level) : Rule Unit := do
  let d := g.dialect
  let generic := d == .generic
  let _ ← keyword? "SECURE"
  let _ ← keyword? "MATERIALIZED"
  let _ ← keyword "VIEW"
  let optional ← keywords? ["IF", "NOT", "EXISTS"]
  let _ ← tableName g
  if !optional then ifNotExists
  viewColumns? g
  let _ ← options? g "WITH"
  if ← keyword? "CLUSTER" then
    let _ ← keyword "BY"
    discard (columnList? d false identifier)
  if generic || d == .bigquery then discard (options? g "OPTIONS")
  if ← onlyIf d.columnarClauses (keyword? "TO") then discard (objectName g)
  if ← onlyIf (generic || d == .snowflake) (keyword? "COMMENT") then
    let _ ← symbol .equal
    commentText
  let _ ← keyword "AS"
  let _ ← g.query
  if generic || d == .redshift then
    discard (keywords? ["WITH", "NO", "SCHEMA", "BINDING"])

/-- The rule for what is said about the way in which a table is changed, after its first word. -/
def changeManner? (k : String) : Option (Rule Unit) :=
  let choice (words : List String) (what : String) : Option (Rule Unit) := some do
    let _ ← symbol? .equal
    if (← oneOf? words).isNone then expected what
  match k with
  | "LOCK" =>
    choice ["DEFAULT", "EXCLUSIVE", "NONE", "SHARED"]
      "DEFAULT, EXCLUSIVE, NONE or SHARED after LOCK [=]"
  | "ALGORITHM" =>
    choice ["DEFAULT", "INSTANT", "INPLACE", "COPY"]
      "DEFAULT, INSTANT, INPLACE, or COPY after ALGORITHM [=]"
  | _ => none

/-- The definition of an index. -/
def createIndex (g : Level) : Rule Unit := do
  let d := g.dialect
  let _ ← keyword? "CONCURRENTLY"
  let optional ← keywords? ["IF", "NOT", "EXISTS"]
  if optional || !(← keyword? "ON") then
    let _ ← objectName g
    let _ ← indexMethod?
    discard (keyword "ON")
  let _ ← objectName g
  let _ ← indexMethod?
  indexColumns g
  if ← keyword? "INCLUDE" then discard (parens (list d identifier))
  nullsDistinct?
  if ← onlyIf (d == .generic || d == .postgres) (keyword? "WITH") then discard (parens g.exprs)
  if ← keyword? "WHERE" then discard g.anyExpr
  indexOptions d
  iterate (fun _ => do
    match changeManner? ((← peekKeyword?).getD "") with
    | some manner =>
      let _ ← next
      some <$> manner
    | none => return none) ()

/-! ## Other objects -/

/-- The definition of a schema. -/
def createSchema (g : Level) : Rule Unit := do
  ifNotExists
  if ← keyword? "AUTHORIZATION" then discard identifier
  else
    let _ ← objectName g
    if ← keyword? "AUTHORIZATION" then discard identifier
  if ← keywords? ["DEFAULT", "COLLATE"] then discard g.anyExpr
  let _ ← options? g "WITH"
  let _ ← options? g "OPTIONS"
  if ← keyword? "CLONE" then discard (objectName g)

/-- The definition of a database. -/
def createDatabase (g : Level) : Rule Unit := do
  ifNotExists
  let _ ← objectName g
  iterate (fun _ => do
    if (← oneOf? ["LOCATION", "MANAGEDLOCATION"]).isSome then
      let _ ← textLiteral g.dialect
      return some ()
    else return none) ()
  if ← keyword? "CLONE" then discard (objectName g)

/-- The definition of a sequence. -/
def createSequence (g : Level) : Rule Unit := do
  ifNotExists
  let _ ← objectName g
  if ← keyword? "AS" then discard (dataType g)
  sequenceOptions g.dialect
  if ← keywords? ["OWNED", "BY"] then
    if !(← keyword? "NONE") then discard (objectName g)

/-- One of the attributes of a type, and whether another one follows. -/
def typeAttribute (g : Level) (go : Bool) : Rule (Option Bool) := do
  if !go then return none
  let _ ← identifier
  let _ ← dataType g
  if ← keyword? "COLLATE" then discard (objectName g)
  let comma ← symbol? .comma
  if ← symbol? .rightParen then return some false
  else if comma then return some true
  else expected "',' or ')' after attribute definition"

/-- The definition of a type. -/
def createType (g : Level) : Rule Unit := do
  let _ ← objectName g
  let _ ← keyword "AS"
  if ← keyword? "ENUM" then
    discard (parens (listBefore g.dialect .rightParen identifier))
  else if ← symbol? .leftParen then
    if !(← symbol? .rightParen) then discard (iterate (typeAttribute g) true)

/-- The definition of a domain. -/
def createDomain (g : Level) : Rule Unit := do
  let _ ← objectName g
  let _ ← keyword "AS"
  let _ ← dataType g
  if ← keyword? "COLLATE" then discard identifier
  if ← keyword? "DEFAULT" then discard g.anyExpr
  iterate (fun _ => do if ← tableConstraint? g then return some () else return none) ()

/-- The definition of an extension. -/
def createExtension : Rule Unit := do
  ifNotExists
  let _ ← identifier
  if ← keyword? "WITH" then
    if ← keyword? "SCHEMA" then discard identifier
    if ← keyword? "VERSION" then discard identifier
    discard (keyword? "CASCADE")

/-- A user, who may be given by a role in the session. -/
def owner : Rule Unit := do
  if (← oneOf? ["CURRENT_USER", "CURRENT_ROLE", "SESSION_USER"]).isNone then
    match (← peek).bind identOf? with
    | some _ => discard next
    | none =>
      let reason := (Rejection.expected "identifier" (← peek)).message?.getD ""
      throw (.note ("Expected: CURRENT_USER, CURRENT_ROLE, SESSION_USER or identifier after " ++
        "OWNER TO. sql parser error: " ++ reason) none)

/-- The conditions of a policy. -/
def policyConditions (g : Level) : Rule Unit := do
  if ← keyword? "USING" then discard (parens g.anyExpr)
  if ← keywords? ["WITH", "CHECK"] then discard (parens g.anyExpr)

/-- The definition of a policy. -/
def createPolicy (g : Level) : Rule Unit := do
  let _ ← identifier
  let _ ← keyword "ON"
  let _ ← objectName g
  if ← keyword? "AS" then discard (oneOf ["PERMISSIVE", "RESTRICTIVE"])
  if ← keyword? "FOR" then discard (oneOf ["ALL", "SELECT", "INSERT", "UPDATE", "DELETE"])
  if ← keyword? "TO" then discard (list g.dialect owner)
  policyConditions g

/-- How long something lasts, as the words before it say. -/
structure Duration where
  temporary : Bool := false
  persistent : Bool := false

/-- Rejects what is to last and not to last at once. -/
def Duration.check (d : Duration) : Rule Unit := do
  if d.temporary && d.persistent then expected "TEMPORARY or PERSISTENT"

/-- The definition of a secret. Whatever stands in the place of its name or of its store is taken.
-/
def createSecret (d : Dialect) (duration : Duration) : Rule Unit := do
  ifNotExists
  if !(← isSymbol .leftParen) then
    let stored ← keyword? "IN"
    let named ← anyName
    if !(stored && named) then
      if ← keyword? "IN" then discard anyName
  parens do
    let _ ← keyword "TYPE"
    let _ ← identifier
    if ← symbol? .comma then
      discard (list d do
        let _ ← identifier
        discard identifier)
  duration.check

/-- The definition of a connector. -/
def createConnector (g : Level) : Rule Unit := do
  let d := g.dialect
  ifNotExists
  let _ ← identifier
  if ← keyword? "TYPE" then discard (textLiteral d)
  if ← keyword? "URL" then discard (textLiteral d)
  if ← keyword? "COMMENT" then
    let _ ← symbol? .equal
    commentText
  if ← keywords? ["WITH", "DCPROPERTIES"] then definitionOptions g

/-- The definition of a server elsewhere. -/
def createServer (g : Level) : Rule Unit := do
  ifNotExists
  let _ ← objectName g
  if ← keyword? "TYPE" then discard identifier
  if ← keyword? "VERSION" then discard identifier
  keywords ["FOREIGN", "DATA", "WRAPPER"]
  let _ ← objectName g
  if ← keyword? "OPTIONS" then
    discard (parens (list g.dialect do
      let _ ← identifier
      discard identifier))

/-! ## CREATE -/

/-- Triggers can be defined. -/
def triggers (d : Dialect) : Bool :=
  [.generic, .mssql, .mysql, .postgres].contains d

/-- The definition of an object that starts with the given keyword, if it may also replace another
one. -/
def replacement? (g : Level) (inner : Rule Statement) (duration : Duration) (k : String) :
    Option (Rule Unit) :=
  let d := g.dialect
  match k with
  | "TABLE" => some (createTable g)
  | "POLICY" => some (createPolicy g)
  | "EXTERNAL" => some (createExternalTable g)
  | "FUNCTION" => createFunction? g inner
  | "DOMAIN" => some (createDomain g)
  | "TRIGGER" => if triggers d then some (createTrigger g inner) else none
  | "MACRO" => if d == .generic || d == .duckdb then some (createMacro g) else none
  | "SECRET" => some (createSecret d duration)
  | "USER" => some createUser
  | _ => none

/-- The definition of an object that starts with the given keyword, if it cannot replace another
one. -/
def firstDefinition? (g : Level) (inner : Rule Statement) (k : String) : Option (Rule Unit) :=
  match k with
  | "EXTENSION" => some createExtension
  | "INDEX" => some (createIndex g)
  | "VIRTUAL" => some (createVirtualTable g)
  | "SCHEMA" => some (createSchema g)
  | "DATABASE" => some (createDatabase g)
  | "ROLE" => some (createRole g)
  | "SEQUENCE" => some (createSequence g)
  | "TYPE" => some (createType g)
  | "PROCEDURE" => some (createProcedure g inner)
  | "CONNECTOR" => some (createConnector g)
  | "SERVER" => some (createServer g)
  | _ => none

/-- How a view is computed and with whose rights, before the word `VIEW`. -/
def viewParameters (g : Level) : Rule Unit := do
  if ← keyword? "ALGORITHM" then
    let _ ← symbol .equal
    discard (oneOf ["UNDEFINED", "MERGE", "TEMPTABLE"])
  if ← keyword? "DEFINER" then
    let _ ← symbol .equal
    granteeName g
  if ← keywords? ["SQL", "SECURITY"] then discard (oneOf ["DEFINER", "INVOKER"])

/-- The words of a view are next. -/
def startsView : Rule Bool := do
  let s ← get
  return [["MATERIALIZED"], ["VIEW"], ["SECURE", "MATERIALIZED", "VIEW"], ["SECURE", "VIEW"]].any
    (startWith · s)

/-- The definition of a trigger as a constraint, after its words. -/
def constraintTrigger (g : Level) (inner : Rule Statement) (start : List Lexeme) : Rule Unit := do
  if triggers g.dialect then createTrigger g inner
  else
    stepBack start
    expected "an object type after CREATE"

/-- The definition of what comes after the words that say how it is defined. -/
def createObject (g : Level) (inner : Rule Statement) (replace : Bool) (duration : Duration) :
    Rule Unit := do
  let start ← get
  let k := (← peekKeyword?).getD ""
  if ← startsView then createView g
  else if ← keywords? ["CONSTRAINT", "TRIGGER"] then constraintTrigger g inner start
  else
    match replacement? g inner duration k, firstDefinition? g inner k with
    | some definition, _ =>
      let _ ← next
      definition
    | none, some definition =>
      if replace then
        expected "[EXTERNAL] TABLE or [MATERIALIZED] VIEW or FUNCTION after CREATE OR REPLACE"
      let _ ← next
      definition
    | none, none =>
      if replace && k != "FUNCTION" && k != "TRIGGER" && k != "MACRO" then
        expected "[EXTERNAL] TABLE or [MATERIALIZED] VIEW or FUNCTION after CREATE OR REPLACE"
      else if ← keywords? ["UNIQUE", "INDEX"] then createIndex g
      else expected "an object type after CREATE"

/-- The rest of `CREATE`. -/
def create (g : Level) (inner : Rule Statement) : Rule Unit := do
  let d := g.dialect
  let start ← get
  if d == .mssql && (startWith ["TRIGGER"] start || startWith ["OR", "ALTER", "TRIGGER"] start) then
    let _ ← keywords? ["OR", "ALTER"]
    let _ ← next
    createTableTrigger g inner
  else
    let replace ← keywords? ["OR", "REPLACE"]
    let _ ← keywords? ["OR", "ALTER"]
    ["LOCAL", "GLOBAL", "TRANSIENT"].forM fun k => discard (keyword? k)
    let temporary := (← oneOf? ["TEMP", "TEMPORARY"]).isSome
    let persistent ← onlyIf (d == .duckdb) (keyword? "PERSISTENT")
    viewParameters g
    createObject g inner replace { temporary, persistent }

end SqlCompletion.Sql.Rule
