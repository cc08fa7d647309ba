import SqlCompletion.Sql.Grammar.Block
import SqlCompletion.Sql.Grammar.Query

/-!
# Definitions of functions, procedures and triggers

Dialects differ in how a function is defined: by properties in any order, by an expression, by
statements, by a file or as a macro. Nothing of a definition is kept.
-/

namespace SqlCompletion.Sql.Rule

/-! ## Functions -/

/-- The last token that was taken since `start`. -/
def lastTaken? (start : List Lexeme) : Rule (Option Lexeme) := do
  let rest ← get
  return (start.take (start.length - rest.length)).getLast?

/-- A parameter of a function: a type with or without a name, and a value that it may have. What
ends with a word before the type is its name. -/
def functionParameter (g : Level) : Rule Unit := do
  let _ ← oneOf? ["IN", "OUT", "INOUT"]
  let start ← get
  let _ ← dataType g
  let last ← lastTaken? start
  if (← attempt (dataType g)).isSome && (last.bind (·.token.word?)).isNone then
    throw (.expected "a name or type" last)
  if ← keyword? "DEFAULT" <||> symbol? .equal then discard g.anyExpr

/-- A function with the types of its parameters, if they are given. -/
def functionSignature (g : Level) : Rule Unit := do
  let _ ← objectName g
  if ← symbol? .leftParen then
    if !(← symbol? .rightParen) then
      let _ ← list g.dialect (functionParameter g)
      discard (symbol .rightParen)

/-- A function and its parameters, each with a name. -/
def namedParameters (g : Level) : Rule Unit := do
  let _ ← objectName g
  discard (parens (listBefore g.dialect .rightParen do
    let _ ← identifier
    let _ ← dataType g
    if ← symbol? .equal then discard g.anyExpr))

/-- The text of a function. -/
def functionText (d : Dialect) : Rule Unit := do
  match ← token with
  | some (.string q _) =>
    if (d == .generic || d == .postgres) && q.before.startsWith "$" then discard next
    else discard (textLiteral d)
  | _ => discard (textLiteral d)

/-- The properties of a function of which each may be given once. -/
inductive FunctionTrait where
  | body | language | behavior | missingInput | parallel
  deriving DecidableEq

/-- The properties of a function that have been given. -/
abbrev FunctionTraits := List FunctionTrait

/-- One more property of a function, which none of the given ones may be. Messages call it by
`label`, and `value` reads its value. -/
def FunctionTraits.add (given : FunctionTraits) (t : FunctionTrait) (label : String)
    (value : Rule Unit) : Rule (Option FunctionTraits) := do
  if given.contains t then throw (.note (label ++ " specified more than once") none)
  value
  return some (t :: given)

/-- One more property of a function, if there is one. -/
def functionTrait? (g : Level) (given : FunctionTraits) : Rule (Option FunctionTraits) := do
  if ← keyword? "AS" then given.add .body "AS" (functionText g.dialect)
  else if ← keyword? "LANGUAGE" then given.add .language "LANGUAGE" (discard identifier)
  else if (← oneOf? ["IMMUTABLE", "STABLE", "VOLATILE"]).isSome then
    given.add .behavior "IMMUTABLE | STABLE | VOLATILE" (pure ())
  else if ← keywords? ["CALLED", "ON", "NULL", "INPUT"] <||>
      keywords? ["RETURNS", "NULL", "ON", "NULL", "INPUT"] <||> keyword? "STRICT" then
    given.add .missingInput "CALLED ON NULL INPUT | RETURNS NULL ON NULL INPUT | STRICT" (pure ())
  else if ← keyword? "PARALLEL" then
    given.add .parallel "PARALLEL \x7b UNSAFE | RESTRICTED | SAFE \x7d" do
      if (← oneOf? ["UNSAFE", "RESTRICTED", "SAFE"]).isNone then
        expected "one of UNSAFE | RESTRICTED | SAFE"
  else if ← keyword? "RETURN" then given.add .body "RETURN" (discard g.anyExpr)
  else return none

/-- The definition of a function by properties in any order. -/
def createTraitFunction (g : Level) : Rule Unit := do
  let _ ← objectName g
  let _ ← parens (listUnless g.dialect .rightParen (functionParameter g))
  if ← keyword? "RETURNS" then discard (dataType g)
  discard (iterate (functionTrait? g) [])

/-- The definition of a function by an expression, or by a service that computes it. -/
def createExpressionFunction (g : Level) : Rule Unit := do
  ifNotExists
  namedParameters g
  if ← keyword? "RETURNS" then discard (dataType g)
  if !(← keyword? "DETERMINISTIC") then discard (keywords? ["NOT", "DETERMINISTIC"])
  if ← keyword? "LANGUAGE" then discard identifier
  let remote ← keywords? ["REMOTE", "WITH", "CONNECTION"]
  if remote then discard (objectName g)
  let early ← isKeyword "OPTIONS"
  let _ ← options? g "OPTIONS"
  if !remote then
    let _ ← keyword "AS"
    let _ ← g.anyExpr
    if !early then discard (options? g "OPTIONS")

/-- A table with a name and columns, as the result of a function. -/
def namedTableType (g : Level) : Rule Unit := do
  let _ ← identifier
  let _ ← keyword "TABLE"
  let columns ← parens (list g.dialect g.column)
  if columns.isEmpty then complain "Expected table column definitions after TABLE keyword"

/-- The definition of a function by statements or a result. -/
def createStatementFunction (g : Level) (inner : Rule Statement) : Rule Unit := do
  namedParameters g
  let _ ← keyword "RETURNS"
  if (← attempt (namedTableType g)).isNone then discard (dataType g)
  let _ ← keyword? "AS"
  if ← keyword? "BEGIN" then
    statementList inner (discard (symbol .semicolon)) ["END"]
    discard (keyword "END")
  else if ← keyword? "RETURN" then
    if ← isSymbol .leftParen then discard g.anyExpr
    else if ← isKeyword "SELECT" then discard (selectFrom g none)
    else complain "Expected a subquery (or bare SELECT statement) after RETURN"
  else complain "Unparsable function body"

/-- The definition of a function whose code is in a file. -/
def createFileFunction (g : Level) : Rule Unit := do
  let _ ← objectName g
  let _ ← keyword "AS"
  functionText g.dialect
  if ← keyword? "USING" then
    let _ ← oneOf ["JAR", "FILE", "ARCHIVE"]
    discard (textLiteral g.dialect)

/-- The definition of a macro. -/
def createMacro (g : Level) : Rule Unit := do
  let d := g.dialect
  let _ ← objectName g
  let _ ← parens (listUnless d .rightParen do
    let _ ← identifier
    if ← symbol? .colonEqual <||> symbol? .fatArrow then discard g.anyExpr)
  let _ ← keyword "AS"
  if ← keyword? "TABLE" then discard g.query else discard g.anyExpr

/-- The rule for functions, where they can be defined. -/
def createFunction? (g : Level) (inner : Rule Statement) : Option (Rule Unit) :=
  match g.dialect with
  | .hive => some (createFileFunction g)
  | .postgres | .generic => some (createTraitFunction g)
  | .duckdb => some (createMacro g)
  | .bigquery => some (createExpressionFunction g)
  | .mssql => some (createStatementFunction g inner)
  | _ => none

/-- A parameter of a procedure. -/
def procedureParameter (g : Level) : Rule Unit := do
  let _ ← oneOf? ["IN", "OUT", "INOUT"]
  let _ ← identifier
  let _ ← dataType g
  if ← symbol? .equal then discard g.anyExpr

/-- One of the parameters of a procedure, which may be left out before a comma or a parenthesis, and
whether another one follows. -/
def procedureParameterStep (g : Level) (more : Bool) : Rule (Option Bool) := do
  if !more then return none
  if ((← token).bind Token.word?).isSome then procedureParameter g
  let comma ← symbol? .comma
  if ← symbol? .rightParen then return some false
  else if comma then return some true
  else expected "',' or ')' after parameter definition"

/-- The definition of a procedure. -/
def createProcedure (g : Level) (inner : Rule Statement) : Rule Unit := do
  let _ ← objectName g
  if ← symbol? .leftParen then
    if !(← symbol? .rightParen) then discard (iterate (procedureParameterStep g) true)
  if ← keyword? "LANGUAGE" then discard identifier
  let _ ← keyword "AS"
  branch inner ["END"]

/-! ## Triggers -/

/-- What sets off a trigger. -/
def triggerEvent (d : Dialect) : Rule Unit := do
  if (← oneOf ["INSERT", "UPDATE", "DELETE", "TRUNCATE"]) = "UPDATE" then
    if ← keyword? "OF" then discard (list d identifier)

/-- When a trigger acts. -/
def triggerPeriod : Rule Unit := do
  if (← oneOf ["FOR", "BEFORE", "AFTER", "INSTEAD"]) = "INSTEAD" then discard (keyword "OF")

/-- The definition of a trigger that names its table first. -/
def createTableTrigger (g : Level) (inner : Rule Statement) : Rule Unit := do
  let d := g.dialect
  let _ ← objectName g
  let _ ← keyword "ON"
  let _ ← objectName g
  triggerPeriod
  let _ ← list d (triggerEvent d)
  let _ ← keyword "AS"
  branch inner ["END"]

/-- The name under which a trigger sees the rows before or after a change, if there is another one.
The first word is taken even if the second does not follow. -/
def transitionTable? (g : Level) : Rule (Option Unit) := do
  if (← oneOf? ["OLD", "NEW"]).isSome then
    if ← keyword? "TABLE" then
      let _ ← keyword? "AS"
      let _ ← objectName g
      return some ()
    else return none
  else return none

/-- The definition of a trigger. -/
def createTrigger (g : Level) (inner : Rule Statement) : Rule Unit := do
  let d := g.dialect
  let _ ← objectName g
  triggerPeriod
  triggerEvent d
  iterate (fun _ => do
    if ← keyword? "OR" then
      triggerEvent d
      return some ()
    else return none) ()
  let _ ← keyword "ON"
  let _ ← objectName g
  if ← keyword? "FROM" then leniently (tableName g)
  constraintTraits
  if ← keyword? "REFERENCING" then iterate (fun _ => transitionTable? g) ()
  let _ ← keyword "FOR"
  let _ ← keyword? "EACH"
  let _ ← oneOf ["ROW", "STATEMENT"]
  if ← keyword? "WHEN" then discard g.anyExpr
  if ← keyword? "EXECUTE" then
    let _ ← oneOf ["FUNCTION", "PROCEDURE"]
    functionSignature g
  else branch inner ["END"]

end SqlCompletion.Sql.Rule
