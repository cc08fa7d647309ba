import SqlCompletion.Sql.Grammar.Stage
import SqlCompletion.Sql.Grammar.TableDefinition

/-!
# Definitions with parts in any order

In one dialect the parts of a table or a database may stand in any order after its name. Nothing of
a definition is kept.
-/

namespace SqlCompletion.Sql.Rule

/-! ## Values -/

/-- A value after an equals sign. -/
def assigned (value : Rule Unit) : Rule Unit := do
  let _ ← symbol .equal
  value

/-- A string after an equals sign. -/
def assignedText (d : Dialect) : Rule Unit :=
  assigned (discard (textLiteral d))

/-- One of several words after an equals sign. A rejection names the first token of the part. -/
def assignedWord (first : Option Lexeme) (words : List String) (what : String) : Rule Unit :=
  assigned do
    if (← oneOf? words).isNone then throw (.expected what first)

/-- The words `TRUE` and `FALSE` after an equals sign. -/
def assignedTruth (first : Option Lexeme) : Rule Unit :=
  assignedWord first ["TRUE", "FALSE"] "TRUE or FALSE"

/-- Rejects a part by its first token. -/
def noPart (first : Option Lexeme) : Rule Unit :=
  throw (.expected "end of statement" first)

/-- The rule for a part that tables and databases may have, after its first word. -/
def commonPart? (d : Dialect) (k : String) : Option (Rule Unit) :=
  match k with
  | "DATA_RETENTION_TIME_IN_DAYS" | "MAX_DATA_EXTENSION_TIME_IN_DAYS" =>
    some (assigned (discard wholeNumber))
  | "DEFAULT_DDL_COLLATION" | "EXTERNAL_VOLUME" | "CATALOG" | "CATALOG_SYNC" =>
    some (assignedText d)
  | "STORAGE_SERIALIZATION_POLICY" => some do
    assigned do
      if (← oneOf? ["COMPATIBLE", "OPTIMIZED"]).isNone then
        rejectNext "storage_serialization_policy"
  | _ => none

/-! ## Tables -/

/-- The rest of a policy on the rows of a table. -/
def rowPolicy (g : Level) : Rule Unit := do
  keywords ["ACCESS", "POLICY"]
  let _ ← objectName g
  let _ ← keyword "ON"
  discard (parens (list g.dialect identifier))

/-- The rule for a part of a table that is a clause, after its first word. -/
def tableClause? (g : Level) (first : Option Lexeme) (k : String) : Option (Rule Unit) :=
  match k with
  | "COPY" => some (discard (keyword "GRANTS"))
  | "COMMENT" => some do
    let _ ← symbol? .equal
    commentText
  | "AS" => some (discard g.query)
  | "CLONE" => some (leniently (objectName g))
  | "LIKE" => some (discard (objectName g))
  | "CLUSTER" => some do
    let _ ← keyword "BY"
    discard (parens g.exprs)
  | "WITH" => some do
    if !(← isOneOf ["AGGREGATION", "TAG", "ROW"]) then
      expected "one of AGGREGATION or TAG or ROW"
  | "AGGREGATION" => some do
    let _ ← keyword "POLICY"
    discard (objectName g)
  | "ROW" => some (rowPolicy g)
  | "TAG" => some (tags g)
  | "ON" => some do if ← keyword? "COMMIT" then onCommit else noPart first
  | "IF" => some do if !(← keywords? ["NOT", "EXISTS"]) then noPart first
  | "REQUIRE" => some do if !(← keyword? "USER") then noPart first
  | _ => none

/-- The rule for a part of a table that has a value, after its first word. -/
def tableValue? (d : Dialect) (first : Option Lexeme) (k : String) : Option (Rule Unit) :=
  match k with
  | "ENABLE_SCHEMA_EVOLUTION" | "CHANGE_TRACKING" => some (assignedTruth first)
  | "BASE_LOCATION" | "TARGET_LAG" => some (assignedText d)
  | "WAREHOUSE" => some (assigned (discard identifier))
  | "REFRESH_MODE" =>
    some (assignedWord first ["AUTO", "FULL", "INCREMENTAL"] "AUTO, FULL or INCREMENTAL")
  | "INITIALIZE" =>
    some (assignedWord first ["ON_CREATE", "ON_SCHEDULE"] "ON_CREATE or ON_SCHEDULE")
  | k => commonPart? d k

/-- One more part of a table; `located` says whether its place has been given. -/
def tablePart (g : Level) (located : Bool) : Rule (Option Bool) := do
  match ← token with
  | none | some (.symbol .semicolon) => return none
  | some (.symbol .leftParen) =>
    tableElements? g
    return some located
  | some t =>
    let k := t.keyword?.getD ""
    if k = "AT" || k = "BEFORE" then
      tableVersion? g
      return some located
    else
      let first ← next
      ((tableClause? g first k <|> tableValue? g.dialect first k).getD (noPart first))
      return some (located || k = "BASE_LOCATION")

/-- The definition of a table, after `TABLE`. Some tables need a place. -/
def createFreeTable (g : Level) (needsPlace : Bool) : Rule Unit := do
  ifNotExists
  let _ ← objectName g
  let located ← iterate (tablePart g) false
  if needsPlace && !located then
    throw (.note "BASE_LOCATION is required for ICEBERG tables" none)

/-! ## Databases -/

/-- Whom to ask about something: a purpose and a name. -/
def contact : Rule Unit := do
  let _ ← identifier
  let _ ← symbol .equal
  discard identifier

/-- The rule for a part of a database, after its first word. -/
def databasePart? (g : Level) (first : Option Lexeme) (k : String) : Option (Rule Unit) :=
  let d := g.dialect
  match k with
  | "CLONE" => some (discard (objectName g))
  | "REPLACE_INVALID_CHARACTERS" => some (assignedTruth first)
  | "COMMENT" | "CATALOG_SYNC_NAMESPACE_FLATTEN_DELIMITER" => some (assignedText d)
  | "CATALOG_SYNC_NAMESPACE_MODE" =>
    some (assignedWord first ["NEST", "FLATTEN"] "NEST or FLATTEN")
  | "WITH" => some do
    if ← keyword? "TAG" then tags g
    else if ← keyword? "CONTACT" then discard (parens (list d contact))
    else throw (.expected "TAG or CONTACT" first)
  | k => commonPart? d k

/-- One more part of a database, or what ends them, and whether another one may follow. -/
def databasePart (g : Level) (more : Bool) : Rule (Option Bool) := do
  if !more then return none
  let first ← next
  match first.map Lexeme.token with
  | none | some (.symbol .semicolon) => return some false
  | some t =>
    (databasePart? g first (t.keyword?.getD "")).getD (noPart first)
    return some true

/-- The definition of a database, after `DATABASE`. A semicolon at its end belongs to it. -/
def createFreeDatabase (g : Level) : Rule Unit := do
  ifNotExists
  let _ ← objectName g
  discard (iterate (databasePart g) true)

/-! ## CREATE -/

/-- A definition of a table, a database or a stage, if it is one. If it is another one, as many
words of it are passed over as say where and how the object is kept, apart from those that say that
it is to be temporary. -/
def createFree? (g : Level) : Rule Bool := do
  let start ← get
  if !(← keyword? "CREATE") then return false
  let _ ← keywords? ["OR", "REPLACE"]
  let scope ← oneOf? ["LOCAL", "GLOBAL"]
  let dynamic ← keyword? "DYNAMIC"
  let kind ← oneOf? ["TEMP", "TEMPORARY", "VOLATILE", "TRANSIENT", "ICEBERG"]
  if ← keyword? "STAGE" then
    createStage g
    return true
  else if ← keyword? "TABLE" then
    createFreeTable g (kind == some "ICEBERG")
    return true
  else if ← keyword? "DATABASE" then
    createFreeDatabase g
    return true
  else
    let lasting := kind.any fun k => k != "TEMP" && k != "TEMPORARY"
    let passed := scope.isSome.toNat + dynamic.toNat + lasting.toNat
    set (Nat.repeat afterFirst passed start)
    return false

end SqlCompletion.Sql.Rule
