import SqlCompletion.Sql.Grammar.DataType

/-!
# Privileges

The statements that give privileges to users and take them away. Nothing of them is kept.
-/

namespace SqlCompletion.Sql.Rule

/-! ## Privileges -/

/-- Privileges of several words. -/
def longPrivileges : List (List String) :=
  [["IMPORTED", "PRIVILEGES"], ["ADD", "SEARCH", "OPTIMIZATION"], ["ATTACH", "LISTING"],
    ["ATTACH", "POLICY"], ["BIND", "SERVICE", "ENDPOINT"], ["EVOLVE", "SCHEMA"],
    ["IMPORT", "SHARE"], ["MANAGE", "VERSIONS"], ["MANAGE", "RELEASES"],
    ["OVERRIDE", "SHARE", "RESTRICTIONS"], ["PURCHASE", "DATA", "EXCHANGE", "LISTING"],
    ["RESOLVE", "ALL"], ["READ", "SESSION"]]

/-- What the privilege to apply something may concern. -/
def applicableObjects : List (List String) :=
  [["AGGREGATION", "POLICY"], ["AUTHENTICATION", "POLICY"], ["JOIN", "POLICY"],
    ["MASKING", "POLICY"], ["PACKAGES", "POLICY"], ["PASSWORD", "POLICY"],
    ["PROJECTION", "POLICY"], ["ROW", "ACCESS", "POLICY"], ["SESSION", "POLICY"], ["TAG"]]

/-- What the privilege to create something may concern. -/
def creatableObjects : List (List String) :=
  [["APPLICATION", "PACKAGE"], ["COMPUTE", "POOL"], ["DATA", "EXCHANGE", "LISTING"],
    ["EXTERNAL", "VOLUME"], ["FAILOVER", "GROUP"], ["NETWORK", "POLICY"],
    ["ORGANIZATION", "LISTING"], ["REPLICATION", "GROUP"], ["ACCOUNT"], ["APPLICATION"],
    ["DATABASE"], ["INTEGRATION"], ["ROLE"], ["SCHEMA"], ["SHARE"], ["USER"], ["WAREHOUSE"]]

/-- What the privilege to execute something may concern. -/
def executableObjects : List (List String) :=
  [["DATA", "METRIC", "FUNCTION"], ["MANAGED", "ALERT"], ["MANAGED", "TASK"], ["TASK"], ["ALERT"]]

/-- What the privilege to manage something may concern. -/
def manageableObjects : List (List String) :=
  [["ACCOUNT", "SUPPORT", "CASES"], ["EVENT", "SHARING"], ["GRANTS"],
    ["LISTING", "AUTO", "FULFILLMENT"], ["ORGANIZATION", "SUPPORT", "CASES"],
    ["USER", "SUPPORT", "CASES"], ["WAREHOUSES"]]

/-- What the privilege to modify something may concern. -/
def modifiableObjects : List (List String) :=
  [["LOG", "LEVEL"], ["TRACE", "LEVEL"], ["SESSION", "LOG", "LEVEL"],
    ["SESSION", "TRACE", "LEVEL"]]

/-- Privileges of one word that nothing follows. -/
def plainPrivileges : List String :=
  ["APPLYBUDGET", "AUDIT", "CONNECT", "DELETE", "DROP", "FAILOVER", "OPERATE", "OWNERSHIP", "READ",
    "REPLICATE", "TEMP", "TEMPORARY", "TRIGGER", "TRUNCATE", "USAGE"]

/-- Takes one of the given phrases. -/
def phrase (phrases : List (List String)) (what : String) : Rule Unit := do
  if ← phrase? phrases then return else expected what

/-- The rule for what follows the only word of a privilege. -/
def privilegeRest? (g : Level) (k : String) : Option (Rule Unit) :=
  match k with
  | "APPLY" => some (phrase applicableObjects "GRANT APPLY type")
  | "CREATE" => some (discard (phrase? creatableObjects))
  | "EXEC" | "EXECUTE" => some (discard (phrase? executableObjects))
  | "MANAGE" => some (phrase manageableObjects "GRANT MANAGE type")
  | "MODIFY" => some (discard (phrase? modifiableObjects))
  | "MONITOR" => some (discard (oneOf? ["EXECUTION", "SECURITY", "USAGE"]))
  | "INSERT" | "REFERENCES" | "SELECT" | "UPDATE" =>
    some (discard (columnList? g.dialect false identifier))
  | "ROLE" => some (discard (objectName g))
  | k => if plainPrivileges.contains k then some (pure ()) else none

/-- One privilege. -/
def privilege (g : Level) : Rule Unit := do
  if ← phrase? longPrivileges then return
  else if ← keywords? ["DATABASE", "ROLE"] then discard (objectName g)
  else
    match privilegeRest? g ((← peekKeyword?).getD "") with
    | some rest =>
      let _ ← next
      rest
    | none => expected "a privilege keyword"

/-- Some privileges, or all of them. -/
def privileges (g : Level) : Rule Unit := do
  if ← keyword? "ALL" then discard (keyword? "PRIVILEGES")
  else
    let stop? : Option Stop :=
      if g.dialect.trailingCommas then some fun w _ => w.isKeyword "ON" else none
    discard (listWith stop? (privilege g))

/-! ## Objects -/

/-- Sets of objects that are given by the places where they are, and kinds of several words. -/
def objectSets : List (List String) :=
  [["ALL", "TABLES", "IN", "SCHEMA"], ["ALL", "EXTERNAL", "TABLES", "IN", "SCHEMA"],
    ["ALL", "VIEWS", "IN", "SCHEMA"], ["ALL", "MATERIALIZED", "VIEWS", "IN", "SCHEMA"],
    ["ALL", "FUNCTIONS", "IN", "SCHEMA"], ["FUTURE", "SCHEMAS", "IN", "DATABASE"],
    ["FUTURE", "TABLES", "IN", "SCHEMA"], ["FUTURE", "EXTERNAL", "TABLES", "IN", "SCHEMA"],
    ["FUTURE", "VIEWS", "IN", "SCHEMA"], ["FUTURE", "MATERIALIZED", "VIEWS", "IN", "SCHEMA"],
    ["ALL", "SEQUENCES", "IN", "SCHEMA"], ["FUTURE", "SEQUENCES", "IN", "SCHEMA"],
    ["RESOURCE", "MONITOR"], ["COMPUTE", "POOL"], ["FAILOVER", "GROUP"], ["REPLICATION", "GROUP"],
    ["EXTERNAL", "VOLUME"]]

/-- The kinds of objects of one word. -/
def objectKinds : List String :=
  ["SEQUENCE", "DATABASE", "SCHEMA", "TABLE", "VIEW", "WAREHOUSE", "INTEGRATION", "USER",
    "CONNECTION", "PROCEDURE", "FUNCTION"]

/-- The objects that privileges concern, if they are given. -/
def privilegeObjects? (g : Level) : Rule Bool := do
  let d := g.dialect
  if ← keyword? "ON" then
    if ← phrase? objectSets then discard (list d (objectName g))
    else
      let kind ← oneOf? objectKinds
      let _ ← list d (nameWith g true)
      if kind == some "PROCEDURE" || kind == some "FUNCTION" then
        if ← isSymbol .leftParen then
          discard (parens (listBefore d .rightParen (dataType g)))
    return true
  else return false

/-! ## Grantees -/

/-- Kinds of grantees before their names. -/
def granteeKinds : List (List String) :=
  [["ROLE"], ["USER"], ["SHARE"], ["GROUP"], ["DATABASE", "ROLE"], ["APPLICATION", "ROLE"],
    ["APPLICATION"]]

/-- The name of a grantee; it may have a host, or a place before it. -/
def granteeName (g : Level) : Rule Unit := do
  let name ← objectName g
  if (g.dialect == .generic || g.dialect == .mysql) && name.parts.length = 1 then
    if ← symbol? .atSign then discard identifier

/-- One grantee; whether it is everyone, who has no name. Without a kind it is of the same kind as
the one before. -/
def grantee (g : Level) (everyone : Bool) : Rule Bool := do
  let everyone ←
    if ← phrase? granteeKinds then pure false
    else if ← onlyIf (g.dialect != .mssql) (keyword? "PUBLIC") then pure true
    else pure everyone
  if !everyone then
    granteeName g
    if ← symbol? .colon then discard identifier
  return everyone

/-- Those who are given privileges or lose them. -/
def grantees (g : Level) : Rule Unit := do
  let first ← grantee g false
  discard (iterate (fun everyone => do
    if ← symbol? .comma then return some (← grantee g everyone) else return none) first)

/-! ## Statements -/

/-- The rest of `GRANT`. -/
def grant (g : Level) : Rule Unit := do
  privileges g
  let _ ← privilegeObjects? g
  let _ ← keyword "TO"
  grantees g
  let _ ← keywords? ["WITH", "GRANT", "OPTION"]
  let _ ← keywords? ["COPY", "CURRENT", "GRANTS"] <||> keywords? ["REVOKE", "CURRENT", "GRANTS"]
  if ← keyword? "AS" then discard identifier
  if ← keywords? ["GRANTED", "BY"] then discard identifier

/-- The rest of `REVOKE`. -/
def revoke (g : Level) : Rule Unit := do
  privileges g
  let _ ← privilegeObjects? g
  let _ ← keyword "FROM"
  grantees g
  if ← keywords? ["GRANTED", "BY"] then discard identifier
  discard (oneOf? ["CASCADE", "RESTRICT"])

/-- The rest of `DENY`. -/
def deny (g : Level) : Rule Unit := do
  privileges g
  if !(← privilegeObjects? g) then complain "DENY statements must specify an object"
  let _ ← keyword "TO"
  grantees g
  let _ ← oneOf? ["CASCADE", "RESTRICT"]
  if ← keyword? "AS" then discard identifier

end SqlCompletion.Sql.Rule
