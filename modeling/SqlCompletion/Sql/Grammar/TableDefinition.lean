import SqlCompletion.Sql.Grammar.Change
import SqlCompletion.Sql.Grammar.Column

/-!
# Definitions of tables

A table is defined by its columns, by what else it is given, and by a query for its rows. Nothing of
a definition is kept.
-/

namespace SqlCompletion.Sql.Rule

/-! ## How tables are stored -/

/-- What may be said about the characters in a file: the first word of each phrase and the others.
-/
def delimiters : List (String × List String) :=
  [("FIELDS", ["TERMINATED", "BY"]), ("COLLECTION", ["ITEMS", "TERMINATED", "BY"]),
    ("MAP", ["KEYS", "TERMINATED", "BY"]), ("LINES", ["TERMINATED", "BY"]),
    ("NULL", ["DEFINED", "AS"])]

/-- One of the characters with a meaning in a file. The first word is taken even if the others do
not follow. -/
def delimiter? : Rule (Option Unit) := do
  match delimiters.find? (·.1 == (← peekKeyword?).getD "") with
  | some (word, others) =>
    let _ ← next
    if ← keywords? others then
      let _ ← identifier
      if ← onlyIf (word == "FIELDS") (keywords? ["ESCAPED", "BY"]) then discard identifier
      return some ()
    else return none
  | none => return none

/-- How the rows of a table are laid out in its files. -/
def rowFormat (d : Dialect) : Rule Unit := do
  let _ ← keyword "FORMAT"
  if ← keyword? "SERDE" then discard (textLiteral d)
  else
    let _ ← keyword? "DELIMITED"
    iterate (fun _ => delimiter?) ()

/-- One of the properties of the files that hold a table. -/
def storageProperty? (g : Level) : Rule (Option Unit) := do
  let d := g.dialect
  if ← keyword? "ROW" then
    rowFormat d
    return some ()
  else if ← keyword? "STORED" then
    let _ ← keyword "AS"
    if ← keyword? "INPUTFORMAT" then
      let _ ← g.anyExpr
      let _ ← keyword "OUTPUTFORMAT"
      discard g.anyExpr
    else fileFormat
    return some ()
  else if ← keyword? "LOCATION" then
    let _ ← textLiteral d
    return some ()
  else if ← keywords? ["WITH", "SERDEPROPERTIES"] then
    definitionOptions g
    return some ()
  else return none

/-- The columns that divide a table into partitions, if they are given. -/
def partitionedBy? (g : Level) : Rule Unit := do
  if ← keywords? ["PARTITIONED", "BY"] then
    discard (parens (list g.dialect (columnDefinition g)))

/-- The columns that divide a table into buckets, if they are given. -/
def clusteredBy? (g : Level) : Rule Unit := do
  let d := g.dialect
  if ← onlyIf (d == .generic || d == .hive) (keywords? ["CLUSTERED", "BY"]) then
    let _ ← columnList d identifier
    if ← keywords? ["SORTED", "BY"] then discard (parens (list d (orderItem g)))
    let _ ← keyword "INTO"
    numberLiteral d
    discard (keyword "BUCKETS")

/-! ## Options of tables -/

/-- Options of a table that consist of a name and a value, with or without a sign between them. -/
def tableOptionNames : List (List String) :=
  [["DEFAULT", "CHARSET"], ["CHARSET"], ["DEFAULT", "CHARACTER", "SET"], ["CHARACTER", "SET"],
    ["DEFAULT", "COLLATE"], ["COLLATE"], ["DATA", "DIRECTORY"], ["INDEX", "DIRECTORY"],
    ["KEY_BLOCK_SIZE"], ["ROW_FORMAT"], ["PACK_KEYS"], ["STATS_AUTO_RECALC"], ["STATS_PERSISTENT"],
    ["STATS_SAMPLE_PAGES"], ["DELAY_KEY_WRITE"], ["COMPRESSION"], ["ENCRYPTION"], ["MAX_ROWS"],
    ["MIN_ROWS"], ["AUTOEXTEND_SIZE"], ["AVG_ROW_LENGTH"], ["CHECKSUM"], ["CONNECTION"],
    ["ENGINE_ATTRIBUTE"], ["PASSWORD"], ["SECONDARY_ENGINE_ATTRIBUTE"], ["INSERT_METHOD"],
    ["AUTO_INCREMENT"]]

/-- The rest of the option that names the engine of a table. -/
def tableEngine (d : Dialect) : Rule Unit := do
  let _ ← symbol? .equal
  match ← token with
  | some (.word _) =>
    let _ ← next
    if ← isSymbol .leftParen then discard (parens (listBefore d .rightParen identifier))
  | _ => rejectNext "Token::Word"

/-- The rest of the option that names the space where a table is kept. -/
def tableSpace : Rule Unit := do
  let _ ← symbol? .equal
  match ← token with
  | some (.word _) | some (.string .single _) => discard next
  | _ => rejectNext "Token::Word"
  if ← keyword? "STORAGE" then
    let _ ← symbol? .equal
    match (← token).bind Token.word? with
    | some w =>
      let medium := String.ofList (upperWord w.value.toList)
      if ["DISK", "MEMORY"].contains medium then discard next
      else rejectNext "Storage type (DISK or MEMORY)"
    | none => rejectNext "Token::Word"

/-- The rest of a comment on a table. A rejection has no place. -/
def tableComment : Rule Unit := do
  let _ ← symbol? .equal
  match (← next).map Lexeme.token with
  | some (.string .single _) => return
  | t =>
    let found := (t.map Token.text).getD "EOF"
    throw (.note ("Expected: Token::SingleQuotedString, found: " ++ found) none)

/-- The rest of the option that names the tables of which a table is made. -/
def unitedTables (d : Dialect) : Rule Unit := do
  let _ ← symbol? .equal
  if ← isSymbol .leftParen then discard (parens (listBefore d .rightParen identifier))
  else rejectNext "Token::LParen"

/-- The rule for an option of a table that starts with the given word and has a form of its own. -/
def tableOptionRest? (d : Dialect) (k : String) : Option (Rule Unit) :=
  match k with
  | "COMMENT" => some tableComment
  | "ENGINE" => some (tableEngine d)
  | "TABLESPACE" => some tableSpace
  | "UNION" => some (unitedTables d)
  | _ => none

/-- An option of a table, if there is one. -/
def tableOption? (d : Dialect) : Rule (Option Unit) := do
  match tableOptionRest? d ((← peekKeyword?).getD "") with
  | some rest =>
    let _ ← next
    some <$> rest
  | none =>
    if ← keywords? ["START", "TRANSACTION"] then return some ()
    else if ← phrase? tableOptionNames then
      let _ ← symbol? .equal
      if (← attempt (literal d)).isNone then discard identifier
      return some ()
    else return none

/-- The options of a table, with or without commas between them. -/
def tableOptions (d : Dialect) : Rule Unit :=
  iterate (fun _ => do
    match ← tableOption? d with
    | some _ =>
      let _ ← symbol? .comma
      return some ()
    | none => return none) ()

/-- How a table is divided and what else it is given. -/
def tableConfiguration (g : Level) : Rule Unit := do
  let d := g.dialect
  if ← keyword? "INHERITS" then discard (columnList d (objectName g))
  let given ← options? g "WITH"
  let properties ← options? g "TBLPROPERTIES"
  if ← onlyIf ([.generic, .bigquery, .postgres].contains d) (keywords? ["PARTITION", "BY"]) then
    discard g.anyExpr
  let listed ← onlyIf (d == .generic || d == .bigquery) do
    if ← keywords? ["CLUSTER", "BY"] then discard g.exprs
    let listed ← isKeyword "OPTIONS"
    let _ ← options? g "OPTIONS"
    return listed
  if d != .hive && !given && !properties && !listed then tableOptions d

/-! ## Tables -/

/-- The cluster on which a statement is carried out, if it is given. -/
def onCluster? : Rule Unit := do
  if ← keywords? ["ON", "CLUSTER"] then discard identifier

/-- What becomes of the rows of a table at the end of a transaction. -/
def onCommit : Rule Unit := do
  if ← keywords? ["DELETE", "ROWS"] <||> keywords? ["PRESERVE", "ROWS"] <||> keyword? "DROP" then
    return
  else
    let found := ((← token).map Token.text).getD "EOF"
    throw (.note ("Expecting DELETE ROWS, PRESERVE ROWS or DROP" ++ found) none)

/-- A table that the new one is to be like, if it is given. -/
def likeTable? (g : Level) : Rule Unit := do
  let d := g.dialect
  let inParens := (d == .generic || d == .redshift) && (← isSymbol .leftParen) &&
    (← tokenAt 1).bind Token.keyword? == some "LIKE"
  if inParens then
    let _ ← next
    let _ ← next
    let _ ← tableName g
    let _ ← keywords? ["INCLUDING", "DEFAULTS"] <||> keywords? ["EXCLUDING", "DEFAULTS"]
    discard (symbol .rightParen)
  else if (← oneOf? ["LIKE", "ILIKE"]).isSome then discard (tableName g)

/-- What the rows of a table are ordered by, if that is said. -/
def tableOrder? (g : Level) : Rule Unit := do
  if ← keywords? ["ORDER", "BY"] then
    if ← isSymbol .leftParen then discard (parens (listUnless g.dialect .rightParen g.anyExpr))
    else discard g.anyExpr

/-- A query for the rows of a table, if there is one. -/
def tableQuery? (g : Level) : Rule Unit := do
  if ← keyword? "AS" <||> onlyIf (g.dialect == .mysql) (isKeyword "SELECT") then
    discard g.query

/-- The definition of a table, after `TABLE`. -/
def createTable (g : Level) : Rule Unit := do
  let d := g.dialect
  ifNotExists
  let _ ← tableName g
  onCluster?
  likeTable? g
  if ← keyword? "CLONE" then leniently (tableName g)
  tableElements? g
  if ← onlyIf (d == .hive) (keyword? "COMMENT") then
    match ← token with
    | some (.string .single _) => discard next
    | _ => rejectNext "comment"
  let _ ← keywords? ["WITHOUT", "ROWID"]
  partitionedBy? g
  clusteredBy? g
  iterate (fun _ => storageProperty? g) ()
  tableConfiguration g
  if ← onlyIf (d == .generic || d == .clickhouse) (keywords? ["PRIMARY", "KEY"]) then
    discard g.anyExpr
  tableOrder? g
  if ← keywords? ["ON", "COMMIT"] then onCommit
  let _ ← keyword? "STRICT"
  tableQuery? g

/-- The definition of a table whose rows are elsewhere. -/
def createExternalTable (g : Level) : Rule Unit := do
  let _ ← keyword "TABLE"
  ifNotExists
  let _ ← objectName g
  tableElements? g
  partitionedBy? g
  iterate (fun _ => storageProperty? g) ()
  discard (options? g "TBLPROPERTIES")

/-- The definition of a table that a module provides. -/
def createVirtualTable (g : Level) : Rule Unit := do
  let _ ← keyword "TABLE"
  ifNotExists
  let _ ← objectName g
  let _ ← keyword "USING"
  let _ ← identifier
  discard (columnList? g.dialect false identifier)

end SqlCompletion.Sql.Rule
