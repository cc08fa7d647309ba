import SqlCompletion.Sql.Grammar.Primary

/-!
# Columns and constraints

A column is defined by its name, its type and its options. What concerns several columns stands
between the columns as a constraint of the table.
-/

namespace SqlCompletion.Sql.Rule

/-! ## Constraints -/

/-- Which traits of a constraint have been given. Each may be given once. -/
structure ConstraintTraits where
  deferrable : Bool := false
  initially : Bool := false
  enforced : Bool := false

/-- One more trait of a constraint, if there is one. -/
def constraintTrait? (c : ConstraintTraits) : Rule (Option ConstraintTraits) := do
  if ← onlyIf (!c.deferrable) (keywords? ["NOT", "DEFERRABLE"] <||> keyword? "DEFERRABLE") then
    return some { c with deferrable := true }
  else if ← onlyIf (!c.initially) (keyword? "INITIALLY") then
    if (← oneOf? ["DEFERRED", "IMMEDIATE"]).isNone then expected "one of DEFERRED or IMMEDIATE"
    return some { c with initially := true }
  else if ← onlyIf (!c.enforced) (keyword? "ENFORCED" <||> keywords? ["NOT", "ENFORCED"]) then
    return some { c with enforced := true }
  else return none

/-- The traits of a constraint: when it is checked, and whether it is. -/
def constraintTraits : Rule Unit :=
  discard (iterate constraintTrait? {})

/-- What becomes of a reference when the row that it refers to changes. -/
def referentialAction : Rule Unit := do
  if ← keyword? "RESTRICT" <||> keyword? "CASCADE" <||> keywords? ["SET", "NULL"] <||>
      keywords? ["NO", "ACTION"] <||> keywords? ["SET", "DEFAULT"] then
    return
  else expected "one of RESTRICT, CASCADE, SET NULL, NO ACTION or SET DEFAULT"

/-- The changes of a row to which a reference has an answer so far. -/
structure ReferenceAnswers where
  delete : Bool := false
  update : Bool := false

/-- One more answer of a reference to changes, if there is one. -/
def referenceAnswer? (r : ReferenceAnswers) : Rule (Option ReferenceAnswers) := do
  if ← onlyIf (!r.delete) (keywords? ["ON", "DELETE"]) then
    referentialAction
    return some { r with delete := true }
  else if ← onlyIf (!r.update) (keywords? ["ON", "UPDATE"]) then
    referentialAction
    return some { r with update := true }
  else return none

/-- The rest of a reference to another table. -/
def reference (g : Level) : Rule Unit := do
  let _ ← objectName g
  let _ ← columnList? g.dialect false identifier
  let _ ← iterate referenceAnswer? {}
  constraintTraits

/-! ## Options of columns -/

/-- A comment on something that is defined. -/
def commentText : Rule Unit := do
  match ← token with
  | some (.string q _) =>
    if q = .single || q.before.startsWith "$" then discard next else rejectNext "string literal"
  | _ => rejectNext "string literal"

/-- The value of an option. One that starts with a parenthesis ends with it. -/
def optionValue (g : Level) : Rule Unit := do
  if ← isSymbol .leftParen then discard (primary (g.within .usual))
  else discard (g.within .column).anyExpr

/-- How a sequence counts. -/
def sequenceOptions (d : Dialect) : Rule Unit := do
  let number : Rule Unit := discard (signedNumber d)
  if ← keyword? "INCREMENT" then
    let _ ← keyword? "BY"
    number
  ["MINVALUE", "MAXVALUE"].forM fun k => do
    if ← keyword? k then number else discard (keywords? ["NO", k])
  if ← keyword? "START" then
    let _ ← keyword? "WITH"
    number
  if ← keyword? "CACHE" then number
  if !(← keywords? ["NO", "CYCLE"]) then discard (keyword? "CYCLE")

/-- An expression in parentheses that gives the values of a column, and how they are kept. -/
def computedValue (g : Level) (storedOnly : Bool) : Rule Unit := do
  let _ ← parens (g.within .usual).anyExpr
  if !(← keyword? "STORED") then
    if storedOnly then expected "STORED"
    discard (keyword? "VIRTUAL")

/-- The rest of `GENERATED`, if it makes an option. -/
def generated? (g : Level) : Rule Bool := do
  if ← keywords? ["ALWAYS", "AS", "IDENTITY"] <||>
      keywords? ["BY", "DEFAULT", "AS", "IDENTITY"] then
    if ← isSymbol .leftParen then parens (sequenceOptions g.dialect)
    return true
  else if ← keywords? ["ALWAYS", "AS"] then
    let computed ← isSymbol .leftParen
    if computed then computedValue g (g.dialect == .postgres)
    return computed
  else return false

/-- The first number of an identity and its step, if they are given. -/
def identitySteps? (d : Dialect) : Rule Bool := do
  if ← symbol? .leftParen then
    let _ ← signedNumber d
    let _ ← symbol .comma
    let _ ← signedNumber d
    let _ ← symbol .rightParen
    return true
  else return false

/-- Takes keywords; whether they are there and have a meaning. Without one they are passed over. -/
def meaningful? (meaning : Bool) (ks : List String) : Rule Bool := do
  return (← keywords? ks) && meaning

/-- An option of a column that only some dialects give a meaning. -/
def specialColumnOption? (g : Level) : Rule Bool := do
  let d := g.dialect
  let generic := d == .generic
  let mysql := generic || d == .mysql
  let sqlite := generic || d == .sqlite
  if ← meaningful? mysql ["AUTO_INCREMENT"] <||> meaningful? sqlite ["AUTOINCREMENT"] <||>
      meaningful? sqlite ["ASC"] <||> meaningful? sqlite ["DESC"] then
    return true
  else if ← meaningful? mysql ["ON", "UPDATE"] then
    optionValue g
    return true
  else if ← keyword? "GENERATED" then generated? g
  else if ← onlyIf (generic || d == .bigquery) (isKeyword "OPTIONS") then
    let _ ← options? g "OPTIONS"
    return true
  else if ← meaningful? (mysql || sqlite || d == .duckdb) ["AS"] then
    computedValue g false
    return true
  else if ← meaningful? mysql ["SRID"] then
    optionValue g
    return true
  else if ← meaningful? (generic || d == .mssql) ["IDENTITY"] then
    let _ ← identitySteps? d
    return true
  else if ← onlyIf sqlite (keywords? ["ON", "CONFLICT"]) then
    let _ ← oneOf ["ROLLBACK", "ABORT", "FAIL", "IGNORE", "REPLACE"]
    return true
  else return false

/-- How an identity counts. -/
def identityOptions (d : Dialect) : Rule Unit := do
  if !(← identitySteps? d) then
    if ← keyword? "START" then
      let _ ← signedNumber d
      let _ ← keyword "INCREMENT"
      discard (signedNumber d)
  discard (oneOf? ["ORDER", "NOORDER"])

/-- The policy that a column has. -/
def columnPolicy (g : Level) : Rule Unit := do
  let _ ← objectName g
  if ← keyword? "USING" then discard (identifiersInParens g.dialect)

/-- A tag: a name and a text. -/
def tag (g : Level) : Rule Unit := do
  let _ ← objectName g
  let _ ← symbol .equal
  discard (textLiteral g.dialect)

/-- Tags in parentheses. -/
def tags (g : Level) : Rule Unit :=
  discard (parens (list g.dialect (tag g)))

/-- The rules for options of a column that may have `WITH` before them, by their words. -/
def markedOptions (g : Level) : List (List String × Rule Unit) :=
  [(["IDENTITY"], identityOptions g.dialect), (["AUTOINCREMENT"], identityOptions g.dialect),
    (["MASKING", "POLICY"], columnPolicy g), (["PROJECTION", "POLICY"], columnPolicy g),
    (["TAG"], tags g)]

/-- An option of a column that may have `WITH` before it, if there is one. -/
def markedOption? (g : Level) : Rule Bool := do
  let start ← get
  let _ ← keyword? "WITH"
  let rest ← get
  match (markedOptions g).find? (startWith ·.1 rest) with
  | some (words, option) =>
    keywords words
    option
    return true
  | none =>
    set start
    return false

/-- An option of a column, if there is one. -/
def columnOption? (g : Level) : Rule Bool := do
  let d := g.dialect
  if ← onlyIf (d == .snowflake) (markedOption? g) then return true
  else if ← keywords? ["CHARACTER", "SET"] <||> keyword? "COLLATE" then
    let _ ← objectName g
    return true
  else if ← keywords? ["NOT", "NULL"] then return true
  else if ← keyword? "COMMENT" then
    commentText
    return true
  else if ← keyword? "NULL" then return true
  else if ← keyword? "DEFAULT" <||>
      onlyIf d.columnarClauses (keyword? "MATERIALIZED" <||> keyword? "ALIAS") then
    optionValue g
    return true
  else if ← onlyIf d.columnarClauses (keyword? "EPHEMERAL") then
    if !(← isSymbol .comma <||> isSymbol .rightParen) then optionValue g
    return true
  else if ← keywords? ["PRIMARY", "KEY"] <||> keyword? "UNIQUE" then
    constraintTraits
    return true
  else if ← keyword? "REFERENCES" then
    reference g
    return true
  else if ← keyword? "CHECK" then
    let _ ← parens (g.within .usual).anyExpr
    return true
  else specialColumnOption? g

/-- The options of a column, one after the other. -/
def columnOptions (g : Level) : Rule Unit :=
  iterate (fun _ => do if ← columnOption? g then return some () else return none) ()

/-- An option of a column that may have a name. -/
def namedColumnOption? (g : Level) : Rule (Option Unit) := do
  if ← keyword? "CONSTRAINT" then
    let _ ← identifier
    if ← columnOption? g then return some ()
    else expected "constraint details after CONSTRAINT <name>"
  else if ← columnOption? g then return some ()
  else return none

/-- A column without a type is next, where types may be left out. -/
def isUntyped (d : Dialect) : Rule Bool := do
  if d == .sqlite then
    match (← token).bind Token.word? with
    | some w =>
      return w.isOneOf ["CONSTRAINT", "PRIMARY", "NOT", "UNIQUE", "CHECK", "DEFAULT", "COLLATE",
        "REFERENCES", "GENERATED", "AS"]
    | none => return true
  else return false

/-- The definition of a column; its name and its type as messages show them. -/
def columnDefinition (g : Level) : Rule String := do
  let name ← identifier
  let type ← if ← isUntyped g.dialect then pure "" else (" " ++ ·.text) <$> dataType g
  iterate (fun _ => namedColumnOption? g) ()
  return name.text ++ type

/-! ## Constraints of tables -/

/-- One of the columns of an index: an expression, what compares its values, and their order. -/
def indexColumn (g : Level) : Rule Unit := do
  let e ← g.anyExpr
  if !(← isOneOf ["ASC", "DESC", "NULLS", "WITH"]) then
    discard (attempt identifier)
  discard (orderItemOf g e)

/-- The columns of an index. -/
def indexColumns (g : Level) : Rule Unit :=
  discard (columnList g.dialect (indexColumn g))

/-- How an index is kept, if that is said. -/
def indexMethod? : Rule Bool := do
  let given ← keyword? "USING"
  if given then discard identifier
  return given

/-- The options after the columns of an index. -/
def indexOptions (d : Dialect) : Rule Unit :=
  iterate (fun _ => do
    if ← indexMethod? then return some ()
    else if ← keyword? "COMMENT" then
      let _ ← textLiteral d
      return some ()
    else return none) ()

/-- Whether missing values count as different, if that is said. -/
def nullsDistinct? : Rule Unit := do
  if ← keyword? "NULLS" then
    let _ ← keyword? "NOT"
    discard (keyword "DISTINCT")

/-- The rest of a constraint that is kept by an index. -/
def indexConstraint (g : Level) : Rule Unit := do
  let _ ← attempt identifier
  let _ ← indexMethod?
  indexColumns g
  indexOptions g.dialect

/-- The rest of a UNIQUE constraint. -/
def uniqueConstraint (g : Level) : Rule Unit := do
  let mysql := g.dialect == .generic || g.dialect == .mysql
  if (← oneOf? ["KEY", "INDEX"]).isSome && !mysql then
    expected "`index_name` or `(column_name [, ...])`"
  nullsDistinct?
  indexConstraint g
  constraintTraits

/-- The rest of an index among the columns of a table. -/
def tableIndex (g : Level) : Rule Unit := do
  if !(← isKeyword "USING") then discard (attempt identifier)
  let _ ← indexMethod?
  indexColumns g
  indexOptions g.dialect

/-- The rule for a constraint of a table that starts with the given keyword. Indexes have no name
before them. -/
def tableConstraintRest? (g : Level) (named : Bool) (k : String) : Option (Rule Unit) :=
  let mysql := g.dialect == .generic || g.dialect == .mysql
  match k with
  | "UNIQUE" => some (uniqueConstraint g)
  | "PRIMARY" => some do
    let _ ← keyword "KEY"
    indexConstraint g
    constraintTraits
  | "FOREIGN" => some do
    let _ ← keyword "KEY"
    let _ ← attempt identifier
    let _ ← columnList g.dialect identifier
    let _ ← keyword "REFERENCES"
    reference g
  | "CHECK" => some do
    let _ ← parens g.anyExpr
    if !(← keyword? "ENFORCED") then discard (keywords? ["NOT", "ENFORCED"])
  | "INDEX" | "KEY" => if mysql && !named then some (tableIndex g) else none
  | "FULLTEXT" | "SPATIAL" =>
    if mysql then some do
      let _ ← oneOf? ["KEY", "INDEX"]
      let _ ← attempt identifier
      indexColumns g
    else none
  | _ => none

/-- A constraint of a table, if there is one. -/
def tableConstraint? (g : Level) : Rule Bool := do
  let name ← after? "CONSTRAINT" identifier
  let first ← peek
  match tableConstraintRest? g name.isSome ((← peekKeyword?).getD "") with
  | some rest =>
    let _ ← next
    if ["FULLTEXT", "SPATIAL"].contains ((first.bind (·.token.keyword?)).getD "") then
      if let some i := name then
        throw (.note ("Expected: FULLTEXT or SPATIAL option without constraint name, found: " ++
          i.text) (first.map (·.range.start)))
    rest
    return true
  | none => if name.isSome then rejectNext "PRIMARY, UNIQUE, FOREIGN, or CHECK" else return false

/-- A column or a constraint, and whether another one follows. -/
def tableElement (g : Level) (go : Bool) : Rule (Option Bool) := do
  if !go then return none
  if !(← tableConstraint? g) then
    match ← token with
    | some (.word _) => discard (columnDefinition g)
    | _ => expected "column name or constraint definition"
  let comma ← symbol? .comma
  let close ← isSymbol .rightParen
  if !comma && !close then expected "',' or ')' after column definition"
  if close && (!comma || g.dialect.trailingColumnCommas) then
    let _ ← next
    return some false
  else return some true

/-- The columns of a table, if they are given. -/
def tableElements? (g : Level) : Rule Unit := do
  if ← symbol? .leftParen then
    if !(← symbol? .rightParen) then discard (iterate (tableElement g) true)

end SqlCompletion.Sql.Rule
