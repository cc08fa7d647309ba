import SqlCompletion.Sql.Grammar.Literal
import SqlCompletion.Sql.Grammar.Name

/-!
# Data types

Of a type its kind is kept and the text in which messages show it. Before a literal, a built-in type
makes a typed literal, and `INTERVAL` starts an interval. Any other name is a custom type.

Types in angle brackets may end in `>>`, which closes two of them at once; the rule for a type says
whether it took the bracket of the type around it.
-/

namespace SqlCompletion.Sql.Rule

/-- What matters of a type. -/
inductive TypeKind where
  | builtIn
  | interval
  | custom
  deriving DecidableEq

/-- A type. -/
structure DataType where
  kind : TypeKind
  /-- The type as messages show it. -/
  text : String
  /-- Its last bracket also closes the type around it. -/
  closesOuter : Bool := false

/-- Texts with commas between them. -/
def commaText (texts : List String) : String := ", ".intercalate texts

/-! ## Arguments -/

/-- A text in parentheses, as messages show it. -/
def inParens (text : String) : String := "(" ++ text ++ ")"

/-- A number in parentheses, if there is one. -/
def precision? : Rule String := do
  if ← isSymbol .leftParen then return inParens (toString (← parens wholeNumber)) else return ""

/-- One or two numbers in parentheses, if there are any. -/
def precisionAndScale? : Rule String := do
  if ← isSymbol .leftParen then
    parens do
      let precision ← wholeNumber
      if ← symbol? .comma then
        return inParens (toString precision ++ "," ++ toString (← signedWholeNumber))
      else return inParens (toString precision)
  else return ""

/-- A length in parentheses, if there is one, with the unit in which it counts. -/
def length? (units : List String) : Rule String := do
  if ← isSymbol .leftParen then
    parens do
      if ← keyword? "MAX" then return "(MAX)"
      else
        let length ← wholeNumber
        match ← oneOf? units with
        | some unit => return inParens (toString length ++ " " ++ unit)
        | none => return inParens (toString length)
  else return ""

/-- A length of text. -/
def textLength? : Rule String := length? ["CHARACTERS", "OCTETS"]

/-- What may be said about time zones after a type. -/
def timeZone? : Rule String := do
  match ← oneOf? ["WITH", "WITHOUT"] with
  | some k =>
    keywords ["TIME", "ZONE"]
    return " " ++ k ++ " TIME ZONE"
  | none => return ""

/-- The given keyword after a type, if it is there. -/
def suffix? (k : String) : Rule String := do
  if ← keyword? k then return " " ++ k else return ""

/-- One of the arguments of a custom type, or what ends them. -/
def typeModifier (read : List String) (close : Bool) : Rule (Option (List String × Bool)) := do
  if close then return none
  let take {α : Type} (a : α) : Rule α := do
    let _ ← next
    return a
  match ← token with
  | some (.symbol .rightParen) => take (some (read, true))
  | some (.symbol .comma) => take (some (read, false))
  | some (.word w) => take (some (w.text :: read, false))
  | some (.number text _) => take (some (text :: read, false))
  | some (.string q v) =>
    if q = .single then take (some (v :: read, false)) else rejectNext "type modifiers"
  | _ => rejectNext "type modifiers"

/-- The arguments of a custom type, if there are any. -/
def typeModifiers? : Rule String := do
  if ← symbol? .leftParen then
    let (read, _) ← iterate (fun (read, close) => typeModifier read close) ([], false)
    return if read.isEmpty then "" else inParens (commaText read.reverse)
  else return ""

/-! ## Enumerations and sets -/

/-- A string as messages show it. -/
def quotedText (v : String) : String := "'" ++ doubleQuotes '\'' v ++ "'"

/-- A number that may have a sign; its text. -/
def signedNumber (d : Dialect) : Rule String := do
  let sign ←
    if ← symbol? .plus then pure "+"
    else if ← symbol? .minus then pure "-"
    else pure ""
  let t ← token
  numberLiteral d
  return sign ++ (t.map Token.text).getD ""

/-- A value of an enumeration, with its number if it has one. -/
def enumValue (d : Dialect) : Rule String := do
  let name := quotedText (← textLiteral d)
  if ← symbol? .equal then return name ++ " = " ++ (← signedNumber d) else return name

/-- The values of an enumeration. -/
def enumValues (d : Dialect) : Rule String := do
  return inParens (commaText (← parens (list d (enumValue d))))

/-- A value of a set. -/
def setValue : Rule String := do
  match ← token with
  | some (.string q v) =>
    if q = .single then
      let _ ← next
      return quotedText v
    else rejectNext "a string"
  | _ => rejectNext "a string"

/-- The values of a set, up to the closing parenthesis. -/
def setValues : Rule String := do
  let _ ← symbol .leftParen
  let (values, _) ← iterate (fun (read, close) => do
    if close then return none
    let value ← setValue
    if ← symbol? .comma then return some (value :: read, false)
    else if ← symbol? .rightParen then return some (value :: read, true)
    else rejectNext ", or \x7d") (([] : List String), false)
  return inParens (commaText values.reverse)

/-! ## Built-in types -/

/-- Types without arguments, with the texts in which messages show them. -/
def plainTypes : List (String × String) :=
  ["BOOLEAN", "BOOL", "FLOAT4", "FLOAT64", "FLOAT8", "INT64", "HUGEINT", "UBIGINT", "UHUGEINT",
    "USMALLINT", "UTINYINT", "TINYBLOB", "MEDIUMBLOB", "LONGBLOB", "UUID", "DATE", "TIMESTAMP_NTZ",
    "JSON", "JSONB", "REGCLASS", "TEXT", "TINYTEXT", "MEDIUMTEXT", "LONGTEXT", "BYTEA",
    "TRIGGER"].map (fun k => (k, k)) ++
  [("FLOAT32", "Float32"), ("INT16", "Int16"), ("INT32", "Int32"), ("INT128", "Int128"),
    ("INT256", "Int256"), ("UINT8", "UInt8"), ("UINT16", "UInt16"), ("UINT32", "UInt32"),
    ("UINT64", "UInt64"), ("UINT128", "UInt128"), ("UINT256", "UInt256"), ("DATE32", "Date32")]

/-- Whole numbers with a width, which may be called signed. -/
def integerTypes : List String :=
  ["TINYINT", "SMALLINT", "MEDIUMINT", "INT", "INTEGER", "BIGINT"]

/-- Whole numbers with a width. -/
def plainIntegerTypes : List String := ["INT2", "INT4", "INT8"]

/-- Types with a precision and a scale. -/
def decimalTypes : List String := ["NUMERIC", "BIGNUMERIC", "BIGDECIMAL"]

/-- The same, which may be unsigned. -/
def signedDecimalTypes : List String := ["DECIMAL", "DEC", "FLOAT"]

/-- Types with a number as argument. -/
def sizedTypes : List String :=
  ["CLOB", "BINARY", "BLOB", "BYTES", "VARBIT", "DATETIME", "TIMESTAMPTZ", "TIMETZ", "STRING"]

/-- What follows `CHARACTER` and `CHAR`. -/
def characterType : Rule String := do
  if ← keyword? "VARYING" then return " VARYING" ++ (← textLength?)
  else if ← keywords? ["LARGE", "OBJECT"] then return " LARGE OBJECT" ++ (← precision?)
  else textLength?

/-- The text of a built-in type that holds no other type, after its first word; nothing for other
words. -/
def simpleType? (d : Dialect) (k : String) : Option (Rule String) :=
  let after (rest : Rule String) : Option (Rule String) := some ((k ++ ·) <$> rest)
  match plainTypes.lookup k with
  | some text => some (pure text)
  | none =>
    if integerTypes.contains k then some do
      let width ← precision?
      if ← keyword? "UNSIGNED" then return k ++ width ++ " UNSIGNED"
      else
        let _ ← onlyIf d.signedTypes (keyword? "SIGNED")
        return k ++ width
    else if plainIntegerTypes.contains k then
      after do return (← precision?) ++ (← suffix? "UNSIGNED")
    else if decimalTypes.contains k then after precisionAndScale?
    else if signedDecimalTypes.contains k then
      after do return (← precisionAndScale?) ++ (← suffix? "UNSIGNED")
    else if sizedTypes.contains k then after precision?
    else
      match k with
      | "REAL" => after (suffix? "UNSIGNED")
      | "DOUBLE" => after do
        let size ← if ← keyword? "PRECISION" then pure " PRECISION" else precisionAndScale?
        return size ++ (← suffix? "UNSIGNED")
      | "VARCHAR" | "NVARCHAR" => after textLength?
      | "VARBINARY" => after (length? [])
      | "CHARACTER" | "CHAR" => after characterType
      | "BIT" => after do return (← suffix? "VARYING") ++ (← precision?)
      | "TIMESTAMP" | "TIME" => after do return (← precision?) ++ (← timeZone?)
      | "FIXEDSTRING" =>
        some do return "FixedString" ++ inParens (toString (← parens wholeNumber))
      | "DATETIME64" =>
        some (parens do
          let precision ← wholeNumber
          let zone ← if ← symbol? .comma then (", '" ++ · ++ "'") <$> textLiteral d else pure ""
          return "DateTime64" ++ inParens (toString precision ++ zone))
      | "ENUM" | "ENUM8" | "ENUM16" => after (enumValues d)
      | "SET" => after setValues
      | "SIGNED" | "UNSIGNED" => after (suffix? "INTEGER")
      | "TSVECTOR" | "TSQUERY" =>
        if d == .generic || d == .postgres then some (pure k) else none
      | _ => none

/-- The units that may follow a unit and `TO` in the type of an interval. -/
def intervalTypeEnds : String → List String
  | "YEAR" => ["MONTH"]
  | "DAY" => ["HOUR", "MINUTE", "SECOND"]
  | "HOUR" => ["MINUTE", "SECOND"]
  | "MINUTE" => ["SECOND"]
  | _ => []

/-- The units that may follow `INTERVAL` as a type. -/
def intervalTypeUnits? : Rule String := do
  match ← oneOf? ["YEAR", "DAY", "HOUR", "MINUTE", "MONTH", "SECOND"] with
  | none => return ""
  | some unit =>
    match intervalTypeEnds unit with
    | [] => return " " ++ unit
    | ends =>
      if ← keyword? "TO" then
        let last ←
          match ends with
          | [k] =>
            let _ ← keyword k
            pure k
          | _ => oneOf ends
        return " " ++ unit ++ " TO " ++ last
      else return " " ++ unit

/-- The type of an interval, after its first word. -/
def intervalType (d : Dialect) : Rule DataType := do
  let options ← if d.intervalTypeOptions then
      (fun units precision => units ++ precision) <$> intervalTypeUnits? <*> precision?
    else pure ""
  return { kind := .interval, text := "INTERVAL" ++ options }

/-! ## Types in types -/

/-- A type that may not take the bracket of a type around it. -/
def closedType (type : Rule DataType) : Rule DataType := do
  let t ← type
  if t.closesOuter then
    let found := ((← token).map Token.text).getD "EOF"
    throw (.note ("unmatched > after parsing data type " ++ t.text ++ found) none)
  else return t

/-- The bracket that closes a type, unless the type inside took it already. -/
def closingAngle (taken : Bool) : Rule Bool := do
  if taken then return false
  else
    match ← token with
    | some (.symbol .greater) =>
      let _ ← next
      return false
    | some (.symbol .shiftRight) =>
      let _ ← next
      return true
    | _ => expected ">"

/-- An option: its name and its value. -/
def namedOption (g : Level) : Rule Unit := do
  let _ ← identifier
  let _ ← symbol .equal
  discard g.anyExpr

/-- The option that keeps the rows of a table in the order of an index, with its first word. -/
def clusteredOption (d : Dialect) : Rule Unit := do
  let columnar := ["CLUSTERED", "COLUMNSTORE", "INDEX"]
  if ← keywords? (columnar ++ ["ORDER"]) then discard (columnList d identifier)
  else if ← keywords? columnar then return
  else if ← keywords? ["CLUSTERED", "INDEX"] then
    discard (parens (list d do
      let _ ← identifier
      oneOf? ["ASC", "DESC"]))
  else throw (.note "invalid CLUSTERED sequence" none)

/-- The option that divides a table by ranges of a column, with its first word. -/
def partitionOption (g : Level) : Rule Unit := do
  let _ ← keyword "PARTITION"
  parens do
    let _ ← identifier
    let _ ← keyword "RANGE"
    let _ ← oneOf? ["LEFT", "RIGHT"]
    keywords ["FOR", "VALUES"]
    discard (parens g.exprs)

/-- An option of something that is defined: a name and a value, or words of its own. -/
def definitionOption (g : Level) : Rule Unit := do
  let special := g.dialect == .generic || g.dialect == .mssql
  let k ← if special then peekKeyword? else pure none
  match k.getD "" with
  | "HEAP" => discard identifier
  | "PARTITION" => partitionOption g
  | "CLUSTERED" => clusteredOption g.dialect
  | _ => namedOption g

/-- Options in parentheses. -/
def definitionOptions (g : Level) : Rule Unit :=
  discard (parens (list g.dialect (definitionOption g)))

/-- Options in parentheses after a keyword, if it is there; whether there are any. -/
def options? (g : Level) (k : String) : Rule Bool := do
  if ← keyword? k then
    return !(← parens (listBefore g.dialect .rightParen (definitionOption g))).isEmpty
  else return false

/-- A field of a record type: a name and a type, or a type alone. -/
def recordField (g : Level) (type : Rule DataType) : Rule DataType := do
  let named :=
    match ← tokenAt 0, ← tokenAt 1 with
    | some (.word _), some (.word _) => true
    | _, _ => false
  let name ← if named then (·.text ++ " ") <$> identifier else pure ""
  let t ← type
  let _ ← options? g "OPTIONS"
  return { t with text := name ++ t.text }

/-- A field of a type in parentheses: a name and a type. -/
def namedField (type : Rule DataType) : Rule String := do
  let name ← identifier
  return name.text ++ " " ++ (← closedType type).text

/-- The fields of a record type in angle brackets; their texts, and whether they closed the type
around them. -/
def recordFields (g : Level) (type : Rule DataType) : Rule (List String × Bool) := do
  if ← symbol? .less then
    let first ← recordField g type
    let (read, taken) ← iterate (fun ((read : List String), taken) => do
      if ← onlyIf (!taken) (symbol? .comma) then
        let field ← recordField g type
        return some (field.text :: read, field.closesOuter)
      else return none) ([first.text], first.closesOuter)
    return (read.reverse, ← closingAngle taken)
  else return ([], false)

/-- The type `ARRAY`, after its first word. -/
def arrayType (d : Dialect) (type : Rule DataType) : Rule DataType := do
  if d == .snowflake then return { kind := .builtIn, text := "ARRAY" }
  else if d == .clickhouse then
    return { kind := .builtIn, text := "Array" ++ inParens (← parens (closedType type)).text }
  else
    let _ ← symbol .less
    let inner ← type
    return {
      kind := .builtIn
      text := "ARRAY<" ++ inner.text ++ ">"
      closesOuter := ← closingAngle inner.closesOuter }

/-- The type `STRUCT` in angle brackets, after its first word. -/
def structType (g : Level) (type : Rule DataType) : Rule DataType := do
  let (fields, closesOuter) ← recordFields g type
  return {
    kind := .builtIn
    text := if fields.isEmpty then "STRUCT" else "STRUCT<" ++ commaText fields ++ ">"
    closesOuter }

/-- The text of a type that holds other types in parentheses, after its first word; nothing if the
word starts no such type. -/
def containerType? (g : Level) (type : Rule DataType) (k : String) : Option (Rule String) :=
  let d := g.dialect
  let columnar := d == .generic || d == .clickhouse
  let fields (name : String) (item : Rule String) : Rule String := do
    return name ++ inParens (commaText (← parens (list d item)))
  let inner (name : String) : Rule String := do
    return name ++ inParens (← parens (closedType type)).text
  match k with
  | "STRUCT" => if d == .duckdb then some (fields "STRUCT" (namedField type)) else none
  | "UNION" =>
    if d == .generic || d == .duckdb then some (fields "UNION" (namedField type)) else none
  | "NULLABLE" => if columnar then some (inner "Nullable") else none
  | "LOWCARDINALITY" => if columnar then some (inner "LowCardinality") else none
  | "MAP" =>
    if columnar then
      some (parens do
        let key ← closedType type
        let _ ← symbol .comma
        return "Map" ++ inParens (key.text ++ ", " ++ (← closedType type).text))
    else none
  | "TUPLE" =>
    if columnar then some (fields "Tuple" ((·.text) <$> recordField g type)) else none
  | "NESTED" => if columnar then some (fields "Nested" g.column) else none
  | _ => none

/-- Brackets after a type, each with a size if it has one. -/
def typeBrackets (d : Dialect) (t : DataType) : Rule DataType := do
  if d.bracketTypes then
    iterate (fun (t : DataType) => do
      if ← symbol? .leftBracket then
        let size ← attempt wholeNumber
        let _ ← symbol .rightBracket
        let sizeText := (size.map (toString ·)).getD ""
        return some { t with kind := .builtIn, text := t.text ++ "[" ++ sizeText ++ "]" }
      else return none) t
  else return t

/-- A type that is not built in. -/
def customType (g : Level) : Rule DataType := do
  let name ← objectName g
  return { kind := .custom, text := name.text ++ (← typeModifiers?) }

/-- The type `TABLE`, after its first word: its columns, if they are given. -/
def tableType (g : Level) : Rule DataType := do
  if ← isSymbol .leftParen then
    let columns ← parens (list g.dialect g.column)
    return { kind := .builtIn, text := "TABLE" ++ inParens (commaText columns) }
  else return { kind := .builtIn, text := "TABLE" }

/-- A type that starts with the given word. -/
def typeOfWord (g : Level) (type : Rule DataType) (w : Word) : Rule DataType := do
  let d := g.dialect
  let k := w.keyword.getD ""
  let builtIn (text : Rule String) : Rule DataType := do
    let _ ← next
    return { kind := .builtIn, text := ← text }
  match simpleType? d k, containerType? g type k with
  | some text, _ | none, some text => builtIn text
  | none, none =>
    if k = "ARRAY" then
      let _ ← next
      arrayType d type
    else if k = "STRUCT" && (d == .generic || d == .bigquery) then
      let _ ← next
      structType g type
    else if k = "INTERVAL" then
      let _ ← next
      intervalType d
    else if k = "TABLE" then
      let _ ← next
      tableType g
    else if ← keywords? ["ANY", "TYPE"] then return { kind := .builtIn, text := "ANY TYPE" }
    else customType g

/-- A type. Types in types are bounded by the tokens that are left. -/
def dataTypeWithin (g : Level) : (bound : List Lexeme) → Rule DataType
  | [] => expected "a data type name"
  | _ :: bound => do
    match (← token).bind Token.word? with
    | some w => typeBrackets g.dialect (← typeOfWord g (dataTypeWithin g bound) w)
    | none => rejectNext "a data type name"

/-- A type. -/
def dataType (g : Level) : Rule DataType := do
  closedType (dataTypeWithin g (← get))

end SqlCompletion.Sql.Rule
