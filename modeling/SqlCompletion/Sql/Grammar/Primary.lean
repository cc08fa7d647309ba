import SqlCompletion.Sql.Grammar.Call
import SqlCompletion.Sql.Grammar.Operator

/-!
# Primary expressions

An expression starts with one of these: a literal, a word, something in brackets, or an operator
with its operand.

## Words with a syntax of their own

Words such as `CASE`, `CAST` or `NOT` start expressions with a syntax of their own. They are also
valid names. Such a word is first read in its special way, and if that fails, as a name or as the
name of a function. Where that fails too, or is not allowed, the error of the special reading
counts.
-/

namespace SqlCompletion.Sql.Rule

/-! ## Special syntax -/

/-- A subquery in parentheses as an expression. -/
def subquery (g : Level) : Rule Expr := do
  let q ← parens g.query
  return .compound .subquery [] q.extent

/-- The branches of `CASE`, after the first `WHEN`: conditions and results in turn. -/
def caseBranches (g : Level) : Rule (List Expr) := do
  let branch : Rule (List Expr) := do
    let condition ← g.anyExpr
    let _ ← keyword "THEN"
    return [condition, ← g.anyExpr]
  iterate (fun read => do
    if ← keyword? "WHEN" then return some (read ++ (← branch)) else return none) (← branch)

/-- The form `CASE .. END`, after its first word. -/
def caseExpr (g : Level) (start : Range) : Rule Expr := do
  let operand ←
    if ← keyword? "WHEN" then pure []
    else
      let e ← g.anyExpr
      let _ ← keyword "WHEN"
      pure [e]
  let branches ← caseBranches g
  let otherwise ← clause? g "ELSE"
  let stop ← keyword "END"
  let operands := operand ++ branches ++ otherwise
  return .compound .cases operands ((start.cover (Expr.extentAll operands)).cover stop.range)

/-- The form `CAST(e AS type)`, after its first word. -/
def castExpr (g : Level) : Rule Expr :=
  parens do
    let e ← g.anyExpr
    let _ ← keyword "AS"
    let _ ← dataType g
    if ← keyword? "FORMAT" then
      let _ ← literal g.dialect
      if ← keywords? ["AT", "TIME", "ZONE"] then discard (literal g.dialect)
    return .of .cast [e]

/-- The form `CONVERT(..)`, after its first word. -/
def convertExpr (g : Level) : Rule Expr :=
  let d := g.dialect
  parens do
    if d.typeFirstConvert then
      let _ ← dataType g
      let _ ← symbol .comma
      let e ← g.anyExpr
      let styles ← if ← symbol? .comma then g.exprs else pure []
      return .of .conversion (e :: styles)
    else
      let e ← g.anyExpr
      let charset ←
        if ← keyword? "USING" then (·.extent) <$> objectName g
        else
          let _ ← symbol .comma
          let _ ← dataType g
          if ← keywords? ["CHARACTER", "SET"] then (·.extent) <$> objectName g else pure .none
      return .compound .conversion [e] (e.extent.cover charset)

/-- The form `EXTRACT(unit FROM e)`, after its first word. -/
def extractExpr (g : Level) : Rule Expr :=
  parens do
    let _ ← timeUnit g.dialect
    if !(← keyword? "FROM") then
      if !(← onlyIf g.dialect.extractComma (symbol? .comma)) then
        throw (.note "Expected 'FROM' or ','" none)
    return .of .extraction [← g.anyExpr]

/-- The forms `CEIL(..)` and `FLOOR(..)`, after its first word. -/
def roundingExpr (g : Level) : Rule Expr :=
  parens do
    let e ← g.anyExpr
    if ← keyword? "TO" then discard (timeUnit g.dialect)
    else if ← symbol? .comma then
      if (← literal g.dialect).kind != .number then
        throw (.note "Scale field can only be of number type" none)
    return .of .rounding [e]

/-- The form `POSITION(e IN e)`, after its first word. -/
def positionExpr (g : Level) : Rule Expr :=
  parens do
    let e ← g.expr (Binding.between.power g.dialect)
    let _ ← keyword "IN"
    return .of .position [e, ← g.anyExpr]

/-- The form `SUBSTRING(e FROM e FOR e)`, also with commas, after its first word. -/
def substringExpr (g : Level) : Rule Expr :=
  parens do
    let e ← g.anyExpr
    let start ← if ← symbol? .comma then pure [← g.anyExpr] else clause? g "FROM"
    let count ←
      if ← keyword? "FOR" then pure [← g.anyExpr]
      else if ← symbol? .comma then pure [← g.anyExpr]
      else pure []
    return .of .substring (e :: start ++ count)

/-- The form `OVERLAY(e PLACING e FROM e FOR e)`, after its first word. -/
def overlayExpr (g : Level) : Rule Expr :=
  parens do
    let e ← g.anyExpr
    let _ ← keyword "PLACING"
    let new ← g.anyExpr
    let _ ← keyword "FROM"
    let start ← g.anyExpr
    return .of .overlay ([e, new, start] ++ (← clause? g "FOR"))

/-- The form `TRIM(..)`, after its first word. -/
def trimExpr (g : Level) : Rule Expr :=
  parens do
    let _ ← oneOf? ["BOTH", "LEADING", "TRAILING"]
    let e ← g.anyExpr
    if ← keyword? "FROM" then return .of .trim [e, ← g.anyExpr]
    else if (← symbol? .comma) && g.dialect.trimLists then return .of .trim (e :: (← g.exprs))
    else return .of .trim [e]

/-- The elements of an array, after the opening bracket. -/
def arrayExpr (g : Level) : Rule Expr := do
  let elements ← listBefore g.dialect .rightBracket g.anyExpr
  let _ ← symbol .rightBracket
  return .of .array elements

/-- What `NOT` negates. -/
def notExpr (g : Level) : Rule Expr := do
  if ← keyword? "EXISTS" then subquery g
  else return .of .operation [← g.expr (Binding.not.power g.dialect)]

/-- The form `MATCH (..) AGAINST (..)`, after its first word. -/
def matchExpr (g : Level) : Rule Expr := do
  let d := g.dialect
  let _ ← columnList d (objectName g)
  let _ ← keyword "AGAINST"
  parens do
    let _ ← literal d
    if ← keywords? ["IN", "NATURAL", "LANGUAGE", "MODE"] then
      discard (keywords? ["WITH", "QUERY", "EXPANSION"])
    else if !(← keywords? ["IN", "BOOLEAN", "MODE"]) then
      discard (keywords? ["WITH", "QUERY", "EXPANSION"])
  return .placeless .textSearch []

/-- The form `STRUCT(..)`, after its first word. -/
def structExpr (g : Level) : Rule Expr := do
  let d := g.dialect
  let (fields, unmatched) ← recordFields g (dataTypeWithin g (← get))
  if unmatched then complain "unmatched > in STRUCT literal"
  let values ← parens (list d do
    let e ← g.anyExpr
    if ← isKeyword "AS" then
      if !fields.isEmpty then complain "Typed syntax does not allow AS"
      let _ ← next
      discard identifier
    return e)
  return .placeless .record values

/-- A pair of a key and a value with a colon between them. -/
def pair (key : Rule Expr) (g : Level) : Rule Expr := do
  let k ← key
  let _ ← symbol .colon
  return .of .record [k, ← g.anyExpr]

/-- Pairs in braces. -/
def braced (g : Level) (key : Rule Expr) : Rule Expr := do
  let _ ← symbol .leftBrace
  let pairs ← listBefore g.dialect .rightBrace (pair key g)
  let _ ← symbol .rightBrace
  return .placeless .record pairs

/-- A call without arguments, or with arguments if a parenthesis follows. -/
def timeFunction (g : Level) (name : Ident) : Rule Expr := do
  if ← symbol? .leftParen then
    let a ← argumentList g
    return .call [name] a.searched a.rest
  else return .call [name] [] .none

/-- What the word `EXISTS` is followed by, unless it is the name of a function. -/
def existsExpr? (g : Level) : Rule (Option Expr) := do
  let ahead := ((← tokenAt 1).bind Token.keyword?).getD ""
  if g.dialect != .databricks || ["SELECT", "WITH"].contains ahead then some <$> subquery g
  else return none

/-- What the word `POSITION` is followed by. -/
def positionExpr? (g : Level) (name : Ident) : Rule (Option Expr) := do
  if ← isSymbol .leftParen then
    match ← attempt (positionExpr g) with
    | some e => return some e
    | none => some <$> call g [name]
  else return none

/-- What the word `ARRAY` is followed by: elements, or a query. -/
def arrayExpr? (g : Level) (name : Ident) : Rule (Option Expr) := do
  if ← symbol? .leftBracket then some <$> arrayExpr g
  else if (← isSymbol .leftParen) && g.dialect != .clickhouse && g.dialect != .databricks then
    let q ← parens g.query
    return some (.call [name] [] q.extent)
  else return none

/-- Words before the literals of shapes. -/
def shapes : List String := ["POINT", "LINE", "LSEG", "BOX", "PATH", "POLYGON", "CIRCLE"]

/-- The special reading of a word that was just taken; nothing if it has none here. -/
def specialWord? (g : Level) (interval : Rule Expr) (w : Word) (extent : Range) :
    Rule (Option Expr) := do
  let d := g.dialect
  let name := identOf w extent
  match w.keyword.getD "" with
  | "TRUE" | "FALSE" => return if d.booleanLiterals then some (.literal extent) else none
  | "NULL" => return some (.literal extent)
  | "CURRENT_CATALOG" | "CURRENT_USER" | "SESSION_USER" | "USER" =>
    return if d == .generic || d == .postgres then some (.call [name] [] .none) else none
  | "CURRENT_TIMESTAMP" | "CURRENT_TIME" | "CURRENT_DATE" | "LOCALTIME" | "LOCALTIMESTAMP" =>
    some <$> timeFunction g name
  | "CASE" => some <$> caseExpr g extent
  | "CONVERT" => some <$> convertExpr g
  | "TRY_CONVERT" =>
    if d == .generic || d == .mssql then some <$> convertExpr g else return none
  | "CAST" | "TRY_CAST" | "SAFE_CAST" => some <$> castExpr g
  | "EXISTS" => existsExpr? g
  | "EXTRACT" => some <$> extractExpr g
  | "CEIL" | "FLOOR" => some <$> roundingExpr g
  | "POSITION" => positionExpr? g name
  | "SUBSTR" | "SUBSTRING" => some <$> substringExpr g
  | "OVERLAY" => some <$> overlayExpr g
  | "TRIM" => some <$> trimExpr g
  | "INTERVAL" => some <$> interval
  | "ARRAY" => arrayExpr? g name
  | "NOT" => some <$> notExpr g
  | "MATCH" => if d.fullTextMatch then some <$> matchExpr g else return none
  | "STRUCT" => if d.structLiterals then some <$> structExpr g else return none
  | "MAP" =>
    if d.mapLiterals && (← isSymbol .leftBrace) then some <$> braced g g.anyExpr else return none
  | "PRIOR" =>
    if g.context = .links then
      return some (.of .prior [← g.expr (Binding.sum.power d)])
    else return none
  | k =>
    if d.shapeOperators && shapes.contains k then
      return some (.literal (← literal d).extent)
    else return none

/-! ## Words -/

/-- The mark `(+)` is next. -/
def isOuterJoinMark (d : Dialect) : Rule Bool := do
  return d.outerJoinMarks && (← tokenAt 0) == some (.symbol .leftParen) &&
    (← tokenAt 1) == some (.symbol .plus) && (← tokenAt 2) == some (.symbol .rightParen)

/-- A word that was just taken, as a name or as the name of a function. -/
def plainWord (g : Level) (w : Word) (extent : Range) : Rule Expr := do
  let name := identOf w extent
  match ← peek with
  | some { token := .symbol .leftParen, .. } =>
    if ← isOuterJoinMark g.dialect then return .name [name] else call g [name]
  | some { token := .string q _, range } =>
    if w.value.startsWith "_" && (q = .single || q = .double || q = .hex) then
      let _ ← next
      return .literal range
    else return .name [name]
  | some { token := .symbol .arrow, .. } =>
    if g.dialect.lambdas then
      let _ ← next
      return .placeless .function [← g.anyExpr]
    else return .name [name]
  | _ => return .name [name]

/-- Reads a word in its special way, or else plainly. A word that is read plainly because its
special reading failed takes no collation. -/
def specialOr (g : Level) (reserved : Bool) (special : Rule (Option Expr)) (plain : Rule Expr) :
    Rule Expr := do
  match ← outcome special with
  | .ok (some e) => collated g e
  | .ok none => collated g (← plain)
  | .error reason =>
    if reserved then throw reason
    match ← outcome plain with
    | .ok e => return e
    | .error _ => throw reason

/-- The word may not be read as a name where it has a special reading. -/
def isReservedName (d : Dialect) (w : Word) : Bool :=
  w.isOneOf Keyword.reservedIdentifiers && !(d == .snowflake && w.isKeyword "INTERVAL")

/-- A word that was just taken. -/
def wordExpr (g : Level) (interval : Rule Expr) (w : Word) (extent : Range) : Rule Expr :=
  specialOr g (isReservedName g.dialect w) (specialWord? g interval w extent)
    (plainWord g w extent)

/-! ## Brackets -/

/-- A function of named parameters, after the opening parenthesis. -/
def lambda? (g : Level) : Rule (Option Expr) := do
  if g.dialect.lambdas then
    attempt do
      let _ ← list g.dialect identifier
      let _ ← symbol .rightParen
      let _ ← symbol .arrow
      return .placeless .function [← g.anyExpr]
  else return none

/-- Expressions in parentheses, after the opening one: one alone, or several as a tuple. A function
takes no collation. -/
def parenthesized (g : Level) : Rule Expr := do
  if ← startsQuery then
    let q ← g.query
    let _ ← symbol .rightParen
    collated g (.compound .subquery [] q.extent)
  else
    match ← lambda? g with
    | some e => return e
    | none =>
      let es ← g.exprs
      let _ ← symbol .rightParen
      match es with
      | [e] => collated g (.of .parenthesized [e])
      | es => collated g (.of .tuple es)

/-- A literal or a call in braces. -/
def escapedExpr (g : Level) : Rule Expr := do
  let _ ← symbol .leftBrace
  let e ←
    match ← attempt (do
      let _ ← keyword "FN"
      call g (← objectName g).parts) with
    | some e => pure e
    | none =>
      match ← token with
      | some (.word w) =>
        if ["t", "d", "ts"].contains w.text then
          let _ ← next
          pure (.literal (← literal g.dialect).extent)
        else expected "ODBC datetime keyword (t, d, or ts)"
      | _ => expected "ODBC datetime keyword (t, d, or ts)"
  return e

/-- Something in braces. -/
def bracedExpr (g : Level) : Rule Expr := do
  match ← attempt (escapedExpr g) with
  | some e =>
    let _ ← symbol .rightBrace
    return e
  | none =>
    if g.dialect.dictionaries then
      braced g ((fun i => .name [i]) <$> identifier)
    else rejectNext "an expression"

/-! ## Primary expressions -/

/-- The power with which the operand of an operator in front of it is read; nothing if the symbol is
no such operator. -/
def signPower? (d : Dialect) (s : Symbol) : Option Nat :=
  match s with
  | .minus | .plus => some (Binding.product.power d)
  | .bang => if d.bangNegates then some (Binding.not.power d) else none
  | .tilde | .doubleBang | .pipeSlash | .doublePipeSlash | .atSign =>
    if d == .postgres then some (Binding.sum.power d) else none
  | .hash | .atDashAt | .doubleAt | .questionDash | .questionPipe =>
    if d.shapeOperators then some (Binding.sum.power d) else none
  | _ => none

/-- A built-in type and a literal of it, or an interval. -/
def typedLiteral (g : Level) (interval : Rule Expr) : Rule Expr := do
  match (← dataType g).kind with
  | .interval => interval
  | .builtIn => return .literal (← literal g.dialect).extent
  | .custom => expected "a literal"

/-- A primary expression that starts with a symbol. -/
def symbolExpr (g : Level) (s : Symbol) : Rule Expr := do
  match signPower? g.dialect s with
  | some power =>
    let _ ← next
    return .of .operation [← g.expr power]
  | none =>
    match s with
    | .colon | .atSign => return .literal (← literal g.dialect).extent
    | .leftBracket =>
      let _ ← next
      arrayExpr g
    | .leftBrace => bracedExpr g
    | _ => rejectNext "an expression"

/-- A primary expression that starts with the given token. -/
def primaryAt (g : Level) (interval : Rule Expr) (t : Lexeme) : Rule Expr := do
  let d := g.dialect
  let value : Rule Expr := do collated g (.literal (← literal d).extent)
  match t.token with
  | .word w =>
    let _ ← next
    wordExpr g interval w t.range
  | .string q _ =>
    if d == .redshift && q = .escaped then rejectNext "an expression" else value
  | .number _ _ | .placeholder _ => value
  | .symbol .leftParen =>
    let _ ← next
    parenthesized g
  | .symbol s => collated g (← symbolExpr g s)
  | _ => rejectNext "an expression"

/-- A primary expression. The value of an interval may be one again; each takes a token. A typed
literal takes no collation. -/
def primaryWithin (g : Level) : (bound : List Lexeme) → Rule Expr
  | [] => expected "an expression"
  | _ :: bound => do
    let value := if g.dialect.intervalUnits then g.anyExpr else primaryWithin g bound
    let interval := Rule.interval g.dialect value
    match ← attempt (typedLiteral g interval) with
    | some e => return e
    | none =>
      match ← peek with
      | some t => primaryAt g interval t
      | none => expected "an expression"

/-- A primary expression. -/
def primary (g : Level) : Rule Expr := do
  primaryWithin g (← get)

end SqlCompletion.Sql.Rule
