import SqlCompletion.Sql.Grammar.Primary

/-!
# Expressions

A primary expression, what is reached from it with dots and brackets, and the operators that follow,
as long as they bind tighter than what stands before.
-/

namespace SqlCompletion.Sql

/-! ## Paths -/

/-- The single name that an expression is. -/
def Expr.ident? : Expr → Option Ident
  | .name [i] => some i
  | _ => none

/-- The parts of an expression that is a name. -/
def Expr.parts? : Expr → Option (List Ident)
  | .name parts => some parts
  | _ => none

/-- The parts of expressions that are all names. -/
def namesOf? (es : List Expr) : Option (List Ident) :=
  (es.mapM Expr.parts?).map List.flatten

/-- A path: a root and the links after it. Names make a longer name; names before a call make the
name of a function longer. -/
def pathOf (root : Expr) (links : List Expr) : Expr :=
  if links.isEmpty then root
  else if root.ident?.isNone then .of .path (root :: links)
  else
    match namesOf? (root :: links) with
    | some parts => .name parts
    | none =>
      match links.getLast?, namesOf? (root :: links.dropLast) with
      | some (.call function arguments rest), some scope =>
        .call (scope ++ function) arguments rest
      | _, _ => .of .path (root :: links)

namespace Rule

/-- An index or a slice, after the opening bracket, with the closing one. -/
def subscript (g : Level) : Rule Expr := do
  let close : Rule Bool := symbol? .rightBracket
  let lower ← if ← symbol? .colon then pure none else some <$> g.anyExpr
  if ← close then return .of .subscript lower.toList
  if lower.isSome then discard (symbol .colon)
  if ← close then return .of .subscript lower.toList
  let upper ← g.anyExpr
  if ← close then return .of .subscript (lower.toList ++ [upper])
  let _ ← symbol .colon
  if ← close then return .of .subscript (lower.toList ++ [upper])
  let stride ← g.anyExpr
  let _ ← symbol .rightBracket
  return .of .subscript (lower.toList ++ [upper, stride])

/-- What follows a dot. -/
def pathLink (g : Level) : Rule Expr := do
  match ← peek with
  | some { token := .string q v, range } =>
    if q = .single then
      let _ ← next
      return .name [{ value := v, quote := some '\'', extent := range }]
    else g.expr (Binding.dot.power g.dialect)
  | _ => g.expr (Binding.dot.power g.dialect)

/-- One more link of a path. A dot before a star does not belong to it. -/
def pathStep (g : Level) (links : List Expr) : Rule (Option (List Expr)) := do
  if ← isSymbol .period then
    if (← tokenAt 1) == some (.symbol .star) then return none
    else
      let _ ← next
      return some ((← pathLink g) :: links)
  else if ← onlyIf (!g.dialect.bracketPaths) (symbol? .leftBracket) then
    return some ((← subscript g) :: links)
  else return none

/-- A star at the end of a path; only names may stand before it. -/
def pathStar (root : Expr) (links : List Expr) : Rule Expr := do
  let _ ← next
  let star ← next
  match namesOf? (root :: links) with
  | some parts =>
    return .compound .wildcard []
      ((identsExtent parts).cover ((star.map (·.range)).getD .none))
  | none => expected "an identifier or a '*' after '.'"

/-- The last of the tokens before the given rest. -/
def lastBefore? (tokens rest : List Lexeme) : Option Lexeme :=
  ((tokens.take (tokens.length - rest.length)).filter (!·.token.isBlank)).getLast?

/-- The mark of an outer join after a path; only names may stand before it. `start` holds the tokens
from the root on. -/
def outerJoinMark (start : List Lexeme) (root : Expr) (links : List Expr) : Rule Expr := do
  let last := lastBefore? start (← get)
  let _ ← next
  let _ ← next
  let _ ← next
  match namesOf? (root :: links) with
  | some parts => return .of .outerJoin [.name parts]
  | none => throw (.expected "column identifier before (+)" last)

/-- The inner expression of an outer join. -/
def outerJoin? : List Expr → Option Expr
  | [.compound .outerJoin [inner] _] => some inner
  | _ => none

/-- Checks that a link that is marked for an outer join follows a name. -/
def checkedPath (root : Expr) (links : List Expr) : Rule Expr := do
  match outerJoin? links with
  | some inner =>
    if root.ident?.isSome && inner.parts?.isSome then return .of .outerJoin [pathOf root [inner]]
    else
      let place := if root.extent = .none then none else some root.extent.start
      throw (.note "column identifier before (+)" place)
  | none => return pathOf root links

/-- The rest of a path after its root. `start` holds the tokens from the root on. -/
def path (g : Level) (start : List Lexeme) (root : Expr) : Rule Expr := do
  let links := (← iterate (pathStep g) []).reverse
  if g.dialect == .postgres && (← isSymbol .period) then pathStar root links
  else if ← isOuterJoinMark g.dialect then outerJoinMark start root links
  else checkedPath root links

/-! ## Paths in documents -/

/-- The key of a field in a document. -/
def fieldKey : Rule Unit := do
  match ← token with
  | some (.word w) =>
    if w.quote.isNone || w.quote = some '"' then discard next
    else rejectNext "variant object key name"
  | some (.string q _) =>
    if q = .double then discard next else rejectNext "variant object key name"
  | _ => rejectNext "variant object key name"

/-- One more step into a document. -/
def documentStep (g : Level) : (read : Bool × List Expr) → Rule (Option (Bool × List Expr))
  | (started, keys) => do
    if ← onlyIf (!started) (symbol? .colon) then
      fieldKey
      return some (true, keys)
    else if ← onlyIf started (symbol? .period) then
      fieldKey
      return some (true, keys)
    else if ← symbol? .leftBracket then
      let key ← g.anyExpr
      let _ ← symbol .rightBracket
      return some (true, key :: keys)
    else return none

/-- A path into a document. -/
def documentPath (g : Level) (e : Expr) : Rule Expr := do
  let (_, keys) ← iterate (documentStep g) (false, [])
  return .of .path (e :: keys.reverse)

/-! ## Tests -/

/-- The tests that may follow `IS`, with their words. -/
def isTests : List (List String × Form) :=
  [(["NULL"], .isNull), (["NOT", "NULL"], .isNotNull), (["TRUE"], .isTrue),
    (["NOT", "TRUE"], .isNotTrue), (["FALSE"], .isFalse), (["NOT", "FALSE"], .isNotFalse),
    (["UNKNOWN"], .isUnknown), (["NOT", "UNKNOWN"], .isNotUnknown)]

/-- The first test whose words are next. -/
def isTest? : List (List String × Form) → Rule (Option Form)
  | [] => return none
  | (words, form) :: rest => do
    if ← keywords? words then return some form else isTest? rest

/-- A test after `IS`. -/
def isExpr (g : Level) (e : Expr) : Rule Expr := do
  match ← isTest? isTests with
  | some form => return .of form [e]
  | none =>
    if ← keywords? ["DISTINCT", "FROM"] then return .of .isDistinctFrom [e, ← g.anyExpr]
    else if ← keywords? ["NOT", "DISTINCT", "FROM"] then
      return .of .isNotDistinctFrom [e, ← g.anyExpr]
    else
      let _ ← keyword? "NOT"
      let _ ← oneOf? ["NFC", "NFD", "NFKC", "NFKD"]
      if ← keyword? "NORMALIZED" then return .of .isNormalized [e]
      else expected "[NOT] NULL | TRUE | FALSE | DISTINCT | [form] NORMALIZED FROM after IS"

/-- What follows `IN`. -/
def inExpr (g : Level) (e : Expr) : Rule Expr := do
  if ← keyword? "UNNEST" then return .of .inArray [e, ← parens g.anyExpr]
  else
    parens do
      match ← attempt g.query with
      | some q => return .compound .inSubquery [e] (e.extent.cover q.extent)
      | none =>
        let items ←
          if g.dialect.emptyInList then listBefore g.dialect .rightParen g.anyExpr else g.exprs
        return .of .inList (e :: items)

/-- What follows `BETWEEN`. -/
def betweenExpr (g : Level) (e : Expr) : Rule Expr := do
  let power := Binding.between.power g.dialect
  let low ← g.expr power
  let _ ← keyword "AND"
  return .of .between [e, low, ← g.expr power]

/-- A pattern, and the character that escapes in it. -/
def pattern (g : Level) : Rule Expr := do
  let p ← g.expr (Binding.like.power g.dialect)
  if ← keyword? "ESCAPE" then discard (literal g.dialect)
  return p

/-- A test that may be negated, such as `NOT LIKE`. -/
def negatableExpr (g : Level) (e : Expr) : Rule Expr := do
  let negated ← keyword? "NOT"
  let regexp ← keyword? "REGEXP"
  let rlike ← keyword? "RLIKE"
  let null ← onlyIf (g.context != .column) (keyword? "NULL")
  if regexp || rlike then
    return .placeless .regex [e, ← g.expr (Binding.like.power g.dialect)]
  else if negated && null then return .of .isNotNull [e]
  else if ← keyword? "IN" then inExpr g e
  else if ← keyword? "BETWEEN" then betweenExpr g e
  else if (← oneOf? ["LIKE", "ILIKE"]).isSome then
    let _ ← keyword? "ANY"
    return .of .like [e, ← pattern g]
  else if ← keywords? ["SIMILAR", "TO"] then return .of .similar [e, ← pattern g]
  else expected "IN or BETWEEN after NOT"

/-- What follows `MEMBER`. -/
def memberExpr (g : Level) (e : Expr) : Rule Expr := do
  if ← keyword? "OF" then return .of .memberOf [e, ← parens g.anyExpr]
  else expected "OF after MEMBER"

/-! ## Operators -/

/-- An operator that was just taken, as error messages show it. -/
structure Operator where
  text : String
  place : Location
  isComparison : Bool
  isEquality : Bool

/-- The operand of a comparison with any or all of something. -/
def quantifiedOperand (g : Level) (power : Nat) : Rule Expr := do
  let start ← get
  let _ ← symbol .leftParen
  if ← startsQuery then
    set start
    g.expr power
  else
    let e ← g.expr power
    let _ ← symbol .rightParen
    return e

/-- What follows an operator between two operands. -/
def rightOperand (g : Level) (left : Expr) (power : Nat) (op : Operator) : Rule Expr := do
  if (← oneOf? ["ANY", "ALL", "SOME"]).isSome then
    let right ← quantifiedOperand g power
    if op.isComparison then return .of .quantified [left, right]
    else
      throw (.note
        ("Expected one of [=, >, <, =>, =<, !=, ~, ~*, !~, !~*, ~~, ~~*, !~~, !~~*] as " ++
          "comparison operator, found: " ++ op.text) (some op.place))
  else return .of (if op.isEquality then .equality else .operation) [left, ← g.expr power]

/-- The name of an operator in parentheses. -/
def operatorName : Rule String := do
  let part : Rule String := return ((← next).map (·.token.text)).getD "EOF"
  parens do
    let parts ← iterate (fun read => do
      if ← symbol? .period then return some ((← part) :: read) else return none) [← part]
    return "OPERATOR(" ++ ".".intercalate parts.reverse ++ ")"

/-- There is no rule for an operator. -/
def noOperator {α : Type} (t : Lexeme) : Rule α :=
  throw (.note ("No infix parser for token " ++ t.token.label) (some t.range.start))

/-- A keyword as an operator, after an expression; the keyword is next. -/
def keywordOperation (g : Level) (left : Expr) (power : Nat) (t : Lexeme) (k : String) :
    Rule Expr := do
  let d := g.dialect
  let plain (text : String) : Operator :=
    { text, place := t.range.start, isComparison := false, isEquality := false }
  if ["NOT", "IN", "BETWEEN", "LIKE", "ILIKE", "SIMILAR", "REGEXP", "RLIKE"].contains k &&
      !(d == .sqlite && k = "REGEXP") then negatableExpr g left
  else
    let _ ← next
    match k with
    | "AND" | "OR" | "XOR" | "OVERLAPS" => rightOperand g left power (plain k)
    | "OPERATOR" =>
      if d == .generic || d == .postgres then
        rightOperand g left power (plain (← operatorName))
      else noOperator t
    | "IS" => isExpr g left
    | "AT" =>
      keywords ["TIME", "ZONE"]
      return .of .atTimeZone [left, ← g.expr power]
    | "NOTNULL" => return .of .isNotNull [left]
    | "MEMBER" => memberExpr g left
    | "DIV" => if d == .mysql then return .of .operation [left, ← g.anyExpr] else noOperator t
    | "REGEXP" | "MATCH" =>
      if d == .sqlite then return .of .operation [left, ← g.anyExpr] else noOperator t
    | _ => noOperator t

/-- A symbol as an operator, after an expression; the symbol is next. -/
def symbolOperation (g : Level) (left : Expr) (power : Nat) (t : Lexeme) (s : Symbol) :
    Rule Expr := do
  let d := g.dialect
  if s = .colon || (s = .leftBracket && d.bracketPaths) then documentPath g left
  else
    let _ ← next
    if s.isOperator d then
      rightOperand g left power {
        text := s.text
        place := t.range.start
        isComparison := s.isComparison
        isEquality := s.isEquality }
    else if s = .doubleColon then
      let _ ← dataType g
      return .of .cast [left]
    else if s = .bang && d.factorial then return .of .operation [left]
    else noOperator t

/-- An operator after an expression, with what belongs to it. -/
def operation (g : Level) (left : Expr) (power : Nat) : Rule Expr := do
  match ← peek with
  | none => expected "an expression"
  | some t =>
    match t.token with
    | .symbol s => symbolOperation g left power t s
    | .word w => keywordOperation g left power t (w.keyword.getD "")
    | .operator text =>
      let _ ← next
      rightOperand g left power
        { text, place := t.range.start, isComparison := false, isEquality := false }
    | _ => noOperator t

/-- An operator after an expression, if one follows that binds tighter than the given power. A dot
never does, since it belongs to a path. -/
def operationAbove? (g : Level) (power : Nat) (left : Expr) : Rule (Option Expr) := do
  let p ← nextPower g
  if p ≤ power || (← isSymbol .period) then return none
  else return some (← operation g left p)

/-- An expression whose operators bind tighter than the given power. -/
def expression (g : Level) (power : Nat) : Rule Expr := do
  let start ← get
  let first ← path g start (← primary g)
  iterate (operationAbove? g power) first

end Rule

end SqlCompletion.Sql
