import SqlCompletion.Sql.Grammar.Relation

/-!
# Table functions with a syntax of their own

Tables that are made of a document, such as `JSON_TABLE(..)`, and views of a semantic model. They
start with a keyword and a parenthesis; without the parenthesis the keyword is a name.
-/

namespace SqlCompletion.Sql.Rule

/-! ## JSON_TABLE -/

/-- What happens where a column has no value, or a wrong one. -/
def columnFallback? (d : Dialect) : Rule (Option Unit) := do
  match ← oneOf? ["NULL", "ERROR", "DEFAULT"] with
  | none => return none
  | some k =>
    if k = "DEFAULT" then discard (literal d)
    let _ ← keyword "ON"
    if !(← keyword? "EMPTY") then discard (keyword "ERROR")
    return some ()

/-- A column of a document; `nested` reads the columns of a document in it. -/
def documentColumn (g : Level) (nested : Rule Unit) : Rule Unit := do
  let d := g.dialect
  if ← keyword? "NESTED" then
    let _ ← keyword? "PATH"
    let _ ← literal d
    let _ ← keyword "COLUMNS"
    parens (discard (list d nested))
  else
    let _ ← identifier
    if ← keyword? "FOR" then discard (keyword "ORDINALITY")
    else
      let _ ← dataType g
      let _ ← keyword? "EXISTS"
      let _ ← keyword "PATH"
      let _ ← literal d
      iterate (fun _ => columnFallback? d) ()

/-- A column of a document. Documents in documents are bounded by the tokens that are left. -/
def documentColumnWithin (g : Level) : (bound : List Lexeme) → Rule Unit
  | [] => expected "identifier"
  | _ :: bound => documentColumn g (documentColumnWithin g bound)

/-- What stands in the parentheses of `JSON_TABLE`. -/
def documentTable (g : Level) : Rule Unit := do
  let _ ← g.anyExpr
  let _ ← symbol .comma
  let _ ← literal g.dialect
  let _ ← keyword "COLUMNS"
  parens do
    let bound ← get
    discard (list g.dialect (documentColumnWithin g bound))

/-! ## OPENJSON -/

/-- A column of an opened document. -/
def openedColumn (g : Level) : Rule Unit := do
  let _ ← identifier
  let _ ← dataType g
  match ← token with
  | some (.string q _) => if q = .single then discard next
  | _ => pure ()
  if ← keyword? "AS" then discard (keyword "JSON")

/-- What follows the opening parenthesis of `OPENJSON`, with the closing one and the columns. -/
def openedDocument (g : Level) : Rule Unit := do
  let _ ← g.anyExpr
  if ← symbol? .comma then discard (literal g.dialect)
  let _ ← symbol .rightParen
  if ← keyword? "WITH" then discard (parens (list g.dialect (openedColumn g)))

/-! ## XMLTABLE -/

/-- What an XML document is searched in. -/
def passing? (g : Level) : Rule Unit := do
  if ← keyword? "PASSING" then
    let argument : Rule Unit := do
      if ← keyword? "BY" then discard (keyword? "VALUE")
      discard (aliasedExpr g)
    argument
    iterate (fun _ => do
      if ← symbol? .comma then
        argument
        return some ()
      else return none) ()

/-- A column of an XML document. -/
def elementColumn (g : Level) : Rule Unit := do
  let _ ← identifier
  if ← keyword? "FOR" then discard (keyword "ORDINALITY")
  else
    let _ ← dataType g
    let _ ← clause? g "PATH"
    let _ ← clause? g "DEFAULT"
    if !(← keywords? ["NOT", "NULL"]) then discard (keyword? "NULL")

/-- What stands in the parentheses of `XMLTABLE`. -/
def elementTable (g : Level) : Rule Unit := do
  let d := g.dialect
  if ← keyword? "XMLNAMESPACES" then
    let _ ← parens (list d do
      let _ ← g.anyExpr
      let _ ← keyword "AS"
      identifier)
    discard (symbol .comma)
  let _ ← g.anyExpr
  passing? g
  let _ ← keyword "COLUMNS"
  discard (list d (elementColumn g))

/-! ## SEMANTIC_VIEW -/

/-- How far an expression or a star extends. -/
def starredExtent : Starred → Range
  | .star extent => extent
  | .qualified qualifier extent => (identsExtent qualifier).cover extent
  | .expr e => e.extent

/-- The clauses of a semantic view so far, and how far they extend. -/
structure ViewClauses where
  seen : List String := []
  extent : Range := .none

/-- One more clause of a semantic view, each of which may stand there once. -/
def viewClause (g : Level) (v : ViewClauses) : Rule (Option ViewClauses) := do
  if ← isSymbol .rightParen then return none
  match ← oneOf? ["DIMENSIONS", "METRICS", "FACTS", "WHERE"] with
  | some k =>
    if v.seen.contains k then throw (.note (k ++ " clause can only be specified once") none)
    let extent ←
      if k = "WHERE" then (·.extent) <$> g.anyExpr
      else
        let items ← list g.dialect (starOr g.anyExpr)
        pure (Range.coverAll (items.map starredExtent))
    return some { seen := k :: v.seen, extent := v.extent.cover extent }
  | none =>
    let found := ((← token).map Token.text).getD "EOF"
    complain ("Expected one of DIMENSIONS, METRICS, FACTS or WHERE, got " ++ found)

/-- A view of a semantic model, after the opening parenthesis, with the closing one. -/
def semanticView (g : Level) : Rule Range := do
  let name ← tableName g
  let v ← iterate (viewClause g) {}
  let _ ← symbol .rightParen
  return name.extent.cover v.extent

/-! ## All of them -/

/-- A table function that has a syntax of its own; nothing if there is none. -/
def tableFunction? (g : Level) : Rule (Option Relation) := do
  let k := (← peekKeyword?).getD ""
  let known := ["JSON_TABLE", "OPENJSON", "XMLTABLE"].contains k ||
    (k = "SEMANTIC_VIEW" && g.dialect.semanticViews)
  if known && (← tokenAt 1) == some (.symbol .leftParen) then
    let _ ← next
    let _ ← next
    let source ←
      match k with
      | "JSON_TABLE" =>
        documentTable g
        let _ ← symbol .rightParen
        pure .placeless
      | "OPENJSON" =>
        openedDocument g
        pure .placeless
      | "XMLTABLE" =>
        elementTable g
        let _ ← symbol .rightParen
        pure .placeless
      | _ => .other <$> semanticView g
    return some { source, aliasName := ← tableAlias? g }
  else return none

end SqlCompletion.Sql.Rule
