import SqlCompletion.Sql.Grammar.Table
import SqlCompletion.Text.Case

/-!
# Items of a select list
-/

namespace SqlCompletion.Sql

/-- An item with how far it extends. Of a star completion does not keep the place. -/
structure Item where
  item : SelectItem
  extent : Range

/-- The item of a star. -/
def Item.ofStar (extent : Range) : Item :=
  { item := { expr := none, aliasName := none, location := .none }, extent }

/-- The item of an expression. -/
def Item.ofExpr (e : Expr) : Item :=
  { item := { expr := some e.toExpression, aliasName := none, location := e.extent }
    extent := e.extent }

/-- The item of an expression with an alias. -/
def Item.ofAlias (e : Expr) (name : Ident) : Item :=
  let extent := e.extent.cover name.extent
  { item := {
      expr := some e.toExpression
      aliasName := some ⟨name.value, name.extent⟩
      location := extent }
    extent }

/-- The name and the value of an equality that gives an item its alias. -/
def Expr.assignment? : Expr → Option (Ident × Expr)
  | .compound .equality [left, right] _ => left.ident?.map (·, right)
  | _ => none

namespace Rule

/-! ## Aliases -/

/-- Words that never are aliases of columns. -/
def clauseWords : List String :=
  ["FROM", "GROUP", "HAVING", "INTERSECT", "INTO", "MINUS", "ORDER", "SELECT", "UNION", "WHERE",
    "WITH"]

/-- Where few words are reserved, some of them are aliases unless what follows gives them
a meaning. -/
def isFreeColumnAlias (w : Word) (ahead : Option Token) : Bool :=
  match w.keyword.getD "" with
  | "EXCEPT" | "RETURNING" => ahead.isNone || ahead == some (.symbol .comma)
  | "LIMIT" | "OFFSET" => !startsLimit ahead
  | "FETCH" => !startsFetch ahead
  | k => !clauseWords.contains k

/-- The word is an alias of a column without `AS`. -/
def isColumnAlias (d : Dialect) (w : Word) (ahead : Option Token) : Bool :=
  match d with
  | .snowflake => isFreeColumnAlias w ahead
  | .bigquery => !w.isOneOf Keyword.reservedClauseWords
  | .mssql => !w.isOneOf ("IF" :: "ELSE" :: Keyword.reservedColumnAliases)
  | _ => !w.isOneOf Keyword.reservedColumnAliases

/-! ## Stars -/

/-- The word `EXCLUDE` and the columns after it. -/
def starExclude? (d : Dialect) : Rule Range := do
  if ← keyword? "EXCLUDE" then
    if ← isSymbol .leftParen then return identsExtent (← identifiersInParens d)
    else return (← identifier).extent
  else return .none

/-- The word `EXCEPT` and the columns after it. -/
def starExcept? (d : Dialect) : Rule Range := do
  if ← keyword? "EXCEPT" then
    if ← isSymbol .leftParen then return identsExtent (← identifiersInParens d)
    else return (← identifier).extent
  else return .none

/-- The word `REPLACE` and the columns after it. -/
def starReplace? (g : Level) : Rule Range := do
  if ← keyword? "REPLACE" then
    if ← isSymbol .leftParen then
      let columns ← parens (list g.dialect do
        let e ← g.anyExpr
        let _ ← keyword? "AS"
        return e.extent.cover (← identifier).extent)
      return Range.coverAll columns
    else rejectNext "( after REPLACE but"
  else return .none

/-- A column and its new name. -/
def renamedColumn : Rule Range := do
  let old ← identifier
  let _ ← keyword "AS"
  return old.extent.cover (← identifier).extent

/-- The word `RENAME` and the columns after it. -/
def starRename? (d : Dialect) : Rule Range := do
  if ← keyword? "RENAME" then
    if ← isSymbol .leftParen then return Range.coverAll (← parens (list d renamedColumn))
    else renamedColumn
  else return .none

/-- A pattern for the columns of a star. -/
def starPattern? : Rule Bool := do
  if ← keyword? "ILIKE" then
    match ← token with
    | some (.string q _) =>
      if q = .single then
        let _ ← next
        return true
      else rejectNext "ilike pattern"
    | _ => rejectNext "ilike pattern"
  else return false

/-- What may follow a star. -/
def starOptions (g : Level) : Rule Range := do
  let d := g.dialect
  let patterned ← onlyIf d.wildcardRename starPattern?
  let exclude ← if !patterned && d.wildcardExclude then starExclude? d else pure .none
  let except ← if d.wildcardExcept then starExcept? d else pure .none
  let replace ← if d.wildcardReplace then starReplace? g else pure .none
  let rename ← if d.wildcardRename then starRename? d else pure .none
  return Range.coverAll [exclude, except, replace, rename]

/-! ## Items -/

/-- The word `from` alone, which is no item. -/
def isFromWord (e : Expr) : Bool :=
  match e.ident? with
  | some i => i.quote.isNone && Text.toLower i.value == "from"
  | none => false

/-- An expression with an alias, if it has one. -/
def aliasedItem (g : Level) (e : Expr) : Rule Item := do
  match ← alias? (isColumnAlias g.dialect) with
  | some name => return .ofAlias e name
  | none => return .ofExpr e

/-- An expression as an item; `mark` is applied to it unless it is read as something else. Before a
star it extends to the last token in front of the star, even if that is a blank. -/
def exprItem (g : Level) (mark : Expr → Expr) (e : Expr) : Rule Item := do
  let d := g.dialect
  if isFromWord e then
    complain ("Expected an expression, found: " ++ ((e.ident?.map Ident.text).getD ""))
  else if d.expressionWildcards && (← isSymbol .period) &&
      (← tokenAt 1) == some (.symbol .star) then
    let period ← symbol .period
    let last := ((← get).takeWhile (·.token.isBlank)).getLastD period
    let _ ← symbol .star
    return .ofStar ((e.extent.cover last.range).cover (← starOptions g))
  else
    match if d.equalsAliases then e.assignment? else none with
    | some (name, value) => return .ofAlias value name
    | none => aliasedItem g (mark e)

/-- An item of a select list. A word before it may ask for the root of a hierarchy. -/
def selectItem (g : Level) : Rule Item := do
  let rooted ← onlyIf g.dialect.hierarchyRootItems (keyword? "CONNECT_BY_ROOT")
  let mark (e : Expr) : Expr := if rooted then .of .marked [e] else e
  match ← starOr g.anyExpr with
  | .star star => return .ofStar (star.cover (← starOptions g))
  | .qualified qualifier star =>
    return .ofStar (((identsExtent qualifier).cover star).cover (← starOptions g))
  | .expr e => exprItem g mark e

/-- Items with commas between them; a comma may end them where the dialect allows it. -/
def itemList (g : Level) : Rule (List Item) :=
  let d := g.dialect
  let stop : Stop := fun w ahead => !isColumnAlias d w ahead
  listWith (if d.trailingCommas || d.trailingItemCommas then some stop else none) (selectItem g)

/-- The table that rows go to. -/
def into? (g : Level) : Rule Range := do
  if ← keyword? "INTO" then
    let _ ← oneOf? ["TEMP", "TEMPORARY"]
    let _ ← keyword? "UNLOGGED"
    let _ ← keyword? "TABLE"
    return (← objectName g).extent
  else return .none

/-- How far the items extend that a changed row returns. -/
def returning? (g : Level) : Rule Range := do
  let items ← after? "RETURNING" (list g.dialect (selectItem g))
  return Range.coverAll ((items.getD []).map (·.extent))

end Rule

end SqlCompletion.Sql
