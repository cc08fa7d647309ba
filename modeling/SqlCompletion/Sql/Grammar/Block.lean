import SqlCompletion.Sql.Grammar.Transaction

/-!
# Blocks of statements

Branches, loops and blocks hold statements themselves. The rule for those is a parameter here.
Nothing of a block is kept.
-/

namespace SqlCompletion.Sql.Rule

/-- Takes semicolons; whether there was one. -/
def semicolons : Rule Bool :=
  iterate (fun _ => do
    if ← symbol? .semicolon then return some true else return none) false

/-- Statements up to the end of the text or one of the given keywords. What `separator` reads stands
after each of them. -/
def statementList (inner : Rule Statement) (separator : Rule Unit) (ends : List String) :
    Rule Unit :=
  iterate (fun _ => do
    if (← peek).isNone || (← isOneOf ends) then return none
    else
      let _ ← inner
      separator
      return some ()) ()

/-- The statements of a branch. They may stand between `BEGIN` and `END`. -/
def branch (inner : Rule Statement) (ends : List String) : Rule Unit := do
  let bracketed ← keyword? "BEGIN"
  statementList inner (discard (symbol .semicolon)) ends
  if bracketed then discard (keyword "END")

/-- A condition and the statements for the case that it holds. -/
def conditionalBranch (g : Level) (inner : Rule Statement) (ends : List String) : Rule Unit := do
  let _ ← g.anyExpr
  let _ ← keyword "THEN"
  branch inner ends

/-- Conditional branches with a keyword between them. -/
def conditionalBranches (g : Level) (inner : Rule Statement) (between : String)
    (ends : List String) : Rule Unit := do
  conditionalBranch g inner ends
  iterate (fun _ => do
    if ← keyword? between then
      conditionalBranch g inner ends
      return some ()
    else return none) ()

/-- The rest of `IF`. -/
def ifStatement (g : Level) (inner : Rule Statement) : Rule Unit := do
  conditionalBranch g inner ["ELSE", "ELSEIF", "END"]
  if ← keyword? "ELSEIF" then
    conditionalBranches g inner "ELSEIF" ["ELSEIF", "ELSE", "END"]
  if ← keyword? "ELSE" then branch inner ["END"]
  keywords ["END", "IF"]

/-- A statement, or several between `BEGIN` and `END`. -/
def statementOrBlock (inner : Rule Statement) : Rule Unit := do
  if ← keyword? "BEGIN" then
    statementList inner (discard semicolons) ["END"]
    discard (keyword "END")
  else discard inner

/-- The rest of an `IF` that has no end of its own. A semicolon before `ELSE` does not end it. -/
def openIfStatement (g : Level) (inner : Rule Statement) : Rule Unit := do
  let _ ← g.anyExpr
  statementOrBlock inner
  let start ← get
  let _ ← semicolons
  if ← keyword? "ELSE" then statementOrBlock inner else set start

/-- The rest of a `CASE` with statements in its branches. -/
def caseStatement (g : Level) (inner : Rule Statement) : Rule Unit := do
  if !(← isKeyword "WHEN") then discard g.anyExpr
  let _ ← keyword "WHEN"
  conditionalBranches g inner "WHEN" ["WHEN", "ELSE", "END"]
  if ← keyword? "ELSE" then branch inner ["END"]
  let _ ← keyword "END"
  discard (keyword? "CASE")

/-- The rest of `WHILE`. -/
def whileStatement (g : Level) (inner : Rule Statement) : Rule Unit := do
  let _ ← g.anyExpr
  branch inner ["END"]

/-- What is done about some exceptions. -/
def exceptionHandler (inner : Rule Statement) : Rule Unit := do
  let _ ← keyword "WHEN"
  iterate (fun _ => do
    if ← keyword? "THEN" then return none
    else
      let _ ← identifier
      let _ ← keyword? "OR"
      return some ()) ()
  statementList inner (discard (symbol .semicolon)) ["WHEN", "END"]

/-- The rest of a block, with what is done about exceptions in it. -/
def block (inner : Rule Statement) : Rule Unit := do
  statementList inner (discard (symbol .semicolon)) ["EXCEPTION", "END"]
  if ← keyword? "EXCEPTION" then
    iterate (fun _ => do
      if ← isKeyword "END" then return none
      else
        exceptionHandler inner
        return some ()) ()
  discard (keyword "END")

/-- The rest of `BEGIN`, which starts a block or a transaction. -/
def beginStatement (d : Dialect) (inner : Rule Statement) : Rule Unit := do
  let ends ← (do return (← peek).isNone) <||> isSymbol .semicolon <||> isKeyword "TRANSACTION"
  if d == .snowflake || (d == .bigquery && !ends) then block inner else beginTransaction d

/-- The rest of `RAISE`. -/
def raise (g : Level) : Rule Unit := do
  if ← keywords? ["USING", "MESSAGE"] then
    let _ ← symbol .equal
    discard g.anyExpr
  else discard (attempt g.anyExpr)

/-- The rest of `RAISERROR`. -/
def raiseError (g : Level) : Rule Unit := do
  let d := g.dialect
  parens do
    let _ ← g.anyExpr
    let _ ← symbol .comma
    let _ ← g.anyExpr
    let _ ← symbol .comma
    let _ ← g.anyExpr
    if ← symbol? .comma then discard g.exprs
  if ← keyword? "WITH" then discard (list d (oneOf ["LOG", "NOWAIT", "SETERROR"]))

end SqlCompletion.Sql.Rule
