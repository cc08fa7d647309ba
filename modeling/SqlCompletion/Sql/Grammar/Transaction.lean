import SqlCompletion.Sql.Grammar.Basic

/-!
# Transactions

The statements that begin and end transactions. Nothing of them is kept.
-/

namespace SqlCompletion.Sql.Rule

/-- The level of isolation. -/
def isolationLevel : Rule Unit := do
  if ← keywords? ["READ", "UNCOMMITTED"] <||> keywords? ["READ", "COMMITTED"] <||>
      keywords? ["REPEATABLE", "READ"] <||> keyword? "SERIALIZABLE" <||> keyword? "SNAPSHOT" then
    return
  else expected "isolation level"

/-- One mode of a transaction, which has to be there after a comma, and whether a comma follows. -/
def transactionMode? (required : Bool) : Rule (Option Bool) := do
  if ← keywords? ["ISOLATION", "LEVEL"] then
    isolationLevel
    return some (← symbol? .comma)
  else if ← keywords? ["READ", "ONLY"] <||> keywords? ["READ", "WRITE"] then
    return some (← symbol? .comma)
  else if required then expected "transaction mode"
  else return none

/-- The modes of a transaction. -/
def transactionModes : Rule Unit :=
  discard (iterate transactionMode? false)

/-- The rest of `BEGIN`. -/
def beginTransaction (d : Dialect) : Rule Unit := do
  if [.generic, .mssql, .sqlite].contains d then
    discard (oneOf? ["DEFERRED", "IMMEDIATE", "EXCLUSIVE", "TRY", "CATCH"])
  let _ ← oneOf? ["TRANSACTION", "WORK"]
  transactionModes

/-- The rest of `START`. -/
def startTransaction : Rule Unit := do
  let _ ← keyword "TRANSACTION"
  transactionModes

/-- What may follow `COMMIT` and `ROLLBACK`. -/
def transactionEnd : Rule Unit := do
  let _ ← oneOf? ["TRANSACTION", "WORK"]
  if ← keyword? "AND" then
    let _ ← keyword? "NO"
    discard (keyword "CHAIN")

/-- The rest of `ROLLBACK`. -/
def rollback : Rule Unit := do
  transactionEnd
  if ← keyword? "TO" then
    let _ ← keyword? "SAVEPOINT"
    discard identifier

/-- The rest of `RELEASE`. -/
def releaseSavepoint : Rule Unit := do
  let _ ← keyword? "SAVEPOINT"
  discard identifier

end SqlCompletion.Sql.Rule
