import SqlCompletion.Sql.Grammar.Column
import SqlCompletion.Sql.Grammar.SelectItem
import SqlCompletion.Sql.Grammar.Setting

/-!
# Stages

A stage is a place where files wait before they are loaded into a table, or after they have been
written. Its name may start with a sign, such as `@~/daily`, and then goes on to the next blank.
Nothing of the statements about stages is kept.
-/

namespace SqlCompletion.Sql.Rule

/-! ## Names -/

/-- The signs that a name of a stage may hold. -/
def stageSigns : List Symbol := [.atSign, .tilde, .percent, .slash, .plus]

/-- One more token of a part of a name, and whether another one may follow. A blank or a semicolon
behind the part is taken with it. -/
def stageToken (more : Bool) : Rule (Option Bool) := do
  if !more then return none
  match (← get).head?.map Lexeme.token with
  | none | some (.symbol .period) | some (.symbol .rightParen) => return none
  | some t =>
    let _ ← nextRaw
    let inName :=
      match t with
      | .word _ | .number _ _ => true
      | .symbol s => stageSigns.contains s
      | _ => false
    if inName then return some true
    else if t.isBlank || t = .symbol .semicolon then return some false
    else expected "stage name identifier"

/-- A part of a name that starts with a sign. -/
def stagePart : Rule Unit :=
  discard (iterate stageToken true)

/-- The name of a stage. -/
def stageName (g : Level) : Rule Unit := do
  if ← isSymbol .atSign then
    modify (·.dropWhile (·.token.isBlank))
    stagePart
    iterate (fun _ => do
      if ← symbol? .period then
        stagePart
        return some ()
      else return none) ()
  else discard (objectName g)

/-! ## Parameters -/

/-- Takes the next token; whether it is a string in single quotes. -/
def takeQuoted : Rule Bool := do
  match (← next).map Lexeme.token with
  | some (.string .single _) => return true
  | _ => return false

/-- A string in single quotes. -/
def singleQuoted (what : String) : Rule Unit := do
  match ← token with
  | some (.string .single _) => discard next
  | _ => rejectNext what

/-- Takes the next token, which has to be a word. -/
def takeWord (what : String) : Rule Unit := do
  if ((← next).bind (·.token.word?)).isNone then expected what

/-- Where the files of a stage are, and who may read them. -/
def stageParameters : Rule Unit := do
  if ← keyword? "URL" then
    let _ ← symbol .equal
    if !(← takeQuoted) then expected "a URL statement"
  if ← keyword? "STORAGE_INTEGRATION" then
    let _ ← symbol .equal
    discard next
  if ← keyword? "ENDPOINT" then
    let _ ← symbol .equal
    if !(← takeQuoted) then expected "an endpoint statement"
  ["CREDENTIALS", "ENCRYPTION"].forM fun k => do if ← keyword? k then assignedSettings

/-- The definition of a stage, after `STAGE`. -/
def createStage (g : Level) : Rule Unit := do
  ifNotExists
  let _ ← objectName g
  stageParameters
  ["DIRECTORY", "FILE_FORMAT", "COPY_OPTIONS"].forM fun k => do
    if ← keyword? k then assignedSettings
  if ← keyword? "COMMENT" then
    let _ ← symbol .equal
    commentText

/-- The rest of a statement that lists or removes the files of a stage. -/
def stageFiles (g : Level) : Rule Unit := do
  stageName g
  if ← keyword? "PATTERN" then
    let _ ← symbol .equal
    discard (textLiteral g.dialect)

/-! ## Loading and writing files -/

/-- A column of a file by its number, such as `$2`. -/
def fileColumn : Rule Unit := do
  match ← token with
  | some (.placeholder text) =>
    let digits := text.toList.drop 1
    if digits.isEmpty || (wholeNumberProblem? 0x80000000 0 digits).isSome then
      rejectNext "file_col_num"
    else discard next
  | _ => rejectNext "file_col_num"

/-- A column of a file, with a part of its value and an alias if they are given. -/
def fileItem : Rule Unit := do
  if ((← token).bind Token.word?).isSome then
    let _ ← next
    discard (symbol .period)
  fileColumn
  if ← symbol? .colon then takeWord "file_col_num"
  if ← keyword? "AS" then takeWord "column item alias"

/-- What is loaded from a stage: columns of its files, or any items. -/
def loadedItem (g : Level) : Rule Unit := do
  if (← attempt fileItem).isNone then discard (selectItem g)

/-- Where rows come from: a query if they are written to a stage, else a stage, of which a query may
choose columns. -/
def copySource (g : Level) (toStage : Bool) : Rule Unit := do
  if ← isSymbol .leftParen then
    parens do
      if toStage then discard g.query
      else
        let _ ← keyword "SELECT"
        let _ ← listWith none (loadedItem g)
        let _ ← keyword "FROM"
        stageName g
        stageParameters
        discard (tableAlias? g)
  else
    stageName g
    stageParameters
    if ← keyword? "AS" then takeWord "stage alias"

/-- One of the things that follow the source of rows, and whether another one may follow. -/
def copyPart (g : Level) (more : Bool) : Rule (Option Bool) := do
  if !more then return none
  if ← keyword? "FILE_FORMAT" <||> keyword? "COPY_OPTIONS" then
    assignedSettings
    return some true
  else if ← keywords? ["PARTITION", "BY"] then
    let _ ← g.anyExpr
    return some true
  else if ← keyword? "FILES" then
    let _ ← symbol .equal
    let _ ← parens (listWith none (singleQuoted "file token"))
    return some true
  else if ← keyword? "PATTERN" then
    let _ ← symbol .equal
    singleQuoted "pattern"
    return some true
  else if ← keyword? "VALIDATION_MODE" then
    let _ ← symbol .equal
    let _ ← next
    return some true
  else
    match (← next).map Lexeme.token with
    | none | some (.symbol .semicolon) => return some false
    | some (.symbol .comma) => return some true
    | some (.word _) =>
      settingRest
      return some true
    | some _ => expected "another copy option, ; or EOF'"

/-- The rest of `COPY INTO`. A semicolon at its end belongs to it. -/
def copyInto (g : Level) : Rule Unit := do
  let toStage :=
    match ← token with
    | some (.symbol .atSign) => true
    | some (.string .single v) => Text.contains "://".toList v.toList
    | _ => false
  stageName g
  if toStage then stageParameters
  let _ ← columnList? g.dialect true identifier
  let _ ← keyword "FROM"
  copySource g toStage
  discard (iterate (copyPart g) true)

end SqlCompletion.Sql.Rule
