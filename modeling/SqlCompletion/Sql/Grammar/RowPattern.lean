import SqlCompletion.Sql.Grammar.Relation

/-!
# Patterns of rows

The clause `MATCH_RECOGNIZE (..)` after a table. Its pattern is a regular expression over symbols,
each of which stands for rows that its definition describes.
-/

namespace SqlCompletion.Sql.Rule

/-! ## Repetitions -/

/-- The text of a bound on repetitions. -/
def repetitionBound (what : String) : Rule String :=
  Prod.fst <$> numberToken (rejectNext what)

/-- The texts of the bounds on repetitions. -/
def repetitionBounds : Rule (List String) := do
  if ← symbol? .comma then return [← repetitionBound "literal number"]
  let least ← repetitionBound "quantifier range"
  if !(← symbol? .comma) || (← isSymbol .rightBrace) then return [least]
  return [least, ← repetitionBound "\x7d or upper bound"]

/-- How often something is repeated, after the opening brace, with the closing one. A bound that is
no whole number is rejected at the first token, behind the brace. -/
def repetitionRange : Rule Unit := do
  let place := (← peek).map (·.range.start)
  let bounds ← repetitionBounds
  let _ ← symbol .rightBrace
  bounds.forM fun text => discard (wholeValue .half text place)

/-- How often something is repeated, if it is said. -/
def repetition? : Rule (Option Unit) := do
  match ← token with
  | some (.symbol .star) | some (.symbol .plus) | some (.placeholder "?") =>
    let _ ← next
    return some ()
  | some (.symbol .leftBrace) =>
    let _ ← next
    repetitionRange
    return some ()
  | _ => return none

/-! ## Patterns -/

/-- A pattern without repetitions; `group` reads a pattern in parentheses. -/
def basePattern (d : Dialect) (group : Rule Unit) : Rule Unit := do
  match ← token with
  | some (.symbol .caret) | some (.placeholder "$") => discard next
  | some (.symbol .leftBrace) =>
    let _ ← next
    let _ ← symbol .minus
    let _ ← identifier
    let _ ← symbol .minus
    discard (symbol .rightBrace)
  | some (.symbol .leftParen) => parens group
  | some (.word w) =>
    let _ ← next
    if w.text = "PERMUTE" then discard (parens (list d identifier))
  | _ => discard identifier

/-- A pattern with its repetitions. -/
def repeatedPattern (d : Dialect) (group : Rule Unit) : Rule Unit := do
  basePattern d group
  iterate (fun _ => repetition?) ()

/-- Patterns one after the other, up to a bar or a closing parenthesis. -/
def patternSequence (d : Dialect) (group : Rule Unit) : Rule Unit := do
  repeatedPattern d group
  iterate (fun _ => do
    if (← isSymbol .rightParen) || (← isSymbol .pipe) then return none
    else
      repeatedPattern d group
      return some ()) ()

/-- A pattern: sequences with bars between them. Patterns in patterns are bounded by the tokens that
are left. -/
def patternWithin (d : Dialect) : (bound : List Lexeme) → Rule Unit
  | [] => expected "identifier"
  | _ :: bound => do
    let sequence := patternSequence d (patternWithin d bound)
    sequence
    iterate (fun _ => do
      if ← symbol? .pipe then
        sequence
        return some ()
      else return none) ()

/-! ## The clause -/

/-- Which rows are given for a match. -/
def rowsPerMatch? : Rule Unit := do
  if !(← keywords? ["ONE", "ROW", "PER", "MATCH"]) then
    if ← keywords? ["ALL", "ROWS", "PER", "MATCH"] then
      discard (phrase? [["SHOW", "EMPTY", "MATCHES"], ["OMIT", "EMPTY", "MATCHES"],
        ["WITH", "UNMATCHED", "ROWS"]])

/-- Where the search goes on after a match. -/
def afterMatch? : Rule Unit := do
  if ← keywords? ["AFTER", "MATCH", "SKIP"] then
    if ← keywords? ["PAST", "LAST", "ROW"] <||> keywords? ["TO", "NEXT", "ROW"] then return
    else if ← keywords? ["TO", "FIRST"] <||> keywords? ["TO", "LAST"] then discard identifier
    else rejectNext "after match skip option"

/-- The rest of `MATCH_RECOGNIZE`. -/
def rowPattern (g : Level) : Rule Relation := do
  let d := g.dialect
  parens do
    let _ ← afterAll? ["PARTITION", "BY"] g.exprs
    let _ ← afterAll? ["ORDER", "BY"] (orderItems g)
    if ← keyword? "MEASURES" then
      let _ ← list d do
        let _ ← g.anyExpr
        let _ ← keyword? "AS"
        identifier
    rowsPerMatch?
    afterMatch?
    let _ ← keyword "PATTERN"
    parens (do patternWithin d (← get))
    let _ ← keyword "DEFINE"
    let _ ← list d do
      let _ ← identifier
      let _ ← keyword "AS"
      g.anyExpr
  return { source := .placeless, aliasName := ← tableAlias? g }

end SqlCompletion.Sql.Rule
