import SqlCompletion.Sql.Grammar.Basic

/-!
# Settings

Settings are names with values, such as `NETWORK_POLICY = 'office'`. They stand one after the other,
with or without commas between them, in parentheses or at the end of a statement.
-/

namespace SqlCompletion.Sql.Rule

/-- The value of a setting: a word, a number or a string. Anything else is passed over before it is
rejected. -/
def settingValue : Rule Unit := do
  match (← next).map Lexeme.token with
  | some (.word _) | some (.number _ _) | some (.string .single _) => return
  | _ => expected "expected option value"

/-- A setting, after its name. -/
def settingRest : Rule Unit := do
  let _ ← symbol .equal
  settingValue

/-- A setting or a comma, and whether another one may follow. A parenthesis ends settings that stand
in parentheses, and the words `ends` come after the last one. -/
def settingStep (inParens : Bool) (ends : List String) (more : Bool) : Rule (Option Bool) := do
  if !more then return none
  match ← token with
  | none => return none
  | some (.word w) =>
    if w.isOneOf ends then return none
    else
      let _ ← next
      settingRest
      return some true
  | some (.symbol .comma) =>
    let _ ← next
    return some true
  | some (.symbol .rightParen) =>
    let _ ← next
    if inParens then return some false else expected " another option or EOF"
  | some _ =>
    let _ ← next
    expected "another option, EOF, Comma or ')'"

/-- Settings in parentheses. The end of the text closes them too. -/
def settings : Rule Unit := do
  let _ ← symbol .leftParen
  discard (iterate (settingStep true []) true)

/-- Settings up to one of the given words or the end of the text. -/
def settingsBefore (ends : List String) : Rule Unit :=
  discard (iterate (settingStep false ends) true)

/-- Settings in parentheses after an equals sign. -/
def assignedSettings : Rule Unit := do
  let _ ← symbol .equal
  settings

end SqlCompletion.Sql.Rule
