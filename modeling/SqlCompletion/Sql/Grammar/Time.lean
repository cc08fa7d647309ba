import SqlCompletion.Sql.Grammar.DataType

/-!
# Units of time and intervals
-/

namespace SqlCompletion.Sql.Rule

/-- Units that may follow the value of an interval. -/
def intervalUnits : List String :=
  ["YEAR", "YEARS", "MONTH", "MONTHS", "WEEK", "WEEKS", "DAY", "DAYS", "HOUR", "HOURS", "MINUTE",
    "MINUTES", "SECOND", "SECONDS", "CENTURY", "DECADE", "DOW", "DOY", "EPOCH", "ISODOW", "ISOYEAR",
    "JULIAN", "MICROSECOND", "MICROSECONDS", "MILLENIUM", "MILLENNIUM", "MILLISECOND",
    "MILLISECONDS", "NANOSECOND", "NANOSECONDS", "QUARTER", "TIMEZONE", "TIMEZONE_HOUR",
    "TIMEZONE_MINUTE"]

/-- Further parts of a date or a time that can be extracted. -/
def extractedUnits : List String :=
  ["DAYOFWEEK", "DAYOFYEAR", "DATE", "DATETIME", "ISOWEEK", "TIME", "TIMEZONE_ABBR",
    "TIMEZONE_REGION"]

/-- A unit of time; the keyword that it is. -/
def timeUnit (d : Dialect) : Rule String := do
  match ← token with
  | some (.word w) =>
    let k := w.keyword.getD ""
    if intervalUnits.contains k || extractedUnits.contains k then
      let _ ← next
      if k = "WEEK" && (d == .generic || d == .bigquery) && (← isSymbol .leftParen) then
        let _ ← parens identifier
      return k
    else if d.customUnits then
      let _ ← next
      return ""
    else rejectNext "date/time field"
  | some (.string q _) =>
    if d.quotedUnits && q = .single then
      let _ ← next
      return ""
    else rejectNext "date/time field"
  | _ => rejectNext "date/time field"

/-- The unit of an interval, if there is one; some dialects need it. -/
def intervalUnit (d : Dialect) : Rule String := do
  let k := (← peekKeyword?).getD ""
  if intervalUnits.contains k then timeUnit d
  else if d.intervalUnits then complain "INTERVAL requires a unit after the literal value"
  else return ""

/-- One or two numbers in parentheses after a unit of seconds, if there are any. -/
def secondPrecision? : Rule Unit := do
  if ← isSymbol .leftParen then
    parens do
      let _ ← wholeNumber
      if ← symbol? .comma then discard wholeNumber

/-- What may follow the value of an interval: a unit, or two with `TO` between them. -/
def intervalQualifier (d : Dialect) : Rule Unit := do
  let unit ← intervalUnit d
  if unit = "SECOND" then secondPrecision?
  else
    let _ ← precision?
    if ← keyword? "TO" then
      if (← timeUnit d) = "SECOND" then discard precision?

/-- An interval, after its keyword, with a rule for its value. -/
def interval (d : Dialect) (value : Rule Expr) : Rule Expr := do
  let e ← value
  intervalQualifier d
  return .of .interval [e]

end SqlCompletion.Sql.Rule
