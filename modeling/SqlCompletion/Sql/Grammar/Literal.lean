import SqlCompletion.Sql.Grammar.Basic
import SqlCompletion.Text.Decimal

/-!
# Literals

Numbers, strings, placeholders and constants. Most places take any literal; some take whole numbers
or strings only.
-/

namespace SqlCompletion.Sql.Rule

/-- What a literal is. -/
inductive LiteralKind where
  | number
  | text
  | placeholder
  /-- The words `NULL`, `TRUE` and `FALSE`. -/
  | constant
  deriving DecidableEq

/-- A literal with its extent. -/
structure Literal where
  kind : LiteralKind
  extent : Range

/-- Takes the next token as a literal. -/
def takeLiteral (kind : LiteralKind) (t : Lexeme) : Rule Literal := do
  let _ ← next
  return { kind, extent := t.range }

/-- The token is a string in plain quotes. -/
def isPlainString (t : Option Token) : Bool :=
  match t with
  | some (.string q _) => q = .single || q = .double
  | _ => false

/-- Takes a string. Where strings one after the other are one string, the first tells its place. -/
def takeString (d : Dialect) (t : Lexeme) : Rule Literal := do
  let l ← takeLiteral .text t
  if d.joinsStrings && isPlainString (some t.token) then
    iterate (fun _ => do
      if isPlainString (← token) then
        let _ ← next
        return some ()
      else return none) ()
  return l

/-- A placeholder that starts with a sign, which a word or a number follows at once. -/
def signedPlaceholder (sign : Lexeme) : Rule Literal := do
  let _ ← next
  let t ← nextRaw
  match t.map Lexeme.token with
  | some (.word _) | some (.number _ false) =>
    return { kind := .placeholder, extent := ⟨sign.range.start, (t.getD sign).range.stop⟩ }
  | _ => throw (.expected "placeholder" t)

/-- The word is a constant. -/
def isConstant (d : Dialect) (w : Word) : Bool :=
  w.isKeyword "NULL" || (d.booleanLiterals && w.isOneOf ["TRUE", "FALSE"])

/-- A literal. A word in double quotes is taken as a string. -/
def literal (d : Dialect) : Rule Literal := do
  match ← peek with
  | none => rejectNext "a value"
  | some t =>
    match t.token with
    | .word w =>
      if isConstant d w then takeLiteral .constant t
      else if w.quote = some '"' then takeLiteral .text t
      else if w.quote.isSome then rejectNext "A value?"
      else rejectNext "a concrete value"
    | .number _ _ => takeLiteral .number t
    | .string _ _ => takeString d t
    | .placeholder _ => takeLiteral .placeholder t
    | .symbol .colon | .symbol .atSign => signedPlaceholder t
    | _ => rejectNext "a value"

/-- A number or a placeholder. -/
def numberLiteral (d : Dialect) : Rule Unit := do
  let start ← get
  let l ← literal d
  if l.kind != .number && l.kind != .placeholder then
    stepBack start
    expected "literal number"

/-- Why characters are no whole number below a bound: the first one that is no digit, or with which
the number becomes too large. `value` is the number so far. -/
def wholeNumberProblem? (bound value : Nat) : List Char → Option String
  | [] => none
  | c :: rest =>
    if !c.isDigit then some "invalid digit found in string"
    else
      let value := Text.natOfDigits [c] + 10 * value
      if bound ≤ value then some "number too large to fit in target type"
      else wholeNumberProblem? bound value rest

/-- How large a whole number may be. -/
inductive NumberSize where
  /-- Half a word. -/
  | half
  /-- A word. -/
  | word
  /-- A word with a sign. -/
  | signed

namespace NumberSize

/-- The name of a size in messages. -/
def text : NumberSize → String
  | half => "u32" | word => "u64" | signed => "i64"

/-- The first whole number that is too large. -/
def bound : NumberSize → Nat
  | half => 0x100000000 | word => 0x10000000000000000 | signed => 0x8000000000000000

end NumberSize

/-- The value of a number that stands at a place. -/
def wholeValue (size : NumberSize) (text : String) (place : Option Location) : Rule Nat := do
  match wholeNumberProblem? size.bound 0 text.toList with
  | none => return Text.natOfDigits text.toList
  | some problem =>
    throw (.note ("Could not parse '" ++ text ++ "' as " ++ size.text ++ ": " ++ problem) place)

/-- The number that the next token has to be. -/
def numberToken (reject : Rule (String × Location)) : Rule (String × Location) := do
  match ← peek with
  | some { token := .number text _, range } =>
    let _ ← next
    return (text, range.start)
  | _ => reject

/-- A whole number without a sign. -/
def wholeNumber : Rule Nat := do
  let (text, place) ← numberToken (rejectNext "literal int")
  wholeValue .word text (some place)

/-- A whole number that may have a sign. -/
def signedWholeNumber : Rule Int := do
  let negative ← symbol? .minus
  if !negative then discard (symbol? .plus)
  let (text, place) ← numberToken (expected "number")
  let n ← wholeValue .signed text (some place)
  return if negative then -n else n

/-- A string, or a word that is no keyword; its text. -/
def textLiteral (d : Dialect) : Rule String := do
  match ← token with
  | some (.string q v) =>
    if q = .single || q = .double || q = .unicode ||
        (q = .escaped && (d == .generic || d == .postgres)) then
      let _ ← next
      return v
    else rejectNext "literal string"
  | some (.word w) =>
    if w.keyword.isNone then
      let _ ← next
      return w.value
    else rejectNext "literal string"
  | _ => rejectNext "literal string"

end SqlCompletion.Sql.Rule
