import SqlCompletion.Sql.Dialect
import SqlCompletion.Sql.Expr

/-!
# Rules

A rule reads some of the tokens that are left and gives a value, or rejects them. Blanks are passed
over by every rule but `nextRaw`.

## Recursion

Statements, queries and expressions contain one another. How deep they may do so is limited, and the
limit is what the grammar recurses on: a rule calls a query or an expression only through a `Level`,
which holds the rules for one level less, and a statement inside another one only through a
parameter `inner`, which is the rule for statements of one level less. A rule that is tried where
another one could follow does not hide too deep a nesting.

Loops inside a rule end because every round takes a token. They recurse on the tokens that are left
when they start.
-/

namespace SqlCompletion.Sql

/-- Why tokens are rejected. -/
inductive Rejection where
  /-- Something else should stand here; without a token, the text has ended. -/
  | expected (what : String) (found : Option Lexeme)
  /-- Anything else, with a place if there is one. -/
  | note (text : String) (place : Option Location)
  /-- The nesting is too deep. -/
  | tooDeep
  deriving DecidableEq

/-- A place as error messages write it; there is none at the end of the text. -/
def optionalPlace : Option Location → String
  | some l => placeText l
  | none => ""

/-- The wording of a rejection; there is none for too deep a nesting. -/
def Rejection.message? : Rejection → Option String
  | .expected what (some t) =>
    some ("Expected: " ++ what ++ ", found: " ++ t.token.text ++ placeText t.range.start)
  | .expected what none => some ("Expected: " ++ what ++ ", found: EOF")
  | .note text place => some (text ++ optionalPlace place)
  | .tooDeep => none

/-- A rule: tokens in, a value or a rejection and the tokens that are left out. -/
abbrev Rule (α : Type) := ExceptT Rejection (StateM (List Lexeme)) α

namespace Rule

variable {α : Type}

/-! ## Tokens -/

/-- The `n`-th of the tokens that are no blanks. -/
def nth? : (n : Nat) → List Lexeme → Option Lexeme
  | _, [] => none
  | n, t :: rest =>
    if t.token.isBlank then nth? n rest
    else
      match n with
      | 0 => some t
      | n + 1 => nth? n rest

/-- The tokens after the first that is no blank. -/
def afterFirst : List Lexeme → List Lexeme
  | [] => []
  | t :: rest => if t.token.isBlank then afterFirst rest else rest

/-- The `n`-th token ahead, counted from zero. -/
def peekAt (n : Nat) : Rule (Option Lexeme) := do
  return nth? n (← get)

/-- The next token. -/
def peek : Rule (Option Lexeme) := peekAt 0

/-- The `n`-th token ahead without its place. -/
def tokenAt (n : Nat) : Rule (Option Token) := do
  return (← peekAt n).map Lexeme.token

/-- The next token without its place. -/
def token : Rule (Option Token) := tokenAt 0

/-- Takes the next token. -/
def next : Rule (Option Lexeme) := do
  let t ← peek
  modify afterFirst
  return t

/-- Takes the next token, even if it is a blank. -/
def nextRaw : Rule (Option Lexeme) := do
  match ← get with
  | [] => return none
  | t :: rest =>
    set rest
    return some t

/-- Gives back the last token that was taken since `start`, with the blanks after it. -/
def stepBack (start : List Lexeme) : Rule Unit := do
  let rest ← get
  let taken := (start.take (start.length - rest.length)).reverse
  let blanks := taken.takeWhile (·.token.isBlank)
  set ((taken.drop blanks.length).take 1 ++ blanks.reverse ++ rest)

/-! ## Rejecting -/

/-- Something else should be the next token. -/
def expected (what : String) : Rule α := do
  throw (.expected what (← peek))

/-- Takes the next token, which should be something else. -/
def rejectNext (what : String) : Rule α := do
  throw (.expected what (← next))

/-- Rejects with a message and the place of the next token. -/
def complain (text : String) : Rule α := do
  throw (.note text ((← peek).map (·.range.start)))

/-- The value of a rule, or why it rejects the tokens; they are all left then. -/
def outcome (r : Rule α) : Rule (Except Rejection α) := do
  let start ← get
  let result ← ExceptT.lift r.run
  if result matches .error _ then set start
  return result

/-- The value of a rule, or nothing if it rejects the tokens; they are all left then. -/
def attempt (r : Rule α) : Rule (Option α) := do
  match ← outcome r with
  | .ok a => return some a
  | .error .tooDeep => throw .tooDeep
  | .error _ => return none

/-- A rule whose rejection does not count; the tokens that it took stay taken. -/
def leniently (r : Rule α) : Rule Unit := do
  try discard r
  catch _ => return

/-- Tries to take something only where it is allowed. -/
def onlyIf (allowed : Bool) (r : Rule Bool) : Rule Bool :=
  if allowed then r else return false

/-! ## Loops -/

/-- Takes a step again and again until it has nothing to add. `bound` holds as many tokens as there
may be steps before the last one. -/
def iterateWithin (step : α → Rule (Option α)) : (bound : List Lexeme) → α → Rule α
  | [], a => do return (← step a).getD a
  | _ :: bound, a => do
    match ← step a with
    | some a => iterateWithin step bound a
    | none => return a

/-- Takes a step again and again until it has nothing to add. Every step takes a token, so the one
after the last token is the last step. -/
def iterate (step : α → Rule (Option α)) (a : α) : Rule α := do
  iterateWithin step (← get) a

/-! ## Symbols -/

/-- The next token is the given symbol. -/
def isSymbol (s : Symbol) : Rule Bool := do
  return (← token) == some (.symbol s)

/-- Takes the given symbol if it is next. -/
def symbol? (s : Symbol) : Rule Bool := do
  if ← isSymbol s then
    let _ ← next
    return true
  else return false

/-- Takes the given symbol. -/
def symbol (s : Symbol) : Rule Lexeme := do
  match ← peek with
  | some t =>
    if t.token = .symbol s then
      let _ ← next
      return t
    else expected s.text
  | none => expected s.text

/-! ## Keywords -/

/-- The keyword that the next token is. -/
def peekKeyword? : Rule (Option String) := do
  return (← token).bind Token.keyword?

/-- The next token is the given keyword. -/
def isKeyword (k : String) : Rule Bool := do
  return (← peekKeyword?) == some k

/-- The next token is one of the given keywords. -/
def isOneOf (ks : List String) : Rule Bool := do
  return ks.contains ((← peekKeyword?).getD "")

/-- Takes the given keyword if it is next. -/
def keyword? (k : String) : Rule Bool := do
  if ← isKeyword k then
    let _ ← next
    return true
  else return false

/-- Takes the given keyword. -/
def keyword (k : String) : Rule Lexeme := do
  match ← peek with
  | some t =>
    if t.token.keyword? = some k then
      let _ ← next
      return t
    else expected k
  | none => expected k

/-- The tokens start with the given keywords, one after the other. -/
def startWith : List String → List Lexeme → Bool
  | [], _ => true
  | k :: ks, s => ((nth? 0 s).bind (·.token.keyword?)) == some k && startWith ks (afterFirst s)

/-- Takes the given keywords if they are next, all or none. -/
def keywords? (ks : List String) : Rule Bool := do
  if startWith ks (← get) then
    ks.forM fun _ => discard next
    return true
  else return false

/-- Takes the given keywords, one after the other. -/
def keywords (ks : List String) : Rule Unit :=
  ks.forM fun k => discard (keyword k)

/-- Takes the first of the given phrases that is next. -/
def phrase? : List (List String) → Rule Bool
  | [] => return false
  | ks :: phrases => keywords? ks <||> phrase? phrases

/-- Takes `IF EXISTS` if it is next. -/
def ifExists : Rule Unit :=
  discard (keywords? ["IF", "EXISTS"])

/-- Takes `IF NOT EXISTS` if it is next. -/
def ifNotExists : Rule Unit :=
  discard (keywords? ["IF", "NOT", "EXISTS"])

/-- Takes one of the given keywords if it is next. -/
def oneOf? (ks : List String) : Rule (Option String) := do
  match ← peekKeyword? with
  | some k =>
    if ks.contains k then
      let _ ← next
      return some k
    else return none
  | none => return none

/-- Takes one of the given keywords. -/
def oneOf (ks : List String) : Rule String := do
  match ← oneOf? ks with
  | some k => return k
  | none => expected ("one of " ++ " or ".intercalate ks)

/-! ## Lists -/

/-- Which words end a list after a comma, given the token behind the word. -/
abbrev Stop := Word → Option Token → Bool

/-- The token ends a list after a comma: it closes something, or it is a word that does. -/
def endsList (stop : Stop) (t : Token) (ahead : Option Token) : Bool :=
  match t with
  | .symbol s =>
    [Symbol.rightParen, .semicolon, .rightBracket, .rightBrace].contains s
  | .word w => stop w ahead
  | _ => false

/-- A comma goes on with a list. Where commas may end a list, as `stop?` says, it does not if what
follows cannot start an item. -/
def listGoesOn (stop? : Option Stop) : Rule Bool := do
  if ← symbol? .comma then
    match stop?, ← token with
    | none, _ => return true
    | some stop, some t => return !endsList stop t (← tokenAt 1)
    | some _, none => return false
  else return false

/-- Items with commas between them, at least one. -/
def listWith (stop? : Option Stop) (item : Rule α) : Rule (List α) := do
  let first ← item
  let items ← iterate (fun read => do
    if ← listGoesOn stop? then return some ((← item) :: read) else return none) [first]
  return items.reverse

/-- The words that end most lists after a comma, if a comma may do so. -/
def usualStop? (d : Dialect) : Option Stop :=
  if d.trailingCommas then some fun w _ => w.isOneOf Keyword.reservedColumnAliases else none

/-- Items with commas between them, at least one. -/
def list (d : Dialect) (item : Rule α) : Rule (List α) :=
  listWith (usualStop? d) item

/-- Items with commas between them; there may be none before the given symbol. -/
def listUnless (d : Dialect) (close : Symbol) (item : Rule α) : Rule (List α) := do
  if ← isSymbol close then return []
  else list d item

/-- Items with commas between them; there may be none before the given symbol, and where commas may
end a list, even a comma alone. -/
def listBefore (d : Dialect) (close : Symbol) (item : Rule α) : Rule (List α) := do
  if d.trailingCommas && (← isSymbol .comma) && (← tokenAt 1) == some (.symbol close) then
    let _ ← next
    return []
  else listUnless d close item

/-- A rule in parentheses. -/
def parens (r : Rule α) : Rule α := do
  let _ ← symbol .leftParen
  let a ← r
  let _ ← symbol .rightParen
  return a

/-- A rule that applies after a keyword. -/
def after? (k : String) (r : Rule α) : Rule (Option α) := do
  if ← keyword? k then return some (← r) else return none

/-- A rule that applies after several keywords. -/
def afterAll? (ks : List String) (r : Rule α) : Rule (Option α) := do
  if ← keywords? ks then return some (← r) else return none

/-! ## Names -/

/-- The name that a word is. -/
def identOf (w : Word) (extent : Range) : Ident :=
  { value := w.value, quote := w.quote, extent }

/-- The name that a token is; a string as a name has no extent. -/
def identOf? (t : Lexeme) : Option Ident :=
  match t.token with
  | .word w => some (identOf w t.range)
  | .string q v =>
    if q = .single then some { value := v, quote := some '\'', extent := .none }
    else if q = .double then some { value := v, quote := some '"', extent := .none }
    else none
  | _ => none

/-- A name: any word, or a string. -/
def identifier : Rule Ident := do
  match (← peek).bind identOf? with
  | some i =>
    let _ ← next
    return i
  | none => rejectNext "identifier"

/-- Takes the next token as a name, whatever it is; whether it is one. -/
def anyName : Rule Bool := do
  return ((← next).bind identOf?).isSome

/-- Names in parentheses. -/
def identifiersInParens (d : Dialect) : Rule (List Ident) :=
  parens (list d identifier)

/-- A list of columns in parentheses. -/
def columnList (d : Dialect) (item : Rule α) : Rule (List α) := do
  if ← isSymbol .leftParen then parens (list d item)
  else expected "a list of columns in parentheses"

/-- A list of columns in parentheses, if there is one. -/
def columnList? (d : Dialect) (mayBeEmpty : Bool) (item : Rule α) : Rule (List α) := do
  if ← symbol? .leftParen then
    if ← onlyIf mayBeEmpty (symbol? .rightParen) then return []
    else
      let items ← list d item
      let _ ← symbol .rightParen
      return items
  else return []

end Rule

/-! ## Levels -/

/-- A query as the rest of the grammar sees it. -/
structure Query where
  /-- How far the query extends. -/
  extent : Range
  /-- How far it extends without what stands before and after its selects. -/
  bodyExtent : Range
  /-- The query as completion sees it. -/
  statement : Statement

/-- Where an expression stands, as far as that changes how it is read. -/
inductive Context where
  | usual
  /-- Among the links of a hierarchy, where `PRIOR` is an operator. -/
  | links
  /-- In the definition of a column, where `COLLATE` and `NOT NULL` are constraints. -/
  | column
  deriving DecidableEq

/-- The rules that may be used inside a rule. -/
structure Level where
  dialect : Dialect
  context : Context := .usual
  queryIn : Context → Rule Query
  /-- An expression whose operators bind tighter than the given power. -/
  exprIn : Context → Nat → Rule Expr
  /-- The definition of a column; its name and its type as messages show them. -/
  column : Rule String

namespace Level

/-- The same rules in a context. -/
def within (g : Level) (c : Context) : Level := { g with context := c }

/-- A query. -/
def query (g : Level) : Rule Query := g.queryIn g.context

/-- An expression whose operators bind tighter than the given power. -/
def expr (g : Level) (power : Nat) : Rule Expr := g.exprIn g.context power

/-- Any expression. -/
def anyExpr (g : Level) : Rule Expr := g.expr 0

/-- Expressions with commas between them. -/
def exprs (g : Level) : Rule (List Expr) := Rule.list g.dialect g.anyExpr

end Level

end SqlCompletion.Sql
