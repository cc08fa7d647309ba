import SqlCompletion.Parser
import SqlCompletion.Sql.Diagnosis
import SqlCompletion.Sql.FromClause
import SqlCompletion.Sql.Grammar.Statement

/-!
# The parser for SQL

Answers the two questions of completion for a dialect of SQL.

The generic dialect does not know all operators. A text that it rejects is tried as PostgreSQL if it
looks like that; if that fails as well, the first error counts.
-/

namespace SqlCompletion.Sql

/-- Why a text could not be read. -/
inductive Failure where
  | lexical (error : LexError)
  | grammatical (reason : Rejection)

/-- The statements of a text. -/
def statements (d : Dialect) (text : String) : Except Failure (List Statement) :=
  match lex d text with
  | .error e => .error (.lexical e)
  | .ok tokens =>
    match (Rule.statements d).run tokens with
    | (.ok statements, _) => .ok statements
    | (.error reason, _) => .error (.grammatical reason)

/-- The text has operators that the generic dialect may not know. -/
def looksLikePostgres (text : String) : Bool :=
  holds text.toList
where
  /-- One of the operators stands in the text. -/
  holds : List Char → Bool
    | [] => false
    | c :: rest =>
      [[':', ':'], ['-', '>'], ['?', '|'], ['?', '&']].any (·.isPrefixOf (c :: rest)) || holds rest

/-- The statements of a text; where the generic dialect fails, PostgreSQL may succeed. -/
def statementsOrPostgres (d : Dialect) (text : String) : Except Failure (List Statement) :=
  match statements d text with
  | .ok result => .ok result
  | .error failure =>
    if d == .generic && looksLikePostgres text then
      match statements .postgres text with
      | .ok result => .ok result
      | .error _ => .error failure
    else .error failure

/-- The tokens of a text without blanks; none if it cannot be divided into tokens. -/
def tokensOf (d : Dialect) (text : String) : List Token :=
  match lex d text with
  | .ok tokens => (significant tokens).map (·.token)
  | .error _ => []

/-- A failure as completion sees it. -/
def Failure.report (d : Dialect) (text : String) : Failure → ParseFailure
  | .lexical e => .invalid (lexFailure text e)
  | .grammatical reason =>
    match reason.message? with
    | some message => .invalid (grammarFailure text (tokensOf d text) message)
    | none => .other "sql parser error: recursion limit exceeded"

/-- The statement that a text is: of several statements the last one. -/
def parse (d : Dialect) (text : String) : Except ParseFailure Statement :=
  match statementsOrPostgres d text with
  | .error failure => .error (failure.report d text)
  | .ok statements =>
    match statements.getLast? with
    | some statement => .ok statement
    | none => .error (.invalid (missingStatement text))

/-- The entries of the FROM clause of a text. -/
def fromClause (d : Dialect) (text : String) : Except ParseFailure (List FromEntry) :=
  match lex d text with
  | .error e => .error (.invalid (lexFailure text e))
  | .ok tokens => .ok (FromClause.scan (parse d) text (significant tokens))

/-- The parser for a dialect. -/
def parser (d : Dialect) : Parser where
  parse := parse d
  fromClause := fromClause d

@[simp] theorem parser_parse (d : Dialect) : (parser d).parse = parse d := rfl

@[simp] theorem parser_fromClause (d : Dialect) : (parser d).fromClause = fromClause d := rfl

end SqlCompletion.Sql
