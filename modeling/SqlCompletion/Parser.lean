import SqlCompletion.Statement

/-!
# What completion asks of a parser

Completion is written against two questions: what statement a text is, and what its FROM clause
holds. Any pair of functions that answers them will do; `SqlCompletion.Sql` has one for SQL.

An answer may be a failure. A `SyntaxError` is the normal case while a statement is being typed, and
completion draws on what the parser would have accepted. Any other failure is passed on.
-/

namespace SqlCompletion

/-- What a parser would have accepted: a concrete token, or a description such as
"an expression". -/
inductive Expected where
  | literal (text : String)
  | other (text : String)
  deriving DecidableEq

/-- The text of a concrete token. -/
def Expected.literal? : Expected → Option String
  | .literal t => some t
  | .other _ => none

/-- The text is not a statement, or not yet. -/
structure SyntaxError where
  message : String
  expected : List Expected
  location : Location
  deriving DecidableEq

/-- The concrete tokens that would have been accepted, in the order of the report. -/
def SyntaxError.literals (e : SyntaxError) : List String :=
  e.expected.filterMap Expected.literal?

/-- Why a parser gave no answer. -/
inductive ParseFailure where
  | invalid (error : SyntaxError)
  | other (message : String)
  deriving DecidableEq

/-- The two questions. -/
structure Parser where
  /-- The statement that the text is; of several statements, the last one. -/
  parse : String → Except ParseFailure Statement
  /-- The entries of the FROM clause, as far as they can be made out. -/
  fromClause : String → Except ParseFailure (List FromEntry)

/-- The entries of the FROM clause, none being known when there is no answer. -/
def Parser.entries (p : Parser) (text : String) : List FromEntry :=
  match p.fromClause text with
  | .ok entries => entries
  | .error _ => []

end SqlCompletion
