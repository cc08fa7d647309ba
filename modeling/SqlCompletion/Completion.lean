import SqlCompletion.Candidate.OfError
import SqlCompletion.Dialect

/-!
# Completion

`complete` offers candidates for a cursor in a document. The text before the cursor is parsed. If it
is a statement, the part under the cursor decides; if it is not, the parser's error does. A cursor
inside a subquery of the FROM clause that does not parse is completed in the subquery's text alone.
In the end only the candidates that continue the typed word are kept.

## Depth

Every step into a subquery counts against a limit, which is also the recursion's measure. A run that
would need one step more than the limit fails.
-/

namespace SqlCompletion

/-- Choices of a request. -/
structure Options where
  dialect : Dialect := .generic
  maxSubqueryDepth : Nat := 32
  deriving DecidableEq

/-- The error of a document that does not parse, as it is reported beside the candidates. -/
structure ErrorReport where
  label : String
  detail : String
  line : Nat
  offset : Nat
  deriving DecidableEq

/-- The answer to a request. -/
structure Completion where
  candidates : List Candidate
  error : Option ErrorReport := none
  deriving DecidableEq

/-- The largest document that is accepted, in bytes. -/
def maxDocumentBytes : Nat := 10 * 1024 * 1024

/-- Why a request has no answer. -/
inductive CompletionError where
  | parser (message : String)
  | subqueryDepthExceeded (limit : Nat)
  | inputTooLarge (bytes max : Nat)
  deriving DecidableEq

/-- The wording of each failure. -/
def CompletionError.message : CompletionError → String
  | .parser m => "parser failure: " ++ m
  | .subqueryDepthExceeded limit =>
    "unsupported nesting depth: more than " ++ toString limit ++ " incomplete subqueries"
  | .inputTooLarge bytes max =>
    "SQL input of " ++ toString bytes ++ " bytes exceeds the maximum of " ++ toString max ++
      " bytes"

/-- The report of a syntax error. -/
def SyntaxError.report (e : SyntaxError) : ErrorReport where
  label := "SyntaxError"
  detail := e.message
  line := e.location.line
  offset := e.location.offset

/-! ## Subqueries -/

/-- The first unfinished subquery that contains the cursor: its text and where it starts. -/
def incompleteAt? (entries : List FromEntry) (pos : Position) : Option (String × Location) :=
  entries.findSome? fun
    | .incomplete text l => if l.contains pos then some (text, l.start) else none
    | _ => none

/-- The cursor inside a subquery's text that starts at `start`. Columns shift only on the line on
which the text starts. -/
def Position.within (pos : Position) (start : Location) : Position :=
  let line := pos.line.toNat - (start.line - 1)
  let column := if line = 0 then (pos.column + 1).toNat - start.column else pos.column.toNat
  ⟨UInt64.ofNat line, UInt64.ofNat column⟩

/-! ## Resolution -/

/-- The candidates for a cursor before the typed word is taken into account, and the syntax error of
the document. At most `depth` further subqueries are entered; `limit` is the number reported when
that is not enough. -/
def resolve (parser : Parser) (schema : Schema) (limit depth : Nat) (sql : String)
    (pos : Position) : Except CompletionError (List Candidate × Option SyntaxError) :=
  let target := truncate sql pos
  match parser.parse target with
  | .ok statement => .ok (statement.candidates pos (parser.entries sql) schema, none)
  | .error (.other message) => .error (.parser message)
  | .error (.invalid e) =>
    let entries := parser.entries sql
    match incompleteAt? entries pos with
    | none => .ok (e.candidates parser target pos entries schema, some e)
    | some (text, start) =>
      match depth with
      | 0 => .error (.subqueryDepthExceeded limit)
      | depth + 1 =>
        match resolve parser schema limit depth text (pos.within start) with
        | .ok (candidates, _) => .ok (candidates, some e)
        | .error failure => .error failure

/-- The candidates for a cursor in a document. -/
def complete (parser : Parser) (options : Options) (sql : String) (pos : Position)
    (schema : Schema) : Except CompletionError Completion :=
  if sql.utf8ByteSize > maxDocumentBytes then
    .error (.inputTooLarge sql.utf8ByteSize maxDocumentBytes)
  else
    match resolve parser schema options.maxSubqueryDepth options.maxSubqueryDepth sql pos with
    | .error failure => .error failure
    | .ok (candidates, e) =>
      .ok {
        candidates := filterByToken candidates (lastToken (truncate sql pos))
        error := e.map SyntaxError.report }

/-! ## Requests -/

/-- Everything that one completion needs. -/
structure Request where
  sql : String
  position : Position
  schema : Schema := {}
  options : Option Options := none
  deriving DecidableEq

/-- The answer to a request, with the parser of the dialect that it asks for. -/
def Request.answer (parserOf : Dialect → Parser) (r : Request) :
    Except CompletionError Completion :=
  let options := r.options.getD {}
  complete (parserOf options.dialect) options r.sql r.position r.schema

end SqlCompletion
