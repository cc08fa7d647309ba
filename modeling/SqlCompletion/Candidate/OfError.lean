import SqlCompletion.Candidate.OfStatement
import SqlCompletion.Cursor
import SqlCompletion.Text.Case

/-!
# Candidates for an unfinished statement

What to offer when the text before the cursor does not parse. The tokens that the parser would have
accepted become keywords, and the word being typed is looked up the way a column reference is.
-/

namespace SqlCompletion

/-- The message of an error at a place where a column of an INSERT list or of an UPDATE assignment
is named. -/
def columnNameExpected : String := "EXPECTED COLUMN NAME"

/-- Tokens that are never worth offering. -/
def ignoredLiterals : List String := ["+", "-", "*", "$", ":", "COUNT", "AVG", "SUM"]

/-- The quotes. When one is expected, the cursor is inside a quoted text. -/
def quoteLiterals : List String := ["'", "\"", "`"]

/-- The keyword that a token stands for; `ORDER` and `GROUP` come with `BY`. -/
def keywordOfLiteral (literal : String) : String :=
  if literal = "ORDER" then "ORDER BY"
  else if literal = "GROUP" then "GROUP BY"
  else literal

/-- The list without repetitions; the first of equal elements stays. -/
def firstOccurrences (words : List String) : List String :=
  (words.foldl (fun seen w => if seen.contains w then seen else w :: seen) []).reverse

/-- A keyword and its lower-case form, if that is different. -/
def bothCases (word : String) : List String :=
  let lower := Text.toLower word
  if lower = word then [word] else [word, lower]

/-- The keywords for the expected tokens, each in both cases, in order of first occurrence. -/
def keywordCandidates (literals : List String) : List Candidate :=
  let words := (literals.filter fun l => !ignoredLiterals.contains l).map keywordOfLiteral
  ((firstOccurrences words).flatMap bothCases).map Candidate.ofKeyword

/-- The text without the dot it ends with. -/
def withoutFinalDot? (text : String) : Option String :=
  match text.toList.reverse with
  | '.' :: rest => some (String.ofList rest.reverse)
  | _ => none

/-- The cursor follows a dot after a table of the FROM clause: a qualified table is being named, not
a column. -/
def afterDotInFrom (parser : Parser) (target : String) (pos : Position) : Bool :=
  match withoutFinalDot? target with
  | none => false
  | some shorter =>
    if pos.column = 0 then false
    else
      match parser.parse shorter with
      | .ok (.select _ _ entries _) =>
        (tableRefs entries).any (·.location.contains { pos with column := pos.column - 1 })
      | _ => false

/-- The candidates for a text that does not parse. `target` is the text before the cursor and
`entries` the FROM clause of the whole document. -/
def SyntaxError.candidates (e : SyntaxError) (parser : Parser) (target : String) (pos : Position)
    (entries : List FromEntry) (schema : Schema) : List Candidate :=
  if e.message = columnNameExpected then allColumns schema.tables
  else if e.literals.any quoteLiterals.contains then []
  else if afterDotInFrom parser target pos then []
  else
    let typed := lastToken target
    keywordCandidates e.literals ++
      (if e.literals.contains "." then schema.tables.map Candidate.ofTable else []) ++
      scopedColumns entries (scopeTables schema.tables entries) typed ++
      functionsByPrefix schema.functions typed ++ aliasesByPrefix entries typed

end SqlCompletion
