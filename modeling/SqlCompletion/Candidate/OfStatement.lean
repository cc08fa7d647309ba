import SqlCompletion.Parser
import SqlCompletion.Scope

/-!
# Candidates for a whole statement

What to offer when the text before the cursor is a statement already. The statement is searched for
the part under the cursor: a name in the select list, a column reference, a table of the FROM
clause, the target or the filter of a DELETE or UPDATE.
-/

namespace SqlCompletion

/-- The keywords that are offered anywhere in a SELECT. -/
def selectKeywords : List String :=
  ["SELECT", "WHERE", "ORDER BY", "GROUP BY", "LIMIT", "--", "/*", "("]

/-- The keywords that may follow the last item of a select list. -/
def trailingKeywords : List String := ["FROM", "AS"]

/-- Every column of every table, without a scope. -/
def allColumns (tables : List Table) : List Candidate :=
  tables.flatMap fun t => t.columns.map Candidate.ofColumn

/-- Candidates inside a DELETE or UPDATE: tables on its target, columns in its filter. -/
def mutationCandidates (target : Range) (filter : Option Expression) (pos : Position)
    (schema : Schema) : List Candidate :=
  if target.contains pos then schema.tables.map Candidate.ofTable
  else
    match filter with
    | some e => if e.location.contains pos then allColumns schema.tables else []
    | none => []

/-- The item of a select list that ends last; of several, the last in the list. -/
def lastItem? (columns : List SelectItem) : Option SelectItem :=
  columns.foldl (fun best i =>
    match best with
    | none => some i
    | some b => if b.location.stop.offset ≤ i.location.stop.offset then some i else some b) none

/-- The keywords that the name of the last item may be the beginning of, when it is under the
cursor. -/
def trailingCandidates (columns : List SelectItem) (pos : Position) : List Candidate :=
  match (lastItem? columns).bind SelectItem.outputName with
  | some name =>
    if name.location.contains pos then
      (trailingKeywords.filter (Text.startsWith · name.value)).map Candidate.ofKeyword
    else []
  | none => []

/-- The first column reference under the cursor, in the select list and then in the filter. -/
def columnRefAt? (columns : List SelectItem) (filter : Option Expression) (pos : Position) :
    Option ColumnRef :=
  ((columns.filterMap (·.expr) ++ filter.toList).flatMap Expression.columnRefs).find?
    (·.location.contains pos)

/-- Candidates that continue a column reference: columns in its scope, or for a bare name the
aliases, tables and functions that start with it. -/
def referenceCandidates (ref : ColumnRef) (entries : List FromEntry) (schema : Schema) :
    List Candidate :=
  match ref.table with
  | some _ => scopedColumns entries (scopeTables schema.tables entries) ref.qualifiedName
  | none =>
    aliasesByPrefix entries ref.column ++ tablesByPrefix schema.tables ref.column ++
      functionsByPrefix schema.functions ref.column

/-- The first table of a FROM clause under the cursor. -/
def tableAt? (entries : List FromEntry) (pos : Position) : Option TableRef :=
  (tableRefs entries).find? (·.location.contains pos)

/-- Candidates on a table of the FROM clause: tables and joins, and `ON` after a join without
one. -/
def tableCandidates (ref : TableRef) (schema : Schema) : List Candidate :=
  schema.tables.map Candidate.ofTable ++
    [Candidate.ofKeyword "INNER JOIN", Candidate.ofKeyword "LEFT JOIN"] ++
    (if ref.join.isSome && !ref.hasOn then [Candidate.ofKeyword "ON"] else [])

/-- Candidates inside a SELECT. `entries` is the FROM clause of the whole document, `own` that of
the statement. -/
def selectCandidates (distinct : Bool) (columns : List SelectItem) (own : List FromEntry)
    (filter : Option Expression) (pos : Position) (entries : List FromEntry) (schema : Schema) :
    List Candidate :=
  selectKeywords.map Candidate.ofKeyword ++
    (if distinct then [] else [Candidate.ofKeyword "DISTINCT"]) ++
    trailingCandidates columns pos ++
    match columnRefAt? columns filter pos with
    | some ref => referenceCandidates ref entries schema
    | none =>
      match tableAt? own pos with
      | some ref => tableCandidates ref schema
      | none => []

/-- The candidates for a statement, `entries` being the FROM clause of the whole document. -/
def Statement.candidates (s : Statement) (pos : Position) (entries : List FromEntry)
    (schema : Schema) : List Candidate :=
  match s with
  | .select distinct columns own filter =>
    selectCandidates distinct columns own filter pos entries schema
  | .delete target filter | .update target filter => mutationCandidates target filter pos schema
  | .other => []

end SqlCompletion
