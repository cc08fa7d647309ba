import SqlCompletion.Completion
import SqlCompletion.Json.Basic

/-!
# Requests and answers as JSON

Each type that is exchanged has a reader `ofJson?` and a writer `toJson`. A field with a default may
be missing from what is read and is always written; an absent optional field is not written at all,
and `null` reads as absent. Unknown fields are skipped.
-/

namespace SqlCompletion

open Json

/-! ## Names -/

/-- A name out of a fixed set, written as a string or as an object with that one key and the value
`null`. -/
def Json.nameOf? {α : Type} (ofName? : String → Option α) : Json → Option α
  | .string s => ofName? s
  | .object [(s, .null)] => ofName? s
  | _ => none

/-- Reads a dialect. -/
def Dialect.ofJson? (j : Json) : Option Dialect :=
  j.nameOf? Dialect.ofName?

/-- Writes a dialect. -/
def Dialect.toJson (d : Dialect) : Json := .string d.name

/-- Reads a kind of candidate. -/
def CandidateKind.ofJson? (j : Json) : Option CandidateKind :=
  j.nameOf? CandidateKind.ofName?

/-- Writes a kind of candidate. -/
def CandidateKind.toJson (k : CandidateKind) : Json := .string k.name

/-! ## Positions -/

/-- Reads a cursor. -/
def Position.ofJson? (j : Json) : Option Position := do
  let fields ← j.record? ["line", "column"]
  let line ← fields.required "line" Json.word?
  let column ← fields.required "column" Json.word?
  return ⟨UInt64.ofNat line, UInt64.ofNat column⟩

/-- Writes a cursor. -/
def Position.toJson (p : Position) : Json :=
  .object [("line", .nat p.line.toNat), ("column", .nat p.column.toNat)]

/-! ## Schemas -/

/-- Reads a column. -/
def Column.ofJson? (j : Json) : Option Column := do
  let fields ← j.record? ["columnName", "description"]
  let name ← fields.required "columnName" Json.string?
  let description ← fields.withDefault "description" "" Json.string?
  return { name, description }

/-- Writes a column. -/
def Column.toJson (c : Column) : Json :=
  .object [("columnName", .string c.name), ("description", .string c.description)]

/-- Reads a table. -/
def Table.ofJson? (j : Json) : Option Table := do
  let fields ← j.record? ["database", "tableName", "columns"]
  let database ← fields.withDefault "database" none (Json.nullable Json.string?)
  let name ← fields.required "tableName" Json.string?
  let columns ← fields.withDefault "columns" [] (Json.list? Column.ofJson?)
  return { database, name, columns }

/-- The member of an optional text, if it is present. -/
def optionalText (key : String) (text : Option String) : List (String × Json) :=
  text.toList.map fun t => (key, .string t)

/-- Writes a table. -/
def Table.toJson (t : Table) : Json :=
  .object (optionalText "database" t.database ++
    [("tableName", .string t.name), ("columns", .array (t.columns.map Column.toJson))])

/-- Reads a function. -/
def Function.ofJson? (j : Json) : Option Function := do
  let fields ← j.record? ["name", "description"]
  let name ← fields.required "name" Json.string?
  let description ← fields.withDefault "description" "" Json.string?
  return { name, description }

/-- Writes a function. -/
def Function.toJson (f : Function) : Json :=
  .object [("name", .string f.name), ("description", .string f.description)]

/-- Reads a schema. -/
def Schema.ofJson? (j : Json) : Option Schema := do
  let fields ← j.record? ["tables", "functions"]
  let tables ← fields.withDefault "tables" [] (Json.list? Table.ofJson?)
  let functions ← fields.withDefault "functions" [] (Json.list? Function.ofJson?)
  return { tables, functions }

/-- Writes a schema. -/
def Schema.toJson (s : Schema) : Json :=
  .object [("tables", .array (s.tables.map Table.toJson)),
    ("functions", .array (s.functions.map Function.toJson))]

/-! ## Requests -/

/-- Reads the choices of a request. -/
def Options.ofJson? (j : Json) : Option Options := do
  let fields ← j.record? ["dialect", "maxSubqueryDepth"]
  let dialect ← fields.withDefault "dialect" ({} : Options).dialect Dialect.ofJson?
  let maxSubqueryDepth ←
    fields.withDefault "maxSubqueryDepth" ({} : Options).maxSubqueryDepth Json.word?
  return { dialect, maxSubqueryDepth }

/-- Writes the choices of a request. -/
def Options.toJson (o : Options) : Json :=
  .object [("dialect", o.dialect.toJson), ("maxSubqueryDepth", .nat o.maxSubqueryDepth)]

/-- Reads a request. -/
def Request.ofJson? (j : Json) : Option Request := do
  let fields ← j.record? ["sql", "position", "schema", "options"]
  let sql ← fields.required "sql" Json.string?
  let position ← fields.required "position" Position.ofJson?
  let schema ← fields.withDefault "schema" {} Schema.ofJson?
  let options ← fields.withDefault "options" none (Json.nullable Options.ofJson?)
  return { sql, position, schema, options }

/-- Writes a request. -/
def Request.toJson (r : Request) : Json :=
  .object ([("sql", .string r.sql), ("position", r.position.toJson), ("schema", r.schema.toJson)] ++
    r.options.toList.map fun o => ("options", o.toJson))

/-! ## Answers -/

/-- Reads a candidate. -/
def Candidate.ofJson? (j : Json) : Option Candidate := do
  let fields ← j.record?
    ["label", "kind", "detail", "documentation", "insertText", "scopedColumnName"]
  let label ← fields.required "label" Json.string?
  let kind ← fields.required "kind" CandidateKind.ofJson?
  let detail ← fields.withDefault "detail" none (Json.nullable Json.string?)
  let documentation ← fields.withDefault "documentation" none (Json.nullable Json.string?)
  let insertText ← fields.withDefault "insertText" none (Json.nullable Json.string?)
  let scopedName ← fields.withDefault "scopedColumnName" none (Json.nullable Json.string?)
  return { label, kind, detail, documentation, insertText, scopedName }

/-- Writes a candidate. -/
def Candidate.toJson (c : Candidate) : Json :=
  .object ([("label", .string c.label), ("kind", c.kind.toJson)] ++
    optionalText "detail" c.detail ++ optionalText "documentation" c.documentation ++
    optionalText "insertText" c.insertText ++ optionalText "scopedColumnName" c.scopedName)

/-- Reads an error report. -/
def ErrorReport.ofJson? (j : Json) : Option ErrorReport := do
  let fields ← j.record? ["label", "detail", "line", "offset"]
  let label ← fields.required "label" Json.string?
  let detail ← fields.required "detail" Json.string?
  let line ← fields.required "line" Json.word?
  let offset ← fields.required "offset" Json.word?
  return { label, detail, line, offset }

/-- Writes an error report. -/
def ErrorReport.toJson (e : ErrorReport) : Json :=
  .object [("label", .string e.label), ("detail", .string e.detail), ("line", .nat e.line),
    ("offset", .nat e.offset)]

/-- Reads an answer. -/
def Completion.ofJson? (j : Json) : Option Completion := do
  let fields ← j.record? ["candidates", "error"]
  let candidates ← fields.required "candidates" (Json.list? Candidate.ofJson?)
  let error ← fields.withDefault "error" none (Json.nullable ErrorReport.ofJson?)
  return { candidates, error }

/-- Writes an answer. -/
def Completion.toJson (c : Completion) : Json :=
  .object ([("candidates", .array (c.candidates.map Candidate.toJson))] ++
    c.error.toList.map fun e => ("error", e.toJson))

end SqlCompletion
