import SqlCompletion.Text.Basic
import SqlCompletion.Schema

/-!
# Candidates

What completion offers. A column that is reached through a table or an alias also carries its scoped
name `scope.column`; that is the text the typed word is compared with, and the text to insert is
what is left of it.
-/

namespace SqlCompletion

/-- What a candidate stands for. -/
inductive CandidateKind where
  | keyword
  | table
  | column
  | tableAlias
  | function
  deriving DecidableEq

/-- The name of a kind in output. -/
def CandidateKind.name : CandidateKind → String
  | .keyword => "keyword"
  | .table => "table"
  | .column => "column"
  | .tableAlias => "alias"
  | .function => "function"

/-- Every kind. -/
def CandidateKind.all : List CandidateKind :=
  [.keyword, .table, .column, .tableAlias, .function]

/-- The kind with a given name. -/
def CandidateKind.ofName? (name : String) : Option CandidateKind :=
  CandidateKind.all.find? (·.name == name)

/-- The number of a kind in the Language Server Protocol. -/
def CandidateKind.lspNumber : CandidateKind → Nat
  | .keyword => 1
  | .table => 5
  | .tableAlias => 6
  | .column => 8
  | .function => 10

/-- One suggestion. -/
structure Candidate where
  label : String
  kind : CandidateKind
  detail : Option String := none
  documentation : Option String := none
  /-- What is left to type. -/
  insertText : Option String := none
  /-- The name with its scope, `scope.column`. -/
  scopedName : Option String := none
  deriving DecidableEq

namespace Candidate

/-- A keyword or a punctuation mark. -/
def ofKeyword (word : String) : Candidate :=
  { label := word, kind := .keyword }

/-- A table by its name. -/
def ofTable (t : Table) : Candidate :=
  { label := t.name, kind := .table, detail := some "table" }

/-- An alias of a FROM clause. -/
def ofAlias (name : String) : Candidate :=
  { label := name, kind := .tableAlias, detail := some "alias" }

/-- A function with its documentation. -/
def ofFunction (f : Function) : Candidate :=
  { label := f.name, kind := .function, detail := some "function",
    documentation := some f.description }

/-- A column without a scope. -/
def ofColumn (c : Column) : Candidate :=
  { label := c.name, kind := .column, detail := some ("column " ++ c.description) }

/-- A column reached through `scope`, a table name or an alias. -/
def ofScopedColumn (scope : String) (c : Column) : Candidate :=
  { ofColumn c with scopedName := some (scope ++ "." ++ c.name) }

/-- The text that the typed word is compared with. -/
def matchText (c : Candidate) : String :=
  c.scopedName.getD c.label

/-- The candidate with what is left to type after `token`, if it has a scoped name that starts with
`token`. -/
def afterToken (token : String) (c : Candidate) : Candidate :=
  match c.scopedName.bind (Text.afterPrefix? · token) with
  | some rest => { c with insertText := some rest }
  | none => c

end Candidate

/-- The candidates that continue `token`, each with what is left to type. -/
def filterByToken (cs : List Candidate) (token : String) : List Candidate :=
  (cs.filter fun c => Text.startsWith c.matchText token).map (·.afterToken token)

end SqlCompletion
