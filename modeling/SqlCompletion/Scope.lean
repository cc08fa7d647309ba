import SqlCompletion.Candidate
import SqlCompletion.Statement

/-!
# Names in scope

Lookups of a partly typed name among the tables of a schema and the entries of a FROM clause. A name
matches when the typed text is its beginning, with regard to case. Results keep the order of the
schema, then that of the FROM clause.

## Scopes

A typed name is in scope `s` when it starts with `s` and a dot. An alias hides a table of the same
name: after `FROM a t`, the name `t.` does not reach the columns of a table `t`. A subquery of the
FROM clause counts as a table named by its alias, with one column for each item of its select list.
-/

namespace SqlCompletion

/-- The typed name starts with `scope` and a dot. -/
def inScope (typed scope : String) : Bool :=
  match Text.dropPrefix? scope.toList typed.toList with
  | some ('.' :: _) => true
  | _ => false

/-- The entries that name a table. -/
def tableRefs (entries : List FromEntry) : List TableRef :=
  entries.filterMap FromEntry.table?

/-- The aliases of the entries that name a table, in order. -/
def tableAliases (entries : List FromEntry) : List String :=
  (tableRefs entries).filterMap (·.aliasName)

/-- The columns of every table whose name is the scope of the typed name. -/
def columnsByTable (tables : List Table) (typed : String) : List Candidate :=
  (tables.filter fun t => inScope typed t.name).flatMap fun t =>
    t.columns.map (Candidate.ofScopedColumn t.name)

/-- The columns of every table that an alias stands for, where the alias is the scope of the typed
name. An alias that is given twice contributes twice. -/
def columnsByAlias (entries : List FromEntry) (tables : List Table) (typed : String) :
    List Candidate :=
  (tableRefs entries).flatMap fun r =>
    match r.aliasName with
    | some a =>
      if inScope typed a then
        (tables.filter fun t => t.name == r.table).flatMap fun t =>
          t.columns.map (Candidate.ofScopedColumn a)
      else []
    | none => []

/-- The columns in the scope of the typed name, through tables and then through aliases. -/
def scopedColumns (entries : List FromEntry) (tables : List Table) (typed : String) :
    List Candidate :=
  let hidden := (tableAliases entries).filter (inScope typed)
  let visible := tables.filter fun t => !hidden.contains t.name
  columnsByTable visible typed ++ columnsByAlias entries tables typed

/-- The aliases that continue the typed name. -/
def aliasesByPrefix (entries : List FromEntry) (typed : String) : List Candidate :=
  ((tableAliases entries).filter (Text.startsWith · typed)).map Candidate.ofAlias

/-- The tables whose name continues the typed name. -/
def tablesByPrefix (tables : List Table) (typed : String) : List Candidate :=
  (tables.filter fun t => Text.startsWith t.name typed).map Candidate.ofTable

/-- The functions whose name continues the typed name. -/
def functionsByPrefix (functions : List Function) (typed : String) : List Candidate :=
  (functions.filter fun f => Text.startsWith f.name typed).map Candidate.ofFunction

/-- The columns that a statement offers when it stands as a subquery: one for each item of its
select list, unnamed where the item has no name. -/
def subqueryColumns : Statement → List Column
  | .select _ columns _ _ =>
    columns.map fun i => { name := (i.outputName.map (·.value)).getD "", description := "alias" }
  | _ => []

/-- The subqueries of a FROM clause, as tables. -/
def pseudoTables (entries : List FromEntry) : List Table :=
  entries.filterMap fun
    | .subquery s a _ => some { name := a, columns := subqueryColumns s }
    | _ => none

/-- The tables of a schema, followed by the subqueries of a FROM clause. -/
def scopeTables (tables : List Table) (entries : List FromEntry) : List Table :=
  tables ++ pseudoTables entries

end SqlCompletion
