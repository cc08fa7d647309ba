import SqlCompletion.Position

/-!
# Statements as completion sees them

Only what completion reasons about is kept of a statement: select lists, the entries of a FROM
clause, filters and the targets of DELETE and UPDATE, each with its place in the text. Everything
else is `Statement.other`.
-/

namespace SqlCompletion

/-- A name with its place. -/
structure Name where
  value : String
  location : Range
  deriving DecidableEq

/-- A reference to a column; in `a.b.c` the table is `a.b`. -/
structure ColumnRef where
  table : Option String
  column : String
  location : Range
  deriving DecidableEq

/-- The reference as it is written: `table.column`, or the column alone. -/
def ColumnRef.qualifiedName (r : ColumnRef) : String :=
  match r.table with
  | some t => t ++ "." ++ r.column
  | none => r.column

/-- An expression: a column reference, or anything else with the column references found inside. -/
inductive Expression where
  | column (ref : ColumnRef)
  | other (location : Range) (refs : List ColumnRef)
  deriving DecidableEq

/-- The place of an expression. -/
def Expression.location : Expression → Range
  | .column r => r.location
  | .other l _ => l

/-- The column references of an expression, from left to right. -/
def Expression.columnRefs : Expression → List ColumnRef
  | .column r => [r]
  | .other _ rs => rs

/-- One item of a select list; a wildcard has no expression. -/
structure SelectItem where
  expr : Option Expression
  aliasName : Option Name
  location : Range
  deriving DecidableEq

/-- The name under which an item can be reached: its alias, else the column of a bare reference. -/
def SelectItem.outputName (i : SelectItem) : Option Name :=
  match i.aliasName, i.expr with
  | some a, _ => some a
  | none, some (.column r) => some ⟨r.column, r.location⟩
  | none, _ => none

/-- A table named in a FROM clause. -/
structure TableRef where
  database : Option String
  table : String
  aliasName : Option String
  /-- The words of the join operator before the table, if it is joined. -/
  join : Option String
  /-- The join has its own `ON` or `USING`. -/
  hasOn : Bool
  location : Range
  deriving DecidableEq

mutual

/-- A statement. -/
inductive Statement where
  | select (distinct : Bool) (columns : List SelectItem) (entries : List FromEntry)
      (filter : Option Expression)
  | delete (target : Range) (filter : Option Expression)
  | update (target : Range) (filter : Option Expression)
  | other

/-- One entry of a FROM clause. -/
inductive FromEntry where
  | table (ref : TableRef)
  | subquery (statement : Statement) (aliasName : String) (location : Range)
  /-- A subquery in parentheses that is not a statement yet: its text, and where the text stands. -/
  | incomplete (text : String) (location : Range)

end

/-- The place of an entry. -/
def FromEntry.location : FromEntry → Range
  | .table r => r.location
  | .subquery _ _ l => l
  | .incomplete _ l => l

/-- The table of an entry that names one. -/
def FromEntry.table? : FromEntry → Option TableRef
  | .table r => some r
  | _ => none

end SqlCompletion
