import SqlCompletion.Sql.Token
import SqlCompletion.Statement

/-!
# Expressions

An expression as the grammar reads it. Names and calls are kept apart from all other expressions,
since a dot after a name or before a call makes them part of a longer name. Every other expression
has a form, operands and an extent.

## Which columns count

Completion asks which columns an expression refers to. It looks for them only below the forms that
it searches: `Form.isSearched` says which these are. A subquery has no operands here, because its
columns are resolved in a scope of their own.
-/

namespace SqlCompletion.Sql

/-- A name in a statement. A name written as a string has no extent. -/
structure Ident where
  value : String
  quote : Option Char := none
  extent : Range
  deriving DecidableEq

/-- The text with every quote doubled. -/
def doubleQuotes (q : Char) (text : String) : String :=
  String.ofList (text.toList.flatMap fun c => if c = q then [c, c] else [c])

/-- A name in its quotes. -/
def Ident.text (i : Ident) : String :=
  match i.quote with
  | some '[' => "[" ++ i.value ++ "]"
  | some q => String.singleton q ++ doubleQuotes q i.value ++ String.singleton q
  | none => i.value

/-- The extent of a dotted name. -/
def identsExtent (parts : List Ident) : Range :=
  Range.coverAll (parts.map (·.extent))

/-- What kind of expression it is, names and calls aside. -/
inductive Form where
  | literal
  /-- An operator between its operands, or before or after one. -/
  | operation
  | equality
  | parenthesized
  | cast
  | isNull | isNotNull | isTrue | isFalse
  | isNotTrue | isNotFalse | isUnknown | isNotUnknown
  | isDistinctFrom | isNotDistinctFrom
  | isNormalized
  /-- The form `CASE .. END`. -/
  | cases
  | between
  | inList
  /-- The word `IN` and a subquery; the operand is what stands before it. -/
  | inSubquery
  | inArray
  | like
  | similar
  | regex
  /-- A comparison with `ANY` or `ALL` of something. -/
  | quantified
  | atTimeZone
  | collation
  | memberOf
  /-- A path of fields and subscripts. -/
  | path
  | subscript
  | conversion
  | extraction
  /-- The calls of `CEIL` and `FLOOR`. -/
  | rounding
  | position
  | substring
  | overlay
  | trim
  | interval
  | array
  | tuple
  | record
  | function
  | textSearch
  | outerJoin
  /-- The word `PRIOR` and its operand. -/
  | prior
  /-- An item with a word before it. -/
  | marked
  | subquery
  | wildcard
  deriving DecidableEq

/-- Columns are looked for in the operands of the form. -/
def Form.isSearched : Form → Bool
  | .operation | .equality | .parenthesized | .cast | .isNull | .isNotNull | .isTrue | .isFalse
  | .cases | .between | .inList | .inSubquery | .like => true
  | _ => false

/-- An expression. -/
inductive Expr where
  /-- A name, or several with dots between them. -/
  | name (parts : List Ident)
  /-- A call with the arguments in which columns are looked for. `rest` covers what belongs to the
  call besides its name and those arguments. -/
  | call (function : List Ident) (arguments : List Expr) (rest : Range)
  /-- Any other expression. -/
  | compound (form : Form) (operands : List Expr) (extent : Range)

namespace Expr

mutual

/-- How far an expression extends. -/
def extent : Expr → Range
  | .name parts => identsExtent parts
  | .call function arguments rest =>
    ((identsExtent function).cover (extentAll arguments)).cover rest
  | .compound _ _ extent => extent

/-- How far expressions extend together. -/
def extentAll : List Expr → Range
  | [] => .none
  | e :: rest => e.extent.cover (extentAll rest)

end

/-- The column that a name refers to. -/
def columnRef? (parts : List Ident) : Option ColumnRef :=
  match parts.reverse with
  | [] => none
  | column :: scope =>
    let table := ".".intercalate (scope.reverse.map (·.value))
    some {
      table := if table.isEmpty then none else some table
      column := column.value
      location := identsExtent parts }

mutual

/-- The columns that are found in an expression, from left to right. -/
def columnRefs : Expr → List ColumnRef
  | .name parts => (columnRef? parts).toList
  | .call _ arguments _ => columnRefsAll arguments
  | .compound form operands _ => if form.isSearched then columnRefsAll operands else []

/-- The columns that are found in expressions. -/
def columnRefsAll : List Expr → List ColumnRef
  | [] => []
  | e :: rest => e.columnRefs ++ columnRefsAll rest

end

/-- An expression as completion sees it. -/
def toExpression (e : Expr) : Expression :=
  match e with
  | .name parts =>
    match columnRef? parts with
    | some r => .column r
    | none => .other e.extent []
  | e => .other e.extent e.columnRefs

/-- An expression that extends as far as its operands. -/
def of (form : Form) (operands : List Expr) : Expr :=
  .compound form operands (extentAll operands)

/-- A literal with its extent. -/
def literal (extent : Range) : Expr :=
  .compound .literal [] extent

/-- An expression that has no extent. -/
def placeless (form : Form) (operands : List Expr) : Expr :=
  .compound form operands .none

end Expr

end SqlCompletion.Sql
