import SqlCompletion.Sql.Grammar.Basic

/-!
# Arguments

What may stand among the arguments of a call: an expression, or a star where all columns or all rows
are meant, each with a name or without. Columns are looked for in expressions alone; names and stars
only count towards how far the arguments extend.
-/

namespace SqlCompletion.Sql

/-! ## Expressions and stars -/

/-- An expression, or `*` where it is allowed. -/
inductive Starred where
  | star (extent : Range)
  | qualified (qualifier : List Ident) (extent : Range)
  | expr (e : Expr)

namespace Rule

/-- The name that a token in front of `.*` is; a string has no extent. -/
def qualifierPart? (t : Lexeme) : Option Ident :=
  match t.token with
  | .word w => some (identOf w t.range)
  | .string q v =>
    if q = .single then some { value := v, quote := some '\'', extent := .none } else none
  | _ => none

/-- One more part of a name in front of `.*`; without one, the star that ends it. -/
def qualifierStep (read : List Ident) : Rule (List Ident × Option Range) := do
  match ← peek with
  | none => expected "an identifier or a '*' after '.'"
  | some t =>
    match qualifierPart? t, t.token with
    | some i, _ =>
      let _ ← next
      return (i :: read, none)
    | none, .symbol .star =>
      let _ ← next
      return (read, some t.range)
    | none, _ => rejectNext "an identifier or a '*' after '.'"

/-- A dotted name with a star at its end; nothing if it ends without one. -/
def qualifiedStar? (first : Ident) : Rule (Option Starred) := do
  let (read, star) ← iterate (fun (read, star) => do
    if ← onlyIf star.isNone (symbol? .period) then return some (← qualifierStep read)
    else return none) ([first], (none : Option Range))
  return star.map (.qualified read.reverse)

/-- An expression, or a star. A dotted name is looked through to its end first, since it may end in
a star. -/
def starOr (expr : Rule Expr) : Rule Starred := do
  match ← peek with
  | some t =>
    if t.token = .symbol .star then
      let _ ← next
      return .star t.range
    else
      match qualifierPart? t with
      | some first =>
        let start ← get
        let _ ← next
        match ← qualifiedStar? first with
        | some s => return s
        | none =>
          set start
          return .expr (← expr)
      | none => return .expr (← expr)
  | none => return .expr (← expr)

/-! ## Arguments -/

/-- Arguments as far as they matter. -/
structure Arguments where
  /-- The expressions in which columns are looked for. -/
  searched : List Expr := []
  /-- What else the arguments cover. -/
  rest : Range := .none
  /-- Null treatment was among them. -/
  nullTreatment : Bool := false

/-- What arguments cover. -/
def Arguments.extent (a : Arguments) : Range :=
  (Expr.extentAll a.searched).cover a.rest

/-- All of the arguments. -/
def Arguments.append (a b : Arguments) : Arguments where
  searched := a.searched ++ b.searched
  rest := a.rest.cover b.rest
  nullTreatment := a.nullTreatment || b.nullTreatment

/-- An expression or a star as an argument. -/
def argumentOf : Starred → Arguments
  | .star _ => {}
  | .qualified qualifier _ => { rest := identsExtent qualifier }
  | .expr e => { searched := [e] }

/-- What stands between the name and the value of a named argument. -/
def argumentOperator (d : Dialect) : Rule Unit := do
  if ← keyword? "VALUE" then return ()
  match ← token with
  | some (.symbol .fatArrow) =>
    if d.arrowArguments then discard next else expected "argument operator"
  | some (.symbol .equal) =>
    if d.equalArguments then discard next else expected "argument operator"
  | some (.symbol .colonEqual) =>
    if d.assignedArguments then discard next else expected "argument operator"
  | some (.symbol .colon) =>
    if d.colonArguments then discard next else expected "argument operator"
  | _ => expected "argument operator"

/-- The name of a named argument with what stands behind it. -/
def argumentName (g : Level) : Rule Arguments := do
  let name ←
    if g.dialect.expressionArguments then
      (fun e => { searched := [e] }) <$> g.anyExpr
    else (fun i => { rest := i.extent }) <$> identifier
  argumentOperator g.dialect
  return name

/-- An argument, with a name or without. -/
def argument (g : Level) : Rule Arguments := do
  let named ← attempt do
    let name ← argumentName g
    return name.append (argumentOf (← starOr g.anyExpr))
  match named with
  | some a => return a
  | none => return argumentOf (← starOr g.anyExpr)

end Rule

end SqlCompletion.Sql
