import SqlCompletion.Sql.Grammar.DataType
import SqlCompletion.Sql.Grammar.Setting

/-!
# Roles, users and sessions

The statements that define roles and users and that change roles, connectors and sessions. What a
role may do is said by its traits, which may stand in any order and each of which may be given once.
Nothing of these statements is kept.
-/

namespace SqlCompletion.Sql.Rule

/-! ## Traits of roles -/

/-- Traits of a role that are words alone, and the words for their opposites. -/
def roleFlags : List (String × String) :=
  [("LOGIN", "NOLOGIN"), ("INHERIT", "NOINHERIT"), ("BYPASSRLS", "NOBYPASSRLS"),
    ("CREATEDB", "NOCREATEDB"), ("CREATEROLE", "NOCREATEROLE"), ("SUPERUSER", "NOSUPERUSER"),
    ("REPLICATION", "NOREPLICATION")]

/-- A password, or the word that says that there is none. -/
def password (d : Dialect) : Rule Unit := do
  if !(← keyword? "NULL") then discard (literal d)

/-- A trait of a role: how messages call it, and the rule for its value. -/
structure RoleTrait where
  label : String
  value : Rule Unit

/-- A trait of a role that starts with the given word, where a role that exists may be given it.
What stands before the value is taken. -/
def alterableTrait? (d : Dialect) (k : String) : Option (Rule RoleTrait) :=
  match roleFlags.find? fun (on, off) => k = on || k = off with
  | some (on, off) => some (return { label := on ++ " or " ++ off, value := pure () })
  | none =>
    match k with
    | "PASSWORD" => some (return { label := k, value := password d })
    | "CONNECTION" => some do
      let _ ← keyword "LIMIT"
      return { label := "CONNECTION LIMIT", value := numberLiteral d }
    | "VALID" => some do
      let _ ← keyword "UNTIL"
      return { label := "VALID UNTIL", value := discard (literal d) }
    | _ => none

/-- A trait of a role that says who belongs to it or what it belongs to. -/
def membershipTrait? (d : Dialect) (k : String) : Option (Rule RoleTrait) :=
  let names := discard (list d identifier)
  match k with
  | "IN" => some do
    match ← oneOf? ["ROLE", "GROUP"] with
    | some kind => return { label := "IN " ++ kind, value := names }
    | none => expected "ROLE or GROUP after IN"
  | "ROLE" | "ADMIN" | "USER" => some (return { label := k, value := names })
  | _ => none

/-- A trait of a new role that starts with the given word. -/
def roleTrait? (g : Level) (k : String) : Option (Rule RoleTrait) :=
  match g.dialect with
  | .mssql =>
    if k = "AUTHORIZATION" then some (return { label := k, value := discard (objectName g) })
    else none
  | .postgres => alterableTrait? g.dialect k <|> membershipTrait? g.dialect k
  | _ => none

/-- One more trait of a new role, which is none of those that have been given. -/
def newRoleTrait? (g : Level) (given : List String) : Rule (Option (List String)) := do
  match roleTrait? g ((← peekKeyword?).getD "") with
  | some rule =>
    let first ← next
    let t ← rule
    if given.contains t.label then
      throw (.note ("Found multiple " ++ t.label) (first.map (·.range.start)))
    t.value
    return some (t.label :: given)
  | none => return none

/-! ## Definitions -/

/-- The definition of roles. -/
def createRole (g : Level) : Rule Unit := do
  ifNotExists
  let _ ← list g.dialect (objectName g)
  let _ ← keyword? "WITH"
  discard (iterate (newRoleTrait? g) [])

/-- The definition of a user. -/
def createUser : Rule Unit := do
  ifNotExists
  let _ ← identifier
  settingsBefore ["WITH", "TAG"]
  let _ ← keyword? "WITH"
  if ← keyword? "TAG" then settings

/-! ## Changes -/

/-- A trait that a role is given. -/
def changedTrait (d : Dialect) : Rule Unit := do
  match alterableTrait? d ((← peekKeyword?).getD "") with
  | some rule =>
    let _ ← next
    (← rule).value
  | none => expected "option"

/-- The value that a parameter gets for a role. -/
def roleParameter (g : Level) : Rule Unit := do
  let _ ← objectName g
  if ← keywords? ["FROM", "CURRENT"] then return
  else if ← symbol? .equal <||> keyword? "TO" then
    if !(← keyword? "DEFAULT") then
      try discard g.anyExpr
      catch _ => expected "config value"
  else expected "'TO' or '=' or 'FROM CURRENT'"

/-- The rest of `ALTER ROLE` where roles have traits. -/
def alterRoleTraits (g : Level) : Rule Unit := do
  let _ ← identifier
  if ← keywords? ["IN", "DATABASE"] then leniently (objectName g)
  if ← keyword? "RENAME" then
    if ← keyword? "TO" then discard identifier else expected "TO after RENAME"
  else if ← keyword? "SET" then roleParameter g
  else if ← keyword? "RESET" then
    if !(← keyword? "ALL") then discard (objectName g)
  else
    let _ ← keyword? "WITH"
    let changed ← iterate (fun _ => do
      return (← attempt (changedTrait g.dialect)).map fun _ => true) false
    if !changed then expected "option"

/-- The rest of `ALTER ROLE` where roles have members. -/
def alterRoleMembers : Rule Unit := do
  let _ ← identifier
  if ← keywords? ["ADD", "MEMBER"] <||> keywords? ["DROP", "MEMBER"] then discard identifier
  else if ← keywords? ["WITH", "NAME"] then
    if ← symbol? .equal then discard identifier else expected "= after WITH NAME "
  else expected "'ADD' or 'DROP' or 'WITH NAME'"

/-- The rest of `ALTER ROLE`. -/
def alterRole (g : Level) : Rule Unit :=
  match g.dialect with
  | .postgres => alterRoleTraits g
  | .mssql => alterRoleMembers
  | _ => throw (.note "ALTER ROLE is only support for PostgreSqlDialect, MsSqlDialect" none)

/-- The rest of `ALTER CONNECTOR`. -/
def alterConnector (g : Level) : Rule Unit := do
  let _ ← identifier
  let _ ← keyword "SET"
  if ← keyword? "DCPROPERTIES" then definitionOptions g
  if ← keyword? "URL" then discard (textLiteral g.dialect)
  if ← keyword? "OWNER" then
    if (← oneOf? ["USER", "ROLE"]).isSome then discard identifier

/-- A parameter of the session or a comma; only parameters that are set have values. `any` says
whether there was a parameter. -/
def sessionParameter (valued any : Bool) : Rule (Option Bool) := do
  match ← token with
  | none | some (.symbol .semicolon) => return none
  | some (.symbol .comma) =>
    let _ ← next
    return some any
  | some (.word _) =>
    let _ ← next
    if valued then settingRest
    return some true
  | some _ => expected "another option or end of statement"

/-- The rest of `ALTER SESSION`. -/
def alterSession : Rule Unit := do
  match ← oneOf? ["SET", "UNSET"] with
  | some k =>
    let any ← iterate (sessionParameter (k == "SET")) false
    if !any then throw (.note "expected at least one option" none)
  | none => expected "SET or UNSET"

end SqlCompletion.Sql.Rule
