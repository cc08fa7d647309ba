import SqlCompletion.Sql.Grammar.Argument
import SqlCompletion.Text.Case

/-!
# Dotted names

The names of tables, types, functions and columns. A dialect may let a part be missing or be
computed, split quoted parts at their dots, or allow hyphens in the names of tables.
-/

namespace SqlCompletion.Sql

/-- A dotted name. Computed parts only count towards its extent. -/
structure ObjectName where
  parts : List Ident
  extent : Range
  deriving DecidableEq

namespace ObjectName

/-- The name with the given parts. -/
def of (parts : List Ident) : ObjectName where
  parts
  extent := identsExtent parts

/-- A name as it is written. -/
def text (n : ObjectName) : String :=
  ".".intercalate (n.parts.map Ident.text)

end ObjectName

namespace Rule

/-- The parts of a dotted name so far, the last one first. -/
structure NameParts where
  parts : List Ident := []
  /-- The extent of a computed part. -/
  computed : Option Range := none

/-- How many parts there are. -/
def NameParts.count (n : NameParts) : Nat :=
  n.parts.length + (if n.computed.isSome then 1 else 0)

/-- The name that parts make up. -/
def NameParts.name (d : Dialect) (n : NameParts) : ObjectName :=
  let split (i : Ident) : List Ident :=
    (i.value.toList.splitOn '.').map fun v => { i with value := String.ofList v }
  let parts := if d.splitsQuotedTables then n.parts.reverse.flatMap split else n.parts.reverse
  { parts, extent := (identsExtent parts).cover (n.computed.getD .none) }

/-- The word computes a part of a name. -/
def computesName (d : Dialect) (n : NameParts) (i : Ident) : Bool :=
  d.computedNames && n.computed.isNone && i.quote.isNone && Text.toLower i.value == "identifier"

/-- One more part of a dotted name, which may be a star if `stars` says so. Where the middle part
may be missing, a second dot stands for an empty one. -/
def namePart (g : Level) (stars : Bool) (n : NameParts) : Rule NameParts := do
  let d := g.dialect
  if ← onlyIf stars (symbol? .star) then
    return { n with parts := { value := "*", extent := .none } :: n.parts }
  else if d.doubleDots && n.count == 1 && (← isSymbol .period) then
    return { n with parts := { value := "", extent := .none } :: n.parts }
  else
    let i ← identifier
    if computesName d n i then
      let arguments ← parens (listBefore d .rightParen (argument g))
      let extent := i.extent.cover (Range.coverAll (arguments.map (·.extent)))
      return { n with computed := some extent }
    else return { n with parts := i :: n.parts }

/-- A dotted name whose parts may be stars if `stars` says so. -/
def nameWith (g : Level) (stars : Bool) : Rule ObjectName := do
  let first ← namePart g stars {}
  let n ← iterate (fun n => do
    if ← symbol? .period then return some (← namePart g stars n) else return none) first
  return n.name g.dialect

/-- A dotted name. -/
def objectName (g : Level) : Rule ObjectName := nameWith g false

/-- The tokens after names with anything between them; only an equals sign ends them. -/
def afterNames : List Lexeme → List Lexeme
  | [] => []
  | t :: rest => if t.token = .symbol .equal then t :: rest else afterNames rest

/-! ## Hyphens -/

/-- How a name with hyphens goes on after one of its segments. -/
inductive HyphenEnd where
  /-- As any name does. -/
  | free
  /-- A blank has to follow, since the segment is a number. -/
  | blank
  /-- The segment took the dot behind it. -/
  | dot
  deriving DecidableEq

/-- The digits before the dot that a number ends in; nothing if it has no such form. -/
def digitsBeforeDot? (text : String) : Option String :=
  match text.toList.reverse with
  | '.' :: digits =>
    if !digits.isEmpty && digits.all Char.isDigit then some (String.ofList digits.reverse) else none
  | _ => none

/-- A segment of a name with hyphens, after its hyphen. -/
def hyphenSegment : Rule (String × HyphenEnd) := do
  let t ← nextRaw
  let reject {α : Type} : Rule α := throw (.expected "continuation of hyphenated identifier" t)
  match t.map Lexeme.token with
  | some (.word w) => if w.quote.isNone then return (w.value, .free) else reject
  | some (.number text false) =>
    if text.endsWith "." then
      match digitsBeforeDot? text with
      | some digits => return (digits, .dot)
      | none => reject
    else return (text, if ← isSymbol .period then .free else .blank)
  | _ => reject

/-- One more segment of a name, if a hyphen follows without a blank. -/
def hyphenStep : (read : Ident × HyphenEnd) → Rule (Option (Ident × HyphenEnd))
  | (i, stop) => do
    match stop, (← get).head?.map Lexeme.token with
    | .dot, _ => return none
    | _, some (.symbol .minus) =>
      let _ ← nextRaw
      let (segment, stop) ← hyphenSegment
      return some ({ i with value := i.value ++ "-" ++ segment }, stop)
    | _, _ => return none

/-- A name that may have hyphens in it, without blanks around them, and whether it took the dot
behind it. It extends as far as its first word. -/
def hyphenatedName : Rule (Ident × Bool) := do
  let first ← identifier
  if first.quote.isSome then return (first, false)
  let (i, stop) ← iterate hyphenStep (first, .free)
  if stop = .blank then
    if (← peek).isSome then rejectNext "whitespace following hyphenated identifier"
  return (i, stop = .dot)

/-- The name of a table. -/
def tableName (g : Level) : Rule ObjectName := do
  if g.dialect.hyphenatedTables then
    let (first, dotted) ← hyphenatedName
    let (parts, _) ← iterate (fun (parts, dotted) => do
      if (← symbol? .period) || dotted then
        let (part, dotted) ← hyphenatedName
        return some (part :: parts, dotted)
      else return none) ([first], dotted)
    return NameParts.name g.dialect { parts }
  else objectName g

end Rule

end SqlCompletion.Sql
