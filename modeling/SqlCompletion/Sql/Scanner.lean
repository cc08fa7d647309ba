import SqlCompletion.Sql.FromClause

/-!
# The scan of a FROM clause by positions

`FromClause.scan` takes tokens from the front of a list and hands on the rest. Here the same scan
walks over the tokens by their positions, counts the parentheses that are open, and cuts the texts
of subqueries out of the document by their offsets. Whatever could go wrong on the way is checked
and ends the scan with a `Fault`:

* a loop that makes another pass without having come to a later position (`loop`),
* a position past the end of the tokens (`Scanner.goto`),
* a difference below zero (`sub`),
* a part of the text that ends before it starts, or that cuts a character in two (`part`).
-/

namespace SqlCompletion.Sql.FromClause

/-- What can go wrong in a scan by positions. -/
inductive Fault where
  | stuck | outside | underflow | cut
  deriving DecidableEq

/-! ## Checked steps -/

/-- The difference of two numbers. -/
def sub (m n : Nat) : Except Fault Nat :=
  if n ≤ m then .ok (m - n) else .error .underflow

/-- A character starts at the offset, or the text ends there. -/
def isBoundary (cs : List Char) (offset : Nat) : Bool :=
  match cs with
  | [] => offset == 0
  | c :: cs => offset == 0 || c.utf8Size ≤ offset && isBoundary cs (offset - c.utf8Size)

/-- The part of a text between two offsets. -/
def part (cs : List Char) (start stop : Nat) : Except Fault String :=
  if start ≤ stop && isBoundary cs start && isBoundary cs stop then
    .ok (String.ofList (Text.slice cs start stop))
  else .error .cut

/-- Pass after pass, until one has a result. Any other pass has to come to a later position, which
is not past the end of the `count` tokens. -/
def loop {σ α : Type} (count : Nat) (pos : σ → Nat) (pass : σ → Except Fault (σ ⊕ α)) (s : σ) :
    Except Fault α :=
  match pass s with
  | .error f => .error f
  | .ok (.inr result) => .ok result
  | .ok (.inl next) =>
    if pos s < pos next then
      if pos next ≤ count then loop count pos pass next else .error .outside
    else .error .stuck
termination_by count - pos s

/-- What a scan walks over: the text and its tokens, and how to parse a subquery. -/
structure Scanner where
  chars : List Char
  tokens : List Lexeme
  parse : String → Except ParseFailure Statement

namespace Scanner

variable (s : Scanner)

/-- The token at a position. -/
def peek (pos : Nat) : Option Token := s.tokens[pos]?.map (·.token)

/-- The word at a position. -/
def peekWord (pos : Nat) : Option Word := (s.peek pos).bind Token.word?

/-- The keyword stands at the position. -/
def peekKeyword (pos : Nat) (keyword : String) : Bool := (s.peek pos).any (isKeyword · keyword)

/-- The symbol stands at the position. -/
def peekSymbol (pos : Nat) (symbol : Symbol) : Bool := s.peek pos == some (.symbol symbol)

/-- Where a token starts or stops; past the tokens, where the text ends. -/
def locationAt (pos : Nat) (stop : Bool) : Location :=
  match s.tokens[pos]? with
  | some t => if stop then t.range.stop else t.range.start
  | none => endLocation s.chars

/-- A position that the scan comes to. -/
def goto (pos : Nat) : Except Fault Nat :=
  if pos ≤ s.tokens.length then .ok pos else .error .outside

/-! ## Groups -/

/-- The position of the parenthesis that closes a group, where `depth` parentheses are open before
the tokens that start at `pos`. -/
def closing (depth pos : Nat) : List Lexeme → Except Fault (Option Nat)
  | [] => return none
  | t :: rest =>
    match t.token with
    | .symbol .leftParen => closing (depth + 1) (pos + 1) rest
    | .symbol .rightParen => do
      let depth ← sub depth 1
      if depth = 0 then return some pos else closing depth (pos + 1) rest
    | _ => closing depth (pos + 1) rest

/-- The position of the parenthesis that matches the one at `opening`. -/
def matchingParen (opening : Nat) : Except Fault (Option Nat) :=
  closing 0 opening (s.tokens.drop opening)

/-- The position after the group that starts at `opening`. -/
def skipGroup (opening : Nat) : Except Fault Nat := do
  match ← s.matchingParen opening with
  | some close => s.goto (close + 1)
  | none => s.goto s.tokens.length

/-! ## Tables -/

/-- A word that is an alias, if there is one, and the position after it. -/
def aliasWord (explicit : Bool) (pos : Nat) : Except Fault (Option String × Nat) := do
  match s.peekWord pos with
  | some w =>
    if explicit || isName w then return (some w.value, ← s.goto (pos + 1)) else return (none, pos)
  | none => return (none, pos)

/-- An alias, if there is one, and the position after it. -/
def scanAlias (pos : Nat) : Except Fault (Option String × Nat) := do
  if s.peekKeyword pos "AS" then s.aliasWord true (← s.goto (pos + 1))
  else s.aliasWord false pos

/-- How far a name was read: its parts, the last one first, and the position of its last token. -/
structure NameState where
  parts : List String
  last : Nat
  pos : Nat

/-- One part of a dotted name. -/
def namePass (n : NameState) : Except Fault (NameState ⊕ NameState) :=
  match s.peekWord n.pos with
  | none => return .inr n
  | some w => do
    let next ← s.goto (n.pos + 1)
    let parts := w.value :: n.parts
    if s.peekSymbol next .period then return .inl ⟨parts, next, ← s.goto (next + 1)⟩
    else return .inr ⟨parts, n.pos, next⟩

/-- A dotted name. -/
def scanName (pos : Nat) : Except Fault NameState :=
  loop s.tokens.length NameState.pos s.namePass ⟨[], pos, pos⟩

/-- The last token of a table, and the position after it, once the arguments of a table function
are passed over. -/
def scanArguments (last pos : Nat) : Except Fault (Nat × Nat) := do
  if s.peekSymbol pos .leftParen then
    let final ← sub s.tokens.length 1
    let close ← s.matchingParen pos
    return (close.getD final, ← s.skipGroup pos)
  else return (last, pos)

/-- The last token of a table with its alias, which ends before `pos`. -/
def lastWithAlias (aliasName : Option String) (last pos : Nat) : Except Fault Nat :=
  if aliasName.isSome then sub pos 1 else return last

/-- A table of the clause as far as it was read. -/
structure Step where
  entry : Option FromEntry
  pos : Nat
  continues : Bool

/-- A table with its alias. -/
def scanTable (join : Option String) (first : Nat) : Except Fault Step := do
  let name ← s.scanName first
  let (last, pos) ← s.scanArguments name.last name.pos
  let (aliasName, pos) ← s.scanAlias pos
  let last ← lastWithAlias aliasName last pos
  let database :=
    match name.parts.tail with
    | [] => none
    | outer => some (".".intercalate outer.reverse)
  let entry := FromEntry.table {
    database
    table := name.parts.head?.getD ""
    aliasName
    join
    hasOn := false
    location := ⟨s.locationAt first false, s.locationAt last true⟩ }
  return ⟨some entry, pos, true⟩

/-- A subquery between the parentheses at `opening` and `close`. -/
def scanClosed (opening close : Nat) : Except Fault Step := do
  let range : Range := ⟨s.locationAt opening true, s.locationAt close false⟩
  let text ← part s.chars range.start.offset range.stop.offset
  let (aliasName, pos) ← s.scanAlias (← s.goto (close + 1))
  match s.parse text with
  | .ok statement =>
    let last ← lastWithAlias aliasName close pos
    let whole : Range := ⟨s.locationAt opening false, s.locationAt last true⟩
    return ⟨some (.subquery statement (aliasName.getD "") whole), pos, true⟩
  | .error _ => return ⟨some (.incomplete text range), pos, true⟩

/-- A subquery whose parenthesis at `opening` is not closed. -/
def scanUnclosed (opening : Nat) : Except Fault Step := do
  let range : Range := ⟨s.locationAt opening true, endLocation s.chars⟩
  let text ← part s.chars range.start.offset range.stop.offset
  return ⟨some (.incomplete text range), ← s.goto s.tokens.length, false⟩

/-- A group in parentheses: a subquery, or something to pass over. -/
def scanParenthesized (opening : Nat) : Except Fault Step := do
  let isQuery := (s.peek (opening + 1)).any (isOneOf · ["SELECT", "WITH"])
  let close? ← s.matchingParen opening
  if isQuery then
    match close? with
    | some close => s.scanClosed opening close
    | none => s.scanUnclosed opening
  else
    let (_, pos) ← s.scanAlias (← s.skipGroup opening)
    return ⟨none, pos, close?.isSome⟩

/-- The position after a `LATERAL`, if there is one. -/
def skipLateral (pos : Nat) : Except Fault Nat :=
  if s.peekKeyword pos "LATERAL" then s.goto (pos + 1) else return pos

/-- One table of the clause. -/
def scanFactor (join : Option String) (pos : Nat) : Except Fault Step := do
  let pos ← s.skipLateral pos
  match s.peek pos with
  | some (.symbol .leftParen) => s.scanParenthesized pos
  | some (.word w) => if isName w then s.scanTable join pos else return ⟨none, pos, false⟩
  | _ => return ⟨none, pos, false⟩

/-! ## Between two tables -/

/-- One token or group of the condition of a join. -/
def conditionPass (pos : Nat) : Except Fault (Nat ⊕ Nat) := do
  match s.peek pos with
  | none => return .inr pos
  | some t =>
    if t == .symbol .leftParen then return .inl (← s.skipGroup pos)
    else if endsCondition t then return .inr pos
    else return .inl (← s.goto (pos + 1))

/-- The position after the condition of a join. -/
def skipCondition (pos : Nat) : Except Fault Nat :=
  loop s.tokens.length id s.conditionPass pos

/-- The position after `USING` and the group that follows it. -/
def skipUsing (pos : Nat) : Except Fault Nat :=
  if s.peekSymbol pos .leftParen then s.skipGroup pos else return pos

/-- One word of a join operator; the words before it are given, the last one first. -/
def joinPass (state : List String × Nat) :
    Except Fault ((List String × Nat) ⊕ Option (String × Nat)) := do
  match (s.peek state.2).bind Token.keyword? with
  | some k =>
    if joinWords.contains k then
      let next ← s.goto (state.2 + 1)
      let words := k :: state.1
      if k = "JOIN" then return .inr (some (" ".intercalate words.reverse, next))
      else return .inl (words, next)
    else return .inr none
  | none => return .inr none

/-- A join operator, and the position after it. -/
def scanJoin (pos : Nat) : Except Fault (Option (String × Nat)) :=
  loop s.tokens.length Prod.snd s.joinPass ([], pos)

/-- A comma, a condition or a join operator after a table. The result tells where the next table
starts, if there is one. -/
def betweenPass (state : List FromEntry × Nat) :
    Except Fault ((List FromEntry × Nat) ⊕ (List FromEntry × Option (Option String × Nat))) := do
  let (entries, pos) := state
  match s.peek pos with
  | none => return .inr (entries, none)
  | some t =>
    if t == .symbol .comma then return .inr (entries, some (none, ← s.goto (pos + 1)))
    else if isKeyword t "ON" then
      return .inl (markConstrained entries, ← s.skipCondition (← s.goto (pos + 1)))
    else if isKeyword t "USING" then
      return .inl (markConstrained entries, ← s.skipUsing (← s.goto (pos + 1)))
    else if isOneOf t joinWords then
      let found ← s.scanJoin pos
      return .inr (entries, found.map fun (label, pos) => (some label, pos))
    else return .inr (entries, none)

/-- What follows a table. -/
def between (entries : List FromEntry) (pos : Nat) :
    Except Fault (List FromEntry × Option (Option String × Nat)) :=
  loop s.tokens.length Prod.snd s.betweenPass (entries, pos)

/-! ## The clause -/

/-- What is known before a table: the join operator, the entries, the last one first, and the
position. -/
structure ClauseState where
  join : Option String
  entries : List FromEntry
  pos : Nat

/-- One table and what follows it. -/
def clausePass (c : ClauseState) : Except Fault (ClauseState ⊕ List FromEntry) := do
  let step ← s.scanFactor c.join c.pos
  let entries := step.entry.toList ++ c.entries
  if step.continues then
    match ← s.between entries step.pos with
    | (entries, some (join, pos)) => return .inl ⟨join, entries, pos⟩
    | (entries, none) => return .inr entries
  else return .inr entries

/-- The entries of a clause, the last one first. -/
def scanEntries (pos : Nat) : Except Fault (List FromEntry) :=
  loop s.tokens.length ClauseState.pos s.clausePass ⟨none, [], pos⟩

/-- The position of the first `FROM` outside parentheses, where `depth` parentheses are open before
the tokens that start at `pos`. -/
def firstFrom? (depth pos : Nat) : List Lexeme → Option Nat
  | [] => none
  | t :: rest =>
    if depth = 0 && isKeyword t.token "FROM" then some pos
    else firstFrom? (depthAfter t.token depth) (pos + 1) rest

/-- The entries of the FROM clause. -/
def scan : Except Fault (List FromEntry) :=
  match firstFrom? 0 0 s.tokens with
  | none => .ok []
  | some start => do return (← s.scanEntries (← s.goto (start + 1))).reverse

end Scanner

end SqlCompletion.Sql.FromClause
