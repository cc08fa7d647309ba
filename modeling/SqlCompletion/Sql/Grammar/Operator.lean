import SqlCompletion.Sql.Grammar.Basic

/-!
# Operators

How tightly the operators bind. An operand goes on as long as the next operator binds tighter than
the one before the operand; a token that is no operator binds with power zero.
-/

namespace SqlCompletion.Sql

/-- Operators that bind equally. -/
inductive Binding where
  | or | and | not | is | like | between | comparison
  /-- Operators on documents. -/
  | document
  | pipe | caret | ampersand | xor | sum | product | timeZone | collation | subscript | cast | dot
  deriving DecidableEq

/-- How tightly operators bind. -/
def Binding.power (d : Dialect) (b : Binding) : Nat :=
  if d == .postgres then
    match b with
    | .or => 10 | .and => 20 | .not => 30 | .is => 40 | .comparison => 50
    | .like => 60 | .between => 60 | .document => 70 | .pipe => 70 | .ampersand => 70
    | .xor => 75 | .sum => 80 | .product => 90 | .caret => 100 | .timeZone => 110
    | .collation => 120 | .subscript => 130 | .cast => 140 | .dot => 200
  else
    match b with
    | .or => 5 | .and => 10 | .not => 15 | .document => 16 | .is => 17 | .like => 19
    | .comparison => 20 | .between => 20 | .pipe => 21 | .caret => 22 | .ampersand => 23
    | .xor => 24 | .sum => 30 | .product => 40 | .timeZone => 41 | .collation => 42
    | .subscript => 50 | .cast => 50 | .dot => 100

/-- What a symbol binds like between two operands. -/
def Symbol.binding? (d : Dialect) (s : Symbol) : Option Binding :=
  match s with
  | .period => some .dot
  | .equal | .doubleEqual | .notEqual | .less | .lessEqual | .greater | .greaterEqual | .spaceship
  | .colonEqual | .tilde | .tildeStar | .bangTilde | .bangTildeStar | .doubleTilde
  | .doubleTildeStar | .bangDoubleTilde | .bangDoubleTildeStar => some .comparison
  | .pipe | .doubleHash | .doubleAmpersand | .ampersandLess | .ampersandGreater
  | .ampersandLessPipe | .pipeAmpersandGreater | .twoWayArrow | .lessCaret | .greaterCaret
  | .shiftLeftPipe | .pipeShiftRight | .questionHash | .questionDash | .questionDashPipe
  | .questionPipe | .questionDoublePipe | .tildeEqual | .atSign => some .pipe
  | .caret => some .caret
  | .hash | .shiftLeft | .shiftRight => some (if d == .postgres then .document else .caret)
  | .ampersand => some .ampersand
  | .plus | .minus => some .sum
  | .star | .slash | .doubleSlash | .percent => some .product
  | .doublePipe => some (if d == .postgres then .document else .product)
  | .doubleColon => some .cast
  | .leftBracket => some .subscript
  | .bang | .caretAt => some (if d == .postgres then .document else .cast)
  | .colon => if d.colonPaths then some .cast else none
  | .arrow | .longArrow | .hashArrow | .hashLongArrow | .atArrow | .lessAt | .hashMinus
  | .atQuestion | .doubleAt | .question | .questionAnd => some .document
  | _ => none

/-- What a keyword binds like between two operands; `ahead` holds the keywords that follow it. -/
def keywordBinding? (d : Dialect) (c : Context) (keyword : String)
    (ahead : List (Option String)) : Option Binding :=
  match keyword with
  | "OR" => some .or
  | "AND" => some .and
  | "XOR" => some .xor
  | "IS" => some .is
  | "IN" | "BETWEEN" | "OVERLAPS" | "OPERATOR" => some .between
  | "LIKE" | "ILIKE" | "RLIKE" | "REGEXP" | "MATCH" | "SIMILAR" | "MEMBER" => some .like
  | "DIV" => some .product
  | "NOTNULL" => if d.notNullOperator then some .is else none
  | "COLLATE" => if d == .postgres && c != .column then some .collation else none
  | "AT" => if ahead = [some "TIME", some "ZONE"] then some .timeZone else none
  | "NOT" =>
    match ahead.head?.join with
    | some k =>
      if ["IN", "BETWEEN"].contains k then some .between
      else if ["LIKE", "ILIKE", "RLIKE", "REGEXP", "MATCH", "SIMILAR", "MEMBER"].contains k then
        some .like
      else if k = "NULL" && c != .column then some .is
      else none
    | none => none
  | _ => none

/-- What the next token binds like. -/
def Rule.nextBinding? (g : Level) : Rule (Option Binding) := do
  match ← token with
  | some (.symbol s) => return s.binding? g.dialect
  | some (.operator _) => return some .document
  | some (.word w) =>
    match w.keyword with
    | some k =>
      let ahead := [(← tokenAt 1).bind Token.keyword?, (← tokenAt 2).bind Token.keyword?]
      return keywordBinding? g.dialect g.context k ahead
    | none => return none
  | _ => return none

/-- How tightly the next token binds. -/
def Rule.nextPower (g : Level) : Rule Nat := do
  match ← nextBinding? g with
  | some b => return b.power g.dialect
  | none => return 0

/-- The symbol is an operator between two operands. -/
def Symbol.isOperator (d : Dialect) (s : Symbol) : Bool :=
  match s with
  | .doubleSlash => d.integerDivision
  | .shiftLeft | .shiftRight => d.shiftOperators
  | .hash | .atSign => d.shapeOperators
  | .doubleAmpersand => d.doubleAmpersand
  | .caretAt => d == .generic || d == .postgres
  | .period | .doubleColon | .bang | .leftBracket | .colon => false
  | _ => (s.binding? d).isSome

/-- The symbol compares for equality. -/
def Symbol.isEquality (s : Symbol) : Bool :=
  s = .equal || s = .doubleEqual

/-- The symbol compares, so that `ANY` or `ALL` may follow it. -/
def Symbol.isComparison : Symbol → Bool
  | .equal | .doubleEqual | .notEqual | .less | .lessEqual | .greater | .greaterEqual
  | .tilde | .tildeStar | .bangTilde | .bangTildeStar | .doubleTilde | .doubleTildeStar
  | .bangDoubleTilde | .bangDoubleTildeStar => true
  | _ => false

/-- The name of a token in messages about operators that are not supported. -/
def Token.label (t : Token) : String :=
  match t with
  | .symbol s => s.label
  | .word w =>
    "Word(Word \x7b value: \"" ++ w.value ++ "\", quote_style: None, keyword: " ++
      w.keyword.getD "NoKeyword" ++ " \x7d)"
  | t => t.text

end SqlCompletion.Sql
