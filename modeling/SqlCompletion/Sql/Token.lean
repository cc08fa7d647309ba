import SqlCompletion.Position
import SqlCompletion.Sql.Keyword

/-!
# Tokens

The tokens that a text is made of. White space and comments are tokens too, so that the tokens of a
text cover it from end to end.

Every token has a text in which error messages show it. It is the text as written, except that
strings are shown without their escapes and that both signs for "not equal" are shown alike.
-/

namespace SqlCompletion.Sql

/-- Punctuation and operators. -/
inductive Symbol where
  | comma | semicolon | period | backslash
  | leftParen | rightParen | leftBracket | rightBracket | leftBrace | rightBrace
  | plus | minus | star | slash | doubleSlash | percent
  | equal | doubleEqual | notEqual | less | lessEqual | greater | greaterEqual | spaceship
  | fatArrow | colon | doubleColon | colonEqual
  | bang | doubleBang | bangTilde | bangTildeStar | bangDoubleTilde | bangDoubleTildeStar
  | tilde | tildeStar | doubleTilde | doubleTildeStar | tildeEqual
  | ampersand | doubleAmpersand | pipe | doublePipe | pipeSlash | doublePipeSlash | pipeGreater
  | caret | caretAt | shiftLeft | shiftRight
  | arrow | longArrow | lessAt
  | hash | doubleHash | hashMinus | hashArrow | hashLongArrow
  | atSign | doubleAt | atArrow | atQuestion | atDashAt
  | question | questionAnd | questionPipe | questionHash | questionDash | questionDashPipe
  | questionDoublePipe
  | twoWayArrow | lessCaret | greaterCaret | shiftLeftPipe | pipeShiftRight
  | ampersandLess | ampersandGreater | ampersandLessPipe | pipeAmpersandGreater
  deriving DecidableEq

namespace Symbol

/-- A symbol as it is written. -/
def text : Symbol → String
  | comma => "," | semicolon => ";" | period => "." | backslash => "\\"
  | leftParen => "(" | rightParen => ")" | leftBracket => "[" | rightBracket => "]"
  | leftBrace => "\x7b" | rightBrace => "\x7d"
  | plus => "+" | minus => "-" | star => "*" | slash => "/" | doubleSlash => "//" | percent => "%"
  | equal => "=" | doubleEqual => "==" | notEqual => "<>" | less => "<" | lessEqual => "<="
  | greater => ">" | greaterEqual => ">=" | spaceship => "<=>"
  | fatArrow => "=>" | colon => ":" | doubleColon => "::" | colonEqual => ":="
  | bang => "!" | doubleBang => "!!" | bangTilde => "!~" | bangTildeStar => "!~*"
  | bangDoubleTilde => "!~~" | bangDoubleTildeStar => "!~~*"
  | tilde => "~" | tildeStar => "~*" | doubleTilde => "~~" | doubleTildeStar => "~~*"
  | tildeEqual => "~="
  | ampersand => "&" | doubleAmpersand => "&&" | pipe => "|" | doublePipe => "||"
  | pipeSlash => "|/" | doublePipeSlash => "||/" | pipeGreater => "|>"
  | caret => "^" | caretAt => "^@" | shiftLeft => "<<" | shiftRight => ">>"
  | arrow => "->" | longArrow => "->>" | lessAt => "<@"
  | hash => "#" | doubleHash => "##" | hashMinus => "#-"
  | hashArrow => "#>" | hashLongArrow => "#>>"
  | atSign => "@" | doubleAt => "@@" | atArrow => "@>" | atQuestion => "@?" | atDashAt => "@-@"
  | question => "?" | questionAnd => "?&" | questionPipe => "?|" | questionHash => "?#"
  | questionDash => "?-" | questionDashPipe => "?-|" | questionDoublePipe => "?||"
  | twoWayArrow => "<->" | lessCaret => "<^" | greaterCaret => ">^" | shiftLeftPipe => "<<|"
  | pipeShiftRight => "|>>" | ampersandLess => "&<" | ampersandGreater => "&>"
  | ampersandLessPipe => "&<|" | pipeAmpersandGreater => "|&>"

/-- The name of a symbol in messages about operators that are not supported. -/
def label : Symbol → String
  | doubleSlash => "DuckIntDiv"
  | bang => "ExclamationMark"
  | doubleAmpersand => "Overlap"
  | caretAt => "CaretAt"
  | atSign => "AtSign"
  | shiftLeft => "ShiftLeft"
  | shiftRight => "ShiftRight"
  | hash => "Sharp"
  | leftBracket => "LBracket"
  | s => s.text

end Symbol

/-- A word. Only an unquoted word can be a keyword. -/
structure Word where
  value : String
  /-- The opening quote. -/
  quote : Option Char := none
  /-- The keyword that the word is, in upper case. -/
  keyword : Option String := none
  deriving DecidableEq

/-- The quote that closes what another quote opens. -/
def closingQuote (c : Char) : Char :=
  if c = '[' then ']' else c

/-- A word in its quotes. -/
def Word.text (w : Word) : String :=
  match w.quote with
  | some q => String.singleton q ++ w.value ++ String.singleton (closingQuote q)
  | none => w.value

/-- The word is the given keyword. -/
def Word.isKeyword (w : Word) (keyword : String) : Bool :=
  w.keyword == some keyword

/-- The word is one of the given keywords. -/
def Word.isOneOf (w : Word) (keywords : List String) : Bool :=
  match w.keyword with
  | some k => keywords.contains k
  | none => false

/-- The way in which a string is written: what stands before and after its characters. -/
structure Quoting where
  before : String
  after : String
  deriving DecidableEq

namespace Quoting

/-- Text between single quotes. -/
def single : Quoting := ⟨"'", "'"⟩

/-- Text between double quotes. -/
def double : Quoting := ⟨"\"", "\""⟩

/-- Text with escapes, `E` before its single quotes. -/
def escaped : Quoting := ⟨"E'", "'"⟩

/-- Text with escapes by code point, `U&` before its single quotes. -/
def unicode : Quoting := ⟨"U&'", "'"⟩

/-- Text in the characters of a nation, `N` before its single quotes. -/
def national : Quoting := ⟨"N'", "'"⟩

/-- Hexadecimal digits. -/
def hex : Quoting := ⟨"X'", "'"⟩

end Quoting

/-- A token. -/
inductive Token where
  | word (w : Word)
  | number (text : String) (long : Bool)
  | string (quoting : Quoting) (value : String)
  | placeholder (text : String)
  | symbol (s : Symbol)
  /-- An operator that users define. -/
  | operator (text : String)
  /-- A character that is no other token. -/
  | stray (c : Char)
  /-- White space or a comment. -/
  | blank (text : String)
  deriving DecidableEq

/-- A token as error messages show it. -/
def Token.text : Token → String
  | .word w => w.text
  | .number t long => if long then t ++ "L" else t
  | .string q v => q.before ++ v ++ q.after
  | .placeholder t => t
  | .symbol s => s.text
  | .operator t => t
  | .stray c => String.singleton c
  | .blank t => t

/-- The token is white space or a comment. -/
def Token.isBlank : Token → Bool
  | .blank _ => true
  | _ => false

/-- The word that a token is. -/
def Token.word? : Token → Option Word
  | .word w => some w
  | _ => none

/-- The keyword that a token is. -/
def Token.keyword? (t : Token) : Option String :=
  t.word?.bind (·.keyword)

/-- A token with its place. -/
structure Lexeme where
  token : Token
  range : Range
  deriving DecidableEq

/-- The text cannot be divided into tokens. -/
structure LexError where
  message : String
  location : Location
  deriving DecidableEq

/-- A place as error messages write it. -/
def placeText (l : Location) : String :=
  " at Line: " ++ toString l.line ++ ", Column: " ++ toString l.column

/-- The message of an error with its place. -/
def LexError.text (e : LexError) : String :=
  e.message ++ placeText e.location

end SqlCompletion.Sql
