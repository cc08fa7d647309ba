import SqlCompletion.Candidate.OfError
import SqlCompletion.Sql.Lexer
import SqlCompletion.Text.Decimal
import SqlCompletion.Text.Numeric

/-!
# From a message to a syntax error

The grammar says in words why it rejects a text. Completion needs three things of that: which tokens
would have been accepted, where the text went wrong, and whether a column is being named. The first
two are read off the message, the last off the tokens of the text.

## Messages

A message may mention a place as `Line: 3, Column: 7`; the first one that it mentions is where the
text went wrong, and without one that is the end of the text. A message of the form `Expected: .. ,
found: .. ` describes what would have been accepted; a place at its very end does not belong to what
was found. Since a message quotes the text, both forms may also come from the text itself.
-/

namespace SqlCompletion.Sql

/-! ## Places -/

/-- What follows white space. -/
def skipBlanks (cs : List Char) : List Char :=
  cs.dropWhile Text.isBlank

/-- The digits at the front of a text, at least one, and what follows them. -/
def takeDigits? (cs : List Char) : Option (List Char × List Char) :=
  match cs.takeWhile Text.isDecimalDigit with
  | [] => none
  | ds => some (ds, cs.dropWhile Text.isDecimalDigit)

/-- A place at the front of a text, its numbers as digits, and what follows it. -/
def placeAt? (cs : List Char) : Option ((List Char × List Char) × List Char) := do
  let rest ← Text.dropPrefix? "Line:".toList cs
  let (line, rest) ← takeDigits? (skipBlanks rest)
  let rest ← Text.dropPrefix? [','] (skipBlanks rest)
  let rest ← Text.dropPrefix? "Column:".toList (skipBlanks rest)
  let (column, rest) ← takeDigits? (skipBlanks rest)
  return ((line, column), rest)

/-- The first place in a text. -/
def firstPlace? : List Char → Option (List Char × List Char)
  | [] => none
  | c :: rest =>
    match placeAt? (c :: rest) with
    | some (place, _) => some place
    | none => firstPlace? rest

/-- Where a text went wrong, according to a message. -/
def errorLocation (text : List Char) (message : List Char) : Location :=
  let location? : Option Location := do
    let (lineDigits, columnDigits) ← firstPlace? message
    let line ← Text.wordOfDigits? lineDigits
    let column ← Text.wordOfDigits? columnDigits
    let offset ← offset? text line column
    return { offset, line, column }
  location?.getD (endLocation text)

/-! ## Expectations -/

/-- The text is white space, `at` and a place, and nothing else. -/
def isPlaceSuffix (cs : List Char) : Bool :=
  match cs with
  | c :: rest =>
    Text.isBlank c &&
      match (Text.dropPrefix? "at ".toList (skipBlanks rest)).bind placeAt? with
      | some (_, []) => true
      | _ => false
  | [] => false

/-- What was found, without a place at the end. `read` holds the characters so far, the last one
first. -/
def foundText (read : List Char) : List Char → List Char
  | [] => read.reverse
  | c :: rest =>
    if isPlaceSuffix (c :: rest) then read.reverse else foundText (c :: read) rest

/-- What was found, after `found:`. It has at least one character. -/
def foundAfter? (cs : List Char) : Option (List Char) :=
  match skipBlanks cs, cs with
  | c :: rest, _ => some (foundText [c] rest)
  | [], _ :: _ => some []
  | [], [] => none

/-- What follows a comma and `found:`. -/
def afterFound? (cs : List Char) : Option (List Char) :=
  match cs with
  | ',' :: rest => (Text.dropPrefix? "found:".toList (skipBlanks rest)).bind foundAfter?
  | _ => none

/-- The description and what was found, the description being as short as can be. `read` holds the
characters of the description so far, the last one first. -/
def splitFound? (read : List Char) : List Char → Option (List Char × List Char)
  | [] => none
  | c :: rest =>
    match (if read.isEmpty then none else afterFound? (c :: rest)) with
    | some found => some (read.reverse, found)
    | none => splitFound? (c :: read) rest

/-- The description and what was found, after `Expected:`. White space does not belong to the
description unless there is nothing else that could. -/
def afterExpected? (cs : List Char) : Option (List Char × List Char) :=
  match cs.takeWhile Text.isBlank, splitFound? [] (skipBlanks cs) with
  | _, some split => some split
  | [], none => none
  | blanks, none => (afterFound? (skipBlanks cs)).map (blanks, ·)

/-- What was expected and what was found, according to a message. -/
def expectation? : List Char → Option (List Char × List Char)
  | [] => none
  | c :: rest =>
    match (Text.dropPrefix? "Expected:".toList (c :: rest)).bind afterExpected? with
    | some (description, found) => some (Text.trim description, Text.trim found)
    | none => expectation? rest

/-- The tokens that start a statement. -/
def statementStarts : List String := ["SELECT", "INSERT", "UPDATE", "DELETE", "WITH"]

/-- The tokens that may follow a statement that could also be over. -/
def statementContinuations : List String :=
  ["FROM", "WHERE", "GROUP", "ORDER", "HAVING", "LIMIT", "UNION"]

/-- Upper-case words of a description that are no keywords. -/
def descriptionNoise : List String := ["SQL", "EOF"]

/-- Punctuation of ASCII. -/
def isPunctuation (c : Char) : Bool :=
  let n := c.toNat
  (33 ≤ n && n ≤ 47) || (58 ≤ n && n ≤ 64) || (91 ≤ n && n ≤ 96) || (123 ≤ n && n ≤ 126)

/-- A word of a description that is a keyword: more than one letter, all upper-case. -/
def isDescribedKeyword (word : List Char) : Bool :=
  1 < word.length && word.all (fun c => c.isUpper || c == '_') &&
    !descriptionNoise.contains (String.ofList word)

/-- The keywords that a description mentions. -/
def describedKeywords (description : List Char) : List String :=
  ((description.splitOnP fun c => !(c.isAlphanum || c == '_')).filter isDescribedKeyword).map
    String.ofList

/-- The tokens that a description stands for: fixed lists for two of them, punctuation as it is,
else the keywords that it mentions; without any, the description itself. -/
def describedTokens (description : List Char) : List Expected :=
  if description = "an SQL statement".toList then statementStarts.map .literal
  else if description = "end of statement".toList then statementContinuations.map .literal
  else if !description.isEmpty && description.all isPunctuation then
    [.literal (String.ofList description)]
  else
    match describedKeywords description with
    | [] => [.other (String.ofList description)]
    | keywords => keywords.map .literal

/-! ## Column names -/

/-- How many parentheses are open at the end of the tokens. -/
def openParens (tokens : List Token) : Nat :=
  tokens.foldl (fun depth t =>
    match t with
    | .symbol .leftParen => depth + 1
    | .symbol .rightParen => depth - 1
    | _ => depth) 0

/-- The token is a keyword that starts the rows of an INSERT. -/
def startsRows (t : Token) : Bool :=
  match t with
  | .word w => w.isOneOf ["VALUES", "SELECT", "DEFAULT"]
  | _ => false

/-- The tokens of an INSERT from its first parenthesis on, if that comes before its rows. -/
def columnList? : List Token → Option (List Token)
  | [] => none
  | t :: rest =>
    if t = .symbol .leftParen then some (t :: rest)
    else if startsRows t then none
    else columnList? rest

/-- The text ends where a column of an INSERT is named. -/
def inInsertColumns (tokens : List Token) : Bool :=
  match columnList? tokens with
  | none => false
  | some rest =>
    0 < openParens rest &&
      match tokens.getLast? with
      | some (.word _) | some (.symbol .comma) | some (.symbol .leftParen) => true
      | _ => false

/-- Where an UPDATE stands after some of its tokens. -/
structure AssignmentState where
  depth : Nat := 0
  afterSet : Bool := false
  /-- The assignment has its equals sign. -/
  assigned : Bool := false

/-- The text ends in the target of an assignment of an UPDATE. -/
def inAssignmentTarget (s : AssignmentState) : List Token → Bool
  | [] => s.afterSet && !s.assigned
  | t :: rest =>
    match t with
    | .symbol .leftParen => inAssignmentTarget { s with depth := s.depth + 1 } rest
    | .symbol .rightParen => inAssignmentTarget { s with depth := s.depth - 1 } rest
    | .symbol .comma =>
      inAssignmentTarget
        (if s.depth = 0 && s.afterSet then { s with assigned := false } else s) rest
    | .symbol .equal =>
      inAssignmentTarget
        (if s.depth = 0 && s.afterSet then { s with assigned := true } else s) rest
    | .word w =>
      if s.depth = 0 && w.quote.isNone && w.isKeyword "SET" then
        inAssignmentTarget { s with afterSet := true, assigned := false } rest
      else if s.depth = 0 && s.afterSet && w.quote.isNone &&
          w.isOneOf ["WHERE", "FROM", "RETURNING"] then false
      else inAssignmentTarget s rest
    | _ => inAssignmentTarget s rest

/-- The text ends where a column is named. -/
def inColumnName (tokens : List Token) : Bool :=
  match tokens with
  | .word w :: _ =>
    if w.isKeyword "INSERT" then inInsertColumns tokens
    else if w.isKeyword "UPDATE" then inAssignmentTarget {} tokens
    else false
  | _ => false

/-- The text is `INSERT` and a word that is not `INTO`. -/
def isInsertWithoutInto (tokens : List Token) : Bool :=
  match tokens with
  | [.word i, .word w] => i.isKeyword "INSERT" && w.quote.isNone && !w.isKeyword "INTO"
  | _ => false

/-- The token is a name: a word that is quoted or no keyword. -/
def isNameToken (t : Token) : Bool :=
  match t with
  | .word w => w.quote.isSome || w.keyword.isNone
  | _ => false

/-! ## Quotes -/

/-- What a character of a text stands in. -/
inductive QuoteState where
  | code
  | quoted (q : Char)
  | lineComment
  | blockComment

/-- The quote that is still open at the end of a text. A doubled quote does not close it. -/
def openQuoteFrom : QuoteState → List Char → Option Char
  | .quoted q, [] => some q
  | _, [] => none
  | .code, '-' :: '-' :: rest => openQuoteFrom .lineComment ('-' :: rest)
  | .code, '/' :: '*' :: rest => openQuoteFrom .blockComment rest
  | .code, c :: rest =>
    if c = '\'' || c = '"' || c = '`' then openQuoteFrom (.quoted c) rest
    else openQuoteFrom .code rest
  | .quoted q, c :: rest =>
    if c = q then
      match rest with
      | d :: more =>
        if d = q then openQuoteFrom (.quoted q) more else openQuoteFrom .code (d :: more)
      | [] => none
    else openQuoteFrom (.quoted q) rest
  | .lineComment, c :: rest => openQuoteFrom (if c = '\n' then .code else .lineComment) rest
  | .blockComment, '*' :: '/' :: rest => openQuoteFrom .code rest
  | .blockComment, _ :: rest => openQuoteFrom .blockComment rest

/-- The quote that is still open at the end of a text. -/
def openQuote? (text : List Char) : Option Char :=
  openQuoteFrom .code text

/-! ## Errors -/

/-- The error of a text that holds no statement. -/
def missingStatement (text : String) : SyntaxError where
  message := "Expected: an SQL statement, found: EOF"
  expected := statementStarts.map .literal
  location := endLocation text.toList

/-- The error of a text that cannot be divided into tokens. If that is for an open quote, the quote
is what is expected. -/
def lexFailure (text : String) (e : LexError) : SyntaxError where
  message := e.text
  expected := (openQuote? text.toList).toList.map fun q => .literal (String.singleton q)
  location := errorLocation text.toList e.text.toList

/-- The tokens that are expected after a text besides those that the message describes: `INTO` after
`INSERT`, and a dot after a name at the end. -/
def furtherTokens (tokens : List Token) (found : List Char) : List Expected :=
  (if isInsertWithoutInto tokens then [.literal "INTO"] else []) ++
    (if found = "EOF".toList && (tokens.getLast?.map isNameToken).getD false then [.literal "."]
      else [])

/-- The error of a text that the grammar rejects with a message. -/
def grammarFailure (text : String) (tokens : List Token) (message : String) : SyntaxError :=
  let location := errorLocation text.toList message.toList
  if inColumnName tokens then { message := columnNameExpected, expected := [], location }
  else
    match expectation? message.toList with
    | none => { message, expected := [], location }
    | some (description, found) =>
      { message, expected := describedTokens description ++ furtherTokens tokens found, location }

end SqlCompletion.Sql
