import SqlCompletion.Sql.Token.Quoted
import SqlCompletion.Text.Numeric

/-!
# One token

`scan` finds the token at the front of a text and says how many characters it takes. What a
character starts depends on the dialect, and for a dot also on the token before it.

## Operators

An operator is the longest symbol at the front. In a dialect in which users can define operators,
the characters of operators that follow make the token an operator of its own.
-/

namespace SqlCompletion.Sql

/-- A token and how many characters it takes, or a message and after how many characters it
applies. -/
abbrev ScanResult := Except (String × Nat) (Token × Nat)

/-! ## Words and numbers -/

/-- The token of an unquoted word. -/
def wordToken (chars : List Char) : Token :=
  .word { value := String.ofList chars, keyword := Keyword.ofWord? chars }

/-- A word that starts with the characters `start`. -/
def scanWord (d : Dialect) (start rest : List Char) : ScanResult :=
  let chars := start ++ rest.takeWhile d.isWordPart
  .ok (wordToken chars, chars.length)

/-- The character belongs to a number. -/
def isNumberPart (c : Char) : Bool := c.isDigit || c == '.'

/-- A word that starts with the characters `start`; one of digits alone is a number. -/
def scanWordOrNumber (d : Dialect) (start rest : List Char) : ScanResult :=
  let chars := start ++ rest.takeWhile d.isWordPart
  if chars.all isNumberPart then
    let more := (rest.dropWhile d.isWordPart).takeWhile isNumberPart
    .ok (.number (String.ofList (chars ++ more)) false, chars.length + more.length)
  else .ok (wordToken chars, chars.length)

/-- A word in quotes, `rest` being what follows the opening quote. -/
def scanQuotedWord (q : Char) (rest : List Char) : ScanResult :=
  match doubledQuote? (closingQuote q) [] 0 rest with
  | some (value, n) => .ok (.word { value := String.ofList value, quote := some q }, n + 1)
  | none =>
    .error ("Expected close delimiter '" ++ String.singleton (closingQuote q) ++ "' before EOF.", 0)

/-- A word in brackets that stands in double quotes inside them; the quotes belong to its value. -/
def scanBracketedQuotes (rest : List Char) : ScanResult :=
  let blanks := rest.takeWhile Text.isBlank
  match doubledQuote? '"' [] 0 (rest.drop (blanks.length + 1)) with
  | none => .error ("Expected close delimiter '\"' before EOF.", blanks.length + 1)
  | some (value, n) =>
    let after := rest.drop (blanks.length + 1 + n)
    let more := after.takeWhile Text.isBlank
    match after.drop more.length with
    | ']' :: _ =>
      .ok (.word { value := "\"" ++ String.ofList value ++ "\"", quote := some '[' },
        blanks.length + n + more.length + 3)
    | _ => .error ("Expected close delimiter ']' before EOF.", 0)

/-- A hexadecimal digit. -/
def isHexDigit (c : Char) : Bool := (Json.hexValue? c).isSome

/-- The digits at the front of a text. Where underscores separate digits, one belongs to them if a
hexadecimal digit follows it. -/
def digitRun (d : Dialect) (isDigit : Char → Bool) : List Char → List Char
  | [] => []
  | c :: rest =>
    let separates := d.digitSeparators && c == '_' && (rest.head?.map isHexDigit).getD false
    if isDigit c || separates then c :: digitRun d isDigit rest else []

/-- The character starts an exponent. -/
def startsExponent (cs : List Char) : Bool :=
  cs.head? == some 'e' || cs.head? == some 'E'

/-- The exponent at the front of a text, if there is one. -/
def exponentChars : List Char → List Char
  | e :: rest =>
    if startsExponent [e] then
      match rest with
      | sign :: more =>
        if sign = '+' || sign = '-' then
          let ds := more.takeWhile Char.isDigit
          if ds.isEmpty then [] else e :: sign :: ds
        else
          let ds := rest.takeWhile Char.isDigit
          if ds.isEmpty then [] else e :: ds
      | [] => []
    else []
  | [] => []

/-- The token before is a word. -/
def isWord : Option Token → Bool
  | some (.word _) => true
  | _ => false

/-- A number that starts with `chars`, `rest` being what follows. It may have an exponent and end in
`L`. Where digits start words, it may be a word: together with what follows, unless that starts like
an exponent, or by itself after a dot. -/
def finishNumber (d : Dialect) (prev : Option Token) (chars rest : List Char) : ScanResult :=
  let part := rest.takeWhile d.isWordPart
  let number := chars ++ exponentChars rest
  if d.digitsStartWords && !startsExponent rest && !part.isEmpty then
    .ok (wordToken (chars ++ part), chars.length + part.length)
  else if d.digitsStartWords && startsExponent rest && prev == some (.symbol .period) then
    .ok (wordToken number, number.length)
  else
    match rest.drop (number.length - chars.length) with
    | 'L' :: _ => .ok (.number (String.ofList number) true, number.length + 1)
    | _ => .ok (.number (String.ofList number) false, number.length)

/-- A number, or a dot that does not start one. -/
def scanNumber (d : Dialect) (prev : Option Token) (cs : List Char) : ScanResult :=
  if cs.take 2 == ['.', '_'] then
    if isWord prev then .ok (.symbol .period, 1) else .error ("Unexpected character '_'", 0)
  else
    let whole := digitRun d Char.isDigit cs
    let rest := cs.drop whole.length
    if whole == ['0'] && rest.head? == some 'x' then
      let ds := digitRun d isHexDigit (rest.drop 1)
      .ok (.string .hex (String.ofList ds), ds.length + 2)
    else
      match rest with
      | '.' :: rest =>
        let fraction := digitRun d Char.isDigit rest
        let isDot := whole.isEmpty && (fraction.isEmpty || (d.digitsStartWords && isWord prev))
        if isDot then .ok (.symbol .period, 1)
        else finishNumber d prev (whole ++ '.' :: fraction) (rest.drop fraction.length)
      | rest => finishNumber d prev whole rest

/-! ## Strings -/

/-- A string whose opening quote is the first of `cs`, after `skip` characters. -/
def scanString (d : Dialect) (escapes : Bool) (q : Char) (lead : String) (skip : Nat)
    (cs : List Char) : ScanResult :=
  match stringBody? d escapes q (cs.drop 1) with
  | some (value, n) =>
    let q := String.singleton q
    .ok (.string ⟨lead ++ q, q⟩ (String.ofList value), skip + 1 + n)
  | none => .error ("Unterminated string literal", skip)

/-- A string in one or three quotes. Of two quotes it is empty. -/
def scanOneOrThree (d : Dialect) (escapes : Bool) (q : Char) (lead : String) (skip : Nat)
    (cs : List Char) : ScanResult :=
  let s := String.singleton q
  match ((cs.take 3).takeWhile (· == q)).length with
  | 2 => .ok (.string ⟨lead ++ s, s⟩ "", skip + 2)
  | 3 =>
    match tripleQuote? q escapes d.keepsWildcardEscapes [] 0 (cs.drop 3) with
    | some (value, n) =>
      .ok (.string ⟨lead ++ s ++ s ++ s, s ++ s ++ s⟩ (String.ofList value), skip + 3 + n)
    | none => .error ("Unterminated string literal", skip + 3)
  | _ =>
    match stringBody? d escapes q (cs.drop 1) with
    | some (value, n) => .ok (.string ⟨lead ++ s, s⟩ (String.ofList value), skip + 1 + n)
    | none => .error ("Unterminated string literal", skip + 1)

/-- A string without a letter before it. -/
def scanPlainString (d : Dialect) (q : Char) (cs : List Char) : ScanResult :=
  if d.tripleQuotes then scanOneOrThree d d.backslashEscapes q "" 0 cs
  else scanString d d.backslashEscapes q "" 0 cs

/-- A text in dollar signs, or a placeholder; `cs` starts with the dollar sign. -/
def scanDollar (d : Dialect) (cs : List Char) : ScanResult :=
  let rest := cs.drop 1
  if d.dollarPlaceholders then
    let name := rest.takeWhile fun c =>
      Text.isAlphabetic c || Text.isNumeric c || c == '_' || c == '$'
    .ok (.placeholder (String.ofList ('$' :: name)), name.length + 1)
  else if rest.head? == some '$' then
    match dollarBody? false [] 0 (rest.drop 1) with
    | some (value, n) => .ok (.string ⟨"$$", "$$"⟩ (String.ofList value), n + 2)
    | none => .error ("Unterminated dollar-quoted string", cs.length)
  else
    let name := rest.takeWhile fun c => Text.isAlphabetic c || Text.isNumeric c || c == '_'
    let after := rest.drop name.length
    if after.head? == some '$' then
      let tag := '$' :: name ++ ['$']
      match taggedBody? tag [] 0 (after.drop 1) with
      | some (value, n) =>
        .ok (.string ⟨String.ofList tag, String.ofList tag⟩ (String.ofList value), tag.length + n)
      | none => .error ("Unterminated dollar-quoted, expected $", cs.length)
    else .ok (.placeholder (String.ofList ('$' :: name)), name.length + 1)

/-! ## Comments -/

/-- A comment up to the end of its line, `start` being how many characters open it. -/
def scanLineComment (d : Dialect) (start : Nat) (cs : List Char) : ScanResult :=
  let body := (cs.drop start).takeWhile fun c => !(c == '\n' || (c == '\r' && d == .postgres))
  let n := min (start + body.length + 1) cs.length
  .ok (.blank (String.ofList (cs.take n)), n)

/-- The number of characters up to the end of a comment that is `depth + 1` deep. -/
def blockComment? (nested : Bool) (depth n : Nat) : List Char → Option Nat
  | [] => none
  | '/' :: '*' :: rest =>
    if nested then blockComment? nested (depth + 1) (n + 2) rest
    else blockComment? nested depth (n + 1) ('*' :: rest)
  | '*' :: '/' :: rest =>
    match depth with
    | 0 => some (n + 2)
    | depth + 1 => blockComment? nested depth (n + 2) rest
  | _ :: rest => blockComment? nested depth (n + 1) rest

/-- A comment between `/*` and `*/`. -/
def scanBlockComment (d : Dialect) (cs : List Char) : ScanResult :=
  match blockComment? d.nestedComments 0 2 (cs.drop 2) with
  | some n => .ok (.blank (String.ofList (cs.take n)), n)
  | none => .error ("Unexpected EOF while in a multi-line comment", cs.length)

/-! ## Operators -/

/-- A symbol that nothing extends. -/
def plain (s : Symbol) : ScanResult :=
  .ok (.symbol s, s.text.length)

/-- A symbol, written with `n` characters before `rest`, that characters of operators extend. -/
def extensibleAs (d : Dialect) (s : Symbol) (n : Nat) (rest : List Char) : ScanResult :=
  let more := rest.takeWhile d.isOperatorPart
  if more.isEmpty then .ok (.symbol s, n)
  else .ok (.operator (s.text ++ String.ofList more), n + more.length)

/-- A symbol at the front of `cs` that characters of operators extend. -/
def extensible (d : Dialect) (s : Symbol) (cs : List Char) : ScanResult :=
  extensibleAs d s s.text.length (cs.drop s.text.length)

/-- A symbol with the character after it, whatever that is. -/
def greedy (s : Symbol) (cs : List Char) : ScanResult :=
  .ok (.symbol s, min (s.text.length + 1) cs.length)

/-- The beginning of an operator that is none by itself. -/
def unfinished (d : Dialect) (start : String) (cs : List Char) : ScanResult :=
  let n := start.length
  let more := (cs.drop n).takeWhile d.isOperatorPart
  if more.isEmpty then .error ("Expected a valid binary operator after '" ++ start ++ "'", n)
  else .ok (.operator (start ++ String.ofList more), n + more.length)

/-- A token that starts with `-`. -/
def scanMinus (d : Dialect) (cs : List Char) : ScanResult :=
  match cs with
  | '-' :: '-' :: rest =>
    if !d.dashesNeedSpace || rest.head? == some ' ' then scanLineComment d 2 cs
    else extensible d .minus cs
  | '-' :: '>' :: '>' :: _ => extensible d .longArrow cs
  | '-' :: '>' :: _ => extensible d .arrow cs
  | _ => extensible d .minus cs

/-- A token that starts with `/`. -/
def scanSlash (d : Dialect) (cs : List Char) : ScanResult :=
  match cs with
  | '/' :: '*' :: _ => scanBlockComment d cs
  | '/' :: '/' :: _ =>
    if d.slashComments then scanLineComment d 2 cs
    else if d.integerDivision then plain .doubleSlash
    else plain .slash
  | _ => plain .slash

/-- A token that starts with `|`. -/
def scanPipe (d : Dialect) (cs : List Char) : ScanResult :=
  match cs with
  | '|' :: '/' :: _ => extensible d .pipeSlash cs
  | '|' :: '|' :: '/' :: _ => extensible d .doublePipeSlash cs
  | '|' :: '|' :: _ => extensible d .doublePipe cs
  | '|' :: '&' :: rest =>
    if d.shapeOperators then
      if rest.head? == some '>' then extensible d .pipeAmpersandGreater cs
      else unfinished d "|&" cs
    else extensible d .pipe cs
  | '|' :: '>' :: rest =>
    if d.shapeOperators then
      if rest.head? == some '>' then extensible d .pipeShiftRight cs else unfinished d "|>" cs
    else if d.pipeOperator then extensible d .pipeGreater cs
    else extensible d .pipe cs
  | _ => extensible d .pipe cs

/-- A token that starts with `!`. -/
def scanBang (cs : List Char) : ScanResult :=
  match cs with
  | '!' :: '=' :: _ => plain .notEqual
  | '!' :: '!' :: _ => plain .doubleBang
  | '!' :: '~' :: '*' :: _ => plain .bangTildeStar
  | '!' :: '~' :: '~' :: '*' :: _ => plain .bangDoubleTildeStar
  | '!' :: '~' :: '~' :: _ => plain .bangDoubleTilde
  | '!' :: '~' :: _ => plain .bangTilde
  | _ => plain .bang

/-- A token that starts with `<`. -/
def scanLess (d : Dialect) (cs : List Char) : ScanResult :=
  match cs with
  | '<' :: '=' :: '>' :: _ => extensible d .spaceship cs
  | '<' :: '=' :: _ => extensible d .lessEqual cs
  | '<' :: '>' :: _ => extensible d .notEqual cs
  | '<' :: '<' :: '|' :: _ =>
    if d.shapeOperators then extensible d .shiftLeftPipe cs else extensible d .shiftLeft cs
  | '<' :: '|' :: rest =>
    if d.shapeOperators then extensibleAs d .shiftLeftPipe 2 rest else extensible d .less cs
  | '<' :: '<' :: _ => extensible d .shiftLeft cs
  | '<' :: '-' :: rest =>
    if d.shapeOperators then
      if rest.head? == some '>' then extensible d .twoWayArrow cs else unfinished d "<-" cs
    else extensible d .less cs
  | '<' :: '^' :: _ =>
    if d.shapeOperators then extensible d .lessCaret cs else extensible d .less cs
  | '<' :: '@' :: _ => extensible d .lessAt cs
  | _ => extensible d .less cs

/-- A token that starts with `>`. -/
def scanGreater (d : Dialect) (cs : List Char) : ScanResult :=
  match cs with
  | '>' :: '=' :: _ => extensible d .greaterEqual cs
  | '>' :: '>' :: _ => extensible d .shiftRight cs
  | '>' :: '^' :: _ =>
    if d.shapeOperators then extensible d .greaterCaret cs else extensible d .greater cs
  | _ => extensible d .greater cs

/-- A token that starts with `&`. -/
def scanAmpersand (d : Dialect) (cs : List Char) : ScanResult :=
  match cs with
  | '&' :: '&' :: _ => extensible d .doubleAmpersand cs
  | '&' :: '>' :: _ =>
    if d.shapeOperators then greedy .ampersandGreater cs else extensible d .ampersand cs
  | '&' :: '<' :: rest =>
    if d.shapeOperators then
      if rest.head? == some '|' then plain .ampersandLessPipe else extensible d .ampersandLess cs
    else extensible d .ampersand cs
  | _ => extensible d .ampersand cs

/-- A token that starts with `~`. -/
def scanTilde (d : Dialect) (cs : List Char) : ScanResult :=
  match cs with
  | '~' :: '*' :: _ => extensible d .tildeStar cs
  | '~' :: '=' :: _ =>
    if d.shapeOperators then extensible d .tildeEqual cs else extensible d .tilde cs
  | '~' :: '~' :: '*' :: _ => extensible d .doubleTildeStar cs
  | '~' :: '~' :: _ => extensible d .doubleTilde cs
  | _ => extensible d .tilde cs

/-- A token that starts with `#`: an operator, or a word where `#` starts words. -/
def scanHash (d : Dialect) (cs : List Char) : ScanResult :=
  if d.hashComments then scanLineComment d 1 cs
  else
    match cs with
    | '#' :: '-' :: _ => extensible d .hashMinus cs
    | '#' :: '>' :: '>' :: _ => extensible d .hashLongArrow cs
    | '#' :: '>' :: _ => extensible d .hashArrow cs
    | '#' :: ' ' :: _ => plain .hash
    | '#' :: c :: rest =>
      if c == '#' && d.shapeOperators then extensible d .doubleHash cs
      else if d.isWordStart '#' then scanWordOrNumber d ['#', c] rest
      else extensible d .hash cs
    | _ => extensible d .hash cs

/-- A token that starts with `@`: an operator, or a word where `@` starts words. -/
def scanAt (d : Dialect) (cs : List Char) : ScanResult :=
  match cs with
  | '@' :: '>' :: _ => extensible d .atArrow cs
  | '@' :: '?' :: _ => extensible d .atQuestion cs
  | '@' :: '-' :: rest =>
    if d.shapeOperators then
      if rest.head? == some '@' then plain .atDashAt else unfinished d "@-" cs
    else if d.isWordStart '@' then scanWordOrNumber d ['@', '-'] rest
    else extensible d .atSign cs
  | '@' :: '@' :: rest =>
    if d.shapeOperators then plain .doubleAt
    else
      match rest with
      | ' ' :: _ => plain .doubleAt
      | c :: rest =>
        if d.isWordStart '@' then scanWordOrNumber d ['@', '@', c] rest
        else extensible d .doubleAt cs
      | [] => extensible d .doubleAt cs
  | '@' :: c :: rest =>
    if c == ' ' || c == '\'' || c == '"' || c == '`' then plain .atSign
    else if d.isWordStart '@' then scanWordOrNumber d ['@', c] rest
    else extensible d .atSign cs
  | _ => extensible d .atSign cs

/-- A token that starts with `?`. -/
def scanQuestion (d : Dialect) (cs : List Char) : ScanResult :=
  if d.shapeOperators then
    match cs with
    | '?' :: '|' :: '|' :: _ => plain .questionDoublePipe
    | '?' :: '|' :: _ => plain .questionPipe
    | '?' :: '&' :: _ => plain .questionAnd
    | '?' :: '-' :: '|' :: _ => plain .questionDashPipe
    | '?' :: '-' :: _ => plain .questionDash
    | '?' :: '#' :: _ => plain .questionHash
    | _ => greedy .question cs
  else
    let digits := (cs.drop 1).takeWhile Text.isNumeric
    .ok (.placeholder (String.ofList ('?' :: digits)), digits.length + 1)

/-- A token that starts with `%`. -/
def scanPercent (d : Dialect) (cs : List Char) : ScanResult :=
  match cs with
  | '%' :: c :: _ => if Text.isBlank c then plain .percent else extensible d .percent cs
  | _ => extensible d .percent cs

/-- A token that starts with punctuation, if the character starts nothing else. -/
def scanSymbol? (d : Dialect) (cs : List Char) : Option ScanResult :=
  match cs with
  | '(' :: _ => some (plain .leftParen)
  | ')' :: _ => some (plain .rightParen)
  | ',' :: _ => some (plain .comma)
  | ';' :: _ => some (plain .semicolon)
  | '\\' :: _ => some (plain .backslash)
  | '[' :: _ => some (plain .leftBracket)
  | ']' :: _ => some (plain .rightBracket)
  | '\x7b' :: _ => some (plain .leftBrace)
  | '\x7d' :: _ => some (plain .rightBrace)
  | '-' :: _ => some (scanMinus d cs)
  | '/' :: _ => some (scanSlash d cs)
  | '+' :: _ => some (plain .plus)
  | '*' :: _ => some (plain .star)
  | '%' :: _ => some (scanPercent d cs)
  | '|' :: _ => some (scanPipe d cs)
  | '=' :: '>' :: _ => some (plain .fatArrow)
  | '=' :: '=' :: _ => some (plain .doubleEqual)
  | '=' :: _ => some (plain .equal)
  | '!' :: _ => some (scanBang cs)
  | '<' :: _ => some (scanLess d cs)
  | '>' :: _ => some (scanGreater d cs)
  | ':' :: ':' :: _ => some (plain .doubleColon)
  | ':' :: '=' :: _ => some (plain .colonEqual)
  | ':' :: _ => some (plain .colon)
  | '&' :: _ => some (scanAmpersand d cs)
  | '^' :: '@' :: _ => some (plain .caretAt)
  | '^' :: _ => some (plain .caret)
  | '~' :: _ => some (scanTilde d cs)
  | '#' :: _ => some (scanHash d cs)
  | '@' :: _ => some (scanAt d cs)
  | '?' :: _ => some (scanQuestion d cs)
  | _ => none

/-! ## Letters that can open a string -/

/-- A letter that opens a string where a quote follows it, and a word otherwise. -/
def scanLetter? (d : Dialect) (c : Char) (rest : List Char) : Option ScanResult :=
  let word := scanWord d [c] rest
  match c, rest.head? with
  | 'b', q | 'B', q =>
    if !d.byteStrings then none
    else
      match q with
      | some '\'' =>
        some (if d.tripleQuotes then scanOneOrThree d false '\'' "B" 1 rest
          else scanString d false '\'' "B" 1 rest)
      | some '"' =>
        some (if d.tripleQuotes then scanOneOrThree d false '"' "B" 1 rest
          else scanString d false '"' "B" 1 rest)
      | _ => some word
  | 'r', q | 'R', q =>
    if !d.rawStrings then none
    else
      match q with
      | some '\'' => some (scanOneOrThree d false '\'' "R" 1 rest)
      | some '"' => some (scanOneOrThree d false '"' "R" 1 rest)
      | _ => some word
  | 'n', some '\'' | 'N', some '\'' => some (scanString d d.backslashEscapes '\'' "N" 1 rest)
  | 'n', _ | 'N', _ => some word
  | 'e', q | 'E', q =>
    if !d.escapeStrings then none
    else if q == some '\'' then
      match numericString? (rest.length + 1) [] 0 (rest.drop 1) with
      | some (value, n) => some (.ok (.string .escaped (String.ofList value), n + 2))
      | none => some (.error ("Unterminated encoded string literal", 0))
    else some word
  | 'u', _ | 'U', _ =>
    if !d.unicodeStrings then none
    else if rest.take 2 == ['&', '\''] then
      match codePointString (rest.length + 1) [] 0 (rest.drop 2) with
      | .ok (value, n) => some (.ok (.string .unicode (String.ofList value), n + 3))
      | .error (message, n) => some (.error (message, n + 3))
    else some word
  | 'x', some '\'' | 'X', some '\'' => some (scanString d true '\'' "X" 1 rest)
  | 'x', _ | 'X', _ => some word
  | _, _ => none

/-! ## Tokens -/

/-- White space that is written with one character, or with a carriage return and a line feed. -/
def scanBlank? : List Char → Option ScanResult
  | '\r' :: '\n' :: _ => some (.ok (.blank "\n", 2))
  | '\r' :: _ => some (.ok (.blank "\n", 1))
  | ' ' :: _ => some (.ok (.blank " ", 1))
  | '\t' :: _ => some (.ok (.blank "\t", 1))
  | '\n' :: _ => some (.ok (.blank "\n", 1))
  | _ => none

/-- A word in brackets, where brackets quote plain words only. -/
def scanBrackets? (d : Dialect) (rest : List Char) : Option ScanResult :=
  match rest.dropWhile Text.isBlank with
  | '"' :: _ => some (scanBracketedQuotes rest)
  | c :: _ => if d.isWordStart c then some (scanQuotedWord '[' rest) else none
  | [] => none

/-- Text in quotes, if the character is a quote. -/
def scanQuote? (d : Dialect) (c : Char) (rest : List Char) : Option ScanResult :=
  if c == '\'' then some (scanPlainString d '\'' (c :: rest))
  else if c == '"' && !d.isQuote c then some (scanPlainString d '"' (c :: rest))
  else if d.isQuote c then some (scanQuotedWord c rest)
  else if c == '[' && d.quotesInBrackets then scanBrackets? d rest
  else none

/-- A token that starts with none of the characters that have a meaning in every dialect. -/
def scanOther (d : Dialect) (c : Char) (rest : List Char) : ScanResult :=
  if d.isWordStart c then scanWordOrNumber d [c] rest
  else if c == '$' then scanDollar d (c :: rest)
  else if Text.isBlank c then .ok (.blank " ", 1)
  else .ok (.stray c, 1)

/-- The token at the front of the text `c :: rest`, `prev` being the token before it. -/
def scan (d : Dialect) (prev : Option Token) (c : Char) (rest : List Char) : ScanResult :=
  match scanBlank? (c :: rest) with
  | some r => r
  | none =>
    match scanLetter? d c rest with
    | some r => r
    | none =>
      match scanQuote? d c rest with
      | some r => r
      | none =>
        if c.isDigit || c == '.' then scanNumber d prev (c :: rest)
        else
          match scanSymbol? d (c :: rest) with
          | some r => r
          | none => scanOther d c rest

end SqlCompletion.Sql
