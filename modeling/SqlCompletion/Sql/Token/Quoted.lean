import SqlCompletion.Json.Reader
import SqlCompletion.Sql.Dialect
import SqlCompletion.Sql.Token

/-!
# Quoted words and strings

Scanners for everything that stands in quotes. Each starts after the opening quote and gives the
value together with the number of characters up to and including the closing quote, or nothing when
the text ends first.
-/

namespace SqlCompletion.Sql

/-- The value of a quoted text and how many characters it takes. -/
abbrev Scanned := List Char × Nat

/-- A text up to a closing quote; a doubled quote stands for one. `read` holds the characters so
far, the last one first, and `n` how many were taken. -/
def doubledQuote? (close : Char) (read : List Char) (n : Nat) : List Char → Option Scanned
  | [] => none
  | c :: rest =>
    if c = close then
      match rest with
      | [] => some (read.reverse, n + 1)
      | d :: rest =>
        if d = close then doubledQuote? close (close :: read) (n + 2) rest
        else some (read.reverse, n + 1)
    else doubledQuote? close (c :: read) (n + 1) rest

/-- The character that a letter after a backslash stands for. -/
def backslashChar (c : Char) : Char :=
  match c with
  | '0' => '\x00'
  | 'a' => '\x07'
  | 'b' => '\x08'
  | 'f' => '\x0c'
  | 'n' => '\n'
  | 'r' => '\r'
  | 't' => '\t'
  | 'Z' => '\x1a'
  | c => c

/-- The characters that a backslash and the next character stand for, the last one first. -/
def backslashPair (keepsWildcards : Bool) (c : Char) : List Char :=
  if keepsWildcards && (c == '%' || c == '_') then [c, '\\'] else [backslashChar c]

/-- A text up to a closing quote in which a backslash escapes the next character and a doubled quote
stands for one. -/
def escapedQuote? (close : Char) (keepsWildcards : Bool) (read : List Char) (n : Nat) :
    List Char → Option Scanned
  | [] => none
  | '\\' :: [] => none
  | '\\' :: c :: rest =>
    escapedQuote? close keepsWildcards (backslashPair keepsWildcards c ++ read) (n + 2) rest
  | c :: rest =>
    if c = close then
      match rest with
      | [] => some (read.reverse, n + 1)
      | d :: rest =>
        if d = close then escapedQuote? close keepsWildcards (close :: read) (n + 2) rest
        else some (read.reverse, n + 1)
    else escapedQuote? close keepsWildcards (c :: read) (n + 1) rest

/-- A text up to three closing quotes. -/
def tripleQuote? (close : Char) (escapes keepsWildcards : Bool) (read : List Char) (n : Nat) :
    List Char → Option Scanned
  | [] => none
  | '\\' :: rest =>
    if escapes then
      match rest with
      | [] => none
      | c :: rest =>
        let pair := backslashPair keepsWildcards c
        tripleQuote? close escapes keepsWildcards (pair ++ read) (n + 2) rest
    else tripleQuote? close escapes keepsWildcards ('\\' :: read) (n + 1) rest
  | c :: rest =>
    if c = close && rest.take 2 == [close, close] then some (read.reverse, n + 3)
    else tripleQuote? close escapes keepsWildcards (c :: read) (n + 1) rest

/-- A string after its opening quote, with or without escapes. -/
def stringBody? (d : Dialect) (escapes : Bool) (close : Char) (cs : List Char) : Option Scanned :=
  if escapes then escapedQuote? close d.keepsWildcardEscapes [] 0 cs
  else doubledQuote? close [] 0 cs

/-! ## Escapes by number -/

/-- The number that hexadecimal digits stand for. -/
def hexNumber? (cs : List Char) : Option Nat :=
  cs.foldl (fun n c => do return (← n) * 16 + (← Json.hexValue? c)) (some 0)

/-- The number that hexadecimal digits stand for, which may have a plus sign before them. -/
def signedHexNumber? : List Char → Option Nat
  | '+' :: [] => none
  | '+' :: ds => hexNumber? ds
  | ds => hexNumber? ds

/-- The character with a given number. -/
def charOfNumber? (n : Nat) : Option Char :=
  if h : n.isValidChar then some (Char.ofNatAux n h) else none

/-- A character of ASCII with a number that is not zero. -/
def asciiOfNumber? (n : Nat) : Option Char :=
  if 0 < n % 256 && n % 256 ≤ 127 then some (Char.ofNat (n % 256)) else none

/-- A character given by exactly `count` hexadecimal digits; the first may be a plus sign. -/
def hexChar? (count : Nat) (cs : List Char) : Option (Char × Nat) :=
  let ds := cs.take count
  if ds.length = count then do
    let c ← (signedHexNumber? ds).bind charOfNumber?
    if c = '\x00' then none else return (c, count)
  else none

/-- The value of an octal digit. -/
def isOctal (c : Char) : Bool := '0' ≤ c && c ≤ '7'

/-- The character that an escape after a backslash stands for, and how many characters it takes. -/
def numericEscape? : List Char → Option (Char × Nat)
  | [] => none
  | 'b' :: _ => some ('\x08', 1)
  | 'f' :: _ => some ('\x0c', 1)
  | 'n' :: _ => some ('\n', 1)
  | 'r' :: _ => some ('\r', 1)
  | 't' :: _ => some ('\t', 1)
  | 'u' :: rest => (hexChar? 4 rest).map fun (c, n) => (c, n + 1)
  | 'U' :: rest => (hexChar? 8 rest).map fun (c, n) => (c, n + 1)
  | 'x' :: rest =>
    let ds := (rest.take 2).takeWhile fun c => (Json.hexValue? c).isSome
    if ds.isEmpty then some ('x', 1)
    else do
      let c ← (hexNumber? ds).bind fun n => if n ≤ 127 then asciiOfNumber? n else none
      return (c, ds.length + 1)
  | c :: rest =>
    if isOctal c then do
      let ds := c :: (rest.take 2).takeWhile isOctal
      let c ← asciiOfNumber? (ds.foldl (fun n c => n * 8 + (c.toNat - '0'.toNat)) 0)
      return (c, ds.length)
    else if c = '\x00' then none
    else some (c, 1)

/-- A string with numeric escapes, after its opening quote. -/
def numericString? : (fuel : Nat) → (read : List Char) → (n : Nat) → List Char → Option Scanned
  | 0, _, _, _ => none
  | _, _, _, [] => none
  | fuel + 1, read, n, c :: rest =>
    if c = '\'' then
      match rest with
      | '\'' :: rest => numericString? fuel ('\'' :: read) (n + 2) rest
      | _ => some (read.reverse, n + 1)
    else if c = '\\' then
      match numericEscape? rest with
      | some (c, k) => numericString? fuel (c :: read) (n + 1 + k) (rest.drop k)
      | none => none
    else numericString? fuel (c :: read) (n + 1) rest

/-! ## Escapes by code point -/

/-- A code point of `count` hexadecimal digits: the character, or a message and after how many
characters it applies. -/
def codePoint (count : Nat) (cs : List Char) : Except (String × Nat) Char :=
  let ds := cs.take count
  let good := ds.takeWhile fun c => (Json.hexValue? c).isSome
  match ds.drop good.length with
  | c :: _ =>
    .error ("Invalid hex digit in escaped unicode string: " ++ String.singleton c, good.length + 1)
  | [] =>
    if good.length < count then
      .error ("Unexpected EOF while parsing hex digit in escaped unicode string.", good.length)
    else
      let n := (hexNumber? good).getD 0
      match charOfNumber? n with
      | some c => .ok c
      | none =>
        .error ("Invalid unicode character: " ++ String.ofList (Nat.toDigits 16 n), count)

/-- A string with escapes by code point, after its opening quote. -/
def codePointString : (fuel : Nat) → (read : List Char) → (n : Nat) → List Char →
    Except (String × Nat) Scanned
  | 0, _, n, _ => .error ("Unterminated unicode encoded string literal", n)
  | _, _, n, [] => .error ("Unterminated unicode encoded string literal", n)
  | fuel + 1, read, n, c :: rest =>
    if c = '\'' then
      match rest with
      | '\'' :: rest => codePointString fuel ('\'' :: read) (n + 2) rest
      | _ => .ok (read.reverse, n + 1)
    else if c = '\\' then
      match rest with
      | '\\' :: rest => codePointString fuel ('\\' :: read) (n + 2) rest
      | '+' :: rest =>
        match codePoint 6 rest with
        | .ok c => codePointString fuel (c :: read) (n + 8) (rest.drop 6)
        | .error (message, k) => .error (message, n + 2 + k)
      | rest =>
        match codePoint 4 rest with
        | .ok c => codePointString fuel (c :: read) (n + 5) (rest.drop 4)
        | .error (message, k) => .error (message, n + 1 + k)
    else codePointString fuel (c :: read) (n + 1) rest

/-! ## Dollar quotes -/

/-- A text up to two dollar signs. `dollar` tells whether the character before was a single one. -/
def dollarBody? (dollar : Bool) (read : List Char) (n : Nat) : List Char → Option Scanned
  | [] => none
  | c :: rest =>
    if dollar then
      if c = '$' then some (read.reverse, n + 1)
      else dollarBody? false (c :: '$' :: read) (n + 1) rest
    else if c = '$' then dollarBody? true read (n + 1) rest
    else dollarBody? false (c :: read) (n + 1) rest

/-- A text up to a closing tag. -/
def taggedBody? (close : List Char) (read : List Char) (n : Nat) : List Char → Option Scanned
  | [] => none
  | c :: rest =>
    if (Text.dropPrefix? close (c :: rest)).isSome then some (read.reverse, n + close.length)
    else taggedBody? close (c :: read) (n + 1) rest

end SqlCompletion.Sql
