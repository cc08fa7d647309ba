import SqlCompletion.Json.Basic
import SqlCompletion.Text.Decimal

/-!
# Reading JSON

`parse?` reads a text that is one JSON value with white space around it. A reader of a part takes
the characters that are left and gives back the part and what follows it.

## Parts that nobody asks for

An escape by number may stand for half of a character that never comes. A text with such an escape
cannot be read, but it has a well-formed end, so it can be passed over. `parse?` rejects it, and
`parseLoosely?` keeps it as a value that nothing accepts; the same holds for values that are nested
deeper than `maxNesting`.

## Termination

`value?` recurses on the depth that is left. The elements of one array are read by a loop bounded by
the number of characters.
-/

namespace SqlCompletion.Json

/-- How deep arrays and objects may nest. -/
def maxNesting : Nat := 127

/-- White space between tokens. -/
def isSpace (c : Char) : Bool :=
  c == ' ' || c == '\n' || c == '\t' || c == '\r'

/-- The text without the white space it starts with. -/
def skipSpace (cs : List Char) : List Char :=
  cs.dropWhile isSpace

/-! ## Strings -/

/-- The value of a hexadecimal digit. -/
def hexValue? (c : Char) : Option Nat :=
  if c.isDigit then some (c.toNat - '0'.toNat)
  else if 'a' ≤ c ∧ c ≤ 'f' then some (c.toNat - 'a'.toNat + 10)
  else if 'A' ≤ c ∧ c ≤ 'F' then some (c.toNat - 'A'.toNat + 10)
  else none

/-- Four hexadecimal digits. -/
def hexQuad? : List Char → Option (Nat × List Char)
  | a :: b :: c :: d :: rest => do
    let a ← hexValue? a
    let b ← hexValue? b
    let c ← hexValue? c
    let d ← hexValue? d
    return (((a * 16 + b) * 16 + c) * 16 + d, rest)
  | _ => none

/-- The character of a `\u` escape, read after the `u`. A high surrogate needs the escape of a low
one right behind it, and a low surrogate cannot stand alone. -/
def unicodeEscape? (cs : List Char) : Option (Char × List Char) := do
  let (high, rest) ← hexQuad? cs
  if 0xd800 ≤ high ∧ high ≤ 0xdbff then
    match rest with
    | '\\' :: 'u' :: rest =>
      let (low, rest) ← hexQuad? rest
      if 0xdc00 ≤ low ∧ low ≤ 0xdfff then
        return (Char.ofNat (0x10000 + (high - 0xd800) * 0x400 + (low - 0xdc00)), rest)
      else none
    | _ => none
  else if 0xdc00 ≤ high ∧ high ≤ 0xdfff then none
  else return (Char.ofNat high, rest)

/-- The character of an escape, read after the backslash. Four hexadecimal digits that stand for no
character are passed over without one. -/
def escape? : List Char → Option (Option Char × List Char)
  | '"' :: rest => some ('"', rest)
  | '\\' :: rest => some ('\\', rest)
  | '/' :: rest => some ('/', rest)
  | 'b' :: rest => some ('\x08', rest)
  | 'f' :: rest => some ('\x0c', rest)
  | 'n' :: rest => some ('\n', rest)
  | 'r' :: rest => some ('\r', rest)
  | 't' :: rest => some ('\t', rest)
  | 'u' :: rest =>
    match unicodeEscape? rest with
    | some (c, rest) => some (c, rest)
    | none => (hexQuad? rest).map fun (_, rest) => (none, rest)
  | _ => none

/-- The rest of a string after its opening quote; `read` holds the characters so far, the last one
first, unless there was one that cannot be read. -/
def stringRest? : (fuel : Nat) → (read : Option (List Char)) → List Char →
    Option (Option String × List Char)
  | 0, _, _ => none
  | fuel + 1, read, cs =>
    let push (c : Option Char) : Option (List Char) := do return (← c) :: (← read)
    match cs with
    | '"' :: rest => some (read.map fun read => String.ofList read.reverse, rest)
    | '\\' :: rest => do
      let (c, rest) ← escape? rest
      stringRest? fuel (push c) rest
    | c :: rest => if c.toNat < 0x20 then none else stringRest? fuel (push c) rest
    | [] => none

/-! ## Numbers -/

/-- The digits at the front of a text and what follows them. -/
def digits (cs : List Char) : List Char × List Char :=
  (cs.takeWhile Char.isDigit, cs.dropWhile Char.isDigit)

/-- The fraction of a number, if there is one. -/
def fraction? : List Char → Option (List Char × List Char)
  | '.' :: rest =>
    match digits rest with
    | ([], _) => none
    | (ds, rest) => some ('.' :: ds, rest)
  | cs => some ([], cs)

/-- The sign of an exponent, if there is one. -/
def exponentSign : List Char → List Char × List Char
  | '+' :: rest => (['+'], rest)
  | '-' :: rest => (['-'], rest)
  | cs => ([], cs)

/-- The exponent of a number, if there is one. -/
def exponent? : List Char → Option (List Char × List Char)
  | c :: rest =>
    if c = 'e' ∨ c = 'E' then
      let (sign, rest) := exponentSign rest
      match digits rest with
      | ([], _) => none
      | (ds, rest) => some (c :: sign ++ ds, rest)
    else some ([], c :: rest)
  | [] => some ([], [])

/-- A number. Digits after a leading zero are not part of it. -/
def number? (negative : Bool) (cs : List Char) : Option (Json × List Char) := do
  let (whole, rest) ←
    match digits cs with
    | ([], _) => none
    | ('0' :: _ :: _, _) => none
    | (ds, rest) => some (ds, rest)
  let (frac, rest) ← fraction? rest
  let (exp, rest) ← exponent? rest
  let n := Text.natOfDigits whole
  if frac.isEmpty && exp.isEmpty && !(negative && n == 0) then
    return (.int (if negative then -n else n), rest)
  else
    let sign := if negative then ['-'] else []
    return (.other (String.ofList (sign ++ whole ++ frac ++ exp)), rest)

/-! ## Values -/

/-- The rest of an array after an element; `read` holds the elements so far, the last one first. -/
def arrayRest? (item : List Char → Option (Json × List Char)) :
    (fuel : Nat) → (read : List Json) → List Char → Option (Json × List Char)
  | 0, _, _ => none
  | fuel + 1, read, cs =>
    match skipSpace cs with
    | ']' :: rest => some (.array read.reverse, rest)
    | ',' :: rest => do
      let (j, rest) ← item (skipSpace rest)
      arrayRest? item fuel (j :: read) rest
    | _ => none

/-- A member of an object: a key, a colon and a value. There is no member if the key cannot be
read. -/
def member? (item : List Char → Option (Json × List Char)) :
    List Char → Option (Option (String × Json) × List Char)
  | '"' :: rest => do
    let (key, rest) ← stringRest? (rest.length + 1) (some []) rest
    match skipSpace rest with
    | ':' :: rest =>
      let (j, rest) ← item (skipSpace rest)
      return (key.map (·, j), rest)
    | _ => none
  | _ => none

/-- The rest of an object after a member; `read` holds the members so far, the last one first,
unless there was one that cannot be read. -/
def objectRest? (item : List Char → Option (Json × List Char)) :
    (fuel : Nat) → (read : Option (List (String × Json))) → List Char →
    Option (Option (List (String × Json)) × List Char)
  | 0, _, _ => none
  | fuel + 1, read, cs =>
    match skipSpace cs with
    | '\x7d' :: rest => some (read.map List.reverse, rest)
    | ',' :: rest => do
      let (m, rest) ← member? item (skipSpace rest)
      objectRest? item fuel (do return (← m) :: (← read)) rest
    | _ => none

/-- A part of `cs` up to `rest`: its value or, if it cannot be read and that is allowed, its text.
-/
def readable? (strict : Bool) (cs : List Char) (part : Option Json) (rest : List Char) :
    Option (Json × List Char) :=
  match part with
  | some j => some (j, rest)
  | none =>
    if strict then none
    else some (.other (String.ofList (cs.take (cs.length - rest.length))), rest)

/-- A value without arrays and objects. -/
def scalar? (strict : Bool) : List Char → Option (Json × List Char)
  | 'n' :: 'u' :: 'l' :: 'l' :: rest => some (.null, rest)
  | 't' :: 'r' :: 'u' :: 'e' :: rest => some (.bool true, rest)
  | 'f' :: 'a' :: 'l' :: 's' :: 'e' :: rest => some (.bool false, rest)
  | '"' :: cs => do
    let (s, rest) ← stringRest? (cs.length + 1) (some []) cs
    readable? strict ('"' :: cs) (s.map .string) rest
  | '-' :: rest => number? true rest
  | cs => number? false cs

/-- A value in which arrays and objects nest at most `depth` deep. -/
def value? (strict : Bool) : (depth : Nat) → List Char → Option (Json × List Char)
  | 0, cs => scalar? strict cs
  | depth + 1, cs =>
    match cs with
    | '[' :: rest =>
      match skipSpace rest with
      | ']' :: rest => some (.array [], rest)
      | cs => do
        let (j, rest) ← value? strict depth cs
        arrayRest? (value? strict depth) (rest.length + 1) [j] rest
    | '\x7b' :: rest =>
      match skipSpace rest with
      | '\x7d' :: rest => some (.object [], rest)
      | inner => do
        let (m, rest) ← member? (value? strict depth) inner
        let (members, rest) ←
          objectRest? (value? strict depth) (rest.length + 1) (m.map ([·])) rest
        readable? strict cs (members.map .object) rest
    | cs => scalar? strict cs

/-- The value that a text is, at most as deep as said. -/
def parseWithin? (strict : Bool) (depth : Nat) (text : List Char) : Option Json :=
  match value? strict depth (skipSpace text) with
  | some (j, rest) => if (skipSpace rest).isEmpty then some j else none
  | none => none

/-- The value that a text is. -/
def parse? (text : String) : Option Json :=
  parseWithin? true maxNesting text.toList

/-- The value that a text is; what cannot be read in it is kept as it is written. A text cannot nest
deeper than it is long. -/
def parseLoosely? (text : String) : Option Json :=
  parseWithin? false text.length text.toList

end SqlCompletion.Json
