import SqlCompletion.Json.Basic

/-!
# Writing JSON

`compact` writes a value on one line without spaces, `pretty` with one member or element a line,
indented by two spaces. Empty arrays and objects are `[]` and `{}` in both forms.

In a string only the quote, the backslash and the control characters below the space are escaped.
-/

namespace SqlCompletion.Json

/-- A hexadecimal digit in lower case. -/
def hexDigit (n : Nat) : Char :=
  if n < 10 then Char.ofNat ('0'.toNat + n) else Char.ofNat ('a'.toNat + (n - 10))

/-- A character as it stands inside a string. -/
def escapeChar (c : Char) : List Char :=
  if c = '"' then ['\\', '"']
  else if c = '\\' then ['\\', '\\']
  else if c = '\n' then ['\\', 'n']
  else if c = '\r' then ['\\', 'r']
  else if c = '\t' then ['\\', 't']
  else if c = '\x08' then ['\\', 'b']
  else if c = '\x0c' then ['\\', 'f']
  else if c.toNat < 0x20 then
    ['\\', 'u', '0', '0', hexDigit (c.toNat / 16), hexDigit (c.toNat % 16)]
  else [c]

/-- A string in quotes. -/
def quote (s : String) : String :=
  "\"" ++ String.ofList (s.toList.flatMap escapeChar) ++ "\""

/-- The text of a value that holds no other. -/
def atom : Json → String
  | .bool true => "true"
  | .bool false => "false"
  | .int n => toString n
  | .other t => t
  | .string s => quote s
  | _ => "null"

mutual

/-- A value on one line. -/
def compact : Json → String
  | .array items => "[" ++ compactItems true items ++ "]"
  | .object members => "\x7b" ++ compactMembers true members ++ "\x7d"
  | j => atom j

/-- Elements with commas between them. -/
def compactItems (first : Bool) : List Json → String
  | [] => ""
  | j :: rest => (if first then "" else ",") ++ compact j ++ compactItems false rest

/-- Members with commas between them. -/
def compactMembers (first : Bool) : List (String × Json) → String
  | [] => ""
  | (k, j) :: rest =>
    (if first then "" else ",") ++ quote k ++ ":" ++ compact j ++ compactMembers false rest

end

/-- The start of a line at a given depth. -/
def newline (depth : Nat) : String :=
  "\n" ++ String.ofList (List.replicate (2 * depth) ' ')

mutual

/-- A value with one element or member a line; lines inside it start at depth `depth + 1`. -/
def prettyAt (depth : Nat) : Json → String
  | .array [] => "[]"
  | .object [] => "\x7b\x7d"
  | .array items => "[" ++ prettyItems (depth + 1) true items ++ newline depth ++ "]"
  | .object members =>
    "\x7b" ++ prettyMembers (depth + 1) true members ++ newline depth ++ "\x7d"
  | j => atom j

/-- Elements, each on a line of its own. -/
def prettyItems (depth : Nat) (first : Bool) : List Json → String
  | [] => ""
  | j :: rest =>
    (if first then "" else ",") ++ newline depth ++ prettyAt depth j ++
      prettyItems depth false rest

/-- Members, each on a line of its own. -/
def prettyMembers (depth : Nat) (first : Bool) : List (String × Json) → String
  | [] => ""
  | (k, j) :: rest =>
    (if first then "" else ",") ++ newline depth ++ quote k ++ ": " ++ prettyAt depth j ++
      prettyMembers depth false rest

end

/-- A value with one element or member a line. -/
def pretty (j : Json) : String := prettyAt 0 j

end SqlCompletion.Json
