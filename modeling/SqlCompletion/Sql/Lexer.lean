import SqlCompletion.Sql.Token.Scan

/-!
# Tokens of a text

`lex` divides a text into tokens, each with its place. The places follow from one another: a token
starts where the one before it ends.
-/

namespace SqlCompletion.Sql

/-- The place after the first `n` characters of a text that stands at `l`, and what follows them. -/
def advanceBy : (n : Nat) → Location → List Char → Location × List Char
  | 0, l, cs => (l, cs)
  | _ + 1, l, [] => (l, [])
  | n + 1, l, c :: cs => advanceBy n (l.advance c) cs

/-- The tokens of a text that stands at `l`. `prev` is the token before, and `read` holds the tokens
so far, the last one first. Every token takes at least one character, so the number of characters
bounds the number of tokens. -/
def lexFrom (d : Dialect) : (fuel : Nat) → Location → (prev : Option Token) → (read : List Lexeme) →
    List Char → Except LexError (List Lexeme)
  | 0, _, _, read, _ => .ok read.reverse
  | _, _, _, read, [] => .ok read.reverse
  | fuel + 1, l, prev, read, c :: rest =>
    match scan d prev c rest with
    | .error (message, n) => .error ⟨message, (advanceBy n l (c :: rest)).1⟩
    | .ok (token, n) =>
      let (stop, rest) := advanceBy n l (c :: rest)
      lexFrom d fuel stop (some token) (⟨token, l, stop⟩ :: read) rest

/-- The tokens of a text, blanks included. -/
def lex (d : Dialect) (text : String) : Except LexError (List Lexeme) :=
  let cs := text.toList
  lexFrom d cs.length .first none [] cs

/-- The tokens without the blanks. -/
def significant (tokens : List Lexeme) : List Lexeme :=
  tokens.filter fun t => !t.token.isBlank

end SqlCompletion.Sql
