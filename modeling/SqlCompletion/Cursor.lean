import SqlCompletion.Position

/-!
# The text at the cursor

Completion looks at a document only up to the cursor. `truncate` is that part of the document, and
`lastToken` the word being typed at its end.

A cursor past the end of a line stands at the end of that line, and a cursor past the last line at
the end of the document. The number of lines to keep is one more than the cursor's line, counted in
a 64-bit word.
-/

namespace SqlCompletion

/-- The characters of a document up to the cursor. -/
def truncateChars (cs : List Char) (p : Position) : List Char :=
  if p.line + 1 = 0 then []
  else
    match Text.dropLines? p.line.toNat cs with
    | none => cs
    | some rest =>
      cs.take (cs.length - rest.length) ++ (Text.firstLine rest).take p.column.toNat

/-- The document up to the cursor. -/
def truncate (text : String) (p : Position) : String :=
  String.ofList (truncateChars text.toList p)

/-- A character of the word being typed: dotted names, casts and quoted names belong to it. -/
def isTokenChar (c : Char) : Bool :=
  c.isAlphanum || ".:[\\]^_`".toList.contains c

/-- The token characters at the end of a text. -/
def lastTokenChars (cs : List Char) : List Char :=
  (cs.reverse.takeWhile isTokenChar).reverse

/-- The word being typed at the end of a text. -/
def lastToken (text : String) : String :=
  String.ofList (lastTokenChars text.toList)

/-- The word being typed stands at the end of the text. -/
theorem lastTokenChars_suffix (cs : List Char) : lastTokenChars cs <:+ cs := by
  rw [lastTokenChars, ← List.reverse_prefix, List.reverse_reverse]
  exact List.takeWhile_prefix _

end SqlCompletion
