import SqlCompletion.Text.Basic

/-!
# Positions in a document

There are two ways to name a place. An editor sends a `Position`: a line and a column counted from
zero, in 64-bit words. A `Location` is counted from one and also carries the byte offset; tokens,
statements and error reports use it. Columns count characters in both.

A `Range` is a pair of locations with an exclusive end. The range of six zeros stands for "no
location": nothing in a document has line zero.

## Which places a range contains

A range contains a cursor when it touches it: lines are shifted by one, columns are compared as they
are. So a range that starts at column `c` contains the cursors from column `c` on, which is after
its first character, up to the column of its end, which is one character past the cursor right after
its last character.
-/

namespace SqlCompletion

/-- A cursor in an editor: line and column from zero, the column in characters. -/
structure Position where
  line : UInt64
  column : UInt64
  deriving DecidableEq

/-- A place in a text: byte offset, and line and character column from one. -/
structure Location where
  offset : Nat
  line : Nat
  column : Nat
  deriving DecidableEq, Inhabited

/-- The text between two places, the second one excluded. -/
structure Range where
  start : Location
  stop : Location
  deriving DecidableEq, Inhabited

/-! ## Order -/

/-- Reading order of line and column. -/
def cellLe (a b : Nat × Nat) : Bool :=
  a.1 < b.1 || (a.1 == b.1 && a.2 ≤ b.2)

theorem cellLe_iff {a b : Nat × Nat} :
    cellLe a b = true ↔ a.1 < b.1 ∨ (a.1 = b.1 ∧ a.2 ≤ b.2) := by
  simp [cellLe]

/-- Line and column of a location. -/
def Location.cell (l : Location) : Nat × Nat := (l.line, l.column)

/-- Line and column of a cursor, as a range compares them: the line is counted from one, in a 64-bit
word. -/
def Position.cell (p : Position) : Nat × Nat := ((p.line + 1).toNat, p.column.toNat)

/-! ## Ranges -/

/-- The range that stands for "no location". -/
def Range.none : Range := ⟨⟨0, 0, 0⟩, ⟨0, 0, 0⟩⟩

/-- The cursor touches the range. -/
def Range.contains (r : Range) (p : Position) : Bool :=
  cellLe r.start.cell p.cell && cellLe p.cell r.stop.cell

/-- The smallest range that covers both. -/
def Range.union (a b : Range) : Range where
  start := if cellLe a.start.cell b.start.cell then a.start else b.start
  stop := if cellLe b.stop.cell a.stop.cell then a.stop else b.stop

/-- The smallest range that covers both, where a missing location covers nothing. -/
def Range.cover (a b : Range) : Range :=
  if a = .none then b else if b = .none then a else a.union b

/-- The smallest range that covers all of the list; a missing location covers nothing. -/
def Range.coverAll (rs : List Range) : Range :=
  rs.foldl Range.cover .none

/-! ## Offsets -/

/-- The byte offset of a line and column, both counted from one. A column one past the last
character of its line is the end of that line; anything further is no place in the text. -/
def offset? (cs : List Char) (line column : Nat) : Option Nat :=
  if line = 0 ∨ column = 0 then none
  else
    match Text.dropLines? (line - 1) cs with
    | none => none
    | some rest =>
      let before := (Text.firstLine rest).take (column - 1)
      if before.length = column - 1 then
        some (Text.byteLength cs - Text.byteLength rest + Text.byteLength before)
      else none

/-- The place after the last character of a text. -/
def endLocation (cs : List Char) : Location where
  offset := Text.byteLength cs
  line := Text.lineCount cs
  column := (cs.reverse.takeWhile (· ≠ '\n')).length + 1

/-- The place after a character that stands at `l`. -/
def Location.advance (l : Location) (c : Char) : Location :=
  if c = '\n' then ⟨l.offset + c.utf8Size, l.line + 1, 1⟩
  else ⟨l.offset + c.utf8Size, l.line, l.column + 1⟩

/-- The place of the first character of every text. -/
def Location.first : Location := ⟨0, 1, 1⟩

end SqlCompletion
