import SqlCompletion.Json.Printer
import SqlCompletion.Text.LineWidth
import SqlCompletion.Wire

/-!
# Answers as text

An answer is shown to people as a table of candidates, and to programs as JSON. Every line of a
table is as wide as the table, each cell has one space on either side, and widths are counted in
terminal columns. A line break inside a cell opens a further line of its row.
-/

namespace SqlCompletion

/-- How an answer is written. -/
inductive Format where
  | table
  | json
  | compactJson
  deriving DecidableEq

namespace Report

/-- The lines of a cell. -/
def cellLines (text : List Char) : List (List Char) :=
  text.splitOn '\n'

/-- Spaces. -/
def spaces (n : Nat) : List Char := List.replicate n ' '

/-- A line of a cell, filled up to a width, with one space on either side. -/
def fill (width : Nat) (line : List Char) : List Char :=
  ' ' :: line ++ spaces (width - Text.width line) ++ [' ']

/-- The cells of a table, row by row, as lines of characters. -/
abbrev Cells := List (List (List (List Char)))

/-- The width of a cell: that of its widest line. -/
def cellWidth (cell : List (List Char)) : Nat :=
  (cell.map Text.width).foldl max 0

/-- The widths of the columns of a table. -/
def columnWidths (rows : Cells) : List Nat :=
  match rows with
  | [] => []
  | first :: rest =>
    rest.foldl (fun widths row => List.zipWith max widths (row.map cellWidth)) (first.map cellWidth)

/-- One line across a row. -/
def rowLine (widths : List Nat) (row : List (List (List Char))) (i : Nat) : List Char :=
  ['|'].intercalate (List.zipWith (fun w cell => fill w (cell.getD i [])) widths row)

/-- The lines of a row: as many as its tallest cell has. -/
def rowLines (widths : List Nat) (row : List (List (List Char))) : List (List Char) :=
  (List.range ((row.map List.length).foldl max 0)).map (rowLine widths row)

/-- The rule under the head of a table. -/
def rule (widths : List Nat) : List Char :=
  ['+'].intercalate (widths.map fun w => List.replicate (w + 2) '-')

/-- A table with a head, line by line. -/
def tableLines (head : List String) (rows : List (List String)) : List (List Char) :=
  let cells := (head :: rows).map fun row => row.map fun c => cellLines c.toList
  let widths := columnWidths cells
  match cells with
  | [] => []
  | first :: rest => rowLines widths first ++ rule widths :: rest.flatMap (rowLines widths)

/-- The head of the table of candidates. -/
def candidateHead : List String := ["label", "kind", "detail", "insert"]

/-- The row of a candidate. -/
def candidateRow (c : Candidate) : List String :=
  [c.label, c.kind.name, c.detail.getD "", c.insertText.getD ""]

/-- The line that counts the candidates. -/
def summary (n : Nat) : String :=
  if n = 1 then "1 candidate" else toString n ++ " candidates"

/-- The line that reports an error. -/
def errorLine (e : ErrorReport) : String :=
  e.label ++ " " ++ e.detail ++ " (line " ++ toString e.line ++ ", offset " ++
    toString e.offset ++ ")"

/-- Lines, each with its line break. -/
def unlines (lines : List String) : String :=
  String.join (lines.map (· ++ "\n"))

end Report

open Report in
/-- An answer as a table. -/
def Completion.table (c : Completion) : String :=
  unlines (
    [summary c.candidates.length] ++
    (if c.candidates.isEmpty then []
      else (tableLines candidateHead (c.candidates.map candidateRow)).map String.ofList) ++
    c.error.toList.map errorLine)

/-- An answer in a given form. JSON has no line break at its end. -/
def Completion.render (c : Completion) : Format → String
  | .table => c.table
  | .json => c.toJson.pretty
  | .compactJson => c.toJson.compact

end SqlCompletion
