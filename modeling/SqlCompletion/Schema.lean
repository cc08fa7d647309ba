/-!
# What a database offers

The tables, columns and functions that a request brings along. Names are plain texts and are
compared as they are written: a column name may contain dots, and case matters.
-/

namespace SqlCompletion

/-- A column of a table. -/
structure Column where
  name : String
  description : String := ""
  deriving DecidableEq

/-- A table with its columns. -/
structure Table where
  database : Option String := none
  name : String
  columns : List Column := []
  deriving DecidableEq

/-- A function that can be called. -/
structure Function where
  name : String
  description : String := ""
  deriving DecidableEq

/-- Everything that is known about a database. -/
structure Schema where
  tables : List Table := []
  functions : List Function := []
  deriving DecidableEq

end SqlCompletion
