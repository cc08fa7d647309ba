import SqlCompletion.Dialect
import SqlCompletion.Text.Basic
import SqlCompletion.Text.Alphabetic

/-!
# What the dialects differ in

First come the properties that decide how characters form tokens, then those that decide how tokens
form statements. Each property is named for what is allowed, and lists the dialects that allow it.
-/

namespace SqlCompletion.Dialect

/-! ## Words -/

/-- A letter of ASCII. -/
def isLatin (c : Char) : Bool := c.isAlpha

/-- The character may start an unquoted word. -/
def isWordStart (d : Dialect) (c : Char) : Bool :=
  match d with
  | .generic | .mssql => Text.isAlphabetic c || c == '_' || c == '#' || c == '@'
  | .ansi => isLatin c
  | .bigquery => isLatin c || c == '_' || c == '@'
  | .clickhouse | .databricks | .snowflake => isLatin c || c == '_'
  | .duckdb => Text.isAlphabetic c || c == '_'
  | .hive => isLatin c || c.isDigit || c == '$'
  | .mysql => isLatin c || c == '_' || c == '$' || c == '@' || 0x80 ≤ c.toNat
  | .postgres => isLatin c || c == '_' || 0x80 ≤ c.toNat
  | .redshift => isLatin c || c == '_' || c == '#' || 0x80 ≤ c.toNat
  | .sqlite => isLatin c || c == '_' || (0x7f ≤ c.toNat && c.toNat ≤ 0xffff)

/-- The character may continue an unquoted word. -/
def isWordPart (d : Dialect) (c : Char) : Bool :=
  match d with
  | .generic | .mssql =>
    Text.isAlphabetic c || c.isDigit || c == '@' || c == '$' || c == '#' || c == '_'
  | .ansi | .bigquery | .clickhouse | .databricks => c.isAlphanum || c == '_'
  | .duckdb => Text.isAlphabetic c || c.isDigit || c == '$' || c == '_'
  | .hive => c.isAlphanum || c == '_' || c == '$' || c == '\x7b' || c == '\x7d'
  | .mysql | .sqlite => d.isWordStart c || c.isDigit
  | .postgres | .redshift => d.isWordStart c || c.isDigit || c == '$'
  | .snowflake => c.isAlphanum || c == '$' || c == '_'

/-- The character opens a quoted word. -/
def isQuote (d : Dialect) (c : Char) : Bool :=
  match d with
  | .bigquery | .databricks | .mysql => c == '`'
  | .mssql => c == '"' || c == '['
  | .postgres => c == '"'
  | .sqlite => c == '"' || c == '`' || c == '['
  | _ => c == '"' || c == '`'

/-- A bracket quotes a word, but only one that could do without quotes or stands in double
quotes. -/
def quotesInBrackets (d : Dialect) : Bool := d == .redshift

/-- Words may start with digits. -/
def digitsStartWords (d : Dialect) : Bool := d == .hive || d == .mysql

/-- An underscore may separate the digits of a number. -/
def digitSeparators (d : Dialect) : Bool := d == .clickhouse || d == .postgres

/-! ## Strings -/

/-- A backslash in a string escapes the next character. -/
def backslashEscapes (d : Dialect) : Bool :=
  [.bigquery, .clickhouse, .mysql, .redshift, .snowflake].contains d

/-- A backslash before a wildcard of `LIKE` is kept. -/
def keepsWildcardEscapes (d : Dialect) : Bool := d == .mysql

/-- Strings one after the other are one string. -/
def joinsStrings (d : Dialect) : Bool := d == .mysql

/-- Strings may stand in three quotes. -/
def tripleQuotes (d : Dialect) : Bool := d == .bigquery

/-- Whether `B'..'` is a string. -/
def byteStrings (d : Dialect) : Bool := [.generic, .bigquery, .mysql, .postgres].contains d

/-- Whether `R'..'` is a string. -/
def rawStrings (d : Dialect) : Bool := d == .generic || d == .bigquery

/-- Whether `E'..'` is a string with escapes. -/
def escapeStrings (d : Dialect) : Bool := [.generic, .postgres, .redshift].contains d

/-- Whether `U&'..'` is a string with escapes by code point. -/
def unicodeStrings (d : Dialect) : Bool := d == .generic || d == .postgres

/-- A dollar sign starts a placeholder and never a string. -/
def dollarPlaceholders (d : Dialect) : Bool := d == .sqlite

/-! ## Comments -/

/-- Comments between `/*` and `*/` nest. -/
def nestedComments (d : Dialect) : Bool :=
  [.generic, .mssql, .postgres].contains d

/-- Whether `#` starts a comment. -/
def hashComments (d : Dialect) : Bool := [.bigquery, .hive, .mysql, .snowflake].contains d

/-- Whether `//` starts a comment. -/
def slashComments (d : Dialect) : Bool := d == .snowflake

/-- Whether `--` starts a comment only before a space. -/
def dashesNeedSpace (d : Dialect) : Bool := d == .mysql

/-! ## Operators -/

/-- Whether `//` is an operator. -/
def integerDivision (d : Dialect) : Bool := d == .generic || d == .duckdb

/-- There are literals and operators for shapes, and `?` is an operator. -/
def shapeOperators (d : Dialect) : Bool := d == .postgres || d == .redshift

/-- Whether `|>` is an operator. -/
def pipeOperator (d : Dialect) : Bool := d == .generic || d == .bigquery

/-- The character can be part of an operator that users define. -/
def isOperatorPart (d : Dialect) (c : Char) : Bool :=
  d == .postgres && "+-*/<>=~!@#%^&|`?".toList.contains c

/-- Whether `<<` and `>>` shift bits. -/
def shiftOperators (d : Dialect) : Bool :=
  [.generic, .duckdb, .postgres, .redshift].contains d

/-- Whether `&&` is an operator. -/
def doubleAmpersand (d : Dialect) : Bool :=
  [.generic, .postgres, .redshift].contains d

/-- Whether `!` negates what follows. -/
def bangNegates (d : Dialect) : Bool := d == .hive

/-- Whether `!` after an expression is the factorial. -/
def factorial (d : Dialect) : Bool := d == .postgres

/-- Whether `expr NOTNULL` is allowed. -/
def notNullOperator (d : Dialect) : Bool := [.duckdb, .postgres, .sqlite].contains d

/-! ## Expressions -/

/-- Whether `TRUE` and `FALSE` are literals. -/
def booleanLiterals (d : Dialect) : Bool := d != .mssql

/-- An empty list may follow `IN`. -/
def emptyInList (d : Dialect) : Bool := d == .sqlite

/-- A bracket after an expression reaches into a document. -/
def bracketPaths (d : Dialect) : Bool := d == .redshift || d == .snowflake

/-- A colon after an expression reaches into a document. -/
def colonPaths (d : Dialect) : Bool := d == .snowflake

/-- Whether `x -> e` is a function. -/
def lambdas (d : Dialect) : Bool :=
  [.clickhouse, .databricks, .duckdb].contains d

/-- An interval needs a unit. -/
def intervalUnits (d : Dialect) : Bool :=
  [.ansi, .bigquery, .clickhouse, .databricks, .hive, .mysql].contains d

/-- Any word may name a part of a date or a time. -/
def customUnits (d : Dialect) : Bool := [.generic, .postgres, .snowflake].contains d

/-- A part of a date or a time may be named by a string. -/
def quotedUnits (d : Dialect) : Bool :=
  [.generic, .duckdb, .postgres, .redshift, .snowflake].contains d

/-- Whether `EXTRACT(unit, e)` is allowed. -/
def extractComma (d : Dialect) : Bool := d == .generic || d == .snowflake

/-- A braced list of fields is an expression. -/
def dictionaries (d : Dialect) : Bool :=
  [.generic, .clickhouse, .duckdb, .snowflake].contains d

/-- Whether `MAP` before a brace starts an expression. -/
def mapLiterals (d : Dialect) : Bool := d == .generic || d == .duckdb

/-- Whether `STRUCT` starts an expression. -/
def structLiterals (d : Dialect) : Bool := [.generic, .bigquery, .databricks].contains d

/-- Whether `MATCH (..) AGAINST (..)` is an expression. -/
def fullTextMatch (d : Dialect) : Bool := d == .generic || d == .mysql

/-- Types may be followed by brackets. -/
def bracketTypes (d : Dialect) : Bool :=
  [.generic, .duckdb, .postgres, .redshift].contains d

/-- Whether `CONVERT` names the type first. -/
def typeFirstConvert (d : Dialect) : Bool := d == .mssql || d == .redshift

/-- Whether `TRIM(e, ..)` is allowed. -/
def trimLists (d : Dialect) : Bool := [.generic, .bigquery, .duckdb, .snowflake].contains d

/-- Whether `(+)` marks a column of an outer join. -/
def outerJoinMarks (d : Dialect) : Bool := d == .mssql || d == .snowflake

/-- Whole numbers may be called `SIGNED`. -/
def signedTypes (d : Dialect) : Bool := d == .generic || d == .mysql

/-- The type `INTERVAL` may have units and a precision. -/
def intervalTypeOptions (d : Dialect) : Bool := d == .generic || d == .postgres

/-! ## Function calls -/

/-- An aggregate may be followed by a filter. -/
def aggregateFilters (d : Dialect) : Bool :=
  [.generic, .databricks, .duckdb, .hive, .postgres, .sqlite].contains d

/-- Null treatment may stand among the arguments. -/
def nullTreatmentArguments (d : Dialect) : Bool :=
  [.generic, .bigquery, .snowflake].contains d

/-- The name of a named argument may be any expression. -/
def expressionArguments (d : Dialect) : Bool := d == .mssql || d == .postgres

/-- Named arguments may be written `name => value`. -/
def arrowArguments (d : Dialect) : Bool := d != .mssql

/-- Named arguments may be written `name := value`. -/
def assignedArguments (d : Dialect) : Bool := [.generic, .duckdb, .postgres].contains d

/-- Named arguments may be written `name = value`. -/
def equalArguments (d : Dialect) : Bool := d == .duckdb

/-- Named arguments may be written `name : value`. -/
def colonArguments (d : Dialect) : Bool := d == .mssql || d == .postgres

/-- Arguments may be followed by a second list. -/
def parameterLists (d : Dialect) : Bool := d == .generic || d == .clickhouse

/-- A query may be the only argument without further parentheses. -/
def queryArguments (d : Dialect) : Bool := d == .snowflake

/-! ## Queries -/

/-- A comma may end the items of a select list. -/
def trailingItemCommas (d : Dialect) : Bool :=
  [.generic, .bigquery, .duckdb, .snowflake].contains d

/-- A comma may end the tables of a FROM clause. -/
def trailingTableCommas (d : Dialect) : Bool := d == .snowflake

/-- A comma may end any other list. -/
def trailingCommas (d : Dialect) : Bool := d == .duckdb

/-- The columns of a table that is defined may end with a comma. -/
def trailingColumnCommas (d : Dialect) : Bool := d == .bigquery || d.trailingCommas

/-- A query may start with `FROM`. -/
def fromFirst (d : Dialect) : Bool := [.generic, .clickhouse, .duckdb].contains d

/-- There may be no item before `FROM`. -/
def emptyItems (d : Dialect) : Bool := d == .generic || d == .postgres

/-- Whether `alias = expr` names an item. -/
def equalsAliases (d : Dialect) : Bool := d == .mssql

/-- Whether `.*` may follow any expression in a select list. -/
def expressionWildcards (d : Dialect) : Bool := d == .bigquery || d == .snowflake

/-- A word before an item may ask for the root of a hierarchy. -/
def hierarchyRootItems (d : Dialect) : Bool := d == .snowflake

/-- Whether `TOP` stands before `DISTINCT`. -/
def topBeforeDistinct (d : Dialect) : Bool := d == .redshift

/-- Whether `LIMIT offset, count` is allowed. -/
def limitComma (d : Dialect) : Bool := [.generic, .clickhouse, .mysql, .sqlite].contains d

/-- Whether `LIMIT .. BY`, `SETTINGS`, `FORMAT`, `PREWHERE` and `WITH FILL` are allowed. -/
def columnarClauses (d : Dialect) : Bool := d == .generic || d == .clickhouse

/-- Groups may be followed by `WITH ROLLUP` and the like. -/
def groupModifiers (d : Dialect) : Bool :=
  [.generic, .clickhouse, .databricks, .hive].contains d

/-- Whether `GROUPING SETS`, `CUBE` and `ROLLUP` are allowed. -/
def groupingSets (d : Dialect) : Bool :=
  [.generic, .bigquery, .clickhouse, .databricks, .duckdb, .postgres, .snowflake].contains d

/-- Whether `START WITH` and `CONNECT BY` are allowed. -/
def hierarchies (d : Dialect) : Bool :=
  [.generic, .mssql, .redshift, .snowflake].contains d

/-- A wildcard may be followed by `EXCLUDE`. -/
def wildcardExclude (d : Dialect) : Bool :=
  [.generic, .duckdb, .redshift, .snowflake].contains d

/-- A wildcard may be followed by `EXCEPT`. -/
def wildcardExcept (d : Dialect) : Bool :=
  [.generic, .bigquery, .clickhouse, .databricks].contains d

/-- A wildcard may be followed by `REPLACE`. -/
def wildcardReplace (d : Dialect) : Bool :=
  [.generic, .bigquery, .clickhouse, .duckdb, .snowflake].contains d

/-- A wildcard may be followed by `ILIKE` and `RENAME`. -/
def wildcardRename (d : Dialect) : Bool := d == .generic || d == .snowflake

/-! ## Tables -/

/-- Parentheses around a single table are dropped. -/
def tableParentheses (d : Dialect) : Bool := d == .generic || d == .snowflake

/-- Whether `VALUES` is a table. -/
def valuesTables (d : Dialect) : Bool := [.generic, .databricks, .snowflake].contains d

/-- Whether `UNNEST(..)` is a table. -/
def unnestTables (d : Dialect) : Bool :=
  [.generic, .bigquery, .postgres].contains d

/-- Joins without a constraint nest to the right. -/
def rightNestedJoins (d : Dialect) : Bool := d == .snowflake

/-- Whether `CROSS JOIN` may have a condition. -/
def crossJoinConditions (d : Dialect) : Bool := d == .mysql

/-- A sample of a table stands before its alias. -/
def sampleBeforeAlias (d : Dialect) : Bool := d == .hive

/-- A table may be read as it was at some time. -/
def tableVersions (d : Dialect) : Bool :=
  [.bigquery, .databricks, .mssql, .snowflake].contains d

/-- A table may be followed by partitions. -/
def tablePartitions (d : Dialect) : Bool := d == .generic || d == .mysql

/-- The middle part of a dotted name may be missing. -/
def doubleDots (d : Dialect) : Bool := d == .mssql || d == .snowflake

/-- A part of a dotted name may be computed by `IDENTIFIER(..)`. -/
def computedNames (d : Dialect) : Bool := d == .snowflake

/-- Rows may be matched against a pattern. -/
def rowPatterns (d : Dialect) : Bool := d == .generic || d == .snowflake

/-- Whether `SEMANTIC_VIEW(..)` is a table. -/
def semanticViews (d : Dialect) : Bool := d == .snowflake

/-- The name of a table may have hyphens in it. -/
def hyphenatedTables (d : Dialect) : Bool := d == .bigquery

/-- A quoted table name is split at its dots. -/
def splitsQuotedTables (d : Dialect) : Bool := d == .bigquery

/-! ## Changes to tables -/

/-- Whether `DELETE` may stand directly before the tables. -/
def deleteWithoutFrom (d : Dialect) : Bool := d == .generic || d == .bigquery

end SqlCompletion.Dialect
