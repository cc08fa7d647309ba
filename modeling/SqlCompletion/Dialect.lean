/-!
# Dialects by name

The SQL dialects a request can ask for. What each of them means for tokens and for the grammar is in
`SqlCompletion.Sql.Dialect`.
-/

namespace SqlCompletion

/-- The dialects. -/
inductive Dialect where
  | generic
  | ansi
  | bigquery
  | clickhouse
  | databricks
  | duckdb
  | hive
  | mssql
  | mysql
  | postgres
  | redshift
  | snowflake
  | sqlite
  deriving DecidableEq

namespace Dialect

/-- Every dialect. -/
def all : List Dialect :=
  [.generic, .ansi, .bigquery, .clickhouse, .databricks, .duckdb, .hive, .mssql, .mysql, .postgres,
    .redshift, .snowflake, .sqlite]

/-- The name of a dialect. -/
def name : Dialect → String
  | .generic => "generic"
  | .ansi => "ansi"
  | .bigquery => "bigquery"
  | .clickhouse => "clickhouse"
  | .databricks => "databricks"
  | .duckdb => "duckdb"
  | .hive => "hive"
  | .mssql => "mssql"
  | .mysql => "mysql"
  | .postgres => "postgres"
  | .redshift => "redshift"
  | .snowflake => "snowflake"
  | .sqlite => "sqlite"

/-- The dialect with a given name. -/
def ofName? (name : String) : Option Dialect :=
  all.find? (·.name == name)

theorem ofName?_name (d : Dialect) : ofName? d.name = some d := by
  cases d <;> decide

end Dialect

end SqlCompletion
