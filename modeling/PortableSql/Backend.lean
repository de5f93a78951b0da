import PortableSql.Database.Duckdb
import PortableSql.Database.Mysql
import PortableSql.Database.Oracle
import PortableSql.Database.Postgresql
import PortableSql.Database.SqlServer
import PortableSql.Database.Sqlite

/-! The databases for which dialects exist, and their names. -/

namespace PortableSql

inductive Backend
  | standard | postgresql | mysql | oracle | sqlserver | sqlite | duckdb
  deriving DecidableEq, Repr

namespace Backend

def all : List Backend := [standard, postgresql, mysql, oracle, sqlserver, sqlite, duckdb]

theorem mem_all (b : Backend) : b ∈ all := by cases b <;> decide

def name : Backend → String
  | standard => "standard"
  | postgresql => "postgresql"
  | mysql => "mysql"
  | oracle => "oracle"
  | sqlserver => "sqlserver"
  | sqlite => "sqlite"
  | duckdb => "duckdb"

/-- Other names that are understood. -/
def shortNames : Backend → List String
  | standard => ["ansi"]
  | postgresql => ["postgres", "pg"]
  | sqlserver => ["mssql"]
  | mysql | oracle | sqlite | duckdb => []

/-- The backend a text names, whatever its letter case and outer white space. -/
def ofText? (text : String) : Option Backend :=
  let wanted := (Text.strip text.toList).map Char.toLower
  all.find? fun b => (b.name :: b.shortNames).any (·.toList == wanted)

def parse (text : String) : Except Failure Backend :=
  match ofText? text with
  | some b => .ok b
  | none => .error (.unknownName .backend text)

def profile : Backend → Profile
  | standard => standardProfile
  | postgresql => Postgresql.profile
  | mysql => Mysql.profile
  | oracle => Oracle.profile
  | sqlserver => SqlServer.profile
  | sqlite => Sqlite.profile
  | duckdb => Duckdb.profile

/-- The dialect of a database that reported `info`. -/
def dialect (b : Backend) (info : ResolutionInfo) : Dialect := b.profile.dialect info

/-- What building a dialect from a report brings up. -/
def dialectEvents (b : Backend) (info : ResolutionInfo) : List Event :=
  KeywordSet.reportEvents info.keywords ++ [(b.dialect info).builtEvent]

theorem config_dialect (b : Backend) (info : ResolutionInfo) :
    (b.dialect info).config = b.profile.config info.version := rfl

/-- Without a report the ceiling is the usual one. -/
theorem inListCeiling_dialect (b : Backend) (info : ResolutionInfo) :
    (b.dialect info).inListCeiling =
      info.inListCeiling.getD (b.profile.config info.version).inListCeiling := by
  cases h : info.inListCeiling <;>
    simp [dialect, Profile.dialect, Profile.draft, Draft.build, Draft.resolve, Draft.register,
      Draft.standard, h]

end Backend

end PortableSql
