import PortableSql.Failure
import PortableSql.Json.Reader

/-! What a database reports about itself when a dialect is chosen, and the switches of a
query engine. Both are stored as documents. A document is an object with any of the
fields, each at most once, or an array that gives the fields in order and may stop
early; a missing field has its default. Fields of other names are passed over. -/

namespace PortableSql

/-- A version as major and minor number. -/
structure Version where
  major : Nat := 0
  minor : Nat := 0
  deriving DecidableEq, Repr

/-- Is the version `w` or a later one? -/
def Version.atLeast (v w : Version) : Bool :=
  w.major < v.major || (v.major == w.major && w.minor ≤ v.minor)

structure ResolutionInfo where
  version : Version := {}
  /-- Reserved words beyond the standard, with commas between them. -/
  keywords : String := ""
  /-- The most bind markers in one list, where it differs from what is usual. -/
  inListCeiling : Option Int := none
  deriving DecidableEq, Repr

/-- The switches of a query engine. -/
structure Settings where
  /-- Pad lists of bind markers to the batch size. -/
  padInLists : Bool := false
  /-- Write comments before statements. -/
  sqlComments : Bool := false
  deriving DecidableEq, Repr

namespace Json

def nat32? : Json → Option Nat
  | .int n => if 0 ≤ n ∧ n ≤ 4294967295 then some n.toNat else none
  | _ => none

def int32? : Json → Option Int
  | .int n => if -2147483648 ≤ n ∧ n ≤ 2147483647 then some n else none
  | _ => none

def text? : Json → Option String
  | .string (.text s) => some s
  | _ => none

def bool? : Json → Option Bool
  | .bool b => some b
  | _ => none

/-- A value or null. -/
def option? {α : Type} (f : Json → Option α) : Json → Option (Option α)
  | .null => some none
  | j => (f j).map some

/-- The values of the named fields of a document, in the order of the names. -/
def fields? (names : List String) : Json → Option (List (Option Json))
  | .array items =>
    if items.length ≤ names.length then
      some (items.map some ++ List.replicate (names.length - items.length) none)
    else none
  | .object fields =>
    if fields.any (fun f => f.1 matches .unpaired _) then none
    else names.mapM fun name =>
      match fields.filter (·.1 = .text name) with
      | [] => some none
      | [f] => some (some f.2)
      | _ => none
  | _ => none

/-- The value of a field, or its default if it is missing. -/
def field? {α : Type} (f : Json → Option α) (default : α) : Option Json → Option α
  | none => some default
  | some j => f j

end Json

namespace ResolutionInfo

def fieldNames : List String := ["major_version", "minor_version", "keywords", "in_list_ceiling"]

def dump (r : ResolutionInfo) : Json :=
  .record
    [ ("major_version", .nat r.version.major),
      ("minor_version", .nat r.version.minor),
      ("keywords", .text r.keywords),
      ("in_list_ceiling", .option .int r.inListCeiling) ]

def ofJson? (j : Json) : Option ResolutionInfo := do
  match ← j.fields? fieldNames with
  | [major, minor, keywords, ceiling] =>
    return {
      version :=
        { major := ← Json.field? Json.nat32? 0 major
          minor := ← Json.field? Json.nat32? 0 minor }
      keywords := ← Json.field? Json.text? "" keywords
      inListCeiling := ← Json.field? (Json.option? Json.int32?) none ceiling }
  | _ => none

/-- Read a document. A limit below zero is refused. -/
def parse (text : String) : Except Failure ResolutionInfo :=
  match (Json.parse? text).bind ofJson? with
  | none => .error .malformedDocument
  | some info =>
    match info.inListCeiling with
    | some ceiling => if ceiling < 0 then .error (.negativeCeiling ceiling) else .ok info
    | none => .ok info

end ResolutionInfo

namespace Settings

def fieldNames : List String := ["in_clause_parameter_padding", "use_sql_comments"]

def dump (s : Settings) : Json :=
  .record
    [ ("in_clause_parameter_padding", .bool s.padInLists),
      ("use_sql_comments", .bool s.sqlComments) ]

def ofJson? (j : Json) : Option Settings := do
  match ← j.fields? fieldNames with
  | [padding, comments] =>
    return {
      padInLists := ← Json.field? Json.bool? false padding
      sqlComments := ← Json.field? Json.bool? false comments }
  | _ => none

def parse (text : String) : Except Failure Settings :=
  match (Json.parse? text).bind ofJson? with
  | none => .error .malformedDocument
  | some settings => .ok settings

end Settings

end PortableSql
