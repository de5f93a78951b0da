import PortableSql.Dialect.Basic

/-! Database profiles: how a database differs from the standard, as far as that depends on
nothing but its version. The dialect of a profile takes in, last of all, what the
database reported about itself. -/

namespace PortableSql

structure Profile where
  config : Version → Config
  typeNames : Version → List TypeNameTable.Change := fun _ => []
  keywords : List String := []
  functions : List FunctionTable.Change := []
  casts : List CastMatrix.Change := []
  uniqueKeys : UniqueKeyStyle := .alterTable

namespace Profile

/-- The changes that a profile makes to the standard tables. -/
def changes (p : Profile) (v : Version) : List Registrations.Change :=
  (p.typeNames v).map .typeName ++ [.keyword (.registerAll p.keywords)] ++
    p.functions.map .function ++ p.casts.map .cast

def draft (p : Profile) (info : ResolutionInfo) : Draft :=
  let start := (Draft.standard (p.config info.version)).register (p.changes info.version)
  { start with uniqueKeys := p.uniqueKeys }.resolve info

def dialect (p : Profile) (info : ResolutionInfo) : Dialect := (p.draft info).build

end Profile

/-- A profile without any difference. -/
def standardProfile : Profile := { config := fun _ => .standard }

/-- Register one pattern for several codes. -/
def TypeNameTable.Change.registerEach (codes : List TypeCode) (pattern : String) :
    List TypeNameTable.Change :=
  codes.map fun code => .register code pattern

end PortableSql
