import PortableSql.Dialect.Basic

/-! Schemas and catalogs, for databases that can create them. -/

namespace PortableSql.Dialect

/-- Words before a name, where the database has the capability they take. -/
def namespaceStatement (d : Dialect) (needed : Capability) (feature : Feature)
    (words name : String) : Except Failure String := do
  d.demand (d.can needed) feature
  return words ++ " " ++ d.renderIdentifier name

def createSchema (d : Dialect) (name : String) : Except Failure String :=
  d.namespaceStatement .canCreateSchema .createSchema d.config.ddl.createSchema name

def dropSchema (d : Dialect) (name : String) : Except Failure String :=
  d.namespaceStatement .canCreateSchema .dropSchema d.config.ddl.dropSchema name

def createCatalog (d : Dialect) (name : String) : Except Failure String :=
  d.namespaceStatement .canCreateCatalog .createCatalog d.config.ddl.createCatalog name

def dropCatalog (d : Dialect) (name : String) : Except Failure String :=
  d.namespaceStatement .canCreateCatalog .dropCatalog d.config.ddl.dropCatalog name

end PortableSql.Dialect
