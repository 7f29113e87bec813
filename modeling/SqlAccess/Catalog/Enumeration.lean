import SqlAccess.Catalog.Query

/-!
# Catalog enumerations

The engine's catalog lists tables, columns, keys, routines, types and grants. Each enumeration is
one query on a catalog view, narrowed to what the client asks for and given a fixed order. Most are
narrowed to a catalog and a schema, the place that the objects are in.
-/

namespace SqlAccess

/-- Where objects are, as far as a client says. -/
structure Place where
  catalog : Option String
  schema : Option String
deriving DecidableEq, Inhabited

namespace Place

/-- The conditions on two columns that a name and a name have to be in. -/
def named (p : Place) (catalogColumn schemaColumn : String) : List Clause :=
  [.equals catalogColumn p.catalog, .equals schemaColumn p.schema]

/-- The conditions on two columns that a name and a pattern have to match. -/
def matching (p : Place) (catalogColumn schemaColumn : String) : List Clause :=
  [.equals catalogColumn p.catalog, .like schemaColumn p.schema]

end Place

/-- How long a row identifier stays valid. -/
inductive RowScope
  | temporary
  | transaction
  | session
deriving DecidableEq

namespace RowScope

/-- The code of a scope in the catalog. -/
def code : RowScope → Int
  | temporary => 0
  | transaction => 1
  | session => 2

/-- The codes of the scopes that are at least as long. -/
def codesFrom (s : RowScope) : List Int :=
  ([temporary, transaction, session].map code).filter (s.code ≤ ·)

/-- The scope with this code. -/
def ofCode? (n : Int) : Option RowScope :=
  [temporary, transaction, session].find? fun s => s.code == n

end RowScope

/-- What a client asks the catalog to list. Names that are patterns may hold wildcards. -/
inductive Enumeration
  | tables (place : Place) (table : Option String) (types : Option (List String))
  | columns (place : Place) (table column : Option String)
  | schemas (place : Place)
  | catalogs
  | tableTypes
  | columnPrivileges (place : Place) (table column : Option String)
  | tablePrivileges (place : Place) (table : Option String)
  | bestRowIdentifiers (place : Place) (table : String) (scope : RowScope) (nullable : Bool)
  | versionColumns (place : Place) (table : String)
  | primaryKeys (place : Place) (table : String)
  | importedKeys (place : Place) (table : String)
  | exportedKeys (place : Place) (table : String)
  | crossReferences (parent : Place) (parentTable : String) (foreign : Place)
      (foreignTable : String)
  | typeInfo
  | indexes (place : Place) (table : String) (unique : Bool)
  | procedures (place : Place) (procedure : Option String)
  | procedureColumns (place : Place) (procedure column : Option String)
  | functions (place : Place) (function : Option String)
  | userTypes (place : Place) (type : Option String) (codes : Option (List Int))
  | attributes (place : Place) (type attr : Option String)
  | superTypes (place : Place) (type : Option String)
  | superTables (place : Place) (table : Option String)
  | clientProperties
deriving DecidableEq

namespace Enumeration

/-- The columns of the view of column grants. -/
def columnGrantColumns : String :=
  "TABLE_CATALOG TABLE_CAT, TABLE_SCHEMA TABLE_SCHEM, TABLE_NAME, COLUMN_NAME, " ++
  "GRANTOR, GRANTEE, PRIVILEGE_TYPE PRIVILEGE, IS_GRANTABLE"

/-- The columns of the view of table grants. -/
def tableGrantColumns : String :=
  "TABLE_CATALOG TABLE_CAT, TABLE_SCHEMA TABLE_SCHEM, TABLE_NAME, " ++
  "GRANTOR, GRANTEE, PRIVILEGE_TYPE PRIVILEGE, IS_GRANTABLE"

/-- The columns of the view of row identifiers. -/
def rowIdentifierColumns : String :=
  "SCOPE, COLUMN_NAME, DATA_TYPE, TYPE_NAME, COLUMN_SIZE, BUFFER_LENGTH, " ++
  "DECIMAL_DIGITS, PSEUDO_COLUMN"

/-- The start of a query for functions. -/
def functionStart : String :=
  "SELECT ROUTINE_CATALOG AS FUNCTION_CAT, ROUTINE_SCHEMA AS FUNCTION_SCHEM, " ++
  "ROUTINE_NAME AS FUNCTION_NAME, CAST(NULL AS VARCHAR(1)) AS REMARKS, " ++
  "1 AS FUNCTION_TYPE, SPECIFIC_NAME " ++
  "FROM INFORMATION_SCHEMA.ROUTINES WHERE ROUTINE_TYPE = 'FUNCTION'"

/-- The start of a query for type hierarchies, of which there are none. -/
def superTypeStart : String :=
  "SELECT * FROM (VALUES(NULL, NULL, NULL, NULL, NULL, NULL)) " ++
  "AS X(TYPE_CAT, TYPE_SCHEM, TYPE_NAME, SUPERTYPE_CAT, SUPERTYPE_SCHEM, SUPERTYPE_NAME) " ++
  "WHERE FALSE"

/-- The start of a query for table hierarchies, of which there are none. -/
def superTableStart : String :=
  "SELECT * FROM (VALUES(NULL, NULL, NULL, NULL)) " ++
  "AS X(TABLE_CAT, TABLE_SCHEM, TABLE_NAME, SUPERTABLE_NAME) " ++
  "WHERE FALSE"

/-- The query of an enumeration. -/
def query : Enumeration → CatalogQuery
  | tables place table types =>
    .ofView "SYSTEM_TABLES" (place.matching "TABLE_CAT" "TABLE_SCHEM" ++
      [.like "TABLE_NAME" table, .oneOf "TABLE_TYPE" types,
        .orderBy ["TABLE_TYPE", "TABLE_SCHEM", "TABLE_NAME"]])
  | columns place table column =>
    .ofView "SYSTEM_COLUMNS" (place.matching "TABLE_CAT" "TABLE_SCHEM" ++
      [.like "TABLE_NAME" table, .like "COLUMN_NAME" column,
        .orderBy ["TABLE_CAT", "TABLE_SCHEM", "TABLE_NAME", "ORDINAL_POSITION"]])
  | schemas place =>
    .ofView "SYSTEM_SCHEMAS" (place.matching "TABLE_CATALOG" "TABLE_SCHEM" ++
      [.orderBy ["TABLE_CATALOG", "TABLE_SCHEM"]])
  | catalogs =>
    ⟨"SELECT CATALOG_NAME AS TABLE_CAT FROM INFORMATION_SCHEMA.INFORMATION_SCHEMA_CATALOG_NAME",
      []⟩
  | tableTypes => ⟨"SELECT TABLE_TYPE FROM INFORMATION_SCHEMA.SYSTEM_TABLETYPES", []⟩
  | columnPrivileges place table column =>
    .select columnGrantColumns "COLUMN_PRIVILEGES" (place.named "TABLE_CATALOG" "TABLE_SCHEMA" ++
      [.equals "TABLE_NAME" table, .like "COLUMN_NAME" column,
        .orderBy ["COLUMN_NAME", "PRIVILEGE"]])
  | tablePrivileges place table =>
    .select tableGrantColumns "TABLE_PRIVILEGES" (place.matching "TABLE_CATALOG" "TABLE_SCHEMA" ++
      [.like "TABLE_NAME" table, .orderBy ["TABLE_SCHEM", "TABLE_NAME", "PRIVILEGE"]])
  | bestRowIdentifiers place table scope nullable =>
    .select rowIdentifierColumns "SYSTEM_BESTROWIDENTIFIER"
      (place.named "TABLE_CAT" "TABLE_SCHEM" ++
        [.equals "TABLE_NAME" table, .oneOfInts "SCOPE" scope.codesFrom,
          .equalsInt "NULLABLE" (if nullable then none else some 0), .orderBy ["SCOPE"]])
  | versionColumns place table =>
    .ofView "SYSTEM_VERSIONCOLUMNS" (place.named "TABLE_CAT" "TABLE_SCHEM" ++
      [.equals "TABLE_NAME" table])
  | primaryKeys place table =>
    .ofView "SYSTEM_PRIMARYKEYS" (place.named "TABLE_CAT" "TABLE_SCHEM" ++
      [.equals "TABLE_NAME" table, .orderBy ["COLUMN_NAME"]])
  | importedKeys place table =>
    .ofView "SYSTEM_CROSSREFERENCE" (place.named "FKTABLE_CAT" "FKTABLE_SCHEM" ++
      [.equals "FKTABLE_NAME" table,
        .orderBy ["PKTABLE_CAT", "PKTABLE_SCHEM", "PKTABLE_NAME", "KEY_SEQ"]])
  | exportedKeys place table =>
    .ofView "SYSTEM_CROSSREFERENCE" (place.named "PKTABLE_CAT" "PKTABLE_SCHEM" ++
      [.equals "PKTABLE_NAME" table,
        .orderBy ["FKTABLE_CAT", "FKTABLE_SCHEM", "FKTABLE_NAME", "KEY_SEQ"]])
  | crossReferences parent parentTable foreign foreignTable =>
    .ofView "SYSTEM_CROSSREFERENCE" (parent.named "PKTABLE_CAT" "PKTABLE_SCHEM" ++
      .equals "PKTABLE_NAME" parentTable :: foreign.named "FKTABLE_CAT" "FKTABLE_SCHEM" ++
      [.equals "FKTABLE_NAME" foreignTable,
        .orderBy ["FKTABLE_CAT", "FKTABLE_SCHEM", "FKTABLE_NAME", "KEY_SEQ"]])
  | typeInfo => .ofView "SYSTEM_TYPEINFO" [.orderBy ["DATA_TYPE", "TYPE_NAME"]]
  | indexes place table unique =>
    .ofView "SYSTEM_INDEXINFO" (place.named "TABLE_CAT" "TABLE_SCHEM" ++
      [.equals "TABLE_NAME" table, .equalsBool "NON_UNIQUE" (if unique then some false else none),
        .orderBy ["NON_UNIQUE", "TYPE", "INDEX_NAME", "ORDINAL_POSITION"]])
  | procedures place procedure =>
    .ofView "SYSTEM_PROCEDURES" (place.matching "PROCEDURE_CAT" "PROCEDURE_SCHEM" ++
      [.like "PROCEDURE_NAME" procedure,
        .orderBy ["PROCEDURE_CAT", "PROCEDURE_SCHEM", "PROCEDURE_NAME", "SPECIFIC_NAME"]])
  | procedureColumns place procedure column =>
    .ofView "SYSTEM_PROCEDURECOLUMNS" (place.matching "PROCEDURE_CAT" "PROCEDURE_SCHEM" ++
      [.like "PROCEDURE_NAME" procedure, .like "COLUMN_NAME" column,
        .orderBy ["PROCEDURE_CAT", "PROCEDURE_SCHEM", "PROCEDURE_NAME", "SPECIFIC_NAME"]])
  | functions place function =>
    ⟨functionStart, place.matching "ROUTINE_CATALOG" "ROUTINE_SCHEMA" ++
      [.like "ROUTINE_NAME" function,
        .orderBy ["FUNCTION_CAT", "FUNCTION_SCHEM", "FUNCTION_NAME", "SPECIFIC_NAME"]]⟩
  | userTypes place type codes =>
    .ofView "SYSTEM_UDTS" (place.matching "TYPE_CAT" "TYPE_SCHEM" ++
      [.like "TYPE_NAME" type, .oneOfInts "DATA_TYPE" codes,
        .orderBy ["DATA_TYPE", "TYPE_CAT", "TYPE_SCHEM", "TYPE_NAME"]])
  | attributes place type attr =>
    .ofView "SYSTEM_UDTATTRIBUTES" (place.matching "TYPE_CAT" "TYPE_SCHEM" ++
      [.like "TYPE_NAME" type, .like "ATTR_NAME" attr,
        .orderBy ["TYPE_CAT", "TYPE_SCHEM", "TYPE_NAME", "ORDINAL_POSITION"]])
  | superTypes place type =>
    ⟨superTypeStart, place.matching "TYPE_CAT" "TYPE_SCHEM" ++ [.like "TYPE_NAME" type]⟩
  | superTables place table =>
    ⟨superTableStart, place.matching "TABLE_CAT" "TABLE_SCHEM" ++ [.like "TABLE_NAME" table]⟩
  | clientProperties =>
    ⟨"SELECT * FROM INFORMATION_SCHEMA.SYSTEM_CONNECTION_PROPERTIES", []⟩

/-- The enumeration with each of its places taken to another one, in the order they are given. -/
def mapPlaces {m : Type → Type} [Monad m] (f : Place → m Place) : Enumeration → m Enumeration
  | tables place table types => return tables (← f place) table types
  | columns place table column => return columns (← f place) table column
  | schemas place => return schemas (← f place)
  | columnPrivileges place table column => return columnPrivileges (← f place) table column
  | tablePrivileges place table => return tablePrivileges (← f place) table
  | bestRowIdentifiers place table scope nullable =>
    return bestRowIdentifiers (← f place) table scope nullable
  | versionColumns place table => return versionColumns (← f place) table
  | primaryKeys place table => return primaryKeys (← f place) table
  | importedKeys place table => return importedKeys (← f place) table
  | exportedKeys place table => return exportedKeys (← f place) table
  | crossReferences parent parentTable foreign foreignTable =>
    return crossReferences (← f parent) parentTable (← f foreign) foreignTable
  | indexes place table unique => return indexes (← f place) table unique
  | procedures place procedure => return procedures (← f place) procedure
  | procedureColumns place procedure column =>
    return procedureColumns (← f place) procedure column
  | functions place function => return functions (← f place) function
  | userTypes place type codes => return userTypes (← f place) type codes
  | attributes place type attr => return attributes (← f place) type attr
  | superTypes place type => return superTypes (← f place) type
  | superTables place table => return superTables (← f place) table
  | e => return e

end Enumeration

end SqlAccess
