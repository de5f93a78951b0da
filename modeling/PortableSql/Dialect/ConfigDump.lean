import PortableSql.Dialect.Config

/-! The configuration as a document. Options that are absent are written as null. -/

namespace PortableSql

open Json (text nat record option)

def Capabilities.dump (c : Capabilities) : Json :=
  record (Capability.all.map fun x => (x.name, .bool (c.has x)))

def DdlWords.dump (w : DdlWords) : Json :=
  record
    [ ("create_table", text w.createTable),
      ("table_type", text w.tableType),
      ("cascade_constraints", text w.cascadeConstraints),
      ("add_column", text w.addColumn),
      ("add_column_suffix", text w.addColumnSuffix),
      ("drop_foreign_key", text w.dropForeignKey),
      ("drop_unique_key", text w.dropUniqueKey),
      ("null_column", text w.nullColumn),
      ("create_schema", text w.createSchema),
      ("drop_schema", text w.dropSchema),
      ("create_catalog", text w.createCatalog),
      ("drop_catalog", text w.dropCatalog),
      ("drop_index_on_table", .bool w.dropIndexOnTable),
      ("inline_comments", .bool w.inlineComments) ]

def LockClauses.dump (c : LockClauses) : Json :=
  record
    [ ("for_update", text c.forUpdate),
      ("for_share", option text c.forShare),
      ("nowait", option text c.nowait),
      ("skip_locked", option text c.skipLocked),
      ("wait", option text c.wait),
      ("row_lock_strategy", text c.target.name),
      ("write_hint", option text c.writeHint),
      ("read_hint", option text c.readHint),
      ("supports_with_order_by", .bool c.withOrderBy) ]

def SizeDefaults.dump (d : SizeDefaults) : Json :=
  record
    [ ("lob_length", nat d.lobLength),
      ("decimal_precision", nat d.decimalPrecision),
      ("decimal_scale", nat d.decimalScale),
      ("timestamp_precision", nat d.timestampPrecision),
      ("float_precision", nat d.floatPrecision),
      ("double_precision", nat d.doublePrecision) ]

def Size.dump (s : Size) : Json :=
  record
    [ ("length", option nat s.length),
      ("precision", option nat s.precision),
      ("scale", option nat s.scale) ]

def SequenceSupport.dump (s : SequenceSupport) : Json :=
  record
    [ ("supported", .bool s.supported),
      ("pooled", .bool s.pooled),
      ("next_value", text s.nextValue),
      ("select_next_value", text s.selectNextValue) ]

def IdentitySupport.dump (s : IdentitySupport) : Json :=
  record
    [ ("supported", .bool s.supported),
      ("column_string", text s.columnClause),
      ("has_data_type", .bool s.hasDataType),
      ("select_string", option text s.selectLast) ]

def QuoteStyle.dump (q : QuoteStyle) : Json :=
  record
    [ ("open", text q.opening.toString),
      ("close", text q.closing.toString) ]

def Config.dump (c : Config) : Json :=
  record
    [ ("name", text c.name),
      ("capabilities", c.capabilities.dump),
      ("ddl", c.ddl.dump),
      ("locking", c.locking.dump),
      ("sizes", c.sizes.dump),
      ("sequences", c.sequences.dump),
      ("identity", c.identity.dump),
      ("quote", c.quote.dump),
      ("boolean_representation", text c.booleanRepresentation.name),
      ("true_literal", text c.trueLiteral),
      ("false_literal", text c.falseLiteral),
      ("date_time_literals", text c.momentLiterals.name),
      ("in_list_ceiling", .int c.inListCeiling),
      ("max_alias_length", nat c.maxAliasLength),
      ("max_identifier_length", option nat c.maxIdentifierLength),
      ("no_columns_insert", text c.noColumnsInsert),
      ("trim", text c.trim.name),
      ("extract_pattern", text c.extractPattern),
      ("current_timestamp_select", text c.currentTimestampSelect),
      ("ref_cursor_type", option text c.refCursorType) ]

end PortableSql
