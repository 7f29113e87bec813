import SqlAccess.Result.Kind
import SqlAccess.Value.Convertible

/-!
# Capabilities

What the engine and the client can do does not change, so it is known without asking the engine. A
capability without arguments is looked up by its name (`fact?`): it is a flag, a number or a text.
The others are functions of what they are asked about.
-/

namespace SqlAccess.Metadata

/-! ## Defaults -/

/-- How far transactions are kept apart. -/
inductive Isolation
  | none
  | readUncommitted
  | readCommitted
  | repeatableRead
  | serializable
deriving DecidableEq, Inhabited

/-- The client's code of a level. -/
def Isolation.code : Isolation → Nat
  | none => 0
  | readUncommitted => 1
  | readCommitted => 2
  | repeatableRead => 4
  | serializable => 8

/-- The level with this code. -/
def Isolation.ofCode? : Nat → Option Isolation
  | 0 => some none
  | 1 => some readUncommitted
  | 2 => some readCommitted
  | 4 => some repeatableRead
  | 8 => some serializable
  | _ => Option.none

/-- The name of a level as one word. -/
def Isolation.identifier : Isolation → String
  | none => "None"
  | readUncommitted => "ReadUncommitted"
  | readCommitted => "ReadCommitted"
  | repeatableRead => "RepeatableRead"
  | serializable => "Serializable"

/-- The level of a new session. -/
def defaultIsolation : Isolation := .readCommitted

/-- How long the identifier of a row stays valid. -/
inductive RowIdLifetime
  | unsupported
  | transaction
  | session
  | forever
deriving DecidableEq, Inhabited

/-- The name of a lifetime as one word. -/
def RowIdLifetime.identifier : RowIdLifetime → String
  | unsupported => "Unsupported"
  | transaction => "ValidTransaction"
  | session => "ValidSession"
  | forever => "ValidForever"

/-- Rows have no identifiers. -/
def rowIdLifetime : RowIdLifetime := .unsupported

/-- What a commit does to a result set that does not say otherwise. -/
def defaultHoldability : Holdability := .holdOverCommit

/-! ## Capabilities without arguments -/

/-- What is known of a capability. -/
inductive Fact
  | flag (b : Bool)
  | number (n : Nat)
  | text (s : String)
deriving DecidableEq

/-- The capabilities that are there. -/
def present : List String := [
    "all_procedures_are_callable", "all_tables_are_selectable",
    "supports_stored_functions_using_call_syntax", "stores_upper_case_identifiers",
    "supports_mixed_case_quoted_identifiers", "supports_alter_table_with_add_column",
    "supports_alter_table_with_drop_column", "supports_column_aliasing", "supports_convert",
    "supports_table_correlation_names", "supports_expressions_in_order_by",
    "supports_order_by_unrelated", "supports_group_by", "supports_group_by_unrelated",
    "supports_group_by_beyond_select", "supports_like_escape_clause",
    "supports_multiple_result_sets", "supports_multiple_transactions",
    "supports_non_nullable_columns", "supports_minimum_sql_grammar", "supports_core_sql_grammar",
    "supports_extended_sql_grammar", "supports_ansi92_entry_level_sql",
    "supports_ansi92_intermediate_sql", "supports_ansi92_full_sql",
    "supports_integrity_enhancement_facility", "supports_outer_joins",
    "supports_full_outer_joins", "supports_limited_outer_joins", "supports_positioned_delete",
    "supports_positioned_update", "supports_select_for_update", "supports_stored_procedures",
    "supports_subqueries_in_comparisons", "supports_subqueries_in_exists",
    "supports_subqueries_in_ins", "supports_subqueries_in_quantifieds",
    "supports_correlated_subqueries", "supports_union", "supports_union_all",
    "is_catalog_at_start", "supports_schemas_in_data_manipulation",
    "supports_schemas_in_procedure_calls", "supports_schemas_in_table_definitions",
    "supports_schemas_in_index_definitions", "supports_schemas_in_privilege_definitions",
    "supports_catalogs_in_data_manipulation", "supports_catalogs_in_procedure_calls",
    "supports_catalogs_in_table_definitions", "supports_catalogs_in_index_definitions",
    "supports_catalogs_in_privilege_definitions", "does_max_row_size_include_blobs",
    "supports_transactions", "supports_data_manipulation_transactions_only",
    "data_definition_causes_transaction_commit", "supports_open_cursors_across_commit",
    "supports_open_statements_across_commit", "supports_open_statements_across_rollback",
    "supports_result_set_holdability", "supports_named_parameters",
    "supports_multiple_open_results"]

/-- The capabilities that are missing. Result sets are read-only, so no kind of them shows or
detects changes. -/
def missing : List String := [
    "uses_local_files", "uses_local_file_per_table", "locators_update_copy",
    "auto_commit_failure_closes_all_result_sets", "supports_mixed_case_identifiers",
    "stores_lower_case_identifiers", "stores_mixed_case_identifiers",
    "stores_upper_case_quoted_identifiers", "stores_lower_case_quoted_identifiers",
    "stores_mixed_case_quoted_identifiers", "supports_different_table_correlation_names",
    "supports_data_definition_and_data_manipulation_transactions",
    "data_definition_ignored_in_transactions", "supports_open_cursors_across_rollback",
    "supports_savepoints", "own_updates_are_visible", "own_deletes_are_visible",
    "own_inserts_are_visible", "others_updates_are_visible", "others_deletes_are_visible",
    "others_inserts_are_visible", "updates_are_detected", "deletes_are_detected",
    "inserts_are_detected", "supports_batch_updates", "supports_get_generated_keys",
    "generated_key_always_returned", "supports_statement_pooling", "supports_ref_cursors"]

/-- The greatest length of an identifier. -/
def maxIdentifierLength : Nat := 128

/-- Limits that are those of identifiers. -/
def identifierLimits : List String := [
    "max_column_name_length", "max_cursor_name_length", "max_schema_name_length",
    "max_procedure_name_length", "max_catalog_name_length", "max_table_name_length",
    "max_user_name_length"]

/-- Limits that do not exist or are not known; they are given as 0. -/
def absentLimits : List String := [
    "max_binary_literal_length", "max_char_literal_length", "max_columns_in_group_by",
    "max_columns_in_index", "max_columns_in_order_by", "max_columns_in_select",
    "max_columns_in_table", "max_connections", "max_index_length", "max_row_size",
    "max_statement_length", "max_statements", "max_tables_in_select"]

/-- Versions and the kind of SQLSTATE codes, 2 for those of the SQL standard. -/
def numbers : List (String × Nat) := [
    ("driver_major_version", 0), ("driver_minor_version", 3), ("api_major_version", 4),
    ("api_minor_version", 3), ("sql_state_type", 2)]

/-- Names, terms, separators, lists of words, and the defaults. -/
def texts : List (String × String) := [
    ("database_product_name", "Quarry Database Engine"),
    ("driver_name", "Quarry Database Engine Client"),
    ("driver_version", "0.3.0"),
    ("identifier_quote_string", "\""),
    ("sql_keywords",
      "ACTION,CACHED,CHECKPOINT,COMPACT,DATABASE,DEFRAG,EXPLAIN,LIMIT,MEMORY," ++
      "OFFSET,PLAN,SCRIPT,SEQUENCE,SHUTDOWN,TEMP,TEXT"),
    ("numeric_functions",
      "ABS,ACOS,ASIN,ATAN,ATAN2,CEILING,COS,COT,DEGREES,EXP,FLOOR,LOG," ++
      "LOG10,MOD,PI,POWER,RADIANS,RAND,ROUND,SIGN,SIN,SQRT,TAN,TRUNCATE"),
    ("string_functions",
      "ASCII,CHAR,CONCAT,DIFFERENCE,HEXTORAW,INSERT,LCASE,LEFT,LENGTH," ++
      "LOCATE,LTRIM,RAWTOHEX,REPEAT,REPLACE,RIGHT,RTRIM,SOUNDEX,SPACE,SUBSTR,SUBSTRING,UCASE," ++
      "LOWER,UPPER"),
    ("system_functions", "DATABASE,IFNULL,USER"),
    ("time_date_functions",
      "CURDATE,CURTIME,DATEDIFF,DAYNAME,DAYOFMONTH,DAYOFWEEK,DAYOFYEAR," ++
      "HOUR,MINUTE,MONTH,MONTHNAME,NOW,QUARTER,SECOND,SECONDS_SINCE_MIDNIGHT,TIMESTAMPADD," ++
      "TIMESTAMPDIFF,TO_CHAR,WEEK,YEAR"),
    ("search_string_escape", "\\"),
    ("extra_name_characters", ""),
    ("schema_term", "SCHEMA"),
    ("procedure_term", "PROCEDURE"),
    ("catalog_term", "CATALOG"),
    ("catalog_separator", "."),
    ("row_id_lifetime", rowIdLifetime.identifier),
    ("default_transaction_isolation", defaultIsolation.identifier),
    ("result_set_holdability", defaultHoldability.identifier)]

/-- The capability with this name. -/
def fact? (name : String) : Option Fact :=
  if name ∈ present then some (.flag true)
  else if name ∈ missing then some (.flag false)
  else if name ∈ identifierLimits then some (.number maxIdentifierLength)
  else if name ∈ absentLimits then some (.number 0)
  else ((numbers.lookup name).map .number).or ((texts.lookup name).map .text)

/-! ## Capabilities with arguments -/

/-- Every level that is one can be asked for; some are served by stronger ones. -/
def supportsIsolation (level : Isolation) : Bool :=
  level != .none

/-- Result sets are served that do not show changes by others. -/
def supportsScrolling (s : Scrolling) : Bool :=
  s != .sensitive

/-- Result sets are read-only. -/
def supportsConcurrency (s : Scrolling) (c : Concurrency) : Bool :=
  supportsScrolling s && c == .readOnly

/-- Values of one type can be converted to another. -/
def supportsConversion (source target : SqlType) : Bool :=
  SqlType.isConvertible source target

end SqlAccess.Metadata
