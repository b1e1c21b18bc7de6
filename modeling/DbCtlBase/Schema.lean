import DbCtlBase.Datum

/-!
The schema descriptors an embedding hands to `ctl_init` (`db-ctl-base.h`): table
classes with their columns, the row-id paths of `struct ctl_table_class`, and the
`show` layout of `struct cmd_show_table`. They are fixed for the life of the
process, so the model passes them around as plain values.
-/

namespace DbCtlBase

/-- `struct ovsdb_idl_column`: a column's name and type. -/
structure Column where
  name : String
  type : OvsdbType
  deriving DecidableEq, Repr

/-- `struct ovsdb_idl_table_class`: a table's name, whether it is in the root set,
and its columns. -/
structure TableClass where
  name : String
  isRoot : Bool
  columns : List Column
  deriving DecidableEq, Repr

/-- `struct ctl_row_id`: a row may be named by the string in `nameColumn` of a row
of `table`; that row is the one named, or, through `uuidColumn`, points to it. -/
structure RowId where
  table : Option TableClass
  nameColumn : Option Column
  uuidColumn : Option Column
  deriving DecidableEq, Repr

/-- `struct ctl_table_class`: a table class and the ways to name its rows. -/
structure CtlTableClass where
  cls : TableClass
  rowIds : List RowId
  deriving DecidableEq, Repr

/-- `struct weak_ref_table`: rows of `table` whose `wrefColumn` points back at a
shown row are listed under it by `nameColumn`. -/
structure WeakRefTable where
  table : Option TableClass
  nameColumn : Option Column
  wrefColumn : Option Column
  deriving DecidableEq, Repr

/-- `struct cmd_show_table`: how `show` prints the rows of `table`. The `columns`
array may hold `NULL` entries, as `none`. -/
structure CmdShowTable where
  table : TableClass
  nameColumn : Option Column
  columns : List (Option Column)
  wrefTable : WeakRefTable
  deriving DecidableEq, Repr

end DbCtlBase
