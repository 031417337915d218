import Mathlib.Data.List.Nodup
import Mathlib.Logic.Function.Basic

/-!
# Schema statements

The statements of a migration change a schema that already holds rows.  The
server refuses a statement that the schema does not allow and a statement whose
new constraint the rows violate, and it has no rollback: the statements executed
before a refusal stay.  A run on the schema alone is an abstraction of a run on
a database, so a chain of statements that gets stuck on the schema fails on every
content.
-/

namespace Bibliotheque.Ddl

inductive SqlError where
  | tableExists
  | unknownTable
  | unknownColumn
  | referencedTable
  | duplicateForeignKey
  | unknownForeignKey
  | multiplePrimaryKey
  | duplicateIndex
  | foreignKeyViolation
  | invalidRows
  deriving DecidableEq

structure ColumnDef (Column Kind : Type) where
  name : Column
  kind : Kind
  nullable : Bool

/-- The definition of a table.  A table without primary key has the empty list. -/
structure TableDef (Column Kind : Type) where
  columns : List (ColumnDef Column Kind)
  primaryKey : List Column
  uniqueIndexes : List (String × Column)

structure ForeignKey (Table Column : Type) where
  name : String
  source : Table
  column : Column
  target : Table
  references : Column
  cascade : Bool

structure Schema (Table Column Kind : Type) where
  tables : Table → Option (TableDef Column Kind)
  foreignKeys : List (ForeignKey Table Column)

inductive Statement (Table Column Kind : Type) where
  | createTable (table : Table) (definition : TableDef Column Kind)
  | dropTable (table : Table)
  | addForeignKey (key : ForeignKey Table Column)
  | dropForeignKey (table : Table) (name : String)
  /-- `ALTER TABLE ... CHANGE ..., ADD PRIMARY KEY (...)`. -/
  | changeColumns (table : Table) (columns : List (ColumnDef Column Kind))
      (primaryKey : List Column)
  | createUniqueIndex (name : String) (table : Table) (column : Column)

/-- A row gives each column a value or `NULL`. -/
abbrev Row (Column Value : Type) := Column → Option Value

variable {Table Column Kind Value : Type} [DecidableEq Table] [DecidableEq Column]

/-! ## Statements on a schema -/

namespace TableDef

/-- The definition after `CHANGE` of some columns. -/
def change (definition : TableDef Column Kind) (columns : List (ColumnDef Column Kind))
    (primaryKey : List Column) : TableDef Column Kind :=
  { definition with
    columns := definition.columns.map fun column =>
      (columns.find? (·.name = column.name)).getD column
    primaryKey := if primaryKey = [] then definition.primaryKey else primaryKey }

end TableDef

namespace Schema

def empty : Schema Table Column Kind where
  tables _ := none
  foreignKeys := []

/-- The schema with another definition of one table. -/
def define (schema : Schema Table Column Kind) (table : Table)
    (definition : TableDef Column Kind) : Schema Table Column Kind :=
  { schema with tables := Function.update schema.tables table (some definition) }

def execute (schema : Schema Table Column Kind) :
    Statement Table Column Kind → Except SqlError (Schema Table Column Kind)
  | .createTable table definition =>
      match schema.tables table with
      | some _ => .error .tableExists
      | none => .ok (schema.define table definition)
  | .dropTable table =>
      match schema.tables table with
      | none => .error .unknownTable
      | some _ =>
          if schema.foreignKeys.any fun key => key.target = table && key.source ≠ table then
            .error .referencedTable
          else .ok {
            tables := Function.update schema.tables table none
            foreignKeys := schema.foreignKeys.filter (·.source ≠ table) }
  | .addForeignKey key =>
      match schema.tables key.source, schema.tables key.target with
      | some _, some _ =>
          if schema.foreignKeys.any (·.name = key.name) then .error .duplicateForeignKey
          else .ok { schema with foreignKeys := schema.foreignKeys ++ [key] }
      | _, _ => .error .unknownTable
  | .dropForeignKey table name =>
      if schema.foreignKeys.any fun key => key.source = table && key.name = name then
        .ok { schema with foreignKeys :=
          schema.foreignKeys.filter fun key => !(key.source = table && key.name = name) }
      else .error .unknownForeignKey
  | .changeColumns table columns primaryKey =>
      match schema.tables table with
      | none => .error .unknownTable
      | some definition =>
          if columns.all fun column =>
              definition.columns.any fun known => known.name = column.name then
            if primaryKey ≠ [] ∧ definition.primaryKey ≠ [] then
              .error .multiplePrimaryKey
            else .ok (schema.define table (definition.change columns primaryKey))
          else .error .unknownColumn
  | .createUniqueIndex name table column =>
      match schema.tables table with
      | none => .error .unknownTable
      | some definition =>
          if definition.uniqueIndexes.any (·.1 = name) then .error .duplicateIndex
          else .ok (schema.define table
            { definition with uniqueIndexes := definition.uniqueIndexes ++ [(name, column)] })

/-- The schema where a sequence of statements stops, and why it stops early. -/
def migrate (schema : Schema Table Column Kind) :
    List (Statement Table Column Kind) → Schema Table Column Kind × Option SqlError
  | [] => (schema, none)
  | statement :: statements =>
      match schema.execute statement with
      | .ok after => after.migrate statements
      | .error error => (schema, some error)

end Schema

/-! ## Statements on a database -/

/-- The constraint a foreign key puts on the rows. -/
def ForeignKey.satisfied [DecidableEq Value] (key : ForeignKey Table Column)
    (rows : Table → List (Row Column Value)) : Bool :=
  (rows key.source).all fun row =>
    (row key.column).all fun value =>
      (rows key.target).any fun target => target key.references = some value

/-- A value or `NULL` in a column, given which values the column types hold. -/
def ColumnDef.admits (fits : Kind → Value → Bool) (column : ColumnDef Column Kind) :
    Option Value → Bool
  | none => column.nullable
  | some value => fits column.kind value

/-- The constraints of a table on its own rows. -/
def TableDef.accepts [DecidableEq Value] (fits : Kind → Value → Bool)
    (definition : TableDef Column Kind) (rows : List (Row Column Value)) : Bool :=
  (rows.all fun row => definition.columns.all fun column =>
    column.admits fits (row column.name)) &&
  (definition.primaryKey.isEmpty ||
    decide (rows.map fun row => definition.primaryKey.map row).Nodup) &&
  definition.uniqueIndexes.all fun index => decide (rows.filterMap (· index.2)).Nodup

omit [DecidableEq Column] in
/-- A column that is `NOT NULL` has a value in every row. -/
theorem TableDef.isSome_of_accepts [DecidableEq Value] {fits : Kind → Value → Bool}
    {definition : TableDef Column Kind} {rows : List (Row Column Value)}
    (haccepts : definition.accepts fits rows = true) {column : ColumnDef Column Kind}
    (hcolumn : column ∈ definition.columns) (hnullable : column.nullable = false)
    {row : Row Column Value} (hrow : row ∈ rows) : (row column.name).isSome := by
  simp only [accepts, Bool.and_eq_true, List.all_eq_true] at haccepts
  have hadmits := haccepts.1.1 row hrow column hcolumn
  cases hcell : row column.name with
  | none => simp [ColumnDef.admits, hcell, hnullable] at hadmits
  | some value => rfl

omit [DecidableEq Table] [DecidableEq Column] in
/-- A foreign key to an empty table leaves no room for rows. -/
theorem ForeignKey.satisfied_of_target_nil [DecidableEq Value] {key : ForeignKey Table Column}
    {rows : Table → List (Row Column Value)} (htarget : rows key.target = [])
    (hsome : ∀ row ∈ rows key.source, (row key.column).isSome) :
    key.satisfied rows = (rows key.source).isEmpty := by
  cases hsource : rows key.source with
  | nil => simp [satisfied, hsource]
  | cons row others =>
      obtain ⟨value, hvalue⟩ := Option.isSome_iff_exists.mp (hsome row (by simp [hsource]))
      simp [satisfied, hsource, hvalue, htarget]

structure Database (Table Column Kind Value : Type) where
  schema : Schema Table Column Kind
  rows : Table → List (Row Column Value)

/-- The constraint a statement adds, checked against the rows there are. -/
def Statement.violation [DecidableEq Value] (fits : Kind → Value → Bool)
    (after : Schema Table Column Kind) (rows : Table → List (Row Column Value)) :
    Statement Table Column Kind → Option SqlError
  | .addForeignKey key =>
      if key.satisfied rows then none else some .foreignKeyViolation
  | .changeColumns table _ _ | .createUniqueIndex _ table _ =>
      if (after.tables table).all fun definition => definition.accepts fits (rows table) then
        none
      else some .invalidRows
  | .createTable _ _ | .dropTable _ | .dropForeignKey _ _ => none

omit [DecidableEq Table] [DecidableEq Column] in
theorem Statement.violation_of_satisfied [DecidableEq Value] {fits : Kind → Value → Bool}
    {after : Schema Table Column Kind} {rows : Table → List (Row Column Value)}
    {key : ForeignKey Table Column} (hsatisfied : key.satisfied rows = true) :
    (Statement.addForeignKey key).violation fits after rows = none :=
  if_pos hsatisfied

omit [DecidableEq Table] [DecidableEq Column] in
theorem Statement.violation_of_not_satisfied [DecidableEq Value] {fits : Kind → Value → Bool}
    {after : Schema Table Column Kind} {rows : Table → List (Row Column Value)}
    {key : ForeignKey Table Column} (hsatisfied : key.satisfied rows = false) :
    (Statement.addForeignKey key).violation fits after rows = some .foreignKeyViolation := by
  simp [violation, hsatisfied]

/-- The rows a statement leaves.  None of them changes a row. -/
def Statement.effect (rows : Table → List (Row Column Value)) :
    Statement Table Column Kind → Table → List (Row Column Value)
  | .createTable table _ | .dropTable table => Function.update rows table []
  | _ => rows

namespace Database

variable [DecidableEq Value] (fits : Kind → Value → Bool)

def execute (database : Database Table Column Kind Value)
    (statement : Statement Table Column Kind) :
    Except SqlError (Database Table Column Kind Value) :=
  match database.schema.execute statement with
  | .error error => .error error
  | .ok after =>
      match statement.violation fits after database.rows with
      | some error => .error error
      | none => .ok ⟨after, statement.effect database.rows⟩

/-- The database where a sequence of statements stops, and why it stops early. -/
def migrate (database : Database Table Column Kind Value) :
    List (Statement Table Column Kind) →
      Database Table Column Kind Value × Option SqlError
  | [] => (database, none)
  | statement :: statements =>
      match database.execute fits statement with
      | .ok after => after.migrate statements
      | .error error => (database, some error)

/-- The rows satisfy the constraints of the schema. -/
structure Consistent (database : Database Table Column Kind Value) : Prop where
  accepts : ∀ table definition, database.schema.tables table = some definition →
    definition.accepts fits (database.rows table) = true
  satisfied : ∀ key ∈ database.schema.foreignKeys, key.satisfied database.rows = true
  absent : ∀ table, database.schema.tables table = none → database.rows table = []

/-! ## The schema abstracts the database -/

variable {fits} {database after : Database Table Column Kind Value}

theorem schema_of_execute {statement : Statement Table Column Kind}
    (hexecute : database.execute fits statement = .ok after) :
    database.schema.execute statement = .ok after.schema := by
  cases hschema : database.schema.execute statement with
  | error error => simp [execute, hschema] at hexecute
  | ok schema =>
      cases hviolation : statement.violation fits schema database.rows with
      | some error => simp [execute, hschema, hviolation] at hexecute
      | none =>
          simp only [execute, hschema, hviolation, Except.ok.injEq] at hexecute
          rw [← hexecute]

/-! One statement of a sequence. -/

section Step

variable {statement : Statement Table Column Kind} {schema : Schema Table Column Kind}
variable (statements : List (Statement Table Column Kind))

theorem migrate_cons_of_ok (hschema : database.schema.execute statement = .ok schema)
    (hviolation : statement.violation fits schema database.rows = none) :
    database.migrate fits (statement :: statements) =
      migrate fits ⟨schema, statement.effect database.rows⟩ statements := by
  simp only [migrate, execute, hschema, hviolation]

theorem migrate_cons_of_violation {error : SqlError}
    (hschema : database.schema.execute statement = .ok schema)
    (hviolation : statement.violation fits schema database.rows = some error) :
    database.migrate fits (statement :: statements) = (database, some error) := by
  simp only [migrate, execute, hschema, hviolation]

theorem migrate_cons_of_error {error : SqlError}
    (hschema : database.schema.execute statement = .error error) :
    database.migrate fits (statement :: statements) = (database, some error) := by
  simp only [migrate, execute, hschema]

end Step

/-- A sequence that succeeds on some rows succeeds on the schema. -/
theorem schema_of_migrate (statements : List (Statement Table Column Kind)) :
    ∀ database : Database Table Column Kind Value,
      (database.migrate fits statements).2 = none →
        (database.schema.migrate statements).2 = none := by
  induction statements with
  | nil => exact fun _ _ => rfl
  | cons statement statements ih =>
      intro database hmigrate
      cases hexecute : database.execute fits statement with
      | error error => simp [migrate, hexecute] at hmigrate
      | ok after =>
          simp only [migrate, hexecute] at hmigrate
          simp only [Schema.migrate, schema_of_execute hexecute]
          exact ih after hmigrate

end Database

end Bibliotheque.Ddl
