import RuleCatalog.Store.Request

/-! # Statements

What a database does for the statements that it is given. Its tables are declared with the columns
in which no two rows may agree and with the columns that refer to rows of other tables. Whether a
row agrees with one that there is already is found out before anything is written. Whether all rows
are there to which it refers is found out at the end of a statement.
-/

namespace RuleCatalog.Store.Sql

/-- What stands in a column that is not empty. -/
inductive Cell where
  | text (s : String)
  | uuid (id : Uuid)
  | row (id : RowId)
  deriving DecidableEq, Repr

structure Column (α : Type) where
  name : String
  cell : α → Cell

/-- A column with the id of a row of another table. It may be empty. -/
structure Reference (δ α : Type) where
  cell : α → Option RowId
  /-- The ids of the rows that there are. -/
  ids : δ → List RowId

/-- How a table of a database `δ` is declared, with rows `α`. -/
structure Table (δ α : Type) where
  name : String
  rows : δ → List α
  withRows : δ → List α → δ
  /-- The columns in which no two rows agree. -/
  unique : List (Column α)
  references : List (Reference δ α)

/-- Changes the first row of a kind. -/
def updateFirst {α : Type} (p : α → Bool) (f : α → α) : List α → List α
  | [] => []
  | row :: rest => if p row then f row :: rest else row :: updateFirst p f rest

namespace Table

variable {δ α : Type} (table : Table δ α)

/-- Two rows that cannot both be in the table. -/
def conflict (a b : α) : Bool := table.unique.all fun column => column.cell a == column.cell b

/-- How it is told that a row is in conflict with another one. -/
def notUnique : Error :=
  .unique ("UNIQUE constraint failed: " ++
    ", ".intercalate (table.unique.map fun column => table.name ++ "." ++ column.name))

/-- Whether there are all rows to which a row refers. -/
def linked (db : δ) (row : α) : Bool :=
  table.references.all fun reference => (reference.cell row).all (reference.ids db).contains

/-- Ends a statement that leaves the table with a row that was not there before. -/
def finish (db : δ) (row : α) (rows : List α) : Except Error δ :=
  let db := table.withRows db rows
  if table.linked db row then .ok db else .error (.foreignKey "FOREIGN KEY constraint failed")

/-- `INSERT INTO table` -/
def insert (row : α) (db : δ) : Except Error δ :=
  if (table.rows db).any (table.conflict · row) then .error table.notUnique
  else table.finish db row (table.rows db ++ [row])

/-- `INSERT INTO table ON CONFLICT DO UPDATE SET RETURNING`: a row that is in the way is changed in
view of the one that was to be inserted. Gives the row that is in the table then. -/
def upsert (set : α → α → α) (row : α) (db : δ) : Except Error (α × δ) :=
  match (table.rows db).find? (table.conflict · row) with
  | none => (table.insert row db).map (row, ·)
  | some old =>
    let kept := set old row
    (table.finish db kept (updateFirst (table.conflict · row) (set · row) (table.rows db))).map
      (kept, ·)

end Table

/-- `JOIN ON`: the pairs of rows of two tables that belong together. -/
def join {α β : Type} (on : α → β → Bool) (rows : List α) (others : List β) : List (α × β) :=
  rows.flatMap fun row => (others.filter (on row)).map (row, ·)

end RuleCatalog.Store.Sql
