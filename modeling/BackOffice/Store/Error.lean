import BackOffice.Connection.Options

/-!
# Errors of storage

What a database refuses (`DatabaseError`), and what the store makes of it for those who use it
(`StoreError`): a refusal passed on, stored data that cannot be, a row that is not there, or a value
that another row has.
-/

namespace BackOffice

/-- The kinds of refusals that a database tells apart. -/
inductive Violation where
  | unique
  /-- A row points at one that is not there. -/
  | foreignKey
  /-- A column that must have a value has none. -/
  | notNull
  /-- A row breaks a rule of its table. -/
  | check
  | other
deriving DecidableEq, Repr

/-- Why a statement or a connection fails. -/
inductive DatabaseError where
  | refused (kind : Violation) (text : String)
  /-- A query for one row has no answer. -/
  | rowNotFound
  /-- A count is too large for its column. -/
  | countTooLarge
  /-- The address of the database cannot be used. -/
  | badAddress (cause : ConnectionFault)
  | noConnection
deriving DecidableEq, Repr

namespace DatabaseError

def message : DatabaseError → String
  | .refused _ text => "error returned from database: " ++ text
  | .rowNotFound =>
    "no rows returned by a query that expected to return at least one row"
  | .countTooLarge =>
    "error occurred while encoding a value: number too large to fit in target type"
  | .badAddress cause => cause.message
  | .noConnection => "pool timed out while waiting for an open connection"

/-- A table that does not exist. -/
def noTable (table : String) : DatabaseError :=
  .refused .other ("relation \"" ++ table ++ "\" does not exist")

/-- A column that no table of the statement has. -/
def noColumn (column : String) : DatabaseError :=
  .refused .other ("column \"" ++ column ++ "\" does not exist")

/-- A column that the table a row is inserted into has not. -/
def noColumnOf (table column : String) : DatabaseError :=
  .refused .other
    ("column \"" ++ column ++ "\" of relation \"" ++ table ++ "\" does not exist")

/-- A column that a statement gives two values for. -/
def repeatedColumn (column : String) : DatabaseError :=
  .refused .other ("column \"" ++ column ++ "\" specified more than once")

/-- A schema that does not exist. -/
def noSchema (schema : String) : DatabaseError :=
  .refused .other ("schema \"" ++ schema ++ "\" does not exist")

/-- A table that is there already. -/
def tableExists (table : String) : DatabaseError :=
  .refused .other ("relation \"" ++ table ++ "\" already exists")

/-- A row that breaks a rule of its table. -/
def brokenCheck (table rule : String) : DatabaseError :=
  .refused .check
    ("new row for relation \"" ++ table ++ "\" violates check constraint \"" ++ rule ++ "\"")

/-- A key that another row has. -/
def duplicate (rule : String) : DatabaseError :=
  .refused .unique ("duplicate key value violates unique constraint \"" ++ rule ++ "\"")

/-- A row that points at one that is not there. -/
def dangling (table rule : String) : DatabaseError :=
  .refused .foreignKey
    ("insert or update on table \"" ++ table ++ "\" violates foreign key constraint \"" ++ rule ++
      "\"")

/-- A sequence of keys that is used up. -/
def noMoreKeys (sequence : String) : DatabaseError :=
  .refused .other
    ("nextval: reached maximum value of sequence \"" ++ sequence ++ "\" (2147483647)")

/-- Whether a statement is refused because another row has the same key. -/
def isDuplicate : DatabaseError → Bool
  | .refused .unique _ => true
  | _ => false

end DatabaseError

/-- What the store reports to those who use it. -/
inductive StoreError where
  | database (cause : DatabaseError)
  /-- Stored data cannot be. -/
  | corrupt (text : String)
  /-- The row that was named is not there. -/
  | notFound
  | conflict (text : String)
deriving DecidableEq, Repr

namespace StoreError

def message : StoreError → String
  | .database cause => "database error: " ++ cause.message
  | .corrupt text => "data corruption: " ++ text
  | .notFound => "not found"
  | .conflict text => "constraint violation: " ++ text

/-- Reports a key that another row has as a conflict, and any other failure as it is. -/
def ofRefusal (conflict : String) (cause : DatabaseError) : StoreError :=
  if cause.isDuplicate then .conflict conflict else .database cause

end StoreError

end BackOffice
