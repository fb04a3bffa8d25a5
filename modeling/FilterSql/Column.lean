import FilterSql.Text.Name

/-! Columns: where an attribute's values are stored, and of which kind they are. -/

namespace FilterSql

inductive ColumnKind
  | text
  | integer
  | timestamp
  deriving DecidableEq, Repr

namespace ColumnKind

/-- Every kind but text has values of its own, which are compared as they are. -/
def isTyped : ColumnKind → Bool
  | text => false
  | integer | timestamp => true

/-- What a column of the kind can be compared with, in words. -/
def expectation : ColumnKind → String
  | text => "text"
  | integer => "a number"
  | timestamp => "an ISO-8601 timestamp"

end ColumnKind

structure Column where
  name : String
  kind : ColumnKind
  deriving DecidableEq, Repr

/-- An attribute that every resource has, and the column that holds it. -/
structure BuiltIn where
  path : String
  column : Column
  deriving DecidableEq, Repr

namespace BuiltIn

def all : List BuiltIn :=
  [⟨"meta.version", ⟨"version", .integer⟩⟩,
   ⟨"meta.created", ⟨"created", .timestamp⟩⟩,
   ⟨"meta.lastModified", ⟨"lastModified", .timestamp⟩⟩]

def ofAttribute? (path : String) : Option BuiltIn :=
  all.find? fun b => b.path == path

def ofColumn? (name : String) : Option BuiltIn :=
  all.find? fun b => b.column.name == name

end BuiltIn

end FilterSql
