import FilterSql.Filter.Error

/-! Finding the column of an attribute. -/

namespace FilterSql

/-- Renaming goes first; an allow-list, where there is one, has the last word. -/
structure Resolver where
  rename : String → String
  allowed : Option (List String)

namespace Resolver

def allows (r : Resolver) (column : String) : Bool :=
  match r.allowed with
  | some columns => columns.contains column
  | none => true

/-- A built-in attribute lives in its own column unless it is renamed. -/
def columnName (r : Resolver) (path : String) : String :=
  let renamed := r.rename path
  match BuiltIn.ofAttribute? path with
  | some b => if renamed == path then b.column.name else renamed
  | none => renamed

/-- A built-in attribute keeps its kind under any name, and a built-in column has its kind whichever
attribute leads to it. -/
def kind (path column : String) : ColumnKind :=
  match (BuiltIn.ofAttribute? path).or (BuiltIn.ofColumn? column) with
  | some b => b.column.kind
  | none => .text

def resolve (r : Resolver) (path : String) : Except FilterError Column :=
  let name := r.columnName path
  if !Text.isName name then .error (.invalidColumn path name)
  else if !r.allows name then .error (.unknownAttribute path)
  else .ok ⟨name, kind path name⟩

end Resolver

end FilterSql
