import FilterSql.Json

/-! Values bound to the placeholders of a query. -/

namespace FilterSql

inductive Parameter
  | text (s : String)
  | number (n : Number)
  | boolean (b : Bool)
  | timestamp (instant : Instant)
  deriving DecidableEq, Repr

namespace Parameter

def typeName : Parameter → String
  | text _ => "text"
  | number (.integer _) => "integer"
  | number (.decimal _) => "decimal"
  | boolean _ => "boolean"
  | timestamp _ => "timestamp"

/-- The value as reports show it. -/
def shown : Parameter → String
  | text s => Text.quote s
  | number n => n.text
  | boolean b => Literal.booleanText b
  | timestamp instant => instant.text

def toJson : Parameter → Json
  | text s => .string s
  | number n => .ofNumber n
  | boolean b => .bool b
  | timestamp instant => .string instant.text

end Parameter

/-- Bound values with their names, in the order in which they were bound. -/
structure Bindings where
  toList : List (String × Parameter)
  deriving DecidableEq, Repr

namespace Bindings

def empty : Bindings := ⟨[]⟩

def size (b : Bindings) : Nat :=
  b.toList.length

def isEmpty (b : Bindings) : Bool :=
  b.toList.isEmpty

/-- The name for the next value when `n` values are bound. -/
def placeholder (n : Nat) : String :=
  "__value_" ++ Number.integerText n

/-- Records a value under the next name. -/
def push (b : Bindings) (value : Parameter) : Bindings :=
  ⟨b.toList ++ [(placeholder b.size, value)]⟩

/-- Records a value, and returns the name it is recorded under. -/
def bind (b : Bindings) (value : Parameter) : String × Bindings :=
  (placeholder b.size, b.push value)

def names (b : Bindings) : List String :=
  b.toList.map Prod.fst

def get? (b : Bindings) (name : String) : Option Parameter :=
  b.toList.lookup name

def toJson (b : Bindings) : Json :=
  .object (b.toList.map fun entry => (entry.1, entry.2.toJson))

end Bindings

end FilterSql
