import FilterSql.Filter.Parser
import FilterSql.Options
import FilterSql.Order
import FilterSql.Rendering

/-! Queries: a predicate and an order with the values bound for them. -/

namespace FilterSql

structure Query where
  predicate : Option Predicate
  order : Option Order
  bindings : Bindings
  deriving DecidableEq, Repr

namespace Query

/-- The parts that are there, with a space between them. -/
def sql (q : Query) : String :=
  match q.predicate, q.order with
  | some p, some o => p.sql ++ o.clause
  | some p, none => p.sql
  | none, some o => o.sql
  | none, none => ""

/-- Each value under the name of its placeholder. -/
def parametersJson (q : Query) : Json :=
  q.bindings.toJson

def toJson (q : Query) : Json :=
  .object [("sql", .string q.sql), ("params", q.parametersJson)]

end Query

/-- What turns filters and sort keys into queries. -/
structure Converter where
  rename : String → String
  options : Options

namespace Converter

def resolver (c : Converter) : Resolver :=
  ⟨c.rename, c.options.allowedColumns⟩

def renderer (c : Converter) : Renderer :=
  ⟨c.resolver, c.options.caseInsensitive⟩

/-- The predicate of a filter and the values in it; a blank filter has none. -/
def predicate (c : Converter) (filter : Option String) :
    Except FilterError (Option Predicate × Bindings) :=
  let text := filter.getD ""
  if Text.allBlank text then .ok (none, .empty)
  else do
    let tree ← Filter.ofText c.options.precedence text
    match c.renderer.render tree .empty with
    | (.error e, _) => .error e
    | (.ok p, bindings) => .ok (some p, bindings)

def convert (c : Converter) (filter key : Option String) (direction : Direction) :
    Except FilterError Query := do
  let (predicate, bindings) ← c.predicate filter
  let order ← Order.ofKey c.resolver key direction
  return ⟨predicate, order, bindings⟩

end Converter

end FilterSql
