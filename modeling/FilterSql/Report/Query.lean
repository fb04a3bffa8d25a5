import FilterSql.Query
import FilterSql.Report.Styled

/-! A query as a report: its SQL, and a table of the values bound in it. -/

namespace FilterSql.Query

def heading : Line :=
  .styled [.dim] (padRight 12 "Name" ++ " " ++ padRight 10 "Type" ++ " Value")

def row (name : String) (value : Parameter) : Line :=
  [⟨[.cyan], padRight 12 name⟩,
   .plain (" " ++ padRight 10 value.typeName ++ " " ++ value.shown)]

def sqlShown (q : Query) : String :=
  if q.sql.isEmpty then "(empty)" else q.sql

def parameterTable (b : Bindings) : Report :=
  if b.isEmpty then []
  else .blank :: heading :: b.toList.map fun entry => row entry.1 entry.2

def report (q : Query) : Report :=
  .styled [.green] q.sqlShown :: parameterTable q.bindings

end FilterSql.Query
