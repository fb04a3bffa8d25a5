import FilterSql.Report.Styled
import FilterSql.Settings

/-! Settings as a report, with the file they come from. -/

namespace FilterSql.Settings

def fileLines (path : String) (present : Bool) : Report :=
  [.plain ("File: " ++ path), .plain ("Exists: " ++ Literal.booleanText present)] ++
  if present then []
  else [.plain "(No config file exists. Run 'scimq config init' to create one.)"]

def optionLines (o : Options) : Report :=
  [.plain "[converter]", .plain ("  precedence: " ++ o.precedence.name),
   .plain ("  case_insensitive_db: " ++ Literal.booleanText o.caseInsensitive)] ++
  match o.allowedColumns with
  | some columns => [.plain ("  allowed_columns: " ++ ", ".intercalate columns)]
  | none => []

def mappingLine (mapping : String × String) : Line :=
  [.plain "  ", ⟨[.cyan], mapping.1⟩, .plain (" -> " ++ mapping.2)]

def report (s : Settings) (path : String) (present : Bool) : Report :=
  [.styled [.bold, .green] "Configuration", .blank] ++ fileLines path present ++ [.blank] ++
    optionLines s.options ++ [.blank, .plain "[mappings]"] ++ s.mappings.map mappingLine

end FilterSql.Settings
