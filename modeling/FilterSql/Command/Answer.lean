import FilterSql.Command.Basic
import FilterSql.Command.Error
import FilterSql.Report.Outline
import FilterSql.Report.Query
import FilterSql.Report.Settings
import FilterSql.Report.Tokens

/-! What commands answer, and how it is printed. -/

namespace FilterSql

inductive Answer
  | overview
  | query (q : Query)
  | tokens (tokens : List (Placed Token))
  | filter (f : Filter)
  | settings (s : Settings) (path : String) (present : Bool)
  | location (path : String) (present : Bool)
  /-- The default settings are to be written to the path. -/
  | create (path : String)
  | completions (shell : Shell)

/-- How answers are printed. -/
structure Mode where
  quiet : Bool
  json : Bool
  coloured : Bool
  deriving DecidableEq, Repr

namespace Shell

/-- The words that commands start with. -/
def commandWords : String :=
  "convert tokens parse config completions help"

/-- A script that completes the first word. -/
def script : Shell → Report
  | bash => [.plain ("complete -W \"" ++ commandWords ++ "\" scimq")]
  | zsh => [.plain "#compdef scimq", .plain ("_arguments \"1:command:(" ++ commandWords ++ ")\"")]
  | fish => [.plain ("complete -c scimq -f -n __fish_use_subcommand -a \"" ++ commandWords ++ "\"")]
  | powershell =>
    [.plain ("Register-ArgumentCompleter -Native -CommandName scimq -ScriptBlock \x7b \"" ++
      commandWords ++ "\" -split \" \" \x7d")]

end Shell

namespace Answer

def fileFields (path : String) (present : Bool) : List (String × Json) :=
  [("path", .string path), ("exists", .bool present)]

/-- Some answers have no JSON form. -/
def json? : Answer → Option Json
  | query q => some q.toJson
  | tokens ts => some (Token.listToJson ts)
  | filter f => some f.toJson
  | settings s path present => some (.object (fileFields path present ++ [("config", s.toJson)]))
  | location path present => some (.object (fileFields path present))
  | create path => some (.object [("status", .string "success"), ("path", .string path)])
  | overview | completions _ => none

def report : Answer → Report
  | overview =>
    [.plain "scimq - compile SCIM filters into parameterized SQL",
     .plain "Use --help for usage information"]
  | query q => q.report
  | tokens ts => Token.report ts
  | filter f => f.outline
  | settings s path present => s.report path present
  | location path _ => [.plain path]
  | create path => [.plain ("Created default config at: " ++ path)]
  | completions shell => shell.script

/-- Whether the answer is printed by a quiet command too. -/
def isEssential : Answer → Bool
  | location _ _ | completions _ => true
  | _ => false

def text (mode : Mode) (a : Answer) : String :=
  match mode.json, a.json? with
  | true, some json => json.prettyText ++ "\n"
  | _, _ => if mode.quiet && !a.isEssential then "" else a.report.write mode.coloured

end Answer

namespace CommandError

def toJson (e : CommandError) : Json :=
  .object [("error", .object [("code", .string e.code), ("message", .string e.message)])]

def text (json : Bool) (e : CommandError) : String :=
  if json then e.toJson.prettyText ++ "\n" else "Error: " ++ e.message ++ "\n"

end CommandError

end FilterSql
