import FilterSql.Filter.Basic
import FilterSql.Order

/-! What the program can be asked to do. -/

namespace FilterSql

inductive Shell
  | bash
  | zsh
  | fish
  | powershell
  deriving DecidableEq, Repr

namespace Shell

def all : List Shell := [bash, zsh, fish, powershell]

def name : Shell → String
  | bash => "bash"
  | zsh => "zsh"
  | fish => "fish"
  | powershell => "powershell"

def ofName? (s : String) : Option Shell :=
  all.find? fun shell => shell.name == s

end Shell

/-- A filter and a sort key to convert, with changes to the settings for this once. -/
structure Conversion where
  filter : Option String
  sortKey : Option String
  direction : Direction
  /-- Rules as written, a pattern and a column with an equals sign between them. -/
  rules : List String
  precedence : Option Precedence
  deriving DecidableEq, Repr

inductive Command
  | overview
  | convert (request : Conversion)
  | tokens (filter : String)
  | parse (filter : String) (precedence : Option Precedence)
  | showSettings
  | settingsPath
  | initSettings (force : Bool)
  | completions (shell : Shell)
  deriving DecidableEq, Repr

/-- A command with what holds for every command. -/
structure Invocation where
  quiet : Bool
  json : Bool
  /-- Colours are left out. -/
  plain : Bool
  /-- The settings file, if one is named. -/
  settingsFile : Option String
  command : Command
  deriving DecidableEq, Repr

/-- The variables that the program looks at. -/
structure Environment where
  settingsFile : Option String
  configHome : Option String
  home : Option String
  noColor : Bool
  deriving DecidableEq, Repr

namespace Environment

/-- An empty home counts as none, and the one of the account takes its place. -/
def ofLookup (get : String → Option String) (accountHome : Option String) : Environment where
  settingsFile := get "SCIMQ_CONFIG"
  configHome := get "XDG_CONFIG_HOME"
  home := match get "HOME" with
    | some "" | none => accountHome
    | some home => some home
  noColor := (get "NO_COLOR").isSome

end Environment

end FilterSql
