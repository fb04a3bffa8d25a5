import FilterSql.Command.Basic

/-!
The arguments of the program. Words lead from level to level of commands, and each level takes options
of its own beside those that every level takes; an option may be given once at each level.
-/

namespace FilterSql

inductive Level
  | top
  | convert
  | tokens
  | parse
  | config
  | configShow
  | configPath
  | configInit
  | completions
  deriving DecidableEq, Repr

inductive Switch
  | verbose
  | quiet
  | json
  | noColor
  | descending
  | force
  deriving DecidableEq, Repr

/-- Options that take a value. -/
inductive Setting
  | config
  | sortBy
  | map
  | precedence
  deriving DecidableEq, Repr

inductive Flag
  | switch (s : Switch)
  | setting (s : Setting)
  | help
  | version
  deriving DecidableEq, Repr

structure FlagName where
  long : String
  short : Option Char
  flag : Flag
  deriving DecidableEq, Repr

/-- Why nothing is run. -/
inductive Halt
  | misuse
  | help
  | version (level : Level)
  deriving DecidableEq, Repr

namespace Level

/-- The level that a word leads to. -/
def below? : Level → String → Option Level
  | top, "convert" | top, "c" => some convert
  | top, "tokens" | top, "t" => some tokens
  | top, "parse" | top, "p" => some parse
  | top, "config" => some config
  | top, "completions" => some completions
  | config, "show" => some configShow
  | config, "path" => some configPath
  | config, "init" => some configInit
  | _, _ => none

def hasLevels : Level → Bool
  | top | config => true
  | _ => false

/-- The words that lead to the level, with hyphens between them. -/
def name : Level → String
  | top => "scimq"
  | convert => "scimq-convert"
  | tokens => "scimq-tokens"
  | parse => "scimq-parse"
  | config => "scimq-config"
  | configShow => "scimq-config-show"
  | configPath => "scimq-config-path"
  | configInit => "scimq-config-init"
  | completions => "scimq-completions"

def commonFlags : List FlagName :=
  [⟨"verbose", some 'v', .switch .verbose⟩, ⟨"quiet", some 'q', .switch .quiet⟩,
   ⟨"json", none, .switch .json⟩, ⟨"no-color", none, .switch .noColor⟩,
   ⟨"config", none, .setting .config⟩, ⟨"help", some 'h', .help⟩,
   ⟨"version", some 'V', .version⟩]

def ownFlags : Level → List FlagName
  | convert =>
    [⟨"sort-by", some 's', .setting .sortBy⟩, ⟨"descending", some 'd', .switch .descending⟩,
     ⟨"map", some 'm', .setting .map⟩, ⟨"precedence", none, .setting .precedence⟩]
  | parse => [⟨"precedence", none, .setting .precedence⟩]
  | configInit => [⟨"force", none, .switch .force⟩]
  | _ => []

def flags (l : Level) : List FlagName :=
  l.ownFlags ++ commonFlags

def flagOfName? (l : Level) (name : String) : Option Flag :=
  (l.flags.find? fun f => f.long == name).map FlagName.flag

def flagOfLetter? (l : Level) (c : Char) : Option Flag :=
  (l.flags.find? fun f => f.short == some c).map FlagName.flag

/-- Whether the level takes an operand of this text. -/
def admitsOperand : Level → String → Bool
  | convert, _ | tokens, _ | parse, _ => true
  | completions, text => (Shell.ofName? text).isSome
  | _, _ => false

/-- Help is given on commands only. -/
def helpOn : Level → List String → Halt
  | _, [] => .help
  | level, word :: words =>
    match level.below? word with
    | some below => below.helpOn words
    | none => if level.hasLevels && word == "help" && words.isEmpty then .help else .misuse

end Level

/-- What was given at one level. -/
structure Given where
  switches : List Switch
  config : Option String
  sortBy : Option String
  maps : List String
  precedence : Option Precedence
  operand : Option String
  deriving DecidableEq, Repr

namespace Given

def nothing : Given := ⟨[], none, none, [], none, none⟩

def addSwitch (g : Given) (s : Switch) : Except Halt Given :=
  if g.switches.contains s then .error .misuse else .ok { g with switches := s :: g.switches }

/-- Only rules may be given more than once. The name of a file cannot be empty. -/
def addValue (g : Given) (setting : Setting) (value : String) : Except Halt Given :=
  match setting with
  | .config =>
    if g.config.isSome || value.isEmpty then .error .misuse else .ok { g with config := some value }
  | .sortBy => if g.sortBy.isSome then .error .misuse else .ok { g with sortBy := some value }
  | .map => .ok { g with maps := g.maps ++ [value] }
  | .precedence =>
    match g.precedence, Precedence.ofName? value with
    | none, some p => .ok { g with precedence := some p }
    | _, _ => .error .misuse

def addOperand (g : Given) (level : Level) (text : String) : Except Halt Given :=
  if g.operand.isNone && level.admitsOperand text then .ok { g with operand := some text }
  else .error .misuse

def addOperands (g : Given) (level : Level) (texts : List String) : Except Halt Given :=
  texts.foldlM (fun g text => g.addOperand level text) g

/-- Reads an option by its name, with the value that may be attached to it. An option that still lacks
its value is handed on. -/
def readName (g : Given) (level : Level) (cs : List Char) : Except Halt (Given × Option Setting) :=
  let name := String.ofList (cs.takeWhile (· != '='))
  match level.flagOfName? name, cs.dropWhile (· != '=') with
  | some (.setting s), _ :: value => (g.addValue s (String.ofList value)).map (·, none)
  | some (.setting s), [] => .ok (g, some s)
  | some (.switch s), [] => (g.addSwitch s).map (·, none)
  | some .help, [] => .error .help
  | some .version, [] => .error (.version level)
  | _, _ => .error .misuse

/-- Reads option letters. The first of them that takes a value takes the rest of the word. -/
def readLetters (g : Given) (level : Level) : List Char → Except Halt (Given × Option Setting)
  | [] => .ok (g, none)
  | c :: rest =>
    match level.flagOfLetter? c with
    | some (.switch s) => do (← g.addSwitch s).readLetters level rest
    | some (.setting s) =>
      match rest with
      | [] => .ok (g, some s)
      | '=' :: value => (g.addValue s (String.ofList value)).map (·, none)
      | value => (g.addValue s (String.ofList value)).map (·, none)
    | some .help => .error .help
    | some .version => .error (.version level)
    | none => .error .misuse

/-- Whether a word is read as an option, or ends the options. A lone hyphen is neither. -/
def isOptionLike (word : String) : Bool :=
  match word.toList with
  | '-' :: _ :: _ => true
  | _ => false

/-- Reads a word that starts with a hyphen. -/
def readOption (g : Given) (level : Level) (word : String) : Except Halt (Given × Option Setting) :=
  match word.toList with
  | '-' :: '-' :: cs => g.readName level cs
  | '-' :: cs => g.readLetters level cs
  | _ => .error .misuse

/-- Reads the words of a level and of those below it; what was given is listed from the last level
upwards. -/
def scan (level : Level) (above : List Given) (g : Given) :
    List String → Except Halt (Level × List Given)
  | [] => .ok (level, g :: above)
  | word :: rest =>
    match level.below? word with
    | some below => scan below (g :: above) nothing rest
    | none =>
      if level.hasLevels && word == "help" then .error (level.helpOn rest)
      else if word == "--" then (g.addOperands level rest).map fun g => (level, g :: above)
      else if isOptionLike word then
        match g.readOption level word, rest with
        | .error halt, _ => .error halt
        | .ok (g, none), rest => scan level above g rest
        | .ok (_, some _), [] => .error .misuse
        | .ok (g, some setting), value :: rest =>
          if isOptionLike value then .error .misuse
          else match g.addValue setting value with
            | .error halt => .error halt
            | .ok g => scan level above g rest
      else match g.addOperand level word with
        | .error halt => .error halt
        | .ok g => scan level above g rest

def has (g : Given) (s : Switch) : Bool :=
  g.switches.contains s

/-- A level cannot be both quiet and verbose, and the variable that names the settings file stands in
for the option at every level without it. -/
def isConsistent (env : Environment) (g : Given) : Bool :=
  !(g.has .quiet && g.has .verbose) && (g.config.isSome || env.settingsFile != some "")

/-- The command of a level; its operand is there if it needs one. -/
def command (g : Given) : Level → Option Command
  | .top => some .overview
  | .convert =>
    some (.convert ⟨g.operand, g.sortBy, if g.has .descending then .descending else .ascending, g.maps,
      g.precedence⟩)
  | .tokens => g.operand.map Command.tokens
  | .parse => g.operand.map fun filter => .parse filter g.precedence
  | .config | .configShow => some .showSettings
  | .configPath => some .settingsPath
  | .configInit => some (.initSettings (g.has .force))
  | .completions => (g.operand.bind Shell.ofName?).map Command.completions

end Given

namespace Invocation

/-- Switches count at any level. Of the settings files that are named the last level's counts, and the
variable's if there is none. -/
def ofArguments (env : Environment) (args : List String) : Except Halt Invocation :=
  match Given.scan .top [] .nothing args with
  | .error halt => .error halt
  | .ok (level, levels) =>
    let g := levels.headD .nothing
    match g.command level, levels.all (Given.isConsistent env) with
    | some command, true =>
      .ok {
        quiet := levels.any fun g => g.has .quiet
        json := levels.any fun g => g.has .json
        plain := levels.any fun g => g.has .noColor
        settingsFile := (levels.findSome? Given.config).orElse fun _ => env.settingsFile
        command }
    | _, _ => .error .misuse

end Invocation

end FilterSql
