import FilterSql.Command.Answer
import FilterSql.Command.Arguments
import FilterSql.Text.Blank

/-! Running the program on a store of files. -/

namespace FilterSql

/-- The settings file of a run, and what is there. -/
structure SettingsFile where
  path : String
  entry : Entry
  deriving DecidableEq, Repr

namespace SettingsFile

/-- Where nothing is, the defaults hold. -/
def load (f : SettingsFile) : Except SettingsError Settings :=
  match f.entry with
  | .missing => .ok .default
  | .directory => .error .unreadable
  | .file content =>
    match Settings.ofText? content with
    | some settings => .ok settings
    | none => .error .malformed

end SettingsFile

/-- The settings file in the directory for settings, which is in the home directory unless it has a
place of its own. -/
def Environment.defaultFile? (env : Environment) : Option String :=
  match env.configHome, env.home with
  | some directory, _ => some (Path.join (Path.join directory "scimq") "config.toml")
  | none, some home => some (Path.join (Path.join (Path.join home ".config") "scimq") "config.toml")
  | none, none => none

def Invocation.file? (i : Invocation) (env : Environment) : Option String :=
  i.settingsFile.orElse fun _ => env.defaultFile?

def Invocation.mode (i : Invocation) (env : Environment) : Mode :=
  ⟨i.quiet, i.json, !i.plain && !env.noColor⟩

/-- A rule as written: the column follows the last equals sign. -/
def Rule.split (rule : String) : Except SettingsError (String × String) :=
  let reversed := rule.toList.reverse
  let column := Text.trim (String.ofList (reversed.takeWhile (· != '=')).reverse)
  match reversed.dropWhile (· != '=') with
  | _ :: c :: pattern =>
    if column.isEmpty then .error (.invalidRule rule)
    else .ok (String.ofList (c :: pattern).reverse, column)
  | _ => .error (.invalidRule rule)

namespace Conversion

/-- The rules are looked at before their patterns are. -/
def run (c : Conversion) (settings : Settings) : Except CommandError Query := do
  let rules ← (c.rules.mapM Rule.split).mapError CommandError.settings
  let converter ← (settings.converter rules c.precedence).mapError CommandError.mapping
  (converter.convert c.filter c.sortKey c.direction).mapError CommandError.filter

end Conversion

namespace Command

def tokensOf (filter : String) : Except CommandError (List (Placed Token)) :=
  let read := Tokens.ofText filter
  if read.mistakes.isEmpty then .ok read.tokens else .error (.filter (.lexical read.mistakes))

/-- What a command answers, given the settings file if it can be found. -/
def answer (file : Option SettingsFile) : Command → Except CommandError Answer
  | overview => .ok .overview
  | completions shell => .ok (.completions shell)
  | tokens filter => (tokensOf filter).map Answer.tokens
  | parse filter precedence => do
    let precedence ← match precedence with
      | some p => .ok p
      | none => (settings file).map fun s => s.options.precedence
    ((Filter.ofText precedence filter).mapError CommandError.filter).map Answer.filter
  | convert request => do
    let s ← settings file
    (request.run s).map Answer.query
  | showSettings => do
    let s ← settings file
    (located file).map fun f => .settings s f.path f.entry.isPresent
  | settingsPath => (located file).map fun f => .location f.path f.entry.isPresent
  | initSettings force => do
    let f ← located file
    if f.entry.isPresent && !force then .error (.settings (.alreadyThere f.path))
    else .ok (.create f.path)
where
  located (file : Option SettingsFile) : Except CommandError SettingsFile :=
    match file with
    | some f => .ok f
    | none => .error (.settings .noDirectory)
  settings (file : Option SettingsFile) : Except CommandError Settings := do
    let f ← located file
    f.load.mapError CommandError.settings

end Command

structure Outcome where
  exitCode : Nat
  stdout : String
  stderr : String
  deriving DecidableEq, Repr

namespace Outcome

def done (mode : Mode) (a : Answer) : Outcome :=
  ⟨0, a.text mode, ""⟩

def failed (mode : Mode) (e : CommandError) : Outcome :=
  ⟨e.exitCode, "", e.text mode.json⟩

def usage : String :=
  "Usage: scimq [OPTIONS] [COMMAND]\n\n" ++
  "Commands:\n" ++
  "  convert [FILTER] [-s KEY] [-d] [-m PATTERN=COLUMN]... [--precedence NAME]\n" ++
  "  tokens FILTER\n" ++
  "  parse FILTER [--precedence NAME]\n" ++
  "  config [show | path | init [--force]]\n" ++
  "  completions SHELL\n" ++
  "  help [COMMAND]...\n\n" ++
  "Options: -v, --verbose; -q, --quiet; --json; --no-color; --config FILE; -h, --help; -V, --version\n"

def halted : Halt → Outcome
  | .misuse => ⟨2, "", "error: the arguments do not fit together\n\n" ++ usage⟩
  | .help => ⟨0, usage, ""⟩
  | .version level => ⟨0, level.name ++ " 0.1.0\n", ""⟩

end Outcome

/-- What the program does, one thing after another: it asks what is at a path, it writes a file, and it
ends with an outcome. What is on the machine is all that it leaves open. -/
inductive Plan
  | finish (outcome : Outcome)
  | look (path : String) (next : Entry → Plan)
  | write (path content : String) (next : Except WriteError Unit → Plan)

namespace Invocation

/-- What follows once the settings file is known: only the creation of settings writes. -/
def act (i : Invocation) (env : Environment) (file : Option SettingsFile) : Plan :=
  let mode := i.mode env
  match i.command.answer file with
  | .error e => .finish (.failed mode e)
  | .ok (.create path) =>
    .write path Settings.defaultText fun
      | .ok () => .finish (.done mode (.create path))
      | .error e => .finish (.failed mode (.settings (.unwritable e)))
  | .ok a => .finish (.done mode a)

def plan (i : Invocation) (env : Environment) : Plan :=
  match i.file? env with
  | some path => .look path fun entry => i.act env (some ⟨path, entry⟩)
  | none => i.act env none

end Invocation

/-- The whole program, from its arguments on. -/
def program (env : Environment) (args : List String) : Plan :=
  match Invocation.ofArguments env args with
  | .error halt => .finish (.halted halt)
  | .ok i => i.plan env

/-- Carries out a plan on a store of files. -/
def Plan.on (fs : FileStore) : Plan → Outcome × FileStore
  | finish outcome => (outcome, fs)
  | look path next => (next (fs.look (.ofText path))).on fs
  | write path content next =>
    let (fs, written) := fs.write (.ofText path) content
    (next written).on fs

def Invocation.run (i : Invocation) (env : Environment) (fs : FileStore) : Outcome × FileStore :=
  (i.plan env).on fs

/-- Runs the program with the given arguments. -/
def run (env : Environment) (args : List String) (fs : FileStore) : Outcome × FileStore :=
  (program env args).on fs

end FilterSql
