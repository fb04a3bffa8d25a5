import FilterSql.Mapping
import FilterSql.Query
import FilterSql.Toml.Reading

/-! Settings as a file keeps them: options of the conversion, and rules that rename attributes. -/

namespace FilterSql

structure Settings where
  options : Options
  /-- Patterns with the columns they become, in the order of the patterns, each of them once. -/
  mappings : List (String × String)
  deriving DecidableEq, Repr

namespace Settings

/-- The version that is written; files of any version are read. -/
def version : Nat := 1

def defaultMappings : List (String × String) :=
  [("emails\\.value", "email"), ("groups\\.display", "authorities"),
   ("phoneNumbers\\.value", "phoneNumber")]

def default : Settings := ⟨{}, defaultMappings⟩

/-- A new settings file, which says what the defaults are. -/
def defaultText : String :=
  "# scimq - SCIM filter to SQL configuration\n\n" ++
  "# Config schema version (do not modify)\n" ++
  "version = 1\n\n" ++
  "[converter]\n" ++
  "# How unparenthesized and/or group: \"left-to-right\" or \"and-binds-tighter\"\n" ++
  "precedence = \"left-to-right\"\n" ++
  "# Set when the database already compares strings case-insensitively\n" ++
  "case_insensitive_db = false\n" ++
  "# Restrict filtering and sorting to these columns\n" ++
  "# allowed_columns = [\"username\", \"email\", \"displayName\"]\n\n" ++
  "# Regex pattern on the SCIM attribute path = column name.\n" ++
  "# Rules apply in key order; each sees the output of the previous one.\n" ++
  "[mappings]\n" ++
  "'emails\\.value' = \"email\"\n" ++
  "'groups\\.display' = \"authorities\"\n" ++
  "'phoneNumbers\\.value' = \"phoneNumber\"\n"

def text? : Toml.Value → Option String
  | .text s => some s
  | _ => none

def boolean? : Toml.Value → Option Bool
  | .boolean b => some b
  | _ => none

def texts? (v : Toml.Value) : Option (Option (List String)) :=
  v.items?.bind fun items => (items.mapM text?).map some

/-- Whether a value holds nothing, as a table or an array. -/
def isVacant : Toml.Value → Bool
  | .table _ [] | .array [] => true
  | _ => false

/-- A precedence by its name, or by a table whose only entry has that name and holds nothing. -/
def precedence? : Toml.Value → Option Precedence
  | .text s => Precedence.ofName? s
  | .table _ [(name, v)] => if isVacant v then Precedence.ofName? name else none
  | _ => none

/-- Reads one setting, or keeps its default where it is missing. -/
def read? {α : Type} (decode : Toml.Value → Option α) (default : α) (v : Option Toml.Value) :
    Option α :=
  match v with
  | some v => decode v
  | none => some default

def optionsOf? (precedence caseInsensitive allowed : Option Toml.Value) : Option Options := do
  let precedence ← read? precedence? .leftToRight precedence
  let caseInsensitive ← read? boolean? false caseInsensitive
  let allowedColumns ← read? texts? none allowed
  return { precedence, caseInsensitive, allowedColumns }

/-- The entries of a table. A date or a time counts as a table too, with its spelling as the only
entry. -/
def entries? : Toml.Value → Option Toml.Entries
  | .table _ entries => some entries
  | .moment s => some [("$__toml_private_datetime", .text s)]
  | _ => none

/-- Options by name in a table, or in their order in an array. -/
def options? (v : Toml.Value) : Option Options :=
  match entries? v, v.items? with
  | some entries, _ =>
    optionsOf? (entries.lookup "precedence") (entries.lookup "case_insensitive_db")
      (entries.lookup "allowed_columns")
  | none, some items => optionsOf? items[0]? items[1]? items[2]?
  | none, none => none

/-- A version has 32 bits without a sign. -/
def version? : Toml.Value → Option Nat
  | .integer n => if 0 ≤ n && n < 0x100000000 then some n.toNat else none
  | _ => none

def mappings? (v : Toml.Value) : Option (List (String × String)) := do
  let entries ← entries? v
  let pairs ← entries.mapM fun (pattern, column) => (text? column).map fun s => (pattern, s)
  return pairs.mergeSort fun a b => a.1 ≤ b.1

def ofEntries? (entries : Toml.Entries) : Option Settings := do
  let _ ← read? version? version (entries.lookup "version")
  let options ← read? options? {} (entries.lookup "converter")
  let mappings ← read? mappings? defaultMappings (entries.lookup "mappings")
  return ⟨options, mappings⟩

/-- Reads a settings file; entries with other names do not count. -/
def ofText? (s : String) : Option Settings :=
  (Toml.ofText? s).bind ofEntries?

def toJson (s : Settings) : Json :=
  .object [("version", .integer version), ("converter", s.options.toJson),
    ("mappings", .object (s.mappings.map fun (pattern, column) => (pattern, .string column)))]

/-- The converter under these settings, with rules that apply after the mappings, and a precedence
that may take the place of the one set. -/
def converter (s : Settings) (extra : List (String × String)) (precedence : Option Precedence) :
    Except InvalidPattern Converter :=
  (Mapping.ofPairs (s.mappings ++ extra)).map fun mapping =>
    ⟨mapping.apply, { s.options with precedence := precedence.getD s.options.precedence }⟩

end Settings

end FilterSql
