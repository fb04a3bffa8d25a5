import FilterSql.Toml.Value

/-!
Building the tables of a TOML document. Every key is given once: a header cannot open a table again,
and a dotted key cannot reach into a table that has a header or braces.
-/

namespace FilterSql.Toml

/-- A dotted key by its last part and the parts before it. -/
structure Key where
  path : List String
  last : String
  deriving DecidableEq, Repr

namespace Entries

/-- Replaces the value of a key by what `f` makes of it, or adds one. -/
def alter? (f : Option Value → Option Value) (key : String) : Entries → Option Entries
  | [] => (f none).map fun v => [(key, v)]
  | (k, v) :: rest =>
    if k == key then (f (some v)).map fun v => (k, v) :: rest
    else (alter? f key rest).map ((k, v) :: ·)

/-- Adds a value under a key that has none. -/
def insert? (key : String) (value : Value) (entries : Entries) : Option Entries :=
  alter? (fun old => if old.isNone then some value else none) key entries

/-- Whether a key path may pass through a table. -/
def admits (byHeader : Bool) : Origin → Bool
  | .inline => false
  | .header => byHeader
  | .implied | .dotted => true

/-- Changes the table at the end of a path, making the tables that are missing on the way. Of tables
under one header the last one counts. -/
def within? (byHeader : Bool) (f : Origin → Entries → Option Entries) :
    List String → Origin → Entries → Option Entries
  | [], origin, entries => f origin entries
  | key :: path, _, entries =>
    alter? (fun old => match old with
      | none =>
        let origin := if byHeader then Origin.implied else .dotted
        (within? byHeader f path origin []).map (Value.table origin)
      | some (.table origin inner) =>
        if admits byHeader origin then
          (within? byHeader f path origin inner).map (Value.table origin)
        else none
      | some (.tables earlier last) =>
        (within? byHeader f path .header last).map (Value.tables earlier)
      | some _ => none) key entries

/-- Gives a value to a dotted key. The table that takes it must have been made by such keys too. -/
def assign? (key : Key) (value : Value) (origin : Origin) (entries : Entries) : Option Entries :=
  within? false
    (fun reached inner =>
      if key.path.isEmpty || reached == .dotted then insert? key.last value inner else none)
    key.path origin entries

/-- Opens the table of a header; longer headers may have named it before. -/
def define? (key : Key) (entries : Entries) : Option Entries :=
  within? true
    (fun _ inner => alter? (fun old => match old with
      | none => some (.table .header [])
      | some (.table .implied entries) => some (.table .header entries)
      | some _ => none) key.last inner)
    key.path .header entries

/-- Adds a table to those under a doubled header. -/
def append? (key : Key) (entries : Entries) : Option Entries :=
  within? true
    (fun _ inner => alter? (fun old => match old with
      | none => some (.tables [] [])
      | some (.tables earlier last) => some (.tables (earlier ++ [last]) [])
      | some _ => none) key.last inner)
    key.path .header entries

/-- The entries between the braces of an inline table. -/
def ofPairs? (pairs : List (Key × Value)) : Option Entries :=
  pairs.foldlM (fun entries (key, value) => assign? key value .inline entries) []

end Entries

inductive Statement
  | header (key : Key)
  | doubledHeader (key : Key)
  | entry (key : Key) (value : Value)
  deriving Repr

/-- A document as far as it was read, with the path of the table that takes the next entries. -/
structure Document where
  root : Entries
  current : List String

namespace Document

def empty : Document := ⟨[], []⟩

def perform? (d : Document) : Statement → Option Document
  | .header key => (d.root.define? key).map fun root => ⟨root, key.path ++ [key.last]⟩
  | .doubledHeader key => (d.root.append? key).map fun root => ⟨root, key.path ++ [key.last]⟩
  | .entry key value =>
    (Entries.within? true (Entries.assign? key value) d.current .header d.root).map fun root =>
      { d with root }

def ofStatements? (statements : List Statement) : Option Entries :=
  (statements.foldlM perform? empty).map root

end Document

end FilterSql.Toml
