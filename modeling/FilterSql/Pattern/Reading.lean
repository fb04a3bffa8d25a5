import FilterSql.Pattern.Bracket

/-!
Reading patterns. The reader keeps a stack of open groups and the branches of the innermost one, and
turns each element into its meaning under the flags in force.
-/

namespace FilterSql.Pattern

/-- The deepest nesting of a pattern's elements. -/
def maxNesting : Nat := 250

/-- The largest tree that repetition counts may unfold to. -/
def maxUnfolded : Nat := 200000

/-- An element of a pattern, with the depth to which it nests. -/
structure Piece where
  node : Node
  depth : Nat
  /-- The number of elements after unfolding repetitions. -/
  size : Nat
  /-- A change of flags can not be repeated. -/
  repeatable : Bool
  deriving DecidableEq, Repr

namespace Piece

def leaf (n : Node) : Piece :=
  ⟨n, 0, 1, true⟩

def flagChange : Piece :=
  ⟨.empty, 0, 1, false⟩

def total (pieces : List Piece) : Nat :=
  pieces.foldl (fun n p => n + p.size) 0

def deepest (pieces : List Piece) : Nat :=
  pieces.foldl (fun d p => max d p.depth) 0

/-- One piece after the other. The last piece comes first in the list. -/
def sequence (reversed : List Piece) : Piece :=
  match reversed with
  | [] => ⟨.empty, 0, 1, false⟩
  | [p] => p
  | _ =>
    ⟨reversed.foldl (fun n p => p.node.andThen n) .empty, 1 + deepest reversed, total reversed, true⟩

/-- One of the pieces, the first in order preferred. The last piece comes first in the list. -/
def alternatives (last : Piece) (reversed : List Piece) : Piece :=
  match reversed with
  | [] => last
  | _ =>
    ⟨reversed.foldl (fun n p => .either p.node n) last.node,
      1 + deepest (last :: reversed), total (last :: reversed), true⟩

def option (greedy : Bool) (n : Node) : Node :=
  if greedy then .either n .empty else .either .empty n

/-- `count` copies in a row, followed by `n`. -/
def copies (n : Node) : Nat → Node → Node
  | 0, rest => rest
  | count + 1, rest => n.andThen (copies n count rest)

/-- Up to `count` copies, each of which may be the last. -/
def upTo (greedy : Bool) (n : Node) : Nat → Node
  | 0 => .empty
  | count + 1 => option greedy (n.andThen (upTo greedy n count))

/-- Between `least` and `most` rounds, or any number from `least` on. -/
def repeated (greedy : Bool) (least : Nat) (most : Option Nat) (n : Node) : Node :=
  match most, least with
  | some most, _ => copies n least (upTo greedy n (most - least))
  | none, 0 => option greedy (.plus greedy n)
  | none, least + 1 => copies n least (.plus greedy n)

end Piece

/-- A group still open: the flags and the pieces around it. -/
structure PendingGroup where
  flags : Flags
  branches : List Piece
  pieces : List Piece
  deriving DecidableEq, Repr

/-- Branches and pieces of the innermost group, the last of them first. -/
structure Reader where
  flags : Flags
  groups : List PendingGroup
  branches : List Piece
  pieces : List Piece
  /-- The names of the groups so far. -/
  names : List (List Char)
  deriving DecidableEq, Repr

namespace Reader

def start : Reader :=
  ⟨{}, [], [], [], []⟩

def add (r : Reader) (p : Piece) : Reader :=
  { r with pieces := p :: r.pieces }

def innermost (r : Reader) : Piece :=
  Piece.alternatives (Piece.sequence r.pieces) r.branches

def branch (r : Reader) : Reader :=
  { r with branches := Piece.sequence r.pieces :: r.branches, pieces := [] }

def openWith (r : Reader) (inner : Flags) : Reader :=
  { r with
    flags := inner, groups := ⟨r.flags, r.branches, r.pieces⟩ :: r.groups, branches := [],
    pieces := [] }

def close? (r : Reader) : Option Reader :=
  match r.groups with
  | [] => none
  | g :: outer =>
    let inner := r.innermost
    some { r with
      flags := g.flags, groups := outer, branches := g.branches,
      pieces := { inner with depth := inner.depth + 1, repeatable := true } :: g.pieces }

def isGroupNameChar (first : Bool) (c : Char) : Bool :=
  c == '_' || Property.alphabetic.contains c ||
    (!first && (c == '.' || c == '[' || c == ']' ||
      Property.inCategories [.decimalNumber, .letterNumber, .otherNumber] c))

def isGroupName : List Char → Bool
  | [] => false
  | c :: rest => isGroupNameChar true c && rest.all (isGroupNameChar false)

/-- Opens a group whose name follows; no two groups share a name. -/
def openNamed? (r : Reader) (cs : List Char) : Option (Reader × List Char) :=
  let name := cs.takeWhile (· != '>')
  match cs.dropWhile (· != '>') with
  | [] => none
  | _ :: rest =>
    if isGroupName name && !r.names.contains name then
      some ({ r with names := name :: r.names }.openWith r.flags, rest)
    else none

/-- The flags that a group starts with, read up to the mark that ends them. -/
structure FlagChange where
  flags : Flags
  seen : List Char
  negated : Bool
  dangling : Bool

def FlagChange.take? (change : FlagChange) : List Char → Option (FlagChange × Char × List Char)
  | [] => none
  | c :: rest =>
    if c == ':' || c == ')' then
      if change.dangling then none else some (change, c, rest)
    else if c == '-' then
      if change.negated then none
      else FlagChange.take? { change with negated := true, dangling := true } rest
    else if change.seen.contains c then none
    else match change.flags.set? c (!change.negated) with
      | some flags =>
        FlagChange.take? { change with flags, seen := c :: change.seen, dangling := false } rest
      | none => none

/-- Flags for the rest of the group, or for a group of their own. -/
def openFlags? (r : Reader) (cs : List Char) : Option (Reader × List Char) := do
  let (change, mark, rest) ← FlagChange.take? ⟨r.flags, [], false, false⟩ cs
  if mark == ':' then some (r.openWith change.flags, rest)
  else if change.seen.isEmpty && !change.negated then none
  else some ({ r with flags := change.flags }.add .flagChange, rest)

/-- Opens a group after its parenthesis. Looking around is not part of the language. -/
def open? (r : Reader) (cs : List Char) : Option (Reader × List Char) :=
  match r.flags.skip cs with
  | '?' :: '=' :: _ => none
  | '?' :: '!' :: _ => none
  | '?' :: '<' :: '=' :: _ => none
  | '?' :: '<' :: '!' :: _ => none
  | '?' :: 'P' :: '<' :: rest => r.openNamed? rest
  | '?' :: '<' :: rest => r.openNamed? rest
  | '?' :: rest => r.openFlags? rest
  | rest => some (r.openWith r.flags, rest)

/-- Repeats the last piece. A question mark after the operator makes it prefer fewer rounds. -/
def repeat? (r : Reader) (least : Nat) (most : Option Nat) (rest : List Char) :
    Option (Reader × List Char) :=
  match r.pieces with
  | [] => none
  | p :: before =>
    if !p.repeatable then none
    else
      let (greedy, rest) := match rest with
        | '?' :: rest => (r.flags.swapGreed, rest)
        | _ => (!r.flags.swapGreed, rest)
      let size := p.size * max 1 (most.getD (max 1 least))
      if maxUnfolded < size then none
      else
        let piece : Piece := ⟨Piece.repeated greedy least most p.node, p.depth + 1, size, true⟩
        some ({ r with pieces := piece :: before }, rest)

/-- Decimal digits with blanks skipped between them. -/
def takeCountDigits (f : Flags) : List Char → List Char × List Char
  | [] => ([], [])
  | c :: rest =>
    if c.isDigit then
      let (digits, rest) := takeCountDigits f (f.skip rest)
      (c :: digits, rest)
    else ([], c :: rest)
termination_by cs => cs.length
decreasing_by exact Nat.lt_succ_of_le (f.skip_length_le rest)

/-- A count below 2^32, with blanks around it. -/
def takeCount (f : Flags) (cs : List Char) : Option (Option Nat) × List Char :=
  let (digits, rest) := takeCountDigits f (cs.dropWhile Text.isBlank)
  let rest := f.skip (rest.dropWhile Text.isBlank)
  let value := digits.foldl (fun n d => 10 * n + (d.toNat - '0'.toNat)) 0
  if digits.isEmpty then (some none, rest)
  else if value < 0x100000000 then (some (some value), rest)
  else (none, rest)

/-- A repetition with counts in braces, after the opening one. -/
def counted? (r : Reader) (cs : List Char) : Option (Reader × List Char) := do
  let f := r.flags
  let (least, rest) := takeCount f (f.skip cs)
  let least ← least
  let least ← least
  match rest with
  | '\x7d' :: rest => r.repeat? least (some least) (f.skip rest)
  | ',' :: rest =>
    match f.skip rest with
    | '\x7d' :: rest => r.repeat? least none (f.skip rest)
    | rest =>
      let (most, rest) := takeCount f rest
      let most ← most
      let most ← most
      match rest with
      | '\x7d' :: rest => if least ≤ most then r.repeat? least (some most) (f.skip rest) else none
      | _ => none
  | _ => none

def addPrimitive (r : Reader) : Primitive → Reader
  | .literal c => r.add (.leaf (r.flags.literal c))
  | .set s => r.add (.leaf (.chars s))
  | .look l => r.add (.leaf (.look l))

/-- Reads the element that starts with `c`. -/
def step? (r : Reader) (c : Char) (rest : List Char) : Option (Reader × List Char) :=
  match c with
  | '(' => r.open? rest
  | ')' => r.close?.map fun r => (r, rest)
  | '|' => some (r.branch, rest)
  | '[' => do
    let (part, rest) ← Bracket.class? r.flags rest
    some (r.add ⟨.chars part.set, part.depth, 1, true⟩, rest)
  | '?' => r.repeat? 0 (some 1) rest
  | '*' => r.repeat? 0 none rest
  | '+' => r.repeat? 1 none rest
  | '\x7b' => r.counted? rest
  | '\\' =>
    match rest with
    | [] => none
    | c :: rest => (Primitive.escape? r.flags c rest).map fun (p, rest) => (r.addPrimitive p, rest)
  | '.' => r.flags.dot?.map fun n => (r.add (.leaf n), rest)
  | '^' => some (r.add (.leaf r.flags.lineStart), rest)
  | '$' => some (r.add (.leaf r.flags.lineEnd), rest)
  | c => some (r.add (.leaf (r.flags.literal c)), rest)

def finish? (r : Reader) : Option Node :=
  if !r.groups.isEmpty || maxNesting < r.innermost.depth then none else some r.innermost.node

def read? (r : Reader) (cs : List Char) : Option Node :=
  match r.flags.skip cs with
  | [] => r.finish?
  | c :: rest =>
    match r.step? c rest with
    | some (r, rest) => if rest.length < cs.length then read? r rest else none
    | none => none
termination_by cs.length

end Reader

/-- The tree of a pattern, if its text is one. -/
def Node.ofText? (s : String) : Option Node :=
  Reader.start.read? s.toList

end FilterSql.Pattern
