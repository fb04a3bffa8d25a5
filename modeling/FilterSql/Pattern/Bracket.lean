import FilterSql.Pattern.Escape

/-! Classes in brackets: unions of characters, ranges and classes, joined by set operators. -/

namespace FilterSql.Pattern

/-- A set, and how deep its description nests. -/
structure Part where
  set : CharSet
  depth : Nat
  deriving DecidableEq, Repr

inductive SetOperator
  | intersection
  | difference
  | symmetricDifference
  deriving DecidableEq, Repr

/-- A bracket still open: the operand before the last operator, and the union being read. The parts are
kept with the last one first. -/
structure Bracket where
  negated : Bool
  left : Option (SetOperator × Part)
  parts : List Part
  deriving DecidableEq, Repr

namespace Bracket

def union (parts : List Part) : Part :=
  match parts with
  | [] => ⟨.none, 0⟩
  | [p] => p
  | _ =>
    ⟨parts.foldr (fun p s => .union s p.set) .none,
      1 + parts.foldl (fun d p => max d p.depth) 0⟩

def operate (f : Flags) (op : SetOperator) (left right : Part) : Part :=
  let l := f.fold left.set
  let r := f.fold right.set
  let set := match op with
    | .intersection => CharSet.intersection l r
    | .difference => CharSet.difference l r
    | .symmetricDifference => CharSet.symmetricDifference l r
  ⟨set, 1 + max left.depth right.depth⟩

/-- Everything read so far as one operand. -/
def operand (f : Flags) (b : Bracket) : Part :=
  match b.left with
  | some (op, left) => operate f op left (union b.parts)
  | none => union b.parts

def add (b : Bracket) (p : Part) : Bracket :=
  { b with parts := p :: b.parts }

def operator (f : Flags) (op : SetOperator) (b : Bracket) : Bracket :=
  { b with left := some (op, b.operand f), parts := [] }

def close? (f : Flags) (b : Bracket) : Option Part :=
  let inner := b.operand f
  (f.foldAndNegate? b.negated inner.set).map fun s => ⟨s, 1 + inner.depth⟩

/-- Minus signs right after the opening bracket stand for themselves. -/
def takeMinuses (f : Flags) (b : Bracket) : List Char → Bracket × List Char
  | [] => (b, [])
  | c :: rest =>
    if c == '-' then takeMinuses f (b.add ⟨.single '-', 0⟩) (f.skip rest) else (b, c :: rest)
termination_by cs => cs.length
decreasing_by exact Nat.lt_succ_of_le (f.skip_length_le rest)

/-- Starts a class after its bracket. A closing bracket that comes first stands for itself. -/
def start (f : Flags) (cs : List Char) : Bracket × List Char :=
  let (negated, cs) := match f.skip cs with
    | '^' :: rest => (true, f.skip rest)
    | cs => (false, cs)
  match takeMinuses f ⟨negated, none, []⟩ cs with
  | (b, ']' :: rest) =>
    if b.parts.isEmpty then (b.add ⟨.single ']', 0⟩, f.skip rest) else (b, ']' :: rest)
  | found => found

/-- A named ASCII class between `[:` and `:]`, after its first character. -/
def asciiClass? (f : Flags) (cs : List Char) : Option (Option CharSet × List Char) :=
  match cs with
  | ':' :: rest =>
    let (negated, rest) := match rest with
      | '^' :: rest => (true, rest)
      | _ => (false, rest)
    match rest.dropWhile (· != ':') with
    | ':' :: ']' :: after =>
      (CharSet.ofAsciiName? (String.ofList (rest.takeWhile (· != ':')))).map fun s =>
        (f.foldAndNegate? negated s, after)
    | _ => none
  | _ => none

def item? (f : Flags) : List Char → Option (Primitive × List Char)
  | [] => none
  | '\\' :: c :: rest => Primitive.escape? f c rest
  | ['\\'] => none
  | c :: rest => some (.literal c, rest)

/-- A class without Unicode holds ASCII literals only. -/
def literal? (f : Flags) : Primitive → Option Char
  | .literal c => if f.unicode || c.toNat < 128 then some c else none
  | _ => none

def single? (f : Flags) : Primitive → Option CharSet
  | .set s => some s
  | p => (literal? f p).map CharSet.single

/-- The character after the one at the front, blanks skipped. -/
def peek (f : Flags) (cs : List Char) : Option Char :=
  (f.skip (cs.drop 1)).head?

/-- A single character or class, or a range of characters. -/
def range? (f : Flags) (cs : List Char) : Option (CharSet × List Char) := do
  let (first, rest) ← item? f cs
  let rest := f.skip rest
  match rest with
  | [] => none
  | '-' :: more =>
    if peek f rest == some ']' || peek f rest == some '-' then
      (single? f first).map fun s => (s, rest)
    else
      let (last, rest) ← item? f (f.skip more)
      let low ← literal? f first
      let high ← literal? f last
      if low ≤ high then some (.range low high, rest) else none
  | _ => (single? f first).map fun s => (s, rest)

/-- One step inside the innermost of the open brackets. -/
def step? (f : Flags) (b : Bracket) (outer : List Bracket) (c : Char) (rest : List Char) :
    Option (Except Part (List Bracket) × List Char) :=
  let operator? (mark : Char) : Bool := c == mark && rest.head? == some mark
  if c == '[' then
    match asciiClass? f rest with
    | some (some s, after) => some (.ok (b.add ⟨s, 0⟩ :: outer), after)
    | some (none, _) => none
    | none =>
      let (inner, rest) := start f rest
      some (.ok (inner :: b :: outer), rest)
  else if c == ']' then do
    let part ← b.close? f
    match outer with
    | [] => some (.error part, rest)
    | o :: outer => some (.ok (o.add part :: outer), rest)
  else if operator? '&' then some (.ok (b.operator f .intersection :: outer), rest.drop 1)
  else if operator? '-' then some (.ok (b.operator f .difference :: outer), rest.drop 1)
  else if operator? '~' then some (.ok (b.operator f .symmetricDifference :: outer), rest.drop 1)
  else do
    let (s, rest) ← range? f (c :: rest)
    some (.ok (b.add ⟨s, 0⟩ :: outer), rest)

/-- Reads up to the end of the outermost class. -/
def read? (f : Flags) (b : Bracket) (outer : List Bracket) (cs : List Char) :
    Option (Part × List Char) :=
  match f.skip cs with
  | [] => none
  | c :: rest =>
    match step? f b outer c rest with
    | some (.error part, rest) => some (part, rest)
    | some (.ok (b :: outer), rest) =>
      if rest.length < cs.length then read? f b outer rest else none
    | _ => none
termination_by cs.length

/-- Reads the class after its opening bracket. -/
def class? (f : Flags) (cs : List Char) : Option (Part × List Char) :=
  let (b, rest) := start f cs
  read? f b [] rest

end Bracket

end FilterSql.Pattern
