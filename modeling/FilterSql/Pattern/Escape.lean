import FilterSql.Pattern.Flags

/-! What a backslash introduces in a pattern. -/

namespace FilterSql.Pattern

/-- Skips blanks and comments; `inComment` tells that the text starts inside a comment. -/
def skipComments (inComment : Bool) : List Char → List Char
  | [] => []
  | c :: rest =>
    if inComment then skipComments (c != '\n') rest
    else if Text.isBlank c then skipComments false rest
    else if c == '#' then skipComments true rest
    else c :: rest

/-- Skips what does not count between the elements of a pattern. -/
def Flags.skip (f : Flags) (cs : List Char) : List Char :=
  if f.verbose then skipComments false cs else cs

theorem skipComments_suffix (inComment : Bool) (cs : List Char) :
    skipComments inComment cs <:+ cs := by
  induction cs generalizing inComment with
  | nil => exact List.suffix_refl _
  | cons c rest ih =>
    unfold skipComments
    split
    · exact (ih _).trans (List.suffix_cons _ _)
    split
    · exact (ih _).trans (List.suffix_cons _ _)
    split
    · exact (ih _).trans (List.suffix_cons _ _)
    · exact List.suffix_refl _

theorem Flags.skip_suffix (f : Flags) (cs : List Char) : f.skip cs <:+ cs := by
  unfold Flags.skip
  split
  · exact skipComments_suffix _ _
  · exact List.suffix_refl _

theorem Flags.skip_length_le (f : Flags) (cs : List Char) : (f.skip cs).length ≤ cs.length :=
  (f.skip_suffix cs).length_le

/-- An element of a pattern that stands on its own. -/
inductive Primitive
  | literal (c : Char)
  | set (s : CharSet)
  | look (l : Look)
  deriving DecidableEq, Repr

namespace Primitive

/-- The characters that a backslash makes plain. -/
def isEscapable (c : Char) : Bool :=
  c.toNat < 128 && !c.isAlphanum && c != '<' && c != '>'

/-- Hexadecimal digits up to the closing brace, which is taken too. -/
def takeBraced (f : Flags) : List Char → Option (List Char × List Char)
  | [] => none
  | c :: rest =>
    if c == '\x7d' then some ([], f.skip rest)
    else if !Text.isHexDigit c then none
    else (takeBraced f (f.skip rest)).map fun (digits, rest) => (c :: digits, rest)
termination_by cs => cs.length
decreasing_by exact Nat.lt_succ_of_le (f.skip_length_le rest)

/-- Exactly `n` hexadecimal digits. -/
def takeDigits (f : Flags) : Nat → List Char → Option (List Char × List Char)
  | 0, cs => some ([], cs)
  | _ + 1, [] => none
  | n + 1, c :: rest =>
    if !Text.isHexDigit c then none
    else (takeDigits f n (f.skip rest)).map fun (digits, rest) => (c :: digits, rest)

/-- A character by its code point: braces hold any number of digits, otherwise there are `width`. -/
def hex? (f : Flags) (width : Nat) (cs : List Char) : Option (Primitive × List Char) := do
  let cs := f.skip cs
  let (digits, rest) ← match cs with
    | '\x7b' :: more => takeBraced f (f.skip more)
    | _ => takeDigits f width cs
  if digits.isEmpty then none
  else
    let c ← Text.charOfCode? (Text.hexValue digits)
    if !f.unicode && width == 2 && cs.head? != some '\x7b' && 128 ≤ c.toNat then none
    else some (.literal c, rest)

/-- Splits a query that asks for a value to be another one. -/
def splitDenial : List Char → Option (List Char × List Char)
  | [] => none
  | '!' :: '=' :: rest => some ([], rest)
  | c :: rest => (splitDenial rest).map fun (name, value) => (c :: name, value)

def splitAt? (mark : Char) (cs : List Char) : Option (List Char × List Char) :=
  match cs.dropWhile (· != mark) with
  | _ :: value => some (cs.takeWhile (· != mark), value)
  | [] => none

/-- The property that a query asks for, and whether the query asks for the others instead. -/
def query? (cs : List Char) : Option (Property × Bool) :=
  match splitDenial cs with
  | some (name, value) => (Property.ofValue? name value).map fun p => (p, true)
  | none =>
    match (splitAt? ':' cs).or (splitAt? '=' cs) with
    | some (name, value) => (Property.ofValue? name value).map fun p => (p, false)
    | none => (Property.ofName? cs).map fun p => (p, false)

/-- The query up to the closing brace, which is taken too. -/
def takeQuery (f : Flags) : List Char → Option (List Char × List Char)
  | [] => none
  | c :: rest =>
    if c == '\x7d' then some ([], rest)
    else (takeQuery f (f.skip rest)).map fun (query, rest) => (c :: query, rest)
termination_by cs => cs.length
decreasing_by exact Nat.lt_succ_of_le (f.skip_length_le rest)

def property? (f : Flags) (negated : Bool) (cs : List Char) : Option (Primitive × List Char) := do
  let (query, rest) ← match f.skip cs with
    | [] => none
    | '\x7b' :: more => takeQuery f (f.skip more)
    | '\\' :: _ => none
    | c :: more => some ([c], f.skip more)
  let (p, denies) ← query? query
  if !f.unicode then none
  else
    let s ← f.foldAndNegate? (negated != denies) (.property p)
    some (.set s, rest)

def isBoundaryChar (c : Char) : Bool :=
  c.isAlpha || c == '-'

/-- The name of a boundary, blanks skipped. -/
def takeBoundary (f : Flags) : List Char → List Char × List Char
  | [] => ([], [])
  | c :: rest =>
    if isBoundaryChar c then
      let (name, rest) := takeBoundary f (f.skip rest)
      (c :: name, rest)
    else ([], c :: rest)
termination_by cs => cs.length
decreasing_by exact Nat.lt_succ_of_le (f.skip_length_le rest)

/-- A word boundary, of a special kind if a name in braces follows. Braces around anything else are
left to count repetitions. -/
def boundary? (f : Flags) (cs : List Char) : Option (Primitive × List Char) :=
  let ascii := !f.unicode
  match cs with
  | '\x7b' :: more =>
    match f.skip more with
    | [] => none
    | c :: rest =>
      if !isBoundaryChar c then some (.look (.wordBoundary ascii), cs)
      else match takeBoundary f (c :: rest) with
        | (name, '\x7d' :: rest) =>
          match String.ofList name with
          | "start" => some (.look (.wordStart ascii), rest)
          | "end" => some (.look (.wordEnd ascii), rest)
          | "start-half" => some (.look (.wordStartHalf ascii), rest)
          | "end-half" => some (.look (.wordEndHalf ascii), rest)
          | _ => none
        | _ => none
  | _ => some (.look (.wordBoundary ascii), cs)

/-- Reads what follows a backslash. -/
def escape? (f : Flags) (c : Char) (rest : List Char) : Option (Primitive × List Char) :=
  let ascii := !f.unicode
  if c == 'x' then hex? f 2 rest
  else if c == 'u' then hex? f 4 rest
  else if c == 'U' then hex? f 8 rest
  else if c == 'p' || c == 'P' then property? f (c == 'P') rest
  else if isEscapable c then some (.literal c, rest)
  else match f.shorthand? c.toLower with
    | some s => (f.negate? c.isUpper s).map fun s => (.set s, rest)
    | none =>
      match c with
      | 'a' => some (.literal '\x07', rest)
      | 'f' => some (.literal '\x0c', rest)
      | 't' => some (.literal '\t', rest)
      | 'n' => some (.literal '\n', rest)
      | 'r' => some (.literal '\r', rest)
      | 'v' => some (.literal '\x0b', rest)
      | 'A' => some (.look .textStart, rest)
      | 'z' => some (.look .textEnd, rest)
      | 'b' => boundary? f rest
      | 'B' => some (.look (.notWordBoundary ascii), rest)
      | '<' => some (.look (.wordStart ascii), rest)
      | '>' => some (.look (.wordEnd ascii), rest)
      | _ => none

end Primitive

end FilterSql.Pattern
