import FilterSql.Pattern.Property
import FilterSql.Pattern.Property.CaseClass

/-! Sets of characters as patterns describe them. -/

namespace FilterSql.Pattern

inductive CharSet
  | none
  | range (first last : Char)
  | property (p : Property)
  | complement (s : CharSet)
  | union (s t : CharSet)
  | intersection (s t : CharSet)
  | difference (s t : CharSet)
  | symmetricDifference (s t : CharSet)
  /-- Everything that equals a member up to case. -/
  | folded (s : CharSet)
  /-- Everything that equals a member up to the case of ASCII letters. -/
  | asciiFolded (s : CharSet)
  deriving DecidableEq, Repr

namespace CharSet

def contains : CharSet → Char → Bool
  | none, _ => false
  | range first last, c => first ≤ c && c ≤ last
  | property p, c => p.contains c
  | complement s, c => !s.contains c
  | union s t, c => s.contains c || t.contains c
  | intersection s t, c => s.contains c && t.contains c
  | difference s t, c => s.contains c && !t.contains c
  | symmetricDifference s t, c => s.contains c != t.contains c
  | folded s, c => (caseClass c).any fun n => s.contains (Char.ofNat n)
  | asciiFolded s, c => s.contains c || s.contains c.toLower || s.contains c.toUpper

def single (c : Char) : CharSet :=
  range c c

def ofRanges (ranges : List (Char × Char)) : CharSet :=
  ranges.foldl (fun s r => union s (range r.1 r.2)) none

/-- The digits, letters and connector that make up words of ASCII text. -/
def asciiWord : CharSet :=
  ofRanges [('0', '9'), ('A', 'Z'), ('_', '_'), ('a', 'z')]

def asciiSpace : CharSet :=
  ofRanges [('\t', '\r'), (' ', ' ')]

def asciiDigit : CharSet :=
  range '0' '9'

/-- The sets of ASCII characters that can be named inside brackets. -/
def ofAsciiName? (name : String) : Option CharSet :=
  match name with
  | "alnum" => some (ofRanges [('0', '9'), ('A', 'Z'), ('a', 'z')])
  | "alpha" => some (ofRanges [('A', 'Z'), ('a', 'z')])
  | "ascii" => some (range '\x00' '\x7f')
  | "blank" => some (ofRanges [('\t', '\t'), (' ', ' ')])
  | "cntrl" => some (ofRanges [('\x00', '\x1f'), ('\x7f', '\x7f')])
  | "digit" => some asciiDigit
  | "graph" => some (range '!' '~')
  | "lower" => some (range 'a' 'z')
  | "print" => some (range ' ' '~')
  | "punct" => some (ofRanges [('!', '/'), (':', '@'), ('[', '\x60'), ('\x7b', '~')])
  | "space" => some asciiSpace
  | "upper" => some (range 'A' 'Z')
  | "word" => some asciiWord
  | "xdigit" => some (ofRanges [('0', '9'), ('A', 'F'), ('a', 'f')])
  | _ => Option.none

end CharSet

end FilterSql.Pattern
