import FilterSql.Filter.Token
import FilterSql.Text.Blank
import FilterSql.Text.Name

/-!
Splitting a filter text into lexemes. Between blanks every character belongs to exactly one lexeme, and
a lexeme gives either a token or a mistake; reading goes on after a mistake.
-/

namespace FilterSql

/-- The exponent part of a number: its sign, if it has one, and its digits. -/
structure ExponentPart where
  sign : Option Char
  digits : List Char
  deriving DecidableEq, Repr

/-- Everything that a number's lexeme takes. Name characters glued to the number spoil it. -/
structure NumberRun where
  negative : Bool
  whole : List Char
  fraction : Option (List Char)
  exponent : Option ExponentPart
  glued : List Char
  deriving DecidableEq, Repr

namespace NumberRun

def takeFraction (cs : List Char) : Option (List Char) × List Char :=
  match cs with
  | '.' :: rest => (some (rest.takeWhile Char.isDigit), rest.dropWhile Char.isDigit)
  | _ => (none, cs)

def takeSign (cs : List Char) : Option Char × List Char :=
  match cs with
  | '+' :: rest => (some '+', rest)
  | '-' :: rest => (some '-', rest)
  | _ => (none, cs)

def takeExponent (cs : List Char) : Option ExponentPart × List Char :=
  match cs with
  | [] => (none, [])
  | c :: rest =>
    if c == 'e' || c == 'E' then
      let (sign, rest) := takeSign rest
      (some ⟨sign, rest.takeWhile Char.isDigit⟩, rest.dropWhile Char.isDigit)
    else (none, cs)

/-- The run that starts with `c`, a digit or a minus sign. -/
def take (c : Char) (cs : List Char) : NumberRun × List Char :=
  let negative := c == '-'
  let whole := (if negative then [] else [c]) ++ cs.takeWhile Char.isDigit
  let (fraction, rest) := takeFraction (cs.dropWhile Char.isDigit)
  let (exponent, rest) := takeExponent rest
  (⟨negative, whole, fraction, exponent, rest.takeWhile Text.isNameChar⟩,
    rest.dropWhile Text.isNameChar)

/-- The run as messages show it, with a small exponent mark. -/
def spelling (r : NumberRun) : String :=
  let fraction := match r.fraction with
    | some digits => '.' :: digits
    | none => []
  let exponent := match r.exponent with
    | some e => 'e' :: e.sign.toList ++ e.digits
    | none => []
  String.ofList ((if r.negative then ['-'] else []) ++ r.whole ++ fraction ++ exponent ++ r.glued)

/-- The texts before and after the first `c`. -/
def splitOnce (c : Char) (cs : List Char) : Option (List Char × List Char) :=
  match cs.dropWhile (· != c) with
  | [] => none
  | _ :: rest => some (cs.takeWhile (· != c), rest)

def isDigits (cs : List Char) : Bool :=
  !cs.isEmpty && cs.all Char.isDigit

def isMantissa (cs : List Char) : Bool :=
  match splitOnce '.' cs with
  | some (whole, fraction) => isDigits whole && isDigits fraction
  | none => isDigits cs

def isUnsigned (cs : List Char) : Bool :=
  match splitOnce 'e' cs with
  | some (mantissa, exponent) => isMantissa mantissa && isDigits (takeSign exponent).2
  | none => isMantissa cs

/-- `-?digits(.digits)?(e[+-]?digits)?`, with at least one digit in each part. -/
def isDecimal (cs : List Char) : Bool :=
  match cs with
  | '-' :: rest => isUnsigned rest
  | _ => isUnsigned cs

/-- Whether the run writes a number. This is asked of its text, not of the parts it was taken in. -/
def isValid (r : NumberRun) : Bool :=
  isDecimal r.spelling.toList

def numeral (r : NumberRun) : Numeral :=
  let exponent : Int := match r.exponent with
    | some e => if e.sign == some '-' then -(digitsValue e.digits : Int) else digitsValue e.digits
    | none => 0
  ⟨r.negative, r.whole, r.fraction.getD [], exponent⟩

/-- The whole number that the run writes, when it has neither point nor exponent. -/
def integer? (r : NumberRun) : Option Int :=
  if r.fraction.isNone && r.exponent.isNone then
    some (if r.negative then -(digitsValue r.whole : Int) else digitsValue r.whole)
  else none

def fitsWord (n : Int) : Bool :=
  -0x8000000000000000 ≤ n && n < 0x8000000000000000

/-- A whole number in range is exact; every other number is the nearest binary one. -/
def number (r : NumberRun) : Number :=
  match r.integer? with
  | some n => if fitsWord n then .integer n else .decimal r.numeral.value
  | none => .decimal r.numeral.value

theorem takeFraction_suffix (cs : List Char) : (takeFraction cs).2 <:+ cs := by
  unfold takeFraction
  split
  · exact (List.dropWhile_suffix _).trans (List.suffix_cons _ _)
  · exact List.suffix_refl _

theorem takeSign_suffix (cs : List Char) : (takeSign cs).2 <:+ cs := by
  unfold takeSign
  split
  · exact List.suffix_cons _ _
  · exact List.suffix_cons _ _
  · exact List.suffix_refl _

theorem takeExponent_suffix (cs : List Char) : (takeExponent cs).2 <:+ cs := by
  unfold takeExponent
  split
  · exact List.suffix_refl _
  · split
    · exact ((List.dropWhile_suffix _).trans (takeSign_suffix _)).trans (List.suffix_cons _ _)
    · exact List.suffix_refl _

theorem take_suffix (c : Char) (cs : List Char) : (take c cs).2 <:+ cs :=
  ((List.dropWhile_suffix _).trans (takeExponent_suffix _)).trans
    ((takeFraction_suffix _).trans (List.dropWhile_suffix _))

end NumberRun

/-- What the front of a text gives, and what is left of the text. -/
structure Lexeme where
  outcome : Except Mistake Token
  rest : List Char

namespace Lexeme

/-- What a backslash and `c` stand for: only a quote and a backslash can be escaped, and before any
other character the backslash stands for itself. -/
def unescape (c : Char) : List Char :=
  if c == '"' || c == '\\' then [c] else ['\\', c]

/-- The decoded text up to the closing quote, and what follows the quote. -/
def takeQuoted : List Char → Option (List Char × List Char)
  | [] => none
  | '"' :: rest => some ([], rest)
  | ['\\'] => none
  | '\\' :: c :: rest =>
    (takeQuoted rest).map fun (text, rest) => (unescape c ++ text, rest)
  | c :: rest => (takeQuoted rest).map fun (text, rest) => (c :: text, rest)

/-- The lexeme after an opening quote; without its end it takes the whole text. -/
def quoted (cs : List Char) : Lexeme :=
  match takeQuoted cs with
  | some (text, rest) => ⟨.ok (.literal (.ofQuoted (String.ofList text))), rest⟩
  | none => ⟨.error .unterminatedText, []⟩

def number (c : Char) (cs : List Char) : Lexeme :=
  let (run, rest) := NumberRun.take c cs
  if run.isValid then ⟨.ok (.literal (.number run.number)), rest⟩
  else ⟨.error (.invalidNumber run.spelling), rest⟩

def word (c : Char) (cs : List Char) : Lexeme :=
  ⟨.ok (.ofWord (String.ofList (c :: cs.takeWhile Text.isNameChar))), cs.dropWhile Text.isNameChar⟩

/-- Reads the lexeme that starts with `c`, which is not blank. -/
def read (c : Char) (cs : List Char) : Lexeme :=
  if c == '(' then ⟨.ok .opening, cs⟩
  else if c == ')' then ⟨.ok .closing, cs⟩
  else if c == '"' then quoted cs
  else if c.isDigit || c == '-' then number c cs
  else if Text.isNameStart c then word c cs
  else ⟨.error (.unexpectedCharacter c), cs⟩

theorem takeQuoted_suffix {cs text rest : List Char} (h : takeQuoted cs = some (text, rest)) :
    rest <:+ cs := by
  fun_induction takeQuoted cs generalizing text rest with
  | case1 => simp at h
  | case2 cs =>
    simp only [Option.some.injEq, Prod.mk.injEq] at h
    exact h.2 ▸ List.suffix_cons _ _
  | case3 => simp at h
  | case4 c cs ih =>
    simp only [Option.map_eq_some_iff, Prod.mk.injEq, Prod.exists] at h
    obtain ⟨t, r, found, _, rfl⟩ := h
    exact (ih found).trans ((List.suffix_cons _ _).trans (List.suffix_cons _ _))
  | case5 c cs _ _ _ ih =>
    simp only [Option.map_eq_some_iff, Prod.mk.injEq, Prod.exists] at h
    obtain ⟨t, r, found, _, rfl⟩ := h
    exact (ih found).trans (List.suffix_cons _ _)

theorem quoted_suffix (cs : List Char) : (quoted cs).rest <:+ cs := by
  unfold quoted
  split
  · rename_i found
    exact takeQuoted_suffix found
  · exact List.nil_suffix

theorem number_suffix (c : Char) (cs : List Char) : (number c cs).rest <:+ cs := by
  have suffix := NumberRun.take_suffix c cs
  simp only [number]
  split <;> exact suffix

/-- Reading a lexeme leaves the end of the text as it was. -/
theorem read_suffix (c : Char) (cs : List Char) : (read c cs).rest <:+ cs := by
  unfold read
  split
  · exact List.suffix_refl _
  split
  · exact List.suffix_refl _
  split
  · exact quoted_suffix cs
  split
  · exact number_suffix c cs
  split
  · exact List.dropWhile_suffix _
  · exact List.suffix_refl _

end Lexeme

/-- The length of a text in the bytes of its UTF-8 form. -/
def byteLength : List Char → Nat
  | [] => 0
  | c :: cs => c.utf8Size + byteLength cs

/-- The lexemes of a text that starts at the given byte offset. -/
def lexemes (position : Nat) : List Char → List (Placed (Except Mistake Token))
  | [] => []
  | c :: cs =>
    if Text.isBlank c then lexemes (position + c.utf8Size) cs
    else
      let lexeme := Lexeme.read c cs
      let taken := (c :: cs).take (cs.length + 1 - lexeme.rest.length)
      ⟨position, lexeme.outcome⟩ :: lexemes (position + byteLength taken) lexeme.rest
termination_by cs => cs.length
decreasing_by
  · simp
  · exact Nat.lt_succ_of_le (Lexeme.read_suffix c cs).length_le

/-- The tokens of a filter text, and everything in it that is none. -/
structure Tokens where
  tokens : List (Placed Token)
  mistakes : List (Placed Mistake)
  deriving DecidableEq, Repr

namespace Tokens

def token? (p : Placed (Except Mistake Token)) : Option (Placed Token) :=
  match p.value with
  | .ok token => some ⟨p.position, token⟩
  | .error _ => none

def mistake? (p : Placed (Except Mistake Token)) : Option (Placed Mistake) :=
  match p.value with
  | .ok _ => none
  | .error mistake => some ⟨p.position, mistake⟩

def ofText (s : String) : Tokens :=
  let found := lexemes 0 s.toList
  ⟨found.filterMap token?, found.filterMap mistake?⟩

end Tokens

end FilterSql
