import FilterSql.Proofs.LexedTokens
import FilterSql.Proofs.Names

/-!
Tokens written out. Every token that a text can have is read back from its spelling, whatever
follows that cannot go on with it; so each list of such tokens is what some text says.
-/

namespace FilterSql

/-! ## Numbers -/

theorem isNameChar_of_isDigit {c : Char} (h : c.isDigit = true) : Text.isNameChar c = true := by
  simp [Text.isNameChar, Char.isAlphanum, h]

theorem Ends.not_isDigit {rest : List Char} (ends : Ends rest) :
    ∀ c ∈ rest.head?, c.isDigit = false := by
  intro c hc
  cases digit : c.isDigit with
  | false => rfl
  | true => exact (isNameChar_of_isDigit digit).symm.trans (ends c hc)

namespace NumberRun

def fractionChars : Option (List Char) → List Char
  | some digits => '.' :: digits
  | none => []

def exponentChars : Option ExponentPart → List Char
  | some e => 'e' :: e.sign.toList ++ e.digits
  | none => []

theorem spelling_toList (r : NumberRun) :
    r.spelling.toList = (if r.negative then ['-'] else []) ++ r.whole ++ fractionChars r.fraction ++
      exponentChars r.exponent ++ r.glued := by
  obtain ⟨negative, whole, fraction, exponent, glued⟩ := r
  cases fraction <;> cases exponent <;> exact String.toList_ofList

/-- A run that a number fills: digits wherever digits stand, and nothing glued on. -/
structure Plain (r : NumberRun) : Prop where
  whole_ne : r.whole ≠ []
  whole : ∀ c ∈ r.whole, c.isDigit = true
  fraction : ∀ ds ∈ r.fraction, ds ≠ [] ∧ ∀ c ∈ ds, c.isDigit = true
  exponent : ∀ e ∈ r.exponent, e.digits ≠ [] ∧ ∀ c ∈ e.digits, c.isDigit = true
  sign : ∀ e ∈ r.exponent, ∀ c ∈ e.sign, c = '+' ∨ c = '-'
  glued : r.glued = []

theorem takeSign_append {sign : Option Char} (signed : ∀ c ∈ sign, c = '+' ∨ c = '-')
    {d : Char} (digit : d.isDigit = true) (cs : List Char) :
    takeSign (sign.toList ++ d :: cs) = (sign, d :: cs) := by
  cases sign with
  | some c =>
    rcases signed c rfl with rfl | rfl
    · rfl
    · rfl
  | none =>
    have notPlus : d ≠ '+' := by
      rintro rfl
      cases digit
    have notMinus : d ≠ '-' := by
      rintro rfl
      cases digit
    simp [takeSign, notPlus, notMinus]

/-! ### The check of a number's text -/

theorem ne_of_absent {c : Char} {cs : List Char} (absent : c ∉ cs) :
    ∀ d ∈ cs, (d != c) = true := by
  intro d member
  apply bne_iff_ne.mpr
  rintro rfl
  exact absent member

theorem splitOnce_append {c : Char} {front : List Char} (absent : c ∉ front) (back : List Char) :
    splitOnce c (front ++ c :: back) = some (front, back) := by
  obtain ⟨taken, left⟩ := span_append (r := c :: back) (ne_of_absent absent) (by simp)
  rw [splitOnce, left, taken]

theorem splitOnce_absent {c : Char} {cs : List Char} (absent : c ∉ cs) : splitOnce c cs = none := by
  obtain ⟨-, left⟩ := span_append (r := []) (ne_of_absent absent) (by simp)
  rw [List.append_nil] at left
  rw [splitOnce, left]

theorem isDigits_iff {cs : List Char} :
    isDigits cs = true ↔ cs ≠ [] ∧ ∀ c ∈ cs, c.isDigit = true := by
  simp [isDigits]

theorem not_mem_digits {c : Char} {ds : List Char} (outside : c.isDigit = false)
    (digits : ∀ d ∈ ds, d.isDigit = true) : c ∉ ds := by
  intro member
  rw [digits c member] at outside
  cases outside

theorem isDecimal_of_ne {cs : List Char} (unsigned : cs.head? ≠ some '-') :
    isDecimal cs = isUnsigned cs := by
  unfold isDecimal
  split
  · exact absurd rfl unsigned
  · rfl

section Plain

variable {r : NumberRun} (plain : r.Plain)
include plain

theorem Plain.fraction_plain {c : Char} (outside : c.isDigit = false) (notPoint : c ≠ '.') :
    c ∉ fractionChars r.fraction := by
  cases fraction : r.fraction with
  | none => exact List.not_mem_nil
  | some ds =>
    intro member
    rcases List.mem_cons.mp member with point | digit
    · exact notPoint point
    · exact not_mem_digits outside (plain.fraction ds fraction).2 digit

/-- The parts before the exponent have no mark in them. -/
theorem Plain.mantissa_unmarked : 'e' ∉ r.whole ++ fractionChars r.fraction := by
  intro member
  rcases List.mem_append.mp member with whole | fraction
  · exact not_mem_digits (by decide) plain.whole whole
  · exact plain.fraction_plain (by decide) (by decide) fraction

theorem Plain.isMantissa : isMantissa (r.whole ++ fractionChars r.fraction) = true := by
  have whole := isDigits_iff.mpr ⟨plain.whole_ne, plain.whole⟩
  have pointless : '.' ∉ r.whole := not_mem_digits (by decide) plain.whole
  cases fraction : r.fraction with
  | none => simpa [NumberRun.isMantissa, fractionChars, splitOnce_absent pointless] using whole
  | some ds =>
    have digits := isDigits_iff.mpr (plain.fraction ds fraction)
    simp [NumberRun.isMantissa, fractionChars, splitOnce_append pointless, whole, digits]

theorem Plain.isUnsigned :
    isUnsigned (r.whole ++ fractionChars r.fraction ++ exponentChars r.exponent) = true := by
  cases exponent : r.exponent with
  | none =>
    rw [exponentChars, List.append_nil, NumberRun.isUnsigned,
      splitOnce_absent plain.mantissa_unmarked]
    exact plain.isMantissa
  | some e =>
    obtain ⟨nonempty, digits⟩ := plain.exponent e exponent
    obtain ⟨d, ds, shape⟩ := List.exists_cons_of_ne_nil nonempty
    have digit := digits d (shape ▸ List.mem_cons_self)
    have stripped : (takeSign (e.sign.toList ++ e.digits)).2 = e.digits := by
      rw [shape, takeSign_append (plain.sign e exponent) digit]
    rw [exponentChars, List.cons_append, NumberRun.isUnsigned,
      splitOnce_append plain.mantissa_unmarked]
    simp only [stripped, plain.isMantissa, isDigits_iff.mpr ⟨nonempty, digits⟩, Bool.and_self]

theorem Plain.isValid : r.isValid = true := by
  have unsigned := plain.isUnsigned
  rw [NumberRun.isValid, spelling_toList, plain.glued, List.append_nil]
  cases r.negative with
  | true => exact unsigned
  | false =>
    obtain ⟨d, ds, shape⟩ := List.exists_cons_of_ne_nil plain.whole_ne
    have notMinus : (d :: ds).head? ≠ some '-' := by
      rintro ⟨⟩
      exact not_mem_digits (by decide) plain.whole (shape ▸ List.mem_cons_self)
    rw [shape] at unsigned ⊢
    rwa [if_neg (by decide), List.nil_append, isDecimal_of_ne (by simpa using notMinus)]

end Plain

/-! ### Taking a number -/

theorem takeExponent_append {exponent : Option ExponentPart}
    (digits : ∀ e ∈ exponent, e.digits ≠ [] ∧ ∀ c ∈ e.digits, c.isDigit = true)
    (signed : ∀ e ∈ exponent, ∀ c ∈ e.sign, c = '+' ∨ c = '-') {rest : List Char}
    (ends : Ends rest) : takeExponent (exponentChars exponent ++ rest) = (exponent, rest) := by
  cases exponent with
  | none =>
    cases rest with
    | nil => rfl
    | cons c rest =>
      have outside := ends c rfl
      have small : c ≠ 'e' := by
        rintro rfl
        cases outside
      have large : c ≠ 'E' := by
        rintro rfl
        cases outside
      simp [exponentChars, takeExponent, small, large]
  | some e =>
    obtain ⟨sign, ds⟩ := e
    obtain ⟨nonempty, allDigits⟩ := digits _ rfl
    obtain ⟨d, ds, rfl⟩ := List.exists_cons_of_ne_nil nonempty
    have digit := allDigits d (List.mem_cons_self ..)
    have spelled := takeSign_append (signed _ rfl) digit (ds ++ rest)
    obtain ⟨taken, left⟩ := span_append allDigits ends.not_isDigit
    simp only [exponentChars, List.cons_append, List.append_assoc, takeExponent, beq_self_eq_true,
      Bool.true_or, if_true, spelled]
    rw [← List.cons_append, taken, left]

theorem takeFraction_append {fraction : Option (List Char)}
    (digits : ∀ ds ∈ fraction, ds ≠ [] ∧ ∀ c ∈ ds, c.isDigit = true) {rest : List Char}
    (stop : ∀ c ∈ rest.head?, c.isDigit = false ∧ c ≠ '.') :
    takeFraction (fractionChars fraction ++ rest) = (fraction, rest) := by
  cases fraction with
  | none =>
    cases rest with
    | nil => rfl
    | cons c rest => simp [fractionChars, takeFraction, (stop c rfl).2]
  | some ds =>
    obtain ⟨taken, left⟩ := span_append (digits ds rfl).2 fun c hc => (stop c hc).1
    simp [fractionChars, takeFraction, taken, left]

theorem exponentChars_stop (exponent : Option ExponentPart) {rest : List Char} (ends : Ends rest) :
    ∀ c ∈ (exponentChars exponent ++ rest).head?, c.isDigit = false ∧ c ≠ '.' := by
  intro c hc
  cases exponent with
  | none =>
    refine ⟨ends.not_isDigit c hc, ?_⟩
    rintro rfl
    cases ends '.' hc
  | some e =>
    cases hc
    decide

theorem fractionChars_stop (fraction : Option (List Char)) {rest : List Char}
    (stop : ∀ c ∈ rest.head?, c.isDigit = false ∧ c ≠ '.') :
    ∀ c ∈ (fractionChars fraction ++ rest).head?, c.isDigit = false := by
  intro c hc
  cases fraction with
  | none => exact (stop c hc).1
  | some ds =>
    cases hc
    decide

theorem take_digits {r : NumberRun} (plain : r.Plain) (c : Char) {ds rest : List Char}
    (digits : ∀ d ∈ ds, d.isDigit = true) (ends : Ends rest) :
    take c (ds ++ (fractionChars r.fraction ++ (exponentChars r.exponent ++ rest))) =
      (⟨c == '-', (if c == '-' then [] else [c]) ++ ds, r.fraction, r.exponent, []⟩, rest) := by
  have stop := exponentChars_stop r.exponent ends
  have exponent := takeExponent_append plain.exponent plain.sign ends
  have fraction := takeFraction_append plain.fraction stop
  obtain ⟨front, back⟩ := span_append digits (fractionChars_stop r.fraction stop)
  obtain ⟨taken, left⟩ := span_append (p := Text.isNameChar) (a := []) nofun ends
  rw [List.nil_append] at taken left
  simp only [take, front, back, fraction, exponent, taken, left]

theorem Plain.eta {r : NumberRun} (plain : r.Plain) {negative : Bool} {whole : List Char}
    (hn : r.negative = negative) (hw : r.whole = whole) :
    (⟨negative, whole, r.fraction, r.exponent, []⟩ : NumberRun) = r := by
  subst hn hw
  rw [← plain.glued]

/-- A run is taken as it is spelled, up to where no number goes on. -/
theorem take_spelling {r : NumberRun} (plain : r.Plain) {rest : List Char} (ends : Ends rest) :
    ∃ c cs, r.spelling.toList = c :: cs ∧ (c.isDigit = true ∨ c = '-') ∧
      take c (cs ++ rest) = (r, rest) := by
  have spelled := r.spelling_toList
  simp only [plain.glued, List.append_nil, List.append_assoc] at spelled
  cases negative : r.negative with
  | true =>
    rw [negative] at spelled
    refine ⟨'-', r.whole ++ (fractionChars r.fraction ++ exponentChars r.exponent), spelled,
      .inr rfl, ?_⟩
    simp only [List.append_assoc]
    rw [take_digits plain '-' plain.whole ends]
    exact congrArg (·, rest) (plain.eta negative rfl)
  | false =>
    obtain ⟨d, ds, whole⟩ := List.exists_cons_of_ne_nil plain.whole_ne
    have digits := plain.whole
    rw [whole] at digits
    have digit := digits d (List.mem_cons_self ..)
    have notMinus : (d == '-') = false := by
      apply beq_false_of_ne
      rintro rfl
      cases digit
    rw [negative, whole] at spelled
    refine ⟨d, ds ++ (fractionChars r.fraction ++ exponentChars r.exponent), spelled,
      .inl digit, ?_⟩
    simp only [List.append_assoc]
    rw [take_digits plain d (fun c hc => digits c (List.mem_cons_of_mem _ hc)) ends, notMinus]
    exact congrArg (·, rest) (plain.eta negative whole)

end NumberRun

namespace Number

theorem digitsValue_toDigits (n : Nat) : digitsValue (Nat.toDigits 10 n) = n :=
  Nat.ofDigitChars_ten_toDigits

theorem digitsValue_zeros (zeros : Nat) (digits : List Char) :
    digitsValue (List.replicate zeros '0' ++ digits) = digitsValue digits := by
  induction zeros with
  | zero => rfl
  | succ zeros ih => exact ih

theorem isDigit_of_mem_toDigits (k : Nat) : ∀ c ∈ Nat.toDigits 10 k, c.isDigit = true := fun _ hc =>
  Nat.isDigit_of_mem_toDigits (by decide) (by decide) hc

/-- A whole number in decimal digits, with zeros in front of them. -/
def integerRun (zeros : Nat) (n : Int) : NumberRun :=
  ⟨n < 0, List.replicate zeros '0' ++ Nat.toDigits 10 n.natAbs, none, none, []⟩

theorem integerRun_plain (zeros : Nat) (n : Int) : (integerRun zeros n).Plain := by
  refine ⟨by simp [integerRun], ?_, by simp [integerRun], by simp [integerRun],
    by simp [integerRun], rfl⟩
  intro c hc
  rcases List.mem_append.mp hc with zero | digit
  · rw [List.eq_of_mem_replicate zero]
    rfl
  · exact isDigit_of_mem_toDigits _ c digit

theorem integerRun_number (zeros : Nat) {n : Int} (h : (integer n).Lexable) :
    (integerRun zeros n).number = integer n := by
  have whole : (integerRun zeros n).integer? = some n := by
    simp only [integerRun, NumberRun.integer?, Option.isNone_none, Bool.and_self, if_true,
      digitsValue_zeros, digitsValue_toDigits, decide_eq_true_eq, Option.some.injEq]
    split <;> omega
  have fits : NumberRun.fitsWord n = true := by simpa [NumberRun.fitsWord, Lexable] using h
  simp only [NumberRun.number, whole, fits, if_true]

/-- How a number is written: a whole number by its digits, any other by an expansion. -/
def run : Number → NumberRun
  | integer n => integerRun 0 n
  | decimal x =>
    ⟨x.negative, Nat.toDigits 10 x.expansionDigits, none,
      some ⟨if x.expansionExponent < 0 then some '-' else none,
        Nat.toDigits 10 x.expansionExponent.natAbs⟩, []⟩

theorem run_plain (n : Number) : n.run.Plain := by
  cases n with
  | integer n => exact integerRun_plain 0 n
  | decimal x =>
    refine ⟨Nat.toDigits_ne_nil, isDigit_of_mem_toDigits _, nofun, ?_, ?_, rfl⟩
    · rintro e ⟨⟩
      exact ⟨Nat.toDigits_ne_nil, isDigit_of_mem_toDigits _⟩
    · rintro e ⟨⟩ c hc
      dsimp only at hc
      split at hc
      · cases hc
        exact .inr rfl
      · cases hc

theorem run_number {n : Number} (h : n.Lexable) : n.run.number = n := by
  cases n with
  | integer n => exact integerRun_number 0 h
  | decimal x =>
    have exponent : (decimal x).run.numeral.exponent = x.expansionExponent := by
      simp only [run, NumberRun.numeral, digitsValue_toDigits]
      split
      · rw [if_pos (by decide)]
        omega
      · rw [if_neg (by decide)]
        omega
    have value : (decimal x).run.numeral.value = x := by
      simp only [Numeral.value, exponent]
      simp only [run, NumberRun.numeral, Option.getD_none, List.append_nil, digitsValue_toDigits,
        List.length_nil, Int.natCast_zero, Int.sub_zero]
      exact Binary64.ofDecimal_expansion h
    simp only [NumberRun.number, value]
    rfl

end Number

/-! ## Quoted texts -/

namespace Lexeme

/-- Writes a character so that `unescape` gives it back. -/
def escape (c : Char) : List Char :=
  if c == '"' || c == '\\' then ['\\', c] else [c]

theorem takeQuoted_escape (c : Char) (cs : List Char) :
    takeQuoted (escape c ++ cs) = (takeQuoted cs).map fun (text, rest) => (c :: text, rest) := by
  unfold escape
  split
  · rename_i special
    simp only [List.cons_append, List.nil_append, takeQuoted, unescape, special, if_true]
  · rename_i ordinary
    simp only [Bool.or_eq_true, beq_iff_eq, not_or] at ordinary
    simp [takeQuoted, ordinary]

theorem takeQuoted_escaped (cs rest : List Char) :
    takeQuoted (cs.flatMap escape ++ '"' :: rest) = some (cs, rest) := by
  induction cs with
  | nil => rfl
  | cons c cs ih =>
    rw [List.flatMap_cons, List.append_assoc, takeQuoted_escape, ih]
    rfl

end Lexeme

/-! ## Words -/

namespace Token

theorem ofWord_keyword (op : Operator) : ofWord op.keyword = .operator op := by
  cases op <;> decide +kernel

theorem ofWord_connective (c : Connective) : ofWord c.keyword = .connective c := by
  cases c <;> decide +kernel

theorem ofWord_boolean (b : Bool) : ofWord (Literal.booleanText b) = .literal (.boolean b) := by
  cases b <;> decide +kernel

theorem ofWord_identifier {name : String} (h : IsIdentifier name) :
    ofWord name = .identifier name := by
  obtain ⟨-, unreserved⟩ := h
  simp only [reservedWords, List.mem_append, not_or] at unreserved
  obtain ⟨notOperator, other⟩ := unreserved
  simp [Connective.keyword, Literal.booleanText] at other
  simp [ofWord, Operator.ofWord?_eq_none.mpr notOperator, other]

end Token

/-! ## Tokens -/

def Literal.quoted (s : String) : String :=
  String.ofList ('"' :: (s.toList.flatMap Lexeme.escape ++ ['"']))

def Literal.spelling : Literal → String
  | text s => quoted s
  | number n => n.run.spelling
  | boolean b => booleanText b
  | timestamp raw _ => quoted raw

def Token.spelling : Token → String
  | identifier name => name
  | operator op => op.keyword
  | literal value => value.spelling
  | connective c => c.keyword
  | opening => "("
  | closing => ")"

theorem isNameChar_bounds {c : Char} (h : Text.isNameChar c = true) :
    32 < c.toNat ∧ c.toNat < 127 := by
  simp only [Text.isNameChar, Char.isAlphanum] at h
  delta Char.isAlpha Char.isUpper Char.isLower at h
  simp only [Char.isDigit, Bool.or_eq_true, Bool.and_eq_true, decide_eq_true_eq, beq_iff_eq,
    UInt32.le_iff_toNat_le, ge_iff_le] at h
  have between {first last : Char} (low : first.val.toNat ≤ c.val.toNat)
      (high : c.val.toNat ≤ last.val.toNat) (lowest : 32 < first.val.toNat)
      (highest : last.val.toNat < 127) : 32 < c.toNat ∧ c.toNat < 127 :=
    ⟨Nat.lt_of_lt_of_le lowest low, Nat.lt_of_le_of_lt high highest⟩
  rcases h with ((((⟨low, high⟩ | ⟨low, high⟩) | ⟨low, high⟩) | rfl) | rfl)
  · exact between low high (by decide) (by decide)
  · exact between low high (by decide) (by decide)
  · exact between low high (by decide) (by decide)
  · decide
  · decide

theorem not_blank_of_isNameChar {c : Char} (h : Text.isNameChar c = true) :
    Text.isBlank c = false := by
  obtain ⟨low, high⟩ := isNameChar_bounds h
  simp only [Text.isBlank, Text.blanks, Text.Ranges.contains, List.any_cons, List.any_nil,
    Bool.or_false, Bool.or_eq_false_iff, Bool.and_eq_false_iff, decide_eq_false_iff_not]
  omega

theorem not_isDigit_of_isNameStart {c : Char} (h : Text.isNameStart c = true) :
    c.isDigit = false := by
  simp only [Text.isNameStart] at h
  delta Char.isAlpha Char.isUpper Char.isLower at h
  simp only [Bool.or_eq_true, Bool.and_eq_true, decide_eq_true_eq, beq_iff_eq,
    UInt32.le_iff_toNat_le, ge_iff_le] at h
  have above (high : '9'.val.toNat < c.val.toNat) : c.isDigit = false := by
    simp only [Char.isDigit, Bool.and_eq_false_iff, decide_eq_false_iff_not,
      UInt32.le_iff_toNat_le, ge_iff_le]
    omega
  rcases h with ((⟨low, -⟩ | ⟨low, -⟩) | rfl)
  · exact above (Nat.lt_of_lt_of_le (by decide) low)
  · exact above (Nat.lt_of_lt_of_le (by decide) low)
  · decide

theorem Lexeme.read_word {c : Char} (start : Text.isNameStart c = true) (cs : List Char) :
    read c cs = word c cs := by
  have other {d : Char} (outside : Text.isNameStart d = false) : (c == d) = false := by
    apply beq_false_of_ne
    rintro rfl
    rw [start] at outside
    cases outside
  simp [read, start, not_isDigit_of_isNameStart start, other (d := '(') (by decide),
    other (d := ')') (by decide), other (d := '"') (by decide), other (d := '-') (by decide)]

theorem Lexeme.read_number {c : Char} (start : c.isDigit = true ∨ c = '-') (cs : List Char) :
    read c cs = number c cs := by
  rcases start with digit | rfl
  · have other {d : Char} (outside : d.isDigit = false) : (c == d) = false := by
      apply beq_false_of_ne
      rintro rfl
      rw [digit] at outside
      cases outside
    simp [read, digit, other (d := '(') (by decide), other (d := ')') (by decide),
      other (d := '"') (by decide)]
  · rfl

/-- The characters are a lexeme of their own that gives the token, whatever follows and ends it. -/
def ReadsAs (cs : List Char) (t : Token) : Prop :=
  ∀ rest, Ends rest → ∃ c cs', cs = c :: cs' ∧ Text.isBlank c = false ∧
    Lexeme.read c (cs' ++ rest) = ⟨.ok t, rest⟩

theorem readsAs_word {word : String} {t : Token} (name : Text.isName word = true)
    (meant : Token.ofWord word = t) : ReadsAs word.toList t := by
  intro rest ends
  unfold Text.isName at name
  cases spelled : word.toList with
  | nil => simp [spelled, Text.isNameChars] at name
  | cons c cs =>
    simp only [spelled, Text.isNameChars, Bool.and_eq_true, List.all_eq_true] at name
    obtain ⟨start, chars⟩ := name
    refine ⟨c, cs, rfl, not_blank_of_isNameChar (isNameChar_of_isNameStart start), ?_⟩
    obtain ⟨taken, left⟩ := span_append chars ends
    rw [Lexeme.read_word start, Lexeme.word, taken, left, ← spelled, String.ofList_toList,
      meant]

theorem Literal.ofQuoted_of_undated {s : String} (h : Instant.ofText? s = none) :
    ofQuoted s = .text s := by
  simp only [ofQuoted, h]

theorem Literal.ofQuoted_of_dated {s : String} {instant : Instant}
    (h : Instant.ofText? s = some instant) : ofQuoted s = .timestamp s instant := by
  simp only [ofQuoted, h]

/-- A quoted text is a lexeme of its own, whatever follows it. -/
theorem Literal.read_quoted {s : String} {value : Literal} (meant : ofQuoted s = value)
    (rest : List Char) : ∃ c cs, (quoted s).toList = c :: cs ∧ Text.isBlank c = false ∧
      Lexeme.read c (cs ++ rest) = ⟨.ok (.literal value), rest⟩ := by
  refine ⟨'"', _, String.toList_ofList, by decide, ?_⟩
  have taken := Lexeme.takeQuoted_escaped s.toList rest
  simp [Lexeme.read, Lexeme.quoted, taken, meant]

theorem readsAs_quoted {s : String} {value : Literal} (meant : Literal.ofQuoted s = value) :
    ReadsAs (Literal.quoted s).toList (.literal value) := fun rest _ =>
  Literal.read_quoted meant rest

theorem readsAs_run {r : NumberRun} (plain : r.Plain) :
    ReadsAs r.spelling.toList (.literal (.number r.number)) := by
  intro rest ends
  obtain ⟨c, cs, spelled, start, taken⟩ := NumberRun.take_spelling plain ends
  refine ⟨c, cs, spelled, ?_, ?_⟩
  · rcases start with digit | rfl
    · exact not_blank_of_isNameChar (isNameChar_of_isDigit digit)
    · decide
  · simp only [Lexeme.read_number start, Lexeme.number, taken, plain.isValid, if_true]

theorem readsAs_number {n : Number} (h : n.Lexable) :
    ReadsAs n.run.spelling.toList (.literal (.number n)) := by
  have reads := readsAs_run n.run_plain
  rwa [Number.run_number h] at reads

theorem Literal.readsAs_spelling {value : Literal} (h : value.Lexable) :
    ReadsAs value.spelling.toList (.literal value) := by
  cases value with
  | text s => exact readsAs_quoted (ofQuoted_of_undated h)
  | number n => exact readsAs_number h
  | boolean b => exact readsAs_word (by cases b <;> decide) (Token.ofWord_boolean b)
  | timestamp raw instant => exact readsAs_quoted (ofQuoted_of_dated h)

/-- Every token that a text can have is read back from its spelling. -/
theorem Token.readsAs_spelling {t : Token} (h : t.Lexable) : ReadsAs t.spelling.toList t := by
  cases t with
  | identifier name => exact readsAs_word h.1 (ofWord_identifier h)
  | operator op => exact readsAs_word (by cases op <;> decide) (ofWord_keyword op)
  | literal value => exact Literal.readsAs_spelling h
  | connective c => exact readsAs_word (by cases c <;> decide) (ofWord_connective c)
  | opening =>
    intro rest ends
    exact ⟨'(', [], rfl, by decide, rfl⟩
  | closing =>
    intro rest ends
    exact ⟨')', [], rfl, by decide, rfl⟩

/-! ## Lists of tokens -/

/-- The tokens written out, with a space between neighbours. -/
def spelled : List Token → String
  | [] => ""
  | [t] => t.spelling
  | t :: ts => t.spelling ++ " " ++ spelled ts

theorem lexemes_readsAs {cs rest : List Char} {t : Token} (reads : ReadsAs cs t)
    (ends : Ends rest) (position : Nat) :
    ∃ next, lexemes position (cs ++ rest) = ⟨position, .ok t⟩ :: lexemes next rest := by
  obtain ⟨c, cs, rfl, solid, read⟩ := reads rest ends
  obtain ⟨next, shape⟩ := lexemes_solid position solid (cs ++ rest)
  rw [read] at shape
  exact ⟨next, shape⟩

theorem lexemes_spelled {ts : List Token} (lexable : ∀ t ∈ ts, t.Lexable) (position : Nat) :
    (lexemes position (spelled ts).toList).map Placed.value = ts.map .ok := by
  fun_induction spelled ts generalizing position with
  | case1 => simp [lexemes]
  | case2 t =>
    have reads := Token.readsAs_spelling (lexable t (List.mem_cons_self ..))
    obtain ⟨next, shape⟩ := lexemes_readsAs reads ends_nil position
    rw [List.append_nil] at shape
    simp [shape, lexemes]
  | case3 t ts more ih =>
    have reads := Token.readsAs_spelling (lexable t (List.mem_cons_self ..))
    obtain ⟨next, shape⟩ := lexemes_readsAs reads
      (ends_cons (c := ' ') (by decide) (spelled ts).toList) position
    have rest := ih (fun u hu => lexable u (List.mem_cons_of_mem _ hu)) (next + ' '.utf8Size)
    rw [lexemes_blank next (c := ' ') (by decide)] at shape
    have text : (t.spelling ++ " " ++ spelled ts).toList =
        t.spelling.toList ++ ' ' :: (spelled ts).toList := by simp
    rw [text, shape, List.map_cons, rest, List.map_cons]

namespace Tokens

theorem parts_of_ok {found : List (Placed (Except Mistake Token))} {ts : List Token}
    (h : found.map Placed.value = ts.map .ok) :
    (found.filterMap token?).map Placed.value = ts ∧ found.filterMap mistake? = [] := by
  induction found generalizing ts with
  | nil =>
    cases ts with
    | nil => exact ⟨rfl, rfl⟩
    | cons t ts => cases h
  | cons p found ih =>
    cases ts with
    | nil => cases h
    | cons t ts =>
      obtain ⟨position, outcome⟩ := p
      obtain ⟨here, later⟩ := List.cons.inj h
      obtain ⟨tokens, mistakes⟩ := ih later
      cases here
      exact ⟨congrArg (t :: ·) tokens, mistakes⟩

/-- A list of tokens that texts can have is the list of tokens of its own spelling. -/
theorem ofText_spelled {ts : List Token} (lexable : ∀ t ∈ ts, t.Lexable) :
    (ofText (spelled ts)).tokens.map Placed.value = ts ∧ (ofText (spelled ts)).mistakes = [] :=
  parts_of_ok (lexemes_spelled lexable 0)

end Tokens

end FilterSql
