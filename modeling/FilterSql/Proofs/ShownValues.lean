import FilterSql.Proofs.SpelledTokens
import FilterSql.Parameter

/-!
Values as reports show them. Whatever characters a value holds, what is shown are printable ones, on a single
line. Quoting loses nothing, so the literals of a filter that are shown alike are the same, unless one of them
is a decimal.
-/

namespace FilterSql

/-! ## Printable texts -/

namespace Text

/-- Every character stands for itself on a line of text. -/
def Printable (cs : List Char) : Prop :=
  ∀ c ∈ cs, isPlain c = true

theorem printable_nil : Printable [] :=
  List.forall_mem_nil _

theorem printable_cons {c : Char} {cs : List Char} :
    Printable (c :: cs) ↔ isPlain c = true ∧ Printable cs :=
  List.forall_mem_cons

theorem printable_append {a b : List Char} : Printable (a ++ b) ↔ Printable a ∧ Printable b :=
  List.forall_mem_append

theorem printable_text_append {s t : String} :
    Printable (s ++ t).toList ↔ Printable s.toList ∧ Printable t.toList := by
  rw [String.toList_append, printable_append]

def isVisible (c : Char) : Bool :=
  32 ≤ c.toNat && c.toNat < 127

/-- No range of special characters reaches into the visible part of ASCII. -/
theorem isPlain_of_isVisible {c : Char} (h : isVisible c = true) : isPlain c = true := by
  simp only [isVisible, Bool.and_eq_true, decide_eq_true_eq] at h
  have outside {ranges : Ranges}
      (apart : ranges.all (fun r => decide (r.2 < 32 ∨ 126 < r.1)) = true) :
      ranges.contains c = false := by
    simp only [Ranges.contains, List.any_eq_false]
    intro r member
    have side := List.all_eq_true.mp apart r member
    simp only [decide_eq_true_eq] at side
    simp only [Bool.and_eq_true, decide_eq_true_eq, not_and]
    omega
  have noMark : combining.contains c = false := outside (by decide +kernel)
  have noControl : unprintable.contains c = false := outside (by decide +kernel)
  simp [isPlain, noMark, noControl]

theorem ne_of_isPlain {c d : Char} (control : d.toNat < 32) (h : isPlain c = true) : c ≠ d := by
  rintro rfl
  have member : ((0, 31) : Nat × Nat) ∈ unprintable := by decide
  have found : unprintable.contains c = true := by
    simp only [Ranges.contains, List.any_eq_true, Bool.and_eq_true, decide_eq_true_eq]
    exact ⟨(0, 31), member, Nat.zero_le _, by omega⟩
  simp [isPlain, found] at h

theorem printable_of_visible {cs : List Char} (h : cs.all isVisible = true) : Printable cs := by
  intro c member
  exact isPlain_of_isVisible (List.all_eq_true.mp h c member)

theorem printable_spaces (n : Nat) : Printable (List.replicate n ' ') := by
  have space : isVisible ' ' = true := rfl
  exact printable_of_visible (by simp [space])

theorem printable_space : Printable " ".toList :=
  printable_spaces 1

theorem isVisible_of_isNameChar {c : Char} (name : isNameChar c = true) : isVisible c = true := by
  have bounds := isNameChar_bounds name
  simp only [isVisible, Bool.and_eq_true, decide_eq_true_eq]
  omega

theorem printable_name {s : String} (named : isName s = true) : Printable s.toList := by
  obtain ⟨_, _, -, names⟩ := name_chars named
  intro c member
  exact isPlain_of_isVisible (isVisible_of_isNameChar (names c member))

theorem visible_digits (n : Nat) : (Nat.toDigits 10 n).all isVisible = true := by
  apply List.all_eq_true.mpr
  intro c member
  have digit := Number.isDigit_of_mem_toDigits n c member
  exact isVisible_of_isNameChar (isNameChar_of_isDigit digit)

/-! ## Hexadecimal digits -/

theorem mem_hexDigits {n : Nat} {c : Char} (h : c ∈ hexDigits n) :
    ∃ d < 16, c = Nat.digitChar d := by
  induction n using Nat.strongRecOn with
  | ind n ih =>
    by_cases small : n < 16
    · rw [hexDigits, Nat.toDigits_of_lt_base small, List.mem_singleton] at h
      exact ⟨n, small, h⟩
    · rw [hexDigits, Nat.toDigits_of_base_le (by decide) (by omega), List.mem_append,
        List.mem_singleton] at h
      rcases h with front | last
      · exact ih (n / 16) (by omega) front
      · exact ⟨n % 16, Nat.mod_lt n (by decide), last⟩

theorem hexValue_append (digits : List Char) (c : Char) :
    hexValue (digits ++ [c]) = 16 * hexValue digits + (hexDigitValue c).getD 0 := by
  simp [hexValue]

theorem hexDigitValue_digitChar : ∀ d < 16, hexDigitValue (Nat.digitChar d) = some d := by
  decide

theorem hexValue_hexDigits (n : Nat) : hexValue (hexDigits n) = n := by
  induction n using Nat.strongRecOn with
  | ind n ih =>
    by_cases small : n < 16
    · rw [hexDigits, Nat.toDigits_of_lt_base small]
      simp [hexValue, hexDigitValue_digitChar n small]
    · have front := ih (n / 16) (by omega)
      rw [hexDigits] at front ⊢
      rw [Nat.toDigits_of_base_le (by decide) (by omega), hexValue_append, front,
        hexDigitValue_digitChar _ (Nat.mod_lt n (by decide)), Option.getD_some, Nat.div_add_mod]

/-! ## Quoting -/

theorem charOfCode?_toNat (c : Char) : charOfCode? c.toNat = some c := by
  have valid : c.toNat.isValidChar := c.valid
  rw [charOfCode?, dif_pos valid]
  rfl

/-- The character that a letter after a backslash stands for. -/
def unmarked (letter : Char) : Char :=
  if letter = '0' then '\x00'
  else if letter = 't' then '\t'
  else if letter = 'n' then '\n'
  else if letter = 'r' then '\r'
  else letter

/-- A character is escaped by a letter or by its number, or it is plain and stands for itself. -/
theorem escape_cases (c : Char) :
    (∃ letter, escape c = ['\\', letter] ∧ isVisible letter = true ∧ letter ≠ 'u' ∧ unmarked letter = c) ∨
    (escape c = [c] ∧ isPlain c = true ∧ c ≠ '\\' ∧ c ≠ '"') ∨
    escape c = escapeByNumber c := by
  by_cases lettered : c ∈ ['\x00', '\t', '\n', '\r', '"', '\\']
  · simp only [List.mem_cons, List.not_mem_nil, or_false] at lettered
    rcases lettered with rfl | rfl | rfl | rfl | rfl | rfl
    · exact .inl ⟨'0', rfl, by decide⟩
    · exact .inl ⟨'t', rfl, by decide⟩
    · exact .inl ⟨'n', rfl, by decide⟩
    · exact .inl ⟨'r', rfl, by decide⟩
    · exact .inl ⟨'"', rfl, by decide⟩
    · exact .inl ⟨'\\', rfl, by decide⟩
  · simp only [List.mem_cons, List.not_mem_nil, or_false, not_or] at lettered
    cases plain : isPlain c with
    | true => exact .inr (.inl ⟨by simp [escape, lettered, plain], rfl, by simp [lettered]⟩)
    | false => exact .inr (.inr (by simp [escape, lettered, plain]))

theorem printable_escape (c : Char) : Printable (escape c) := by
  obtain ⟨letter, shape, visible, -⟩ | ⟨shape, plain, -⟩ | shape := escape_cases c
  · rw [shape]
    exact printable_of_visible (by simpa using ⟨by decide, visible⟩)
  · rw [shape]
    exact printable_cons.mpr ⟨plain, printable_nil⟩
  · have digits : Printable (hexDigits c.toNat) := by
      intro d member
      obtain ⟨n, small, rfl⟩ := mem_hexDigits member
      have visible : ∀ n < 16, isVisible (Nat.digitChar n) = true := by decide
      exact isPlain_of_isVisible (visible n small)
    have opened : Printable ['\\', 'u', '\x7b'] := printable_of_visible rfl
    have closed : Printable ['\x7d'] := printable_of_visible rfl
    rw [shape]
    exact printable_append.mpr ⟨printable_append.mpr ⟨opened, digits⟩, closed⟩

theorem printable_quote (s : String) : Printable (quote s).toList := by
  have mark : Printable ['"'] := printable_of_visible rfl
  have inside : Printable (s.toList.flatMap escape) := by
    intro c member
    obtain ⟨d, -, found⟩ := List.mem_flatMap.mp member
    exact printable_escape d c found
  rw [quote, String.toList_ofList]
  exact printable_append.mpr ⟨printable_append.mpr ⟨mark, inside⟩, mark⟩

/-- Takes the first character of an escaped text. -/
def takeEscaped : List Char → Option (Char × List Char)
  | '\\' :: 'u' :: '\x7b' :: rest =>
    (charOfCode? (hexValue (rest.takeWhile (· != '\x7d')))).map fun c =>
      (c, (rest.dropWhile (· != '\x7d')).drop 1)
  | '\\' :: letter :: rest => some (unmarked letter, rest)
  | c :: rest => some (c, rest)
  | [] => none

theorem takeEscaped_escapeByNumber (c : Char) (rest : List Char) :
    takeEscaped (escapeByNumber c ++ rest) = some (c, rest) := by
  have digits : ∀ d ∈ hexDigits c.toNat, (d != '\x7d') = true := by
    intro d member
    obtain ⟨n, small, rfl⟩ := mem_hexDigits member
    have apart : ∀ n < 16, (Nat.digitChar n != '\x7d') = true := by decide
    exact apart n small
  have closed : ∀ d ∈ ('\x7d' :: rest).head?, (d != '\x7d') = false := by
    rintro d ⟨⟩
    rfl
  obtain ⟨taken, left⟩ := span_append digits closed
  have shape : escapeByNumber c ++ rest =
      '\\' :: 'u' :: '\x7b' :: (hexDigits c.toNat ++ '\x7d' :: rest) := by
    simp [escapeByNumber]
  simp [shape, takeEscaped, taken, left, hexValue_hexDigits, charOfCode?_toNat]

theorem takeEscaped_escape (c : Char) (rest : List Char) :
    takeEscaped (escape c ++ rest) = some (c, rest) := by
  obtain ⟨letter, shape, -, notNumber, meant⟩ | ⟨shape, -, notMark, -⟩ | shape := escape_cases c
  · simp [shape, takeEscaped, notNumber, meant]
  · simp [shape, takeEscaped, notMark]
  · rw [shape, takeEscaped_escapeByNumber]

theorem escape_head_ne (c : Char) (rest rest' : List Char) : escape c ++ rest ≠ '"' :: rest' := by
  intro same
  obtain ⟨letter, shape, -⟩ | ⟨shape, -, -, notQuote⟩ | shape := escape_cases c
  · rw [shape] at same
    cases same
  · rw [shape] at same
    exact notQuote (List.cons.inj same).1
  · rw [shape] at same
    cases same

/-- What stands between the quotes is known from its escapes, up to the quote that ends it. -/
theorem escaped_unique {a b r s : List Char}
    (h : a.flatMap escape ++ '"' :: r = b.flatMap escape ++ '"' :: s) : a = b := by
  induction a generalizing b with
  | nil =>
    cases b with
    | nil => rfl
    | cons d b =>
      rw [List.flatMap_cons, List.append_assoc] at h
      exact absurd h.symm (escape_head_ne d _ _)
  | cons c a ih =>
    cases b with
    | nil =>
      rw [List.flatMap_cons, List.append_assoc] at h
      exact absurd h (escape_head_ne c _ _)
    | cons d b =>
      rw [List.flatMap_cons, List.append_assoc, List.flatMap_cons, List.append_assoc] at h
      have taken := congrArg takeEscaped h
      rw [takeEscaped_escape, takeEscaped_escape] at taken
      obtain ⟨rfl, rest⟩ := Prod.mk.inj (Option.some.inj taken)
      rw [ih rest]

theorem quote_injective {s t : String} (h : quote s = quote t) : s = t := by
  have texts := congrArg String.toList h
  simp only [quote, quoteChars, String.toList_ofList, List.cons_append, List.cons.injEq, true_and] at texts
  exact String.toList_inj.mp (escaped_unique texts)

end Text

/-! ## Numbers and instants -/

theorem Number.visible_integerText (n : Int) : (integerText n).toList.all Text.isVisible = true := by
  have digits := Text.visible_digits n.natAbs
  have sign : Text.isVisible '-' = true := rfl
  rw [integerText, String.toList_ofList]
  split <;> simp [digits, sign]

namespace Layout

theorem visible_zeros (n : Nat) : (zeros n).all Text.isVisible = true := by
  have zero : Text.isVisible '0' = true := rfl
  simp [zeros, zero]

theorem visible_positional {digits : List Char} (visible : digits.all Text.isVisible = true)
    (point : Int) : (plain.writePositional digits point).all Text.isVisible = true := by
  have part {cs : List Char} (sub : cs ⊆ digits) : cs.all Text.isVisible = true := by
    apply List.all_eq_true.mpr
    intro c member
    exact List.all_eq_true.mp visible c (sub member)
  have before := part (List.take_subset point.toNat digits)
  have after := part (List.drop_subset point.toNat digits)
  have zero : Text.isVisible '0' = true := rfl
  have dot : Text.isVisible '.' = true := rfl
  unfold writePositional
  dsimp only
  split
  · simp only [List.all_append, List.all_cons, zero, dot, visible_zeros, visible, Bool.and_self]
  split
  · simp only [List.all_append, visible_zeros, visible, Bool.and_self]
    rfl
  · simp only [List.all_append, List.all_cons, before, dot, after, Bool.and_self]

/-- A number written without an exponent is made of digits, a sign and a point, or is a word. -/
theorem visible_plain (x : Binary64) : (plain.write x).toList.all Text.isVisible = true := by
  have sign : (if x.negative then ['-'] else []).all Text.isVisible = true := by
    cases x.negative <;> rfl
  have magnitude : (plain.magnitude x).all Text.isVisible = true := by
    unfold magnitude
    split
    · rfl
    · exact visible_positional (Text.visible_digits _) _
  unfold write
  dsimp only
  split
  · rw [String.toList_ofList, List.all_append, sign, magnitude, Bool.and_self]
  split
  · rw [String.toList_ofList, List.all_append, sign, Bool.true_and]
    rfl
  · decide

end Layout

namespace Instant

theorem visible_padded (width n : Nat) : (padded width n).all Text.isVisible = true := by
  have digits := Text.visible_digits n
  have zero : Text.isVisible '0' = true := rfl
  simp [padded, digits, zero]

theorem visible_year (year : Int) : (writeYear year).all Text.isVisible = true := by
  unfold writeYear
  split
  · exact visible_padded 4 _
  · have sign : Text.isVisible (if year < 0 then '-' else '+') = true := by split <;> rfl
    rw [List.all_cons, sign, visible_padded, Bool.and_self]

theorem visible_fraction (nano : Nat) : (writeFraction nano).all Text.isVisible = true := by
  have dot : Text.isVisible '.' = true := rfl
  unfold writeFraction
  split
  · rfl
  split
  · rw [List.all_cons, dot, visible_padded, Bool.and_self]
  split
  · rw [List.all_cons, dot, visible_padded, Bool.and_self]
  · rw [List.all_cons, dot, visible_padded, Bool.and_self]

theorem visible_text (i : Instant) : i.text.toList.all Text.isVisible = true := by
  have marks : ['-', ':', 'T', 'Z'].all Text.isVisible = true := rfl
  simp only [List.all_cons, List.all_nil, Bool.and_true, Bool.and_eq_true] at marks
  simp only [text, toChars, String.toList_ofList, List.all_append, List.all_cons, List.all_nil, visible_year,
    visible_padded, visible_fraction, marks, Bool.and_self]

end Instant

/-! ## Literals and parameters -/

theorem Number.printable_text (n : Number) : Text.Printable n.text.toList := by
  cases n with
  | integer n => exact Text.printable_of_visible (visible_integerText n)
  | decimal x => exact Text.printable_of_visible (Layout.visible_plain x)

theorem Literal.printable_boolean (b : Bool) : Text.Printable (booleanText b).toList := by
  cases b <;> exact Text.printable_of_visible (by decide)

theorem Literal.printable_shown (l : Literal) : Text.Printable l.shown.toList := by
  cases l with
  | text s => exact Text.printable_quote s
  | number n => exact n.printable_text
  | boolean b => exact printable_boolean b
  | timestamp raw instant => exact Text.printable_quote raw

theorem Parameter.printable_shown (p : Parameter) : Text.Printable p.shown.toList := by
  cases p with
  | text s => exact Text.printable_quote s
  | number n => exact n.printable_text
  | boolean b => exact Literal.printable_boolean b
  | timestamp instant => exact Text.printable_of_visible instant.visible_text

/-! ## Literals shown alike -/

theorem Number.integerText_injective {m n : Int} (h : integerText m = integerText n) : m = n := by
  have texts := congrArg String.toList h
  have same (digits : Nat.toDigits 10 m.natAbs = Nat.toDigits 10 n.natAbs) : m.natAbs = n.natAbs := by
    rw [← digitsValue_toDigits m.natAbs, digits, digitsValue_toDigits]
  have unsigned (k : Nat) (rest : List Char) : '-' :: rest ≠ Nat.toDigits 10 k := by
    intro shape
    have digit := isDigit_of_mem_toDigits k '-' (by simp [← shape])
    cases digit
  simp only [integerText, String.toList_ofList] at texts
  split at texts <;> split at texts
  · have := same (List.cons.inj texts).2
    omega
  · exact absurd texts (unsigned _ _)
  · exact absurd texts.symm (unsigned _ _)
  · have := same texts
    omega

theorem Number.integerText_first (n : Int) :
    ∃ c cs, (integerText n).toList = c :: cs ∧ (c == '-' || c.isDigit) = true := by
  rw [integerText, String.toList_ofList]
  split
  · exact ⟨'-', _, rfl, rfl⟩
  · obtain ⟨c, cs, shape⟩ := List.exists_cons_of_ne_nil (Nat.toDigits_ne_nil (n := n.natAbs) (b := 10))
    have digit := isDigit_of_mem_toDigits n.natAbs c (by simp [shape])
    exact ⟨c, cs, shape, by simp [digit]⟩

namespace Literal

def isDecimal : Literal → Bool
  | number (.decimal _) => true
  | _ => false

theorem exists_quoted {l : Literal} (lexable : l.Lexable) (quoted : l.isTextual = true) :
    ∃ s, l = ofQuoted s ∧ l.shown = Text.quote s := by
  cases l with
  | text s => exact ⟨s, (ofQuoted_of_undated lexable).symm, rfl⟩
  | timestamp raw instant => exact ⟨raw, (ofQuoted_of_dated lexable).symm, rfl⟩
  | number n => cases quoted
  | boolean b => cases quoted

theorem exists_integer {l : Literal} (whole : l.isDecimal = false) (bare : l.isTextual ≠ true)
    (untrue : ¬ ∃ b, l = boolean b) : ∃ n, l = number (.integer n) := by
  cases l with
  | text s => exact absurd rfl bare
  | timestamp raw instant => exact absurd rfl bare
  | boolean b => exact absurd ⟨b, rfl⟩ untrue
  | number n =>
    cases n with
    | integer n => exact ⟨n, rfl⟩
    | decimal x => cases whole

/-- The first character tells quoted literals, truth values and numbers apart. -/
theorem shown_first {l : Literal} (whole : l.isDecimal = false) :
    ∃ c cs, l.shown.toList = c :: cs ∧ (l.isTextual = true ↔ c = '"') ∧
      ((∃ b, l = boolean b) ↔ c = 't' ∨ c = 'f') := by
  have quote_first (s : String) : ∃ cs, (Text.quote s).toList = '"' :: cs :=
    ⟨_, by rw [Text.quote, String.toList_ofList, Text.quoteChars, List.cons_append]⟩
  cases l with
  | text s =>
    obtain ⟨cs, shape⟩ := quote_first s
    exact ⟨'"', cs, shape, by simp [isTextual], by simp⟩
  | timestamp raw instant =>
    obtain ⟨cs, shape⟩ := quote_first raw
    exact ⟨'"', cs, shape, by simp [isTextual], by simp⟩
  | boolean b =>
    cases b with
    | true => exact ⟨'t', _, rfl, by simp [isTextual], by simp⟩
    | false => exact ⟨'f', _, rfl, by simp [isTextual], by simp⟩
  | number n =>
    cases n with
    | decimal x => cases whole
    | integer n =>
      obtain ⟨c, cs, shape, first⟩ := Number.integerText_first n
      have apart : c ≠ '"' ∧ c ≠ 't' ∧ c ≠ 'f' := by
        refine ⟨?_, ?_, ?_⟩ <;> rintro rfl <;> cases first
      exact ⟨c, cs, shape, by simp [isTextual, apart], by simp [apart]⟩

/-- Literals that are no decimals are shown alike only if they are the same. -/
theorem shown_injective {a b : Literal} (ha : a.Lexable) (hb : b.Lexable) (wholeA : a.isDecimal = false)
    (wholeB : b.isDecimal = false) (h : a.shown = b.shown) : a = b := by
  obtain ⟨c, cs, shapeA, quotedA, truthA⟩ := shown_first wholeA
  obtain ⟨d, ds, shapeB, quotedB, truthB⟩ := shown_first wholeB
  rw [h, shapeB] at shapeA
  obtain ⟨rfl, -⟩ := List.cons.inj shapeA
  by_cases quoted : a.isTextual = true
  · obtain ⟨s, rfl, shownA⟩ := exists_quoted ha quoted
    obtain ⟨t, rfl, shownB⟩ := exists_quoted hb (quotedB.mpr (quotedA.mp quoted))
    rw [shownA, shownB] at h
    rw [Text.quote_injective h]
  by_cases truth : ∃ v, a = boolean v
  · obtain ⟨w, rfl⟩ := truthB.mpr (truthA.mp truth)
    obtain ⟨v, rfl⟩ := truth
    have apart : booleanText true ≠ booleanText false := by decide
    cases v <;> cases w
    · rfl
    · exact absurd h.symm apart
    · exact absurd h apart
    · rfl
  · obtain ⟨m, rfl⟩ := exists_integer wholeA quoted truth
    have bare : b.isTextual ≠ true := fun textual => quoted (quotedA.mpr (quotedB.mp textual))
    have untrue : ¬ ∃ w, b = boolean w := fun found => truth (truthA.mpr (truthB.mp found))
    obtain ⟨n, rfl⟩ := exists_integer wholeB bare untrue
    rw [Number.integerText_injective h]

end Literal

end FilterSql
